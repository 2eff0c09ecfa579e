import SqlRecords.Query.Basic

/-! Pages of a result, counted from one. -/
namespace SqlRecords

/-- Where one page stands in a result. -/
structure Pagination where
  totalRows : Nat
  perPage : Nat
  page : Nat
  totalPages : Nat
  deriving DecidableEq, Repr

/-- The number of pages is rounded up; there is none when a page holds no row. -/
def Pagination.ofCount (totalRows perPage page : Nat) : Pagination where
  totalRows := totalRows
  perPage := perPage
  page := page
  totalPages := if perPage = 0 then 0 else (totalRows + perPage - 1) / perPage

/-- How many rows stand before a page, as far as 64 bits hold the number. Page zero is the first
one. -/
def pageOffset (perPage page : Nat) : Nat := (max page 1 - 1) * perPage % UInt64.size

theorem pageOffset_of_lt {perPage page : Nat} (h : (max page 1 - 1) * perPage < UInt64.size) :
    pageOffset perPage page = (max page 1 - 1) * perPage := Nat.mod_eq_of_lt h

/-- Restricts a query to one page. -/
def Query.forPage (q : Query) (perPage page : Nat) : Query :=
  { q with limit := some perPage, offset := some (pageOffset perPage page) }

end SqlRecords
