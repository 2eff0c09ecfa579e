import Mathlib.Algebra.Ring.Nat
import SqlRecords.Proofs.Dialect.Slices
import SqlRecords.Proofs.Query.Counting
import SqlRecords.Query.Page

/-! The pages of a query cut its result into pieces that follow each other, and every dialect cuts
at the same rows. -/
namespace SqlRecords

namespace Pagination

theorem le_totalPages_mul (totalRows : Nat) {perPage : Nat} (h : 0 < perPage) (page : Nat) :
    totalRows ≤ (ofCount totalRows perPage page).totalPages * perPage := by
  have hpages : (ofCount totalRows perPage page).totalPages =
      (totalRows + perPage - 1) / perPage := if_neg (by omega)
  have hbound := Nat.lt_mul_div_succ (totalRows + perPage - 1) h
  rw [hpages]
  rw [Nat.mul_comm, Nat.add_mul, Nat.one_mul] at hbound
  omega

/-- No page is counted that would begin behind the last row. -/
theorem totalPages_mul_lt (totalRows : Nat) {perPage : Nat} (h : 0 < perPage) (page : Nat) :
    (ofCount totalRows perPage page).totalPages * perPage < totalRows + perPage := by
  have hpages : (ofCount totalRows perPage page).totalPages =
      (totalRows + perPage - 1) / perPage := if_neg (by omega)
  have hbound := Nat.div_mul_le_self (totalRows + perPage - 1) perPage
  rw [hpages]
  omega

end Pagination

/-- The rows that begin where the offset of a page says. -/
def pageAt {α : Type} (rows : List α) (perPage page : Nat) : List α :=
  (rows.drop (pageOffset perPage page)).take perPage

/-- The rows of one page. -/
def pageOf {α : Type} (rows : List α) (perPage page : Nat) : List α :=
  (rows.drop ((max page 1 - 1) * perPage)).take perPage

section
variable {α : Type} (rows : List α) (perPage : Nat)

theorem pageAt_eq_pageOf {page : Nat} (h : (max page 1 - 1) * perPage < 2 ^ 64) :
    pageAt rows perPage page = pageOf rows perPage page := by
  rw [pageAt, pageOf, pageOffset_of_lt h]

theorem pageOf_succ (i : Nat) :
    pageOf rows perPage (i + 1) = (rows.drop (i * perPage)).take perPage := by
  have hfirst : max (i + 1) 1 - 1 = i := by omega
  rw [pageOf, hfirst]

theorem length_pageOf (i : Nat) :
    (pageOf rows perPage (i + 1)).length = min perPage (rows.length - i * perPage) := by
  rw [pageOf_succ, List.length_take, List.length_drop]

/-- The first pages are the first rows. -/
theorem flatMap_pageOf (n : Nat) :
    (List.range n).flatMap (fun i => pageOf rows perPage (i + 1)) = rows.take (n * perPage) := by
  induction n with
  | zero => simp
  | succ n ih =>
    rw [List.range_succ, List.flatMap_append, ih, List.flatMap_singleton, pageOf_succ,
      Nat.succ_mul, List.take_add]

/-- All pages that are counted hold all rows, and each but the last is full. -/
theorem pages_of_totalPages {perPage : Nat} (h : 0 < perPage) (page : Nat) :
    let total := (Pagination.ofCount rows.length perPage page).totalPages
    (List.range total).flatMap (fun i => pageOf rows perPage (i + 1)) = rows ∧
    (∀ p, 1 ≤ p → p < total → (pageOf rows perPage p).length = perPage) ∧
    (0 < total → pageOf rows perPage total ≠ []) ∧
    ∀ p, total < p → pageOf rows perPage p = [] := by
  intro total
  have hall : rows.length ≤ total * perPage := Pagination.le_totalPages_mul rows.length h page
  have hlast : total * perPage < rows.length + perPage :=
    Pagination.totalPages_mul_lt rows.length h page
  refine ⟨?_, ?_, ?_, ?_⟩
  · rw [flatMap_pageOf, List.take_of_length_le hall]
  · intro p hp hlt
    obtain ⟨i, rfl⟩ : ∃ i, p = i + 1 := ⟨p - 1, by omega⟩
    have hnext : (i + 2) * perPage ≤ total * perPage := Nat.mul_le_mul_right perPage hlt
    rw [Nat.add_mul] at hnext
    rw [length_pageOf]
    omega
  · intro hsome hnil
    obtain ⟨i, hi⟩ : ∃ i, total = i + 1 := ⟨total - 1, by omega⟩
    rw [hi, Nat.succ_mul] at hlast
    have hlength := congrArg List.length hnil
    rw [hi, length_pageOf, List.length_nil] at hlength
    omega
  · intro p hlt
    obtain ⟨i, rfl⟩ : ∃ i, p = i + 1 := ⟨p - 1, by omega⟩
    have hbehind : total * perPage ≤ i * perPage := Nat.mul_le_mul_right perPage (by omega)
    apply List.eq_nil_of_length_eq_zero
    rw [length_pageOf]
    omega

end

namespace Query

/-- A query without its page. -/
def unpaged (q : Query) : Query := { q with limit := none, offset := none }

/-- The paging clause of a query that stands by itself. -/
def pageClause (q : Query) : String :=
  q.dialect.pagingClause q.limit q.offset (!q.pageOrder.isEmpty)

/-- The rows that a query selects of the ordered result, by the rules of its dialect. -/
def select? {α : Type} (q : Query) (rows : List α) : Option (List α) :=
  (q.dialect.readPaging? (!q.pageOrder.isEmpty) q.pageClause).map (·.of rows)

theorem clauses_outermost (q : Query) (d : Dialect) :
    q.clauses d .outermost =
      (q.unpaged.clauses d .outermost).map fun c => { c with paging := q.pageClause } := by
  obtain ⟨own, dataSource, source, columns, additional, distinct, joins, predicate, weights,
    groupBy, orderBy, limit, offset, payload, returning⟩ := q
  cases source with
  | none => rfl
  | some source =>
    unfold clauses
    dsimp only [unpaged]
    cases Weight.sqls d weights with
    | error e => rfl
    | ok scores =>
    cases source.sql d with
    | error e => rfl
    | ok sourceSql =>
    cases Join.sqls d joins with
    | error e => rfl
    | ok joinSqls => cases Token.lexemes d predicate <;> rfl

theorem paging_of_unpaged {q : Query} {d : Dialect} {place : Place} {c : Clauses}
    (h : q.unpaged.clauses d place = .ok c) : c.paging = "" := by
  obtain ⟨_, _, _, _, _, -, -, -, -, -, rfl⟩ := clauses_eq_ok_iff.mp h
  exact Dialect.pagingClause_unpaged q.dialect (!(q.unpaged.orderAt place).isEmpty)

/-- A page is written behind the statement of all rows. -/
theorem selectStatement_paged (q : Query) :
    q.selectStatement =
      q.unpaged.selectStatement.map fun s => { s with sql := s.sql ++ q.pageClause } := by
  rw [selectStatement_eq, selectStatement_eq, clauses_outermost]
  show _ = Except.map _ (Except.map _ (q.unpaged.clauses q.dialect .outermost))
  cases hc : q.unpaged.clauses q.dialect .outermost with
  | error e => rfl
  | ok c =>
    simp only [Except.map, paging_of_unpaged hc, String.append_empty, ← String.append_assoc]
    rfl

theorem select?_eq (q : Query) {α : Type} {rows : List α} (h : rows.length < 2 ^ 64) :
    q.select? rows =
      some ((rows.drop (q.offset.getD 0)).take (q.limit.getD rows.length)) := by
  have hrows : rows.length ≤ Dialect.unlimited := Nat.le_of_lt_succ h
  rw [select?, pageClause, Dialect.readPaging?_pagingClause, Option.map_some,
    Dialect.of_sliceOf _ _ _ hrows]

/-- Pages of a query, read from its text in its dialect. Those that are counted follow each other
through the whole result, all but the last are full and the last has rows; behind them there is
nothing, as far as offsets go, and page zero is the first. All limits and offsets select the same
rows in every dialect. -/
theorem pages_partition_result (q : Query) {α : Type} (rows : List α) (perPage page : Nat)
    (hrows : rows.length < 2 ^ 64) (hperPage : 0 < perPage) :
    let total := (Pagination.ofCount rows.length perPage page).totalPages
    ∃ pages : Nat → List α,
      (∀ p, (q.forPage perPage p).selectStatement = (q.unpaged.selectStatement.map fun s =>
          { s with sql := s.sql ++ (q.forPage perPage p).pageClause }) ∧
        (q.forPage perPage p).select? rows = some (pages p)) ∧
      (List.range total).flatMap (fun i => pages (i + 1)) = rows ∧
      (∀ p, 1 ≤ p → p < total → (pages p).length = perPage) ∧
      (0 < total → pages total ≠ []) ∧
      (∀ p, total < p → (p - 1) * perPage < 2 ^ 64 → pages p = []) ∧
      pages 0 = pages 1 ∧
      ∀ limit offset, ∃ slice, ∀ r : Query, r.limit = limit → r.offset = offset →
        r.select? rows = some slice := by
  intro total
  obtain ⟨hall, hfull, hlast, hbehind⟩ := pages_of_totalPages rows hperPage page
  have hbound : total * perPage < rows.length + perPage :=
    Pagination.totalPages_mul_lt rows.length hperPage page
  have hbefore {p : Nat} (hp : 1 ≤ p) (hle : p ≤ total) : (max p 1 - 1) * perPage < 2 ^ 64 := by
    obtain ⟨i, rfl⟩ : ∃ i, p = i + 1 := ⟨p - 1, by omega⟩
    have hmul : (i + 1) * perPage ≤ total * perPage := Nat.mul_le_mul_right perPage hle
    rw [Nat.succ_mul] at hmul
    rw [show max (i + 1) 1 - 1 = i by omega]
    omega
  refine ⟨pageAt rows perPage, fun p => ⟨?_, ?_⟩, ?_, ?_, ?_, ?_, rfl, ?_⟩
  · exact selectStatement_paged (q.forPage perPage p)
  · exact select?_eq _ hrows
  · refine Eq.trans ?_ hall
    refine congrArg List.flatten (List.map_congr_left fun i hi => ?_)
    exact pageAt_eq_pageOf rows perPage (hbefore (by omega) (List.mem_range.mp hi))
  · intro p hp hlt
    rw [pageAt_eq_pageOf rows perPage (hbefore hp (Nat.le_of_lt hlt))]
    exact hfull p hp hlt
  · intro hsome
    rw [pageAt_eq_pageOf rows perPage (hbefore hsome (Nat.le_refl total))]
    exact hlast hsome
  · intro p hlt hfits
    have hpositive : max p 1 = p := Nat.max_eq_left (Nat.one_le_of_lt hlt)
    rw [← hpositive] at hfits
    rw [pageAt_eq_pageOf rows perPage hfits]
    exact hbehind p hlt
  · intro limit offset
    refine ⟨(rows.drop (offset.getD 0)).take (limit.getD rows.length), ?_⟩
    intro r hlimit hoffset
    rw [select?_eq r hrows, hlimit, hoffset]

def players : Query := (empty .mssql none).table "players"

def fivePlayers : List String := ["Ann", "Bob", "Cid", "Dot", "Eve"]

/-- In pages of two, the third one is left with one player and brings a neutral order with it. -/
theorem players_partitioned : fivePlayers.length < 2 ^ 64 ∧ 0 < 2 ∧
    (players.forPage 2 3).pageClause =
      " ORDER BY (SELECT NULL) OFFSET 4 ROWS FETCH NEXT 2 ROWS ONLY" ∧
    ∃ pages : Nat → List String, (∀ p, (players.forPage 2 p).select? fivePlayers = some (pages p)) ∧
      pages 1 ++ (pages 2 ++ pages 3) = fivePlayers ∧ (pages 2).length = 2 ∧ pages 3 ≠ [] ∧
      pages 4 = [] := by
  have hrows : fivePlayers.length < 2 ^ 64 := by decide
  have htotal : (Pagination.ofCount fivePlayers.length 2 0).totalPages = 3 := by decide
  obtain ⟨pages, hpages, hall, hfull, hlast, hbehind, -⟩ :=
    pages_partition_result players fivePlayers 2 0 hrows (by decide)
  rw [htotal] at hall hfull hlast hbehind
  refine ⟨hrows, by decide, by decide +kernel, pages, fun p => (hpages p).2, ?_, ?_, ?_, ?_⟩
  · simpa [List.range_succ] using hall
  · exact hfull 2 (by decide) (by decide)
  · exact hlast (by decide)
  · exact hbehind 4 (by decide) (by decide)

end Query
end SqlRecords
