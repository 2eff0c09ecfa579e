import SqlRecords.Dialect.Paging
import SqlRecords.Proofs.Text.Reading

/-! Paging clauses read back, each by the rules of its dialect, as a slice of the ordered result.
Which numbers a server admits is no part of the reading: they are taken as they stand. -/
namespace SqlRecords

/-- A slice of a result: the rows that are left out in front, and the most that are kept. -/
structure Slice where
  skip : Nat
  take : Option Nat
  deriving DecidableEq

def Slice.of {α : Type} (s : Slice) (rows : List α) : List α :=
  s.take.elim (rows.drop s.skip) fun n => (rows.drop s.skip).take n

namespace Dialect
open Text

def number? (word : String) : Option Nat := digits? word.toList

/-- LIMIT may have an OFFSET behind it. -/
def limitClause? : List String → Option Slice
  | ["LIMIT", n] => do return ⟨0, some (← number? n)⟩
  | ["LIMIT", n, "OFFSET", k] => do return ⟨← number? k, some (← number? n)⟩
  | _ => none

/-- LIMIT and OFFSET stand by themselves or together. -/
def limitOrOffset? : List String → Option Slice
  | ["OFFSET", k] => do return ⟨← number? k, none⟩
  | ws => limitClause? ws

/-- OFFSET may have a FETCH behind it. -/
def offsetClause? : List String → Option Slice
  | ["OFFSET", k, "ROWS"] => do return ⟨← number? k, none⟩
  | ["OFFSET", k, "ROWS", "FETCH", "NEXT", n, "ROWS", "ONLY"] =>
    do return ⟨← number? k, some (← number? n)⟩
  | _ => none

/-- OFFSET belongs to an ORDER BY, which stands here unless one is written before. -/
def orderedOffset? (ordered : Bool) : List String → Option Slice
  | "ORDER" :: "BY" :: "(SELECT" :: "NULL)" :: ws => if ordered then none else offsetClause? ws
  | ws => if ordered then offsetClause? ws else none

/-- The slice that a paging clause selects. Nothing is cut where no clause is written. -/
def readPaging? (d : Dialect) (ordered : Bool) (clause : String) : Option Slice :=
  match words clause with
  | [] => some ⟨0, none⟩
  | ws =>
    match d with
    | .mysql => limitClause? ws
    | .postgres => limitOrOffset? ws
    | .mssql => orderedOffset? ordered ws

theorem number?_toString (n : Nat) : number? (toString n) = some n := digits?_toString n

/-- The words of a paging clause. -/
def pagingWords (d : Dialect) (limit offset : Option Nat) (ordered : Bool) : List String :=
  match d, limit, offset with
  | _, none, none => []
  | .mssql, limit, offset =>
    (if ordered then [] else ["ORDER", "BY", "(SELECT", "NULL)"])
      ++ ["OFFSET", toString (offset.getD 0), "ROWS"]
      ++ limit.elim [] fun n => ["FETCH", "NEXT", toString n, "ROWS", "ONLY"]
  | .mysql, limit, none => ["LIMIT", toString (limit.getD unlimited)]
  | .mysql, limit, some k => ["LIMIT", toString (limit.getD unlimited), "OFFSET", toString k]
  | .postgres, limit, offset =>
    limit.elim [] (fun n => ["LIMIT", toString n])
      ++ offset.elim [] fun k => ["OFFSET", toString k]

theorem pagingClause_eq_spaced (d : Dialect) (limit offset : Option Nat) (ordered : Bool) :
    d.pagingClause limit offset ordered = spaced (d.pagingWords limit offset ordered) := by
  apply String.toList_inj.mp
  cases d <;> cases limit <;> cases offset <;> cases ordered <;>
    simp [pagingClause, pagingWords, spaced]

theorem isWord_of_mem_pagingWords {d : Dialect} {limit offset : Option Nat} {ordered : Bool}
    {w : String} (h : w ∈ d.pagingWords limit offset ordered) : isWord w = true := by
  have hkeyword : ∀ k ∈ ["ORDER", "BY", "(SELECT", "NULL)", "OFFSET", "ROWS", "FETCH", "NEXT",
      "ONLY", "LIMIT"], isWord k = true := by decide +kernel
  have hnumeral (n : Nat) : isWord n.repr = true := isWord_toString n
  revert w
  simp only [List.forall_mem_cons] at hkeyword
  cases d <;> cases limit <;> cases offset <;> cases ordered <;>
    simp [pagingWords, hkeyword, hnumeral]

theorem words_pagingClause (d : Dialect) (limit offset : Option Nat) (ordered : Bool) :
    words (d.pagingClause limit offset ordered) = d.pagingWords limit offset ordered := by
  rw [pagingClause_eq_spaced]
  exact words_spaced fun _ => isWord_of_mem_pagingWords

/-- Where an offset stands without a limit, MySQL has the largest limit that it takes. -/
def sliceOf (d : Dialect) (limit offset : Option Nat) : Slice where
  skip := offset.getD 0
  take := if d = .mysql ∧ offset.isSome then some (limit.getD unlimited) else limit

theorem readPaging?_pagingClause (d : Dialect) (limit offset : Option Nat) (ordered : Bool) :
    d.readPaging? ordered (d.pagingClause limit offset ordered) =
      some (d.sliceOf limit offset) := by
  have hnumeral (n : Nat) : number? n.repr = some n := number?_toString n
  unfold readPaging?
  rw [words_pagingClause]
  cases d <;> cases limit <;> cases offset <;> cases ordered <;>
    simp [pagingWords, limitClause?, limitOrOffset?, offsetClause?, orderedOffset?,
      sliceOf, hnumeral]

example : mysql.readPaging? true " LIMIT 25 OFFSET 50" = some ⟨50, some 25⟩ := by decide +kernel

/-- A second order is not taken. -/
example : mssql.readPaging? true " ORDER BY (SELECT NULL) OFFSET 1 ROWS" = none := by
  decide +kernel

/-- Every dialect selects the same slice of a result that is shorter than MySQL's largest limit. -/
theorem of_sliceOf (d : Dialect) (limit offset : Option Nat) {α : Type} {rows : List α}
    (h : rows.length ≤ unlimited) :
    (d.sliceOf limit offset).of rows =
      (rows.drop (offset.getD 0)).take (limit.getD rows.length) := by
  have hall (k n : Nat) (hn : rows.length ≤ n) : (rows.drop k).take n = rows.drop k := by
    apply List.take_of_length_le
    rw [List.length_drop]
    omega
  unfold sliceOf Slice.of
  cases limit with
  | some n => split <;> rfl
  | none =>
    show Option.elim (if _ then some unlimited else none) _ _ = List.take rows.length _
    rw [hall _ _ (Nat.le_refl _)]
    split
    · exact hall _ _ h
    · rfl

end Dialect
end SqlRecords
