import SqlRecords.Dialect.Paging
import SqlRecords.Proofs.Dialect.Escaping
import SqlRecords.Proofs.Text.Agreement

/-! A field and a page as two dialects write them. -/
namespace SqlRecords
open Text

/-- The names in a field. -/
def FieldName.names (f : FieldName) : List String :=
  f.reference.segments ++ f.label.elim [] Reference.segments

namespace Dialect

/-- Whether a reserved word is a name in a field. -/
def NamesReserved (field : String) : Prop :=
  ∃ f : FieldName, f.Spells field ∧ ∃ s ∈ f.names, IsReservedWord s

theorem openingQuote_injective : Function.Injective openingQuote := by
  intro d e h
  cases d <;> cases e <;> first | rfl | cases h

theorem agreeIff_escapeSegment {d e : Dialect} (hne : d ≠ e) (s : String) :
    AgreeIff (¬ IsReservedWord s) (d.escapeSegment s) (e.escapeSegment s) := by
  have hd := d.escapes_escapeSegment s
  have he := e.escapes_escapeSegment s
  generalize d.escapeSegment s = out at hd ⊢
  generalize e.escapeSegment s = out' at he ⊢
  cases hd with
  | other h =>
    cases he with
    | other => exact (AgreeIff.refl s).congr (by simp [h])
    | reserved h' => exact absurd h' h
  | reserved h =>
    cases he with
    | other h' => exact absurd h h'
    | reserved =>
      have hquote (d : Dialect) : (d.quoteIdentifier s).toList[0]? = some d.openingQuote := by
        simp [quoteIdentifier, quoted]
      exact (AgreeIff.of_getElem?_ne 0 _ _ (hquote d) (hquote e)
        (openingQuote_injective.ne hne)).congr (by simp [h])

theorem agreeIff_dotted {d e : Dialect} (hne : d ≠ e) (segments : List String) :
    AgreeIff (∀ s ∈ segments, ¬ IsReservedWord s) (dotted (segments.map d.escapeSegment))
      (dotted (segments.map e.escapeSegment)) :=
  AgreeIff.intercalate "." (Each.map (agreeIff_escapeSegment hne) segments)

theorem agreeIff_escaped {d e : Dialect} (hne : d ≠ e) (f : FieldName) :
    AgreeIff (∀ s ∈ f.names, ¬ IsReservedWord s) (f.escaped d) (f.escaped e) := by
  obtain ⟨r, label⟩ := f
  have hreference := agreeIff_dotted hne r.segments
  unfold FieldName.names FieldName.escaped
  cases label with
  | none => exact (hreference.followed "").congr (by simp)
  | some label =>
    have hlabel := (agreeIff_dotted hne label.segments).prepend " AS "
    exact (hreference.append hlabel).congr (List.forall_mem_append ..).symm

/-- Two dialects write a field alike if no reserved word is a name in it. -/
theorem agreeIff_escapeIdentifier {d e : Dialect} (hne : d ≠ e) (field : String) :
    AgreeIff (¬ NamesReserved field) (d.escapeIdentifier field) (e.escapeIdentifier field) := by
  rw [FieldName.escapeIdentifier_eq, FieldName.escapeIdentifier_eq]
  cases h : FieldName.ofText? field with
  | some f =>
    refine (agreeIff_escaped hne f).congr ⟨?_, fun hnone s hs hreserved => ?_⟩
    · rintro hplain ⟨f', hf', s, hs, hreserved⟩
      rw [← FieldName.ofText?_eq_some_iff, h] at hf'
      cases hf'
      exact hplain s hs hreserved
    · exact hnone ⟨f, FieldName.ofText?_eq_some_iff.mp h, s, hs, hreserved⟩
  | none =>
    refine (AgreeIff.refl _).congr (iff_of_true trivial ?_)
    rintro ⟨f, hf, -⟩
    rw [← FieldName.ofText?_eq_some_iff, h] at hf
    cases hf

/-- MySQL and PostgreSQL cut the same pages, but MySQL needs a limit where there is an offset. -/
theorem agreeIff_mysql_postgres {limit offset : Option Nat}
    (hpaged : (limit.isSome || offset.isSome) = true) (ordered : Bool) :
    AgreeIff (limit.isSome = true) (mysql.pagingClause limit offset ordered ++ ")")
      (postgres.pagingClause limit offset ordered ++ ")") := by
  cases limit with
  | some n =>
    have hsame : mysql.pagingClause (some n) offset ordered =
        postgres.pagingClause (some n) offset ordered := by
      cases offset <;> simp [pagingClause, String.append_assoc]
    exact hsame ▸ (AgreeIff.refl _).congr (iff_of_true trivial rfl)
  | none =>
    cases offset with
    | none => cases hpaged
    | some m =>
      refine (AgreeIff.of_getElem?_ne 1 'L' 'O' ?_ ?_ (by decide)).congr
        (iff_of_false id Bool.false_ne_true)
      · simp [pagingClause]
      · simp [pagingClause]

/-- A page on SQL Server begins unlike one on MySQL. -/
theorem agreeIff_mssql_mysql {limit offset : Option Nat}
    (hpaged : (limit.isSome || offset.isSome) = true) (ordered : Bool) :
    AgreeIff False (mssql.pagingClause limit offset ordered ++ ")")
      (mysql.pagingClause limit offset ordered ++ ")") := by
  refine AgreeIff.of_getElem?_ne 1 'O' 'L' ?_ ?_ (by decide)
  · cases limit <;> cases offset <;> cases ordered <;> simp [pagingClause] at hpaged ⊢
  · cases limit <;> cases offset <;> simp [pagingClause] at hpaged ⊢

/-- A page on SQL Server begins unlike one on PostgreSQL, or goes on where that one ends. -/
theorem agreeIff_mssql_postgres {limit offset : Option Nat}
    (hpaged : (limit.isSome || offset.isSome) = true) (ordered : Bool) :
    AgreeIff False (mssql.pagingClause limit offset ordered ++ ")")
      (postgres.pagingClause limit offset ordered ++ ")") := by
  cases limit with
  | some n =>
    refine AgreeIff.of_getElem?_ne 1 'O' 'L' ?_ ?_ (by decide)
    · cases offset <;> cases ordered <;> simp [pagingClause]
    · cases offset <;> simp [pagingClause]
  | none =>
    cases offset with
    | none => cases hpaged
    | some m =>
      cases ordered with
      | false =>
        refine AgreeIff.of_getElem?_ne 2 'R' 'F' ?_ ?_ (by decide)
        · simp [pagingClause]
        · simp [pagingClause]
      | true =>
        have hmssql : mssql.pagingClause none (some m) true ++ ")" =
            " OFFSET " ++ toString m ++ " ROWS)" := by
          simp [pagingClause, String.append_assoc]
        have hpostgres : postgres.pagingClause none (some m) true ++ ")" =
            " OFFSET " ++ toString m ++ ")" := by
          simp [pagingClause, String.append_assoc]
        rw [hmssql, hpostgres]
        exact (AgreeIff.of_getElem?_ne 0 ' ' ')' rfl rfl (by decide)).prepend _

/-- Pages agree in two dialects if neither of them is SQL Server's and there is a limit. -/
theorem agreeIff_pagingClause {d e : Dialect} (hne : d ≠ e) {limit offset : Option Nat}
    (hpaged : (limit.isSome || offset.isSome) = true) (ordered : Bool) :
    AgreeIff (d ≠ .mssql ∧ e ≠ .mssql ∧ limit.isSome = true)
      (d.pagingClause limit offset ordered ++ ")")
      (e.pagingClause limit offset ordered ++ ")") := by
  cases d <;> cases e <;> first | exact absurd rfl hne | skip
  · exact (agreeIff_mssql_mysql hpaged ordered).symm.congr (by simp)
  · exact (agreeIff_mysql_postgres hpaged ordered).congr (by simp)
  · exact (agreeIff_mssql_mysql hpaged ordered).congr (by simp)
  · exact (agreeIff_mssql_postgres hpaged ordered).congr (by simp)
  · exact (agreeIff_mysql_postgres hpaged ordered).symm.congr (by simp)
  · exact (agreeIff_mssql_postgres hpaged ordered).symm.congr (by simp)

end Dialect
end SqlRecords
