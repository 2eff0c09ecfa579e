import SqlRecords.Proofs.Dialect.Agreement
import SqlRecords.Proofs.Query.Clauses
import SqlRecords.Proofs.Query.Counting

/-! The order and the page of a SELECT inside a statement, as two dialects write them. -/
namespace SqlRecords
open Text

theorem isEmpty_orderEntries (d : Dialect) (ranked : Bool) (entries : List (String × Direction)) :
    (orderEntries d ranked entries).isEmpty = (!ranked && entries.isEmpty) := by
  cases ranked <;> cases entries <;> rfl

/-- Orders agree if no reserved word is a name in a column of them. -/
theorem agreeIff_orderText {d e : Dialect} (hne : d ≠ e) (ranked : Bool)
    (entries : List (String × Direction)) :
    AgreeIff (∀ entry ∈ entries, ¬ Dialect.NamesReserved entry.1)
      (orderText (orderEntries d ranked entries)) (orderText (orderEntries e ranked entries)) := by
  have hown := Each.map (R := AgreeIff)
    (P := fun entry : String × Direction => ¬ Dialect.NamesReserved entry.1)
    (f := fun entry => d.escapeIdentifier entry.1 ++ " " ++ entry.2.text)
    (g := fun entry => e.escapeIdentifier entry.1 ++ " " ++ entry.2.text)
    (fun entry =>
      ((Dialect.agreeIff_escapeIdentifier hne entry.1).followed " ").followed entry.2.text) entries
  have hrank : Each AgreeIff True
      (if ranked then [weightColumn ++ " " ++ Direction.descending.text] else [])
      (if ranked then [weightColumn ++ " " ++ Direction.descending.text] else []) := by
    cases ranked with
    | false => exact .nil
    | true => exact (Each.cons (.refl _) .nil).congr (and_iff_left trivial)
  have hall := (hrank.append hown).congr (and_iff_right trivial)
  unfold orderText
  rw [isEmpty_orderEntries, isEmpty_orderEntries]
  split
  · next hempty =>
    have hnone : entries = [] := List.isEmpty_iff.mp (Bool.and_eq_true_iff.mp hempty).2
    exact (AgreeIff.refl "").congr (iff_of_true trivial (by simp [hnone]))
  · exact (AgreeIff.intercalate ", " hall).prepend " ORDER BY "

/-- An order that is dropped in one place and written in another agrees if it orders by nothing. -/
theorem agreeIff_dropped (d : Dialect) (ranked : Bool) (entries : List (String × Direction)) :
    AgreeIff (ranked = false ∧ entries = []) (orderText [] ++ ")")
      (orderText (orderEntries d ranked entries) ++ ")") := by
  have hempty : (orderEntries d ranked entries).isEmpty = true ↔ ranked = false ∧ entries = [] := by
    rw [isEmpty_orderEntries, Bool.and_eq_true, Bool.not_eq_true', List.isEmpty_iff]
  have hnone : orderText [] = "" := rfl
  rw [hnone, orderText]
  split
  · next h => exact (AgreeIff.refl _).congr (iff_of_true trivial (hempty.mp h))
  · next h =>
    refine (AgreeIff.of_getElem?_ne 0 ')' ' ' rfl ?_ (by decide)).congr
      (iff_of_false id (mt hempty.mpr h))
    simp

namespace Query

/-- Whether a SELECT that stands in a statement of another dialect ends as it would if it had that
dialect. -/
def EndsAlike (d : Dialect) (r : Query) : Prop :=
  r.dialect ≠ .mssql ∧ d ≠ .mssql ∧ (r.offset.isSome = true → r.limit.isSome = true) ∨
    r.limit = none ∧ r.offset = none ∧ r.weights = [] ∧ r.orderBy = []

theorem endText_paged {r : Query} (hpaged : (r.limit.isSome || r.offset.isSome) = true)
    (place : Place) :
    r.endText place = orderText r.pageOrder
      ++ r.dialect.pagingClause r.limit r.offset (!r.pageOrder.isEmpty) := by
  unfold endText orderAt
  rw [hpaged]
  cases place <;> rfl

theorem endText_unpaged {r : Query} (hlimit : r.limit = none) (hoffset : r.offset = none) :
    r.endText .nested = orderText (if r.dialect = .mssql then [] else r.pageOrder) := by
  unfold endText orderAt
  rw [hlimit, hoffset, Dialect.pagingClause_unpaged, String.append_empty]
  cases hd : r.dialect <;> rfl

theorem agreeIff_endText {r : Query} {d : Dialect} (hne : r.dialect ≠ d) :
    AgreeIff ((∀ entry ∈ r.orderBy, ¬ Dialect.NamesReserved entry.1) ∧ r.EndsAlike d)
      (r.endText .nested ++ ")") (({ r with dialect := d } : Query).endText .nested ++ ")") := by
  have horder := agreeIff_orderText hne (!r.weights.isEmpty) r.orderBy
  cases hpaged : r.limit.isSome || r.offset.isSome with
  | true =>
    have hpage := Dialect.agreeIff_pagingClause hne hpaged (!r.pageOrder.isEmpty)
    have hends : r.EndsAlike d ↔ r.dialect ≠ .mssql ∧ d ≠ .mssql ∧ r.limit.isSome = true := by
      unfold EndsAlike
      cases hlimit : r.limit <;> cases hoffset : r.offset <;> simp [hlimit, hoffset] at hpaged ⊢
    have hempty : ({ r with dialect := d } : Query).pageOrder.isEmpty = r.pageOrder.isEmpty := by
      rw [pageOrder, pageOrder, isEmpty_orderEntries, isEmpty_orderEntries]
    rw [endText_paged hpaged, endText_paged (r := { r with dialect := d }) hpaged, hempty,
      String.append_assoc, String.append_assoc]
    exact (horder.append hpage).congr (and_congr_right' hends.symm)
  | false =>
    obtain ⟨hlimit, hoffset⟩ : r.limit = none ∧ r.offset = none := by simpa using hpaged
    rw [endText_unpaged hlimit hoffset,
      endText_unpaged (r := { r with dialect := d }) hlimit hoffset]
    have hbare (h : r.dialect = .mssql ∨ d = .mssql) :
        (!r.weights.isEmpty) = false ∧ r.orderBy = [] ↔
          (∀ entry ∈ r.orderBy, ¬ Dialect.NamesReserved entry.1) ∧ r.EndsAlike d := by
      constructor
      · rintro ⟨hweights, hentries⟩
        exact ⟨by simp [hentries], .inr ⟨hlimit, hoffset, by simpa using hweights, hentries⟩⟩
      · rintro ⟨-, ⟨hown, hother, -⟩ | ⟨-, -, hweights, hentries⟩⟩
        · exact (h.elim hown hother).elim
        · exact ⟨by simp [hweights], hentries⟩
    by_cases hown : r.dialect = .mssql
    · have hother : d ≠ .mssql := fun h => hne (hown.trans h.symm)
      rw [if_pos hown, if_neg hother]
      exact (agreeIff_dropped d (!r.weights.isEmpty) r.orderBy).congr (hbare (.inl hown))
    · rw [if_neg hown]
      by_cases hother : d = .mssql
      · rw [if_pos hother]
        have hdropped := agreeIff_dropped r.dialect (!r.weights.isEmpty) r.orderBy
        exact hdropped.symm.congr (hbare (.inr hother))
      · rw [if_neg hother]
        refine (horder.followed ")").congr ?_
        simp [EndsAlike, hown, hother, hoffset]

end Query
end SqlRecords
