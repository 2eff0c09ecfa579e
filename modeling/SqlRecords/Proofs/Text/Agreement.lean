import Mathlib.Data.List.Basic

/-! Texts that are compared together with what follows them, and lists that are compared item by
item. -/
namespace SqlRecords

namespace Text

/-- Two texts, with anything behind them, are the same exactly if a condition holds and the same
stands behind both. So neither goes on where the other one ends. -/
def AgreeIff (P : Prop) (s t : String) : Prop := ∀ x y : String, s ++ x = t ++ y ↔ P ∧ x = y

namespace AgreeIff
variable {P Q : Prop} {s t u v : String}

theorem refl (s : String) : AgreeIff True s s := fun x y => by
  rw [true_and, String.append_right_inj]

theorem congr (h : AgreeIff P s t) (hPQ : P ↔ Q) : AgreeIff Q s t := fun x y => by
  rw [h x y, hPQ]

theorem append (hst : AgreeIff P s t) (huv : AgreeIff Q u v) :
    AgreeIff (P ∧ Q) (s ++ u) (t ++ v) := fun x y => by
  rw [String.append_assoc, String.append_assoc, hst, huv, and_assoc]

theorem eq_iff (h : AgreeIff P s t) : s = t ↔ P := by
  have hend := h "" ""
  rwa [String.append_empty, String.append_empty, and_iff_left rfl] at hend

theorem prepend (s : String) (h : AgreeIff P u v) : AgreeIff P (s ++ u) (s ++ v) :=
  ((refl s).append h).congr (and_iff_right trivial)

theorem followed (h : AgreeIff P s t) (u : String) : AgreeIff P (s ++ u) (t ++ u) :=
  (h.append (refl u)).congr (and_iff_left trivial)

theorem symm (h : AgreeIff P s t) : AgreeIff P t s := fun x y => by
  rw [eq_comm, h, eq_comm]

/-- Texts that differ in one character agree in no case. -/
theorem of_getElem?_ne (i : Nat) (c c' : Char) (hs : s.toList[i]? = some c)
    (ht : t.toList[i]? = some c') (hne : c ≠ c') : AgreeIff False s t := by
  intro x y
  refine ⟨fun heq => ?_, fun heq => heq.1.elim⟩
  have hchar := congrArg (fun s => s.toList[i]?) heq
  have hi := (List.getElem?_eq_some_iff.mp hs).1
  have hi' := (List.getElem?_eq_some_iff.mp ht).1
  rw [String.toList_append, String.toList_append, List.getElem?_append_left hi,
    List.getElem?_append_left hi', hs, ht] at hchar
  exact (hne (Option.some.inj hchar)).elim

end AgreeIff

end Text

/-- Items that are related one by one, each under a condition; all under the conjunction of the
conditions. -/
inductive Each {α : Type} (R : Prop → α → α → Prop) : Prop → List α → List α → Prop
  | nil : Each R True [] []
  | cons {P Q : Prop} {a b : α} {as bs : List α} (h : R P a b) (hrest : Each R Q as bs) :
      Each R (P ∧ Q) (a :: as) (b :: bs)

namespace Each
variable {α β : Type} {R : Prop → α → α → Prop} {P Q : Prop} {as bs cs ds : List α}

theorem congr (h : Each R P as bs) (hPQ : P ↔ Q) : Each R Q as bs := propext hPQ ▸ h

theorem append (h : Each R P as bs) (h' : Each R Q cs ds) :
    Each R (P ∧ Q) (as ++ cs) (bs ++ ds) := by
  induction h with
  | nil => exact h'.congr (true_and Q).symm.to_iff
  | cons h _ ih => exact (cons h ih).congr and_assoc.symm

theorem map {P : β → Prop} {f g : β → α} (h : ∀ x, R (P x) (f x) (g x)) (xs : List β) :
    Each R (∀ x ∈ xs, P x) (xs.map f) (xs.map g) := by
  induction xs with
  | nil => exact nil.congr (by simp)
  | cons x rest ih => exact (cons (h x) ih).congr (List.forall_mem_cons ..).symm

theorem isEmpty_eq (h : Each R P as bs) : as.isEmpty = bs.isEmpty := by
  cases h <;> rfl

end Each

/-- Pieces with a separator between them agree if all of them do. -/
theorem Text.AgreeIff.intercalate (separator : String) {P : Prop} {as bs : List String}
    (h : Each AgreeIff P as bs) :
    AgreeIff P (separator.intercalate as) (separator.intercalate bs) := by
  induction h with
  | nil => exact .refl _
  | @cons P Q a b as bs h hrest ih =>
    cases hrest with
    | nil => simpa using h
    | cons h' hrest' =>
      rw [String.intercalate_cons_cons, String.intercalate_cons_cons]
      exact (h.followed separator).append ih

end SqlRecords
