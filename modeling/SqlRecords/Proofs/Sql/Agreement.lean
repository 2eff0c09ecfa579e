import SqlRecords.Proofs.Sql.Fragments
import SqlRecords.Proofs.Text.Agreement

/-! Parts of statements whose texts are compared. -/
namespace SqlRecords

namespace Sql

/-- Two written parts bind the same values, and their texts agree exactly if a condition holds,
wherever their slots are numbered from. -/
def AgreeIff (d : Dialect) (P : Prop) (a b : Sql) : Prop :=
  a.params = b.params ∧ ∀ n, Text.AgreeIff P (a.renderAfter d n) (b.renderAfter d n)

namespace AgreeIff
variable {d : Dialect} {P Q : Prop} {a b a' b' : Sql}

theorem refl (a : Sql) : AgreeIff d True a a := ⟨rfl, fun _ => .refl _⟩

theorem congr (h : AgreeIff d P a b) (hPQ : P ↔ Q) : AgreeIff d Q a b :=
  ⟨h.1, fun n => (h.2 n).congr hPQ⟩

theorem append (h : AgreeIff d P a b) (h' : AgreeIff d Q a' b') :
    AgreeIff d (P ∧ Q) (a ++ a') (b ++ b') := by
  refine ⟨by rw [params_append, params_append, h.1, h'.1], fun n => ?_⟩
  rw [renderAfter_append, renderAfter_append, h.1]
  exact (h.2 n).append (h'.2 _)

theorem prepend (s : Sql) (h : AgreeIff d P a b) : AgreeIff d P (s ++ a) (s ++ b) :=
  ((refl s).append h).congr (and_iff_right trivial)

theorem followed (h : AgreeIff d P a b) (s : Sql) : AgreeIff d P (a ++ s) (b ++ s) :=
  (h.append (refl s)).congr (and_iff_left trivial)

theorem ofText {s t : String} (h : Text.AgreeIff P s t) : AgreeIff d P (ofText s) (ofText t) :=
  ⟨rfl, fun n => by rwa [renderAfter_ofText, renderAfter_ofText]⟩

theorem bracketed (h : AgreeIff d P a b) : AgreeIff d P (bracketed a) (bracketed b) :=
  (h.prepend _).followed _

theorem conditional (outcome : Sql) (h : AgreeIff d P a b) (h' : AgreeIff d Q a' b') :
    AgreeIff d (P ∧ Q) (conditional d a outcome a') (conditional d b outcome b') := by
  unfold Sql.conditional
  split
  all_goals exact ((((h.prepend _).followed _).followed _).followed _).append h' |>.followed _

theorem flatten {as bs : List Sql} (h : Each (AgreeIff d) P as bs) :
    AgreeIff d P as.flatten bs.flatten := by
  induction h with
  | nil => exact refl []
  | cons h _ ih => exact h.append ih

theorem join (separator : String) {as bs : List Sql} (h : Each (AgreeIff d) P as bs) :
    AgreeIff d P (join separator as) (join separator bs) := by
  induction h with
  | nil => exact refl []
  | @cons P Q a b as bs h hrest ih =>
    cases hrest with
    | nil => simpa [Sql.join] using h
    | cons h' hrest' =>
      rw [join_cons_cons, join_cons_cons]
      exact h.append (ih.prepend _)

end AgreeIff
end Sql

end SqlRecords
