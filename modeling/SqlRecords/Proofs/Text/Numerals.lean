import SqlRecords.Text.Numeral

/-! Decimal numerals: which texts spell a number, and the numeral of a number read back. -/
namespace SqlRecords.Text

/-- Whether a text spells a number in decimal: ASCII digits, at least one, and a `+` in front of
them or not. -/
def IsNumeral (n : Nat) (s : String) : Prop :=
  ∃ digits, digits ≠ [] ∧ (∀ c ∈ digits, c.isDigit = true) ∧ Nat.ofDigitChars 10 digits 0 = n ∧
    (s.toList = digits ∨ s.toList = '+' :: digits)

theorem isDigit_of_mem_toString {n : Nat} {c : Char} (h : c ∈ (toString n).toList) :
    c.isDigit = true := by
  rw [Nat.toString_eq_repr, Nat.toList_repr] at h
  exact Nat.isDigit_of_mem_toDigits (by decide) (by decide) h

theorem digitValue?_eq (c : Char) :
    digitValue? c = if c.isDigit then some (c.toNat - '0'.toNat) else none := by
  have hdigit : ('0' ≤ c ∧ c ≤ '9') ↔ c.isDigit = true := by
    simp only [Char.isDigit, ge_iff_le, Bool.and_eq_true, decide_eq_true_eq]
    rfl
  simp only [digitValue?, hdigit]

/-- Digits are read from the left, and any other character ends the reading without a number. -/
theorem foldlM_digitValue? (cs : List Char) (value : Nat) :
    cs.foldlM (fun n c => (digitValue? c).map (n * 10 + ·)) value =
      if cs.all Char.isDigit then some (Nat.ofDigitChars 10 cs value) else none := by
  induction cs generalizing value with
  | nil => rfl
  | cons c rest ih =>
    rw [List.foldlM_cons, digitValue?_eq, List.all_cons, Nat.ofDigitChars_cons, Nat.mul_comm 10]
    cases c.isDigit with
    | false => rfl
    | true => exact ih _

theorem digits?_eq_some_iff {cs : List Char} {n : Nat} : digits? cs = some n ↔
    cs ≠ [] ∧ (∀ c ∈ cs, c.isDigit = true) ∧ Nat.ofDigitChars 10 cs 0 = n := by
  cases cs with
  | nil => simp [digits?]
  | cons c rest =>
    rw [digits?, foldlM_digitValue?, ← List.all_eq_true]
    · simp
    · exact nofun

/-- A numeral is read back. -/
theorem digits?_toString (n : Nat) : digits? (toString n).toList = some n := by
  refine digits?_eq_some_iff.mpr ⟨?_, fun _ => isDigit_of_mem_toString, ?_⟩
  · simp
  · rw [Nat.toString_eq_repr, Nat.toList_repr, Nat.ofDigitChars_ten_toDigits]

theorem isNumeral_toString (n : Nat) : IsNumeral n (toString n) := by
  obtain ⟨hne, hdigits, hvalue⟩ := digits?_eq_some_iff.mp (digits?_toString n)
  exact ⟨_, hne, hdigits, hvalue, .inl rfl⟩

theorem IsNumeral.ne_empty {n : Nat} {s : String} (h : IsNumeral n s) : s ≠ "" := by
  obtain ⟨digits, hne, -, -, hs⟩ := h
  rintro rfl
  rcases hs with hs | hs
  · exact hne hs.symm
  · cases hs

/-- A text is read as the number that it spells, if that is not too large. -/
theorem unsigned?_eq_some_iff {top n : Nat} {s : String} :
    unsigned? top s = some n ↔ IsNumeral n s ∧ n ≤ top := by
  unfold unsigned? IsNumeral
  rw [Option.filter_eq_some_iff, digits?_eq_some_iff, decide_eq_true_eq]
  refine and_congr_left' ?_
  split
  · next rest hs =>
    rw [hs]
    constructor
    · rintro ⟨hne, hdigits, hvalue⟩
      exact ⟨rest, hne, hdigits, hvalue, .inr rfl⟩
    · rintro ⟨digits, hne, hdigits, hvalue, rfl | heq⟩
      · exact absurd (hdigits '+' List.mem_cons_self) (by decide)
      · cases heq
        exact ⟨hne, hdigits, hvalue⟩
  · next hs =>
    constructor
    · rintro ⟨hne, hdigits, hvalue⟩
      exact ⟨_, hne, hdigits, hvalue, .inl rfl⟩
    · rintro ⟨digits, hne, hdigits, hvalue, rfl | heq⟩
      · exact ⟨hne, hdigits, hvalue⟩
      · exact absurd heq (hs digits)

end SqlRecords.Text
