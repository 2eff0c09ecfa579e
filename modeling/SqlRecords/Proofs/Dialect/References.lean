import Mathlib.Data.List.Forall2
import SqlRecords.Dialect.Identifier
import SqlRecords.Proofs.Text.Words

/-! References: names with points between them, which of those names are reserved, and how a
reference is read and written. -/
namespace SqlRecords
open Text

/-- Whether a text spells a word in any letter case. -/
def Respells (word s : String) : Prop :=
  List.Forall₂ (fun letter c => c = letter ∨ c = letter.toUpper) word.toList s.toList

/-- A reserved word in any letter case. -/
def IsReservedWord (s : String) : Prop := ∃ word ∈ Dialect.reservedWords, Respells word s

/-- One name of a reference: `*`, or ASCII letters, digits and underscores, no digit in front. -/
def IsSegment (s : String) : Prop :=
  s = "*" ∨ ∃ first rest, s.toList = first :: rest ∧ (first.isAlpha = true ∨ first = '_') ∧
    ∀ c ∈ rest, c.isAlphanum = true ∨ c = '_'

/-- Names with points between them. -/
structure Reference where
  segments : List String
  ne_nil : segments ≠ []
  plain : ∀ s ∈ segments, IsSegment s

def dotted (segments : List String) : String := ".".intercalate segments

def Reference.text (r : Reference) : String := dotted r.segments

theorem toNat_toLower (c : Char) :
    c.toLower.toNat = if 65 ≤ c.toNat ∧ c.toNat ≤ 90 then c.toNat + 32 else c.toNat := by
  unfold Char.toLower
  split
  · next h =>
    have hrange : 65 ≤ c.toNat ∧ c.toNat ≤ 90 := h
    have hshift : ('a'.val - 'A'.val).toNat = 32 := rfl
    have hval : c.val.toNat = c.toNat := rfl
    rw [if_pos hrange]
    show (c.val + ('a'.val - 'A'.val)).toNat = _
    rw [UInt32.toNat_add, hshift, hval]
    omega
  · next h =>
    have hrange : ¬ (65 ≤ c.toNat ∧ c.toNat ≤ 90) := h
    rw [if_neg hrange]

theorem toNat_toUpper (c : Char) :
    c.toUpper.toNat = if 97 ≤ c.toNat ∧ c.toNat ≤ 122 then c.toNat - 32 else c.toNat := by
  unfold Char.toUpper
  split
  · next h =>
    have hrange : 97 ≤ c.toNat ∧ c.toNat ≤ 122 := h
    have hshift : ('A'.val - 'a'.val).toNat = 2 ^ 32 - 32 := rfl
    have hval : c.val.toNat = c.toNat := rfl
    rw [if_pos hrange]
    show (c.val + ('A'.val - 'a'.val)).toNat = _
    rw [UInt32.toNat_add, hshift, hval]
    omega
  · next h =>
    have hrange : ¬ (97 ≤ c.toNat ∧ c.toNat ≤ 122) := h
    rw [if_neg hrange]

theorem toLower_eq_iff {letter : Char} (h : letter.isUpper = false) (c : Char) :
    c.toLower = letter ↔ c = letter ∨ c = letter.toUpper := by
  have hletter : ¬ (65 ≤ letter.toNat ∧ letter.toNat ≤ 90) := of_decide_eq_false h
  rw [← Char.toNat_inj, ← Char.toNat_inj, ← Char.toNat_inj, toNat_toLower, toNat_toUpper]
  split <;> split <;> omega

theorem isAlpha_iff_toNat (c : Char) : c.isAlpha = true ↔
    65 ≤ c.toNat ∧ c.toNat ≤ 90 ∨ 97 ≤ c.toNat ∧ c.toNat ≤ 122 := by
  have hupper : c.isUpper = true ↔ 65 ≤ c.toNat ∧ c.toNat ≤ 90 := decide_eq_true_iff
  have hlower : c.isLower = true ↔ 97 ≤ c.toNat ∧ c.toNat ≤ 122 :=
    Bool.and_eq_true_iff.trans (and_congr decide_eq_true_iff decide_eq_true_iff)
  exact (Bool.or_eq_true _ _).to_iff.trans (or_congr hupper hlower)

theorem isAlphanum_iff (c : Char) :
    c.isAlphanum = true ↔ c.isAlpha = true ∨ c.isDigit = true :=
  (Bool.or_eq_true _ _).to_iff

theorem isAlpha_iff (c : Char) : c.isAlpha = true ↔ c.isAlphanum = true ∧ c.isDigit = false := by
  have hdigit : c.isDigit = true ↔ 48 ≤ c.toNat ∧ c.toNat ≤ 57 := Char.isDigit_iff_toNat
  rw [isAlphanum_iff, ← Bool.not_eq_true, isAlpha_iff_toNat, hdigit]
  omega

theorem lowerAscii_eq_iff {word : String} (h : (word.toList.all (!·.isUpper)) = true)
    (s : String) : Dialect.lowerAscii s = word ↔ Respells word s := by
  simp only [List.all_eq_true, Bool.not_eq_true'] at h
  unfold Dialect.lowerAscii Respells
  rw [← String.toList_inj, String.toList_ofList]
  generalize word.toList = letters at h ⊢
  generalize s.toList = cs
  induction letters generalizing cs with
  | nil => simp
  | cons letter letters ih =>
    obtain ⟨hletter, hletters⟩ := List.forall_mem_cons.mp h
    cases cs with
    | nil => simp
    | cons c cs => simp [toLower_eq_iff hletter, ih hletters]

theorem lowerAscii_mem_iff {words : List String}
    (h : (words.all fun word => word.toList.all (!·.isUpper)) = true) (s : String) :
    Dialect.lowerAscii s ∈ words ↔ ∃ word ∈ words, Respells word s := by
  have hlower := List.all_eq_true.mp h
  constructor
  · intro hs
    exact ⟨_, hs, (lowerAscii_eq_iff (hlower _ hs) s).mp rfl⟩
  · rintro ⟨word, hword, hs⟩
    rwa [(lowerAscii_eq_iff (hlower word hword) s).mpr hs]

theorem isReserved_iff (s : String) : Dialect.isReserved s = true ↔ IsReservedWord s := by
  unfold Dialect.isReserved
  rw [List.contains_iff_mem]
  exact lowerAscii_mem_iff (by decide +kernel) s

instance : DecidablePred IsReservedWord := fun s => decidable_of_iff _ (isReserved_iff s)

theorem isPlainSegment_iff (s : String) :
    Dialect.isPlainSegment s.toList = true ↔ IsSegment s := by
  have hstar : (s.toList == ['*']) = true ↔ s = "*" := by
    rw [beq_iff_eq, ← String.toList_inj]
    rfl
  unfold Dialect.isPlainSegment IsSegment
  rw [Bool.or_eq_true, hstar]
  apply or_congr_right
  cases s.toList with
  | nil => simp
  | cons first rest =>
    have hfirst : (first.isAlphanum = true ∨ first = '_') ∧ first.isDigit = false ↔
        first.isAlpha = true ∨ first = '_' := by
      rw [isAlpha_iff, or_and_right]
      apply or_congr_right
      constructor
      · exact And.left
      · rintro rfl
        exact ⟨rfl, rfl⟩
    simp only [List.isEmpty_cons, Bool.not_false, Bool.true_and, Bool.and_eq_true, List.all_cons,
      List.all_eq_true, Bool.or_eq_true, beq_iff_eq, List.head?_cons, Option.any_some,
      Bool.not_eq_true']
    rw [and_right_comm, hfirst]
    constructor
    · rintro ⟨hhead, htail⟩
      exact ⟨first, rest, rfl, hhead, htail⟩
    · rintro ⟨_, _, heq, hhead, htail⟩
      cases heq
      exact ⟨hhead, htail⟩

/-- The characters that stand in a name. -/
def isNameChar (c : Char) : Bool := c == '*' || c == '_' || c.isAlphanum

theorem IsSegment.isNameChar {s : String} (h : IsSegment s) {c : Char} (hc : c ∈ s.toList) :
    isNameChar c = true := by
  unfold SqlRecords.isNameChar
  obtain rfl | ⟨first, rest, hs, hfirst, hrest⟩ := h
  · cases List.mem_singleton.mp hc
    rfl
  · rw [hs] at hc
    rcases List.mem_cons.mp hc with rfl | hc
    · obtain hfirst | rfl := hfirst
      · simp [((isAlpha_iff _).mp hfirst).1]
      · rfl
    · obtain hc | rfl := hrest c hc
      · simp [hc]
      · rfl

theorem IsSegment.ne_empty {s : String} (h : IsSegment s) : s ≠ "" := by
  rintro rfl
  obtain h | ⟨first, rest, h, -⟩ := h
  · cases congrArg String.toList h
  · cases h

theorem isBlank_of_isNameChar {c : Char} (h : isNameChar c = true) : isBlank c = false := by
  have hrange : c.toNat = 42 ∨ c.toNat = 95 ∨ 48 ≤ c.toNat ∧ c.toNat ≤ 122 := by
    simp only [isNameChar, Bool.or_eq_true, beq_iff_eq, isAlphanum_iff, isAlpha_iff_toNat,
      Char.isDigit_iff_toNat, Char.reduceToNat] at h
    rcases h with (rfl | rfl) | h
    · exact .inl rfl
    · exact .inr (.inl rfl)
    · omega
  simp only [isBlank, Bool.or_eq_false_iff, Bool.and_eq_false_iff, decide_eq_false_iff_not,
    beq_eq_false_iff_ne]
  omega

theorem not_isNameChar_openingQuote (d : Dialect) : isNameChar d.openingQuote = false := by
  cases d <;> rfl

instance : DecidablePred IsSegment := fun s => decidable_of_iff _ (isPlainSegment_iff s)

theorem isPlainReference_iff (s : String) :
    Dialect.isPlainReference s = true ↔ ∀ segment ∈ splitAt '.' s, IsSegment segment := by
  simp [Dialect.isPlainReference, splitAt, ← isPlainSegment_iff]

namespace Reference

/-- The reference that a text is. -/
def ofText? (s : String) : Option Reference :=
  if h : ∀ segment ∈ splitAt '.' s, IsSegment segment then
    some ⟨splitAt '.' s, splitAt_ne_nil '.' s, h⟩
  else none

theorem splitAt_text (r : Reference) : splitAt '.' r.text = r.segments := by
  refine splitAt_intercalate r.ne_nil fun s hs hpoint => ?_
  cases (r.plain s hs).isNameChar hpoint

theorem ofText?_text (r : Reference) : ofText? r.text = some r := by
  have hplain : ∀ segment ∈ splitAt '.' r.text, IsSegment segment := by
    rw [r.splitAt_text]
    exact r.plain
  rw [ofText?, dif_pos hplain]
  simp only [r.splitAt_text]

theorem eq_text_of_ofText? {s : String} {r : Reference} (h : ofText? s = some r) : s = r.text := by
  unfold ofText? at h
  split at h
  · cases h
    exact (intercalate_splitAt '.' s).symm
  · cases h

theorem isNameChar_of_mem_text {r : Reference} {c : Char} (hc : c ∈ r.text.toList) :
    c = '.' ∨ isNameChar c = true := by
  by_contra hnot
  obtain ⟨hpoint, hname⟩ := not_or.mp hnot
  refine not_mem_intercalate (by simpa using hpoint) (fun s hs hmem => ?_) hc
  exact hname ((r.plain s hs).isNameChar hmem)

/-- A reference with its reserved segments quoted. -/
def escaped (d : Dialect) (r : Reference) : String := dotted (r.segments.map d.escapeSegment)

theorem escapeReference_eq {s : String} {r : Reference} (h : ofText? s = some r) (d : Dialect) :
    d.escapeReference s = r.escaped d := by
  unfold ofText? at h
  split at h
  · cases h
    rfl
  · cases h

theorem isPlainReference_eq (s : String) : Dialect.isPlainReference s = (ofText? s).isSome := by
  rw [Bool.eq_iff_iff, isPlainReference_iff, ofText?]
  split
  · next h => simpa using h
  · next h => simpa using h

/-- A quoted segment keeps a text from being a reference. -/
theorem ofText?_escaped (d : Dialect) (r : Reference) :
    ofText? (r.escaped d) = some r ∨ ofText? (r.escaped d) = none := by
  by_cases h : ∀ s ∈ r.segments, d.escapeSegment s = s
  · left
    rw [escaped, List.map_congr_left h, List.map_id']
    exact r.ofText?_text
  · right
    obtain ⟨s, hs, hne⟩ : ∃ s ∈ r.segments, d.escapeSegment s ≠ s := by simpa using h
    have hquote : d.openingQuote ∈ (d.escapeSegment s).toList := by
      unfold Dialect.escapeSegment at hne ⊢
      split
      · simp [Dialect.quoteIdentifier, quoted]
      · next hplain => exact absurd (if_neg hplain) hne
    have hmem : d.openingQuote ∈ (r.escaped d).toList :=
      mem_intercalate (List.mem_map_of_mem hs) hquote
    cases hr : ofText? (r.escaped d) with
    | none => rfl
    | some r' =>
      rw [eq_text_of_ofText? hr] at hmem
      obtain hpoint | hname := isNameChar_of_mem_text hmem
      · cases d <;> cases hpoint
      · cases (not_isNameChar_openingQuote d).symm.trans hname

end Reference

theorem IsSegment.isWord {s : String} (h : IsSegment s) : isWord s = true :=
  (isWord_iff s).mpr ⟨h.ne_empty, fun _ hc => isBlank_of_isNameChar (h.isNameChar hc)⟩

/-- Quotes around a word are no blanks. -/
theorem isWord_escapeSegment (d : Dialect) {s : String} (h : IsSegment s) :
    isWord (d.escapeSegment s) = true := by
  unfold Dialect.escapeSegment
  split
  · have hquotes : isBlank d.openingQuote = false ∧ isBlank d.closingQuote = false := by
      cases d <;> decide
    rw [isWord_iff]
    refine ⟨fun hempty => ?_, fun c hc => ?_⟩
    · simpa [Dialect.quoteIdentifier, quoted] using congrArg String.toList hempty
    · simp only [Dialect.quoteIdentifier, quoted, String.toList_ofList, List.mem_cons,
        List.mem_append, List.not_mem_nil, or_false] at hc
      rcases hc with rfl | hc | rfl
      · exact hquotes.1
      · exact isBlank_of_isWord h.isWord (mem_double hc)
      · exact hquotes.2
  · exact h.isWord

theorem isWord_dotted {pieces : List String} (hne : pieces ≠ [])
    (h : ∀ piece ∈ pieces, isWord piece = true) : isWord (dotted pieces) = true := by
  obtain ⟨first, rest, rfl⟩ := List.exists_cons_of_ne_nil hne
  have hfirst := h first List.mem_cons_self
  obtain ⟨c, cs, hc⟩ := List.exists_cons_of_ne_nil (toList_ne_nil_of_isWord hfirst)
  rw [isWord_iff]
  constructor
  · intro hempty
    have hmem : c ∈ (dotted (first :: rest)).toList :=
      mem_intercalate List.mem_cons_self (hc ▸ List.mem_cons_self)
    rw [hempty] at hmem
    cases hmem
  · intro c hc
    by_contra hblank
    refine not_mem_intercalate (fun hpoint => ?_) (fun piece hpiece hmem => ?_) hc
    · cases List.mem_singleton.mp hpoint
      exact hblank rfl
    · exact hblank (isBlank_of_isWord (h piece hpiece) hmem)

namespace Reference

theorem isWord_text (r : Reference) : isWord r.text = true :=
  isWord_dotted r.ne_nil fun s hs => (r.plain s hs).isWord

theorem isWord_escaped (d : Dialect) (r : Reference) : isWord (r.escaped d) = true := by
  refine isWord_dotted (by simpa using r.ne_nil) fun out hout => ?_
  obtain ⟨s, hs, rfl⟩ := List.mem_map.mp hout
  exact isWord_escapeSegment d (r.plain s hs)

end Reference

end SqlRecords
