import SqlRecords.Proofs.Text.Numerals
import SqlRecords.Text.Blank
import SqlRecords.Text.Quoted

/-! Reading texts back: what stands between quotes, and the items of a list. -/
namespace SqlRecords.Text

/-- What stands before the mark that closes a quoted text, and what follows that mark. A mark that
is written twice stands for itself. -/
def unquote? (mark : Char) : List Char → Option (List Char × List Char)
  | [] => none
  | [c] => if c = mark then some ([], []) else none
  | c :: d :: rest =>
    if c = mark then
      if d = mark then (unquote? mark rest).map fun (s, after) => (mark :: s, after)
      else some ([], d :: rest)
    else (unquote? mark (d :: rest)).map fun (s, after) => (c :: s, after)

/-- The text between two quotes, and what follows the closing one. -/
def readQuoted? (opening closing : Char) : List Char → Option (String × List Char)
  | [] => none
  | c :: rest =>
    if c = opening then (unquote? closing rest).map fun (s, after) => (String.ofList s, after)
    else none

theorem unquote?_mark {mark : Char} {rest : List Char} (h : rest.head? ≠ some mark) :
    unquote? mark (mark :: rest) = some ([], rest) := by
  cases rest with
  | nil => simp [unquote?]
  | cons d rest =>
    have hd : d ≠ mark := by simpa using h
    simp [unquote?, hd]

theorem unquote?_cons {mark c : Char} (hc : c ≠ mark) (rest : List Char) :
    unquote? mark (c :: rest) = (unquote? mark rest).map fun (s, after) => (c :: s, after) := by
  cases rest <;> simp [unquote?, hc]

/-- Doubled marks are read back. -/
theorem unquote?_double {mark : Char} (s : List Char) {rest : List Char}
    (h : rest.head? ≠ some mark) :
    unquote? mark (double mark s ++ mark :: rest) = some (s, rest) := by
  induction s with
  | nil => exact unquote?_mark h
  | cons c s ih =>
    by_cases hc : c = mark
    · subst hc
      simp [double, unquote?, ih]
    · simp [double, hc, unquote?_cons hc, ih]

theorem readQuoted?_quoted (opening : Char) {closing : Char} (s : String) {rest : List Char}
    (h : rest.head? ≠ some closing) :
    readQuoted? opening closing ((quoted opening closing s).toList ++ rest) = some (s, rest) := by
  simp [quoted, readQuoted?, unquote?_double _ h]

theorem readQuoted?_singleQuoted (s : String) {rest : List Char} (h : rest.head? ≠ some '\'') :
    readQuoted? '\'' '\'' ((singleQuoted s).toList ++ rest) = some (s, rest) :=
  readQuoted?_quoted '\'' s h

theorem double_eq_self {mark : Char} {s : List Char} (h : mark ∉ s) : double mark s = s := by
  induction s with
  | nil => rfl
  | cons c s ih =>
    have ⟨hc, hs⟩ : mark ≠ c ∧ mark ∉ s := by simpa using h
    simp [double, Ne.symm hc, ih hs]

section
variable {p : Char → Bool} (front : List Char)

theorem splitWhere_of_none (h : ∀ c ∈ front, p c = false) : splitWhere p front = [front] := by
  induction front with
  | nil => rfl
  | cons c front ih =>
    obtain ⟨hc, hfront⟩ := List.forall_mem_cons.mp h
    simp [splitWhere, ih hfront, hc]

theorem splitWhere_ne_nil (p : Char → Bool) (cs : List Char) : splitWhere p cs ≠ [] := by
  cases cs with
  | nil => simp [splitWhere]
  | cons c cs =>
    unfold splitWhere
    split
    · simp
    · split <;> simp

/-- A mark ends a piece wherever it stands. -/
theorem splitWhere_append {mark : Char} (hmark : p mark = true) (back : List Char) :
    splitWhere p (front ++ mark :: back) = splitWhere p front ++ splitWhere p back := by
  induction front with
  | nil =>
    obtain ⟨piece, pieces, hback⟩ := List.exists_cons_of_ne_nil (splitWhere_ne_nil p back)
    simp [splitWhere, hback, hmark]
  | cons c front ih =>
    obtain ⟨piece, pieces, hfront⟩ := List.exists_cons_of_ne_nil (splitWhere_ne_nil p front)
    rw [List.cons_append, splitWhere, ih, hfront, List.cons_append, splitWhere, hfront]
    cases p c <;> rfl

/-- Text without a mark belongs to the last piece. -/
theorem suffix_getLastD_splitWhere {back : List Char} (h : ∀ c ∈ back, p c = false) :
    back <:+ (splitWhere p (front ++ back)).getLastD [] := by
  induction front with
  | nil => simp [splitWhere_of_none _ h]
  | cons c front ih =>
    obtain ⟨piece, pieces, hpieces⟩ :=
      List.exists_cons_of_ne_nil (splitWhere_ne_nil p (front ++ back))
    rw [hpieces] at ih
    rw [List.cons_append, splitWhere, hpieces]
    cases pieces with
    | nil =>
      cases p c with
      | true => exact ih
      | false => exact ih.trans (List.suffix_cons c piece)
    | cons next pieces => cases p c <;> simpa using ih

end

/-- Text is not trimmed away if neither its first nor its last character is. -/
theorem suffix_trimWhere {p : Char → Bool} {first last : Char} (hfirst : p first = false)
    (hlast : p last = false) (front middle : List Char) :
    first :: (middle ++ [last]) <:+ trimWhere p (front ++ first :: (middle ++ [last])) := by
  have hkept : ∀ rest : List Char, (rest ++ first :: (middle ++ [last])).reverse.dropWhile p =
      (rest ++ first :: (middle ++ [last])).reverse := by
    intro rest
    simp [hlast]
  obtain ⟨rest, hrest⟩ : ∃ rest, (front ++ first :: (middle ++ [last])).dropWhile p =
      rest ++ first :: (middle ++ [last]) := by
    rw [List.dropWhile_append]
    split
    · exact ⟨[], by simp [hfirst]⟩
    · exact ⟨front.dropWhile p, rfl⟩
  rw [trimWhere, hrest, hkept, List.reverse_reverse]
  exact List.suffix_append _ _

theorem trimWhere_of_none {p : Char → Bool} {s : List Char} (h : ∀ c ∈ s, p c = false) :
    trimWhere p s = s := by
  have hkept : ∀ t : List Char, (∀ c ∈ t, p c = false) → t.dropWhile p = t := by
    intro t ht
    cases t with
    | nil => rfl
    | cons c t => simp [ht c List.mem_cons_self]
  rw [trimWhere, hkept s h, hkept s.reverse fun c hc => h c (List.mem_reverse.mp hc),
    List.reverse_reverse]

/-- Whether a text has characters and none of them is blank. -/
def isWord (s : String) : Bool := s != "" && s.toList.all fun c => !isBlank c

theorem isBlank_of_isWord {s : String} (h : isWord s = true) {c : Char} (hc : c ∈ s.toList) :
    isBlank c = false := by
  simp only [isWord, Bool.and_eq_true, List.all_eq_true, Bool.not_eq_true'] at h
  exact h.2 c hc

theorem toList_ne_nil_of_isWord {s : String} (h : isWord s = true) : s.toList ≠ [] := by
  simp only [isWord, Bool.and_eq_true, bne_iff_ne] at h
  simpa using h.1

theorem words_of_isWord {s : String} (h : isWord s = true) : words s = [s] := by
  have hsplit := splitWhere_of_none _ fun c => isBlank_of_isWord h (c := c)
  simp [words, hsplit, toList_ne_nil_of_isWord h]

theorem words_append (s t : String) : words (s ++ " " ++ t) = words s ++ words t := by
  have hblank : isBlank ' ' = true := by decide
  have hsplit := splitWhere_append s.toList hblank t.toList
  simp [words, hsplit]

theorem words_blank (t : String) : words (" " ++ t) = words t := by
  rw [← String.empty_append (s := " "), words_append]
  rfl

/-- The words of each item of a list with commas between its items. -/
def items (t : String) : List (List String) := (splitAt ',' t).map words

theorem isBlank_of_isDigit {c : Char} (h : c.isDigit = true) : isBlank c = false := by
  simp only [Char.isDigit, ge_iff_le, UInt32.le_iff_toNat_le, Bool.and_eq_true,
    decide_eq_true_eq] at h
  have hlow : 48 ≤ c.toNat := h.1
  have hhigh : c.toNat ≤ 57 := h.2
  simp only [isBlank, Bool.or_eq_false_iff, Bool.and_eq_false_iff, decide_eq_false_iff_not,
    beq_eq_false_iff_ne]
  omega

theorem isWord_toString (n : Nat) : isWord (toString n) = true := by
  have hblank : (toString n).toList.all (!isBlank ·) = true := by
    rw [List.all_eq_true]
    intro c hc
    rw [isBlank_of_isDigit (isDigit_of_mem_toString hc)]
    rfl
  rw [isWord, hblank, Bool.and_true, bne_iff_ne, Nat.toString_eq_repr]
  exact Nat.repr_ne_empty

/-- Words, each with a blank in front. -/
def spaced (ws : List String) : String := String.join (ws.map (" " ++ ·))

theorem words_spaced {ws : List String} (h : ∀ w ∈ ws, isWord w = true) :
    words (spaced ws) = ws := by
  induction ws with
  | nil => rfl
  | cons w rest ih =>
    obtain ⟨hw, hrest⟩ := List.forall_mem_cons.mp h
    have htail := ih hrest
    unfold spaced at htail ⊢
    rw [List.map_cons, String.join_cons, String.append_assoc, words_blank]
    cases rest with
    | nil => simpa using words_of_isWord hw
    | cons v rest =>
      rw [List.map_cons, String.join_cons, String.append_assoc, words_blank] at htail
      rw [List.map_cons, String.join_cons, String.append_assoc, ← String.append_assoc,
        words_append, words_of_isWord hw, htail]
      rfl

/-- The items of a list are read back if no comma stands in them. -/
theorem items_intercalate {texts : List String} (hne : texts ≠ [])
    (h : ∀ t ∈ texts, ',' ∉ t.toList) : items (", ".intercalate texts) = texts.map words := by
  have hcomma {t : String} (ht : ',' ∉ t.toList) : ∀ c ∈ t.toList, (c == ',') = false :=
    fun c hc => beq_false_of_ne fun heq => ht (heq ▸ hc)
  -- Behind a comma a blank stands before the item; it does not count.
  have hlist (blank : String) (hblank : ∀ t, words (blank ++ t) = words t)
      (hchars : ',' ∉ blank.toList) :
      items (blank ++ ", ".intercalate texts) = texts.map words := by
    induction texts generalizing blank with
    | nil => exact absurd rfl hne
    | cons t rest ih =>
      obtain ⟨ht, hrest⟩ := List.forall_mem_cons.mp h
      have hfront : ',' ∉ (blank ++ t).toList := by simp [ht, hchars]
      cases rest with
      | nil =>
        have hsplit := splitWhere_of_none _ (hcomma hfront)
        simp only [String.toList_append] at hsplit
        simp [items, splitAt, hsplit, hblank]
      | cons u rest =>
        have hsplit := splitWhere_append (p := (· == ',')) (blank ++ t).toList
          (beq_self_eq_true ',') (" " ++ ", ".intercalate (u :: rest)).toList
        rw [splitWhere_of_none _ (hcomma hfront), List.singleton_append] at hsplit
        have htail := ih (by simp) hrest " " words_blank (by decide)
        have htext : blank ++ ", ".intercalate (t :: u :: rest) =
            (blank ++ t) ++ String.ofList [','] ++ (" " ++ ", ".intercalate (u :: rest)) := by
          rw [String.intercalate_cons_cons]
          apply String.toList_inj.mp
          simp
        unfold items splitAt at htail ⊢
        rw [htext, String.toList_append, String.toList_append, String.toList_ofList,
          List.append_assoc, List.singleton_append, hsplit]
        simp only [List.map_cons, String.ofList_toList, hblank, htail]
  simpa using hlist "" (by simp) (by simp)

/-- The items of a list are read one by one. -/
theorem mapM_items {α β : Type} {xs : List α} (hne : xs ≠ []) {text : α → String}
    (hcomma : ∀ x, ',' ∉ (text x).toList) {read : List String → Option β} {value : α → β}
    (hread : ∀ x, read (words (text x)) = some (value x)) :
    (items (", ".intercalate (xs.map text))).mapM read = some (xs.map value) := by
  have hitems : items (", ".intercalate (xs.map text)) = (xs.map text).map words := by
    apply items_intercalate
    · simpa using hne
    · simpa using fun x _ => hcomma x
  have hvalue : (read ∘ words ∘ text) = fun x => some (value x) := funext hread
  rw [hitems, List.map_map, List.mapM_map, hvalue]
  exact List.mapM_pure

theorem not_mem_intercalate {c : Char} {separator : String} (hc : c ∉ separator.toList)
    {texts : List String} (h : ∀ t ∈ texts, c ∉ t.toList) :
    c ∉ (separator.intercalate texts).toList := by
  induction texts with
  | nil => simp
  | cons t rest ih =>
    obtain ⟨ht, hrest⟩ := List.forall_mem_cons.mp h
    cases rest with
    | nil => simpa using ht
    | cons u rest =>
      rw [String.intercalate_cons_cons, String.toList_append, String.toList_append,
        List.mem_append, List.mem_append, not_or, not_or]
      exact ⟨⟨ht, hc⟩, ih hrest⟩

end SqlRecords.Text
