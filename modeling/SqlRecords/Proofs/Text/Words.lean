import Mathlib.Data.List.DropRight
import SqlRecords.Proofs.Text.Reading

/-! The words of a text and the blanks around them, and the pieces between marks. -/
namespace SqlRecords.Text

/-- Text without a mark is one piece; else the first piece ends where the first mark stands. -/
theorem splitWhere_cases (p : Char → Bool) (cs : List Char) :
    (splitWhere p cs = [cs] ∧ ∀ c ∈ cs, p c = false) ∨
      ∃ front mark back, cs = front ++ mark :: back ∧ (∀ c ∈ front, p c = false) ∧
        p mark = true ∧ splitWhere p cs = front :: splitWhere p back := by
  cases h : cs.find? p with
  | none =>
    have hnone : ∀ c ∈ cs, p c = false := by simpa using h
    exact .inl ⟨splitWhere_of_none cs hnone, hnone⟩
  | some mark =>
    obtain ⟨hmark, front, back, rfl, hfront⟩ := List.find?_eq_some_iff_append.mp h
    have hfront : ∀ c ∈ front, p c = false := by simpa using hfront
    refine .inr ⟨front, mark, back, rfl, hfront, hmark, ?_⟩
    rw [splitWhere_append front hmark, splitWhere_of_none front hfront]
    rfl

/-- The words of a text as runs of characters. -/
def runs (cs : List Char) : List (List Char) := (splitWhere isBlank cs).filter (!·.isEmpty)

theorem words_eq_runs (s : String) : words s = (runs s.toList).map String.ofList := rfl

theorem runs_append_blank (front : List Char) {c : Char} (hc : isBlank c = true)
    (back : List Char) : runs (front ++ c :: back) = runs front ++ runs back := by
  unfold runs
  rw [splitWhere_append front hc, List.filter_append]

theorem runs_blank_cons {c : Char} (hc : isBlank c = true) (cs : List Char) :
    runs (c :: cs) = runs cs := runs_append_blank [] hc cs

theorem runs_blanks_append {blanks : List Char} (h : ∀ c ∈ blanks, isBlank c = true)
    (cs : List Char) : runs (blanks ++ cs) = runs cs := by
  induction blanks with
  | nil => rfl
  | cons c rest ih =>
    obtain ⟨hc, hrest⟩ := List.forall_mem_cons.mp h
    rw [List.cons_append, runs_blank_cons hc, ih hrest]

/-- A text that has words begins, after blanks, with the first of them, and the others stand behind
it and behind a blank. -/
theorem exists_of_runs_cons {cs w : List Char} {ws : List (List Char)} (h : runs cs = w :: ws) :
    ∃ front back, cs = front ++ w ++ back ∧ (∀ c ∈ front, isBlank c = true) ∧
      (∀ c ∈ back.head?, isBlank c = true) ∧ runs back = ws := by
  induction cs with
  | nil => cases h
  | cons c cs ih =>
    cases hc : isBlank c with
    | true =>
      rw [runs_blank_cons hc] at h
      obtain ⟨front, back, rfl, hfront, hback⟩ := ih h
      exact ⟨c :: front, back, rfl, List.forall_mem_cons.mpr ⟨hc, hfront⟩, hback⟩
    | false =>
      unfold runs at h
      obtain ⟨hsplit, -⟩ | ⟨front, mark, back, hcs, hfront, hmark, hsplit⟩ :=
        splitWhere_cases isBlank (c :: cs)
      · rw [hsplit] at h
        cases h
        exact ⟨[], [], by simp, by simp, by simp, rfl⟩
      · rw [hsplit] at h
        cases front with
        | nil =>
          cases (List.cons.inj hcs).1
          cases hc.symm.trans hmark
        | cons first front =>
          cases h
          refine ⟨[], mark :: back, hcs, by simp, by simpa using hmark, ?_⟩
          exact runs_blank_cons hmark back

/-- A text without words is blank. -/
theorem isBlank_of_runs_nil {cs : List Char} (h : runs cs = []) : ∀ c ∈ cs, isBlank c = true := by
  induction cs with
  | nil => simp
  | cons c cs ih =>
    cases hc : isBlank c with
    | true =>
      rw [runs_blank_cons hc] at h
      exact List.forall_mem_cons.mpr ⟨hc, ih h⟩
    | false =>
      unfold runs at h
      obtain ⟨hsplit, -⟩ | ⟨front, mark, back, hcs, -, hmark, hsplit⟩ :=
        splitWhere_cases isBlank (c :: cs)
      · rw [hsplit] at h
        cases h
      · rw [hsplit] at h
        cases front with
        | nil =>
          cases (List.cons.inj hcs).1
          cases hc.symm.trans hmark
        | cons first front => cases h

/-- Whether no blank stands at either end of a text. -/
def IsTrimmed (s : String) : Prop :=
  (∀ c ∈ s.toList.head?, isBlank c = false) ∧ ∀ c ∈ s.toList.getLast?, isBlank c = false

/-- What a text comes to without the blanks around it. -/
def TrimsTo (s t : String) : Prop :=
  IsTrimmed t ∧ ∃ front back, isAllBlank front = true ∧ isAllBlank back = true ∧
    s = front ++ t ++ back

theorem trimsTo_trim (s : String) : TrimsTo s (trim s) := by
  have hback : (s.toList.dropWhile isBlank).rdropWhile isBlank
      ++ (s.toList.dropWhile isBlank).rtakeWhile isBlank = s.toList.dropWhile isBlank :=
    List.rdropWhile_append_rtakeWhile
  have htrim : (trim s).toList = (s.toList.dropWhile isBlank).rdropWhile isBlank := by
    rw [trim, String.toList_ofList]
    rfl
  rw [← htrim] at hback
  refine ⟨⟨fun c hc => ?_, fun c hc => ?_⟩, String.ofList (s.toList.takeWhile isBlank),
    String.ofList ((s.toList.dropWhile isBlank).rtakeWhile isBlank), ?_, ?_, ?_⟩
  · have hhead : (s.toList.dropWhile isBlank).head? = some c := by
      rw [← hback, List.head?_append, hc]
      rfl
    simpa [hhead] using List.head?_dropWhile_not isBlank s.toList
  · rw [htrim] at hc
    obtain ⟨hne, rfl⟩ := List.mem_getLast?_eq_getLast hc
    exact Bool.not_eq_true _ ▸ List.rdropWhile_last_not isBlank _ hne
  · rw [isAllBlank, String.toList_ofList]
    exact List.all_takeWhile
  · rw [isAllBlank, String.toList_ofList, List.all_eq_true]
    exact fun c => List.mem_rtakeWhile_imp
  · apply String.toList_inj.mp
    rw [String.toList_append, String.toList_append, String.toList_ofList, String.toList_ofList,
      List.append_assoc, hback, List.takeWhile_append_dropWhile]

theorem trim_of_isTrimmed {s : String} (h : IsTrimmed s) : trim s = s := by
  obtain ⟨hhead, hlast⟩ := h
  have hfront : s.toList.dropWhile isBlank = s.toList := by
    cases hs : s.toList with
    | nil => rfl
    | cons c cs =>
      rw [hs] at hhead
      exact List.dropWhile_cons_of_neg (by simpa using hhead)
  have hback : s.toList.rdropWhile isBlank = s.toList := by
    rw [List.rdropWhile_eq_self_iff]
    intro hne
    simpa using hlast _ (List.getLast?_eq_some_getLast hne)
  apply String.toList_inj.mp
  rw [trim, String.toList_ofList]
  show (s.toList.dropWhile isBlank).rdropWhile isBlank = _
  rw [hfront, hback]

theorem trim_trim (s : String) : trim (trim s) = trim s := trim_of_isTrimmed (trimsTo_trim s).1

theorem words_append_blanks {blanks : String} (h : isAllBlank blanks = true) (s : String) :
    words (s ++ blanks) = words s := by
  have hall : ∀ c ∈ blanks.toList, isBlank c = true := by simpa [isAllBlank] using h
  rw [words_eq_runs, words_eq_runs, String.toList_append]
  cases hb : blanks.toList with
  | nil => rw [List.append_nil]
  | cons c rest =>
    rw [hb] at hall
    obtain ⟨hc, hrest⟩ := List.forall_mem_cons.mp hall
    have hrestRuns := runs_blanks_append hrest []
    rw [List.append_nil] at hrestRuns
    have hnil : runs [] = [] := rfl
    rw [runs_append_blank _ hc, hrestRuns, hnil, List.append_nil]

theorem words_blanks_append {blanks : String} (h : isAllBlank blanks = true) (s : String) :
    words (blanks ++ s) = words s := by
  have hall : ∀ c ∈ blanks.toList, isBlank c = true := by simpa [isAllBlank] using h
  rw [words_eq_runs, words_eq_runs, String.toList_append, runs_blanks_append hall]

/-- Blanks between two texts keep their words apart. -/
theorem words_append_gap {gap : String} (h : isAllBlank gap = true) (hne : gap ≠ "")
    (s t : String) : words (s ++ gap ++ t) = words s ++ words t := by
  have hall : ∀ c ∈ gap.toList, isBlank c = true := by simpa [isAllBlank] using h
  obtain ⟨c, rest, hgap⟩ := List.exists_cons_of_ne_nil (by simpa using hne : gap.toList ≠ [])
  rw [hgap] at hall
  obtain ⟨hc, hrest⟩ := List.forall_mem_cons.mp hall
  simp only [words_eq_runs, String.toList_append, hgap, List.append_assoc, List.cons_append,
    runs_append_blank _ hc, runs_blanks_append hrest, List.map_append]

theorem words_trim (s : String) : words (trim s) = words s := by
  obtain ⟨-, front, back, hfront, hback, hs⟩ := trimsTo_trim s
  conv_rhs => rw [hs]
  rw [words_append_blanks hback, words_blanks_append hfront]

/-- A text with words is its first word and what stands behind that, after blanks. -/
theorem exists_of_words_cons {s w : String} {ws : List String} (h : words s = w :: ws) :
    ∃ front back, s = front ++ w ++ back ∧ isAllBlank front = true ∧
      (∀ c ∈ back.toList.head?, isBlank c = true) ∧ words back = ws := by
  rw [words_eq_runs] at h
  obtain ⟨run, rest, hruns, rfl, rfl⟩ := List.map_eq_cons_iff.mp h
  obtain ⟨front, back, hs, hfront, hback, hrest⟩ := exists_of_runs_cons hruns
  refine ⟨String.ofList front, String.ofList back, ?_, ?_, ?_, ?_⟩
  · apply String.toList_inj.mp
    simpa using hs
  · simpa [isAllBlank] using hfront
  · simpa using hback
  · rw [words_eq_runs, String.toList_ofList, hrest]

theorem isAllBlank_of_words_nil {s : String} (h : words s = []) : isAllBlank s = true := by
  rw [words_eq_runs, List.map_eq_nil_iff] at h
  simpa [isAllBlank] using isBlank_of_runs_nil h

/-- Pieces without the mark are what lies between the marks. -/
theorem splitAt_intercalate {mark : Char} {pieces : List String} (hne : pieces ≠ [])
    (h : ∀ piece ∈ pieces, mark ∉ piece.toList) :
    splitAt mark ((String.singleton mark).intercalate pieces) = pieces := by
  have hpiece {piece : String} (hp : mark ∉ piece.toList) :
      splitWhere (· == mark) piece.toList = [piece.toList] :=
    splitWhere_of_none _ fun c hc => beq_false_of_ne fun heq => hp (heq ▸ hc)
  induction pieces with
  | nil => exact absurd rfl hne
  | cons piece rest ih =>
    obtain ⟨hp, hrest⟩ := List.forall_mem_cons.mp h
    cases rest with
    | nil => simp [splitAt, hpiece hp]
    | cons next rest =>
      have htail := ih (List.cons_ne_nil _ _) hrest
      have hsplit := splitWhere_append (p := (· == mark)) piece.toList (beq_self_eq_true mark)
        ((String.singleton mark).intercalate (next :: rest)).toList
      unfold splitAt at htail ⊢
      rw [hpiece hp] at hsplit
      rw [String.intercalate_cons_cons, String.toList_append, String.toList_append,
        String.toList_singleton, List.append_assoc, List.singleton_append, hsplit, List.map_append,
        htail]
      simp

theorem intercalate_splitAt (mark : Char) (s : String) :
    (String.singleton mark).intercalate (splitAt mark s) = s := by
  have hpieces (cs : List Char) : [mark].intercalate (splitWhere (· == mark) cs) = cs := by
    induction cs with
    | nil => rfl
    | cons c cs ih =>
      obtain ⟨piece, pieces, hsplit⟩ :=
        List.exists_cons_of_ne_nil (splitWhere_ne_nil (· == mark) cs)
      rw [hsplit] at ih
      rw [splitWhere, hsplit]
      cases hc : c == mark with
      | true =>
        cases eq_of_beq hc
        simp [List.intercalate_cons_cons, ih]
      | false =>
        cases pieces <;> simpa [List.intercalate_cons_cons] using ih
  apply String.toList_inj.mp
  rw [String.toList_intercalate, splitAt, List.map_map]
  simpa [Function.comp_def] using hpieces s.toList

theorem splitAt_ne_nil (mark : Char) (s : String) : splitAt mark s ≠ [] := by
  rw [splitAt, ne_eq, List.map_eq_nil_iff]
  exact splitWhere_ne_nil _ _

/-- A character of a piece stands in the text that the pieces are joined to. -/
theorem mem_intercalate {separator piece : String} {pieces : List String} {c : Char}
    (hpiece : piece ∈ pieces) (hc : c ∈ piece.toList) :
    c ∈ (separator.intercalate pieces).toList := by
  induction pieces with
  | nil => cases hpiece
  | cons first rest ih =>
    cases rest with
    | nil =>
      cases List.mem_singleton.mp hpiece
      simpa using hc
    | cons next rest =>
      rw [String.intercalate_cons_cons, String.toList_append, List.mem_append]
      rcases List.mem_cons.mp hpiece with rfl | hpiece
      · exact .inl (by simp [hc])
      · exact .inr (ih hpiece)

theorem mem_double {mark c : Char} {cs : List Char} (h : c ∈ double mark cs) : c ∈ cs := by
  induction cs with
  | nil => cases h
  | cons first rest ih =>
    unfold double at h
    split at h
    · next heq =>
      rcases List.mem_cons.mp h with rfl | h
      · exact heq ▸ List.mem_cons_self
      rcases List.mem_cons.mp h with rfl | h
      · exact heq ▸ List.mem_cons_self
      · exact List.mem_cons_of_mem first (ih h)
    · rcases List.mem_cons.mp h with rfl | h
      · exact List.mem_cons_self
      · exact List.mem_cons_of_mem first (ih h)

theorem isWord_iff (s : String) : isWord s = true ↔ s ≠ "" ∧ ∀ c ∈ s.toList, isBlank c = false := by
  simp [isWord]

theorem isTrimmed_of_isWord {s : String} (h : isWord s = true) : IsTrimmed s :=
  ⟨fun _ hc => isBlank_of_isWord h (List.mem_of_mem_head? hc),
    fun _ hc => isBlank_of_isWord h (List.mem_of_mem_getLast? hc)⟩

theorem isTrimmed_append {front back : String} (hfront : isWord front = true)
    (hback : isWord back = true) (middle : String) : IsTrimmed (front ++ middle ++ back) := by
  have hfrontNe := toList_ne_nil_of_isWord hfront
  have hbackNe := toList_ne_nil_of_isWord hback
  constructor
  · intro c hc
    rw [String.append_assoc, String.toList_append, List.head?_append_of_ne_nil _ hfrontNe] at hc
    exact (isTrimmed_of_isWord hfront).1 c hc
  · intro c hc
    rw [String.toList_append, List.getLast?_append_of_ne_nil _ hbackNe] at hc
    exact (isTrimmed_of_isWord hback).2 c hc

/-- What stands in front of a word and begins with a blank is not empty. -/
theorem gap_ne_empty {gap w back : String} (hw : isWord w = true)
    (h : ∀ c ∈ (gap ++ w ++ back).toList.head?, isBlank c = true) : gap ≠ "" := by
  rintro rfl
  obtain ⟨c, cs, hc⟩ := List.exists_cons_of_ne_nil (toList_ne_nil_of_isWord hw)
  have hblank : isBlank c = true := h c (by simp [hc])
  have hnot := isBlank_of_isWord hw (hc ▸ List.mem_cons_self : c ∈ w.toList)
  cases hblank.symm.trans hnot

end SqlRecords.Text
