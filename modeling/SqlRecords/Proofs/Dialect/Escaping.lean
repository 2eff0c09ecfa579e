import SqlRecords.Proofs.Dialect.References

/-! Escaping a field: a reference keeps its segments, of which those are quoted that are reserved,
and all other text is left alone. -/
namespace SqlRecords
open Text

/-- A reference, with the reference that stands behind AS if there is one. -/
structure FieldName where
  reference : Reference
  label : Option Reference

/-- The texts that spell a field: any blanks around its parts, and AS in any letter case. -/
inductive FieldName.Spells : FieldName → String → Prop
  | bare (r : Reference) {front back : String} (hfront : isAllBlank front = true)
      (hback : isAllBlank back = true) : Spells ⟨r, none⟩ (front ++ r.text ++ back)
  | aliased (r label : Reference) {front before keyword after back : String}
      (hfront : isAllBlank front = true) (hbefore : isAllBlank before = true ∧ before ≠ "")
      (hkeyword : Respells "as" keyword) (hafter : isAllBlank after = true ∧ after ≠ "")
      (hback : isAllBlank back = true) :
      Spells ⟨r, some label⟩
        (front ++ (r.text ++ before ++ keyword ++ after ++ label.text) ++ back)

namespace FieldName

/-- The field that a text spells. -/
def ofText? (s : String) : Option FieldName :=
  match words s with
  | [reference] => (Reference.ofText? reference).map fun r => ⟨r, none⟩
  | [reference, keyword, label] =>
    if Dialect.lowerAscii keyword == "as" then do
      return ⟨← Reference.ofText? reference, some (← Reference.ofText? label)⟩
    else none
  | _ => none

def escaped (d : Dialect) (f : FieldName) : String :=
  f.reference.escaped d ++ f.label.elim "" fun label => " AS " ++ label.escaped d

/-- Escaping reads a field and writes it with its reserved segments quoted; all else is trimmed. -/
theorem escapeIdentifier_eq (d : Dialect) (s : String) :
    d.escapeIdentifier s = match ofText? s with
      | some f => f.escaped d
      | none => trim s := by
  unfold Dialect.escapeIdentifier ofText?
  match words s with
  | [reference] =>
    simp only [Reference.isPlainReference_eq]
    cases hr : Reference.ofText? reference with
    | none => rfl
    | some r => simp [Reference.escapeReference_eq hr, escaped]
  | [reference, keyword, label] =>
    simp only [Reference.isPlainReference_eq]
    cases Dialect.lowerAscii keyword == "as" with
    | false => rfl
    | true =>
      cases hr : Reference.ofText? reference with
      | none => cases Reference.ofText? label <;> rfl
      | some r =>
        cases hl : Reference.ofText? label with
        | none => rfl
        | some l =>
          simp [Reference.escapeReference_eq hr, Reference.escapeReference_eq hl, escaped,
            String.append_assoc]
  | [] | [_, _] | _ :: _ :: _ :: _ :: _ => rfl

theorem lowerAscii_eq_as_iff (keyword : String) :
    (Dialect.lowerAscii keyword == "as") = true ↔ Respells "as" keyword := by
  rw [beq_iff_eq]
  exact lowerAscii_eq_iff (by decide) keyword

theorem isWord_of_respells_as {keyword : String} (h : Respells "as" keyword) :
    isWord keyword = true := by
  have has : "as".toList = ['a', 's'] := rfl
  rw [Respells, has] at h
  obtain ⟨first, _, hfirst, hrest, hkeyword⟩ := List.forall₂_cons_left_iff.mp h
  obtain ⟨second, _, hsecond, hnil, rfl⟩ := List.forall₂_cons_left_iff.mp hrest
  cases List.forall₂_nil_left_iff.mp hnil
  rw [isWord_iff, hkeyword]
  refine ⟨fun hempty => ?_, ?_⟩
  · rw [hempty] at hkeyword
    cases hkeyword
  · have hblank : [first, second].all (!isBlank ·) = true := by
      rcases hfirst with rfl | rfl <;> rcases hsecond with rfl | rfl <;> decide
    simpa using hblank

/-- A text is read as the field that it spells, and no other text is. -/
theorem ofText?_eq_some_iff {s : String} {f : FieldName} : ofText? s = some f ↔ f.Spells s := by
  constructor
  · intro h
    unfold ofText? at h
    split at h
    · next reference hwords =>
      obtain ⟨r, hr, rfl⟩ := Option.map_eq_some_iff.mp h
      obtain ⟨front, back, rfl, hfront, -, hback⟩ := exists_of_words_cons hwords
      rw [Reference.eq_text_of_ofText? hr]
      exact .bare r hfront (isAllBlank_of_words_nil hback)
    · next reference keyword label hwords =>
      split at h
      · next hkeyword =>
        have has := (lowerAscii_eq_as_iff keyword).mp hkeyword
        obtain ⟨r, hr, h⟩ := Option.bind_eq_some_iff.mp h
        obtain ⟨l, hl, h⟩ := Option.bind_eq_some_iff.mp h
        cases h
        obtain ⟨front, behind, rfl, hfront, hblank, hwords⟩ := exists_of_words_cons hwords
        obtain ⟨before, behind, rfl, hbefore, hblank', hwords⟩ := exists_of_words_cons hwords
        obtain ⟨after, back, rfl, hafter, -, hback⟩ := exists_of_words_cons hwords
        rw [Reference.eq_text_of_ofText? hl] at hblank' ⊢
        rw [Reference.eq_text_of_ofText? hr]
        have hspells := Spells.aliased r l hfront
          ⟨hbefore, gap_ne_empty (isWord_of_respells_as has) hblank⟩ has
          ⟨hafter, gap_ne_empty l.isWord_text hblank'⟩ (isAllBlank_of_words_nil hback)
        simpa only [String.append_assoc] using hspells
      · cases h
    · cases h
  · intro h
    unfold ofText?
    cases h with
    | bare r hfront hback =>
      rw [words_append_blanks hback, words_blanks_append hfront, words_of_isWord r.isWord_text]
      simp [r.ofText?_text]
    | aliased r label hfront hbefore hkeyword hafter hback =>
      rw [words_append_blanks hback, words_blanks_append hfront,
        words_append_gap hafter.1 hafter.2, words_append_gap hbefore.1 hbefore.2,
        words_of_isWord r.isWord_text, words_of_isWord (isWord_of_respells_as hkeyword),
        words_of_isWord label.isWord_text]
      simp [(lowerAscii_eq_as_iff _).mpr hkeyword, r.ofText?_text, label.ofText?_text]

theorem isTrimmed_escaped (d : Dialect) (f : FieldName) : IsTrimmed (f.escaped d) := by
  obtain ⟨r, label⟩ := f
  cases label with
  | none =>
    have hescaped : escaped d ⟨r, none⟩ = r.escaped d := String.append_empty
    exact hescaped ▸ isTrimmed_of_isWord (r.isWord_escaped d)
  | some label =>
    have hescaped : escaped d ⟨r, some label⟩ = r.escaped d ++ " AS " ++ label.escaped d :=
      String.append_assoc.symm
    exact hescaped ▸ isTrimmed_append (r.isWord_escaped d) (label.isWord_escaped d) " AS "

/-- What was escaped is the same field, or an expression for the quotes in it. -/
theorem ofText?_escaped (d : Dialect) (f : FieldName) :
    ofText? (f.escaped d) = some f ∨ ofText? (f.escaped d) = none := by
  obtain ⟨r, label⟩ := f
  unfold ofText?
  cases label with
  | none =>
    have hescaped : escaped d ⟨r, none⟩ = r.escaped d := String.append_empty
    rw [hescaped, words_of_isWord (r.isWord_escaped d)]
    rcases r.ofText?_escaped d with hr | hr <;> simp [hr]
  | some label =>
    have hescaped : escaped d ⟨r, some label⟩ =
        r.escaped d ++ " " ++ "AS" ++ " " ++ label.escaped d := by
      apply String.toList_inj.mp
      simp [escaped]
    have hkeyword : isWord "AS" = true := by decide
    have has : Dialect.lowerAscii "AS" = "as" := by decide +kernel
    rw [hescaped, words_append, words_append, words_of_isWord (r.isWord_escaped d),
      words_of_isWord hkeyword, words_of_isWord (label.isWord_escaped d)]
    rcases r.ofText?_escaped d with hr | hr <;>
      rcases label.ofText?_escaped d with hl | hl <;> simp [hr, hl, has]

theorem escapeIdentifier_escaped (d : Dialect) (f : FieldName) :
    d.escapeIdentifier (f.escaped d) = f.escaped d := by
  rw [escapeIdentifier_eq]
  rcases f.ofText?_escaped d with h | h
  · rw [h]
  · rw [h]
    exact trim_of_isTrimmed (f.isTrimmed_escaped d)

end FieldName

namespace Dialect

/-- How a segment of a reference is written: between quotes if it is a reserved word, and else as it
is. -/
inductive Escapes (d : Dialect) : String → String → Prop
  | reserved {s : String} (h : IsReservedWord s) : Escapes d s (d.quoteIdentifier s)
  | other {s : String} (h : ¬ IsReservedWord s) : Escapes d s s

theorem escapes_escapeSegment (d : Dialect) (s : String) : d.Escapes s (d.escapeSegment s) := by
  have hstar : isReserved "*" = false := by decide +kernel
  unfold escapeSegment
  split
  · next h => exact .reserved ((isReserved_iff s).mp (Bool.and_eq_true_iff.mp h).2)
  · next h =>
    refine .other fun hreserved => h ?_
    rw [Bool.and_eq_true, bne_iff_ne]
    refine ⟨?_, (isReserved_iff s).mpr hreserved⟩
    rintro rfl
    cases hstar.symm.trans ((isReserved_iff "*").mpr hreserved)

theorem escapes_segments (d : Dialect) (segments : List String) :
    List.Forall₂ d.Escapes segments (segments.map d.escapeSegment) := by
  rw [List.forall₂_map_right_iff]
  exact List.forall₂_same.mpr fun s _ => d.escapes_escapeSegment s

/-- A text that spells a reference, with or without an alias, comes out with the same segments in
the same order, and a segment is quoted if it is a reserved word in any letter case, and only then.
All other text is trimmed and left alone. Escaping a second time changes nothing. -/
theorem escaping_quotes_reserved_once (d : Dialect) :
    (∀ (r : Reference) (s : String), FieldName.Spells ⟨r, none⟩ s →
      ∃ segments, List.Forall₂ d.Escapes r.segments segments ∧
        d.escapeIdentifier s = dotted segments) ∧
    (∀ (r label : Reference) (s : String), FieldName.Spells ⟨r, some label⟩ s →
      ∃ segments names, List.Forall₂ d.Escapes r.segments segments ∧
        List.Forall₂ d.Escapes label.segments names ∧
        d.escapeIdentifier s = dotted segments ++ " AS " ++ dotted names) ∧
    (∀ s, (∀ f : FieldName, ¬ f.Spells s) → TrimsTo s (d.escapeIdentifier s)) ∧
    ∀ s, d.escapeIdentifier (d.escapeIdentifier s) = d.escapeIdentifier s := by
  refine ⟨fun r s h => ?_, fun r label s h => ?_, fun s h => ?_, fun s => ?_⟩
  · refine ⟨_, d.escapes_segments r.segments, ?_⟩
    rw [FieldName.escapeIdentifier_eq, FieldName.ofText?_eq_some_iff.mpr h]
    exact String.append_empty
  · refine ⟨_, _, d.escapes_segments r.segments, d.escapes_segments label.segments, ?_⟩
    rw [FieldName.escapeIdentifier_eq, FieldName.ofText?_eq_some_iff.mpr h]
    exact String.append_assoc.symm
  · have hnone : FieldName.ofText? s = none := by
      rw [Option.eq_none_iff_forall_ne_some]
      exact fun f hf => h f (FieldName.ofText?_eq_some_iff.mp hf)
    rw [FieldName.escapeIdentifier_eq, hnone]
    exact trimsTo_trim s
  · rw [FieldName.escapeIdentifier_eq d s]
    cases hs : FieldName.ofText? s with
    | some f => exact FieldName.escapeIdentifier_escaped d f
    | none =>
      have htrim : FieldName.ofText? (trim s) = none := by
        rw [FieldName.ofText?, words_trim]
        exact hs
      rw [FieldName.escapeIdentifier_eq, htrim]
      exact trim_trim s

/-- A key of a joined table, under the name of a reserved word. -/
def joinedKey : Reference := ⟨["t", "Key"], by decide, by decide +kernel⟩

def userLabel : Reference := ⟨["user"], by decide, by decide +kernel⟩

/-- Its capital is no hindrance, and a second time neither name is quoted again. -/
theorem joinedKey_escaped : FieldName.Spells ⟨joinedKey, some userLabel⟩ "  t.Key\taS user\n" ∧
    Dialect.postgres.escapeIdentifier "  t.Key\taS user\n" = "t.\"Key\" AS \"user\"" ∧
    Dialect.postgres.escapeIdentifier "t.\"Key\" AS \"user\"" = "t.\"Key\" AS \"user\"" ∧
    TrimsTo " COUNT(*) AS total" (Dialect.postgres.escapeIdentifier " COUNT(*) AS total") := by
  obtain ⟨-, haliased, hother, honce⟩ := escaping_quotes_reserved_once .postgres
  have hspells : FieldName.Spells ⟨joinedKey, some userLabel⟩ "  t.Key\taS user\n" := by
    have htext : "  " ++ (joinedKey.text ++ "\t" ++ "aS" ++ " " ++ userLabel.text) ++ "\n" =
        "  t.Key\taS user\n" := by decide +kernel
    rw [← htext]
    exact .aliased joinedKey userLabel (by decide +kernel) (by decide +kernel)
      (.cons (.inl rfl) (.cons (.inr rfl) .nil)) (by decide +kernel) (by decide +kernel)
  have hescaped : Dialect.postgres.escapeIdentifier "  t.Key\taS user\n" =
      "t.\"Key\" AS \"user\"" := by
    obtain ⟨segments, names, hsegments, hnames, htext⟩ := haliased joinedKey userLabel _ hspells
    rcases hsegments with _ | ⟨ht, _ | ⟨hkey, ⟨⟩⟩⟩
    rcases hnames with _ | ⟨huser, ⟨⟩⟩
    rw [htext]
    cases ht with
    | reserved h => exact absurd h (by decide +kernel)
    | other =>
    cases hkey with
    | other h => exact absurd (by decide +kernel) h
    | reserved =>
    cases huser with
    | other h => exact absurd (by decide +kernel) h
    | reserved => decide +kernel
  have hexpression : ∀ f : FieldName, ¬ f.Spells " COUNT(*) AS total" := by
    intro f hf
    have hnone : (FieldName.ofText? " COUNT(*) AS total").isNone = true := by decide +kernel
    rw [FieldName.ofText?_eq_some_iff.mpr hf] at hnone
    cases hnone
  exact ⟨hspells, hescaped, hescaped ▸ honce "  t.Key\taS user\n", hother _ hexpression⟩

end Dialect
end SqlRecords
