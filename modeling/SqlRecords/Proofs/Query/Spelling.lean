import SqlRecords.Proofs.Query.Connectors
import SqlRecords.Proofs.Sql.Fragments

/-! What the text of a predicate says about its connectors and brackets. No clause is made of the
characters of connectors and brackets alone, so between given clauses they can be told from it. -/
namespace SqlRecords

theorem Sql.mem_renderAfter {s : String} {sql : Sql} (h : .text s ∈ sql) (d : Dialect) (n : Nat)
    {c : Char} (hc : c ∈ s.toList) : c ∈ (sql.renderAfter d n).toList := by
  obtain ⟨front, back, rfl⟩ := List.append_of_mem h
  rw [List.append_cons, renderAfter_append, renderAfter_append]
  have hs (m : Nat) : renderAfter d m [.text s] = s := renderAfter_ofText d m s
  simp [hs, hc]

namespace Token

/-- Whether a character occurs in the texts of connectors and brackets. -/
def isJointChar (c : Char) : Bool := ['(', ')', ' ', 'A', 'N', 'D', 'O', 'R'].contains c

/-- The text of a connector or a bracket. -/
def jointText : Token → List Char
  | .connector .and => [' ', 'A', 'N', 'D', ' ']
  | .connector .or => [' ', 'O', 'R', ' ']
  | .opening => ['(']
  | .closing => [')']
  | _ => []

theorem joint_cases {t : Token} (ht : t.isClause = false) :
    t = .connector .and ∨ t = .connector .or ∨ t = .opening ∨ t = .closing := by
  cases t with
  | connector c => cases c <;> simp
  | opening | closing => simp
  | _ => cases ht

theorem isJointChar_of_mem {t : Token} (ht : t.isClause = false) {c : Char}
    (h : c ∈ t.jointText) : isJointChar c = true := by
  have hall : t.jointText.all isJointChar = true := by
    obtain rfl | rfl | rfl | rfl := joint_cases ht <;> rfl
  exact List.all_eq_true.mp hall c h

theorem jointText_ne_nil {t : Token} (ht : t.isClause = false) : t.jointText ≠ [] := by
  obtain rfl | rfl | rfl | rfl := joint_cases ht <;> exact List.cons_ne_nil _ _

/-- No connector or bracket begins with another. -/
theorem jointText_append_inj {t u : Token} (ht : t.isClause = false) (hu : u.isClause = false)
    {x y : List Char} (h : t.jointText ++ x = u.jointText ++ y) : t = u ∧ x = y := by
  obtain rfl | rfl | rfl | rfl := joint_cases ht <;>
    obtain rfl | rfl | rfl | rfl := joint_cases hu <;> simp_all [jointText]

/-- Connectors and brackets can be told from their texts. -/
theorem flatMap_jointText_injective {ts us : List Token} (hts : ∀ t ∈ ts, t.isClause = false)
    (hus : ∀ u ∈ us, u.isClause = false) (h : ts.flatMap jointText = us.flatMap jointText) :
    ts = us := by
  induction ts generalizing us with
  | nil =>
    cases us with
    | nil => rfl
    | cons u us =>
      have hempty := (List.append_eq_nil_iff.mp h.symm).1
      exact absurd hempty (jointText_ne_nil (hus u List.mem_cons_self))
  | cons t ts ih =>
    obtain ⟨ht, hts⟩ := List.forall_mem_cons.mp hts
    cases us with
    | nil => exact absurd (List.append_eq_nil_iff.mp h).1 (jointText_ne_nil ht)
    | cons u us =>
      obtain ⟨hu, hothers⟩ := List.forall_mem_cons.mp hus
      obtain ⟨rfl, hrest⟩ := jointText_append_inj ht hu h
      rw [ih hts hothers hrest]

/-- Every clause has a character that no connector and no bracket has. -/
theorem exists_foreign_char {t : Token} (ht : t.isClause = true) {d : Dialect} {l : Lexeme}
    (h : t.lexeme d = .ok l) (n : Nat) :
    ∃ c ∈ (l.written.renderAfter d n).toList, isJointChar c = false := by
  have hpiece (s : String) (c : Char) (hs : .text s ∈ l.written) (hc : c ∈ s.toList)
      (hforeign : isJointChar c = false) :
      ∃ c ∈ (l.written.renderAfter d n).toList, isJointChar c = false :=
    ⟨c, Sql.mem_renderAfter hs d n hc, hforeign⟩
  cases t with
  | connector c => cases ht
  | opening => cases ht
  | closing => cases ht
  | compare field comparison v bound =>
    cases h
    have hsymbol : ∃ c ∈ comparison.symbol.toList, isJointChar c = false := by
      cases comparison
      case like | notLike => exact ⟨'L', by decide +kernel, rfl⟩
      case less | lessOrEqual => exact ⟨'<', by decide +kernel, rfl⟩
      case greater | greaterOrEqual | notEqual => exact ⟨'>', by decide +kernel, rfl⟩
      case equal => exact ⟨'=', by decide +kernel, rfl⟩
    obtain ⟨c, hc, hforeign⟩ := hsymbol
    exact hpiece _ c List.mem_cons_self (by simp [hc]) hforeign
  | nullness field isNull =>
    cases h
    refine hpiece _ 'I' List.mem_cons_self ?_ rfl
    cases isNull <;> simp
  | membership field negated members =>
    have hkeyword : 'I' ∈ (d.escapeIdentifier field ++ membershipKeyword negated).toList := by
      cases negated <;> simp [membershipKeyword]
    obtain ⟨sql, hsql, h⟩ := bind_eq_ok.mp h
    cases h
    cases members with
    | values values bound =>
      cases hsql
      cases values with
      | nil =>
        refine hpiece _ '1' List.mem_cons_self ?_ rfl
        cases negated <;> simp
      | cons v rest => exact hpiece _ 'I' List.mem_cons_self hkeyword rfl
    | rows query =>
      obtain ⟨inner, -, hsql⟩ := bind_eq_ok.mp hsql
      cases hsql
      exact hpiece _ 'I' List.mem_cons_self hkeyword rfl
  | between field low high =>
    cases h
    exact hpiece _ 'B' List.mem_cons_self (by simp) rfl

end Token

namespace Predicate

/-- What tokens are written as when `n` slots have been numbered before. -/
inductive Spells (d : Dialect) : Nat → List Token → List Char → Prop
  | nil (n : Nat) : Spells d n [] []
  | cons {n : Nat} {t : Token} {l : Lexeme} {rest : List Token} {text : List Char}
      (ht : t.lexeme d = .ok l) (hrest : Spells d (n + l.written.params.length) rest text) :
      Spells d n (t :: rest) ((l.written.renderAfter d n).toList ++ text)

theorem spells_of_lexemes {d : Dialect} {ts : List Token} {ls : List Lexeme}
    (h : Token.lexemes d ts = .ok ls) (n : Nat) :
    Spells d n ts (String.join (Lexeme.texts d n ls)).toList := by
  induction ts generalizing ls n with
  | nil =>
    cases h
    exact .nil n
  | cons t rest ih =>
    obtain ⟨l, hl, h⟩ := bind_eq_ok.mp h
    obtain ⟨ls', hls, h⟩ := bind_eq_ok.mp h
    cases h
    rw [Lexeme.texts, String.join_cons, String.toList_append]
    exact .cons hl (ih hls _)

variable {d : Dialect} {n : Nat}

/-- What connectors and brackets are written as stands in front of the rest. -/
theorem Spells.joints {ts us : List Token} {text : List Char} (h : Spells d n (ts ++ us) text)
    (hts : ∀ t ∈ ts, t.isClause = false) :
    ∃ rest, text = ts.flatMap Token.jointText ++ rest ∧ Spells d n us rest := by
  induction ts generalizing text with
  | nil => exact ⟨text, rfl, h⟩
  | cons t ts ih =>
    obtain ⟨ht, hts⟩ := List.forall_mem_cons.mp hts
    cases h with
    | @cons _ _ l _ text hl hrest =>
    have hwritten : l.written.params = [] ∧
        (l.written.renderAfter d n).toList = t.jointText := by
      obtain rfl | rfl | rfl | rfl := Token.joint_cases ht <;> cases hl <;>
        refine ⟨rfl, ?_⟩ <;> rw [Lexeme.written, Sql.renderAfter_ofText] <;> decide +kernel
    rw [hwritten.1] at hrest
    obtain ⟨rest, rfl, hus⟩ := ih hrest hts
    refine ⟨rest, ?_, hus⟩
    rw [hwritten.2, List.flatMap_cons, List.append_assoc]

/-- Texts with the same word behind characters that the word does not consist of are split
alike. -/
theorem append_inj_of_foreign {p : Char → Bool} {a b word x y : List Char}
    (ha : ∀ c ∈ a, p c = true) (hb : ∀ c ∈ b, p c = true) (hword : ∃ c ∈ word, p c = false)
    (h : a ++ (word ++ x) = b ++ (word ++ y)) : a = b ∧ x = y := by
  have hfirst {front : List Char} (hfront : ∀ c ∈ front, p c = true) (behind : List Char) :
      (front ++ (word ++ behind)).takeWhile p = front ++ word.takeWhile p := by
    have hstops : (word.takeWhile p).length ≠ word.length := by
      obtain ⟨c, hc, hforeign⟩ := hword
      intro hlength
      have hall := List.IsPrefix.eq_of_length (List.takeWhile_prefix p) hlength
      have hjoint := List.all_takeWhile (p := p) (l := word)
      rw [hall] at hjoint
      rw [List.all_eq_true.mp hjoint c hc] at hforeign
      cases hforeign
    rw [List.takeWhile_append_of_pos hfront, List.takeWhile_append, if_neg hstops]
  have hstart := congrArg (List.takeWhile p) h
  rw [hfirst ha, hfirst hb] at hstart
  cases List.append_cancel_right hstart
  exact ⟨rfl, List.append_cancel_left (List.append_cancel_left h)⟩

/-- A text with given clauses has its connectors and brackets in one way only. -/
theorem Spells.unique {ts us : List Token} {text : List Char} (hts : Spells d n ts text)
    (hus : Spells d n us text) (h : ts.filter Token.isClause = us.filter Token.isClause) :
    ts = us := by
  -- On the clauses: up to the next one both texts have nothing but connectors and brackets.
  induction hclauses : ts.filter Token.isClause generalizing n ts us text with
  | nil =>
    have hjoints {vs : List Token} (hvs : vs.filter Token.isClause = []) (t : Token)
        (ht : t ∈ vs) : t.isClause = false := by
      simpa using List.filter_eq_nil_iff.mp hvs t ht
    rw [hclauses] at h
    have htsOnly := hjoints hclauses
    have husOnly := hjoints h.symm
    rw [← List.append_nil ts] at hts
    rw [← List.append_nil us] at hus
    obtain ⟨_, rfl, hnil⟩ := hts.joints htsOnly
    cases hnil
    obtain ⟨_, htext, hnil⟩ := hus.joints husOnly
    cases hnil
    rw [List.append_nil, List.append_nil] at htext
    exact Token.flatMap_jointText_injective htsOnly husOnly htext
  | cons t clauses ih =>
    rw [hclauses] at h
    obtain ⟨gap, rest, rfl, hgap, ht, hrest⟩ := List.filter_eq_cons_iff.mp hclauses
    obtain ⟨gap', rest', rfl, hgap', -, hrest'⟩ := List.filter_eq_cons_iff.mp h.symm
    have hgap : ∀ x ∈ gap, x.isClause = false := by simpa using hgap
    have hgap' : ∀ x ∈ gap', x.isClause = false := by simpa using hgap'
    obtain ⟨_, rfl, hword⟩ := hts.joints hgap
    obtain ⟨_, htext, hword'⟩ := hus.joints hgap'
    cases hword with
    | cons hl hbehind =>
    cases hword' with
    | cons hl' hbehind' =>
    cases hl.symm.trans hl'
    have hchars {vs : List Token} (hvs : ∀ x ∈ vs, x.isClause = false) :
        ∀ c ∈ vs.flatMap Token.jointText, Token.isJointChar c = true := by
      intro c hc
      obtain ⟨x, hx, hc⟩ := List.mem_flatMap.mp hc
      exact Token.isJointChar_of_mem (hvs x hx) hc
    obtain ⟨hgaps, rfl⟩ := append_inj_of_foreign (hchars hgap) (hchars hgap')
      (Token.exists_foreign_char ht hl n) htext
    rw [Token.flatMap_jointText_injective hgap hgap' hgaps,
      ih hbehind hbehind' (hrest.trans hrest'.symm) hrest]

end Predicate
end SqlRecords
