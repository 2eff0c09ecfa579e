import SqlRecords.Proofs.Sql.Fragments
import SqlRecords.Query.Write

/-! MySQL's string literals, read back. A backslash is an escape there, but only quotes are doubled
when a value is written. -/
namespace SqlRecords.MySql
open Text

/-- What a backslash and the character after it stand for. The two wildcards keep theirs. -/
def escaped (c : Char) : List Char :=
  match c with
  | '0' => ['\x00']
  | 'b' => ['\x08']
  | 'n' => ['\n']
  | 'r' => ['\r']
  | 't' => ['\t']
  | 'Z' => ['\x1a']
  | '%' => ['\\', '%']
  | '_' => ['\\', '_']
  | c => [c]

/-- The value of a literal after its opening quote, and what follows the closing one. -/
def readBody? : List Char → Option (List Char × List Char)
  | [] => none
  | [c] => if c = '\'' then some ([], []) else none
  | c :: d :: rest =>
    if c = '\\' then (readBody? rest).map fun (s, after) => (escaped d ++ s, after)
    else if c = '\'' then
      if d = '\'' then (readBody? rest).map fun (s, after) => ('\'' :: s, after)
      else some ([], d :: rest)
    else (readBody? (d :: rest)).map fun (s, after) => (c :: s, after)

/-- The value of a literal, and what follows it. -/
def readLiteral? : List Char → Option (String × List Char)
  | [] => none
  | c :: rest =>
    if c = '\'' then (readBody? rest).map fun (s, after) => (String.ofList s, after) else none

/-- Whether every backslash stands right before a wildcard. -/
def isHarmless : List Char → Bool
  | [] => true
  | [c] => c != '\\'
  | c :: d :: rest =>
    if c = '\\' then (d == '%' || d == '_') && isHarmless rest else isHarmless (d :: rest)

/-- An escape stands for one character, or for itself before a wildcard. -/
theorem escaped_cases (c : Char) :
    (c = '%' ∨ c = '_') ∧ escaped c = ['\\', c] ∨
      c ≠ '%' ∧ c ≠ '_' ∧ (escaped c).length = 1 := by
  unfold escaped
  split <;> simp_all

theorem readBody?_backslash (c : Char) (rest : List Char) :
    readBody? ('\\' :: c :: rest) =
      (readBody? rest).map fun (s, after) => (escaped c ++ s, after) := by
  simp [readBody?]

theorem readBody?_quotes (rest : List Char) :
    readBody? ('\'' :: '\'' :: rest) =
      (readBody? rest).map fun (s, after) => ('\'' :: s, after) := by
  simp [readBody?]

theorem readBody?_quote {rest : List Char} (h : rest.head? ≠ some '\'') :
    readBody? ('\'' :: rest) = some ([], rest) := by
  cases rest with
  | nil => simp [readBody?]
  | cons d rest =>
    have hd : d ≠ '\'' := by simpa using h
    simp [readBody?, hd]

theorem readBody?_cons {c : Char} (hslash : c ≠ '\\') (hquote : c ≠ '\'') (rest : List Char) :
    readBody? (c :: rest) = (readBody? rest).map fun (s, after) => (c :: s, after) := by
  cases rest <;> simp [readBody?, hslash, hquote]

/-- A character other than a backslash is read back. -/
theorem readBody?_double_cons {c : Char} (hslash : c ≠ '\\') (s t : List Char) :
    readBody? (double '\'' (c :: s) ++ t) =
      (readBody? (double '\'' s ++ t)).map fun (v, after) => (c :: v, after) := by
  by_cases hquote : c = '\''
  · simp [double, hquote, readBody?_quotes]
  · simp [double, hquote, readBody?_cons hslash hquote]

/-- What was read in front of a value leaves the rest as it is. -/
theorem of_map_value {x : Option (List Char × List Char)} {f : List Char → List Char}
    {s after : List Char} (h : (x.map fun (v, rest) => (f v, rest)) = some (s, after)) :
    ∃ v, x = some (v, after) ∧ s = f v := by
  obtain ⟨⟨v, rest⟩, hx, heq⟩ := Option.map_eq_some_iff.mp h
  cases heq
  exact ⟨v, hx, rfl⟩

/-- Something is read whenever a literal ends. -/
theorem length_after {t s after : List Char} (h : readBody? t = some (s, after)) :
    after.length < t.length := by
  induction t using readBody?.induct generalizing s with
  | case1 => cases h
  | case2 => cases h; simp
  | case3 c hc => simp [readBody?, hc] at h
  | case4 d rest ih | case5 rest _ ih =>
    simp only [readBody?_backslash, readBody?_quotes] at h
    obtain ⟨v, hread, -⟩ := of_map_value h
    have := ih hread
    simp only [List.length_cons]
    omega
  | case6 d rest hd _ =>
    rw [readBody?_quote (by simpa using hd)] at h
    cases h
    simp
  | case7 c d rest hslash hquote ih =>
    rw [readBody?_cons hslash hquote] at h
    obtain ⟨v, hread, -⟩ := of_map_value h
    have := ih hread
    simp only [List.length_cons] at this ⊢
    omega

section
variable {rest : List Char}

/-- Once an escape has taken up a quote, the literal does not end where it should. -/
theorem after_ne_of_quote_taken {s v after : List Char}
    (h : readBody? ('\'' :: (double '\'' s ++ '\'' :: rest)) = some (v, after)) : after ≠ rest := by
  rintro rfl
  induction s generalizing v with
  | nil =>
    rw [double, List.nil_append, readBody?_quotes] at h
    obtain ⟨w, hread, -⟩ := of_map_value h
    have := length_after hread
    omega
  | cons c s ih =>
    by_cases hc : c = '\''
    · subst hc
      simp only [double, if_true, List.cons_append, readBody?_quotes] at h
      obtain ⟨w, hread, -⟩ := of_map_value h
      exact ih hread
    · simp only [double, hc, if_false, List.cons_append] at h
      rw [readBody?_quote (by simpa using hc)] at h
      obtain ⟨-, hafter⟩ := Prod.mk.inj (Option.some.inj h)
      have hlength := congrArg List.length hafter
      simp only [List.length_cons, List.length_append] at hlength
      omega

variable (hrest : rest.head? ≠ some '\'')
include hrest

/-- Text without escapes is read back. -/
theorem readBody?_of_isHarmless {s : List Char} (h : isHarmless s = true) :
    readBody? (double '\'' s ++ '\'' :: rest) = some (s, rest) := by
  induction s using isHarmless.induct with
  | case1 => exact readBody?_quote hrest
  | case2 c =>
    have hslash : c ≠ '\\' := by simpa [isHarmless] using h
    rw [readBody?_double_cons hslash, double, List.nil_append, readBody?_quote hrest]
    rfl
  | case3 d s ih =>
    simp only [isHarmless, if_true, Bool.and_eq_true, Bool.or_eq_true, beq_iff_eq] at h
    obtain ⟨rfl | rfl, hs⟩ := h <;> simp [double, readBody?_backslash, ih hs, escaped]
  | case4 c d s hslash ih =>
    simp only [isHarmless, hslash, if_false] at h
    rw [readBody?_double_cons hslash, ih h]
    rfl

/-- A literal that ends where it should has a value no longer than its text, and the same value
only if every backslash kept its place. -/
theorem isHarmless_of_readBody? {s v : List Char}
    (h : readBody? (double '\'' s ++ '\'' :: rest) = some (v, rest)) :
    v.length ≤ s.length ∧ (v = s → isHarmless s = true) := by
  induction s using isHarmless.induct generalizing v with
  | case1 =>
    rw [double, List.nil_append, readBody?_quote hrest] at h
    cases h
    simp [isHarmless]
  | case2 c =>
    by_cases hslash : c = '\\'
    · -- The escape takes up the closing quote.
      simp only [double, hslash] at h
      rw [if_neg (by decide), List.cons_append, List.nil_append, readBody?_backslash] at h
      obtain ⟨w, hread, -⟩ := of_map_value h
      have := length_after hread
      omega
    · rw [readBody?_double_cons hslash, double, List.nil_append, readBody?_quote hrest] at h
      cases h
      simp [isHarmless, hslash]
  | case3 d s ih =>
    rw [double, if_neg (by decide), double] at h
    split at h
    · -- The escape takes up the first of two quotes.
      rw [List.cons_append, List.cons_append, readBody?_backslash] at h
      obtain ⟨w, hread, -⟩ := of_map_value h
      exact absurd rfl (after_ne_of_quote_taken hread)
    · rw [List.cons_append, List.cons_append, readBody?_backslash] at h
      obtain ⟨w, hread, rfl⟩ := of_map_value h
      obtain ⟨hlength, hharmless⟩ := ih hread
      rcases escaped_cases d with ⟨hd, hescaped⟩ | ⟨-, -, hescaped⟩
      · simp only [hescaped, isHarmless, if_true, List.cons_append, List.nil_append,
          List.length_cons, List.cons.injEq, true_and, Bool.and_eq_true, Bool.or_eq_true,
          beq_iff_eq]
        exact ⟨by omega, fun hw => ⟨hd, hharmless hw⟩⟩
      · simp only [List.length_append, hescaped, List.length_cons]
        refine ⟨by omega, fun hv => ?_⟩
        have := congrArg List.length hv
        simp only [List.length_append, hescaped, List.length_cons] at this
        omega
  | case4 c d s hslash ih =>
    rw [readBody?_double_cons hslash] at h
    obtain ⟨w, hread, rfl⟩ := of_map_value h
    obtain ⟨hlength, hharmless⟩ := ih hread
    simp only [isHarmless, hslash, if_false, List.length_cons, List.cons.injEq, true_and] at *
    exact ⟨by omega, hharmless⟩

theorem readLiteral?_singleQuoted (s : String) :
    readLiteral? ((singleQuoted s).toList ++ rest) = some (s, rest) ↔
      isHarmless s.toList = true := by
  have htext : (singleQuoted s).toList ++ rest =
      '\'' :: (double '\'' s.toList ++ '\'' :: rest) := by
    simp [singleQuoted, quoted]
  simp only [htext, readLiteral?, if_true, Option.map_eq_some_iff, Prod.exists, Prod.mk.injEq]
  constructor
  · rintro ⟨v, after, hread, rfl, rfl⟩
    exact (isHarmless_of_readBody? hrest hread).2 String.toList_ofList.symm
  · intro h
    exact ⟨_, _, readBody?_of_isHarmless hrest h, String.ofList_toList, rfl⟩

end

/-- Members that are not bound, written out. -/
theorem memberList_render (field : String) (negated : Bool) {values : List Value}
    (hne : values ≠ []) :
    (memberList .mysql field negated values false).render .mysql =
      Dialect.mysql.escapeIdentifier field ++ membershipKeyword negated ++ "("
        ++ ", ".intercalate (values.map Dialect.mysql.literal) ++ ")" := by
  have hmembers : values.map (memberSql .mysql false) =
      (values.map Dialect.mysql.literal).map Sql.ofText := by
    rw [List.map_map]
    rfl
  rw [memberList, if_neg (by simpa using hne), hmembers]
  simp only [Sql.render, Sql.bracketed, Sql.renderAfter_append, Sql.renderAfter_ofText,
    Sql.renderAfter_join_ofText, String.append_assoc]

/-- A document that is not bound is written as a literal. -/
theorem assignment_json_render (column : String) (j : Json) :
    (assignment .mysql false column (.json j)).render .mysql =
      Dialect.mysql.escapeIdentifier column ++ " = " ++ Dialect.mysql.literal (.json j) := by
  have hvalue : writtenValue .mysql false (.json j) =
      Sql.ofText (Dialect.mysql.literal (.json j)) := rfl
  simp only [assignment, hvalue, Sql.render, Sql.renderAfter_append, Sql.renderAfter_ofText]

/-- The text that a value is written as between quotes. -/
def quotedText? : Value → Option String
  | .text s => some s
  | .json j => some j.render
  | _ => none

theorem literal_of_quotedText? {v : Value} {s : String} (h : quotedText? v = some s) :
    Dialect.mysql.literal v = singleQuoted s := by
  cases v <;> cases h <;> rfl

theorem length_after_literal {t after : List Char} {s : String}
    (h : readLiteral? t = some (s, after)) : after.length < t.length := by
  cases t with
  | nil => cases h
  | cons c t =>
    simp only [readLiteral?, Option.ite_none_right_eq_some, Option.map_eq_some_iff] at h
    obtain ⟨-, ⟨v, r⟩, hread, heq⟩ := h
    cases heq
    have := length_after hread
    simp only [List.length_cons]
    omega

/-- The values of a list of literals after its opening bracket, and what follows the closing one. -/
def readList? (t : List Char) : Option (List String × List Char) :=
  match _hread : readLiteral? t with
  | some (s, ')' :: rest) => some ([s], rest)
  | some (s, ',' :: ' ' :: after) =>
    (readList? after).map fun (values, rest) => (s :: values, rest)
  | _ => none
termination_by t.length
decreasing_by
  have := length_after_literal _hread
  simp only [List.length_cons] at this
  omega

theorem readList?_last {t rest : List Char} {s : String}
    (h : readLiteral? t = some (s, ')' :: rest)) : readList? t = some ([s], rest) := by
  rw [readList?]
  split <;> simp_all

theorem readList?_more {t after : List Char} {s : String}
    (h : readLiteral? t = some (s, ',' :: ' ' :: after)) :
    readList? t = (readList? after).map fun (values, rest) => (s :: values, rest) := by
  rw [readList?]
  split <;> simp_all

/-- Literals without escapes are read back one by one. -/
theorem readList?_literals {values : List Value} (hne : values ≠ [])
    (h : ∀ v ∈ values, ∃ s, quotedText? v = some s ∧ isHarmless s.toList = true)
    (rest : List Char) :
    readList? ((", ".intercalate (values.map Dialect.mysql.literal) ++ ")").toList ++ rest) =
      some (values.filterMap quotedText?, rest) := by
  induction values with
  | nil => exact absurd rfl hne
  | cons v values ih =>
    obtain ⟨⟨s, hs, hharmless⟩, hvalues⟩ := List.forall_mem_cons.mp h
    have hread (t : List Char) (ht : t.head? ≠ some '\'') :
        readLiteral? ((Dialect.mysql.literal v).toList ++ t) = some (s, t) := by
      rw [literal_of_quotedText? hs]
      exact (readLiteral?_singleQuoted ht s).mpr hharmless
    rw [List.filterMap_cons_some hs]
    cases values with
    | nil =>
      apply readList?_last
      simpa using hread (')' :: rest) (by simp)
    | cons w values =>
      have htail := ih (by simp) hvalues
      have hmore := readList?_more (hread
        (',' :: ' ' :: ((", ".intercalate ((w :: values).map Dialect.mysql.literal) ++ ")").toList
          ++ rest)) (by simp))
      rw [htail] at hmore
      rw [List.map_cons, List.map_cons, String.intercalate_cons_cons, ← List.map_cons]
      simp only [String.toList_append, List.append_assoc] at hmore ⊢
      exact hmore

/-- A text or a document is read back, whatever follows its literal, exactly if no backslash in it
is an escape. So it is with a document that is assigned without being bound, and then a list of
members that are not bound is read back as well. -/
theorem literal_read_back_iff (rest : List Char) (hrest : rest.head? ≠ some '\'') :
    (∀ s : String,
      readLiteral? ((Dialect.mysql.literal (.text s)).toList ++ rest) = some (s, rest) ↔
        isHarmless s.toList = true) ∧
    (∀ j : Json,
      readLiteral? ((Dialect.mysql.literal (.json j)).toList ++ rest) = some (j.render, rest) ↔
        isHarmless j.render.toList = true) ∧
    (∀ column j, ∃ written, (assignment .mysql false column (.json j)).render .mysql =
          Dialect.mysql.escapeIdentifier column ++ " = " ++ written ∧
        (readLiteral? (written.toList ++ rest) = some (j.render, rest) ↔
          isHarmless j.render.toList = true)) ∧
    ∀ field negated values, values ≠ [] →
      (∀ v ∈ values, ∃ s, quotedText? v = some s ∧ isHarmless s.toList = true) →
      ∃ members, (memberList .mysql field negated values false).render .mysql =
          Dialect.mysql.escapeIdentifier field ++ membershipKeyword negated ++ "(" ++ members ∧
        readList? (members.toList ++ rest) = some (values.filterMap quotedText?, rest) := by
  have hjson (j : Json) :
      readLiteral? ((Dialect.mysql.literal (.json j)).toList ++ rest) = some (j.render, rest) ↔
        isHarmless j.render.toList = true := readLiteral?_singleQuoted hrest j.render
  refine ⟨readLiteral?_singleQuoted hrest, hjson, ?_, ?_⟩
  · intro column j
    exact ⟨_, assignment_json_render column j, hjson j⟩
  · intro field negated values hne h
    refine ⟨", ".intercalate (values.map Dialect.mysql.literal) ++ ")", ?_,
      readList?_literals hne h rest⟩
    rw [memberList_render field negated hne, ← String.append_assoc]

theorem quotes_read_back :
    readLiteral? ((Dialect.mysql.literal (.text "o'neil")).toList ++ [')']) =
      some ("o'neil", [')']) ∧
    readLiteral? ((Dialect.mysql.literal (.json (.list [.text "it's"]))).toList ++ [')']) =
      some ("[\"it's\"]", [')']) ∧
    ∃ members, (memberList .mysql "name" false [.text "o'neil", .text "5\\%"] false).render .mysql =
        "name IN (" ++ members ∧
      readList? (members.toList ++ [')']) = some (["o'neil", "5\\%"], [')']) := by
  obtain ⟨htext, hjson, -, hmembers⟩ := literal_read_back_iff [')'] (by decide)
  have hfront : Dialect.mysql.escapeIdentifier "name" ++ membershipKeyword false ++ "(" =
      "name IN (" := by decide +kernel
  have hharmless : ∀ v ∈ [Value.text "o'neil", .text "5\\%"],
      ∃ s, quotedText? v = some s ∧ isHarmless s.toList = true := by
    simp [quotedText?, isHarmless]
  have hlist := hmembers "name" false _ (by simp) hharmless
  rw [hfront] at hlist
  exact ⟨(htext "o'neil").mpr (by decide +kernel), (hjson _).mpr (by decide +kernel), hlist⟩

/-- A backslash at the end of a text keeps the literal open, and one before a quote of a document is
lost. In a list the second member is then read as part of the statement. -/
theorem backslash_opens_literal :
    ¬ (∀ s : String, readLiteral? (Dialect.mysql.literal (.text s)).toList = some (s, [])) ∧
    ¬ (∀ j : Json,
      readLiteral? (Dialect.mysql.literal (.json j)).toList = some (j.render, [])) ∧
    (memberList .mysql "name" false [.text "\\", .text " OR 1=1 -- "] false).render .mysql =
      "name IN ('\\', ' OR 1=1 -- ')" ∧
    readLiteral? "'\\', ' OR 1=1 -- ')".toList = some ("', ", " OR 1=1 -- ')".toList) := by
  refine ⟨fun h => ?_, fun h => ?_, by decide +kernel, by decide +kernel⟩
  · have hopen : readLiteral? (Dialect.mysql.literal (.text "\\")).toList ≠ some ("\\", []) := by
      decide +kernel
    exact hopen (h "\\")
  · have hlost : readLiteral? (Dialect.mysql.literal (.json (.text "\""))).toList ≠
        some ((Json.text "\"").render, []) := by
      decide +kernel
    exact hlost (h (.text "\""))

end SqlRecords.MySql
