import Mathlib.Data.List.Chain
import SqlRecords.Proofs.Query.Clauses
import SqlRecords.Proofs.Query.Precedence
import SqlRecords.Proofs.Query.Spelling

/-! Which predicates are written as sentences: operands with connectors between them, where an
operand is a clause or a sentence in brackets. -/
namespace SqlRecords.Predicate

/-- Brackets that are open behind tokens if `n` were open before them, and nothing where a bracket
is closed that is not open. -/
def openAfter (n : Nat) : List Token → Option Nat
  | [] => some n
  | .opening :: rest => openAfter (n + 1) rest
  | .closing :: rest => if n = 0 then none else openAfter (n - 1) rest
  | _ :: rest => openAfter n rest

/-- Whether no bracket is closed that is not open, and none is left open. -/
def IsBalanced (p : Predicate) : Prop := openAfter 0 p = some 0

/-- Whether some bracket has neither a clause nor a bracket in it, but connectors at the most. -/
def HasEmptyBracket (p : Predicate) : Prop :=
  ∃ (front back : List Token) (between : List Connector),
    p = front ++ .opening :: (between.map .connector ++ .closing :: back)

inductive Phrase where
  | term | expression

/-- The grammar of predicates: an expression is terms with connectors between them, and a term is a
clause or an expression in brackets. -/
inductive Derives : Phrase → List Token → Prop
  | clause {t : Token} (ht : t.isClause = true) : Derives .term [t]
  | bracketed {ts : List Token} (hts : Derives .expression ts) :
      Derives .term (.opening :: (ts ++ [.closing]))
  | term {ts : List Token} (hts : Derives .term ts) : Derives .expression ts
  | joined {ts us : List Token} (hts : Derives .expression ts) (c : Connector)
      (hus : Derives .term us) : Derives .expression (ts ++ .connector c :: us)

/-- Tokens other than connectors: clauses and brackets. -/
def operandTokens (ts : List Token) : List Token := ts.filter (!·.isConnector)

/-- Whether a text, of which the slots are numbered behind `n` others, is a sentence of the clauses
of a predicate, whatever brackets and connectors it has between them. -/
def IsSentence (d : Dialect) (n : Nat) (p : Predicate) (text : String) : Prop :=
  ∃ ts ls, Derives .expression ts ∧ ts.filter Token.isClause = p.filter Token.isClause ∧
    Token.lexemes d ts = .ok ls ∧ text = String.join (Lexeme.texts d n ls)

theorem operandTokens_append (ts us : List Token) :
    operandTokens (ts ++ us) = operandTokens ts ++ operandTokens us := List.filter_append ..

theorem operandTokens_connectors (cs : List Connector) (ts : List Token) :
    operandTokens (cs.map .connector ++ ts) = operandTokens ts := by
  induction cs with
  | nil => rfl
  | cons c rest ih => exact ih

/-- An expression may follow an expression behind any connector. -/
theorem Derives.append {ts us : List Token} {phrase : Phrase} (hus : Derives phrase us)
    (hts : Derives .expression ts) (c : Connector) :
    Derives .expression (ts ++ .connector c :: us) := by
  induction hus with
  | clause ht => exact .joined hts c (.clause ht)
  | bracketed h _ => exact .joined hts c (.bracketed h)
  | term _ ih => exact ih
  | joined _ c' h ih _ =>
    rw [← List.cons_append, ← List.append_assoc]
    exact .joined ih c' h

/-- What has a value is a sentence. -/
theorem Reads.derives {holds : Token → Bool} {rank : Rank} {ts : List Token} {a : Bool}
    (h : Reads holds rank ts a) :
    Derives (if rank = .operand then .term else .expression) ts := by
  induction h with
  | clause ht => exact .clause ht
  | bracketed _ ih => exact .bracketed ih
  | operand _ ih => exact .term ih
  | and _ _ ihts ihus => exact .joined ihts .and ihus
  | conjunction _ ih => exact ih
  | or _ _ ihts ihus => exact ihus.append ihts .or

/-- Tokens behind `n` open brackets: what stands in each of them up to where it is closed, the
innermost first, and what stands behind them all. -/
def Closes : Nat → List Token → Prop
  | 0, ts => Balanced ts
  | n + 1, ts => ∃ inner rest, ts = inner ++ .closing :: rest ∧ Balanced inner ∧ Closes n rest

/-- Tokens that balanced ones may follow may also stand in front of what closes brackets. -/
theorem Closes.after {n : Nat} {ts : List Token} (h : Closes n ts) (front : List Token)
    (hfront : ∀ ts, Balanced ts → Balanced (front ++ ts)) : Closes n (front ++ ts) := by
  cases n with
  | zero => exact hfront ts h
  | succ n =>
    obtain ⟨inner, rest, rfl, hinner, hrest⟩ := h
    exact ⟨front ++ inner, rest, (List.append_assoc ..).symm, hfront inner hinner, hrest⟩

/-- Balanced tokens without a clause are connectors. -/
theorem Balanced.hasClause_or_connectors {ts : List Token} (h : Balanced ts) :
    hasClause ts = true ∨ ∃ cs : List Connector, ts = cs.map .connector := by
  induction h with
  | nil => exact .inr ⟨[], rfl⟩
  | connector c _ ih =>
    obtain hclause | ⟨cs, rfl⟩ := ih
    · exact .inl hclause
    · exact .inr ⟨c :: cs, rfl⟩
  | clause ht _ _ =>
    rw [hasClause_cons, ht]
    exact .inl rfl
  | bracketed hclause _ _ _ _ =>
    rw [hasClause_bracketed, hclause]
    exact .inl rfl

theorem HasEmptyBracket.cons {p : Predicate} (h : HasEmptyBracket p) (t : Token) :
    HasEmptyBracket (t :: p) := by
  obtain ⟨front, back, between, rfl⟩ := h
  exact ⟨t :: front, back, between, rfl⟩

/-- Brackets that are counted to balance do so by their structure if none of them is empty. -/
theorem closes_of_openAfter {n : Nat} {p : List Token} (h : openAfter n p = some 0)
    (hempty : ¬ HasEmptyBracket p) : Closes n p := by
  induction p generalizing n with
  | nil =>
    cases Option.some.inj h
    exact .nil
  | cons t rest ih =>
    have hrest : ¬ HasEmptyBracket rest := fun hrest => hempty (hrest.cons t)
    have hclause (ht : t.isClause = true) (hcount : openAfter n rest = some 0) :
        Closes n (t :: rest) :=
      (ih hcount hrest).after [t] fun _ => Balanced.clause ht
    cases t with
    | connector c => exact (ih h hrest).after [.connector c] fun _ => Balanced.connector c
    | opening =>
      obtain ⟨inner, behind, rfl, hinner, hbehind⟩ := ih h hrest
      obtain hfull | ⟨between, rfl⟩ := hinner.hasClause_or_connectors
      · rw [List.append_cons, ← List.cons_append]
        refine hbehind.after _ fun ts hts => ?_
        rw [List.cons_append, ← List.append_cons]
        exact .bracketed hfull hinner hts
      · exact absurd ⟨[], behind, between, rfl⟩ hempty
    | closing =>
      unfold openAfter at h
      split at h
      · cases h
      · next hn =>
        obtain ⟨m, rfl⟩ := Nat.exists_eq_succ_of_ne_zero hn
        exact ⟨[], rest, rfl, .nil, ih h hrest⟩
    | compare field comparison v bound => exact hclause rfl h
    | nullness field isNull => exact hclause rfl h
    | membership field negated members => exact hclause rfl h
    | between field low high => exact hclause rfl h

/-- The clauses and brackets of a sentence: one begins it, one ends it, and where one does not end
an operand the next one starts one. -/
theorem Derives.operands {phrase : Phrase} {ts : List Token} (h : Derives phrase ts) :
    operandTokens ts ≠ [] ∧ (∀ x ∈ (operandTokens ts).head?, x.startsOperand = true) ∧
      (∀ x ∈ (operandTokens ts).getLast?, x.endsOperand = true) ∧
      (operandTokens ts).IsChain fun x y => x.endsOperand = true ∨ y.startsOperand = true := by
  induction h with
  | @clause t ht =>
    obtain ⟨hconnector, hstarts, hends⟩ := word_of_isClause ht
    simp [operandTokens, hconnector, hstarts, hends]
  | @bracketed ts _ ih =>
    obtain ⟨hne, hhead, hlast, hchain⟩ := ih
    have hwords : operandTokens (.opening :: (ts ++ [.closing])) =
        .opening :: (operandTokens ts ++ [.closing]) :=
      congrArg (List.cons Token.opening) (operandTokens_append ts [.closing])
    obtain ⟨first, rest, hfirst⟩ := List.exists_cons_of_ne_nil hne
    rw [hwords]
    refine ⟨List.cons_ne_nil _ _, by simp [Token.startsOperand], ?_, ?_⟩
    · rw [← List.cons_append, List.getLast?_concat]
      rintro x hx
      cases Option.some.inj hx
      rfl
    · rw [List.isChain_cons, List.isChain_append]
      refine ⟨fun x hx => .inr (hhead x ?_), hchain, List.isChain_singleton _, ?_⟩
      · rw [hfirst] at hx ⊢
        exact hx
      · exact fun x hx y _ => .inl (hlast x hx)
  | term _ ih => exact ih
  | @joined ts us _ c _ ihts ihus =>
    obtain ⟨hne, hhead, hlast, hchain⟩ := ihts
    obtain ⟨hne', hhead', hlast', hchain'⟩ := ihus
    have hwords : operandTokens (ts ++ .connector c :: us) =
        operandTokens ts ++ operandTokens us := operandTokens_append ts _
    rw [hwords]
    refine ⟨by simp [hne], ?_, ?_, ?_⟩
    · rwa [List.head?_append_of_ne_nil _ hne]
    · rwa [List.getLast?_append_of_ne_nil _ hne']
    · exact List.isChain_append.mpr ⟨hchain, hchain', fun x hx y _ => .inl (hlast x hx)⟩

/-- No sentence has an empty bracket. -/
theorem Derives.not_hasEmptyBracket {ts : List Token} (h : Derives .expression ts) {p : Predicate}
    (hwords : operandTokens ts = operandTokens p) : ¬ HasEmptyBracket p := by
  rintro ⟨front, back, between, rfl⟩
  obtain ⟨-, -, -, hchain⟩ := h.operands
  have hpair : operandTokens (front ++ .opening :: (between.map .connector ++ .closing :: back)) =
      operandTokens front ++ .opening :: .closing :: operandTokens back := by
    rw [operandTokens_append]
    exact congrArg (operandTokens front ++ .opening :: ·) (operandTokens_connectors between _)
  rw [hwords, hpair, List.isChain_append, List.isChain_cons_cons] at hchain
  obtain hends | hstarts := hchain.2.1.1
  · cases hends
  · cases hstarts

theorem filter_isClause_congr {ts us : List Token} (h : operandTokens ts = operandTokens us) :
    ts.filter Token.isClause = us.filter Token.isClause := by
  have hwords (ts : List Token) :
      ts.filter Token.isClause = (operandTokens ts).filter Token.isClause := by
    rw [operandTokens, List.filter_filter]
    refine List.filter_congr fun t _ => ?_
    cases t <;> rfl
  rw [hwords, hwords us, h]

/-- What a predicate with its brackets in order is written as, if none of them is empty. -/
theorem exists_derivation {p : Predicate} (hbalanced : p.IsBalanced) (hclause : p.hasClause = true)
    (hempty : ¬ p.HasEmptyBracket) {d : Dialect} {sql : Sql} (h : p.sql d = .ok sql) :
    ∃ ts ls, Derives .expression ts ∧ operandTokens ts = operandTokens p ∧
      Token.lexemes d ts = .ok ls ∧ ∀ n, sql.renderAfter d n = String.join (Lexeme.texts d n ls) := by
  have hp : Balanced p := closes_of_openAfter hbalanced hempty
  obtain ⟨a, ha⟩ := (hp.reads (fun _ => true) none).2 hclause
  rw [sql_eq_written] at h
  obtain ⟨ls, hls, rfl⟩ := map_eq_ok.mp h
  exact ⟨p.connected, ls, ha.derives, filter_connect none false p, hls,
    fun n => (Lexeme.join_texts d n ls).symm⟩

/-- A sentence that is written as a predicate is has the brackets of that predicate. -/
theorem eq_connected_of_text {p : Predicate} {d : Dialect} {sql : Sql} (h : p.sql d = .ok sql)
    {n : Nat} {ts : List Token} {ls : List Lexeme} (hls : Token.lexemes d ts = .ok ls)
    (hclauses : ts.filter Token.isClause = p.filter Token.isClause)
    (htext : sql.renderAfter d n = String.join (Lexeme.texts d n ls)) : ts = p.connected := by
  rw [sql_eq_written] at h
  obtain ⟨written, hwritten, rfl⟩ := map_eq_ok.mp h
  have hsame : String.join (Lexeme.texts d n ls) = String.join (Lexeme.texts d n written) := by
    rw [← htext, Lexeme.join_texts]
  have hts := spells_of_lexemes hls n
  rw [hsame] at hts
  have hconnected := filter_isClause_congr (filter_connect none false p)
  exact hts.unique (spells_of_lexemes hwritten n) (hclauses.trans hconnected.symm)

theorem isSentence_iff {p : Predicate} (hbalanced : p.IsBalanced) (hclause : p.hasClause = true)
    {d : Dialect} {sql : Sql} (h : p.sql d = .ok sql) (n : Nat) :
    IsSentence d n p (sql.renderAfter d n) ↔ ¬ p.HasEmptyBracket := by
  constructor
  · rintro ⟨ts, ls, hts, hclauses, hls, htext⟩
    cases eq_connected_of_text h hls hclauses htext
    exact hts.not_hasEmptyBracket (filter_connect none false p)
  · intro hempty
    obtain ⟨ts, ls, hts, hwords, hls, htext⟩ := exists_derivation hbalanced hclause hempty h
    exact ⟨ts, ls, hts, filter_isClause_congr hwords, hls, htext n⟩

/-- An empty bracket is written as it stands. -/
theorem HasEmptyBracket.written {p : Predicate} (h : p.HasEmptyBracket) {d : Dialect} {sql : Sql}
    (hsql : p.sql d = .ok sql) :
    ∃ front back, sql = front ++ (Sql.ofText "(" ++ Sql.ofText ")") ++ back := by
  obtain ⟨front, back, between, rfl⟩ := h
  obtain ⟨pending, afterOperand, hconnected⟩ : ∃ pending afterOperand,
      connected (front ++ .opening :: (between.map .connector ++ .closing :: back)) =
        (connected front ++ joint pending afterOperand) ++ [.opening, .closing]
          ++ connect none true back := by
    refine ⟨pendingAfter none front, endsOperand false front, ?_⟩
    unfold connected
    rw [connect_append, connect_word _ _ _ rfl, connect_connectors, connect_word _ _ back rfl]
    simp [Token.startsOperand, Token.endsOperand, joint]
  rw [sql_eq_written, hconnected, Token.lexemes_append, Token.lexemes_append] at hsql
  obtain ⟨ls, hls, rfl⟩ := map_eq_ok.mp hsql
  obtain ⟨frontLexemes, hfront, hls⟩ := bind_eq_ok.mp hls
  obtain ⟨backLexemes, hback, hls⟩ := bind_eq_ok.mp hls
  obtain ⟨beforeLexemes, -, hfront⟩ := bind_eq_ok.mp hfront
  cases hfront
  cases hls
  exact ⟨beforeLexemes.flatMap Lexeme.written, backLexemes.flatMap Lexeme.written, by
    simp [Lexeme.written]⟩

/-- Where a predicate with a clause stands in a SELECT. -/
theorem predicate_of_clauses {q : Query} {d : Dialect} {place : Place} {c : Clauses}
    (h : q.clauses d place = .ok c) (hclause : Predicate.hasClause q.predicate = true) :
    ∃ sql, Predicate.sql d q.predicate = .ok sql ∧ c.predicate = some sql := by
  obtain ⟨_, _, _, _, lexemes, -, -, -, -, hl, rfl⟩ := Query.clauses_eq_ok_iff.mp h
  exact ⟨Lexeme.sql lexemes, by rw [sql, hl, map_ok], if_pos hclause⟩

theorem on_of_join {p : Predicate} (hclause : p.hasClause = true) {d : Dialect} {kind : JoinKind}
    {target : Source} {joined : Sql} (h : Join.sql d ⟨kind, target, p⟩ = .ok joined) :
    ∃ front on, p.sql d = .ok on ∧ joined = front ++ (Sql.ofText " ON " ++ on) := by
  unfold Join.sql at h
  obtain ⟨targetSql, -, h⟩ := bind_eq_ok.mp h
  obtain ⟨lexemes, hl, h⟩ := bind_eq_ok.mp h
  rw [if_pos hclause] at h
  exact ⟨Sql.ofText (" " ++ kind.text ++ " ") ++ targetSql, Lexeme.sql lexemes,
    by rw [sql, hl, map_ok], (Except.ok.inj h).symm⟩

theorem condition_of_weight {p : Predicate} {d : Dialect} {score : Double} {otherwise : Otherwise}
    {weight : Sql} (h : Weight.sql d ⟨p, score, otherwise⟩ = .ok weight) :
    ∃ condition other, p.sql d = .ok condition ∧
      weight = Sql.conditional d condition (Sql.ofText score.text) other := by
  unfold Weight.sql at h
  obtain ⟨lexemes, hl, h⟩ := bind_eq_ok.mp h
  obtain ⟨other, -, h⟩ := bind_eq_ok.mp h
  exact ⟨Lexeme.sql lexemes, other, by rw [sql, hl, map_ok], (Except.ok.inj h).symm⟩

/-- The text of a predicate with balanced brackets and a clause is a sentence exactly when none of
its brackets is empty. It is then one with the brackets of the predicate, and an empty bracket is
written as it stands. That text follows WHERE in a SELECT, an UPDATE and a DELETE, it follows ON in
a join, and it is the condition of a weight. -/
theorem text_is_sentence_iff {p : Predicate} (hbalanced : p.IsBalanced)
    (hclause : p.hasClause = true) (d : Dialect) :
    (∀ sql, p.sql d = .ok sql →
      (∀ n, IsSentence d n p (sql.renderAfter d n) ↔ ¬ p.HasEmptyBracket) ∧
      (¬ p.HasEmptyBracket → ∃ ts ls, Derives .expression ts ∧
        operandTokens ts = operandTokens p ∧ Token.lexemes d ts = .ok ls ∧
        ∀ n, sql.renderAfter d n = String.join (Lexeme.texts d n ls)) ∧
      (p.HasEmptyBracket →
        ∃ front back, sql = front ++ (Sql.ofText "(" ++ Sql.ofText ")") ++ back)) ∧
    (∀ (q : Query) (place : Place) (c : Clauses), q.predicate = p → q.clauses d place = .ok c →
      ∃ sql, p.sql d = .ok sql ∧ c.predicate = some sql) ∧
    (∀ sql, p.whereSql d = .ok sql →
      ∃ condition, p.sql d = .ok condition ∧ sql = Sql.ofText " WHERE " ++ condition) ∧
    (∀ (kind : JoinKind) (target : Source) (sql : Sql), Join.sql d ⟨kind, target, p⟩ = .ok sql →
      ∃ front on, p.sql d = .ok on ∧ sql = front ++ (Sql.ofText " ON " ++ on)) ∧
    ∀ (score : Double) (otherwise : Otherwise) (sql : Sql),
      Weight.sql d ⟨p, score, otherwise⟩ = .ok sql →
      ∃ condition other, p.sql d = .ok condition ∧
        sql = Sql.conditional d condition (Sql.ofText score.text) other := by
  refine ⟨fun sql h => ⟨isSentence_iff hbalanced hclause h,
      fun hempty => exists_derivation hbalanced hclause hempty h, fun hempty => hempty.written h⟩,
    ?_, ?_, fun _ _ _ => on_of_join hclause, fun _ _ _ => condition_of_weight⟩
  · rintro q place c rfl h
    exact predicate_of_clauses h hclause
  · intro sql h
    rw [whereSql, if_pos hclause] at h
    obtain ⟨condition, hcondition, rfl⟩ := map_eq_ok.mp h
    exact ⟨condition, hcondition, rfl⟩

/-- A group with one alternative, in front of a clause. -/
def filledGroup : Predicate := [.opening, .nullness "b" true, .closing, .nullness "a" true]

/-- A group whose alternatives turned out to be none. -/
def emptyGroup : Predicate := [.opening, .closing, .nullness "a" true]

/-- The text of a filled group is a sentence, and that of an empty one is not. -/
theorem groups_sentence : filledGroup.IsBalanced ∧ filledGroup.hasClause = true ∧
    IsSentence .mysql 0 filledGroup "(b IS NULL) AND a IS NULL" ∧
    emptyGroup.IsBalanced ∧ emptyGroup.hasClause = true ∧
    ¬ IsSentence .mysql 0 emptyGroup "() AND a IS NULL" := by
  have hfilled : (filledGroup.sql .mysql).map (·.renderAfter .mysql 0) =
      .ok "(b IS NULL) AND a IS NULL" := by decide +kernel
  have hempty : (emptyGroup.sql .mysql).map (·.renderAfter .mysql 0) =
      .ok "() AND a IS NULL" := by decide +kernel
  obtain ⟨filled, hfilledSql, hfilledText⟩ := map_eq_ok.mp hfilled
  obtain ⟨empty, hemptySql, hemptyText⟩ := map_eq_ok.mp hempty
  have hderives : Derives .expression
      [.opening, .nullness "b" true, .closing, .connector .and, .nullness "a" true] :=
    .joined (.term (.bracketed (.term (.clause rfl)))) .and (.clause rfl)
  have hfilledBalanced : filledGroup.IsBalanced := rfl
  have hemptyBalanced : emptyGroup.IsBalanced := rfl
  have hfilledIff := (text_is_sentence_iff hfilledBalanced rfl .mysql).1 filled hfilledSql
  have hemptyIff := (text_is_sentence_iff hemptyBalanced rfl .mysql).1 empty hemptySql
  refine ⟨hfilledBalanced, rfl, ?_, hemptyBalanced, rfl, ?_⟩
  · rw [← hfilledText, hfilledIff.1 0]
    exact hderives.not_hasEmptyBracket rfl
  · rw [← hemptyText, hemptyIff.1 0]
    exact not_not_intro ⟨[], [.nullness "a" true], [], rfl⟩

/-- Balanced brackets and a clause do not make a sentence. -/
theorem balanced_text_not_always_sentence : ¬ ∀ (d : Dialect) (n : Nat) (p : Predicate) (sql : Sql),
    p.IsBalanced → p.hasClause = true → p.sql d = .ok sql →
      IsSentence d n p (sql.renderAfter d n) := by
  intro h
  have hempty : emptyGroup.HasEmptyBracket := ⟨[], [.nullness "a" true], [], rfl⟩
  have hbalanced : emptyGroup.IsBalanced := rfl
  have hsentence := h .mysql 0 emptyGroup _ hbalanced rfl rfl
  exact (isSentence_iff hbalanced rfl rfl 0).mp hsentence hempty

end SqlRecords.Predicate
