import SqlRecords.Proofs.Query.Connectors

/-! Written predicates as Boolean expressions: brackets bind first, then AND, then OR. -/
namespace SqlRecords.Predicate

/-- What a stretch of a written predicate is: a clause or a bracket, operands joined by AND, or
conjunctions joined by OR. -/
inductive Rank where
  | operand | conjunction | disjunction
  deriving DecidableEq, Repr

/-- The value that written tokens have when it is said of each clause whether it holds. -/
inductive Reads (holds : Token → Bool) : Rank → List Token → Bool → Prop
  | clause {t : Token} (ht : t.isClause = true) : Reads holds .operand [t] (holds t)
  | bracketed {ts : List Token} {a : Bool} (hts : Reads holds .disjunction ts a) :
      Reads holds .operand (.opening :: (ts ++ [.closing])) a
  | operand {ts : List Token} {a : Bool} (hts : Reads holds .operand ts a) :
      Reads holds .conjunction ts a
  | and {ts us : List Token} {a b : Bool} (hts : Reads holds .conjunction ts a)
      (hus : Reads holds .operand us b) :
      Reads holds .conjunction (ts ++ .connector .and :: us) (a && b)
  | conjunction {ts : List Token} {a : Bool} (hts : Reads holds .conjunction ts a) :
      Reads holds .disjunction ts a
  | or {ts us : List Token} {a b : Bool} (hts : Reads holds .disjunction ts a)
      (hus : Reads holds .conjunction us b) :
      Reads holds .disjunction (ts ++ .connector .or :: us) (a || b)

/-- The value of a predicate as it is written. -/
def HasValue (holds : Token → Bool) (p : Predicate) (a : Bool) : Prop :=
  Reads holds .disjunction p.connected a

/-- Brackets that close what they open, each around a clause at least. Connectors may stand anywhere
and be repeated. -/
inductive Balanced : Predicate → Prop
  | nil : Balanced []
  | connector (c : Connector) {rest : List Token} (hrest : Balanced rest) :
      Balanced (.connector c :: rest)
  | clause {t : Token} {rest : List Token} (ht : t.isClause = true) (hrest : Balanced rest) :
      Balanced (t :: rest)
  | bracketed {inner rest : List Token} (hclause : hasClause inner = true)
      (hinner : Balanced inner) (hrest : Balanced rest) :
      Balanced (.opening :: (inner ++ .closing :: rest))

/-- Whether the alternatives before hold and whether the conjunction that is being read does, for
each open bracket. -/
abbrev Frames := List (Bool × Bool)

/-- Reads one token on from what was read so far. -/
def readToken (holds : Token → Bool) (frames : Frames) (t : Token) : Frames :=
  match t, frames with
  | .connector .or, (alternatives, running) :: outer => (alternatives || running, true) :: outer
  | .opening, frames => (false, true) :: frames
  | .closing, (alternatives, running) :: (alternatives', running') :: outer =>
    (alternatives', running' && (alternatives || running)) :: outer
  | .compare .., (alternatives, running) :: outer
  | .nullness .., (alternatives, running) :: outer
  | .membership .., (alternatives, running) :: outer
  | .between .., (alternatives, running) :: outer => (alternatives, running && holds t) :: outer
  | _, frames => frames

/-- What reading a stretch of value `a` makes of the innermost bracket. -/
def Rank.Leaves (a : Bool) : Rank → Bool × Bool → Bool × Bool → Prop
  | .disjunction, before, after => before.2 = true → (after.1 || after.2) = (before.1 || a)
  | _, before, after => after = (before.1, before.2 && a)

theorem readToken_clause (holds : Token → Bool) (before : Bool × Bool) (outer : Frames) {t : Token}
    (ht : t.isClause = true) :
    readToken holds (before :: outer) t = (before.1, before.2 && holds t) :: outer := by
  cases t with
  | connector c => cases ht
  | opening => cases ht
  | closing => cases ht
  | _ => rfl

theorem Reads.leaves {holds : Token → Bool} {rank : Rank} {ts : List Token} {a : Bool}
    (h : Reads holds rank ts a) (before : Bool × Bool) (outer : Frames) :
    ∃ after, ts.foldl (readToken holds) (before :: outer) = after :: outer ∧
      rank.Leaves a before after := by
  induction h generalizing before outer with
  | clause ht => exact ⟨_, readToken_clause holds before outer ht, rfl⟩
  | bracketed _ ih =>
    obtain ⟨⟨alternatives, running⟩, hfold, hleaves⟩ := ih (false, true) (before :: outer)
    have hvalue : (alternatives || running) = _ := hleaves rfl
    refine ⟨(before.1, before.2 && (alternatives || running)), ?_, ?_⟩
    · rw [List.foldl_cons, List.foldl_append]
      exact congrArg (List.foldl (readToken holds) · [.closing]) hfold
    · rw [hvalue]
      exact congrArg (fun b => (before.1, before.2 && b)) (Bool.false_or _)
  | operand _ ih => exact ih before outer
  | and _ _ ihts ihus =>
    obtain ⟨mid, hts, rfl⟩ := ihts before outer
    obtain ⟨after, hus, rfl⟩ := ihus _ outer
    refine ⟨_, ?_, rfl⟩
    rw [List.foldl_append, hts]
    refine hus.trans ?_
    rw [Bool.and_assoc]
  | conjunction _ ih =>
    obtain ⟨after, hts, rfl⟩ := ih before outer
    refine ⟨_, hts, fun hbefore => ?_⟩
    rw [hbefore, Bool.true_and]
  | @or ts us a b _ _ ihts ihus =>
    obtain ⟨mid, hts, hmid⟩ := ihts before outer
    obtain ⟨after, hus, rfl⟩ := ihus (mid.1 || mid.2, true) outer
    refine ⟨(mid.1 || mid.2, true && b), ?_, fun hbefore => ?_⟩
    · rw [List.foldl_append, hts]
      exact hus
    · rw [hmid hbefore, Bool.true_and, Bool.or_assoc]

/-- A predicate has one value. -/
theorem Reads.unique {holds : Token → Bool} {ts : List Token} {a b : Bool}
    (ha : Reads holds .disjunction ts a) (hb : Reads holds .disjunction ts b) : a = b := by
  obtain ⟨after, hfold, hafter⟩ := ha.leaves (false, true) []
  obtain ⟨after', hfold', hafter'⟩ := hb.leaves (false, true) []
  rw [hfold] at hfold'
  obtain ⟨rfl, -⟩ := List.cons.inj hfold'
  exact (hafter rfl).symm.trans (hafter' rfl)

/-- One more operand may follow behind any connector. -/
theorem Reads.extend {holds : Token → Bool} {ts us : List Token} {a b : Bool}
    (hts : Reads holds .disjunction ts a) (c : Connector) (hus : Reads holds .operand us b) :
    ∃ v, Reads holds .disjunction (ts ++ .connector c :: us) v := by
  cases c with
  | or => exact ⟨_, .or hts (.operand hus)⟩
  | and =>
    cases hts with
    | conjunction h => exact ⟨_, .conjunction (.and h hus)⟩
    | or h h' =>
      rw [List.append_assoc, List.cons_append]
      exact ⟨_, .or h (.and h' hus)⟩

theorem word_of_isClause {t : Token} (ht : t.isClause = true) :
    t.isConnector = false ∧ t.startsOperand = true ∧ t.endsOperand = true := by
  cases t with
  | connector c => cases ht
  | opening => cases ht
  | closing => cases ht
  | _ => exact ⟨rfl, rfl, rfl⟩

theorem connect_clause (pending : Option Connector) (afterOperand : Bool) {t : Token}
    (rest : List Token) (ht : t.isClause = true) :
    connect pending afterOperand (t :: rest) =
      joint pending afterOperand ++ [t] ++ connect none true rest := by
  obtain ⟨hconnector, hstarts, hends⟩ := word_of_isClause ht
  rw [connect_word _ _ _ hconnector, hstarts, hends, Bool.and_true, List.append_assoc]
  rfl

/-- A bracket is written as one operand. -/
theorem connect_bracketed (pending : Option Connector) (afterOperand : Bool)
    (inner rest : List Token) :
    connect pending afterOperand (.opening :: (inner ++ .closing :: rest)) =
      joint pending afterOperand ++ .opening :: (connected inner ++ [.closing])
        ++ connect none true rest := by
  have hopening : (afterOperand && Token.opening.startsOperand) = afterOperand := Bool.and_true _
  have hclosing (b : Bool) : (b && Token.closing.startsOperand) = false := Bool.and_false b
  rw [connect_word _ _ _ rfl, connect_append, connect_word _ _ rest rfl, hopening, hclosing]
  simp [connected, joint, Token.endsOperand]

/-- An operand with tokens behind it is read if what is written behind an operand is. -/
theorem reads_operand {holds : Token → Bool} {ts us rest : List Token} {a : Bool}
    (hus : Reads holds .operand us a)
    (hconnect : ∀ pending afterOperand, connect pending afterOperand ts =
      joint pending afterOperand ++ us ++ connect none true rest)
    (hrest : ∀ before a, Reads holds .disjunction before a →
      ∃ b, Reads holds .disjunction (before ++ connect none true rest) b)
    (pending : Option Connector) :
    (∀ before a, Reads holds .disjunction before a →
      ∃ b, Reads holds .disjunction (before ++ connect pending true ts) b) ∧
    ∃ b, Reads holds .disjunction (connect pending false ts) b := by
  constructor
  · intro before b hbefore
    obtain ⟨v, hv⟩ := hbefore.extend (pending.getD .and) hus
    obtain ⟨w, hw⟩ := hrest _ _ hv
    refine ⟨w, ?_⟩
    rw [hconnect]
    simpa [joint] using hw
  · obtain ⟨w, hw⟩ := hrest us a (.conjunction (.operand hus))
    refine ⟨w, ?_⟩
    rw [hconnect]
    exact hw

/-- A balanced predicate is read on from any that is read, and by itself if it has a clause. -/
theorem Balanced.reads {p : List Token} (h : Balanced p) (holds : Token → Bool)
    (pending : Option Connector) :
    (∀ before a, Reads holds .disjunction before a →
      ∃ b, Reads holds .disjunction (before ++ connect pending true p) b) ∧
    (hasClause p = true → ∃ b, Reads holds .disjunction (connect pending false p) b) := by
  induction h generalizing pending with
  | nil =>
    refine ⟨fun before a hbefore => ⟨a, ?_⟩, fun hclause => by cases hclause⟩
    rwa [connect, List.append_nil]
  | connector c _ ih => exact ih (some c)
  | clause ht _ ih =>
    obtain ⟨hafter, hstart⟩ := reads_operand (.clause ht)
      (fun pending afterOperand => connect_clause pending afterOperand _ ht) (ih none).1 pending
    exact ⟨hafter, fun _ => hstart⟩
  | @bracketed inner rest hclause _ _ ihinner ihrest =>
    obtain ⟨b, hinner⟩ := (ihinner none).2 hclause
    obtain ⟨hafter, hstart⟩ := reads_operand (.bracketed hinner)
      (fun pending afterOperand => connect_bracketed pending afterOperand inner rest)
      (ihrest none).1 pending
    exact ⟨hafter, fun _ => hstart⟩

theorem hasClause_bracketed (inner rest : List Token) :
    hasClause (.opening :: (inner ++ .closing :: rest)) = (hasClause inner || hasClause rest) := by
  unfold hasClause
  rw [List.any_cons, List.any_append, List.any_cons]
  rfl

/-- Behind a balanced predicate an operand ends if there is a clause in it. -/
theorem Balanced.endsOperand_eq {p : List Token} (h : Balanced p) (afterOperand : Bool) :
    endsOperand afterOperand p = (afterOperand || hasClause p) := by
  induction h generalizing afterOperand with
  | nil => exact (Bool.or_false _).symm
  | connector c _ ih => exact ih afterOperand
  | clause ht _ ih =>
    obtain ⟨hconnector, -, hends⟩ := word_of_isClause ht
    rw [endsOperand_word _ _ hconnector, hends, ih true, hasClause_cons, ht, Bool.true_or,
      Bool.or_true]
  | @bracketed inner rest hclause _ _ _ ih =>
    have hrest : endsOperand afterOperand (.opening :: (inner ++ .closing :: rest)) =
        endsOperand true rest := by
      unfold endsOperand
      rw [List.foldl_cons, List.foldl_append]
      rfl
    rw [hrest, ih true, hasClause_bracketed, hclause, Bool.true_or, Bool.or_true]

/-- Nothing is written of a balanced predicate without a clause. -/
theorem Balanced.connect_of_not_hasClause {p : List Token} (h : Balanced p)
    (hclause : hasClause p = false) (pending : Option Connector) (afterOperand : Bool) :
    connect pending afterOperand p = [] := by
  induction h generalizing pending with
  | nil => rfl
  | connector c _ ih => exact ih hclause (some c)
  | clause ht _ _ =>
    rw [hasClause_cons, ht] at hclause
    cases hclause
  | bracketed hinner _ _ _ _ =>
    rw [hasClause_bracketed, hinner] at hclause
    cases hclause

/-- Without OR only AND is pending. -/
theorem pendingAfter_of_not_isDisjunctive {p : List Token} (h : isDisjunctive p = false)
    (pending : Option Connector) (hpending : pending.getD .and = .and) :
    (pendingAfter pending p).getD .and = .and := by
  induction p generalizing pending with
  | nil => exact hpending
  | cons t rest ih =>
    obtain ⟨ht, hrest⟩ := Bool.or_eq_false_iff.mp (List.any_cons.symm.trans h)
    cases t with
    | connector c =>
      cases c with
      | and => exact ih hrest (some .and) rfl
      | or => cases ht
    | _ => exact ih hrest none rfl

/-- Without OR none is written. -/
theorem connect_of_not_isDisjunctive {p : List Token} (h : isDisjunctive p = false)
    (pending : Option Connector) (hpending : pending.getD .and = .and) (afterOperand : Bool) :
    isDisjunctive (connect pending afterOperand p) = false := by
  induction p generalizing pending afterOperand with
  | nil => rfl
  | cons t rest ih =>
    obtain ⟨ht, hrest⟩ := Bool.or_eq_false_iff.mp (List.any_cons.symm.trans h)
    have hjoint (needed : Bool) : isDisjunctive (joint pending needed) = false := by
      unfold joint
      rw [hpending]
      cases needed <;> rfl
    have hword (hconnector : t.isConnector = false) :
        isDisjunctive (connect pending afterOperand (t :: rest)) = false := by
      have hbehind := ih hrest none rfl t.endsOperand
      unfold isDisjunctive at hjoint hbehind ⊢
      rw [connect_word _ _ _ hconnector, List.any_append, List.any_cons, hjoint, hbehind, ht]
      rfl
    cases t with
    | connector c =>
      cases c with
      | and => exact ih hrest (some .and) rfl afterOperand
      | or => cases ht
    | _ => exact hword rfl

/-- A disjunction in which no OR is written is a conjunction. -/
theorem Reads.conjunction_of_not_isDisjunctive {holds : Token → Bool} {ts : List Token} {a : Bool}
    (h : Reads holds .disjunction ts a) (hor : isDisjunctive ts = false) :
    Reads holds .conjunction ts a := by
  cases h with
  | conjunction h => exact h
  | or _ _ =>
    unfold isDisjunctive at hor
    rw [List.any_append, List.any_cons] at hor
    simp at hor

/-- A clause behind a grouped predicate constrains all of its alternatives. -/
theorem Balanced.hasValue_grouped {c : Predicate} (hc : Balanced c) {holds : Token → Bool}
    {t : Token} (ht : t.isClause = true) (hclause : c.hasClause = true) {a : Bool}
    (ha : HasValue holds c a) : HasValue holds (c.grouped ++ [t]) (a && holds t) := by
  unfold HasValue at ha ⊢
  have hand {us : List Token} (hus : Reads holds .conjunction us a) :
      Reads holds .disjunction (us ++ [.connector .and, t]) (a && holds t) :=
    .conjunction (.and hus (.clause ht))
  unfold grouped
  rw [hclause, Bool.and_true]
  cases hor : c.isDisjunctive with
  | true =>
    have hwritten : connected (.opening :: (c ++ [.closing]) ++ [t]) =
        .opening :: (connected c ++ [.closing]) ++ [.connector .and, t] := by
      have h := connect_bracketed none false c [t]
      rw [connect_clause none true [] ht] at h
      simpa [connected, joint, connect] using h
    rw [if_pos rfl, hwritten]
    exact hand (.operand (.bracketed ha))
  | false =>
    have hwritten : connected (c ++ [t]) = connected c ++ [.connector .and, t] := by
      have hpending := pendingAfter_of_not_isDisjunctive hor none rfl
      unfold connected
      rw [connect_append, hc.endsOperand_eq, hclause, Bool.or_true, connect_clause _ _ [] ht, joint,
        hpending]
      rfl
    rw [if_neg Bool.false_ne_true, hwritten]
    exact hand (ha.conjunction_of_not_isDisjunctive
      (connect_of_not_isDisjunctive hor none rfl false))

/-- Behind a predicate without a clause a clause stands by itself. -/
theorem Balanced.hasValue_grouped_of_not_hasClause {c : Predicate} (hc : Balanced c)
    {holds : Token → Bool} {t : Token} (ht : t.isClause = true) (hclause : c.hasClause = false) :
    HasValue holds (c.grouped ++ [t]) (holds t) := by
  unfold HasValue grouped connected
  rw [hclause, Bool.and_false, if_neg Bool.false_ne_true, connect_append,
    hc.connect_of_not_hasClause hclause, hc.endsOperand_eq, hclause, connect_clause _ _ [] ht]
  exact .conjunction (.operand (.clause ht))

/-- A clause behind a grouped predicate has to hold. -/
theorem Balanced.exists_hasValue_grouped {c : Predicate} (hc : Balanced c) (holds : Token → Bool)
    {t : Token} (ht : t.isClause = true) :
    ∃ a, HasValue holds (c.grouped ++ [t]) (a && holds t) := by
  cases hclause : c.hasClause with
  | true =>
    obtain ⟨a, ha⟩ := (hc.reads holds none).2 hclause
    exact ⟨a, hc.hasValue_grouped ht hclause ha⟩
  | false => exact ⟨true, hc.hasValue_grouped_of_not_hasClause ht hclause⟩

end SqlRecords.Predicate
