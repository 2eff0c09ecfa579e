import SqlRecords.Proofs.Query.Bound

/-! The slots of a written query hold its bound values in their order, whatever the dialect; a query
is not written only where it, or a query inside it, has no table. -/
namespace SqlRecords

mutual

/-- Whether a query and every query inside it have a table. -/
def Query.isComplete : Query → Bool
  | ⟨_, _, source, _, _, _, joins, predicate, weights, _, _, _, _, _, _⟩ =>
    Weight.allComplete weights && (Source.anyComplete source && (Join.allComplete joins
      && Token.allComplete predicate))

def Source.anyComplete : Option Source → Bool
  | none => false
  | some source => source.isComplete

def Source.isComplete : Source → Bool
  | .table _ => true
  | .derived query _ => query.isComplete

def Members.isComplete : Members → Bool
  | .values .. => true
  | .rows query => query.isComplete

def Token.isComplete : Token → Bool
  | .membership _ _ members => members.isComplete
  | .compare .. | .between .. | .nullness .. | .connector _ | .opening | .closing => true

def Token.allComplete : List Token → Bool
  | [] => true
  | t :: rest => t.isComplete && Token.allComplete rest

def Join.isComplete : Join → Bool
  | ⟨_, target, on⟩ => target.isComplete && Token.allComplete on

def Join.allComplete : List Join → Bool
  | [] => true
  | j :: rest => j.isComplete && Join.allComplete rest

def Weight.isComplete : Weight → Bool
  | ⟨predicate, _, otherwise⟩ => Token.allComplete predicate && otherwise.isComplete

def Otherwise.isComplete : Otherwise → Bool
  | .score _ => true
  | .weight w => w.isComplete

def Weight.allComplete : List Weight → Bool
  | [] => true
  | w :: rest => w.isComplete && Weight.allComplete rest

end

/-- What writing a part comes to: slots that hold `values`, or the refusal of an incomplete part. -/
def Writes {α : Type} (slots : α → List Value) (outcome : Except Incomplete α) (complete : Bool)
    (values : List Value) : Prop :=
  match outcome with
  | .ok written => complete = true ∧ slots written = values
  | .error e => complete = false ∧ e = .noTable

namespace Writes
variable {α β : Type} {slotsOf : α → List Value} {slotsOf' : β → List Value}
  {a : Except Incomplete α} {complete rest : Bool} {values values' : List Value}

theorem bind {f : α → Except Incomplete β} (ha : Writes slotsOf a complete values)
    (hf : ∀ written, slotsOf written = values → Writes slotsOf' (f written) rest values') :
    Writes slotsOf' (a >>= f) (complete && rest) values' := by
  cases a with
  | error e =>
    obtain ⟨hc, he⟩ := ha
    exact ⟨by rw [hc, Bool.false_and], he⟩
  | ok written =>
    obtain ⟨hc, hs⟩ := ha
    rw [hc, Bool.true_and]
    exact hf written hs

theorem map {f : α → β} (ha : Writes slotsOf a complete values)
    (hf : ∀ written, slotsOf written = values → slotsOf' (f written) = values') :
    Writes slotsOf' (a.map f) complete values' := by
  cases a with
  | error e => exact ha
  | ok written => exact ⟨ha.1, hf written ha.2⟩

end Writes

def Lexeme.slots : Lexeme → List Value
  | .clause sql => sql.slots
  | .connector _ | .opening | .closing => []

def Clauses.slots (c : Clauses) : List Value :=
  c.projection.flatMap Sql.slots ++ c.source.slots ++ c.joins.flatMap Sql.slots
    ++ (c.predicate.map Sql.slots).getD []

theorem Lexeme.separator_slots (pending : Option Connector) (afterOperand : Bool) :
    (separator pending afterOperand).slots = [] := by
  cases afterOperand <;> rfl

theorem Lexeme.assemble_slots (ls : List Lexeme) (pending : Option Connector)
    (afterOperand : Bool) : (assemble pending afterOperand ls).slots = ls.flatMap slots := by
  induction ls generalizing pending afterOperand with
  | nil => rfl
  | cons l rest ih =>
    cases l with
    | clause sql => simp [assemble, separator_slots, ih, slots]
    | connector c => exact ih (some c) afterOperand
    | opening => simp [assemble, separator_slots, ih, slots]
    | closing => simp [assemble, ih, slots]

theorem Lexeme.sql_slots (ls : List Lexeme) : (sql ls).slots = ls.flatMap slots :=
  assemble_slots ls none false

theorem listClause_slots (keyword : String) (items : List String) :
    (listClause keyword items).slots = [] := by
  unfold listClause
  split <;> rfl

theorem rankingColumn_slots (weights : List Sql) :
    (rankingColumn weights).flatMap Sql.slots = weights.flatMap Sql.slots := by
  match weights with
  | [] => rfl
  | [w] => simp [rankingColumn]
  | w :: w' :: ws => simp [rankingColumn, Sql.slots_join]

theorem Clauses.sql_slots (c : Clauses) : c.sql.slots = c.slots := by
  have hjoins : Sql.slots c.joins.flatten = c.joins.flatMap Sql.slots := by
    unfold Sql.slots
    rw [List.filterMap_flatten, List.flatMap_def]
  cases hp : c.predicate <;> simp [sql, slots, hp, hjoins, listClause_slots, Sql.slots_join]

theorem operand_slots (d : Dialect) (v : Value) (bound : Bool) :
    (operand d v bound).slots = if bound then [v] else [] := by
  cases bound <;> rfl

theorem memberList_slots (d : Dialect) (field : String) (negated : Bool) (values : List Value)
    (bound : Bool) :
    (memberList d field negated values bound).slots = if bound then values else [] := by
  have hmembers : (values.map (memberSql d bound)).flatMap Sql.slots =
      if bound then values else [] := by
    induction values with
    | nil => cases bound <;> rfl
    | cons v rest ih =>
      rw [List.map_cons, List.flatMap_cons, ih]
      cases bound <;> rfl
  unfold memberList
  cases h : values.isEmpty with
  | false => simp [Sql.slots_join, hmembers]
  | true =>
    rw [List.isEmpty_iff.mp h]
    cases bound <;> rfl

theorem Token.boundValues_of_not_isClause (t : Token) (h : t.isClause = false) :
    t.boundValues = [] := by
  cases t <;> first | rfl | cases h

theorem Predicate.boundValues_of_not_hasClause (p : List Token)
    (h : Predicate.hasClause p = false) : Token.allBoundValues p = [] := by
  induction p with
  | nil => rfl
  | cons t rest ih =>
    rw [Predicate.hasClause_cons, Bool.or_eq_false_iff] at h
    obtain ⟨ht, hrest⟩ := h
    rw [Token.allBoundValues, t.boundValues_of_not_isClause ht, ih hrest]
    rfl

theorem Token.isComplete_of_not_isClause (t : Token) (h : t.isClause = false) :
    t.isComplete = true := by
  cases t <;> first | rfl | cases h

theorem Predicate.allComplete_of_not_hasClause (p : List Token)
    (h : Predicate.hasClause p = false) : Token.allComplete p = true := by
  induction p with
  | nil => rfl
  | cons t rest ih =>
    rw [Predicate.hasClause_cons, Bool.or_eq_false_iff] at h
    obtain ⟨ht, hrest⟩ := h
    rw [Token.allComplete, t.isComplete_of_not_isClause ht, ih hrest]
    rfl

mutual

theorem Query.clauses_writes (d : Dialect) (place : Place) (q : Query) :
    Writes Clauses.slots (q.clauses d place) q.isComplete q.boundValues := by
  obtain ⟨own, dataSource, source, columns, additional, distinct, joins, predicate, weights,
    groupBy, orderBy, limit, offset, payload, returning⟩ := q
  cases source with
  | none =>
    refine ⟨?_, rfl⟩
    rw [Query.isComplete, Source.anyComplete, Bool.false_and, Bool.and_false]
  | some source =>
    have hcolumns : (if columns.isEmpty then [Sql.ofText "*"]
        else columns.map fun c => Sql.ofText (own.escapeIdentifier c)).flatMap Sql.slots = [] := by
      cases columns <;> simp
    unfold Query.clauses
    refine (Weight.sqls_writes d weights).bind fun scores hscores => ?_
    refine (Source.sql_writes d source).bind fun sourceSql hsource => ?_
    refine (Join.sqls_writes d joins).bind fun joinSqls hjoins => ?_
    refine (Token.lexemes_writes d predicate).map fun lexemes hlexemes => ?_
    have hpredicate : ((if Predicate.hasClause predicate then some (Lexeme.sql lexemes)
        else none).map Sql.slots).getD [] = Token.allBoundValues predicate := by
      cases hc : Predicate.hasClause predicate with
      | false => exact (Predicate.boundValues_of_not_hasClause predicate hc).symm
      | true => exact (Lexeme.sql_slots lexemes).trans hlexemes
    simp only [Clauses.slots, List.flatMap_append, hcolumns, rankingColumn_slots, hscores, hsource,
      hjoins, hpredicate, List.nil_append]
    rfl

theorem Source.sql_writes (d : Dialect) (s : Source) :
    Writes Sql.slots (s.sql d) s.isComplete s.boundValues := by
  match s with
  | .table name => exact ⟨rfl, rfl⟩
  | .derived query label =>
    refine (Query.clauses_writes d .nested query).map fun c hc => ?_
    simpa [Clauses.sql_slots, Source.boundValues] using hc

theorem Members.sql_writes (d : Dialect) (field : String) (negated : Bool) (m : Members) :
    Writes Sql.slots (m.sql d field negated) m.isComplete m.boundValues := by
  match m with
  | .values values bound => exact ⟨rfl, memberList_slots d field negated values bound⟩
  | .rows query =>
    refine (Query.clauses_writes d .nested query).map fun c hc => ?_
    simpa [Clauses.sql_slots, Members.boundValues] using hc

theorem Token.lexeme_writes (d : Dialect) (t : Token) :
    Writes Lexeme.slots (t.lexeme d) t.isComplete t.boundValues := by
  match t with
  | .compare field comparison v bound =>
    refine ⟨rfl, ?_⟩
    simp [Lexeme.slots, operand_slots, Token.boundValues]
  | .nullness field isNull => exact ⟨rfl, rfl⟩
  | .membership field negated members =>
    exact (Members.sql_writes d field negated members).map fun sql hsql => hsql
  | .between field low high => exact ⟨rfl, rfl⟩
  | .connector c => exact ⟨rfl, rfl⟩
  | .opening => exact ⟨rfl, rfl⟩
  | .closing => exact ⟨rfl, rfl⟩

theorem Token.lexemes_writes (d : Dialect) (ts : List Token) :
    Writes (List.flatMap Lexeme.slots) (Token.lexemes d ts) (Token.allComplete ts)
      (Token.allBoundValues ts) := by
  match ts with
  | [] => exact ⟨rfl, rfl⟩
  | t :: rest =>
    refine (Token.lexeme_writes d t).bind fun lexeme ht => ?_
    refine (Token.lexemes_writes d rest).map fun lexemes hrest => ?_
    rw [List.flatMap_cons, ht, hrest, Token.allBoundValues]

theorem Join.sql_writes (d : Dialect) (j : Join) :
    Writes Sql.slots (j.sql d) j.isComplete j.boundValues := by
  obtain ⟨kind, target, on⟩ := j
  refine (Source.sql_writes d target).bind fun targetSql htarget => ?_
  refine (Token.lexemes_writes d on).map fun lexemes hlexemes => ?_
  have hon : Sql.slots (if Predicate.hasClause on then Sql.ofText " ON " ++ Lexeme.sql lexemes
      else []) = Token.allBoundValues on := by
    cases hc : Predicate.hasClause on with
    | false => exact (Predicate.boundValues_of_not_hasClause on hc).symm
    | true => exact (Lexeme.sql_slots lexemes).trans hlexemes
  simp only [Sql.slots_append, Sql.slots_ofText, List.nil_append, htarget, hon]
  rfl

theorem Join.sqls_writes (d : Dialect) (js : List Join) :
    Writes (List.flatMap Sql.slots) (Join.sqls d js) (Join.allComplete js)
      (Join.allBoundValues js) := by
  match js with
  | [] => exact ⟨rfl, rfl⟩
  | j :: rest =>
    refine (Join.sql_writes d j).bind fun sql hj => ?_
    refine (Join.sqls_writes d rest).map fun sqls hrest => ?_
    rw [List.flatMap_cons, hj, hrest, Join.allBoundValues]

theorem Weight.sql_writes (d : Dialect) (w : Weight) :
    Writes Sql.slots (w.sql d) w.isComplete w.boundValues := by
  obtain ⟨predicate, score, otherwise⟩ := w
  refine (Token.lexemes_writes d predicate).bind fun lexemes hlexemes => ?_
  refine (Otherwise.sql_writes d otherwise).map fun otherwiseSql hotherwise => ?_
  simp only [Sql.slots_conditional, Lexeme.sql_slots, Sql.slots_ofText, List.append_nil, hlexemes,
    hotherwise]
  rfl

theorem Otherwise.sql_writes (d : Dialect) (o : Otherwise) :
    Writes Sql.slots (o.sql d) o.isComplete o.boundValues := by
  match o with
  | .score x => exact ⟨rfl, rfl⟩
  | .weight w => exact Weight.sql_writes d w

theorem Weight.sqls_writes (d : Dialect) (ws : List Weight) :
    Writes (List.flatMap Sql.slots) (Weight.sqls d ws) (Weight.allComplete ws)
      (Weight.allBoundValues ws) := by
  match ws with
  | [] => exact ⟨rfl, rfl⟩
  | w :: rest =>
    refine (Weight.sql_writes d w).bind fun sql hw => ?_
    refine (Weight.sqls_writes d rest).map fun sqls hrest => ?_
    rw [List.flatMap_cons, hw, hrest, Weight.allBoundValues]

end

end SqlRecords
