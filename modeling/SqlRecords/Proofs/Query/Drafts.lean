import SqlRecords.Proofs.Query.Slots
import SqlRecords.Proofs.Query.Substitution

/-! The statements that a query can be written as: when there is one, which values it binds, and
what replacing those values changes. -/
namespace SqlRecords

/-- A statement to write a query as; `save` is whichever write is staged. -/
inductive Form where
  | select | count | insert | update | delete | save
  deriving DecidableEq, Repr

namespace Query

def draft (q : Query) : Form → Except Incomplete Draft
  | .select => q.selectDraft
  | .count => q.countDraft
  | .insert => q.insertDraft
  | .update => q.updateDraft
  | .delete => q.deleteDraft
  | .save => q.saveDraft

def statement (q : Query) : Form → Except Incomplete Statement
  | .select => q.selectStatement
  | .count => q.countStatement
  | .insert => q.insertStatement
  | .update => q.updateStatement
  | .delete => q.deleteStatement
  | .save => q.saveStatement

theorem statement_eq (q : Query) (form : Form) : q.statement form = q.finish (q.draft form) := by
  cases form <;> rfl

def insertedValues (q : Query) : List Value :=
  match q.payload with
  | some (.insert rows bound) => Payload.insertedValues rows bound
  | _ => []

def updatedValues (q : Query) : List Value :=
  match q.payload with
  | some (.update values bound) =>
    Payload.assignedValues values bound ++ Token.allBoundValues q.predicate
  | _ => []

/-- The bound values of the parts that a statement writes, in the order in which it writes them. An
INSERT has no predicate, and no write has weights and joins. -/
def writtenValues (q : Query) : Form → List Value
  | .select | .count => q.boundValues
  | .insert => q.insertedValues
  | .update => q.updatedValues
  | .delete => Token.allBoundValues q.predicate
  | .save => if q.payload matches some (.insert ..) then q.insertedValues else q.updatedValues

/-- Whether a write has a table to go to. -/
def hasTarget (q : Query) : Bool := q.source matches some (.table _)

def insertable (q : Query) : Bool :=
  match q.payload with
  | some (.insert rows _) => q.hasTarget && !(insertColumns rows).isEmpty
  | _ => false

def updatable (q : Query) : Bool :=
  match q.payload with
  | some (.update values _) => q.hasTarget && !values.isEmpty && Token.allComplete q.predicate
  | _ => false

/-- Whether a statement can be written. -/
def writable (q : Query) : Form → Bool
  | .select | .count => q.isComplete
  | .insert => q.insertable
  | .update => q.updatable
  | .delete => q.hasTarget && Token.allComplete q.predicate
  | .save => q.insertable || q.updatable

end Query

/-- Columns are found by their names alone. -/
theorem insertColumns_mapValues (g : Value → Value) (rows : List (Fields Value)) :
    insertColumns (rows.map (.mapValues g)) = insertColumns rows := by
  have hflatten : (rows.map (Fields.mapValues g)).flatten = Fields.mapValues g rows.flatten := by
    unfold Fields.mapValues
    rw [List.map_flatten]
  unfold insertColumns
  rw [hflatten, Fields.mapValues, List.foldl_map]

theorem writtenValue_mapSlots (f : Value → Value) (d : Dialect) (bound : Bool) (v : Value) :
    writtenValue d bound (if bound then f v else v) = (writtenValue d bound v).mapSlots f := by
  cases bound <;> rfl

theorem writtenValue_slots (d : Dialect) (bound : Bool) (v : Value) :
    (writtenValue d bound v).slots = if bound then [v] else [] := by
  cases bound <;> rfl

theorem insertTuple_mapSlots (f : Value → Value) (d : Dialect) (bound : Bool)
    (columns : List String) (row : Fields Value) :
    insertTuple d bound columns (row.mapValues fun v => if bound then f v else v) =
      (insertTuple d bound columns row).mapSlots f := by
  unfold insertTuple
  rw [Sql.mapSlots_bracketed, Sql.mapSlots_join, List.map_map]
  congr 2
  apply List.map_congr_left
  intro column _
  rw [Fields.get?_mapValues, Function.comp_apply]
  cases row.get? column with
  | none => rfl
  | some v => exact writtenValue_mapSlots f d bound v

theorem insertTuple_slots (d : Dialect) (bound : Bool) (columns : List String)
    (row : Fields Value) :
    (insertTuple d bound columns row).slots = if bound then columns.filterMap row.get? else [] := by
  unfold insertTuple
  rw [Sql.slots_bracketed, Sql.slots_join]
  induction columns with
  | nil => cases bound <;> rfl
  | cons column rest ih =>
    rw [List.map_cons, List.flatMap_cons, ih, List.filterMap_cons]
    cases row.get? column with
    | none => cases bound <;> rfl
    | some v => rw [writtenValue_slots]; cases bound <;> rfl

theorem insertTuples_slots (d : Dialect) (bound : Bool) (rows : List (Fields Value)) :
    (Sql.join ", " (rows.map (insertTuple d bound (insertColumns rows)))).slots =
      Payload.insertedValues rows bound := by
  rw [Sql.slots_join, List.flatMap_map, Payload.insertedValues]
  simp only [insertTuple_slots]
  cases bound with
  | true => rfl
  | false => simp

theorem assignment_mapSlots (f : Value → Value) (d : Dialect) (bound : Bool) (column : String)
    (v : Value) :
    assignment d bound column (if bound then f v else v) =
      (assignment d bound column v).mapSlots f := by
  unfold assignment
  rw [writtenValue_mapSlots, Sql.mapSlots_append, Sql.mapSlots_ofText]

theorem assignment_slots (d : Dialect) (bound : Bool) (column : String) (v : Value) :
    (assignment d bound column v).slots = if bound then [v] else [] := by
  unfold assignment
  rw [Sql.slots_append, Sql.slots_ofText, List.nil_append, writtenValue_slots]

theorem assignments_slots (d : Dialect) (bound : Bool) (values : Fields Value) :
    (Sql.join ", " (values.map fun (column, v) => assignment d bound column v)).slots =
      Payload.assignedValues values bound := by
  rw [Sql.slots_join]
  induction values with
  | nil => cases bound <;> rfl
  | cons p rest ih =>
    rw [List.map_cons, List.flatMap_cons, ih, assignment_slots]
    cases bound <;> rfl

theorem Predicate.whereSql_mapBound (f : Value → Value) (d : Dialect) (p : List Token) :
    Predicate.whereSql d (Token.mapAllBound f p) =
      (Predicate.whereSql d p).map (Sql.mapSlots f) := by
  unfold Predicate.whereSql Predicate.sql
  rw [Predicate.hasClause_mapBound, Token.lexemes_mapBound]
  cases Predicate.hasClause p with
  | false => rfl
  | true =>
    cases Token.lexemes d p with
    | error e => rfl
    | ok lexemes => simp [Lexeme.sql_mapSlots]

theorem Predicate.sql_writes (d : Dialect) (p : List Token) :
    Writes Sql.slots (Predicate.sql d p) (Token.allComplete p) (Token.allBoundValues p) :=
  (Token.lexemes_writes d p).map fun lexemes h => (Lexeme.sql_slots lexemes).trans h

theorem Predicate.whereSql_writes (d : Dialect) (p : List Token) :
    Writes Sql.slots (Predicate.whereSql d p) (Token.allComplete p) (Token.allBoundValues p) := by
  unfold Predicate.whereSql
  cases hc : Predicate.hasClause p with
  | false =>
    exact ⟨Predicate.allComplete_of_not_hasClause p hc,
      (Predicate.boundValues_of_not_hasClause p hc).symm⟩
  | true => exact (Predicate.sql_writes d p).map fun sql h => h

namespace Query

theorem target_mapBound (f : Value → Value) (q : Query) (verb : String) :
    (q.mapBound f).target verb = q.target verb := by
  obtain ⟨_, _, source, _⟩ := q
  match source with
  | none | some (.table _) | some (.derived ..) => rfl

/-- The parts of a query that a write reads, when its bound values are replaced. -/
theorem mapBound_fields (f : Value → Value) (q : Query) :
    (q.mapBound f).dialect = q.dialect ∧ (q.mapBound f).returning = q.returning ∧
      (q.mapBound f).predicate = Token.mapAllBound f q.predicate ∧
      (q.mapBound f).payload = q.payload.map (.mapBound f) := by
  cases q
  exact ⟨rfl, rfl, rfl, rfl⟩

theorem insertDraft_mapBound (f : Value → Value) (q : Query) :
    (q.mapBound f).insertDraft = q.insertDraft.map (.mapSlots f) := by
  obtain ⟨hdialect, hreturning, -, hpayload⟩ := q.mapBound_fields f
  have hclauses : (q.mapBound f).outputClause = q.outputClause ∧
      (q.mapBound f).returningClause = q.returningClause := by
    unfold outputClause returningClause
    rw [hdialect, hreturning]
    exact ⟨rfl, rfl⟩
  unfold insertDraft
  rw [target_mapBound, hdialect, hreturning, hpayload, hclauses.1, hclauses.2]
  cases q.target "INSERT" with
  | error e => rfl
  | ok table =>
  match q.payload with
  | none | some (.update ..) => rfl
  | some (.insert rows bound) =>
    simp only [Option.map_some, Payload.mapBound, ok_bind, insertColumns_mapValues]
    cases (insertColumns rows).isEmpty with
    | true => rfl
    | false =>
      simp [Draft.mapSlots, insertTuple_mapSlots, Function.comp_def]

theorem updateDraft_mapBound (f : Value → Value) (q : Query) :
    (q.mapBound f).updateDraft = q.updateDraft.map (.mapSlots f) := by
  obtain ⟨hdialect, -, hpredicate, hpayload⟩ := q.mapBound_fields f
  unfold updateDraft
  rw [target_mapBound, hdialect, hpredicate, hpayload, Predicate.whereSql_mapBound]
  cases q.target "UPDATE" with
  | error e => rfl
  | ok table =>
  match q.payload with
  | none | some (.insert ..) => rfl
  | some (.update values bound) =>
    have hempty : (values.mapValues fun v => if bound then f v else v).isEmpty = values.isEmpty :=
      List.isEmpty_map
    simp only [Option.map_some, Payload.mapBound, ok_bind, hempty]
    cases values.isEmpty with
    | true => rfl
    | false =>
      cases Predicate.whereSql q.dialect q.predicate with
      | error e => rfl
      | ok condition =>
        simp [Draft.mapSlots, Fields.mapValues, assignment_mapSlots,
          Function.comp_def]

theorem deleteDraft_mapBound (f : Value → Value) (q : Query) :
    (q.mapBound f).deleteDraft = q.deleteDraft.map (.mapSlots f) := by
  obtain ⟨hdialect, -, hpredicate, -⟩ := q.mapBound_fields f
  unfold deleteDraft
  rw [target_mapBound, hdialect, hpredicate, Predicate.whereSql_mapBound]
  cases q.target "DELETE" with
  | error e => rfl
  | ok table =>
  cases Predicate.whereSql q.dialect q.predicate with
  | error e => rfl
  | ok condition => simp [Draft.mapSlots]

/-- Other bound values change the slots of a statement and nothing else of it. -/
theorem draft_mapBound (f : Value → Value) (q : Query) (form : Form) :
    (q.mapBound f).draft form = (q.draft form).map (.mapSlots f) := by
  obtain ⟨hdialect, -, -, hpayload⟩ := q.mapBound_fields f
  match form with
  | .select =>
    simp only [draft, selectDraft, hdialect, clauses_mapBound]
    cases q.clauses q.dialect .outermost with
    | error e => rfl
    | ok c => simp [Draft.mapSlots, Clauses.sql_mapSlots]
  | .count =>
    simp only [draft, countDraft, hdialect, clauses_mapBound]
    cases q.clauses q.dialect .counted with
    | error e => rfl
    | ok c => simp [Draft.mapSlots, Clauses.sql_mapSlots]
  | .insert => exact q.insertDraft_mapBound f
  | .update => exact q.updateDraft_mapBound f
  | .delete => exact q.deleteDraft_mapBound f
  | .save =>
    simp only [draft, saveDraft, hpayload]
    match q.payload with
    | none => rfl
    | some (.insert ..) => exact q.insertDraft_mapBound f
    | some (.update ..) => exact q.updateDraft_mapBound f

/-- What writing a statement comes to: slots that hold `values`, or a failure. -/
def Drafted (outcome : Except Incomplete Draft) (writable : Bool) (values : List Value) : Prop :=
  match outcome with
  | .ok draft => writable = true ∧ draft.sql.slots = values
  | .error _ => writable = false

theorem target_ok (q : Query) (verb : String) :
    match q.target verb with
    | .ok _ => q.hasTarget = true
    | .error _ => q.hasTarget = false := by
  unfold target hasTarget
  match q.source with
  | none | some (.table _) | some (.derived ..) => rfl

theorem insertDraft_drafted (q : Query) :
    Drafted q.insertDraft q.insertable q.insertedValues := by
  have htarget := q.target_ok "INSERT"
  unfold insertDraft insertable insertedValues
  cases ht : q.target "INSERT" with
  | error e =>
    rw [ht] at htarget
    rw [htarget]
    cases q.payload with
    | none => rfl
    | some payload => cases payload <;> rfl
  | ok table =>
    rw [ht] at htarget
    match q.payload with
    | none | some (.update ..) => rfl
    | some (.insert rows bound) =>
      simp only [htarget, Bool.true_and, ok_bind]
      cases (insertColumns rows).isEmpty with
      | true => rfl
      | false => exact ⟨rfl, by simp [insertTuples_slots]⟩

theorem updateDraft_drafted (q : Query) :
    Drafted q.updateDraft q.updatable q.updatedValues := by
  have htarget := q.target_ok "UPDATE"
  have hwhere := Predicate.whereSql_writes q.dialect q.predicate
  unfold updateDraft updatable updatedValues
  cases ht : q.target "UPDATE" with
  | error e =>
    rw [ht] at htarget
    rw [htarget]
    cases q.payload with
    | none => rfl
    | some payload => cases payload <;> rfl
  | ok table =>
    rw [ht] at htarget
    match q.payload with
    | none | some (.insert ..) => rfl
    | some (.update values bound) =>
      simp only [htarget, Bool.true_and, ok_bind]
      cases values.isEmpty with
      | true => rfl
      | false =>
        cases hw : Predicate.whereSql q.dialect q.predicate with
        | error e =>
          rw [hw] at hwhere
          exact hwhere.1
        | ok condition =>
          rw [hw] at hwhere
          exact ⟨hwhere.1, by simp [assignments_slots, hwhere.2]⟩

theorem deleteDraft_drafted (q : Query) :
    Drafted q.deleteDraft (q.hasTarget && Token.allComplete q.predicate)
      (Token.allBoundValues q.predicate) := by
  have htarget := q.target_ok "DELETE"
  have hwhere := Predicate.whereSql_writes q.dialect q.predicate
  unfold deleteDraft
  cases ht : q.target "DELETE" with
  | error e =>
    rw [ht] at htarget
    rw [htarget]
    rfl
  | ok table =>
    rw [ht] at htarget
    rw [htarget, Bool.true_and]
    cases hw : Predicate.whereSql q.dialect q.predicate with
    | error e =>
      rw [hw] at hwhere
      exact hwhere.1
    | ok condition =>
      rw [hw] at hwhere
      exact ⟨hwhere.1, by simp [hwhere.2]⟩

/-- A statement is written where it can be, with its bound values in its slots. -/
theorem draft_drafted (q : Query) (form : Form) :
    Drafted (q.draft form) (q.writable form) (q.writtenValues form) := by
  match form with
  | .select =>
    have h := q.clauses_writes q.dialect .outermost
    simp only [draft, selectDraft]
    cases hc : q.clauses q.dialect .outermost with
    | error e => rw [hc] at h; exact h.1
    | ok c => rw [hc] at h; exact ⟨h.1, c.sql_slots.trans h.2⟩
  | .count =>
    have h := q.clauses_writes q.dialect .counted
    simp only [draft, countDraft]
    cases hc : q.clauses q.dialect .counted with
    | error e => rw [hc] at h; exact h.1
    | ok c => rw [hc] at h; exact ⟨h.1, by simp [c.sql_slots, h.2, writtenValues]⟩
  | .insert => exact q.insertDraft_drafted
  | .update => exact q.updateDraft_drafted
  | .delete => exact q.deleteDraft_drafted
  | .save =>
    have hinsert := q.insertDraft_drafted
    have hupdate := q.updateDraft_drafted
    simp only [draft, saveDraft, writable, writtenValues]
    cases hp : q.payload with
    | none => simp [Drafted, insertable, updatable, hp]
    | some payload =>
      cases payload with
      | insert rows bound =>
        have hnot : q.updatable = false := by rw [updatable, hp]
        rw [hnot, Bool.or_false]
        exact hinsert
      | update values bound =>
        have hnot : q.insertable = false := by rw [insertable, hp]
        rw [hnot, Bool.false_or]
        exact hupdate

end Query

end SqlRecords
