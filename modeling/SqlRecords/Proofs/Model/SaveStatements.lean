import SqlRecords.Model.Persistence
import SqlRecords.Proofs.Query.InsertedRows
import SqlRecords.Proofs.Session.Sending
import SqlRecords.Proofs.Value.RoundTrip

/-! The statement that saving a model sends, written out, and how a save runs. -/
namespace SqlRecords

/-- The columns of one row stand in its order, each once. -/
theorem insertColumns_singleton {row : Fields Value} (h : row.keys.Nodup) :
    insertColumns [row] = row.keys := by
  rw [insertColumns_eq_keys, List.flatten_singleton, Fields.ofList_of_nodup h]

/-- A row is written with its own values in its own order. -/
theorem insertTuple_own (d : Dialect) {row : Fields Value} (h : row.keys.Nodup) :
    insertTuple d true row.keys row =
      Sql.bracketed (Sql.join ", " (row.map fun (_, v) => Sql.bind v)) := by
  unfold insertTuple Fields.keys
  rw [List.map_map]
  refine congrArg (fun parts => Sql.bracketed (Sql.join ", " parts)) ?_
  refine List.map_congr_left fun p hp => ?_
  obtain ⟨column, v⟩ := p
  have hget := Fields.get?_of_mem h hp
  simp only [Function.comp_apply, hget, writtenValue, if_true]

namespace Query

/-- A staged INSERT of rows with columns is written. -/
theorem saveDraft_insert {q : Query} {table : String} {rows : List (Fields Value)} {bound : Bool}
    (hsource : q.source = some (.table table)) (hpayload : q.payload = some (.insert rows bound))
    (hcolumns : (insertColumns rows).isEmpty = false) :
    q.saveDraft = .ok {
      kind := .insert
      sql := Sql.ofText ("INSERT INTO " ++ q.dialect.escapeIdentifier table ++ " ("
          ++ commaList ((insertColumns rows).map q.dialect.escapeIdentifier) ++ ")"
          ++ q.outputClause ++ " VALUES ")
        ++ Sql.join ", " (rows.map (insertTuple q.dialect bound (insertColumns rows)))
        ++ Sql.ofText q.returningClause
      returning := q.returning } := by
  rw [saveDraft, hpayload]
  exact (insertDraft_eq_ok hpayload).mpr ⟨table, hsource, hcolumns, rfl⟩

/-- A staged INSERT of one row with columns is written with the values of the row, in its order. -/
theorem saveDraft_insertRow {q : Query} {table : String} {row : Record}
    (hsource : q.source = some (.table table))
    (hpayload : q.payload = some (.insert [recordValues row] true)) (hkeys : row.keys.Nodup)
    (hrow : row ≠ []) :
    q.saveDraft = .ok {
      kind := .insert
      sql := Sql.ofText ("INSERT INTO " ++ q.dialect.escapeIdentifier table ++ " ("
          ++ commaList (row.keys.map q.dialect.escapeIdentifier) ++ ")"
          ++ q.outputClause ++ " VALUES ")
        ++ Sql.bracketed (Sql.join ", " ((recordValues row).map fun (_, v) => Sql.bind v))
        ++ Sql.ofText q.returningClause
      returning := q.returning } := by
  have hsame : (recordValues row).keys = row.keys := by
    simp [recordValues, Fields.mapValues, Fields.keys]
  have hnodup : (recordValues row).keys.Nodup := hsame ▸ hkeys
  have hcolumns : insertColumns [recordValues row] = row.keys := by
    rw [insertColumns_singleton hnodup, hsame]
  have hnone : (insertColumns [recordValues row]).isEmpty = false := by
    rw [hcolumns]
    simpa [Fields.keys] using hrow
  have htuple := insertTuple_own q.dialect hnodup
  have hdraft := saveDraft_insert hsource hpayload hnone
  rw [hsame] at htuple
  rw [hcolumns] at hdraft
  rw [hdraft]
  simp only [List.map_cons, List.map_nil, htuple, Sql.join_cons, List.flatMap_nil, List.append_nil]

/-- A staged UPDATE of some columns is written where its predicate is. -/
theorem saveDraft_update {q : Query} {table : String} {values : Fields Value} {bound : Bool}
    (hsource : q.source = some (.table table)) (hpayload : q.payload = some (.update values bound))
    (hvalues : values.isEmpty = false) {condition : Sql}
    (hwhere : Predicate.whereSql q.dialect q.predicate = .ok condition) :
    q.saveDraft = .ok {
      kind := .update
      sql := Sql.ofText ("UPDATE " ++ q.dialect.escapeIdentifier table ++ " SET ")
        ++ Sql.join ", " (values.map fun (column, v) => assignment q.dialect bound column v)
        ++ condition
      returning := none } := by
  simp only [saveDraft, updateDraft, target, hsource, hpayload, ok_bind, hvalues, hwhere,
    Bool.false_eq_true, if_false]
  rfl

end Query

/-- One clause is a predicate by itself. -/
theorem Predicate.whereSql_equals (d : Dialect) (field : String) (v : Value) :
    Predicate.whereSql d [Predicate.equals field v] =
      .ok (Sql.ofText " WHERE " ++ (Sql.ofText (d.escapeIdentifier field ++ " = ")
        ++ Sql.bind v)) := by
  have hsymbol : d.escapeIdentifier field ++ " " ++ Comparison.equal.symbol ++ " " =
      d.escapeIdentifier field ++ " = " := by
    rw [String.append_assoc, String.append_assoc]
    rfl
  simp [whereSql, hasClause, Token.isClause, equals, sql, Token.lexemes, Token.lexeme, Lexeme.sql,
    Lexeme.assemble, Lexeme.separator, operand, Except.map, hsymbol]

namespace Model

/-- What is bound for the columns that were set. -/
def staged (m : Model) : Fields Value := Query.recordValues m.changed

/-- The INSERT of the columns that were set, in their order, with all values bound. -/
def insertStatement (m : Model) (d : Dialect) : Statement :=
  let key := d.escapeIdentifier m.schema.primaryKey
  .ofDraft d {
    kind := .insert
    sql := Sql.ofText ("INSERT INTO " ++ d.escapeIdentifier m.schema.table ++ " ("
        ++ commaList (m.changed.keys.map d.escapeIdentifier) ++ ")"
        ++ (if d = .mssql then " OUTPUT INSERTED." ++ key else "") ++ " VALUES ")
      ++ Sql.bracketed (Sql.join ", " (m.staged.map fun (_, v) => Sql.bind v))
      ++ Sql.ofText (if d = .postgres then " RETURNING " ++ key else "")
    returning := some m.schema.primaryKey }

/-- The UPDATE of the columns that were set, in their order, where the primary key is the one that
is stored. -/
def updateStatement (m : Model) (d : Dialect) : Statement :=
  .ofDraft d {
    kind := .update
    sql := Sql.ofText ("UPDATE " ++ d.escapeIdentifier m.schema.table ++ " SET ")
      ++ Sql.join ", " (m.staged.map fun (column, v) =>
        Sql.ofText (d.escapeIdentifier column ++ " = ") ++ Sql.bind v)
      ++ (Sql.ofText " WHERE " ++ (Sql.ofText (d.escapeIdentifier m.schema.primaryKey ++ " = ")
        ++ Sql.bind (.ofJson m.storedKey)))
    returning := none }

/-- A query on the table of a model, where its data source is configured. -/
def ownQuery (m : Model) (c : Config) : Query :=
  (Query.empty c.engine.dialect (some m.schema.dataSource)).table m.schema.table

theorem saveStatement_insertion {m : Model} (hkeys : m.changed.keys.Nodup)
    (hchanged : m.changed ≠ []) (c : Config) :
    (m.insertion (m.ownQuery c)).saveStatement = .ok (m.insertStatement c.engine.dialect) := by
  have hdialect : (m.insertion (m.ownQuery c)).dialect = c.engine.dialect := rfl
  have hdraft := Query.saveDraft_insertRow (q := m.insertion (m.ownQuery c)) rfl rfl hkeys hchanged
  rw [Query.saveStatement, Query.finish, hdraft, hdialect]
  simp only [Query.outputClause, Query.returningClause, hdialect, insertStatement]
  cases c.engine.dialect <;> rfl

theorem saveStatement_ownRow {m : Model} (hchanged : m.changed ≠ []) (c : Config) :
    (m.ownRow ((m.ownQuery c).update m.changed true)).saveStatement =
      .ok (m.updateStatement c.engine.dialect) := by
  have hnone : m.staged.isEmpty = false := by
    simpa [staged, Query.recordValues, Fields.mapValues] using hchanged
  have hwhere := Predicate.whereSql_equals c.engine.dialect m.schema.primaryKey
    (.ofJson m.storedKey)
  have hdraft := Query.saveDraft_update (q := m.ownRow ((m.ownQuery c).update m.changed true))
    rfl rfl hnone hwhere
  rw [Query.saveStatement, Query.finish, hdraft]
  rfl

variable {π : Type}

/-- The statement that saving sends in a dialect. -/
def saveStatement (m : Model) (d : Dialect) : Statement :=
  if m.isNew then m.insertStatement d else m.updateStatement d

/-- The model once its statement has reported `result`. -/
def saved (m : Model) (result : WriteResult) : Model :=
  if m.isNew then (m.adoptKey result.insertId).settle else m.settle

theorem run_tableQuery (m : Model) (db : Database π) :
    (m.tableQuery (π := π)).run.run db =
      match db.config? m.schema.dataSource with
      | some c => (.ok (m.ownQuery c), db)
      | none => (.error (PoolError.unknownSource m.schema.dataSource).failure, db) := by
  rw [tableQuery, Session.run_bind, Session.run_query]
  cases db.config? m.schema.dataSource <;> rfl

section
variable [Pool π]

theorem run_save_clean {m : Model} (h : m.isDirty = false) (db : Database π) :
    (m.save).run.run db = (.ok (false, m), db) := by
  unfold save
  rw [h]
  rfl

/-- How a save runs when something was set. -/
theorem run_save {m : Model} (hkeys : m.changed.keys.Nodup) (hdirty : m.isDirty = true)
    (db : Database π) :
    (m.save).run.run db =
      match db.config? m.schema.dataSource with
      | none => (.error (PoolError.unknownSource m.schema.dataSource).failure, db)
      | some c =>
        if !m.isNew && m.storedKey.isNull then (.error m.keyless, db)
        else match ((m.ownQuery c).send (m.saveStatement c.engine.dialect)).run.run db with
          | (.ok result, db') => (.ok (decide (0 < result.rowsAffected), m.saved result), db')
          | (.error f, db') => (.error f, db') := by
  have hchanged : m.changed ≠ [] := by simpa [isDirty] using hdirty
  unfold save
  simp only [hdirty, Bool.not_true, Bool.false_eq_true, if_false]
  rw [Session.run_bind, run_tableQuery]
  cases db.config? m.schema.dataSource with
  | none => rfl
  | some c =>
    simp only
    cases hnew : m.isNew with
    | true =>
      have hsave : (m.insertion (m.ownQuery c)).save (π := π) =
          (m.ownQuery c).send (m.insertStatement c.engine.dialect) := by
        rw [Query.save, saveStatement_insertion hkeys hchanged]
        rfl
      simp only [if_true, Bool.not_true, Bool.false_and, Bool.false_eq_true, if_false,
        Session.run_bind, hsave, saveStatement, hnew, saved]
      cases ((m.ownQuery c).send (m.insertStatement c.engine.dialect)).run.run db with
      | mk outcome mid => cases outcome <;> rfl
    | false =>
      have hsave : (m.ownRow ((m.ownQuery c).update m.changed true)).save (π := π) =
          (m.ownQuery c).send (m.updateStatement c.engine.dialect) := by
        rw [Query.save, saveStatement_ownRow hchanged]
        rfl
      cases hnull : m.storedKey.isNull with
      | true => rfl
      | false =>
        simp only [Bool.not_false, Bool.true_and, Bool.false_eq_true, if_false,
          Session.run_bind, hsave, saveStatement, hnew, saved]
        cases ((m.ownQuery c).send (m.updateStatement c.engine.dialect)).run.run db with
        | mk outcome mid => cases outcome <;> rfl

/-- What a save does is the same on pools that keep what they receive. -/
theorem mirrors_save (m : Model) : Session.Mirrors (π := π) id m.save m.save := by
  have htable : Session.Mirrors (π := π) id m.tableQuery m.tableQuery :=
    Session.mirrors_bind (Session.mirrors_query _) fun q =>
      Session.mirrors_pure id (q.table m.schema.table)
  unfold save
  cases m.isDirty with
  | false => exact Session.mirrors_pure id _
  | true =>
    refine Session.mirrors_bind htable fun q => ?_
    cases m.isNew with
    | true => exact Session.mirrors_bind (Query.mirrors_save _) fun _ => Session.mirrors_pure id _
    | false =>
      cases m.storedKey.isNull with
      | true => exact Session.mirrors_throw id _
      | false =>
        exact Session.mirrors_bind (Query.mirrors_save _) fun _ => Session.mirrors_pure id _

end

end Model
end SqlRecords
