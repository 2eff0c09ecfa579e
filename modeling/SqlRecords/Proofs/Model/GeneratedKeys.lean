import SqlRecords.Proofs.Model.ReportedKeys
import SqlRecords.Proofs.Session.Executions

/-! The key of a model after its INSERT. A key that was set stays, also when it is null, and else
the model has the one that is reported. -/
namespace SqlRecords.Model
variable {π : Type} [Pool π]

/-- A model without changes has its key stored. -/
theorem key_of_clean {m : Model} (h : m.changed = []) : m.key = m.storedKey := by
  unfold key column storedKey
  rw [h]
  rfl

theorem schema_saved (m : Model) (result : WriteResult) : (m.saved result).schema = m.schema := by
  rw [saved_eq]

/-- A new model takes over what was set, and without that what is reported. -/
theorem key_saved {m : Model} (hset : m.SetOnce) (hnew : m.isNew = true) {result : WriteResult}
    {k : Json} (hk : result.insertId = some k) :
    (m.saved result).key = (m.changed.get? m.schema.primaryKey).getD k := by
  have hcolumn := column_saved hset result m.schema.primaryKey
  rw [if_pos rfl] at hcolumn
  rw [key, schema_saved, hcolumn]
  unfold givenKey? Fields.contains
  cases hstaged : m.changed.get? m.schema.primaryKey with
  | none => simp [hnew, hk]
  | some v => simp [hnew, column, hstaged]

/-- A save that is not refused sends its statement where a pool is available. -/
theorem sendsFrom_save {m : Model} (hset : m.SetOnce) (hdirty : m.isDirty = true)
    {db : Database π} {c : Config} (hc : db.config? m.schema.dataSource = some c)
    (hkey : (!m.isNew && m.storedKey.isNull) = false) :
    Session.SendsFrom db
      (db.sendings m.schema.dataSource (m.saveStatement c.engine.dialect)) m.save m.save := by
  apply Session.SendsFrom.of_mirrors m.mirrors_save
  have hconfig : db.recording.config? m.schema.dataSource = some c := hc
  obtain ⟨outcome, kept, hrun, -, hsent⟩ := Query.sendsFrom_send (q := m.ownQuery c) rfl
    (m.saveStatement c.engine.dialect) db
  rw [run_save hset hdirty, hconfig]
  simp only [hkey, Bool.false_eq_true, if_false, hrun]
  cases outcome <;> exact hsent

/-- A stored model looks for its row by its key, and without one its changes are refused. -/
theorem save_of_stored {m : Model} (hset : m.SetOnce) (hold : m.isNew = false)
    (hdirty : m.isDirty = true) {db : Database π} {c : Config}
    (hc : db.config? m.schema.dataSource = some c) :
    (m.storedKey.isNull = true → (m.save).run.run db = (.error m.keyless, db)) ∧
    (m.storedKey.isNull = false →
      (m.updateStatement c.engine.dialect).params = m.stagedParams ++ [.ofJson m.storedKey] ∧
      Session.SendsFrom db
        (db.sendings m.schema.dataSource (m.updateStatement c.engine.dialect)) m.save m.save) := by
  constructor
  · intro hnull
    rw [run_save hset hdirty, hc]
    simp [hold, hnull]
  · intro hkey
    constructor
    · rw [params_updateStatement]
      simp [Value.isNull_ofJson, hkey]
    · have hsends := sendsFrom_save hset hdirty hc (by simp [hkey])
      rw [saveStatement, hold] at hsends
      exact hsends

/-- The INSERT of a new model reports a key. The model then has the key that was set, if any was,
and else the reported one. This is the key that was set unless it is null, and else the reported
one, exactly when no null was set for it. The next changes are an UPDATE of the row with this key;
they are refused when it is null. -/
theorem insert_leaves_key {m : Model} (hm : m.Arises) (hnew : m.isNew = true)
    (hdirty : m.isDirty = true) {db db' : Database π} {c : Config}
    (hc : db.config? m.schema.dataSource = some c) {result : WriteResult}
    (hsend : ((m.ownQuery c).send (m.insertStatement c.engine.dialect)).Yields db result db')
    {k : Json} (hk : result.insertId = some k) :
    ∃ saved : Model, (m.save).Yields db (decide (0 < result.rowsAffected), saved) db' ∧
      saved.isNew = false ∧ saved.changed = [] ∧
      saved.key = (m.changed.get? m.schema.primaryKey).getD k ∧
      (saved.key = (if m.key.isNull then k else m.key) ↔
        (m.changed.get? m.schema.primaryKey = some .null → k = .null)) ∧
      ∀ (edits : Record) (db₂ : Database π) (c₂ : Config),
        (saved.setAll edits).isDirty = true → db₂.config? m.schema.dataSource = some c₂ →
        (saved.key.isNull = true → (saved.setAll edits).save.run.run db₂ =
          (.error (saved.setAll edits).keyless, db₂)) ∧
        (saved.key.isNull = false →
          ((saved.setAll edits).updateStatement c₂.engine.dialect).params =
            (saved.setAll edits).stagedParams ++ [.ofJson saved.key] ∧
          Session.SendsFrom db₂ (db₂.sendings m.schema.dataSource
            ((saved.setAll edits).updateStatement c₂.engine.dialect))
            (saved.setAll edits).save (saved.setAll edits).save) := by
  have hset := hm.setOnce
  have hkey := key_saved hset hnew hk
  have hclean := changed_saved m result
  refine ⟨m.saved result, ?_, ?_, hclean, hkey, ?_, ?_⟩
  · rw [Session.Yields, run_save hset hdirty, hc]
    simp only [hnew, Bool.not_true, Bool.false_and, Bool.false_eq_true, if_false, saveStatement,
      if_true]
    rw [hsend]
  · rw [saved_eq]
  · rw [hkey, hm.key_of_new hnew]
    cases m.changed.get? m.schema.primaryKey with
    | none => simp [Json.isNull]
    | some v => cases v <;> simp [Json.isNull, eq_comm]
  · intro edits db₂ c₂ hedited hc₂
    have hsaved : (m.saved result).SetOnce := by
      rw [SetOnce, hclean]
      exact List.nodup_nil
    obtain ⟨changed, hframe⟩ := (m.saved result).setAll_frame edits
    have hold : ((m.saved result).setAll edits).isNew = false := by
      rw [hframe, saved_eq]
    have hschema : ((m.saved result).setAll edits).schema = m.schema := by
      rw [hframe]
      exact schema_saved m result
    have hstored : ((m.saved result).setAll edits).storedKey = (m.saved result).key := by
      rw [storedKey_setAll, key_of_clean hclean]
    have hnext := save_of_stored (hsaved.setAll edits) hold hedited (hschema ▸ hc₂)
    rw [hstored, hschema] at hnext
    exact hnext

/-- A MySQL server that generates the key 7. -/
def keyDatabase : Database ScriptedPool where
  configs := [("main", .ofParts "main" .mysql "localhost" "app")]
  backends := []
  opened := [⟨"main", .mysql, ScriptedPool.new.push (.exec ⟨1, 1, some (.int 7)⟩)⟩]
  registry := [("main", 0)]

/-- A user without a key gets that one, and its next change looks for it. -/
theorem newUser_gets_key : newUser.Arises ∧ ∃ saved db',
    (newUser.save).Yields keyDatabase (true, saved) db' ∧ saved.key = .int 7 ∧
    ((saved.setAll [("name", .text "Bob")]).updateStatement .mysql).params =
      [.text "Bob", .int64 7] := by
  have harises : newUser.Arises := .set _ _ (.blank _)
  have hsend : ((newUser.ownQuery (.ofParts "main" .mysql "localhost" "app")).send
      (newUser.insertStatement .mysql)).Yields keyDatabase ⟨1, 1, some (.int 7)⟩ _ :=
    Prod.ext rfl rfl
  have hsaved : (newUser.save).Yields keyDatabase (true, _) _ := Prod.ext rfl rfl
  obtain ⟨saved, hsave, -, -, hkey, -, hnext⟩ :=
    insert_leaves_key harises rfl rfl rfl hsend rfl
  obtain ⟨heq, -⟩ := hsave.unique hsaved
  cases heq
  obtain ⟨-, hfound⟩ := hnext [("name", .text "Bob")] keyDatabase _ rfl rfl
  obtain ⟨hparams, -⟩ := hfound (hkey ▸ rfl)
  exact ⟨harises, _, _, hsave, hkey, hparams⟩

/-- A user whose key was set to null, as by a form that leaves it empty. -/
def emptyKeyUser : Model :=
  (Model.blank userSchema).setAll [("id", .null), ("name", .text "Ann")]

/-- It does not get the key, and its next change is refused. So not every saved model knows the key
that its INSERT reported. -/
theorem reported_key_may_be_lost : ¬ ∀ (m : Model) (db db' : Database ScriptedPool) (c : Config)
    (result : WriteResult) (k : Json) (affected : Bool) (saved : Model),
    m.Arises → m.isNew = true → m.isDirty = true → db.config? m.schema.dataSource = some c →
    ((m.ownQuery c).send (m.insertStatement c.engine.dialect)).Yields db result db' →
    result.insertId = some k → (m.save).Yields db (affected, saved) db' →
    saved.key = (if m.key.isNull then k else m.key) ∧
    ∀ edits : Record, (saved.setAll edits).isDirty = true →
      ((saved.setAll edits).save.run.run db').1 ≠ .error (saved.setAll edits).keyless := by
  intro h
  have hsend : ((emptyKeyUser.ownQuery (.ofParts "main" .mysql "localhost" "app")).send
      (emptyKeyUser.insertStatement .mysql)).Yields keyDatabase ⟨1, 1, some (.int 7)⟩ _ :=
    Prod.ext rfl rfl
  have hsave : (emptyKeyUser.save).Yields keyDatabase (true, _) _ := Prod.ext rfl rfl
  obtain ⟨-, hnext⟩ := h emptyKeyUser _ _ _ _ _ _ _ (.setAll _ (.blank _)) rfl rfl rfl hsend rfl
    hsave
  exact hnext [("name", .text "Bob")] rfl rfl

end SqlRecords.Model
