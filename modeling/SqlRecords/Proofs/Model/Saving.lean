import SqlRecords.Pool.Scripted
import SqlRecords.Proofs.Model.SaveInPlace
import SqlRecords.Proofs.Row.RepeatedNames

/-! Saving as a transaction on a model: one statement at most, and a model that is as before unless
the save went through. -/
namespace SqlRecords.Model
variable {π : Type}

/-- Whether no column was set twice. -/
def SetOnce (m : Model) : Prop := m.changed.keys.Nodup

/-- Models as they come about: made or read, and then loaded, set and saved in any order and on any
pools. Deleting the row of a model leaves the model as it is. -/
inductive Arises : Model → Prop where
  | blank (schema : Schema) : Arises (.blank schema)
  | ofRow (schema : Schema) (row : Record) (additional : List String) :
    Arises (.ofRow schema row additional)
  | load {m : Model} (row : Record) : Arises m → Arises (m.load row)
  | set {m : Model} (column : String) (v : Json) : Arises m → Arises (m.set column v)
  | setAll {m : Model} (values : Record) : Arises m → Arises (m.setAll values)
  | save {π : Type} [Pool π] {m : Model} (db : Database π) :
    Arises m → Arises (Edit.exec saveInPlace m db).1.2

theorem SetOnce.set {m : Model} (h : m.SetOnce) (column : String) (v : Json) :
    (m.set column v).SetOnce := by
  unfold Model.set
  split
  · exact Fields.nodup_keys_insert h column v
  · exact h

theorem SetOnce.setAll {m : Model} (h : m.SetOnce) (values : Record) :
    (m.setAll values).SetOnce := by
  unfold Model.setAll
  induction values generalizing m with
  | nil => exact h
  | cons p rest ih => exact ih (h.set p.1 p.2)

theorem changed_saved (m : Model) (result : WriteResult) : (m.saved result).changed = [] := by
  unfold saved
  cases m.isNew <;> rfl

/-- A save leaves a model as it was, or as one whose statement went through. -/
theorem exec_save_cases [Pool π] {m : Model} (h : m.SetOnce) (db : Database π) :
    (Edit.exec saveInPlace m db).1.2 = m ∨
      ∃ result, (Edit.exec saveInPlace m db).1.2 = m.saved result := by
  rw [exec_saveInPlace]
  cases hdirty : m.isDirty with
  | false =>
    rw [run_save_clean hdirty]
    exact .inl rfl
  | true =>
    rw [run_save h hdirty]
    cases db.config? m.schema.dataSource with
    | none => exact .inl rfl
    | some c =>
    simp only
    cases !m.isNew && m.storedKey.isNull with
    | true => exact .inl rfl
    | false =>
    cases ((m.ownQuery c).send (m.saveStatement c.engine.dialect)).run.run db with
    | mk outcome db' =>
    cases outcome with
    | error f => exact .inl rfl
    | ok result => exact .inr ⟨result, rfl⟩

/-- A save either leaves what was set or takes all of it. -/
theorem SetOnce.save [Pool π] {m : Model} (h : m.SetOnce) (db : Database π) :
    (Edit.exec saveInPlace m db).1.2.SetOnce := by
  rcases exec_save_cases h db with hsame | ⟨result, hsaved⟩
  · rw [hsame]
    exact h
  · rw [hsaved, SetOnce, changed_saved]
    exact List.nodup_nil

theorem Arises.setOnce {m : Model} (h : m.Arises) : m.SetOnce := by
  induction h with
  | blank | ofRow => exact List.nodup_nil
  | load row _ ih => exact ih
  | set column v _ ih => exact ih.set column v
  | setAll values _ ih => exact ih.setAll values
  | save db _ ih => exact ih.save db

/-- The key that a new model takes over, if none was set. -/
def givenKey? (m : Model) (result : WriteResult) : Option Json :=
  if m.isNew && !m.changed.contains m.schema.primaryKey then result.insertId else none

theorem column_settle {m : Model} (h : m.SetOnce) (name : String) :
    m.settle.column name = m.column name := by
  unfold column settle
  rw [Fields.get?_insertAll m.stored h]
  rfl

/-- A save changes no column, but for the key that a new model takes over. -/
theorem column_saved {m : Model} (h : m.SetOnce) (result : WriteResult) (name : String) :
    (m.saved result).column name =
      if name = m.schema.primaryKey then (m.givenKey? result).getD (m.column name)
      else m.column name := by
  unfold saved givenKey?
  cases hnew : m.isNew with
  | false => simp [column_settle h]
  | true =>
    unfold adoptKey
    cases hkey : m.changed.contains m.schema.primaryKey with
    | true => simp [column_settle h]
    | false =>
      cases result.insertId with
      | none => simp [column_settle h]
      | some key =>
        have hadopted : SetOnce { m with stored := m.stored.insert m.schema.primaryKey key } := h
        have hnone : m.changed.get? m.schema.primaryKey = none := by
          simpa [Fields.contains] using hkey
        refine (column_settle hadopted name).trans ?_
        unfold column
        rw [Fields.get?_insert]
        by_cases hname : name = m.schema.primaryKey
        · simp [hname, hnone]
        · simp [hname]

/-- Nothing else of a model changes. -/
theorem saved_eq (m : Model) (result : WriteResult) :
    m.saved result =
      { m with stored := (m.saved result).stored, changed := [], isNew := false } := by
  unfold saved adoptKey
  cases m.isNew with
  | false => rfl
  | true =>
    cases m.changed.contains m.schema.primaryKey with
    | true => rfl
    | false => cases result.insertId <;> rfl

/-- Setting columns touches neither what is stored nor the schema. -/
theorem setAll_frame (m : Model) (edits : Record) :
    ∃ changed, m.setAll edits = { m with changed := changed } := by
  unfold setAll
  induction edits generalizing m with
  | nil =>
    cases m
    exact ⟨_, rfl⟩
  | cons p rest ih =>
    obtain ⟨changed, hrest⟩ := ih (m.set p.1 p.2)
    refine ⟨changed, hrest.trans ?_⟩
    unfold set
    split <;> rfl

/-- A new row is null throughout. -/
theorem stored_blank (schema : Schema) (column : String) :
    ((Model.blank schema).stored.get? column).getD .null = .null := by
  cases hv : (Model.blank schema).stored.get? column with
  | none => rfl
  | some v =>
    unfold Model.blank Fields.ofList at hv
    rw [Fields.get?_insertAll_reverse] at hv
    have hget := hv.symm.trans Option.or_none
    obtain ⟨other, -, heq⟩ :=
      List.mem_map.mp (List.mem_reverse.mp (Fields.mem_of_get? hget.symm))
    exact (Prod.mk.inj heq).2.symm

/-- A new model has nothing stored. -/
theorem Arises.stored_of_new {m : Model} (h : m.Arises) (hnew : m.isNew = true) (column : String) :
    (m.stored.get? column).getD .null = .null := by
  induction h with
  | blank schema => exact stored_blank schema column
  | ofRow | load => cases hnew
  | @set m other v _ ih =>
    obtain ⟨changed, hframe⟩ := m.setAll_frame [(other, v)]
    have hone : m.setAll [(other, v)] = m.set other v := rfl
    rw [← hone, hframe] at hnew ⊢
    exact ih hnew
  | @setAll m values _ ih =>
    obtain ⟨changed, hframe⟩ := m.setAll_frame values
    rw [hframe] at hnew ⊢
    exact ih hnew
  | @save π _ m db hm ih =>
    rcases exec_save_cases hm.setOnce db with hsame | ⟨result, hsaved⟩
    · rw [hsame] at hnew ⊢
      exact ih hnew
    · rw [hsaved, saved_eq] at hnew
      cases hnew

/-- The key of a new model is the one that was set, if any was. -/
theorem Arises.key_of_new {m : Model} (h : m.Arises) (hnew : m.isNew = true) :
    m.key = (m.changed.get? m.schema.primaryKey).getD .null := by
  unfold key column
  cases m.changed.get? m.schema.primaryKey with
  | none => exact h.stored_of_new hnew _
  | some v => rfl

/-- What is sent at most, in the dialect of the data source: an INSERT for a new model, and else an
UPDATE if there is a stored key. -/
def MaySend (m : Model) (db : Database π) (sent : List Database.Sending) : Prop :=
  sent = [] ∨ ∃ i c, db.config? m.schema.dataSource = some c ∧
    (!m.isNew && m.storedKey.isNull) = false ∧ sent = [⟨i, m.saveStatement c.engine.dialect⟩]

/-- Why a model is not saved, before anything is sent: its data source has no configuration, or it
has no stored key. -/
def refusal? (m : Model) (db : Database π) : Option Failure :=
  match db.config? m.schema.dataSource with
  | none => some (PoolError.unknownSource m.schema.dataSource).failure
  | some _ => if !m.isNew && m.storedKey.isNull then some m.keyless else none

/-- What a save does to a model and sends to its data source. -/
structure Saves [Pool π] (m : Model) (db : Database π) (sent : List Database.Sending)
    (outcome : Except Failure Bool) (m' : Model) (db' : Database π) : Prop where
  sends : m.MaySend db sent
  /-- When nothing was set nothing happens. -/
  clean : m.isDirty = false → outcome = .ok false ∧ m' = m ∧ db' = db ∧ sent = []
  refused (f : Failure) : m.isDirty = true → m.refusal? db = some f →
    outcome = .error f ∧ db' = db ∧ sent = []
  failed (f : Failure) : outcome = .error f → m' = m
  /-- Once the statement went through, what was set is stored and no column reads otherwise, but for
  the key that a new model takes over. -/
  succeeded (affected : Bool) : outcome = .ok affected → m.isDirty = true →
    ∃ i c result, db.config? m.schema.dataSource = some c ∧
      sent = [⟨i, m.saveStatement c.engine.dialect⟩] ∧
      ((m.ownQuery c).send (m.saveStatement c.engine.dialect)).Yields db result db' ∧
      affected = decide (0 < result.rowsAffected) ∧
      m' = { m with stored := m'.stored, changed := [], isNew := false } ∧
      ∀ name, m'.column name =
        if name = m.schema.primaryKey then (m.givenKey? result).getD (m.column name)
        else m.column name

theorem saves_clean [Pool π] {m : Model} (h : m.isDirty = false) (db : Database π) :
    m.Saves db [] (.ok false) m db where
  sends := .inl rfl
  clean := fun _ => ⟨rfl, rfl, rfl, rfl⟩
  refused := fun f hdirty => by simp [h] at hdirty
  failed := fun f hf => by cases hf
  succeeded := fun affected _ hdirty => by simp [h] at hdirty

theorem saves_refused [Pool π] {m : Model} {db : Database π} {f : Failure}
    (hdirty : m.isDirty = true) (h : m.refusal? db = some f) : m.Saves db [] (.error f) m db where
  sends := .inl rfl
  clean := fun hclean => by simp [hdirty] at hclean
  refused := fun f' _ hf' => ⟨congrArg Except.error (Option.some.inj (h.symm.trans hf')), rfl, rfl⟩
  failed := fun _ _ => rfl
  succeeded := fun affected h => by cases h

theorem saves_failed [Pool π] {m : Model} {db db' : Database π} {sent : List Database.Sending}
    (hdirty : m.isDirty = true) (h : m.refusal? db = none) (hsent : m.MaySend db sent)
    (f : Failure) : m.Saves db sent (.error f) m db' where
  sends := hsent
  clean := fun hclean => by simp [hdirty] at hclean
  refused := fun f' _ hf' => by simp [h] at hf'
  failed := fun _ _ => rfl
  succeeded := fun affected h => by cases h

theorem saves_sent [Pool π] {m : Model} {db db' : Database π} (hset : m.SetOnce)
    (hdirty : m.isDirty = true) {c : Config} (hc : db.config? m.schema.dataSource = some c)
    (hkey : (!m.isNew && m.storedKey.isNull) = false) {result : WriteResult}
    (h : ((m.ownQuery c).send (m.saveStatement c.engine.dialect)).Yields db result db') (i : Nat) :
    m.Saves db [⟨i, m.saveStatement c.engine.dialect⟩] (.ok (decide (0 < result.rowsAffected)))
      (m.saved result) db' where
  sends := .inr ⟨i, c, hc, hkey, rfl⟩
  clean := fun hclean => by simp [hdirty] at hclean
  refused := fun f' _ hf' => by simp [refusal?, hc, hkey] at hf'
  failed := fun f hf => by cases hf
  succeeded := by
    intro affected haffected _
    cases haffected
    exact ⟨i, c, result, hc, rfl, h, rfl, m.saved_eq result, column_saved hset result⟩

/-- On pools that keep what they receive a save does what it does without. -/
theorem exec_recording [Pool π] {m m' : Model} {db : Database π} {outcome : Except Failure Bool}
    {kept : Database (Recorded π)}
    (h : Edit.exec saveInPlace m db.recording = ((outcome, m'), kept)) :
    Edit.exec saveInPlace m db = ((outcome, m'), kept.forget) := by
  have hmirrors := m.mirrors_save.run_recording db
  rw [exec_saveInPlace] at h ⊢
  rw [hmirrors]
  cases hrun : (m.save).run.run db.recording with
  | mk result last =>
    rw [hrun] at h
    cases result <;> cases h <;> rfl

/-- What a save leaves in place it leaves on a copy. -/
theorem run_save_of_exec [Pool π] {m m' : Model} {db db' : Database π}
    {outcome : Except Failure Bool} (h : Edit.exec saveInPlace m db = ((outcome, m'), db')) :
    (m.save).run.run db = (outcome.map fun affected => (affected, m'), db') := by
  rw [exec_saveInPlace] at h
  cases hrun : (m.save).run.run db with
  | mk result last =>
    rw [hrun] at h
    cases result <;> cases h <;> rfl

/-- A save that is not refused sends its statement, or fails before it gets to do so. -/
theorem save_sends [Pool π] {m : Model} (hset : m.SetOnce) (hdirty : m.isDirty = true)
    {db : Database π} {c : Config} (hc : db.config? m.schema.dataSource = some c)
    (hkey : (!m.isNew && m.storedKey.isNull) = false) :
    ∃ sent outcome m' kept,
      Edit.exec saveInPlace m db.recording = ((outcome, m'), kept) ∧
      db.recording.Sends sent kept ∧ m.Saves db sent outcome m' kept.forget := by
  have hconfig : db.recording.config? m.schema.dataSource = some c := hc
  have hrefusal : m.refusal? db = none := by simp [refusal?, hc, hkey]
  have hrun := exec_saveInPlace m db.recording
  rw [run_save hset hdirty, hconfig] at hrun
  simp only [hkey, Bool.false_eq_true, if_false] at hrun
  have honce := (m.ownQuery c).sendsOnce_send (m.saveStatement c.engine.dialect)
    db.recording db.isFresh_recording
  have hmirrors := ((m.ownQuery c).mirrors_send (m.saveStatement c.engine.dialect)).run_recording db
  cases hsend : ((m.ownQuery c).send (m.saveStatement c.engine.dialect)).run.run db.recording with
  | mk answer kept =>
  rw [hsend] at hrun honce hmirrors
  cases answer with
  | error f =>
    obtain ⟨i, hsent⟩ | ⟨hsent, -⟩ := honce
    · exact ⟨_, _, _, _, hrun, hsent, saves_failed hdirty hrefusal (.inr ⟨i, c, hc, hkey, rfl⟩) f⟩
    · exact ⟨_, _, _, _, hrun, hsent, saves_failed hdirty hrefusal (.inl rfl) f⟩
  | ok result =>
    obtain ⟨i, hsent⟩ | ⟨-, f, hf⟩ := honce
    · exact ⟨_, _, _, _, hrun, hsent, saves_sent hset hdirty hc hkey hmirrors i⟩
    · cases hf

/-- Saving is a transaction on the model, on every database and for whatever its pools answer. -/
theorem save_is_transaction [Pool π] {m : Model} (hm : m.Arises) (db : Database π) :
    ∃ sent outcome m' kept,
      Edit.exec saveInPlace m db.recording = ((outcome, m'), kept) ∧
      Edit.exec saveInPlace m db = ((outcome, m'), kept.forget) ∧
      (m.save).run.run db = (outcome.map fun affected => (affected, m'), kept.forget) ∧
      db.recording.Sends sent kept ∧
      m.Saves db sent outcome m' kept.forget := by
  obtain ⟨sent, outcome, m', kept, hrun, hsent, hsaves⟩ : ∃ sent outcome m' kept,
      Edit.exec saveInPlace m db.recording = ((outcome, m'), kept) ∧
      db.recording.Sends sent kept ∧ m.Saves db sent outcome m' kept.forget := by
    have hset := hm.setOnce
    have hrun := exec_saveInPlace m db.recording
    have hsame := db.forget_recording
    have hconfig : db.recording.config? m.schema.dataSource = db.config? m.schema.dataSource := rfl
    cases hdirty : m.isDirty with
    | false =>
      rw [run_save_clean hdirty] at hrun
      exact ⟨[], _, _, _, hrun, .refl _, hsame.symm ▸ saves_clean hdirty db⟩
    | true =>
      cases hc : db.config? m.schema.dataSource with
      | none =>
        rw [run_save hset hdirty, hconfig, hc] at hrun
        have hrefusal : m.refusal? db =
            some (PoolError.unknownSource m.schema.dataSource).failure := by simp [refusal?, hc]
        exact ⟨[], _, _, _, hrun, .refl _, hsame.symm ▸ saves_refused hdirty hrefusal⟩
      | some c =>
        cases hkey : !m.isNew && m.storedKey.isNull with
        | true =>
          rw [run_save hset hdirty, hconfig, hc] at hrun
          simp only [hkey, if_true] at hrun
          have hrefusal : m.refusal? db = some m.keyless := by simp [refusal?, hc, hkey]
          exact ⟨[], _, _, _, hrun, .refl _, hsame.symm ▸ saves_refused hdirty hrefusal⟩
        | false => exact save_sends hset hdirty hc hkey
  have hplain := exec_recording hrun
  exact ⟨sent, outcome, m', kept, hrun, hplain, run_save_of_exec hplain, hsent, hsaves⟩

def userSchema : Schema := (Schema.new "main" "users").declare ["id", "name"]

/-- A stored user whose key and name are set anew. -/
def renamedUser : Model :=
  (((Model.blank userSchema).load [("id", .int 7), ("name", .text "Ann")]).set "name"
    (.text "Bob")).set "id" (.int 8)

def userDatabase : Database ScriptedPool where
  configs := [("main", .ofParts "main" .mysql "localhost" "app")]
  backends := []
  opened := [⟨"main", .mysql, ScriptedPool.new⟩]
  registry := [("main", 0)]

theorem renamedUser_arises : renamedUser.Arises := .set _ _ (.set _ _ (.load _ (.blank _)))

/-- The row is found by the key that is stored, and the model has the other one afterwards. -/
theorem renamedUser_saves : renamedUser.Arises ∧ ∃ sent m' kept,
    Edit.exec saveInPlace renamedUser userDatabase.recording = ((.ok true, m'), kept) ∧
    userDatabase.recording.Sends sent kept ∧
    sent.map (·.statement.sql) = ["UPDATE users SET name = ?, id = ? WHERE id = ?"] ∧
    m'.changed = [] ∧ m'.column "id" = .int 8 := by
  obtain ⟨sent, outcome, m', kept, hrun, -, -, hsent, hsaves⟩ :=
    save_is_transaction renamedUser_arises userDatabase
  have haffected : (Edit.exec saveInPlace renamedUser userDatabase.recording).1.1.toOption =
      some true := by decide +kernel
  rw [hrun] at haffected
  cases outcome with
  | error f => cases haffected
  | ok affected =>
    cases Option.some.inj haffected
    obtain ⟨i, c, result, hc, rfl, -, -, hm', hcolumn⟩ := hsaves.succeeded true rfl rfl
    have htext : (renamedUser.saveStatement .mysql).sql =
        "UPDATE users SET name = ?, id = ? WHERE id = ?" := by decide +kernel
    cases Option.some.inj hc
    exact ⟨renamedUser_arises, _, _, _, hrun, hsent, congrArg (fun t => [t]) htext, by rw [hm'],
      hcolumn "id"⟩

/-- A stored user without a key, whose name is set anew. -/
def keylessUser : Model :=
  ((Model.blank userSchema).load [("name", .text "Ann")]).set "name" (.text "Bob")

/-- So a missing key is not always what a save is refused for. -/
theorem keyless_may_be_unconfigured : ¬ ∀ (m : Model) (db : Database ScriptedPool), m.Arises →
    m.isDirty = true → m.isNew = false → m.storedKey.isNull = true →
      (Edit.exec saveInPlace m db).1.1 = .error m.keyless := by
  intro h
  have hkeyless := h keylessUser (.empty []) (.set _ _ (.load _ (.blank _))) rfl rfl rfl
  have hrefused : (Edit.exec (π := ScriptedPool) saveInPlace keylessUser (.empty [])).1.1 =
      .error (PoolError.unknownSource "main").failure := rfl
  cases hkeyless.symm.trans hrefused

end SqlRecords.Model
