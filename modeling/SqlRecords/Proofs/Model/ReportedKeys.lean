import SqlRecords.Proofs.Model.Saving
import SqlRecords.Proofs.Value.RoundTrip
import SqlRecords.Remote.Pool

/-! Keys that an INSERT reports, as the statements bind them that look for the row later. -/
namespace SqlRecords

namespace Session
variable {π α β : Type}

/-- From a database a step sends `s` once; if it sends nothing it fails. -/
def SendsOnceFrom (db : Database (Recorded π)) (s : Statement) (x : Session (Recorded π) α) :
    Prop :=
  (∃ i, db.Sends [⟨i, s⟩] (x.run.run db).2) ∨
    db.Sends [] (x.run.run db).2 ∧ ∃ f, (x.run.run db).1 = .error f

/-- What a step sends does not depend on what is made of its result. -/
theorem SendsOnceFrom.of_run {db : Database (Recorded π)} {s : Statement}
    {x : Session (Recorded π) α} {y : Session (Recorded π) β} {g : α → β}
    (h : SendsOnceFrom db s x)
    (hrun : y.run.run db = ((x.run.run db).1.map g, (x.run.run db).2)) : SendsOnceFrom db s y := by
  unfold SendsOnceFrom
  rw [hrun]
  obtain ⟨i, hsent⟩ | ⟨hsent, f, hf⟩ := h
  · exact .inl ⟨i, hsent⟩
  · exact .inr ⟨hsent, f, by rw [hf]; rfl⟩

end Session

namespace Model
variable {π : Type}

/-- What is bound for the columns that were set. NULL is written out. -/
def stagedParams (m : Model) : List Value := (m.staged.map (·.2)).filter (!·.isNull)

theorem params_updateStatement (m : Model) (d : Dialect) :
    (m.updateStatement d).params =
      m.stagedParams ++ [Value.ofJson m.storedKey].filter (!·.isNull) := by
  have hstaged : (Sql.join ", " (m.staged.map fun p => assignment d true p.1 p.2)).slots =
      m.staged.map (·.2) := assignments_slots d true m.staged
  show Sql.params (_ ++ Sql.join ", " (m.staged.map fun p => assignment d true p.1 p.2) ++ _) = _
  rw [Sql.params, Sql.slots_append, Sql.slots_append, hstaged]
  exact List.filter_append ..

/-- The DELETE of the row whose primary key is the one that is stored. -/
def deleteStatement (m : Model) (d : Dialect) : Statement :=
  .ofDraft d {
    kind := .delete
    sql := Sql.ofText ("DELETE FROM " ++ d.escapeIdentifier m.schema.table)
      ++ (Sql.ofText " WHERE " ++ (Sql.ofText (d.escapeIdentifier m.schema.primaryKey ++ " = ")
        ++ Sql.bind (.ofJson m.storedKey)))
    returning := none }

theorem deleteStatement_ownRow (m : Model) (c : Config) :
    (m.ownRow (m.ownQuery c)).deleteStatement = .ok (m.deleteStatement c.engine.dialect) := by
  have hwhere := Predicate.whereSql_equals c.engine.dialect m.schema.primaryKey
    (.ofJson m.storedKey)
  have hpredicate : Predicate.whereSql (m.ownRow (m.ownQuery c)).dialect
      (m.ownRow (m.ownQuery c)).predicate = _ := hwhere
  have htarget : (m.ownRow (m.ownQuery c)).target "DELETE" =
      .ok (c.engine.dialect.escapeIdentifier m.schema.table) := rfl
  rw [Query.deleteStatement, Query.finish, Query.deleteDraft, htarget]
  simp only [ok_bind, hpredicate]
  rfl

section
variable [Pool π]

/-- How a delete of a stored row runs. -/
theorem run_delete {m : Model} (hnew : m.isNew = false) {db : Database π} {c : Config}
    (hc : db.config? m.schema.dataSource = some c) :
    (m.delete).run.run db =
      match ((m.ownQuery c).send (m.deleteStatement c.engine.dialect)).run.run db with
      | (.ok result, db') => (.ok (decide (0 < result.rowsAffected)), db')
      | (.error f, db') => (.error f, db') := by
  have hdelete : (m.ownRow (m.ownQuery c)).delete (π := π) =
      (m.ownQuery c).send (m.deleteStatement c.engine.dialect) := by
    rw [Query.delete, deleteStatement_ownRow]
    rfl
  unfold delete
  simp only [hnew, Bool.false_eq_true, if_false]
  rw [Session.run_bind, run_tableQuery, hc]
  simp only [Session.run_bind, hdelete]
  cases ((m.ownQuery c).send (m.deleteStatement c.engine.dialect)).run.run db with
  | mk outcome db' => cases outcome <;> rfl

end

theorem storedKey_setAll (m : Model) (edits : Record) :
    (m.setAll edits).storedKey = m.storedKey := by
  obtain ⟨changed, hframe⟩ := m.setAll_frame edits
  rw [hframe]
  rfl

/-- A new model takes the key over that is reported, if none was set. -/
theorem storedKey_saved {m : Model} (hset : m.SetOnce) (hnew : m.isNew = true)
    (hunset : m.changed.contains m.schema.primaryKey = false) {result : WriteResult} {key : Json}
    (hkey : result.insertId = some key) : (m.saved result).storedKey = key := by
  have hnone : m.changed.get? m.schema.primaryKey = none := by
    simpa [Fields.contains] using hunset
  have hadopted : m.adoptKey result.insertId =
      { m with stored := m.stored.insert m.schema.primaryKey key } := by
    simp [adoptKey, hunset, hkey]
  rw [saved, if_pos hnew, hadopted]
  unfold settle storedKey
  rw [Fields.get?_insertAll _ hset, hnone, Fields.get?_insert, if_pos rfl]
  rfl

/-- How the row of a stored model is found: an UPDATE and a DELETE bind this value last, and saving
and deleting the model send them, each once. -/
structure FoundBy (π : Type) [Pool π] (m : Model) (c : Config) (key : Value) : Prop where
  update_params : (m.updateStatement c.engine.dialect).params = m.stagedParams ++ [key]
  delete_params : (m.deleteStatement c.engine.dialect).params = [key]
  update (db : Database (Recorded π)) : db.IsFresh → db.config? m.schema.dataSource = some c →
    m.isDirty = true → Session.SendsOnceFrom db (m.updateStatement c.engine.dialect) m.save
  delete (db : Database (Recorded π)) : db.IsFresh → db.config? m.schema.dataSource = some c →
    Session.SendsOnceFrom db (m.deleteStatement c.engine.dialect) m.delete

theorem foundBy_storedKey [Pool π] {m : Model} (hset : m.SetOnce) (hnew : m.isNew = false)
    (hnull : m.storedKey.isNull = false) (c : Config) :
    m.FoundBy π c (.ofJson m.storedKey) := by
  have hbound : [Value.ofJson m.storedKey].filter (!·.isNull) = [.ofJson m.storedKey] := by
    simp [Value.isNull_ofJson, hnull]
  refine ⟨?_, hbound, ?_, ?_⟩
  · rw [params_updateStatement, hbound]
  · intro db hdb hc hdirty
    have hsend : Session.SendsOnceFrom db (m.updateStatement c.engine.dialect)
        ((m.ownQuery c).send (m.updateStatement c.engine.dialect)) :=
      (m.ownQuery c).sendsOnce_send _ db hdb
    refine hsend.of_run (g := fun r => (decide (0 < r.rowsAffected), m.saved r)) ?_
    rw [run_save hset hdirty, hc]
    simp only [hnew, hnull, Bool.and_false, Bool.false_eq_true, if_false, saveStatement]
    cases ((m.ownQuery c).send (m.updateStatement c.engine.dialect)).run.run db with
    | mk outcome db' => cases outcome <;> rfl
  · intro db hdb hc
    have hsend : Session.SendsOnceFrom db (m.deleteStatement c.engine.dialect)
        ((m.ownQuery c).send (m.deleteStatement c.engine.dialect)) :=
      (m.ownQuery c).sendsOnce_send _ db hdb
    refine hsend.of_run (g := fun r => decide (0 < r.rowsAffected)) ?_
    rw [run_delete hnew hc]
    cases ((m.ownQuery c).send (m.deleteStatement c.engine.dialect)).run.run db with
    | mk outcome db' => cases outcome <;> rfl

/-- A JSON value comes back from a column, in the rows that a pool serves, and as the key by which a
model looks for its row once that key was reported, unless it is a whole number above the signed
ones: that one becomes a float. -/
theorem values_rows_keys_read_back_iff [Pool π] {j : Json} (hj : j.isProper = true) :
    ((Value.ofJson j).toJson = j ↔ j.fitsInt64 = true) ∧
    (j.fitsInt64 = false → ∃ n, j = .int n ∧ Json.topInt64 < n ∧
      (Value.ofJson j).toJson = .double (.ofInt n)) ∧
    (∀ (pool : ScriptedPool) (rows : List Record) (others : List Statement) (s : Statement),
      others.length = pool.responses.length → (∀ r ∈ rows, r.IsProper) →
      ∃ read records,
        (Pool.fetchAll s ((pool.push (.rows rows)).receiveAll others)).1 = .ok read ∧
        read.mapM Row.toRecord = .ok records ∧
        (records = rows ↔ ∀ r ∈ rows, ∀ p ∈ r, p.2.fitsInt64 = true)) ∧
    ∀ (m : Model) (c : Config) (result : WriteResult) (db db' : Database π),
      m.SetOnce → m.isNew = true → m.isDirty = true →
      m.changed.contains m.schema.primaryKey = false →
      db.config? m.schema.dataSource = some c →
      ((m.ownQuery c).send (m.insertStatement c.engine.dialect)).Yields db result db' →
      result.insertId = some j → j.isNull = false →
      ∃ saved, (m.save).Yields db (decide (0 < result.rowsAffected), saved) db' ∧
        saved.storedKey = j ∧
        ((Value.ofJson j).toJson = saved.storedKey ↔ j.fitsInt64 = true) ∧
        ∀ edits : Record, (saved.setAll edits).FoundBy π c (.ofJson j) := by
  have hback := Value.toJson_ofJson_iff hj
  refine ⟨hback, fun hfits => ?_, ?_, ?_⟩
  · cases j with
    | int n =>
      have hlarge : ¬ n ≤ Json.topInt64 := by simpa [Json.fitsInt64] using hfits
      have hfloat := Value.toJson_ofJson hj
      simp only [hlarge, if_false] at hfloat
      exact ⟨n, rfl, Int.not_le.mp hlarge, hfloat⟩
    | null | bool | double | text | list | object => cases hfits
  · intro pool rows others s hothers hrows
    exact ⟨rows.map Row.ofRecord, rows.map Record.readBack, pool.fetchAll_pushed rows hothers s,
      Record.mapM_toRecord hrows, Record.map_readBack_eq_iff hrows⟩
  · intro m c result db db' hset hnew hdirty hunset hc hsend hkey hnull
    have hstored := storedKey_saved hset hnew hunset hkey
    refine ⟨m.saved result, ?_, hstored, hstored.symm ▸ hback, fun edits => ?_⟩
    · rw [Session.Yields, run_save hset hdirty, hc]
      simp only [hnew, Bool.not_true, Bool.false_and, Bool.false_eq_true, if_false, saveStatement,
        if_true]
      rw [hsend]
    · have hsaved : (m.saved result).SetOnce := by
        rw [SetOnce, changed_saved]
        exact List.nodup_nil
      have hold : ((m.saved result).setAll edits).isNew = false := by
        obtain ⟨changed, hframe⟩ := (m.saved result).setAll_frame edits
        rw [hframe, m.saved_eq result]
      have hedited := storedKey_setAll (m.saved result) edits
      rw [← hstored, ← hedited]
      refine foundBy_storedKey (hsaved.setAll edits) hold ?_ c
      rw [hedited, hstored]
      exact hnull

/-- A user that is not stored yet, without a key. -/
def newUser : Model := (Model.blank userSchema).set "name" (.text "Ann")

/-- A MySQL server that goes on to generate keys above the signed numbers. -/
def generatingDatabase : Database RemotePool where
  configs := [("main", .ofParts "main" .mysql "localhost" "app")]
  backends := []
  opened := [⟨"main", .mysql, .new .mysql [.ran (.write 1 9223372036854775809) none]⟩]
  registry := [("main", 0)]

/-- The UPDATE of that user looks for another key, the float nearest to its own. -/
theorem newUser_looks_for_float : (Json.int 9223372036854775809).isProper = true ∧
    (Value.ofJson (.int 9223372036854775809)).toJson = .double (.ofInt 9223372036854775808) ∧
    ∃ saved db', (newUser.save).Yields generatingDatabase (true, saved) db' ∧
      saved.storedKey = .int 9223372036854775809 ∧
      ((saved.setAll [("name", .text "Bob")]).updateStatement .mysql).params =
        (saved.setAll [("name", .text "Bob")]).stagedParams ++
          [.float64 (.ofInt 9223372036854775808)] := by
  have hproper : (Json.int 9223372036854775809).isProper = true := by decide
  obtain ⟨-, hlarge, -, hkeys⟩ := values_rows_keys_read_back_iff (π := RemotePool) hproper
  have hsend : ((newUser.ownQuery (.ofParts "main" .mysql "localhost" "app")).send
      (newUser.insertStatement .mysql)).Yields generatingDatabase
        ⟨1, 1, some (.int 9223372036854775809)⟩ _ := Prod.ext rfl rfl
  have hset : newUser.SetOnce := SetOnce.set (m := .blank userSchema) List.nodup_nil "name" _
  obtain ⟨saved, hsave, hkey, -, hfound⟩ := hkeys newUser _ _ _ _ hset rfl rfl rfl rfl hsend rfl rfl
  have hfloat : Double.ofInt 9223372036854775809 = .ofInt 9223372036854775808 := by decide +kernel
  have hparams := (hfound [("name", .text "Bob")]).update_params
  obtain ⟨n, hn, -, hread⟩ := hlarge (by decide)
  cases hn
  rw [← hfloat]
  exact ⟨hproper, hread, saved, _, hsave, hkey, hparams⟩

/-- So not all values of JSON come back. -/
theorem large_number_becomes_float : ¬ ∀ j : Json, j.isProper = true →
    (Value.ofJson j).toJson = j := by
  intro h
  have hback := h (.int 9223372036854775809) (by decide)
  have hfits := (Value.toJson_ofJson_iff (by decide)).mp hback
  exact absurd hfits (by decide)

end Model
end SqlRecords
