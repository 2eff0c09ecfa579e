import SqlRecords.Proofs.Model.SaveStatements

/-! Saving a model in place, step by step. -/
namespace SqlRecords.Model
variable {π : Type}

section
open Edit
variable (m : Model) (db : Database π)

theorem exec_storeInPlace (column : String) (v : Json) :
    exec (storeInPlace column v) m db =
      ((.ok (), { m with stored := m.stored.insert column v }), db) := rfl

theorem exec_takeChanged :
    exec takeChanged m db = ((.ok m.changed, { m with changed := [] }), db) := rfl

theorem exec_forM_storeInPlace (fields : Record) :
    exec (forM fields fun (column, v) => storeInPlace column v) m db =
      ((.ok (), { m with stored := m.stored.insertAll fields }), db) := by
  induction fields generalizing m with
  | nil =>
    rw [List.forM_nil, exec_pure]
    cases m
    rfl
  | cons p rest ih =>
    obtain ⟨column, v⟩ := p
    rw [List.forM_cons, exec_bind, exec_storeInPlace]
    exact ih _

theorem exec_settleInPlace : exec settleInPlace m db = ((.ok (), m.settle), db) := by
  unfold settleInPlace
  rw [exec_bind, exec_takeChanged]
  simp only
  rw [exec_bind, exec_forM_storeInPlace]
  rfl

variable [Pool π]

theorem exec_insertRow (q : Query) :
    exec (insertRow q) m db = match ((m.insertion q).save).run.run db with
      | (.ok result, db') => ((.ok result, m.adoptKey result.insertId), db')
      | (.error f, db') => ((.error f, m), db') := by
  unfold insertRow
  rw [exec_get_bind, exec_bind, exec_onDatabase]
  cases ((m.insertion q).save).run.run db with
  | mk outcome db' =>
    cases outcome with
    | error f => rfl
    | ok result =>
      simp only [exec_get_bind, adoptKey]
      cases m.changed.contains m.schema.primaryKey with
      | true => rfl
      | false => cases result.insertId <;> rfl

theorem exec_updateRow (q : Query) :
    exec (updateRow q) m db =
      if m.storedKey.isNull then ((.error m.keyless, m), db)
      else match ((m.ownRow (q.update m.changed true)).save).run.run db with
        | (.ok result, db') => ((.ok result, m), db')
        | (.error f, db') => ((.error f, m), db') := by
  unfold updateRow
  rw [exec_get_bind]
  cases m.storedKey.isNull with
  | true => rfl
  | false =>
    simp only [Bool.false_eq_true, if_false]
    rw [exec_get_bind, exec_get_bind, exec_onDatabase]
    cases ((m.ownRow (q.update m.changed true)).save).run.run db with
    | mk outcome db' => cases outcome <;> rfl

/-- In place a save does what it does on a copy; if it fails the model is as before. -/
theorem exec_saveInPlace :
    exec saveInPlace m db = match (m.save).run.run db with
      | (.ok (saved, m'), db') => ((.ok saved, m'), db')
      | (.error f, db') => ((.error f, m), db') := by
  unfold saveInPlace save isDirty
  rw [exec_get_bind]
  cases m.changed.isEmpty with
  | true => rfl
  | false =>
    simp only [Bool.false_eq_true, if_false, exec_get_bind, Bool.not_false, Bool.not_true]
    rw [exec_bind, exec_onDatabase, Session.run_bind]
    cases (m.tableQuery).run.run db with
    | mk outcome mid =>
    cases outcome with
    | error f => rfl
    | ok q =>
      simp only [exec_get_bind]
      cases m.isNew with
      | true =>
        simp only [if_true]
        rw [exec_bind, exec_insertRow, Session.run_bind]
        cases ((m.insertion q).save).run.run mid with
        | mk outcome last =>
        cases outcome with
        | error f => rfl
        | ok result =>
          simp only
          rw [exec_bind, exec_settleInPlace]
          rfl
      | false =>
        simp only [Bool.false_eq_true, if_false]
        rw [exec_bind, exec_updateRow]
        cases m.storedKey.isNull with
        | true => rfl
        | false =>
          simp only [Bool.false_eq_true, if_false]
          rw [Session.run_bind]
          cases ((m.ownRow (q.update m.changed true)).save).run.run mid with
          | mk outcome last =>
          cases outcome with
          | error f => rfl
          | ok result =>
            simp only
            rw [exec_bind, exec_settleInPlace]
            rfl

end
end SqlRecords.Model
