import SqlRecords.Session.Database

/-! Steps that change a value in place while they work on a database. -/
namespace SqlRecords

/-- Steps on a value in place and on a database. What they changed before they failed stays
changed. -/
abbrev Edit (σ π : Type) := ExceptT Failure (StateT σ (StateM (Database π)))

namespace Edit
variable {σ π α β : Type}

/-- The outcome of steps, with the value and the database that they leave. -/
def exec (x : Edit σ π α) (a : σ) (db : Database π) : (Except Failure α × σ) × Database π :=
  (x.run.run a).run db

def onDatabase (x : Session π α) : Edit σ π α := ExceptT.mk (StateT.lift x.run)

section
variable (a : σ) (db : Database π)

theorem exec_bind (x : Edit σ π α) (f : α → Edit σ π β) :
    exec (x >>= f) a db = match exec x a db with
      | ((.ok b, a'), db') => exec (f b) a' db'
      | ((.error e, a'), db') => ((.error e, a'), db') := by
  unfold exec
  rw [ExceptT.run_bind, StateT.run_bind, StateT.run_bind]
  cases (x.run.run a).run db with
  | mk left db' =>
    obtain ⟨outcome, a'⟩ := left
    cases outcome <;> rfl

theorem exec_get_bind (f : σ → Edit σ π β) : exec (get >>= f) a db = exec (f a) a db := rfl

theorem exec_modify_bind (f : σ → σ) (g : Unit → Edit σ π β) :
    exec (modify f >>= g) a db = exec (g ()) (f a) db := rfl

theorem exec_pure (b : α) : exec (pure b : Edit σ π α) a db = ((.ok b, a), db) := rfl

theorem exec_onDatabase (x : Session π α) :
    exec (onDatabase x) a db = (((x.run.run db).1, a), (x.run.run db).2) := rfl

end
end Edit
end SqlRecords
