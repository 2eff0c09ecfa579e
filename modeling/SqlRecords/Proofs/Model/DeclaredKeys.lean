import SqlRecords.Model.Schema
import SqlRecords.Proofs.Model.Serialization

/-! The primary key among the declared columns of a schema. Declaring columns adds the key of that
moment; a key that is set afterwards is not added, and the one before it stays. -/
namespace SqlRecords

/-- A call that a schema is built with. -/
inductive SchemaStep where
  | keyedBy (column : String)
  | declare (columns : List String)
  | relate (name : String) (decl : RelationDecl)

namespace SchemaStep

def declares : SchemaStep → Bool
  | declare _ => true
  | _ => false

/-- The key after a call. -/
def keyAfter (key : String) : SchemaStep → String
  | keyedBy column => column
  | _ => key

/-- The key of a new schema after some calls. -/
def keyOf (steps : List SchemaStep) : String := steps.foldl keyAfter "id"

end SchemaStep

/-- Columns with a key, which comes first if they lack it. -/
def keyed (key : String) (columns : List String) : List String :=
  if key ∈ columns then columns else key :: columns

theorem mem_keyed_iff {key : String} {columns : List String} {column : String} :
    column ∈ keyed key columns ↔ column = key ∨ column ∈ columns := by
  unfold keyed
  split
  · next h =>
    constructor
    · exact .inr
    · rintro (rfl | hcolumn)
      · exact h
      · exact hcolumn
  · exact List.mem_cons

/-- Two keys come with the same columns if they are one, or none of them has to be added. -/
theorem keyed_eq_keyed_iff {a b : String} {columns : List String} :
    keyed a columns = keyed b columns ↔ a = b ∨ a ∈ columns ∧ b ∈ columns := by
  constructor
  · intro h
    by_cases ha : a ∈ columns
    · by_cases hb : b ∈ columns
      · exact .inr ⟨ha, hb⟩
      · have hlength := congrArg List.length h
        simp [keyed, ha, hb] at hlength
    · by_cases hb : b ∈ columns
      · have hlength := congrArg List.length h
        simp [keyed, ha, hb] at hlength
      · simp only [keyed, ha, hb, if_false] at h
        exact .inl (List.cons.inj h).1
  · rintro (rfl | ⟨ha, hb⟩)
    · rfl
    · simp [keyed, ha, hb]

namespace Schema

def step (s : Schema) : SchemaStep → Schema
  | .keyedBy column => s.keyedBy column
  | .declare columns => s.declare columns
  | .relate name decl => s.relate name decl

def build (s : Schema) (steps : List SchemaStep) : Schema := steps.foldl step s

theorem primaryKey_step (s : Schema) (st : SchemaStep) :
    (s.step st).primaryKey = st.keyAfter s.primaryKey := by
  cases st <;> rfl

theorem columns_step {st : SchemaStep} (h : st.declares = false) (s : Schema) :
    (s.step st).columns = s.columns := by
  cases st with
  | declare columns => cases h
  | keyedBy | relate => rfl

theorem columns_declare (s : Schema) (columns : List String) :
    (s.declare columns).columns = keyed s.primaryKey columns := by
  simp [declare, keyed]

/-- The last key that was set counts. -/
theorem primaryKey_build (s : Schema) (steps : List SchemaStep) :
    (s.build steps).primaryKey = steps.foldl SchemaStep.keyAfter s.primaryKey := by
  induction steps generalizing s with
  | nil => rfl
  | cons st rest ih =>
    rw [List.foldl_cons, ← primaryKey_step]
    exact ih (s.step st)

theorem columns_build {steps : List SchemaStep} (h : ∀ st ∈ steps, st.declares = false)
    (s : Schema) : (s.build steps).columns = s.columns := by
  induction steps generalizing s with
  | nil => rfl
  | cons st rest ih =>
    obtain ⟨hst, hrest⟩ := List.forall_mem_cons.mp h
    exact (ih hrest (s.step st)).trans (columns_step hst s)

end Schema

/-- Calls that declare columns do it for a last time. -/
theorem SchemaStep.exists_last_declare {steps : List SchemaStep} {columns : List String}
    (h : .declare columns ∈ steps) : ∃ front last back, steps = front ++ .declare last :: back ∧
      ∀ st ∈ back, st.declares = false := by
  induction steps generalizing columns with
  | nil => cases h
  | cons st rest ih =>
    by_cases hrest : ∃ columns, .declare columns ∈ rest
    · obtain ⟨columns, hcolumns⟩ := hrest
      obtain ⟨front, last, back, rfl, hback⟩ := ih hcolumns
      exact ⟨st :: front, last, back, rfl, hback⟩
    · obtain rfl : .declare columns = st :=
        (List.mem_cons.mp h).resolve_right fun hmem => hrest ⟨columns, hmem⟩
      refine ⟨[], columns, rest, rfl, fun st hst => ?_⟩
      cases st with
      | declare columns => exact absurd ⟨columns, hst⟩ hrest
      | keyedBy | relate => rfl

namespace Schema

/-- Calls that declare columns at all leave the columns of the last such call, with the key of that
moment. So the key of the finished schema is declared if it is among them or is that key; if not, no
model that is read from a row has a key. -/
theorem key_declared_iff {dataSource table : String} {steps : List SchemaStep} {s : Schema}
    (hs : (new dataSource table).build steps = s) (h : ∃ columns, .declare columns ∈ steps) :
    ∃ front columns back, steps = front ++ .declare columns :: back ∧
      (∀ st ∈ back, st.declares = false) ∧ s.primaryKey = SchemaStep.keyOf steps ∧
      s.columns = keyed (SchemaStep.keyOf front) columns ∧
      (s.hasColumn s.primaryKey = true ↔
        s.primaryKey = SchemaStep.keyOf front ∨ s.primaryKey ∈ columns) ∧
      (s.columns = keyed s.primaryKey columns ↔ SchemaStep.keyOf front = s.primaryKey ∨
        SchemaStep.keyOf front ∈ columns ∧ s.primaryKey ∈ columns) ∧
      (s.hasColumn s.primaryKey = false →
        ∀ row additional, (Model.ofRow s row additional).key = .null) := by
  obtain ⟨columns, hcolumns⟩ := h
  obtain ⟨front, last, back, rfl, hback⟩ := SchemaStep.exists_last_declare hcolumns
  have hkey : s.primaryKey = SchemaStep.keyOf (front ++ .declare last :: back) := by
    rw [← hs, primaryKey_build]
    rfl
  have hsplit : (((new dataSource table).build front).declare last).build back = s := by
    rw [← hs]
    show _ = (front ++ .declare last :: back).foldl step (new dataSource table)
    rw [List.foldl_append]
    rfl
  have hdeclared : s.columns = keyed (SchemaStep.keyOf front) last := by
    rw [← hsplit, columns_build hback, columns_declare, primaryKey_build]
    rfl
  refine ⟨front, last, back, rfl, hback, hkey, hdeclared, ?_, ?_, ?_⟩
  · rw [hasColumn, List.contains_iff_mem, hdeclared, mem_keyed_iff]
  · rw [hdeclared]
    exact keyed_eq_keyed_iff
  · intro hmissing row additional
    exact Model.column_ofRow_of_not_declared hmissing row additional

def tagSteps : List SchemaStep :=
  [.keyedBy "tag_id", .declare ["label"], .relate "owner" ⟨.belongsTo "owner_id", "users"⟩]

/-- A key that is set first is declared with the columns. -/
theorem tags_declare_key : ((new "main" "tags").build tagSteps).hasColumn "tag_id" = true ∧
    ((new "main" "tags").build tagSteps).columns = keyed "tag_id" ["label"] := by
  have hdeclare : ∃ columns, .declare columns ∈ tagSteps := ⟨["label"], by simp [tagSteps]⟩
  obtain ⟨s, hs⟩ : ∃ s, (new "main" "tags").build tagSteps = s := ⟨_, rfl⟩
  obtain ⟨front, columns, back, hsteps, -, hkey, hcolumns, hhas, -⟩ := key_declared_iff hs hdeclare
  obtain ⟨rfl, rfl, -⟩ : front = [.keyedBy "tag_id"] ∧ columns = ["label"] ∧
      back = [.relate "owner" ⟨.belongsTo "owner_id", "users"⟩] := by
    simpa [tagSteps, List.cons_eq_append_iff] using hsteps
  have htag : s.primaryKey = "tag_id" := hkey
  rw [htag] at hhas
  rw [hs]
  exact ⟨hhas.mpr (.inl rfl), hcolumns⟩

/-- A key that is set last is not, and the one before it is. -/
theorem key_may_be_undeclared : ¬ ∀ (dataSource table : String) (steps : List SchemaStep)
    (s : Schema), (new dataSource table).build steps = s →
    (∃ columns, .declare columns ∈ steps) → s.hasColumn s.primaryKey = true := by
  intro h
  have hdeclared := h "main" "tags" [.declare ["label"], .keyedBy "tag_id"] _ rfl
    ⟨["label"], List.mem_cons_self⟩
  exact absurd hdeclared (by decide)

end Schema
end SqlRecords
