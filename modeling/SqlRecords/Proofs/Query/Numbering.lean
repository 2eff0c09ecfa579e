import Mathlib.Algebra.Ring.Nat
import SqlRecords.Proofs.Query.OnePass
import SqlRecords.Proofs.Query.Parameters

/-! Numbers of parameters. A query inside a statement is written as it is anywhere else, with the
numbers that follow those given before it, and takes as many as the statement of its own. -/
namespace SqlRecords

/-- How many of a list of values take a number. -/
def nonNullCount (vs : List Value) : Nat := (vs.filter (!·.isNull)).length

@[simp] theorem nonNullCount_append (a b : List Value) :
    nonNullCount (a ++ b) = nonNullCount a + nonNullCount b := by
  simp [nonNullCount]

/-- The number of parameters of the SELECT of a query by itself. -/
def Query.parameterCount (q : Query) : Nat :=
  match q.selectStatement with
  | .ok s => s.params.length
  | .error _ => 0

def Source.parameterCount : Source → Nat
  | .table _ => 0
  | .derived query _ => query.parameterCount

def Token.parameterCount : Token → Nat
  | .membership _ _ (.rows query) => query.parameterCount
  | t => nonNullCount t.boundValues

def Predicate.parameterCount (p : List Token) : Nat := (p.map Token.parameterCount).sum

def Weight.parameterCount : Weight → Nat
  | ⟨predicate, _, .score _⟩ => Predicate.parameterCount predicate
  | ⟨predicate, _, .weight w⟩ => Predicate.parameterCount predicate + w.parameterCount

def Join.parameterCount (j : Join) : Nat :=
  j.target.parameterCount + Predicate.parameterCount j.on

/-- The numbers of the parts of a query, added up. -/
def Query.partsCount (q : Query) : Nat :=
  (q.weights.map Weight.parameterCount).sum + (q.source.map Source.parameterCount).getD 0
    + (q.joins.map Join.parameterCount).sum + Predicate.parameterCount q.predicate

theorem Query.parameterCount_eq (q : Query) (h : q.isComplete = true) :
    q.parameterCount = nonNullCount q.boundValues := by
  have hwritable : q.writable .select = true := h
  obtain ⟨draft, hd⟩ := draft_of_writable hwritable
  have hs : q.selectStatement = .ok (.ofDraft q.dialect draft) := statement_of_draft hd
  have hslots : draft.sql.slots = q.boundValues := draft_slots hd
  unfold parameterCount nonNullCount
  rw [hs, ← hslots]
  rfl

theorem Source.parameterCount_eq (s : Source) (h : s.isComplete = true) :
    s.parameterCount = nonNullCount s.boundValues := by
  cases s with
  | table name => rfl
  | derived query label => exact query.parameterCount_eq h

theorem Token.parameterCount_eq (t : Token) (h : t.isComplete = true) :
    t.parameterCount = nonNullCount t.boundValues := by
  match t with
  | .membership _ _ (.rows query) => exact query.parameterCount_eq h
  | .membership _ _ (.values ..) | .compare .. | .nullness .. | .between .. | .connector _
  | .opening | .closing => rfl

theorem Predicate.parameterCount_eq (p : List Token) (h : Token.allComplete p = true) :
    parameterCount p = nonNullCount (Token.allBoundValues p) := by
  induction p with
  | nil => rfl
  | cons t rest ih =>
    obtain ⟨ht, hrest⟩ := Bool.and_eq_true_iff.mp h
    have hcons : parameterCount (t :: rest) = t.parameterCount + parameterCount rest := rfl
    rw [hcons, t.parameterCount_eq ht, ih hrest, Token.allBoundValues, nonNullCount_append]

theorem Weight.parameterCount_eq (w : Weight) (h : w.isComplete = true) :
    w.parameterCount = nonNullCount w.boundValues := by
  match w with
  | ⟨predicate, _, .score _⟩ =>
    obtain ⟨hp, -⟩ := Bool.and_eq_true_iff.mp h
    rw [parameterCount, Predicate.parameterCount_eq predicate hp, Weight.boundValues,
      Otherwise.boundValues, List.append_nil]
  | ⟨predicate, _, .weight inner⟩ =>
    obtain ⟨hp, hinner⟩ := Bool.and_eq_true_iff.mp h
    rw [parameterCount, Predicate.parameterCount_eq predicate hp, inner.parameterCount_eq hinner,
      Weight.boundValues, Otherwise.boundValues, nonNullCount_append]

theorem Weight.sum_parameterCount (ws : List Weight) (h : Weight.allComplete ws = true) :
    (ws.map Weight.parameterCount).sum = nonNullCount (Weight.allBoundValues ws) := by
  induction ws with
  | nil => rfl
  | cons w rest ih =>
    obtain ⟨hw, hrest⟩ := Bool.and_eq_true_iff.mp h
    rw [List.map_cons, List.sum_cons, w.parameterCount_eq hw, ih hrest, Weight.allBoundValues,
      nonNullCount_append]

theorem Join.parameterCount_eq (j : Join) (h : j.isComplete = true) :
    j.parameterCount = nonNullCount j.boundValues := by
  obtain ⟨kind, target, on⟩ := j
  obtain ⟨htarget, hon⟩ := Bool.and_eq_true_iff.mp h
  rw [parameterCount, target.parameterCount_eq htarget, Predicate.parameterCount_eq on hon,
    Join.boundValues, nonNullCount_append]

theorem Join.sum_parameterCount (js : List Join) (h : Join.allComplete js = true) :
    (js.map Join.parameterCount).sum = nonNullCount (Join.allBoundValues js) := by
  induction js with
  | nil => rfl
  | cons j rest ih =>
    obtain ⟨hj, hrest⟩ := Bool.and_eq_true_iff.mp h
    rw [List.map_cons, List.sum_cons, j.parameterCount_eq hj, ih hrest, Join.allBoundValues,
      nonNullCount_append]

/-- The bound values of a query are those of its parts, counted part by part. -/
theorem Query.partsCount_eq (q : Query) (h : q.isComplete = true) :
    q.partsCount = nonNullCount q.boundValues := by
  obtain ⟨own, dataSource, source, columns, additional, distinct, joins, predicate, weights,
    groupBy, orderBy, limit, offset, payload, returning⟩ := q
  obtain ⟨hweights, hrest⟩ := Bool.and_eq_true_iff.mp h
  obtain ⟨hsource, hrest⟩ := Bool.and_eq_true_iff.mp hrest
  obtain ⟨hjoins, hpredicate⟩ := Bool.and_eq_true_iff.mp hrest
  cases source with
  | none => cases hsource
  | some source =>
    have hs := source.parameterCount_eq hsource
    simp only [partsCount, Weight.sum_parameterCount weights hweights,
      Join.sum_parameterCount joins hjoins, Predicate.parameterCount_eq predicate hpredicate,
      Option.map_some, Option.getD_some, hs, boundValues, Source.anyBoundValues,
      nonNullCount_append]

namespace Query

/-- The SELECT of a query is what one pass writes from an empty text on. -/
theorem selectStatement_eq_write (q : Query) :
    q.selectStatement = (q.write .outermost ⟨q.dialect, "", []⟩).map fun out =>
      .ofText q.dialect .select out.text out.params := by
  rw [q.write_emits q.dialect .outermost ⟨q.dialect, "", []⟩ rfl]
  unfold selectStatement finish selectDraft
  cases q.clauses q.dialect .outermost with
  | error e => rfl
  | ok c =>
    simp only [map_ok, Output.put_eq, List.nil_append, String.empty_append]
    rfl

/-- A query that is complete is written after anything. -/
theorem write_of_isComplete (q : Query) (place : Place) (start : Output)
    (h : q.isComplete = true) : ∃ finish, q.write place start = .ok finish := by
  have hwrite := q.write_emits start.dialect place start rfl
  have hw := q.clauses_writes start.dialect place
  cases hc : q.clauses start.dialect place with
  | ok c =>
    rw [hc] at hwrite
    exact ⟨_, hwrite⟩
  | error e =>
    rw [hc] at hw
    exact absurd (hw.1.symm.trans h) (by decide)

/-- A query that is written once can be written after any text and any parameters. There is one list
of fragments: the text added is these with the numbers that follow between them, the parameters
added are the same, and what was there before stays. The number of parameters is that of the
query's own statement, which is written after nothing, and the sum of the numbers of its parts. -/
theorem write_renumbers (q : Query) (place : Place) (start finish : Output)
    (h : q.write place start = .ok finish) :
    ∃ (fragments : List String) (values : List Value),
      fragments.length = values.length + 1 ∧
      (∀ out : Output, out.dialect = start.dialect →
        q.write place out = .ok { out with
          text := out.text ++ Sql.fill fragments
            (Sql.placeholders out.dialect out.params.length values.length)
          params := out.params ++ values }) ∧
      (∃ c, q.clauses start.dialect place = .ok c ∧ c.sql.params = values ∧
        ∀ n, c.sql.renderAfter start.dialect n =
          Sql.fill fragments (Sql.placeholders start.dialect n values.length)) ∧
      (∃ s, q.selectStatement = .ok s ∧ s.params = values) ∧
      (q.selectStatement = (q.write .outermost ⟨q.dialect, "", []⟩).map fun out =>
        .ofText q.dialect .select out.text out.params) ∧
      values.length = q.partsCount := by
  have hwrite := q.write_emits start.dialect place
  cases hc : q.clauses start.dialect place with
  | error e =>
    have hstart := hwrite start rfl
    rw [hc, h] at hstart
    cases hstart
  | ok c =>
    have hw := q.clauses_writes start.dialect place
    rw [hc] at hw
    have hvalues : c.sql.params = q.boundValues.filter (!·.isNull) := by
      unfold Sql.params
      rw [c.sql_slots, hw.2]
    refine ⟨c.sql.settled.fragments, c.sql.params, ?_, ?_, ?_, ?_, q.selectStatement_eq_write, ?_⟩
    · rw [Sql.fragments_length, Sql.slots_settled]
    · intro out hout
      have hput := hwrite out hout
      rw [hc] at hput
      rw [hput, ← Sql.renderAfter_eq_fill_placeholders, ← Output.put_eq]
      rfl
    · exact ⟨c, rfl, rfl, fun n => Sql.renderAfter_eq_fill_placeholders start.dialect n c.sql⟩
    · have hwritable : q.writable .select = true := hw.1
      obtain ⟨draft, hd⟩ := draft_of_writable hwritable
      refine ⟨_, statement_of_draft hd, ?_⟩
      have hslots : draft.sql.slots = q.boundValues := draft_slots hd
      rw [hvalues, ← hslots]
      rfl
    · rw [q.partsCount_eq hw.1, hvalues]
      rfl

theorem openOrders_renumbers : ∃ fragments values,
    openOrders.write .nested ⟨.mssql, "(", [.int64 1, .int64 2]⟩ = .ok ⟨.mssql,
      "(" ++ Sql.fill fragments
        ["@param3", "@param4", "@param5", "@param6", "@param7", "@param8"],
      .int64 1 :: .int64 2 :: values⟩ := by
  obtain ⟨finish, hfinish⟩ := openOrders.write_of_isComplete .nested ⟨.mssql, "", []⟩ rfl
  obtain ⟨fragments, values, -, hwrite, -, -, -, hcount⟩ :=
    write_renumbers openOrders .nested ⟨.mssql, "", []⟩ finish hfinish
  have hlength : values.length = 6 := hcount.trans (openOrders.partsCount_eq rfl)
  refine ⟨fragments, values, ?_⟩
  have hout := hwrite ⟨.mssql, "(", [.int64 1, .int64 2]⟩ rfl
  rw [hlength] at hout
  exact hout

end Query
end SqlRecords
