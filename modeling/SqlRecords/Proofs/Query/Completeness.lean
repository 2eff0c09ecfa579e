import SqlRecords.Proofs.Query.InsertedRows
import SqlRecords.Proofs.SqlServer.Ordering

/-! Which queries cannot be written. A SELECT needs a source, and so does each SELECT inside it; a
write needs a table and something to write, and of the SELECTs it needs those that it holds. -/
namespace SqlRecords

section
variable {r : Query}

theorem Source.sizeOf_lt {source : Source} (h : r ∈ source.nested) : sizeOf r < sizeOf source := by
  cases source with
  | table name => cases h
  | derived query label =>
    cases List.mem_singleton.mp h
    rw [derived.sizeOf_spec]
    omega

theorem Token.sizeOf_lt {t : Token} (h : r ∈ t.nested) : sizeOf r < sizeOf t := by
  cases t with
  | membership field negated members =>
    cases members with
    | values vs bound => cases h
    | rows query =>
      cases List.mem_singleton.mp h
      rw [membership.sizeOf_spec, Members.rows.sizeOf_spec]
      omega
  | compare | nullness | between | connector | opening | closing => cases h

theorem Predicate.sizeOf_lt {p : List Token} (h : r ∈ nested p) : sizeOf r < sizeOf p := by
  obtain ⟨t, ht, hr⟩ := List.mem_flatMap.mp h
  exact Nat.lt_trans (Token.sizeOf_lt hr) (List.sizeOf_lt_of_mem ht)

theorem Join.sizeOf_lt {j : Join} (h : r ∈ j.nested) : sizeOf r < sizeOf j := by
  obtain ⟨kind, target, on⟩ := j
  rw [mk.sizeOf_spec]
  obtain h | h := List.mem_append.mp h
  · have htarget := Source.sizeOf_lt h
    dsimp only at htarget
    omega
  · have hon := Predicate.sizeOf_lt h
    dsimp only at hon
    omega

mutual

theorem Weight.sizeOf_lt (w : Weight) (h : r ∈ w.nested) : sizeOf r < sizeOf w := by
  obtain ⟨predicate, score, otherwise⟩ := w
  rw [Weight.mk.sizeOf_spec]
  rw [Weight.nested] at h
  obtain h | h := List.mem_append.mp h
  · have hpredicate := Predicate.sizeOf_lt h
    omega
  · have hotherwise := Otherwise.sizeOf_lt otherwise h
    omega

theorem Otherwise.sizeOf_lt (o : Otherwise) (h : r ∈ o.nested) : sizeOf r < sizeOf o := by
  match o with
  | .score x => rw [Otherwise.nested] at h; cases h
  | .weight w =>
    rw [Otherwise.nested] at h
    have hweight := Weight.sizeOf_lt w h
    rw [Otherwise.weight.sizeOf_spec]
    omega

end

/-- A query inside another one is smaller. -/
theorem Query.sizeOf_lt {q : Query} (h : r ∈ q.nested) : sizeOf r < sizeOf q := by
  obtain ⟨own, dataSource, source, columns, additional, distinct, joins, predicate, weights,
    groupBy, orderBy, limit, offset, payload, returning⟩ := q
  rw [mk.sizeOf_spec]
  simp only [nested, List.mem_append, List.mem_flatMap] at h
  rcases h with ((⟨w, hw, h⟩ | h) | ⟨j, hj, h⟩) | h
  · have hweight := w.sizeOf_lt h
    have hweights := List.sizeOf_lt_of_mem hw
    omega
  · cases source with
    | none => cases h
    | some source =>
      have hsource := Source.sizeOf_lt h
      rw [Option.some.sizeOf_spec]
      omega
  · have hjoin := Join.sizeOf_lt h
    have hjoins := List.sizeOf_lt_of_mem hj
    omega
  · have hpredicate := Predicate.sizeOf_lt h
    omega

end

theorem Source.isComplete_eq (source : Source) :
    source.isComplete = source.nested.all Query.isComplete := by
  cases source with
  | table name => rfl
  | derived query label => simp [isComplete, nested]

theorem Token.isComplete_eq (t : Token) : t.isComplete = t.nested.all Query.isComplete := by
  cases t with
  | membership field negated members =>
    cases members <;> simp [isComplete, Members.isComplete, nested, Members.nested]
  | compare | nullness | between | connector | opening | closing => rfl

theorem Predicate.allComplete_eq (p : List Token) :
    Token.allComplete p = (nested p).all Query.isComplete := by
  induction p with
  | nil => rfl
  | cons t rest ih =>
    rw [nested, List.flatMap_cons, List.all_append, Token.allComplete, t.isComplete_eq, ih]
    rfl

theorem Join.allComplete_eq (joins : List Join) :
    allComplete joins = (joins.flatMap nested).all Query.isComplete := by
  induction joins with
  | nil => rfl
  | cons j rest ih =>
    obtain ⟨kind, target, on⟩ := j
    rw [List.flatMap_cons, List.all_append, allComplete, ih, isComplete, target.isComplete_eq,
      Predicate.allComplete_eq, nested, List.all_append]

mutual

theorem Weight.isComplete_eq (w : Weight) : w.isComplete = w.nested.all Query.isComplete := by
  obtain ⟨predicate, score, otherwise⟩ := w
  rw [Weight.nested, List.all_append, Weight.isComplete, Predicate.allComplete_eq,
    Otherwise.isComplete_eq otherwise]

theorem Otherwise.isComplete_eq (o : Otherwise) :
    o.isComplete = o.nested.all Query.isComplete := by
  match o with
  | .score x => rw [Otherwise.nested]; rfl
  | .weight w => rw [Otherwise.nested, Otherwise.isComplete, Weight.isComplete_eq w]

end

theorem Weight.allComplete_eq (weights : List Weight) :
    allComplete weights = (weights.flatMap nested).all Query.isComplete := by
  induction weights with
  | nil => rfl
  | cons w rest ih =>
    rw [List.flatMap_cons, List.all_append, allComplete, ih, w.isComplete_eq]

/-- A query is complete when it has a source and the queries directly inside it are complete. -/
theorem Query.isComplete_eq (q : Query) :
    q.isComplete = (q.source.isSome && q.nested.all isComplete) := by
  obtain ⟨own, dataSource, source, columns, additional, distinct, joins, predicate, weights,
    groupBy, orderBy, limit, offset, payload, returning⟩ := q
  simp only [nested, List.all_append, ← Weight.allComplete_eq, ← Join.allComplete_eq,
    ← Predicate.allComplete_eq]
  cases source with
  | none => simp [isComplete, Source.anyComplete]
  | some source =>
    simp [isComplete, Source.anyComplete, Source.isComplete_eq, Bool.and_assoc]

namespace Query

/-- An incomplete query has a query without a source in it. -/
theorem exists_sourceless {q : Query} {form : Form} {place : Place} {p : Query}
    (hp : q.Holds form place p) (h : p.isComplete = false) :
    ∃ place' r, q.Holds form place' r ∧ r.source = none := by
  cases hsource : p.source with
  | none => exact ⟨place, p, hp, hsource⟩
  | some source =>
    rw [isComplete_eq, hsource, Option.isSome_some, Bool.true_and, List.all_eq_false] at h
    obtain ⟨inner, hinner, hincomplete⟩ := h
    have hsmaller := sizeOf_lt hinner
    exact exists_sourceless (.inside hp hinner) (Bool.not_eq_true _ ▸ hincomplete)
termination_by sizeOf p

theorem isComplete_of_holds {q : Query} {form : Form}
    (hall : ∀ place r, (place, r) ∈ q.selects form → r.isComplete = true) {place : Place}
    {r : Query} (h : q.Holds form place r) : r.isComplete = true := by
  induction h with
  | top h => exact hall _ _ h
  | inside hp h ih =>
    rw [isComplete_eq, Bool.and_eq_true, List.all_eq_true] at ih
    exact ih.2 _ h

/-- The SELECTs of a statement that stand in no other are complete when no SELECT in it lacks a
source. -/
theorem exists_incomplete_iff (q : Query) (form : Form) :
    (∃ place r, (place, r) ∈ q.selects form ∧ r.isComplete = false) ↔
      ∃ place r, q.Holds form place r ∧ r.source = none := by
  constructor
  · rintro ⟨place, r, hr, hincomplete⟩
    exact exists_sourceless (.top hr) hincomplete
  · rintro ⟨place, r, hr, hsource⟩
    apply Classical.byContradiction
    intro hnone
    have hcomplete : r.isComplete = true := by
      apply isComplete_of_holds _ hr
      intro place' r' hr'
      apply Classical.byContradiction
      intro hincomplete
      exact hnone ⟨place', r', hr', Bool.not_eq_true _ ▸ hincomplete⟩
    rw [isComplete_eq, hsource] at hcomplete
    cases hcomplete

/-- A query cannot be written as a statement. -/
def Fails (q : Query) (form : Form) : Prop :=
  ∃ f, (q.statement form).mapError Incomplete.failure = .error f

theorem fails_iff_not_writable (q : Query) (form : Form) :
    q.Fails form ↔ q.writable form = false := by
  have hdrafted := q.draft_drafted form
  unfold Fails
  rw [statement_eq, finish]
  cases hd : q.draft form with
  | error e =>
    rw [hd] at hdrafted
    exact ⟨fun _ => hdrafted, fun _ => ⟨e.failure, rfl⟩⟩
  | ok draft =>
    rw [hd] at hdrafted
    constructor
    · rintro ⟨f, hf⟩
      cases hf
    · intro hnot
      cases hnot.symm.trans hdrafted.1

theorem hasTarget_eq_false_iff (q : Query) :
    q.hasTarget = false ↔ ∀ name, q.source ≠ some (.table name) := by
  unfold hasTarget
  match q.source with
  | none | some (.table _) | some (.derived ..) => simp

theorem allComplete_predicate_iff (q : Query) :
    Token.allComplete q.predicate = false ↔
      ∃ r ∈ Predicate.nested q.predicate, r.Fails .select := by
  rw [Predicate.allComplete_eq, List.all_eq_false]
  simp only [fails_iff_not_writable, Bool.not_eq_true]
  rfl

theorem isEmpty_insertColumns_iff (rows : List (Fields Value)) :
    (insertColumns rows).isEmpty = true ↔ ∀ row ∈ rows, row = [] := by
  rw [insertColumns_eq, List.isEmpty_iff, List.eq_nil_iff_forall_not_mem]
  simp only [List.mem_eraseDups, List.mem_flatMap, not_exists, not_and]
  constructor
  · intro hnone row hrow
    apply List.eq_nil_iff_forall_not_mem.mpr
    intro field hfield
    exact hnone field.1 row hrow (List.mem_map_of_mem hfield)
  · intro hempty column row hrow hcolumn
    rw [hempty row hrow] at hcolumn
    cases hcolumn

theorem insertable_eq_false_iff (q : Query) :
    q.insertable = false ↔ (∀ name, q.source ≠ some (.table name)) ∨
      ∀ rows bound, q.payload = some (.insert rows bound) → ∀ row ∈ rows, row = [] := by
  unfold insertable
  rw [← hasTarget_eq_false_iff]
  rcases q.payload with _ | ⟨rows, bound⟩ | _
  case none | some.update => simp
  case some.insert =>
    have hstaged : (∀ rows' bound', some (Payload.insert rows bound) =
        some (.insert rows' bound') → ∀ row ∈ rows', row = []) ↔ ∀ row ∈ rows, row = [] := by
      constructor
      · exact fun h => h rows bound rfl
      · rintro h _ _ ⟨⟩
        exact h
    rw [hstaged, ← isEmpty_insertColumns_iff]
    show (q.hasTarget && !(insertColumns rows).isEmpty) = false ↔ _
    cases q.hasTarget <;> simp

theorem updatable_eq_false_iff (q : Query) :
    q.updatable = false ↔ q.Fails .delete ∨
      ∀ values bound, q.payload = some (.update values bound) → values = [] := by
  rw [fails_iff_not_writable, writable]
  unfold updatable
  rcases q.payload with _ | _ | ⟨values, bound⟩
  case none | some.insert => simp
  case some.update =>
    have hstaged : (∀ values' bound', some (Payload.update values bound) =
        some (.update values' bound') → values' = []) ↔ values.isEmpty = true := by
      rw [List.isEmpty_iff]
      constructor
      · exact fun h => h values bound rfl
      · rintro h _ _ ⟨⟩
        exact h
    rw [hstaged]
    show (q.hasTarget && !values.isEmpty && Token.allComplete q.predicate) = false ↔ _
    cases q.hasTarget <;> cases values.isEmpty <;> simp

theorem select_fails_iff (q : Query) :
    q.Fails .select ↔ ∃ place r, q.Holds .select place r ∧ r.source = none := by
  rw [fails_iff_not_writable, ← exists_incomplete_iff]
  simp [selects, writable]

theorem count_fails_iff (q : Query) :
    q.Fails .count ↔ ∃ place r, q.Holds .count place r ∧ r.source = none := by
  rw [fails_iff_not_writable, ← exists_incomplete_iff]
  simp [selects, writable]

theorem delete_fails_iff (q : Query) :
    q.Fails .delete ↔ (∀ name, q.source ≠ some (.table name)) ∨
      ∃ r ∈ Predicate.nested q.predicate, r.Fails .select := by
  rw [fails_iff_not_writable, writable, Bool.and_eq_false_iff, hasTarget_eq_false_iff,
    allComplete_predicate_iff]

/-- A SELECT and its count fail exactly where a SELECT in them, at any depth, lacks a source. A
write fails without a table, and where a SELECT in its predicate fails; an UPDATE also when it sets
nothing, and an INSERT when its rows have no column. Every failure is a wrong use of the query, and
what a statement does not write has no part in it. -/
theorem fails_iff_incomplete (q : Query) :
    (q.Fails .select ↔ ∃ place r, q.Holds .select place r ∧ r.source = none) ∧
    (q.Fails .count ↔ ∃ place r, q.Holds .count place r ∧ r.source = none) ∧
    (q.Fails .delete ↔ (∀ name, q.source ≠ some (.table name)) ∨
      ∃ r ∈ Predicate.nested q.predicate, r.Fails .select) ∧
    (q.Fails .update ↔ q.Fails .delete ∨
      ∀ values bound, q.payload = some (.update values bound) → values = []) ∧
    (q.Fails .insert ↔ (∀ name, q.source ≠ some (.table name)) ∨
      ∀ rows bound, q.payload = some (.insert rows bound) → ∀ row ∈ rows, row = []) ∧
    (∀ form, (∃ s, q.statement form = .ok s) ∨
      ∃ message, (q.statement form).mapError Incomplete.failure = .error (.usage message)) ∧
    ∀ joins weights predicate,
      let unjoined : Query := { q with joins := joins, weights := weights }
      unjoined.statement .update = q.statement .update ∧
      unjoined.statement .delete = q.statement .delete ∧
      ({ unjoined with predicate := predicate } : Query).statement .insert =
        q.statement .insert := by
  refine ⟨q.select_fails_iff, q.count_fails_iff, q.delete_fails_iff, ?_, ?_, ?_, ?_⟩
  · rw [fails_iff_not_writable, writable, updatable_eq_false_iff]
  · rw [fails_iff_not_writable, writable, insertable_eq_false_iff]
  · intro form
    cases h : q.statement form with
    | error e => exact .inr ⟨e.message, rfl⟩
    | ok s => exact .inl ⟨s, rfl⟩
  · intro joins weights predicate
    exact ⟨rfl, rfl, rfl⟩

/-- A user to rename, joined with a query without a source. -/
def strayJoin : Query :=
  (((empty .mysql none).table "users").join .inner (.derived (empty .mysql none) "stray") []).update
    [("name", .text "Ann")] true

example : (strayJoin.statement .select).isOk = false ∧ (strayJoin.statement .update).isOk = true :=
  by decide +kernel

end Query
end SqlRecords
