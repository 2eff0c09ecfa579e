import SqlRecords.Proofs.Model.Levels
import SqlRecords.Proofs.Model.SaveInPlace
import SqlRecords.Proofs.Query.Completeness
import SqlRecords.Proofs.Session.Executions
import SqlRecords.Proofs.Text.Reading

/-! One relation of one model, read for itself or along a path. The two ways ask the same and attach
the same. -/
namespace SqlRecords

namespace Query

theorem nested_joinOn (q : Query) (kind : JoinKind) (table left right : String) :
    (q.joinOn kind (.table table) left right).nested = q.nested := by
  have hjoin : Join.nested ⟨kind, .table table, [Predicate.columns left .equal right]⟩ = [] := rfl
  simp only [nested, joinOn, join, List.flatMap_append, List.flatMap_singleton, hjoin,
    List.append_nil]

theorem nested_such (q : Query) (t : Token) : (q.such t).nested = q.nested ++ t.nested := by
  simp only [nested, such, Predicate.nested, List.flatMap_append, List.flatMap_singleton,
    List.append_assoc]

end Query

namespace Relation

/-- Restricted to parents, a query has the source that it had, the data source and the queries
inside it. -/
theorem scope_keeps (r : Relation) (q : Query) (parentKeys : List Json) :
    (r.scope q parentKeys).source = q.source ∧
      (r.scope q parentKeys).dataSource = q.dataSource ∧
      (r.scope q parentKeys).nested = q.nested := by
  let parts (q : Query) := (q.source, q.dataSource, q.nested)
  have hqualified : parts (q.qualifyColumns r.related.table) = parts q := by
    unfold Query.qualifyColumns
    split <;> rfl
  have hjoined : parts (r.joinParents (q.qualifyColumns r.related.table)) = parts q := by
    refine (joinParents_keeps (f := parts) (fun _ _ => rfl) ?_ r _).trans hqualified
    intro q kind table left right
    exact congrArg (q.source, q.dataSource, ·) (q.nested_joinOn kind table left right)
  have hnested := (r.joinParents (q.qualifyColumns r.related.table)).nested_such
    (r.scopeClause parentKeys)
  have hclause : (r.scopeClause parentKeys).nested = [] := rfl
  rw [hclause, List.append_nil] at hnested
  have hscope : parts (r.scope q parentKeys) = parts q :=
    (congrArg (_, _, ·) hnested).trans hjoined
  obtain ⟨hsource, hrest⟩ := Prod.mk.inj hscope
  exact ⟨hsource, Prod.mk.inj hrest⟩

/-- The query on the related rows of parents, in the dialect of the data source of these rows. -/
def keyedQuery (r : Relation) (c : Config) (parentKeys : List Json) : Query :=
  r.scope ((Query.empty c.engine.dialect (some r.related.dataSource)).table r.related.table)
    parentKeys

/-- Without a customizer the query on related rows can be written. It binds the keys of the parents
and nothing else. -/
theorem keyedQuery_written (r : Relation) (c : Config) {parentKeys : List Json}
    (h : ∀ key ∈ parentKeys, key.isNull = false) :
    ∃ s, (r.keyedQuery c parentKeys).selectStatement = .ok s ∧
      s.params = parentKeys.map .ofJson := by
  obtain ⟨hsource, -, hnested⟩ := r.scope_keeps
    ((Query.empty c.engine.dialect (some r.related.dataSource)).table r.related.table) parentKeys
  have hcomplete : (r.keyedQuery c parentKeys).isComplete = true := by
    rw [keyedQuery, Query.isComplete_eq, hsource, hnested]
    rfl
  have hwritable : (r.keyedQuery c parentKeys).writable .select = true := hcomplete
  obtain ⟨draft, hdraft⟩ := Query.draft_of_writable hwritable
  have hs := Query.statement_of_draft hdraft
  refine ⟨_, hs, ?_⟩
  have hbound : ∀ v ∈ parentKeys.map Value.ofJson, v.isNull = false := by
    rw [List.forall_mem_map]
    intro key hkey
    rw [Value.isNull_ofJson, h key hkey]
  rw [Query.params_of_selectStatement hs, keyedQuery, boundValues_scope]
  show List.filter _ (parentKeys.map Value.ofJson) = _
  rw [List.filter_eq_self]
  intro v hv
  rw [hbound v hv]
  rfl

variable {π : Type} [Pool π]

theorem run_resultsFor (r : Relation) {parentKeys : List Json} (hkeys : parentKeys ≠ [])
    (db : Database π) :
    (r.resultsFor parentKeys none).run.run db =
      match db.config? r.related.dataSource with
      | none => (.error (PoolError.unknownSource r.related.dataSource).failure, db)
      | some c => ((r.keyedQuery c parentKeys).fetch >>= fun rows => Session.ofExcept
          (r.group (r.keyedQuery c parentKeys).additional rows)).run.run db := by
  unfold resultsFor queryFor relatedQuery
  simp only [List.isEmpty_eq_false_iff.mpr hkeys, Bool.false_eq_true, if_false]
  rw [Session.run_bind, Session.run_bind, Session.run_bind, Session.run_query]
  cases db.config? r.related.dataSource <;> rfl

/-- What is read for parents is asked by the one statement that binds their keys. -/
theorem sendsFrom_resultsFor {r : Relation} {parentKeys : List Json} (hkeys : parentKeys ≠ [])
    {db : Database π} {c : Config} (hc : db.config? r.related.dataSource = some c) {s : Statement}
    (hs : (r.keyedQuery c parentKeys).selectStatement = .ok s) :
    Session.SendsFrom db (db.sendings r.related.dataSource s) (r.resultsFor parentKeys none)
      (r.resultsFor parentKeys none) := by
  have hsource : (r.keyedQuery c parentKeys).dataSource = some r.related.dataSource :=
    (r.scope_keeps _ parentKeys).2.1
  have hrecording : db.recording.config? r.related.dataSource = some c := hc
  obtain ⟨outcome, kept, hkept, -, hsent⟩ :=
    Execution.sendsFrom_run (e := .fetch) hsource hs db
  have hfetch : (r.keyedQuery c parentKeys).fetch.run.run db.recording = (outcome, kept) := hkept
  apply Session.SendsFrom.of_mirrors (r.mirrors_resultsFor parentKeys none)
  rw [run_resultsFor r hkeys, hrecording]
  simp only []
  rw [Session.run_bind, hfetch]
  cases outcome <;> exact hsent

/-- The related models of a parent with a key are those that name the key. -/
theorem run_results {r : Relation} (h : r.parentKey.isNull = false) (db : Database π) :
    r.results.run.run db = match (r.resultsFor [r.parentKey] none).run.run db with
      | (outcome, db') =>
        (outcome.map fun groups => (groups.get? (keyText r.parentKey)).getD [], db') := by
  unfold results
  rw [h]
  simp only [Bool.false_eq_true, if_false]
  rw [Session.run_bind]
  cases (r.resultsFor [r.parentKey] none).run.run db with
  | mk outcome db' => cases outcome <;> rfl

end Relation

namespace Model
variable {π : Type} [Pool π]

theorem run_loadPaths (m : Model) (schemas : Schemas) (paths : List RelationPath)
    (db : Database π) :
    (m.loadPaths schemas paths).run.run db =
      match (ModelSet.loadPaths schemas paths (.ofList [m])).run db with
      | ((outcome, s), db') => (outcome.map fun _ => s.models.head?.getD m, db') := by
  show ((ModelSet.loadPaths schemas paths (.ofList [m])).run db |> fun ((outcome, s), db') =>
    (do Session.ofExcept outcome; return s.models.head?.getD m : Session π Model).run.run db') = _
  obtain ⟨⟨outcome, s⟩, db'⟩ := (ModelSet.loadPaths schemas paths (.ofList [m])).run db
  cases outcome <;> rfl

theorem run_loadRelation (m : Model) (schemas : Schemas) (name : String) (db : Database π) :
    (m.loadRelation schemas name).run.run db =
      match m.relation schemas name with
      | .error f => (.error f, db)
      | .ok r => match r.results.run.run db with
        | (outcome, db') => (outcome.map fun models => m.attach name (r.loaded models), db') := by
  unfold loadRelation
  rw [Session.run_bind]
  cases m.relation schemas name with
  | error f => rfl
  | ok r =>
    show (r.results >>= fun models => pure (m.attach name (r.loaded models)) :
      Session π Model).run.run db = _
    rw [Session.run_bind]
    cases hresults : r.results.run.run db with
    | mk outcome db' => cases outcome <;> simp only [hresults] <;> rfl

/-- Along a path of one segment. -/
theorem loadPaths_single {m : Model} {name : String} (hkey : m.key.isNull = false)
    (hloaded : m.isLoaded name = false) (hname : '.' ∉ name.toList) (schemas : Schemas) :
    (m.loadPaths schemas [⟨name, none⟩] : Session π Model) = m.loadRelation schemas name := by
  have hsegments : (⟨name, none⟩ : RelationPath).segments = [name] := by
    have hsplit : Text.splitWhere (· == '.') name.toList = [name.toList] := by
      apply Text.splitWhere_of_none
      intro c hc
      exact beq_false_of_ne fun heq => hname (heq ▸ hc)
    rw [RelationPath.segments, Text.splitAt, hsplit, List.map_singleton, String.ofList_toList]
  have hpending : (ModelSet.ofList [m]).pendingKeys name = [m.key] := by
    have hwaits : [m].filter (waits name) = [m] := by simp [waits, hkey, hloaded]
    rw [ModelSet.pendingKeys_eq, ModelSet.models_ofList, hwaits]
    rfl
  apply ExceptT.ext
  apply StateT.ext
  intro db
  show (m.loadPaths schemas [⟨name, none⟩]).run.run db = (m.loadRelation schemas name).run.run db
  rw [run_loadPaths, run_loadRelation, ModelSet.loadPaths_cons, hsegments,
    ModelSet.loadSegments_cons, hpending, show (ModelSet.ofList [m]).models.head? = some m from rfl]
  cases hr : m.relation schemas name with
  | error f => simp only [hr]; rfl
  | ok r =>
    obtain ⟨-, hbound⟩ := bound_of_relation hr
    have hattached (groups : Fields ModelSet) : (ModelSet.ofList [m]).attachGroups name r groups =
        [(keyText m.key, m.attach name (r.loaded ((groups.get? (keyText m.key)).getD [])))] := by
      simp [ModelSet.attachGroups, ModelSet.mapModels, ModelSet.ofList, hloaded]
    simp only [hr, List.isEmpty_nil, if_true, Relation.run_results (hbound ▸ hkey), hbound]
    cases (r.resultsFor [m.key] none).run.run db with
    | mk outcome db' =>
      cases outcome with
      | error f => rfl
      | ok groups =>
        simp only [List.isEmpty_cons, Bool.false_eq_true, if_false, hattached]
        rfl

section
open Edit

variable (m : Model) (schemas : Schemas)

omit [Pool π] in
theorem exec_attachInPlace (name : String) (l : Loaded) (db : Database π) :
    exec (attachInPlace name l) m db = ((.ok l, m.attach name l), db) := by
  unfold attachInPlace
  rw [exec_modify_bind, exec_get_bind, m.loaded?_attach name name l, if_pos rfl]
  rfl

/-- In place a relation is attached as to a copy; if that fails the model is as before. -/
theorem exec_loadRelationInPlace (name : String) (db : Database π) :
    exec (loadRelationInPlace schemas name) m db =
      match m.relation schemas name with
      | .error f => ((.error f, m), db)
      | .ok r => match r.results.run.run db with
        | (.error f, db') => ((.error f, m), db')
        | (.ok models, db') =>
          ((.ok (r.loaded models), m.attach name (r.loaded models)), db') := by
  unfold loadRelationInPlace
  rw [exec_get_bind, exec_bind, exec_onDatabase]
  cases m.relation schemas name with
  | error f => rfl
  | ok r =>
    show exec (onDatabase r.results >>= fun models => attachInPlace name (r.loaded models)) m db = _
    rw [exec_bind, exec_onDatabase]
    cases hresults : r.results.run.run db with
    | mk outcome db' =>
      cases outcome with
      | error f => simp only [hresults]
      | ok models =>
        simp only [hresults]
        exact exec_attachInPlace m name (r.loaded models) db'

/-- In place paths are loaded as on a copy; if one fails the model is as before. -/
theorem exec_loadPathsInPlace (paths : List RelationPath) (db : Database π) :
    exec (loadPathsInPlace schemas paths) m db =
      match (m.loadPaths schemas paths).run.run db with
      | (.ok m', db') => ((.ok (), m'), db')
      | (.error f, db') => ((.error f, m), db') := by
  unfold loadPathsInPlace
  rw [exec_get_bind, exec_bind, exec_onDatabase, run_loadPaths]
  cases hrun : (ModelSet.loadPaths schemas paths (.ofList [m])).run db with
  | mk result db' =>
    obtain ⟨outcome, s⟩ := result
    have hlifted : (liftM (ModelSet.loadPaths (π := π) schemas paths (.ofList [m])) :
        Session π (Except Failure Unit × ModelSet)).run.run db = (.ok (outcome, s), db') := by
      show (fun (a, db') => (Except.ok a, db'))
        ((ModelSet.loadPaths schemas paths (.ofList [m])).run db) = _
      rw [hrun]
    rw [hlifted]
    cases outcome with
    | error f => rfl
    | ok u =>
      obtain ⟨-, hbare⟩ := ModelSet.loadPaths_loads hrun
      have hlength : s.length = 1 := by
        simpa [ModelSet.mapModels, ModelSet.ofList] using congrArg List.length hbare
      obtain ⟨entry, rfl⟩ := List.length_eq_one_iff.mp hlength
      rfl

end

/-- A relation that is loaded for a model asks for its key. -/
theorem sendsFrom_loadRelation {m : Model} (hkey : m.key.isNull = false) {schemas : Schemas}
    {name : String} {r : Relation} (hr : m.relation schemas name = .ok r) {db : Database π}
    {c : Config} (hc : db.config? r.related.dataSource = some c) {s : Statement}
    (hs : (r.keyedQuery c [m.key]).selectStatement = .ok s) :
    Session.SendsFrom db (db.sendings r.related.dataSource s) (m.loadRelation schemas name)
      (m.loadRelation schemas name) := by
  obtain ⟨-, hbound⟩ := bound_of_relation hr
  have hrun (ρ : Type) [Pool ρ] (db : Database ρ) := run_loadRelation m schemas name db
  simp only [hr, Relation.run_results (hbound ▸ hkey), hbound] at hrun
  obtain ⟨outcome, kept, hkept, hplain, hsent⟩ :=
    Relation.sendsFrom_resultsFor (List.cons_ne_nil m.key []) hc hs
  refine ⟨outcome.map fun groups =>
    m.attach name (r.loaded ((groups.get? (keyText m.key)).getD [])), kept, ?_, ?_, hsent⟩
  · rw [hrun, hkept]
    cases outcome <;> rfl
  · rw [hrun, hplain]
    cases outcome <;> rfl

/-- Without the relation, or without the data source of the related rows, nothing is asked. -/
theorem loadRelation_unasked {m : Model} (hkey : m.key.isNull = false) {schemas : Schemas}
    {name : String} {db : Database π} (h : ∀ r, m.relation schemas name = .ok r →
      db.config? r.related.dataSource = none) :
    ∃ f, (m.loadRelation schemas name).run.run db = (.error f, db) := by
  rw [run_loadRelation]
  cases hr : m.relation schemas name with
  | error f => exact ⟨f, rfl⟩
  | ok r =>
    obtain ⟨-, hbound⟩ := bound_of_relation hr
    have hread := Relation.run_resultsFor r (List.cons_ne_nil m.key []) db
    rw [h r hr] at hread
    simp only [Relation.run_results (hbound ▸ hkey), hbound, hread]
    exact ⟨_, rfl⟩

/-- One relation of a model that has a key and not the relation, read for the model or along the
path of that one name. Both are the same computation on a database: one statement is asked, for the
key of the model, and nothing without a relation or a data source. In place both leave the same
model: the model with what was read, or the model as it was where anything failed. -/
theorem lazy_load_is_eager_load {m : Model} {name : String} (hkey : m.key.isNull = false)
    (hloaded : m.isLoaded name = false) (hname : '.' ∉ name.toList) (schemas : Schemas)
    (db : Database π) :
    (m.loadPaths schemas [⟨name, none⟩] : Session π Model) = m.loadRelation schemas name ∧
    (∃ outcome m' db',
      Edit.exec (loadRelationInPlace schemas name) m db = ((outcome, m'), db') ∧
      Edit.exec (loadPathsInPlace schemas [⟨name, none⟩]) m db =
        ((outcome.map fun _ => (), m'), db') ∧
      (m.loadRelation schemas name).run.run db = (outcome.map fun _ => m', db') ∧
      (∀ f, outcome = .error f → m' = m) ∧
      ∀ l, outcome = .ok l → m' = m.attach name l) ∧
    ((∀ r, m.relation schemas name = .ok r → db.config? r.related.dataSource = none) →
      ∃ f, (m.loadRelation schemas name).run.run db = (.error f, db)) ∧
    ∀ r c, m.relation schemas name = .ok r → db.config? r.related.dataSource = some c →
      ∃ s, (r.keyedQuery c [m.key]).selectStatement = .ok s ∧ s.params = [.ofJson m.key] ∧
        (∀ i mid, (Session.pool r.related.dataSource).Yields db i mid → i < mid.opened.length →
          db.sendings r.related.dataSource s = [⟨i, s⟩]) ∧
        Session.SendsFrom db (db.sendings r.related.dataSource s) (m.loadRelation schemas name)
          (m.loadRelation schemas name) ∧
        Session.SendsFrom db (db.sendings r.related.dataSource s)
          (m.loadPaths schemas [⟨name, none⟩]) (m.loadPaths schemas [⟨name, none⟩]) := by
  have hsame (ρ : Type) [Pool ρ] :
      (m.loadPaths schemas [⟨name, none⟩] : Session ρ Model) = m.loadRelation schemas name :=
    loadPaths_single hkey hloaded hname schemas
  refine ⟨hsame π, ?_, loadRelation_unasked hkey, ?_⟩
  · have hlazy := exec_loadRelationInPlace m schemas name db
    have heager := exec_loadPathsInPlace m schemas [⟨name, none⟩] db
    have hrun := run_loadRelation m schemas name db
    rw [hsame π, hrun] at heager
    cases hr : m.relation schemas name with
    | error f =>
      rw [hr] at hlazy heager hrun
      exact ⟨.error f, m, db, hlazy, heager, hrun, fun _ _ => rfl, nofun⟩
    | ok r =>
      simp only [hr] at hlazy heager hrun
      cases hread : r.results.run.run db with
      | mk outcome db' =>
        rw [hread] at hlazy heager hrun
        cases outcome with
        | error f => exact ⟨.error f, m, db', hlazy, heager, hrun, fun _ _ => rfl, nofun⟩
        | ok models =>
          refine ⟨.ok (r.loaded models), _, db', hlazy, heager, hrun, nofun, ?_⟩
          intro l hl
          rw [Except.ok.inj hl]
  · intro r c hr hc
    have hkeys : ∀ key ∈ [m.key], key.isNull = false := by simpa using hkey
    obtain ⟨s, hs, hparams⟩ := r.keyedQuery_written c hkeys
    have hsends := sendsFrom_loadRelation hkey hr hc hs
    refine ⟨s, hs, hparams, ?_, hsends, ?_⟩
    · intro i mid hpool hi
      exact Database.sendings_of_available hpool hi s
    · rw [hsame π, hsame (Recorded π)]
      exact hsends

section
open ModelSet (townSchemas townDatabase)

def townUser : Model :=
  { Model.blank ((townSchemas.get? "users").getD default) with
    stored := [("id", .int 1), ("city_id", .int 7)]
    isNew := false }

def cityOfTownUser : Relation where
  parent := (townSchemas.get? "users").getD default
  related := (townSchemas.get? "cities").getD default
  kind := .belongsTo "city_id"
  parentKey := .int 1

/-- Two rows are answered, and the user gets the city of the one that names the key of the user. -/
theorem townUser_gets_city : townUser.key.isNull = false ∧ townUser.isLoaded "city" = false ∧
    '.' ∉ "city".toList ∧ ∃ l db' s,
      Edit.exec (loadRelationInPlace townSchemas "city") townUser townDatabase =
        ((.ok l, townUser.attach "city" l), db') ∧
      Edit.exec (loadPathsInPlace townSchemas [⟨"city", none⟩]) townUser townDatabase =
        ((.ok (), townUser.attach "city" l), db') ∧
      l.models.map (keyText ·.key) = ["7"] ∧
      s.sql = "SELECT cities.*, __parent.id AS __table_users__key FROM cities INNER JOIN users AS "
        ++ "__parent ON __parent.city_id = cities.id WHERE __parent.id IN ($1)" ∧
      s.params = [.ofJson (.int 1)] ∧
      Session.SendsFrom townDatabase [⟨0, s⟩] (townUser.loadRelation townSchemas "city")
        (townUser.loadRelation townSchemas "city") ∧
      Session.SendsFrom townDatabase [⟨0, s⟩] (townUser.loadPaths townSchemas [⟨"city", none⟩])
        (townUser.loadPaths townSchemas [⟨"city", none⟩]) := by
  have hkey : townUser.key.isNull = false := rfl
  have hloaded : townUser.isLoaded "city" = false := rfl
  have hname : '.' ∉ "city".toList := by decide
  have hread : (Edit.exec (loadRelationInPlace townSchemas "city") townUser
      townDatabase).1.1.toOption.map (fun l => l.models.map (keyText ·.key)) = some ["7"] := by
    decide +kernel
  have htext : (cityOfTownUser.keyedQuery (.ofParts "main" .postgres "localhost" "town")
      [.int 1]).selectStatement.toOption.map (·.sql) =
        some ("SELECT cities.*, __parent.id AS __table_users__key FROM cities INNER JOIN users AS "
          ++ "__parent ON __parent.city_id = cities.id WHERE __parent.id IN ($1)") := by
    decide +kernel
  obtain ⟨-, ⟨outcome, m', db', hlazy, heager, -, -, hok⟩, -, hsends⟩ :=
    lazy_load_is_eager_load hkey hloaded hname townSchemas townDatabase
  obtain ⟨s, hs, hparams, hone, hsent, hsent'⟩ := hsends cityOfTownUser _ rfl rfl
  rw [hone 0 townDatabase rfl Nat.zero_lt_one] at hsent hsent'
  rw [hlazy] at hread
  cases outcome with
  | error f => cases hread
  | ok l =>
    cases hok l rfl
    have hsql : (cityOfTownUser.keyedQuery (.ofParts "main" .postgres "localhost" "town")
      [.int 1]).selectStatement = .ok s := hs
    rw [hsql] at htext
    exact ⟨hkey, hloaded, hname, l, db', s, hlazy, heager, Option.some.inj hread,
      Option.some.inj htext, hparams, hsent, hsent'⟩

end

end Model
end SqlRecords
