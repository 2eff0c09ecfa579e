import SqlRecords.Model.Link
import SqlRecords.Proofs.Model.Saving
import SqlRecords.Proofs.Query.Parameters
import SqlRecords.Proofs.Session.Executions

/-! Changes to the rows of a link table: which row an INSERT adds, and when a change is refused. -/
namespace SqlRecords

/-- Nothing written at the end changes nothing. -/
theorem Statement.ofDraft_empty_end (d : Dialect) (kind : StatementKind) (sql : Sql)
    (returning : Option String) :
    ofDraft d ⟨kind, sql ++ Sql.ofText "", returning⟩ = ofDraft d ⟨kind, sql, returning⟩ := by
  have hparams : (sql ++ Sql.ofText "").params = sql.params := by simp [Sql.params]
  have hrender : (sql ++ Sql.ofText "").render d = sql.render d := by
    unfold Sql.render
    rw [Sql.renderAfter_append, Sql.renderAfter_ofText, String.append_empty]
  unfold ofDraft ofSql
  rw [hparams, hrender]

namespace Relation

/-- The row that links two keys, with other values beside them. -/
def linkRow (keys : LinkKeys) (parentKey relatedKey : Json) (extra : Record) : Record :=
  Fields.ofList ([(keys.left, parentKey), (keys.right, relatedKey)] ++ extra)

/-- The INSERT of one row, with all values bound. -/
def linkInsert (d : Dialect) (table : String) (row : Record) : Statement :=
  .ofDraft d {
    kind := .insert
    sql := Sql.ofText ("INSERT INTO " ++ d.escapeIdentifier table ++ " ("
        ++ commaList (row.keys.map d.escapeIdentifier) ++ ") VALUES ")
      ++ Sql.bracketed (Sql.join ", " (row.map fun (_, v) => Sql.bind (.ofJson v)))
    returning := none }

/-- A query on a link table, where the data source of the parent is configured. -/
def linksOf (r : Relation) (keys : LinkKeys) (c : Config) : Query :=
  (Query.empty c.engine.dialect (some r.parent.dataSource)).table keys.table

theorem nodup_linkRow (keys : LinkKeys) (parentKey relatedKey : Json) (extra : Record) :
    (linkRow keys parentKey relatedKey extra).keys.Nodup := by
  apply Fields.nodup_keys_insertAll
  exact List.nodup_nil

theorem linkRow_ne_nil (keys : LinkKeys) (parentKey relatedKey : Json) (extra : Record) :
    linkRow keys parentKey relatedKey extra ≠ [] := by
  intro hnil
  have hkeys : (linkRow keys parentKey relatedKey extra).keys = [] := by rw [hnil]; rfl
  rw [linkRow, Fields.keys_ofList] at hkeys
  have hmem : keys.left ∈ (Fields.keys ([(keys.left, parentKey), (keys.right, relatedKey)] ++
      extra)).eraseDups := List.mem_eraseDups.mpr List.mem_cons_self
  rw [hkeys] at hmem
  cases hmem

/-- A value beside the keys takes the place of a key of its name. -/
theorem get?_linkRow (keys : LinkKeys) (parentKey relatedKey : Json) (extra : Record)
    (column : String) : (linkRow keys parentKey relatedKey extra).get? column =
      ((Fields.ofList extra).get? column).or (if column = keys.right then some relatedKey
        else if column = keys.left then some parentKey else none) := by
  have hsplit : linkRow keys parentKey relatedKey extra =
      (Fields.ofList [(keys.left, parentKey), (keys.right, relatedKey)]).insertAll extra := by
    unfold linkRow Fields.ofList Fields.insertAll
    rw [List.foldl_append]
  have hextra : (Fields.ofList extra).get? column = Fields.get? extra.reverse column := by
    rw [Fields.ofList, Fields.get?_insertAll_reverse]
    exact Option.or_none
  rw [hsplit, Fields.get?_insertAll_reverse, hextra]
  congr 1
  simp only [Fields.ofList, Fields.insertAll, List.foldl_cons, List.foldl_nil, Fields.get?_insert]
  rfl

/-- A row with columns is written as its INSERT. -/
theorem saveStatement_linkRow (r : Relation) (keys : LinkKeys) (c : Config) {row : Record}
    (hnodup : row.keys.Nodup) (hrow : row ≠ []) :
    ((r.linksOf keys c).insert [row] true).saveStatement =
      .ok (linkInsert c.engine.dialect keys.table row) := by
  have hdialect : ((r.linksOf keys c).insert [row] true).dialect = c.engine.dialect := rfl
  have hreturning : ((r.linksOf keys c).insert [row] true).returning = none := rfl
  have htext (head : String) : head ++ ")" ++ "" ++ " VALUES " = head ++ ") VALUES " := by
    rw [String.append_empty, String.append_assoc]
    rfl
  have hvalues : Query.recordValues row = row.map fun p => (p.1, .ofJson p.2) := rfl
  have hdraft := Query.saveDraft_insertRow (q := (r.linksOf keys c).insert [row] true) rfl rfl
    hnodup hrow
  rw [Query.saveStatement, Query.finish, hdraft, hdialect, hvalues, List.map_map]
  refine congrArg Except.ok ?_
  simp only [Query.outputClause, Query.returningClause, hdialect, hreturning]
  cases c.engine.dialect with
  | mysql | postgres | mssql =>
    simp only [htext, Statement.ofDraft_empty_end]
    rfl

/-- The query on the rows that link the parent with a related row. -/
def linkedRows (r : Relation) (keys : LinkKeys) (c : Config) (relatedKey : Json) : Query :=
  ((r.linksOf keys c).such (Predicate.equals keys.left (.ofJson r.parentKey))).such
    (Predicate.equals keys.right (.ofJson relatedKey))

/-- The configuration of the data source of the parent. -/
def configIn {π : Type} (r : Relation) (db : Database π) : Except Failure Config :=
  match db.config? r.parent.dataSource with
  | some c => .ok c
  | none => .error (PoolError.unknownSource r.parent.dataSource).failure

/-- Only a relation through a link table has link rows; to ask another for them is a misuse. -/
theorem linkKeys_eq (r : Relation) :
    (∃ table left right columns, r.kind = .belongsToMany table left right columns ∧
      r.linkKeys = .ok ⟨table, left, right⟩) ∨
    ∃ message, r.linkKeys = .error (.usage message) := by
  unfold linkKeys
  cases r.kind with
  | belongsTo | hasOne | hasMany => exact .inr ⟨_, rfl⟩
  | belongsToMany table left right columns => exact .inl ⟨_, _, _, _, rfl, rfl⟩

/-- The key of a parent is its own. -/
theorem eq_of_boundKey {r : Relation} {key : Json} (h : r.boundKey = .ok key) :
    key = r.parentKey ∧ r.parentKey.isNull = false := by
  unfold boundKey at h
  cases hnull : r.parentKey.isNull with
  | true =>
    rw [hnull] at h
    cases h
  | false =>
    rw [hnull] at h
    exact ⟨(Except.ok.inj h).symm, rfl⟩

section
variable {π : Type}

theorem run_linkQuery (r : Relation) (keys : LinkKeys) (db : Database π) :
    (r.linkQuery keys).run.run db = match db.config? r.parent.dataSource with
      | some c => (.ok (r.linksOf keys c), db)
      | none => (.error (PoolError.unknownSource r.parent.dataSource).failure, db) := by
  rw [linkQuery, Session.run_bind, Session.run_query]
  cases db.config? r.parent.dataSource <;> rfl

theorem run_linkRows (r : Relation) (relatedKey : Json) (keys : LinkKeys)
    (db : Database π) : (r.linkRows relatedKey keys).run.run db = ((do
      let c ← r.configIn db
      let _ ← r.boundKey
      return r.linkedRows keys c relatedKey : Except Failure Query), db) := by
  have hquery := run_linkQuery r keys db
  unfold linkRows configIn
  rw [Session.run_bind]
  cases hc : db.config? r.parent.dataSource with
  | none =>
    rw [hc] at hquery
    rw [hquery]
    rfl
  | some c =>
    rw [hc] at hquery
    rw [hquery]
    cases hkey : r.boundKey with
    | error f => rfl
    | ok key =>
      obtain ⟨rfl, -⟩ := eq_of_boundKey hkey
      rfl

end

/-- What is done with the link rows of a parent. -/
inductive LinkChange where
  | link (extra : Record)
  | unlink
  | update (values : Record)

namespace LinkChange

def query (r : Relation) (keys : LinkKeys) (c : Config) (relatedKey : Json) : LinkChange → Query
  | link extra => (r.linksOf keys c).insert [linkRow keys r.parentKey relatedKey extra] true
  | unlink => r.linkedRows keys c relatedKey
  | update values => (r.linkedRows keys c relatedKey).update values true

/-- What the query of a change is written as. -/
def statement (q : Query) : LinkChange → Except Incomplete Statement
  | unlink => q.deleteStatement
  | link _ | update _ => q.saveStatement

/-- Where a change takes place, or why it is refused. An INSERT asks for the key of the parent before
its data source, and the others after it. -/
def place {π : Type} (r : Relation) (db : Database π) (change : LinkChange) :
    Except Failure (LinkKeys × Config) := do
  let keys ← r.linkKeys
  match change with
  | link _ =>
    let _ ← r.boundKey
    return (keys, ← r.configIn db)
  | unlink =>
    let c ← r.configIn db
    let _ ← r.boundKey
    return (keys, c)
  | update values =>
    if values.isEmpty then throw (.usage "no link columns to update")
    let c ← r.configIn db
    let _ ← r.boundKey
    return (keys, c)

variable {π : Type} [Pool π]

def run (r : Relation) (relatedKey : Json) : LinkChange → Session π WriteResult
  | link extra => r.link relatedKey extra
  | unlink => r.unlink relatedKey
  | update values => r.updateLink relatedKey values

/-- Executes the query of a change. -/
def execute (q : Query) : LinkChange → Session π WriteResult
  | unlink => q.delete
  | link _ | update _ => q.save

/-- A change that is refused leaves every database as it is, and else its query is executed. -/
theorem run_eq (change : LinkChange) (r : Relation) (relatedKey : Json) (db : Database π) :
    (change.run r relatedKey).run.run db = match change.place r db with
      | .error f => (.error f, db)
      | .ok (keys, c) => (change.execute (change.query r keys c relatedKey)).run.run db := by
  have hrows (keys : LinkKeys) := r.run_linkRows relatedKey keys db
  unfold place
  cases change with
  | link extra =>
    simp only [run, Relation.link]
    cases hkeys : r.linkKeys with
    | error f => rfl
    | ok keys =>
      have hquery := run_linkQuery r keys db
      cases hkey : r.boundKey with
      | error f => rfl
      | ok key =>
        obtain ⟨rfl, -⟩ := eq_of_boundKey hkey
        refine (Session.run_bind (r.linkQuery keys) _ db).trans ?_
        rw [hquery]
        unfold configIn
        cases db.config? r.parent.dataSource <;> rfl
  | unlink =>
    simp only [run, Relation.unlink]
    cases hkeys : r.linkKeys with
    | error f => rfl
    | ok keys =>
      refine (Session.run_bind (r.linkRows relatedKey keys) _ db).trans ?_
      rw [hrows]
      cases r.configIn db with
      | error f => rfl
      | ok c => cases r.boundKey <;> rfl
  | update values =>
    simp only [run, Relation.updateLink]
    cases hkeys : r.linkKeys with
    | error f => rfl
    | ok keys =>
      cases values with
      | nil => rfl
      | cons p rest =>
        refine (Session.run_bind (r.linkRows relatedKey keys) _ db).trans ?_
        rw [hrows]
        cases r.configIn db with
        | error f => rfl
        | ok c => cases r.boundKey <;> rfl

/-- Where a change takes place nothing refuses it. -/
theorem place_eq_ok {π : Type} {r : Relation} {db : Database π} {change : LinkChange}
    {keys : LinkKeys} {c : Config} (hkeys : r.linkKeys = .ok keys)
    (hc : db.config? r.parent.dataSource = some c) (hkey : r.parentKey.isNull = false)
    (hvalues : change ≠ .update []) : change.place r db = .ok (keys, c) := by
  have hbound : r.boundKey = .ok r.parentKey := by
    unfold boundKey
    rw [hkey]
    rfl
  have hconfig : r.configIn db = .ok c := by
    unfold configIn
    rw [hc]
  unfold place
  rw [hkeys]
  cases change with
  | link extra | unlink =>
    simp only [ok_bind, hbound, hconfig]
    rfl
  | update values =>
    cases values with
    | nil => exact absurd rfl hvalues
    | cons p rest =>
      simp only [ok_bind, hbound, hconfig]
      rfl

/-- Without the key of the parent every change is refused. -/
theorem place_keyless {π : Type} {r : Relation} (h : r.parentKey.isNull = true)
    (change : LinkChange) (db : Database π) : ∃ f, change.place r db = .error f ∧
      ((∃ message, f = .usage message) ∨ db.config? r.parent.dataSource = none ∧
        (∀ extra, change ≠ .link extra) ∧
        f = (PoolError.unknownSource r.parent.dataSource).failure) := by
  have hbound : ∃ message, r.boundKey = .error (.usage message) := by
    unfold boundKey
    rw [h]
    exact ⟨_, rfl⟩
  obtain ⟨message, hbound⟩ := hbound
  unfold place configIn
  obtain ⟨table, left, right, columns, -, hkeys⟩ | ⟨misuse, hkeys⟩ := r.linkKeys_eq
  · rw [hkeys]
    rw [hbound]
    cases change with
    | link extra => exact ⟨_, rfl, .inl ⟨message, rfl⟩⟩
    | unlink =>
      cases hc : db.config? r.parent.dataSource with
      | none => exact ⟨_, rfl, .inr ⟨rfl, nofun, rfl⟩⟩
      | some c => exact ⟨_, rfl, .inl ⟨message, rfl⟩⟩
    | update values =>
      cases values with
      | nil => exact ⟨_, rfl, .inl ⟨_, rfl⟩⟩
      | cons p rest =>
        cases hc : db.config? r.parent.dataSource with
        | none => exact ⟨_, rfl, .inr ⟨rfl, nofun, rfl⟩⟩
        | some c => exact ⟨_, rfl, .inl ⟨message, rfl⟩⟩
  · rw [hkeys]
    exact ⟨_, rfl, .inl ⟨misuse, rfl⟩⟩

/-- A change that takes place can be written. -/
theorem exists_statement {π : Type} {r : Relation} {db : Database π} {change : LinkChange}
    {keys : LinkKeys} {c : Config} (hplace : change.place r db = .ok (keys, c))
    (relatedKey : Json) :
    ∃ s, change.statement (change.query r keys c relatedKey) = .ok s := by
  cases change with
  | link extra =>
    exact ⟨_, saveStatement_linkRow r keys c (nodup_linkRow ..)
      (linkRow_ne_nil keys r.parentKey relatedKey extra)⟩
  | unlink =>
    have hwritable : (r.linkedRows keys c relatedKey).writable .delete = true := rfl
    obtain ⟨draft, hdraft⟩ := Query.draft_of_writable hwritable
    exact ⟨_, Query.statement_of_draft hdraft⟩
  | update values =>
    cases values with
    | nil =>
      unfold place at hplace
      obtain ⟨keys', -, hempty⟩ := bind_eq_ok.mp hplace
      cases hempty
    | cons p rest =>
      have hwritable : ((r.linkedRows keys c relatedKey).update (p :: rest) true).writable .save =
          true := rfl
      obtain ⟨draft, hdraft⟩ := Query.draft_of_writable hwritable
      exact ⟨_, Query.statement_of_draft hdraft⟩

/-- A change that takes place sends what its query is written as. -/
theorem sendsFrom_run {r : Relation} {db : Database π} {change : LinkChange} {keys : LinkKeys}
    {c : Config} (hplace : change.place r db = .ok (keys, c)) {relatedKey : Json} {s : Statement}
    (hs : change.statement (change.query r keys c relatedKey) = .ok s) :
    Session.SendsFrom db (db.sendings r.parent.dataSource s) (change.run r relatedKey)
      (change.run r relatedKey) := by
  have hexecute : Session.SendsFrom db (db.sendings r.parent.dataSource s)
      (change.execute (change.query r keys c relatedKey))
      (change.execute (change.query r keys c relatedKey)) := by
    cases change with
    | link extra => exact Execution.sendsFrom_run (e := .save) rfl hs db
    | unlink => exact Execution.sendsFrom_run (e := .delete) rfl hs db
    | update values => exact Execution.sendsFrom_run (e := .save) rfl hs db
  obtain ⟨outcome, kept, hkept, hplain, hsent⟩ := hexecute
  have hsame : change.place r db.recording = change.place r db := rfl
  refine ⟨outcome, kept, ?_, ?_, hsent⟩
  · rw [run_eq, hsame, hplace]
    exact hkept
  · rw [run_eq, hplace]
    exact hplain

end LinkChange

/-- A model with a key is linked by one INSERT. -/
theorem sendsFrom_link {π : Type} [Pool π] {m : Model} {schemas : Schemas} {name : String}
    {r : Relation} {keys : LinkKeys} {c : Config} (hr : m.relation schemas name = .ok r)
    (hkeys : r.linkKeys = .ok keys) (hkey : m.key.isNull = false) (db : Database π)
    (hc : db.config? m.schema.dataSource = some c) (relatedKey : Json) (extra : Record) :
    let s := linkInsert c.engine.dialect keys.table (linkRow keys m.key relatedKey extra)
    Session.SendsFrom db (db.sendings m.schema.dataSource s) (r.link relatedKey extra)
      (r.link relatedKey extra) := by
  intro s
  obtain ⟨hparent, hbound⟩ := Model.bound_of_relation hr
  have hplace : (LinkChange.link extra).place r db = .ok (keys, c) := by
    refine LinkChange.place_eq_ok hkeys ?_ ?_ nofun
    · rw [hparent]
      exact hc
    · rw [hbound]
      exact hkey
  have hs := saveStatement_linkRow r keys c (nodup_linkRow keys r.parentKey relatedKey extra)
    (linkRow_ne_nil keys r.parentKey relatedKey extra)
  have hsends := LinkChange.sendsFrom_run hplace hs
  rw [hparent, hbound] at hsends
  exact hsends

/-- What a link of a model with a key sends. The row of the INSERT pairs the two keys where no value
beside them has the name of a key column and is another. -/
theorem link_inserts_row {π : Type} [Pool π] {m : Model} {schemas : Schemas} {name : String}
    {r : Relation} {keys : LinkKeys} {c : Config} (hr : m.relation schemas name = .ok r)
    (hkeys : r.linkKeys = .ok keys) (hkey : m.key.isNull = false) (db : Database π)
    (hc : db.config? m.schema.dataSource = some c) (relatedKey : Json) (extra : Record) :
    let row := linkRow keys m.key relatedKey extra
    let s := linkInsert c.engine.dialect keys.table row
    Session.SendsFrom db (db.sendings m.schema.dataSource s) (r.link relatedKey extra)
      (r.link relatedKey extra) ∧
    (∀ i mid, (Session.pool m.schema.dataSource).Yields db i mid → i < mid.opened.length →
      db.sendings m.schema.dataSource s = [⟨i, s⟩]) ∧
    row.keys.Nodup ∧
    (∀ column, row.get? column = ((Fields.ofList extra).get? column).or
      (if column = keys.right then some relatedKey
        else if column = keys.left then some m.key else none)) ∧
    (keys.left ≠ keys.right →
      (row.get? keys.left = some m.key ∧ row.get? keys.right = some relatedKey ↔
        (∀ v, (Fields.ofList extra).get? keys.left = some v → v = m.key) ∧
        ∀ v, (Fields.ofList extra).get? keys.right = some v → v = relatedKey)) := by
  intro row s
  have hget := get?_linkRow keys m.key relatedKey extra
  refine ⟨sendsFrom_link hr hkeys hkey db hc relatedKey extra,
    fun i mid hpool hi => Database.sendings_of_available hpool hi s,
    nodup_linkRow .., hget, fun hne => ?_⟩
  have hor (value : Option Json) (key : Json) :
      value.or (some key) = some key ↔ ∀ v, value = some v → v = key := by
    cases value <;> simp
  rw [hget, hget, if_neg hne, if_pos rfl, if_pos rfl, hor, hor]

/-- Users whose roles are listed in a link table. -/
def memberSchema : Schema :=
  ((Schema.new "main" "users").declare ["id", "name"]).relate "roles"
    ⟨.belongsToMany "user_roles" "user_id" "role_id" [], "role"⟩

def memberSchemas : Schemas := [("role", (Schema.new "main" "roles").declare ["id"])]

/-- A stored user. -/
def member : Model := (Model.blank memberSchema).load [("id", .int 1)]

def memberRoles : Relation where
  parent := memberSchema
  related := (Schema.new "main" "roles").declare ["id"]
  kind := .belongsToMany "user_roles" "user_id" "role_id" []
  parentKey := .int 1

/-- With another column beside the keys the user is linked. -/
theorem member_is_linked : member.relation memberSchemas "roles" = .ok memberRoles ∧
    ∃ s, Session.SendsFrom Model.userDatabase [⟨0, s⟩]
        (memberRoles.link (.int 5) [("accepted", .bool true)])
        (memberRoles.link (.int 5) [("accepted", .bool true)]) ∧
      s.sql = "INSERT INTO user_roles (user_id, role_id, accepted) VALUES (?, ?, ?)" ∧
      (linkRow ⟨"user_roles", "user_id", "role_id"⟩ member.key (.int 5)
        [("accepted", .bool true)]).get? "user_id" = some member.key := by
  have hr : member.relation memberSchemas "roles" = .ok memberRoles := rfl
  have hkeys : memberRoles.linkKeys = .ok ⟨"user_roles", "user_id", "role_id"⟩ := rfl
  obtain ⟨hsends, honce, -, -, hpairs⟩ := link_inserts_row hr hkeys rfl Model.userDatabase rfl
    (.int 5) [("accepted", .bool true)]
  have hpool : (Session.pool "main").Yields Model.userDatabase 0 Model.userDatabase := rfl
  have hpaired := (hpairs (by decide)).mpr ⟨nofun, nofun⟩
  have hone := honce 0 Model.userDatabase hpool Nat.one_pos
  rw [hone] at hsends
  exact ⟨hr, _, hsends, by decide +kernel, hpaired.1⟩

/-- With another user beside the keys the INSERT does not even mention the one who was asked. -/
theorem link_may_leave_record_out : ¬ ∀ (m : Model) (schemas : Schemas) (name : String)
    (r : Relation) (keys : LinkKeys) (relatedKey : Json) (extra : Record)
    (db : Database ScriptedPool) (i : Nat) (s : Statement),
    m.relation schemas name = .ok r → r.linkKeys = .ok keys → m.key.isNull = false →
    Session.SendsFrom db [⟨i, s⟩] (r.link relatedKey extra) (r.link relatedKey extra) →
      .ofJson m.key ∈ s.params := by
  intro h
  have hr : member.relation memberSchemas "roles" = .ok memberRoles := rfl
  have hkeys : memberRoles.linkKeys = .ok ⟨"user_roles", "user_id", "role_id"⟩ := rfl
  have hsends := sendsFrom_link hr hkeys rfl Model.userDatabase rfl (.int 5)
    [("user_id", .int 9)]
  have hpool : (Session.pool member.schema.dataSource).Yields Model.userDatabase 0
      Model.userDatabase := rfl
  dsimp only at hsends
  rw [Database.sendings_of_available hpool Nat.one_pos] at hsends
  have hmem := h member memberSchemas "roles" memberRoles _ _ _ _ _ _ hr hkeys rfl hsends
  have hbound : Value.ofJson member.key = .int64 1 := rfl
  have hparams : (linkInsert .mysql "user_roles" (linkRow ⟨"user_roles", "user_id", "role_id"⟩
      member.key (.int 5) [("user_id", .int 9)])).params = [.int64 9, .int64 5] := rfl
  have hmentioned : Value.int64 1 ∈ [Value.int64 9, Value.int64 5] := hparams ▸ hbound ▸ hmem
  simp at hmentioned

namespace LinkChange

/-- Which changes of the link rows of a model are refused, however the model came about: all where
the relation does not go through a link table, and all where the model has no key. The key of a new
model is the one that was set, so a new model with a key of its own is taken for a stored one. -/
theorem refused_without_key {π : Type} [Pool π] {m : Model} (hm : m.Arises) {schemas : Schemas}
    {name : String} {r : Relation} (hr : m.relation schemas name = .ok r) (change : LinkChange)
    (relatedKey : Json) (db : Database π) :
    (m.isNew = true → m.key = (m.changed.get? m.schema.primaryKey).getD .null) ∧
    ((∀ table left right columns, r.kind ≠ .belongsToMany table left right columns) →
      ∃ message, (change.run r relatedKey).run.run db = (.error (.usage message), db)) ∧
    (m.key.isNull = true → ∃ f, (change.run r relatedKey).run.run db = (.error f, db) ∧
      ((∃ message, f = .usage message) ∨ db.config? m.schema.dataSource = none ∧
        (∀ extra, change ≠ .link extra) ∧
        f = (PoolError.unknownSource m.schema.dataSource).failure)) ∧
    ∀ keys c, r.linkKeys = .ok keys → m.key.isNull = false →
      db.config? m.schema.dataSource = some c → change ≠ .update [] →
      ∃ s, change.statement (change.query r keys c relatedKey) = .ok s ∧
        Session.SendsFrom db (db.sendings m.schema.dataSource s) (change.run r relatedKey)
          (change.run r relatedKey) := by
  obtain ⟨hparent, hbound⟩ := Model.bound_of_relation hr
  rw [← hparent, ← hbound]
  refine ⟨fun hnew => hparent ▸ hbound ▸ hm.key_of_new hnew, fun hkind => ?_, fun hnull => ?_,
    fun keys c hkeys hkey hc hvalues => ?_⟩
  · obtain ⟨table, left, right, columns, hlinks, -⟩ | ⟨message, hkeys⟩ := r.linkKeys_eq
    · exact absurd hlinks (hkind table left right columns)
    · have hplace : change.place r db = .error (.usage message) := by
        unfold place
        rw [hkeys]
        rfl
      rw [run_eq, hplace]
      exact ⟨message, rfl⟩
  · obtain ⟨f, hplace, hf⟩ := place_keyless hnull change db
    rw [run_eq, hplace]
    exact ⟨f, rfl, hf⟩
  · have hplace := place_eq_ok hkeys hc hkey hvalues
    obtain ⟨s, hs⟩ := exists_statement hplace relatedKey
    exact ⟨s, hs, sendsFrom_run hplace hs⟩

/-- A user that was never saved, with a key and without one. -/
def newMember : Model := .blank memberSchema

def keyedMember : Model := newMember.set "id" (.int 1)

theorem keyedMember_arises : keyedMember.Arises := .set _ _ (.blank _)

/-- Without a key the user has no roles to take away, and with one they are taken away. -/
theorem keyedMember_unlinks : newMember.Arises ∧ keyedMember.Arises ∧ keyedMember.isNew = true ∧
    keyedMember.relation memberSchemas "roles" = .ok memberRoles ∧
    (∃ message, (unlink.run { memberRoles with parentKey := .null } (.int 5)).run.run
      Model.userDatabase = (.error (.usage message), Model.userDatabase)) ∧
    ∃ s, s.sql = "DELETE FROM user_roles WHERE user_id = ? AND role_id = ?" ∧
      Session.SendsFrom Model.userDatabase (Model.userDatabase.sendings "main" s)
        (unlink.run memberRoles (.int 5)) (unlink.run memberRoles (.int 5)) := by
  have hnew : newMember.relation memberSchemas "roles" =
      .ok { memberRoles with parentKey := .null } := rfl
  have hkeyed : keyedMember.relation memberSchemas "roles" = .ok memberRoles := rfl
  obtain ⟨-, -, hrefused, -⟩ :=
    refused_without_key (.blank memberSchema) hnew .unlink (.int 5) Model.userDatabase
  obtain ⟨f, hrun, hf⟩ := hrefused rfl
  obtain ⟨-, -, -, hsends⟩ :=
    refused_without_key keyedMember_arises hkeyed .unlink (.int 5) Model.userDatabase
  obtain ⟨s, hs, hsent⟩ := hsends _ _ rfl rfl rfl nofun
  refine ⟨.blank _, keyedMember_arises, rfl, hkeyed, ?_, s, ?_, hsent⟩
  · obtain ⟨message, rfl⟩ | ⟨hnone, -⟩ := hf
    · exact ⟨message, hrun⟩
    · cases hnone
  · have htext : (statement (query memberRoles ⟨"user_roles", "user_id", "role_id"⟩
        (.ofParts "main" .mysql "localhost" "app") (.int 5) unlink) unlink).toOption.map (·.sql) =
        some "DELETE FROM user_roles WHERE user_id = ? AND role_id = ?" := by decide +kernel
    rw [hs] at htext
    exact Option.some.inj htext

/-- So a model that was never saved may have its link rows changed. -/
theorem new_record_may_unlink : ¬ ∀ (m : Model) (schemas : Schemas) (name : String) (r : Relation)
    (change : LinkChange) (relatedKey : Json) (db : Database ScriptedPool), m.Arises →
    m.relation schemas name = .ok r → m.isNew = true →
      ∃ message, (change.run r relatedKey).run.run db = (.error (.usage message), db) := by
  intro h
  obtain ⟨message, hrefused⟩ := h keyedMember memberSchemas "roles" memberRoles .unlink (.int 5)
    Model.userDatabase keyedMember_arises rfl rfl
  have hsucceeds : ((unlink.run memberRoles (.int 5)).run.run
      Model.userDatabase).1.toOption.isSome = true := by decide +kernel
  rw [hrefused] at hsucceeds
  cases hsucceeds

end LinkChange
end Relation
end SqlRecords
