import SqlRecords.Model.Relation
import SqlRecords.Pool.Scripted
import SqlRecords.Proofs.Query.Clauses
import SqlRecords.Proofs.Query.Precedence
import SqlRecords.Proofs.Query.Slots
import SqlRecords.Proofs.Session.Steps

/-! Queries on the related rows of many parents. Whatever a customizer asks for, the rows that are
read belong to these parents. -/
namespace SqlRecords

namespace Query

theorem foldl_addColumn {α : Type} {f : Query → α} (hf : ∀ q column, f (addColumn q column) = f q)
    (columns : List String) (name : String → String) (q : Query) :
    f (columns.foldl (fun q column => q.addColumn (name column)) q) = f q := by
  induction columns generalizing q with
  | nil => rfl
  | cons column rest ih => exact (ih _).trans (hf q (name column))

/-- A clause binds behind all that a query binds. -/
theorem boundValues_such (q : Query) (t : Token) :
    (q.such t).boundValues = q.boundValues ++ t.boundValues := by
  obtain ⟨own, dataSource, source, columns, additional, distinct, joins, predicate, weights,
    groupBy, orderBy, limit, offset, payload, returning⟩ := q
  have htokens (ts : List Token) :
      Token.allBoundValues (ts ++ [t]) = Token.allBoundValues ts ++ t.boundValues := by
    induction ts with
    | nil => simp [Token.allBoundValues]
    | cons u ts ih => simp [Token.allBoundValues, ih]
  simp only [such, boundValues, htokens, List.append_assoc]

/-- A table that is joined on columns binds nothing. -/
theorem boundValues_joinOn (q : Query) (kind : JoinKind) (table left right : String) :
    (q.joinOn kind (.table table) left right).boundValues = q.boundValues := by
  obtain ⟨own, dataSource, source, columns, additional, distinct, joins, predicate, weights,
    groupBy, orderBy, limit, offset, payload, returning⟩ := q
  have hjoins (js : List Join) :
      Join.allBoundValues (js ++ [⟨kind, .table table, [Predicate.columns left .equal right]⟩]) =
        Join.allBoundValues js := by
    induction js with
    | nil => rfl
    | cons j js ih => exact congrArg (j.boundValues ++ ·) ih
  simp only [joinOn, join, boundValues, hjoins]

/-- The WHERE clause of a SELECT is its predicate, if that has a clause. -/
theorem predicate_of_clauses {q : Query} {d : Dialect} {place : Place} {c : Clauses}
    (h : q.clauses d place = .ok c) (hclause : Predicate.hasClause q.predicate = true) :
    ∃ sql, Predicate.sql d q.predicate = .ok sql ∧ c.predicate = some sql := by
  obtain ⟨source, scores, sourceSql, joinSqls, lexemes, hsource, hw, hs, hj, hl, rfl⟩ :=
    clauses_eq_ok_iff.mp h
  refine ⟨Lexeme.sql lexemes, ?_, if_pos hclause⟩
  rw [Predicate.sql, hl]
  rfl

end Query

namespace Relation

/-- The clause that restricts related rows to those of the listed parents. -/
def scopeClause (r : Relation) (parentKeys : List Json) : Token :=
  .membership r.parentColumn false (.values (parentKeys.map .ofJson) true)

/-- What added columns and tables joined on columns leave as it is, joined parents do. -/
theorem joinParents_keeps {α : Type} {f : Query → α}
    (hcolumn : ∀ q column, f (Query.addColumn q column) = f q)
    (hjoin : ∀ q kind table left right, f (Query.joinOn q kind (.table table) left right) = f q)
    (r : Relation) (q : Query) : f (r.joinParents q) = f q := by
  unfold joinParents
  cases r.kind with
  | belongsTo foreignKey => exact hjoin q _ _ _ _
  | hasOne foreignKey => rfl
  | hasMany foreignKey => rfl
  | belongsToMany linkTable leftKey rightKey extraColumns =>
    exact (Query.foldl_addColumn hcolumn _ _ _).trans (hjoin q _ _ _ _)

theorem predicate_joinParents (r : Relation) (q : Query) :
    (r.joinParents q).predicate = q.predicate :=
  joinParents_keeps (fun _ _ => rfl) (fun _ _ _ _ _ => rfl) r q

theorem predicate_scope (r : Relation) (q : Query) (parentKeys : List Json) :
    (r.scope q parentKeys).predicate = q.predicate ++ [r.scopeClause parentKeys] := by
  have hqualified : (q.qualifyColumns r.related.table).predicate = q.predicate := by
    unfold Query.qualifyColumns
    split <;> rfl
  have hscope : (r.scope q parentKeys).predicate =
      (r.joinParents (q.qualifyColumns r.related.table)).predicate ++ [r.scopeClause parentKeys] :=
    rfl
  rw [hscope, predicate_joinParents, hqualified]

theorem boundValues_joinParents (r : Relation) (q : Query) :
    (r.joinParents q).boundValues = q.boundValues := by
  refine joinParents_keeps (fun q _ => ?_) (fun q _ _ _ _ => q.boundValues_joinOn _ _ _ _) r q
  cases q
  rfl

/-- The keys of the parents are bound behind all that a query binds. -/
theorem boundValues_scope (r : Relation) (q : Query) (parentKeys : List Json) :
    (r.scope q parentKeys).boundValues = q.boundValues ++ parentKeys.map .ofJson := by
  have hqualified : (q.qualifyColumns r.related.table).boundValues = q.boundValues := by
    unfold Query.qualifyColumns
    cases q
    split <;> rfl
  have hscope : (r.scope q parentKeys).boundValues =
      ((r.joinParents (q.qualifyColumns r.related.table)).such
        (r.scopeClause parentKeys)).boundValues := rfl
  rw [hscope, Query.boundValues_such, boundValues_joinParents, hqualified]
  rfl

variable {π : Type}

theorem yields_queryFor {r : Relation} {parentKeys : List Json} {customizer : Option Customizer}
    {db db' : Database π} {q : Query} :
    (r.queryFor parentKeys customizer).Yields db q db' ↔
      ∃ base, (r.relatedQuery).Yields db base db' ∧
        q = r.scope (customize customizer base) parentKeys := by
  unfold queryFor
  rw [Session.yields_bind]
  constructor
  · rintro ⟨base, mid, hbase, h⟩
    obtain ⟨rfl, rfl⟩ := Session.yields_pure.mp h
    exact ⟨base, hbase, rfl⟩
  · rintro ⟨base, hbase, rfl⟩
    exact ⟨base, db', hbase, Session.yields_pure.mpr ⟨rfl, rfl⟩⟩

theorem yields_relatedQuery {r : Relation} {db db' : Database π} {base : Query} :
    (r.relatedQuery).Yields db base db' ↔ ∃ c, db.config? r.related.dataSource = some c ∧
      (Query.empty c.engine.dialect (some r.related.dataSource)).table r.related.table = base ∧
      db = db' := by
  unfold relatedQuery
  rw [Session.yields_bind]
  constructor
  · rintro ⟨q, mid, hquery, h⟩
    obtain ⟨c, hc, rfl, rfl⟩ := Session.yields_query.mp hquery
    obtain ⟨hbase, rfl⟩ := Session.yields_pure.mp h
    exact ⟨c, hc, hbase, rfl⟩
  · rintro ⟨c, hc, hbase, rfl⟩
    exact ⟨_, db, Session.yields_query.mpr ⟨c, hc, rfl, rfl⟩, Session.yields_pure.mpr ⟨hbase, rfl⟩⟩

theorem isClause_scopeClause (r : Relation) (parentKeys : List Json) :
    (r.scopeClause parentKeys).isClause = true := rfl

/-- The predicate of a query on related rows: what a customizer asks for, its alternatives kept
together, and the clause on the parents behind it. -/
theorem predicate_of_yields_queryFor {r : Relation} {parentKeys : List Json}
    {customizer : Option Customizer} {db db' : Database π} {q : Query}
    (h : (r.queryFor parentKeys customizer).Yields db q db')
    (hbalanced : ∀ f ∈ customizer, ∀ base, (r.relatedQuery).Yields db base db' →
      Predicate.Balanced (f base).predicate) :
    ∃ c : Predicate, c.Balanced ∧ q.predicate = c.grouped ++ [r.scopeClause parentKeys] := by
  obtain ⟨base, hbase, rfl⟩ := yields_queryFor.mp h
  rw [predicate_scope]
  cases customizer with
  | none =>
    obtain ⟨c, -, rfl, -⟩ := yields_relatedQuery.mp hbase
    exact ⟨[], .nil, rfl⟩
  | some f => exact ⟨(f base).predicate, hbalanced f rfl base hbase, rfl⟩

/-- What an engine finds of one row: the cells of its columns, what it takes for equal, and which
clauses hold. A column is in a list of values only if its cell equals one of them. -/
structure Finding where
  cell : String → Value
  equal : Value → Value → Prop
  holds : Token → Bool
  membership (field : String) (values : List Value) (bound : Bool) :
    holds (.membership field false (.values values bound)) = true →
      ∃ v ∈ values, equal (cell field) v

namespace Finding

/-- Whether two values are read as the same. NULL is not the same as anything. -/
def same (v w : Value) : Bool := !v.isNull && !w.isNull && v.toJson.render == w.toJson.render

/-- Whether a clause holds of cells, as far as it asks for values, lists of them and NULL. -/
def holdsOf (cell : String → Value) : Token → Bool
  | .compare field .equal v true => same (cell field) v
  | .nullness field isNull => (cell field).isNull == isNull
  | .membership field negated (.values vs _) => vs.any (same (cell field)) != negated
  | _ => false

/-- What is found of a row whose columns carry the names by which clauses address them. -/
def ofRow (row : Record) : Finding where
  cell field := .ofJson ((row.get? field).getD .null)
  equal v w := same v w = true
  holds := holdsOf fun field => .ofJson ((row.get? field).getD .null)
  membership field values bound h := by
    have hany : (values.any (same (.ofJson ((row.get? field).getD .null))) != false) = true := h
    rw [Bool.bne_false] at hany
    exact List.any_eq_true.mp hany

end Finding

/-- A clause behind a grouped predicate is joined by AND to all of it, whatever alternatives there
are and wherever connectors stand. So the WHERE clause of a query on related rows is true only of
rows of the parents that are asked for. -/
theorem batch_scope_constrains_alternatives (holds : Token → Bool) :
    (∀ (c : Predicate) (t : Token), c.Balanced → t.isClause = true →
      (c.hasClause = true →
        ∃ a, c.HasValue holds a ∧ Predicate.HasValue holds (c.grouped ++ [t]) (a && holds t)) ∧
      (c.hasClause = false → Predicate.HasValue holds (c.grouped ++ [t]) (holds t))) ∧
    (∀ (p : Predicate) (a b : Bool), p.HasValue holds a → p.HasValue holds b → a = b) ∧
    ∀ (r : Relation) (parentKeys : List Json) (customizer : Option Customizer)
      (db db' : Database π) (q : Query),
      (r.queryFor parentKeys customizer).Yields db q db' →
      (∀ f ∈ customizer, ∀ base, (r.relatedQuery).Yields db base db' →
        Predicate.Balanced (f base).predicate) →
      (∃ a, Predicate.HasValue holds q.predicate a) ∧
      (∀ (d : Dialect) (place : Place) (c : Clauses), q.clauses d place = .ok c →
        ∃ ls, Token.lexemes d (Predicate.connected q.predicate) = .ok ls ∧
          c.predicate = some (ls.flatMap Lexeme.written)) ∧
      ∀ row : Finding, Predicate.HasValue row.holds q.predicate true →
        ∃ key ∈ parentKeys, row.equal (row.cell r.parentColumn) (.ofJson key) := by
  refine ⟨?_, fun p a b ha hb => ha.unique hb, ?_⟩
  · intro c t hc ht
    refine ⟨fun hclause => ?_, hc.hasValue_grouped_of_not_hasClause ht⟩
    obtain ⟨a, ha⟩ := (hc.reads holds none).2 hclause
    exact ⟨a, ha, hc.hasValue_grouped ht hclause ha⟩
  · intro r parentKeys customizer db db' q hq hbalanced
    obtain ⟨c, hc, hpredicate⟩ := predicate_of_yields_queryFor hq hbalanced
    have ht := r.isClause_scopeClause parentKeys
    refine ⟨?_, ?_, ?_⟩
    · obtain ⟨a, ha⟩ := hc.exists_hasValue_grouped holds ht
      rw [hpredicate]
      exact ⟨_, ha⟩
    · intro d place clauses hclauses
      have hclause : Predicate.hasClause q.predicate = true := by
        rw [hpredicate, Predicate.hasClause, List.any_append, List.any_cons, ht, Bool.true_or,
          Bool.or_true]
      obtain ⟨sql, hsql, hwhere⟩ := Query.predicate_of_clauses hclauses hclause
      rw [Predicate.sql_eq_written] at hsql
      cases hls : Token.lexemes d (Predicate.connected q.predicate) with
      | error e =>
        rw [hls] at hsql
        cases hsql
      | ok ls =>
        rw [hls] at hsql
        exact ⟨ls, rfl, hwhere.trans (congrArg some (Except.ok.inj hsql).symm)⟩
    · intro row hrow
      obtain ⟨a, ha⟩ := hc.exists_hasValue_grouped row.holds ht
      rw [hpredicate] at hrow
      have hand := hrow.unique ha
      obtain ⟨-, hscope⟩ := Bool.and_eq_true_iff.mp hand.symm
      obtain ⟨v, hv, hequal⟩ := row.membership _ _ _ hscope
      obtain ⟨key, hkey, rfl⟩ := List.mem_map.mp hv
      exact ⟨key, hkey, hequal⟩

def postsOfUser : Relation where
  parent := .new "main" "users"
  related := .new "main" "posts"
  kind := .hasMany "user_id"
  parentKey := .int 1

def publishedOrDraft : Predicate :=
  [Predicate.equals "published" (.bool true), .connector .or,
    Predicate.equals "title" (.text "draft")]

/-- Asks for the published posts and for the drafts. -/
def withDrafts : Customizer := fun q => { q with predicate := q.predicate ++ publishedOrDraft }

def postsDatabase : Database ScriptedPool where
  configs := [("main", .ofParts "main" .mysql "localhost" "app")]
  backends := []
  opened := []
  registry := []

/-- A draft of a user. -/
def draftOf (user : Int) : Finding :=
  .ofRow [("published", .bool false), ("title", .text "draft"), ("posts.user_id", .int user)]

theorem balanced_publishedOrDraft : Predicate.Balanced publishedOrDraft :=
  .clause rfl (.connector .or (.clause rfl .nil))

theorem hasValue_publishedOrDraft : Predicate.HasValue (draftOf 1).holds publishedOrDraft true :=
  .or (.conjunction (.operand (.clause rfl))) (.operand (.clause rfl))

/-- A user gets drafts too where they are asked for as an alternative, but not those of another. -/
theorem drafts_stay_in_batch : ∃ (q : Query) (s : Statement),
    (postsOfUser.queryFor [.int 1] (some withDrafts)).Yields postsDatabase q postsDatabase ∧
    q.selectStatement = .ok s ∧
    s.sql = "SELECT posts.*, posts.user_id AS __table_users__key FROM posts " ++
      "WHERE (published = ? OR title = ?) AND posts.user_id IN (?)" ∧
    Predicate.HasValue (draftOf 1).holds q.predicate true ∧
    ¬ Predicate.HasValue (draftOf 2).holds q.predicate true := by
  obtain ⟨q, hq, hpredicate, htext⟩ : ∃ q, (postsOfUser.queryFor [.int 1] (some withDrafts)).Yields
      postsDatabase q postsDatabase ∧
      q.predicate = publishedOrDraft.grouped ++ [postsOfUser.scopeClause [.int 1]] ∧
      q.selectStatement.toOption.map (·.sql) =
        some ("SELECT posts.*, posts.user_id AS __table_users__key FROM posts " ++
          "WHERE (published = ? OR title = ?) AND posts.user_id IN (?)") :=
    ⟨_, rfl, rfl, by decide +kernel⟩
  have hbalanced : ∀ f ∈ some withDrafts, ∀ base,
      (postsOfUser.relatedQuery).Yields postsDatabase base postsDatabase →
      Predicate.Balanced (f base).predicate := by
    rintro f hf base hbase
    cases Option.mem_some_iff.mp hf
    obtain ⟨c, -, rfl, -⟩ := yields_relatedQuery.mp hbase
    exact balanced_publishedOrDraft
  obtain ⟨hgrouped, hunique, hscope⟩ :=
    batch_scope_constrains_alternatives (π := ScriptedPool) (draftOf 1).holds
  cases hs : q.selectStatement with
  | error e =>
    rw [hs] at htext
    cases htext
  | ok s =>
  rw [hs] at htext
  refine ⟨q, s, hq, hs, Option.some.inj htext, ?_, ?_⟩
  · obtain ⟨a, ha, hvalue⟩ := (hgrouped publishedOrDraft (postsOfUser.scopeClause [.int 1])
      balanced_publishedOrDraft rfl).1 rfl
    cases hunique _ _ _ ha hasValue_publishedOrDraft
    have hholds : (draftOf 1).holds (postsOfUser.scopeClause [.int 1]) = true := by decide +kernel
    rw [hpredicate]
    rwa [hholds] at hvalue
  · intro hforeign
    obtain ⟨-, -, hparents⟩ := hscope postsOfUser [.int 1] (some withDrafts) _ _ q hq hbalanced
    obtain ⟨key, hkey, hequal⟩ := hparents (draftOf 2) hforeign
    cases List.mem_singleton.mp hkey
    have hother : Finding.same (.int64 2) (.int64 1) = false := by decide +kernel
    cases hother.symm.trans hequal

end Relation
end SqlRecords
