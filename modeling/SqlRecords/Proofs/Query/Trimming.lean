import SqlRecords.Proofs.Model.BatchScope
import SqlRecords.Proofs.Query.Ranking

/-! Columns taken out of a projection. Whatever stays was there before, unless nothing stays: a
query without columns selects all of them. -/
namespace SqlRecords

/-- A call that takes columns out of a projection: those it lists, or all others. -/
inductive Trim where
  | remove (columns : List String)
  | keep (columns : List String)

/-- Whether a call leaves a column. -/
def Trim.keeps : Trim → String → Bool
  | .remove columns, column => !columns.contains column
  | .keep columns, column => columns.contains column

namespace Query

def trimmed (q : Query) : Trim → Query
  | .remove columns => q.removeColumns columns
  | .keep columns => q.keepColumns columns

def trimmedAll (q : Query) (ts : List Trim) : Query := ts.foldl trimmed q

/-- A query with nothing of its projection. -/
def bare (q : Query) : Query := { q with columns := [], additional := [] }

theorem columns_trimmed (q : Query) (t : Trim) :
    (q.trimmed t).columns = q.columns.filter t.keeps := by
  cases t <;> rfl

theorem bare_trimmed (q : Query) (t : Trim) : (q.trimmed t).bare = q.bare := by
  cases t <;> rfl

/-- Of the columns those stay that every call leaves. -/
theorem columns_trimmedAll (q : Query) (ts : List Trim) :
    (q.trimmedAll ts).columns = q.columns.filter fun column => ts.all (·.keeps column) := by
  induction ts generalizing q with
  | nil => simp [trimmedAll]
  | cons t rest ih =>
    show ((q.trimmed t).trimmedAll rest).columns = _
    rw [ih, columns_trimmed, List.filter_filter]
    simp only [List.all_cons, Bool.and_comm]

theorem bare_trimmedAll (q : Query) (ts : List Trim) : (q.trimmedAll ts).bare = q.bare := by
  induction ts generalizing q with
  | nil => rfl
  | cons t rest ih => exact (ih (q.trimmed t)).trans (q.bare_trimmed t)

theorem dialect_trimmedAll (q : Query) (ts : List Trim) : (q.trimmedAll ts).dialect = q.dialect :=
  show (q.trimmedAll ts).bare.dialect = q.bare.dialect by rw [bare_trimmedAll]

/-- The items of a SELECT: the columns, and the one that ranks the rows if there are weights. -/
def selectList (q : Query) : Except Incomplete (List String) := do
  let scores ← Weight.sqls q.dialect q.weights
  return q.columnTexts ++ Sql.renderEach q.dialect 0 (rankingColumn scores)

/-- All of a SELECT but the columns is that of the query without its projection. -/
theorem clauses_bare (q : Query) (d : Dialect) (place : Place) :
    q.clauses d place = (q.bare.clauses d place).map fun c => { c with
      projection := q.columnTexts.map Sql.ofText ++ c.projection.tail } := by
  obtain ⟨own, dataSource, source, columns, additional, distinct, joins, predicate, weights,
    groupBy, orderBy, limit, offset, payload, returning⟩ := q
  cases source with
  | none => rfl
  | some source =>
    unfold bare clauses columnTexts
    cases Weight.sqls d weights with
    | error e => rfl
    | ok scores =>
    cases source.sql d with
    | error e => rfl
    | ok sourceSql =>
    cases Join.sqls d joins with
    | error e => rfl
    | ok joinSqls =>
    cases Token.lexemes d predicate with
    | error e => rfl
    | ok lexemes => cases columns <;> simp [Except.map]

/-- Two queries are written alike but for the items that they select: neither of them can be
written, for the same reason, or both can, with their own lists between the same texts and with the
same values. -/
def DifferInList (q q' : Query) (related : List String → List String → Prop) : Prop :=
  (∃ x, q.selectStatement = .error x ∧ q'.selectStatement = .error x) ∨
  ∃ list list' rows ending params, q.selectList = .ok list ∧ q'.selectList = .ok list' ∧
    q.selectStatement = .ok (.ofText q.dialect .select (q.selectText list rows ending) params) ∧
    q'.selectStatement = .ok (.ofText q.dialect .select (q.selectText list' rows ending) params) ∧
    related list list'

/-- What follows the columns in a SELECT depends on the query without its projection. -/
theorem statement_of_bare {q : Query} {c : Clauses}
    (hc : q.bare.clauses q.dialect .outermost = .ok c) :
    q.selectList = .ok (q.columnTexts ++ Sql.renderEach q.dialect 0 c.projection.tail) ∧
    q.selectStatement = .ok (.ofText q.dialect .select
      (q.selectText (q.columnTexts ++ Sql.renderEach q.dialect 0 c.projection.tail)
        (c.rows.renderAfter q.dialect (c.projection.tail.flatMap Sql.params).length)
        (orderText c.orderBy ++ c.paging))
      (c.projection.tail.flatMap Sql.params ++ c.rows.params)) := by
  have hclauses := q.clauses_bare q.dialect .outermost
  rw [hc] at hclauses
  obtain ⟨source, scores, sourceSql, joinSqls, lexemes, -, hw, -, -, -, rfl⟩ :=
    clauses_eq_ok_iff.mp hc
  have hitems (ranking : List Sql) :
      Sql.renderEach q.dialect 0 (q.columnTexts.map Sql.ofText ++ ranking) =
        q.columnTexts ++ Sql.renderEach q.dialect 0 ranking := by
    rw [Sql.renderEach_append, Sql.renderEach_ofText, Sql.flatMap_params_ofText]
    rfl
  have hparams (ranking : List Sql) :
      (q.columnTexts.map Sql.ofText ++ ranking).flatMap Sql.params =
        ranking.flatMap Sql.params := by
    rw [List.flatMap_append, Sql.flatMap_params_ofText, List.nil_append]
  constructor
  · have hscores : Weight.sqls q.dialect q.weights = .ok scores := hw
    rw [selectList, hscores]
    rfl
  · rw [selectStatement_eq, hclauses]
    simp only [Except.map, Clauses.render_body, Clauses.params_body, hitems, hparams]
    rfl

/-- Two queries that differ in the projection only are written alike but for their columns. -/
theorem differInList_of_bare {q q' : Query} (h : q'.bare = q.bare)
    {related : List String → List String → Prop}
    (hrelated : ∀ ranking, related (q.columnTexts ++ ranking) (q'.columnTexts ++ ranking)) :
    q.DifferInList q' related := by
  have hdialect : q'.dialect = q.dialect := show q'.bare.dialect = q.bare.dialect by rw [h]
  have hdistinct : q'.distinct = q.distinct := show q'.bare.distinct = q.bare.distinct by rw [h]
  cases hc : q.bare.clauses q.dialect .outermost with
  | error x =>
    have hfails {p : Query} (hp : p.bare.clauses p.dialect .outermost = .error x) :
        p.selectStatement = .error x := by
      rw [selectStatement_eq, clauses_bare, hp]
      rfl
    refine .inl ⟨x, hfails hc, hfails ?_⟩
    rw [h, hdialect, hc]
  | ok c =>
    obtain ⟨hlist, hs⟩ := statement_of_bare hc
    obtain ⟨hlist', hs'⟩ := statement_of_bare (q := q') (by rw [h, hdialect]; exact hc)
    have htext (items : List String) (rows ending : String) :
        q'.selectText items rows ending = q.selectText items rows ending := by
      rw [selectText, hdistinct, selectText]
    rw [hdialect] at hlist' hs'
    rw [htext] at hs'
    exact .inr ⟨_, _, _, _, _, hlist, hlist', hs, hs', hrelated _⟩

/-- Columns as they are written, where `all` stands for none. -/
def listed (all : String) (write : String → String) (columns : List String) : List String :=
  if columns.isEmpty then [all] else columns.map write

/-- Columns that stay are listed as before. Without any, `all` takes their place. -/
theorem listed_filter_subset_iff (all : String) (write : String → String) (columns : List String)
    (p : String → Bool) (more : List String) :
    listed all write (columns.filter p) ++ more ⊆ listed all write columns ++ more ↔
      (∃ c ∈ columns, p c = true) ∨ all ∈ listed all write columns ++ more := by
  by_cases hstays : ∃ c ∈ columns, p c = true
  · obtain ⟨c, hc, hp⟩ := hstays
    have hcolumns : columns.isEmpty = false := by
      rw [List.isEmpty_eq_false_iff_exists_mem]
      exact ⟨c, hc⟩
    have hkept : (columns.filter p).isEmpty = false := by
      rw [List.isEmpty_eq_false_iff_exists_mem]
      exact ⟨c, List.mem_filter.mpr ⟨hc, hp⟩⟩
    have hsubset : (columns.filter p).map write ⊆ columns.map write :=
      List.map_subset write List.filter_sublist.subset
    refine iff_of_true ?_ (.inl ⟨c, hc, hp⟩)
    simp only [listed, hcolumns, hkept, Bool.false_eq_true, if_false]
    apply List.append_subset.mpr
    exact ⟨List.subset_append_of_subset_left more hsubset, List.subset_append_right _ more⟩
  · have hnone : columns.filter p = [] := by simpa using hstays
    rw [hnone, or_iff_right hstays]
    simp [listed]

theorem columnTexts_eq (q : Query) :
    q.columnTexts = listed "*" q.dialect.escapeIdentifier q.columns := rfl

end Query

namespace Relation
open Query (listed)

/-- The columns that a relation adds to a query: what it reads of the link, and the key of the
parent. -/
def addedColumns (r : Relation) : List String :=
  (match r.kind with
    | .belongsToMany linkTable _ _ extraColumns => extraColumns.map (linkTable ++ "." ++ ·)
    | _ => []) ++ [r.parentColumn ++ " AS " ++ r.ownerColumn]

theorem columns_addColumn {q : Query} (h : q.columns ≠ []) (column : String) :
    (q.addColumn column).columns = q.columns ++ [column] := by
  simp [Query.addColumn, h]

theorem columns_foldl_addColumn {q : Query} (h : q.columns ≠ []) (columns : List String)
    (name : String → String) :
    (columns.foldl (fun q column => q.addColumn (name column)) q).columns =
      q.columns ++ columns.map name := by
  induction columns generalizing q with
  | nil => simp
  | cons column rest ih =>
    have hadded := columns_addColumn h (name column)
    rw [List.foldl_cons, ih (by simp [hadded]), hadded, List.map_cons, List.append_assoc,
      List.singleton_append]

/-- A column with the table of the related rows, if it carries none. -/
def qualified (r : Relation) (column : String) : String :=
  if isBareColumn column then r.related.table ++ "." ++ column else column

theorem columns_qualifyColumns (r : Relation) (q : Query) :
    (q.qualifyColumns r.related.table).columns =
      listed (r.related.table ++ ".*") r.qualified q.columns := by
  unfold Query.qualifyColumns listed
  split <;> rfl

theorem columns_joinParents (r : Relation) {q : Query} (h : q.columns ≠ []) :
    (r.joinParents q).columns = q.columns ++ match r.kind with
      | .belongsToMany linkTable _ _ extraColumns => extraColumns.map (linkTable ++ "." ++ ·)
      | _ => [] := by
  unfold joinParents
  cases r.kind with
  | belongsTo | hasOne | hasMany => exact (List.append_nil _).symm
  | belongsToMany linkTable leftKey rightKey extraColumns =>
    exact columns_foldl_addColumn (q := q.joinOn _ _ _ _) h extraColumns (linkTable ++ "." ++ ·)

/-- Related rows are read with the columns of the query, each with its table, and with the added
ones. -/
theorem columns_scope (r : Relation) (q : Query) (parentKeys : List Json) :
    (r.scope q parentKeys).columns =
      listed (r.related.table ++ ".*") r.qualified q.columns ++ r.addedColumns := by
  have hqualified := r.columns_qualifyColumns q
  have hne : (q.qualifyColumns r.related.table).columns ≠ [] := by
    rw [hqualified, listed]
    split <;> simp_all
  have hjoined := r.columns_joinParents hne
  have hjoinedne : (r.joinParents (q.qualifyColumns r.related.table)).columns ≠ [] := by
    rw [hjoined]
    exact List.append_ne_nil_of_left_ne_nil hne _
  have hscope : (r.scope q parentKeys).columns =
      (r.joinParents (q.qualifyColumns r.related.table)).columns
        ++ [r.parentColumn ++ " AS " ++ r.ownerColumn] := columns_addColumn hjoinedne _
  rw [hscope, hjoined, hqualified, addedColumns, List.append_assoc]

theorem bare_joinParents {q q' : Query} (h : q'.bare = q.bare) (r : Relation) :
    (r.joinParents q').bare = (r.joinParents q).bare := by
  have hjoin (kind : JoinKind) (target : Source) (left right : String) :
      (q'.joinOn kind target left right).bare = (q.joinOn kind target left right).bare :=
    congrArg (·.joinOn kind target left right) h
  have hadded (columns : List String) (name : String → String) (p : Query) :
      (columns.foldl (fun q column => q.addColumn (name column)) p).bare = p.bare :=
    Query.foldl_addColumn (fun _ _ => rfl) columns name p
  unfold joinParents
  cases r.kind with
  | belongsTo => exact hjoin _ _ _ _
  | hasOne | hasMany => exact h
  | belongsToMany => simp only [hadded, hjoin]

theorem bare_scope {q q' : Query} (h : q'.bare = q.bare) (r : Relation) (parentKeys : List Json) :
    (r.scope q' parentKeys).bare = (r.scope q parentKeys).bare := by
  have hqualify (p : Query) : (p.qualifyColumns r.related.table).bare = p.bare := by
    unfold Query.qualifyColumns
    split <;> rfl
  have hjoined : (r.joinParents (q'.qualifyColumns r.related.table)).bare =
      (r.joinParents (q.qualifyColumns r.related.table)).bare :=
    bare_joinParents (by rw [hqualify, hqualify, h]) r
  exact congrArg (·.such (r.scopeClause parentKeys)) hjoined

theorem dialect_scope (r : Relation) (q : Query) (parentKeys : List Json) :
    (r.scope q parentKeys).dialect = q.dialect := by
  have hqualified : (q.qualifyColumns r.related.table).dialect = q.dialect := by
    unfold Query.qualifyColumns
    split <;> rfl
  have hscope : (r.scope q parentKeys).dialect =
      (r.joinParents (q.qualifyColumns r.related.table)).dialect := rfl
  rw [hscope, joinParents_keeps (f := Query.dialect) (fun _ _ => rfl) (fun _ _ _ _ _ => rfl),
    hqualified]

/-- The columns of related rows as they are written. -/
theorem columnTexts_scope (r : Relation) (q : Query) (parentKeys : List Json) :
    (r.scope q parentKeys).columnTexts =
      listed (q.dialect.escapeIdentifier (r.related.table ++ ".*"))
        (q.dialect.escapeIdentifier ∘ r.qualified) q.columns
      ++ r.addedColumns.map q.dialect.escapeIdentifier := by
  have hne : (r.scope q parentKeys).columns.isEmpty = false := by
    simp [columns_scope, addedColumns]
  rw [Query.columnTexts, hne, dialect_scope, columns_scope, List.map_append]
  unfold listed
  cases q.columns.isEmpty <;> simp

end Relation

/-- Whether calls that take out columns leave some of a list. -/
def Trim.LeaveSome (ts : List Trim) (columns : List String) : Prop :=
  ∃ c ∈ columns, ts.all (·.keeps c) = true

/-- Columns are taken out of a projection, by any calls one after another. The SELECT changes in its
list only, and everything that it still selects it selected before, exactly if one of the columns
stays or `*` was already selected. On related rows this holds of what a customizer takes out, where
all columns of the related table take the place of `*`. -/
theorem Query.trimming_narrows_iff (ts : List Trim) :
    (∀ q : Query, q.DifferInList (q.trimmedAll ts) fun list list' =>
      (list' ⊆ list ↔ Trim.LeaveSome ts q.columns ∨ "*" ∈ list)) ∧
    ∀ (r : Relation) (f : Customizer) (base : Query) (parentKeys : List Json),
      (r.scope (Relation.customize (some f) base) parentKeys).DifferInList
        (r.scope (Relation.customize (some fun q => (f q).trimmedAll ts) base) parentKeys)
        fun list list' => (list' ⊆ list ↔ Trim.LeaveSome ts (f base).columns ∨
          (f base).dialect.escapeIdentifier (r.related.table ++ ".*") ∈ list) := by
  constructor
  · intro q
    refine differInList_of_bare (q.bare_trimmedAll ts) fun ranking => ?_
    rw [columnTexts_eq, columnTexts_eq, columns_trimmedAll, dialect_trimmedAll]
    exact listed_filter_subset_iff _ _ _ _ ranking
  · intro r f base parentKeys
    have hgrouped : ((f base).trimmedAll ts).groupPredicate.bare = (f base).groupPredicate.bare :=
      congrArg groupPredicate ((f base).bare_trimmedAll ts)
    have hcolumns : ((f base).trimmedAll ts).groupPredicate.columns =
        (f base).columns.filter fun column => ts.all (·.keeps column) :=
      (f base).columns_trimmedAll ts
    have hdialect : ((f base).trimmedAll ts).groupPredicate.dialect = (f base).dialect :=
      (f base).dialect_trimmedAll ts
    refine differInList_of_bare (Relation.bare_scope hgrouped r parentKeys) fun ranking => ?_
    rw [Relation.columnTexts_scope, Relation.columnTexts_scope, hcolumns, hdialect,
      List.append_assoc, List.append_assoc]
    exact listed_filter_subset_iff _ _ _ _ _

/-- A query that selects one column, with that column taken out, selects all of them. -/
theorem Query.trimming_may_widen : ¬ ∀ (q : Query) (t : Trim) (list list' : List String),
    q.columns ≠ [] → q.selectList = .ok list → (q.trimmed t).selectList = .ok list' →
    list' ⊆ list := by
  intro h
  have hwider := h (((empty .mysql none).table "users").project ["id"]) (.remove ["id"])
    ["id"] ["*"] (by decide) rfl rfl
  exact absurd (hwider (List.mem_singleton_self "*")) (by decide)

end SqlRecords
