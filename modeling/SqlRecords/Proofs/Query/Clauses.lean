import SqlRecords.Proofs.Sql.Fragments
import SqlRecords.Query.Select

/-! A SELECT in two parts: its body, which holds the SELECTs nested in it, and behind it its order
and its page, which hold none and bind nothing. -/
namespace SqlRecords

/-- All of a SELECT up to its order. -/
def Clauses.body (c : Clauses) : Sql :=
  Sql.ofText (if c.distinct then "SELECT DISTINCT " else "SELECT ")
    ++ Sql.join ", " c.projection
    ++ Sql.ofText " FROM " ++ c.source ++ c.joins.flatten
    ++ (match c.predicate with
      | some p => Sql.ofText " WHERE " ++ p
      | none => [])
    ++ listClause " GROUP BY " c.groupBy

/-- What follows the body of a SELECT. -/
def orderText (order : List String) : String :=
  if order.isEmpty then "" else " ORDER BY " ++ commaList order

theorem Clauses.sql_eq_body (c : Clauses) :
    c.sql = c.body ++ (listClause " ORDER BY " c.orderBy ++ Sql.ofText c.paging) := by
  cases hp : c.predicate <;> simp only [sql, body, hp, List.append_assoc]

theorem Clauses.renderAfter_sql (c : Clauses) (d : Dialect) (n : Nat) :
    c.sql.renderAfter d n = c.body.renderAfter d n ++ (orderText c.orderBy ++ c.paging) := by
  have horder (k : Nat) : (listClause " ORDER BY " c.orderBy).renderAfter d k =
      orderText c.orderBy := by
    unfold listClause orderText
    split
    · rfl
    · exact Sql.renderAfter_ofText d k _
  simp only [sql_eq_body, Sql.renderAfter_append, horder, Sql.renderAfter_ofText]

/-- Neither an order nor a page binds a value. -/
theorem Clauses.params_sql (c : Clauses) : c.sql.params = c.body.params := by
  have horder : (listClause " ORDER BY " c.orderBy).slots = [] := by
    unfold listClause
    split <;> rfl
  simp [Sql.params, sql_eq_body, horder]

namespace Query

/-- The order of a query that is cut into pages. -/
def pageOrder (q : Query) : List String := orderEntries q.dialect (!q.weights.isEmpty) q.orderBy

/-- The order that a query is written with. -/
def orderAt (q : Query) (place : Place) : List String :=
  if place.keepsOrder q.dialect (q.limit.isSome || q.offset.isSome) then q.pageOrder else []

/-- A SELECT is written exactly when its parts can be written, and it is made of these. -/
theorem clauses_eq_ok_iff {q : Query} {d : Dialect} {place : Place} {c : Clauses} :
    q.clauses d place = .ok c ↔
    ∃ source scores sourceSql joinSqls lexemes, q.source = some source ∧
      Weight.sqls d q.weights = .ok scores ∧ source.sql d = .ok sourceSql ∧
      Join.sqls d q.joins = .ok joinSqls ∧ Token.lexemes d q.predicate = .ok lexemes ∧
      c = {
        distinct := q.distinct
        projection := (if q.columns.isEmpty then [Sql.ofText "*"]
          else q.columns.map fun c => Sql.ofText (q.dialect.escapeIdentifier c))
            ++ rankingColumn scores
        source := sourceSql
        joins := joinSqls
        predicate := if Predicate.hasClause q.predicate then some (Lexeme.sql lexemes) else none
        groupBy := q.groupBy.map q.dialect.escapeIdentifier
        orderBy := q.orderAt place
        paging := q.dialect.pagingClause q.limit q.offset (!(q.orderAt place).isEmpty) } := by
  obtain ⟨own, dataSource, source, columns, additional, distinct, joins, predicate, weights,
    groupBy, orderBy, limit, offset, payload, returning⟩ := q
  constructor
  · intro h
    cases source with
    | none => cases h
    | some source =>
      unfold clauses at h
      obtain ⟨scores, hw, h⟩ := bind_eq_ok.mp h
      obtain ⟨sourceSql, hs, h⟩ := bind_eq_ok.mp h
      obtain ⟨joinSqls, hj, h⟩ := bind_eq_ok.mp h
      obtain ⟨lexemes, hl, h⟩ := bind_eq_ok.mp h
      exact ⟨source, scores, sourceSql, joinSqls, lexemes, rfl, hw, hs, hj, hl,
        (Except.ok.inj h).symm⟩
  · rintro ⟨source, scores, sourceSql, joinSqls, lexemes, rfl, hw, hs, hj, hl, rfl⟩
    unfold clauses
    dsimp only at hw hs hj hl
    rw [hw, hs, hj, hl]
    rfl

/-- Where a SELECT stands decides on its order and on what a page needs for it, and on nothing
else. -/
theorem clauses_place (q : Query) (d : Dialect) (place place' : Place) :
    q.clauses d place' = (q.clauses d place).map fun c => { c with
      orderBy := q.orderAt place'
      paging := q.dialect.pagingClause q.limit q.offset (!(q.orderAt place').isEmpty) } := by
  obtain ⟨own, dataSource, source, columns, additional, distinct, joins, predicate, weights,
    groupBy, orderBy, limit, offset, payload, returning⟩ := q
  cases source with
  | none => rfl
  | some source =>
    unfold clauses
    cases Weight.sqls d weights with
    | error e => rfl
    | ok scores =>
    cases source.sql d with
    | error e => rfl
    | ok sourceSql =>
    cases Join.sqls d joins with
    | error e => rfl
    | ok joinSqls => cases Token.lexemes d predicate <;> rfl

/-- What a SELECT has behind its body: its order and its page. -/
def endText (q : Query) (place : Place) : String :=
  orderText (q.orderAt place)
    ++ q.dialect.pagingClause q.limit q.offset (!(q.orderAt place).isEmpty)

theorem end_of_clauses {q : Query} {d : Dialect} {place : Place} {c : Clauses}
    (h : q.clauses d place = .ok c) : orderText c.orderBy ++ c.paging = q.endText place := by
  obtain ⟨_, _, _, _, _, -, -, -, -, -, rfl⟩ := clauses_eq_ok_iff.mp h
  rfl

theorem selectStatement_eq (q : Query) :
    q.selectStatement = (q.clauses q.dialect .outermost).map fun c =>
      .ofText q.dialect .select (c.body.render q.dialect ++ (orderText c.orderBy ++ c.paging))
        c.body.params := by
  unfold selectStatement selectDraft finish
  cases q.clauses q.dialect .outermost with
  | error e => rfl
  | ok c =>
    simp only [Except.map, Statement.ofDraft, Statement.ofSql, Sql.render, c.renderAfter_sql,
      c.params_sql]
    rfl

end Query
end SqlRecords
