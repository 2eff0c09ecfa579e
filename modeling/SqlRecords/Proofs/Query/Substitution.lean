import SqlRecords.Proofs.Query.Bound

/-! Replacing bound values before a query is written is the same as replacing them in its slots
afterwards: no other part of the text, and no failure, depends on them. -/
namespace SqlRecords

def Lexeme.mapSlots (f : Value → Value) : Lexeme → Lexeme
  | .clause sql => .clause (sql.mapSlots f)
  | .connector c => .connector c
  | .opening => .opening
  | .closing => .closing

def Clauses.mapSlots (f : Value → Value) (c : Clauses) : Clauses :=
  { c with
    projection := c.projection.map (Sql.mapSlots f)
    source := c.source.mapSlots f
    joins := c.joins.map (Sql.mapSlots f)
    predicate := c.predicate.map (Sql.mapSlots f) }

def Draft.mapSlots (f : Value → Value) (draft : Draft) : Draft :=
  { draft with sql := draft.sql.mapSlots f }

namespace Lexeme

theorem mapSlots_separator (f : Value → Value) (pending : Option Connector) (afterOperand : Bool) :
    (separator pending afterOperand).mapSlots f = separator pending afterOperand := by
  cases afterOperand <;> rfl

theorem assemble_mapSlots (f : Value → Value) (ls : List Lexeme) (pending : Option Connector)
    (afterOperand : Bool) :
    assemble pending afterOperand (ls.map (mapSlots f)) =
      (assemble pending afterOperand ls).mapSlots f := by
  induction ls generalizing pending afterOperand with
  | nil => rfl
  | cons l rest ih =>
    cases l with
    | clause sql => simp [mapSlots, assemble, mapSlots_separator, ih]
    | connector c => exact ih (some c) afterOperand
    | opening => simp [mapSlots, assemble, mapSlots_separator, ih]
    | closing => simp [mapSlots, assemble, ih]

theorem sql_mapSlots (f : Value → Value) (ls : List Lexeme) :
    sql (ls.map (mapSlots f)) = (sql ls).mapSlots f := assemble_mapSlots f ls none false

end Lexeme

theorem listClause_mapSlots (f : Value → Value) (keyword : String) (items : List String) :
    (listClause keyword items).mapSlots f = listClause keyword items := by
  unfold listClause
  split <;> rfl

theorem rankingColumn_mapSlots (f : Value → Value) (weights : List Sql) :
    rankingColumn (weights.map (Sql.mapSlots f)) =
      (rankingColumn weights).map (Sql.mapSlots f) := by
  match weights with
  | [] => rfl
  | [w] => simp [rankingColumn]
  | w :: w' :: ws => simp [rankingColumn]

theorem Clauses.sql_mapSlots (f : Value → Value) (c : Clauses) :
    (c.mapSlots f).sql = c.sql.mapSlots f := by
  have hjoins : (c.joins.map (Sql.mapSlots f)).flatten = Sql.mapSlots f c.joins.flatten := by
    unfold Sql.mapSlots
    rw [List.map_flatten]
  cases hp : c.predicate <;> simp [sql, mapSlots, hp, hjoins, listClause_mapSlots]

theorem operand_mapSlots (f : Value → Value) (d : Dialect) (v : Value) (bound : Bool) :
    operand d (if bound then f v else v) bound = (operand d v bound).mapSlots f := by
  cases bound <;> rfl

theorem memberList_mapSlots (f : Value → Value) (d : Dialect) (field : String) (negated : Bool)
    (values : List Value) (bound : Bool) :
    memberList d field negated (values.map fun v => if bound then f v else v) bound =
      (memberList d field negated values bound).mapSlots f := by
  have hmembers : (values.map fun v => if bound then f v else v).map (memberSql d bound) =
      (values.map (memberSql d bound)).map (Sql.mapSlots f) := by
    rw [List.map_map, List.map_map]
    exact List.map_congr_left fun v _ => by cases bound <;> rfl
  unfold memberList
  rw [hmembers, List.isEmpty_map]
  cases values.isEmpty <;> simp

@[simp] theorem Token.isClause_mapBound (f : Value → Value) (t : Token) :
    (t.mapBound f).isClause = t.isClause := by
  cases t <;> rfl

@[simp] theorem Predicate.hasClause_mapBound (f : Value → Value) (p : List Token) :
    Predicate.hasClause (Token.mapAllBound f p) = Predicate.hasClause p := by
  induction p with
  | nil => rfl
  | cons t rest ih =>
    rw [Token.mapAllBound, Predicate.hasClause_cons, Predicate.hasClause_cons,
      Token.isClause_mapBound, ih]

theorem Weight.mapAllBound_isEmpty (f : Value → Value) (ws : List Weight) :
    (Weight.mapAllBound f ws).isEmpty = ws.isEmpty := by
  cases ws <;> rfl

mutual

/-- A query with other bound values is written as the query is, around those values. -/
theorem Query.clauses_mapBound (f : Value → Value) (d : Dialect) (place : Place) (q : Query) :
    (q.mapBound f).clauses d place = (q.clauses d place).map (.mapSlots f) := by
  obtain ⟨own, dataSource, source, columns, additional, distinct, joins, predicate, weights,
    groupBy, orderBy, limit, offset, payload, returning⟩ := q
  cases source with
  | none => rfl
  | some source =>
    have hweights := Weight.sqls_mapBound f d weights
    have hsource := Source.sql_mapBound f d source
    have hjoins := Join.sqls_mapBound f d joins
    have hpredicate := Token.lexemes_mapBound f d predicate
    simp only [Query.mapBound, Source.mapAnyBound, Query.clauses, hweights, hsource, hjoins,
      hpredicate, Weight.mapAllBound_isEmpty, Predicate.hasClause_mapBound]
    cases Weight.sqls d weights with
    | error e => rfl
    | ok scores =>
    cases Source.sql d source with
    | error e => rfl
    | ok sourceSql =>
    cases Join.sqls d joins with
    | error e => rfl
    | ok joinSqls =>
    cases Token.lexemes d predicate with
    | error e => rfl
    | ok lexemes =>
      have hcolumns : (if columns.isEmpty then [Sql.ofText "*"]
          else columns.map fun c => Sql.ofText (own.escapeIdentifier c)).map (Sql.mapSlots f) =
          if columns.isEmpty then [Sql.ofText "*"]
          else columns.map fun c => Sql.ofText (own.escapeIdentifier c) := by
        cases columns <;> simp
      simp only [ok_bind, map_ok, pure_eq_ok, Clauses.mapSlots,
        List.map_append, hcolumns, rankingColumn_mapSlots, Lexeme.sql_mapSlots]
      cases Predicate.hasClause predicate <;> rfl

theorem Source.sql_mapBound (f : Value → Value) (d : Dialect) (s : Source) :
    (s.mapBound f).sql d = (s.sql d).map (Sql.mapSlots f) := by
  match s with
  | .table name => rfl
  | .derived query label =>
    have h := Query.clauses_mapBound f d .nested query
    simp only [Source.mapBound, Source.sql, h]
    cases query.clauses d .nested with
    | error e => rfl
    | ok c => simp [Clauses.sql_mapSlots]

theorem Members.sql_mapBound (f : Value → Value) (d : Dialect) (field : String) (negated : Bool)
    (m : Members) :
    (m.mapBound f).sql d field negated = (m.sql d field negated).map (Sql.mapSlots f) := by
  match m with
  | .values values bound =>
    exact congrArg Except.ok (memberList_mapSlots f d field negated values bound)
  | .rows query =>
    have h := Query.clauses_mapBound f d .nested query
    simp only [Members.mapBound, Members.sql, h]
    cases query.clauses d .nested with
    | error e => rfl
    | ok c => simp [Clauses.sql_mapSlots]

theorem Token.lexeme_mapBound (f : Value → Value) (d : Dialect) (t : Token) :
    (t.mapBound f).lexeme d = (t.lexeme d).map (.mapSlots f) := by
  match t with
  | .compare field comparison v bound =>
    simp [Token.mapBound, Token.lexeme, operand_mapSlots, Lexeme.mapSlots]
  | .nullness field isNull => cases isNull <;> rfl
  | .membership field negated members =>
    have h := Members.sql_mapBound f d field negated members
    simp only [Token.mapBound, Token.lexeme, h]
    cases members.sql d field negated <;> rfl
  | .between field low high => simp [Token.mapBound, Token.lexeme, Lexeme.mapSlots]
  | .connector c => rfl
  | .opening => rfl
  | .closing => rfl

theorem Token.lexemes_mapBound (f : Value → Value) (d : Dialect) (ts : List Token) :
    Token.lexemes d (Token.mapAllBound f ts) =
      (Token.lexemes d ts).map (List.map (.mapSlots f)) := by
  match ts with
  | [] => rfl
  | t :: rest =>
    have ht := Token.lexeme_mapBound f d t
    have hrest := Token.lexemes_mapBound f d rest
    simp only [Token.mapAllBound, Token.lexemes, ht, hrest]
    cases t.lexeme d with
    | error e => rfl
    | ok lexeme => cases Token.lexemes d rest <;> rfl

theorem Join.sql_mapBound (f : Value → Value) (d : Dialect) (j : Join) :
    (j.mapBound f).sql d = (j.sql d).map (Sql.mapSlots f) := by
  obtain ⟨kind, target, on⟩ := j
  have htarget := Source.sql_mapBound f d target
  have hon := Token.lexemes_mapBound f d on
  simp only [Join.mapBound, Join.sql, htarget, hon, Predicate.hasClause_mapBound]
  cases target.sql d with
  | error e => rfl
  | ok targetSql =>
  cases Token.lexemes d on with
  | error e => rfl
  | ok lexemes =>
    cases Predicate.hasClause on <;>
      simp [Lexeme.sql_mapSlots]

theorem Join.sqls_mapBound (f : Value → Value) (d : Dialect) (js : List Join) :
    Join.sqls d (Join.mapAllBound f js) = (Join.sqls d js).map (List.map (Sql.mapSlots f)) := by
  match js with
  | [] => rfl
  | j :: rest =>
    have hj := Join.sql_mapBound f d j
    have hrest := Join.sqls_mapBound f d rest
    simp only [Join.mapAllBound, Join.sqls, hj, hrest]
    cases j.sql d with
    | error e => rfl
    | ok sql => cases Join.sqls d rest <;> rfl

theorem Weight.sql_mapBound (f : Value → Value) (d : Dialect) (w : Weight) :
    (w.mapBound f).sql d = (w.sql d).map (Sql.mapSlots f) := by
  obtain ⟨predicate, score, otherwise⟩ := w
  have hpredicate := Token.lexemes_mapBound f d predicate
  have hotherwise := Otherwise.sql_mapBound f d otherwise
  simp only [Weight.mapBound, Weight.sql, hpredicate, hotherwise]
  cases Token.lexemes d predicate with
  | error e => rfl
  | ok lexemes =>
  cases otherwise.sql d with
  | error e => rfl
  | ok otherwiseSql =>
    simp [Lexeme.sql_mapSlots]

theorem Otherwise.sql_mapBound (f : Value → Value) (d : Dialect) (o : Otherwise) :
    (o.mapBound f).sql d = (o.sql d).map (Sql.mapSlots f) := by
  match o with
  | .score x => rfl
  | .weight w => exact Weight.sql_mapBound f d w

theorem Weight.sqls_mapBound (f : Value → Value) (d : Dialect) (ws : List Weight) :
    Weight.sqls d (Weight.mapAllBound f ws) =
      (Weight.sqls d ws).map (List.map (Sql.mapSlots f)) := by
  match ws with
  | [] => rfl
  | w :: rest =>
    have hw := Weight.sql_mapBound f d w
    have hrest := Weight.sqls_mapBound f d rest
    simp only [Weight.mapAllBound, Weight.sqls, hw, hrest]
    cases w.sql d with
    | error e => rfl
    | ok sql => cases Weight.sqls d rest <;> rfl

end

end SqlRecords
