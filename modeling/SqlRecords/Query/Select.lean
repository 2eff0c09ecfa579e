import SqlRecords.Dialect.Identifier
import SqlRecords.Dialect.Literal
import SqlRecords.Dialect.Paging
import SqlRecords.Query.Incomplete
import SqlRecords.Query.Predicate
import SqlRecords.Statement

/-! Writing queries. All parts of a statement share one sequence of slots, in textual order. -/
namespace SqlRecords

/-- The clauses of a SELECT, each written. -/
structure Clauses where
  distinct : Bool
  projection : List Sql
  source : Sql
  joins : List Sql
  predicate : Option Sql
  groupBy : List String
  orderBy : List String
  paging : String

def commaList (items : List String) : String := ", ".intercalate items

/-- A clause that is left out when it lists nothing. -/
def listClause (keyword : String) (items : List String) : Sql :=
  if items.isEmpty then [] else Sql.ofText (keyword ++ commaList items)

def Clauses.sql (c : Clauses) : Sql :=
  Sql.ofText (if c.distinct then "SELECT DISTINCT " else "SELECT ")
    ++ Sql.join ", " c.projection
    ++ Sql.ofText " FROM " ++ c.source ++ c.joins.flatten
    ++ (match c.predicate with
      | some p => Sql.ofText " WHERE " ++ p
      | none => [])
    ++ listClause " GROUP BY " c.groupBy
    ++ listClause " ORDER BY " c.orderBy
    ++ Sql.ofText c.paging

/-- Name of the ranking column. -/
def weightColumn : String := "__weight"

/-- The sum of all weights as one column, none without weights. -/
def rankingColumn (weights : List Sql) : List Sql :=
  match weights with
  | [] => []
  | [w] => [w ++ Sql.ofText (" AS " ++ weightColumn)]
  | ws => [Sql.bracketed (Sql.join " + " ws) ++ Sql.ofText (" AS " ++ weightColumn)]

/-- A value written into a predicate: text is a column or an expression, all else a literal. -/
def inlineOperand (d : Dialect) : Value → String
  | .text s => d.escapeIdentifier s
  | v => d.literal v

def operand (d : Dialect) (v : Value) (bound : Bool) : Sql :=
  if bound then Sql.bind v else Sql.ofText (inlineOperand d v)

/-- Members of a list: bound, or literals throughout. -/
def memberSql (d : Dialect) (bound : Bool) (v : Value) : Sql :=
  if bound then Sql.bind v else Sql.ofText (d.literal v)

def membershipKeyword (negated : Bool) : String := if negated then " NOT IN " else " IN "

/-- Membership in a list; nothing is in the empty list. -/
def memberList (d : Dialect) (field : String) (negated : Bool) (values : List Value)
    (bound : Bool) : Sql :=
  if values.isEmpty then Sql.ofText (if negated then "1 = 1" else "1 = 0")
  else Sql.ofText (d.escapeIdentifier field ++ membershipKeyword negated)
    ++ Sql.bracketed (Sql.join ", " (values.map (memberSql d bound)))

/-- ORDER BY entries: the ranking column first, then the query's own. -/
def orderEntries (d : Dialect) (ranked : Bool) (entries : List (String × Direction)) :
    List String :=
  (if ranked then [weightColumn ++ " " ++ Direction.descending.text] else [])
    ++ entries.map fun (column, direction) => d.escapeIdentifier column ++ " " ++ direction.text

/-- Where a SELECT stands: by itself, under a count, or inside another statement. -/
inductive Place where
  | outermost | counted | nested
  deriving DecidableEq, Repr

/-- Whether a SELECT keeps its order. A count does not need one without paging, and SQL Server takes
none inside another statement without paging. -/
def Place.keepsOrder (own : Dialect) (paged : Bool) : Place → Bool
  | .outermost => true
  | .counted => paged
  | .nested => paged || own != .mssql

mutual

/-- The clauses of a query in a statement of dialect `d`. The query's own dialect decides on its
columns, its grouping, its order and its paging. -/
def Query.clauses (d : Dialect) (place : Place) : Query → Except Incomplete Clauses
  | ⟨_, _, none, _, _, _, _, _, _, _, _, _, _, _, _⟩ => .error .noTable
  | ⟨own, _, some source, columns, _, distinct, joins, predicate, weights, groupBy, orderBy,
      limit, offset, _, _⟩ => do
    let scores ← Weight.sqls d weights
    let source ← source.sql d
    let joins ← Join.sqls d joins
    let lexemes ← Token.lexemes d predicate
    let order := if place.keepsOrder own (limit.isSome || offset.isSome)
      then orderEntries own (!weights.isEmpty) orderBy else []
    return {
      distinct := distinct
      projection := (if columns.isEmpty then [Sql.ofText "*"]
        else columns.map fun c => Sql.ofText (own.escapeIdentifier c)) ++ rankingColumn scores
      source := source
      joins := joins
      predicate := if Predicate.hasClause predicate then some (Lexeme.sql lexemes) else none
      groupBy := groupBy.map own.escapeIdentifier
      orderBy := order
      paging := own.pagingClause limit offset (!order.isEmpty) }

def Source.sql (d : Dialect) : Source → Except Incomplete Sql
  | .table name => .ok (Sql.ofText (d.escapeIdentifier name))
  | .derived query label => do
    let inner ← query.clauses d .nested
    return Sql.bracketed inner.sql ++ Sql.ofText (" AS " ++ d.escapeIdentifier label)

def Token.lexeme (d : Dialect) : Token → Except Incomplete Lexeme
  | .compare field comparison v bound =>
    .ok (.clause (Sql.ofText (d.escapeIdentifier field ++ " " ++ comparison.symbol ++ " ")
      ++ operand d v bound))
  | .nullness field isNull =>
    .ok (.clause (Sql.ofText
      (d.escapeIdentifier field ++ if isNull then " IS NULL" else " IS NOT NULL")))
  | .membership field negated members => do
    let sql ← members.sql d field negated
    return .clause sql
  | .between field low high =>
    .ok (.clause (Sql.ofText (d.escapeIdentifier field ++ " BETWEEN ") ++ Sql.bind low
      ++ Sql.ofText " AND " ++ Sql.bind high))
  | .connector c => .ok (.connector c)
  | .opening => .ok .opening
  | .closing => .ok .closing

def Members.sql (d : Dialect) (field : String) (negated : Bool) :
    Members → Except Incomplete Sql
  | .values values bound => .ok (memberList d field negated values bound)
  | .rows query => do
    let inner ← query.clauses d .nested
    return Sql.ofText (d.escapeIdentifier field ++ membershipKeyword negated)
      ++ Sql.bracketed inner.sql

def Token.lexemes (d : Dialect) : List Token → Except Incomplete (List Lexeme)
  | [] => .ok []
  | t :: rest => do
    let lexeme ← t.lexeme d
    let lexemes ← Token.lexemes d rest
    return lexeme :: lexemes

/-- ON is left out when it has no clause. -/
def Join.sql (d : Dialect) : Join → Except Incomplete Sql
  | ⟨kind, target, on⟩ => do
    let target ← target.sql d
    let lexemes ← Token.lexemes d on
    return Sql.ofText (" " ++ kind.text ++ " ") ++ target
      ++ if Predicate.hasClause on then Sql.ofText " ON " ++ Lexeme.sql lexemes else []

def Join.sqls (d : Dialect) : List Join → Except Incomplete (List Sql)
  | [] => .ok []
  | j :: rest => do
    let sql ← j.sql d
    let sqls ← Join.sqls d rest
    return sql :: sqls

def Weight.sql (d : Dialect) : Weight → Except Incomplete Sql
  | ⟨predicate, score, otherwise⟩ => do
    let lexemes ← Token.lexemes d predicate
    let otherwise ← otherwise.sql d
    return Sql.conditional d (Lexeme.sql lexemes) (Sql.ofText score.text) otherwise

def Otherwise.sql (d : Dialect) : Otherwise → Except Incomplete Sql
  | .score x => .ok (Sql.ofText x.text)
  | .weight w => w.sql d

def Weight.sqls (d : Dialect) : List Weight → Except Incomplete (List Sql)
  | [] => .ok []
  | w :: rest => do
    let sql ← w.sql d
    let sqls ← Weight.sqls d rest
    return sql :: sqls

end

namespace Predicate

/-- A predicate by itself. -/
def sql (d : Dialect) (p : Predicate) : Except Incomplete Sql :=
  (Token.lexemes d p).map Lexeme.sql

/-- The WHERE clause of a write, left out when there is no clause. -/
def whereSql (d : Dialect) (p : Predicate) : Except Incomplete Sql :=
  if p.hasClause then (p.sql d).map (Sql.ofText " WHERE " ++ ·) else .ok []

end Predicate

namespace Query

def selectDraft (q : Query) : Except Incomplete Draft :=
  (q.clauses q.dialect .outermost).map fun c => ⟨.select, c.sql, none⟩

/-- Counts the rows of the SELECT. -/
def countDraft (q : Query) : Except Incomplete Draft :=
  (q.clauses q.dialect .counted).map fun c =>
    ⟨.select,
      Sql.ofText "SELECT COUNT(*) AS total FROM (" ++ c.sql ++ Sql.ofText ") AS count_sql", none⟩

/-- A draft as a statement of the query's dialect. -/
def finish (q : Query) (draft : Except Incomplete Draft) : Except Incomplete Statement :=
  draft.map (.ofDraft q.dialect)

def selectStatement (q : Query) : Except Incomplete Statement := q.finish q.selectDraft

def countStatement (q : Query) : Except Incomplete Statement := q.finish q.countDraft

end Query
end SqlRecords
