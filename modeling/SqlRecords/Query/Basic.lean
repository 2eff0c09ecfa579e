import SqlRecords.Dialect
import SqlRecords.Query.Comparison
import SqlRecords.Value

/-! Queries as trees: a query may stand in the place of a table and of a list of values. -/
namespace SqlRecords

inductive Connector where
  | and | or
  deriving DecidableEq, Repr

inductive JoinKind where
  | inner | left
  deriving DecidableEq, Repr

inductive Direction where
  | ascending | descending
  deriving DecidableEq, Repr

def Connector.text : Connector → String
  | .and => " AND "
  | .or => " OR "

def JoinKind.text : JoinKind → String
  | .inner => "INNER JOIN"
  | .left => "LEFT JOIN"

def Direction.text : Direction → String
  | .ascending => "ASC"
  | .descending => "DESC"

/-- A write waiting to be sent. Values that are not bound are written into the statement: text as
it stands, all else as a literal. -/
inductive Payload where
  | insert (rows : List (Fields Value)) (bound : Bool)
  | update (values : Fields Value) (bound : Bool)

mutual

/-- What rows are read from. -/
inductive Source where
  | table (name : String)
  | derived (query : Query) (label : String)

/-- The right side of IN. -/
inductive Members where
  | values (values : List Value) (bound : Bool)
  | rows (query : Query)

/-- One token of a predicate: a clause, a connector or a bracket. -/
inductive Token where
  /-- An operand that is not bound is a column or an expression if it is text, else a literal. -/
  | compare (field : String) (comparison : Comparison) (operand : Value) (bound : Bool)
  | nullness (field : String) (isNull : Bool)
  | membership (field : String) (negated : Bool) (members : Members)
  | between (field : String) (low high : Value)
  | connector (c : Connector)
  | opening
  | closing

structure Join where
  kind : JoinKind
  target : Source
  on : List Token

/-- A score for the rows that satisfy a predicate. -/
structure Weight where
  predicate : List Token
  score : Double
  otherwise : Otherwise

/-- The score of the rows that do not. -/
inductive Otherwise where
  | score (x : Double)
  | weight (w : Weight)

structure Query where
  dialect : Dialect
  /-- The data source that the query runs against; a query without one is only compiled. -/
  dataSource : Option String
  source : Option Source
  columns : List String
  /-- Names under which the columns that were added to the projection appear in rows. -/
  additional : List String
  distinct : Bool
  joins : List Join
  predicate : List Token
  weights : List Weight
  groupBy : List String
  orderBy : List (String × Direction)
  limit : Option Nat
  offset : Option Nat
  payload : Option Payload
  returning : Option String

end

/-- Tokens in the order in which they were appended; connectors and brackets are resolved when the
predicate is written. -/
abbrev Predicate := List Token

/-- Whether a token is a clause. -/
def Token.isClause : Token → Bool
  | .connector _ | .opening | .closing => false
  | _ => true

namespace Predicate

def hasClause (p : Predicate) : Bool := List.any p Token.isClause

theorem hasClause_cons (t : Token) (rest : List Token) :
    hasClause (t :: rest) = (t.isClause || hasClause rest) := List.any_cons

def isDisjunctive (p : Predicate) : Bool :=
  List.any p fun
    | .connector .or => true
    | _ => false

/-- Brackets a predicate with alternatives, so that a clause appended later constrains them all. -/
def grouped (p : Predicate) : Predicate :=
  if p.isDisjunctive && p.hasClause then .opening :: (p ++ [.closing]) else p

/-- Two columns, or a column and an expression. -/
def columns (left : String) (comparison : Comparison) (right : String) : Token :=
  .compare left comparison (.text right) false

def equals (field : String) (v : Value) : Token := .compare field .equal v true

end Predicate

/-- The name by which the rows of a source are addressed. -/
def Source.label : Source → String
  | .table name => name
  | .derived _ label => label

/-- Nesting depth, counting this weight. -/
def Weight.depth : Weight → Nat
  | ⟨_, _, .score _⟩ => 1
  | ⟨_, _, .weight w⟩ => 1 + w.depth

namespace Query

def empty (d : Dialect) (dataSource : Option String) : Query where
  dialect := d
  dataSource := dataSource
  source := none
  columns := []
  additional := []
  distinct := false
  joins := []
  predicate := []
  weights := []
  groupBy := []
  orderBy := []
  limit := none
  offset := none
  payload := none
  returning := none

/-- A new query of the same dialect on the same data source. -/
def fork (q : Query) : Query := empty q.dialect q.dataSource

def from_ (q : Query) (source : Source) : Query := { q with source := some source }

def table (q : Query) (name : String) : Query := q.from_ (.table name)

def tableName (q : Query) : Option String := q.source.map Source.label

/-- Appends a token to the predicate. -/
def such (q : Query) (t : Token) : Query := { q with predicate := q.predicate ++ [t] }

def groupPredicate (q : Query) : Query := { q with predicate := Predicate.grouped q.predicate }

def weigh (q : Query) (w : Weight) : Query := { q with weights := q.weights ++ [w] }

def join (q : Query) (kind : JoinKind) (target : Source) (on : Predicate) : Query :=
  { q with joins := q.joins ++ [⟨kind, target, on⟩] }

/-- Joins where two columns are equal. -/
def joinOn (q : Query) (kind : JoinKind) (target : Source) (left right : String) : Query :=
  q.join kind target [Predicate.columns left .equal right]

def order (q : Query) (column : String) (direction : Direction) : Query :=
  { q with orderBy := q.orderBy ++ [(column, direction)] }

def group (q : Query) (column : String) : Query := { q with groupBy := q.groupBy ++ [column] }

/-- The values of a record, converted one by one. -/
def recordValues (r : Record) : Fields Value := r.mapValues .ofJson

def insert (q : Query) (rows : List Record) (bound : Bool) : Query :=
  { q with payload := some (.insert (rows.map recordValues) bound) }

def update (q : Query) (values : Record) (bound : Bool) : Query :=
  { q with payload := some (.update (recordValues values) bound) }

end Query
end SqlRecords
