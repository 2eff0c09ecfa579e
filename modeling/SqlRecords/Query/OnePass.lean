import SqlRecords.Query.Select

/-! A query written in one pass, each value numbered as it is met. The text ends where the next part
begins, so a number tells how many values stand before it in the text. -/
namespace SqlRecords

/-- A statement that is being written: its text and its parameters so far. -/
structure Output where
  dialect : Dialect
  text : String
  params : List Value

namespace Output

def emit (out : Output) (s : String) : Output := { out with text := out.text ++ s }

/-- Writes the placeholder of the next number and takes that number for a value; NULL takes none. -/
def bind (out : Output) (v : Value) : Output :=
  if v.isNull then out.emit "NULL"
  else { out with
    text := out.text ++ out.dialect.placeholder (out.params.length + 1)
    params := out.params ++ [v] }

end Output

/-- Writes at the end of an output. -/
abbrev Writer := Output → Except Incomplete Output

namespace Writer

def skip : Writer := .ok

def text (s : String) : Writer := fun out => .ok (out.emit s)

def slot (v : Value) : Writer := fun out => .ok (out.bind v)

/-- Writes text that depends on the dialect of the statement. -/
def inDialect (f : Dialect → String) : Writer := fun out => .ok (out.emit (f out.dialect))

def identifier (name : String) : Writer := inDialect fun d => d.escapeIdentifier name

/-- The right side of a comparison. -/
def value (v : Value) (bound : Bool) : Writer :=
  if bound then slot v else inDialect fun d => inlineOperand d v

/-- Members with commas between them. -/
def members (bound : Bool) : List Value → Writer
  | [] => skip
  | [v] => if bound then slot v else inDialect fun d => d.literal v
  | v :: rest =>
    (if bound then slot v else inDialect fun d => d.literal v) >=> text ", " >=> members bound rest

def separator (pending : Option Connector) (afterOperand : Bool) : Writer :=
  if afterOperand then text (pending.getD .and).text else skip

/-- A clause that is left out when it lists nothing. -/
def listing (keyword : String) (items : List String) : Writer :=
  if items.isEmpty then skip else text (keyword ++ commaList items)

/-- The column of the weights after the others, given what writes their sum. -/
def ranking (weights : List Weight) (sum : Writer) : Writer :=
  match weights with
  | [] => skip
  | [_] => text ", " >=> sum >=> text (" AS " ++ weightColumn)
  | _ => text ", " >=> text "(" >=> sum >=> text ")" >=> text (" AS " ++ weightColumn)

end Writer

open Writer

mutual

def Query.write (place : Place) : Query → Writer
  | ⟨_, _, none, _, _, _, _, _, _, _, _, _, _, _, _⟩ => fun _ => .error .noTable
  | ⟨own, _, some source, columns, _, distinct, joins, predicate, weights, groupBy, orderBy,
      limit, offset, _, _⟩ =>
    let order := if place.keepsOrder own (limit.isSome || offset.isSome)
      then orderEntries own (!weights.isEmpty) orderBy else []
    text (if distinct then "SELECT DISTINCT " else "SELECT ")
      >=> text (if columns.isEmpty then "*" else commaList (columns.map own.escapeIdentifier))
      >=> ranking weights (Weight.writeSum weights)
      >=> text " FROM " >=> source.write >=> Join.writeAll joins
      >=> (if Predicate.hasClause predicate
        then text " WHERE " >=> Token.writeAll none false predicate else skip)
      >=> listing " GROUP BY " (groupBy.map own.escapeIdentifier)
      >=> listing " ORDER BY " order
      >=> text (own.pagingClause limit offset (!order.isEmpty))

def Source.write : Source → Writer
  | .table name => identifier name
  | .derived query label =>
    text "(" >=> query.write .nested >=> text ")" >=> text " AS " >=> identifier label

def Token.write : Token → Writer
  | .compare field comparison v bound =>
    identifier field >=> text (" " ++ comparison.symbol ++ " ") >=> value v bound
  | .nullness field isNull =>
    identifier field >=> text (if isNull then " IS NULL" else " IS NOT NULL")
  | .membership field negated members => members.write field negated
  | .between field low high =>
    identifier field >=> text " BETWEEN " >=> slot low >=> text " AND " >=> slot high
  | .connector _ | .opening | .closing => skip

def Members.write (field : String) (negated : Bool) : Members → Writer
  | .values [] _ => text (if negated then "1 = 1" else "1 = 0")
  | .values values bound =>
    identifier field >=> text (membershipKeyword negated ++ "(") >=> members bound values
      >=> text ")"
  | .rows query =>
    identifier field >=> text (membershipKeyword negated ++ "(") >=> query.write .nested
      >=> text ")"

/-- Tokens after what is written so far, with connectors and brackets resolved on the way. -/
def Token.writeAll (pending : Option Connector) (afterOperand : Bool) : List Token → Writer
  | [] => skip
  | .connector c :: rest => Token.writeAll (some c) afterOperand rest
  | .opening :: rest =>
    separator pending afterOperand >=> text "(" >=> Token.writeAll none false rest
  | .closing :: rest => text ")" >=> Token.writeAll none true rest
  | t :: rest => separator pending afterOperand >=> t.write >=> Token.writeAll none true rest

def Join.write : Join → Writer
  | ⟨kind, target, on⟩ =>
    text (" " ++ kind.text ++ " ") >=> target.write
      >=> (if Predicate.hasClause on then text " ON " >=> Token.writeAll none false on else skip)

def Join.writeAll : List Join → Writer
  | [] => skip
  | j :: rest => j.write >=> Join.writeAll rest

def Weight.write : Weight → Writer
  | ⟨predicate, score, otherwise⟩ =>
    inDialect (fun d => if d = .mysql then "IF(" else "CASE WHEN ")
      >=> Token.writeAll none false predicate
      >=> inDialect (fun d => if d = .mysql then ", " else " THEN ") >=> text score.text
      >=> inDialect (fun d => if d = .mysql then ", " else " ELSE ") >=> otherwise.write
      >=> inDialect (fun d => if d = .mysql then ")" else " END")

def Otherwise.write : Otherwise → Writer
  | .score x => text x.text
  | .weight w => w.write

/-- Scores with plus signs between them. -/
def Weight.writeSum : List Weight → Writer
  | [] => skip
  | [w] => w.write
  | w :: rest => w.write >=> text " + " >=> Weight.writeSum rest

end

end SqlRecords
