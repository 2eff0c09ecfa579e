import SqlRecords.Sql

/-! Statements as a pool receives them. -/
namespace SqlRecords

inductive StatementKind where
  | select | insert | update | delete | raw
  deriving DecidableEq, Repr, Inhabited

def StatementKind.name : StatementKind → String
  | .select => "select"
  | .insert => "insert"
  | .update => "update"
  | .delete => "delete"
  | .raw => "raw"

structure Statement where
  sql : String
  params : List Value
  /-- One name for each parameter where parameters are bound by name. -/
  names : List String
  kind : StatementKind
  /-- The column whose generated value an INSERT reports. -/
  returning : Option String
  deriving Inhabited

/-- A statement whose slots are not numbered yet. -/
structure Draft where
  kind : StatementKind
  sql : Sql
  returning : Option String

namespace Statement

/-- A statement whose text already holds the placeholders of its parameters. -/
def ofText (d : Dialect) (kind : StatementKind) (sql : String) (params : List Value) : Statement :=
  ⟨sql, params, d.parameterNames params.length, kind, none⟩

def ofSql (d : Dialect) (kind : StatementKind) (sql : Sql) : Statement :=
  ofText d kind (sql.render d) sql.params

/-- The statement of a draft, whose slots are numbered now. -/
def ofDraft (d : Dialect) (draft : Draft) : Statement :=
  { ofSql d draft.kind draft.sql with returning := draft.returning }

def returningColumn (s : Statement) (column : String) : Statement :=
  { s with returning := some column }

end Statement

/-- Values that are bound one after another for a statement, with the names they are bound under. -/
structure Bindings where
  dialect : Dialect
  params : List Value
  names : List String

namespace Bindings

def none (d : Dialect) : Bindings := ⟨d, [], []⟩

/-- Binds a value, under the next name where parameters have names. NULL is not bound. -/
def bind (b : Bindings) (v : Value) : Bindings :=
  if v.isNull then b
  else { b with
    params := b.params ++ [v]
    names := if b.dialect.namesParameters
      then b.names ++ ["param" ++ toString (b.params.length + 1)] else b.names }

def statement (b : Bindings) (kind : StatementKind) (sql : String) : Statement :=
  ⟨sql, b.params, b.names, kind, .none⟩

end Bindings
end SqlRecords
