import SqlRecords.Model.Set
import SqlRecords.Query.Projection
import SqlRecords.Session.Run

/-! Relations of a model. Related rows are read for many parents at once; each row names the parent
it belongs to in a column that is added to the query and does not reach the model. -/
namespace SqlRecords

/-- A relation of one parent model. -/
structure Relation where
  parent : Schema
  related : Schema
  kind : RelationKind
  parentKey : Json

/-- Changes a query on related rows. -/
abbrev Customizer := Query → Query

/-- The relation that the schema of a model declares under a name. -/
def Model.relation (m : Model) (schemas : Schemas) (name : String) : Except Failure Relation :=
  let declared := do
    let decl ← m.schema.relations.get? name
    let related ← schemas.get? decl.related
    return ⟨m.schema, related, decl.kind, m.key⟩
  match declared with
  | some r => .ok r
  | none => .error (.relationship (m.schema.table ++ " has no relation named '" ++ name ++ "'"))

/-- Whether a column carries no table: `*`, or ASCII letters, digits and underscores only. -/
def isBareColumn (column : String) : Bool :=
  column == "*" || column.toList.all fun c => c.isAlphanum || c == '_'

/-- Puts a table before the columns that carry none; without a projection all its columns are
read. -/
def Query.qualifyColumns (q : Query) (table : String) : Query :=
  if q.columns.isEmpty then { q with columns := [table ++ ".*"] }
  else { q with
    columns := q.columns.map fun c => if isBareColumn c then table ++ "." ++ c else c }

namespace Relation

def isSingle (r : Relation) : Bool := r.kind.isSingle

/-- Name of the column in which a related row names its parent. -/
def ownerColumn (r : Relation) : String := "__table_" ++ r.parent.table ++ "__key"

/-- Name of the parent table where it is joined to the related one. -/
def parentLabel : String := "__parent"

/-- The column that holds the key of the parent of a related row. -/
def parentColumn (r : Relation) : String :=
  match r.kind with
  | .belongsTo _ => parentLabel ++ "." ++ r.parent.primaryKey
  | .hasOne foreignKey | .hasMany foreignKey => r.related.table ++ "." ++ foreignKey
  | .belongsToMany linkTable leftKey _ _ => linkTable ++ "." ++ leftKey

/-- Joins the table that holds the keys of the parents, if it is another than the related one. -/
def joinParents (r : Relation) (q : Query) : Query :=
  let relatedKey := r.related.table ++ "." ++ r.related.primaryKey
  match r.kind with
  | .belongsTo foreignKey =>
    q.joinOn .inner (.table (r.parent.table ++ " AS " ++ parentLabel))
      (parentLabel ++ "." ++ foreignKey) relatedKey
  | .hasOne _ | .hasMany _ => q
  | .belongsToMany linkTable _ rightKey extraColumns =>
    extraColumns.foldl (fun q column => q.addColumn (linkTable ++ "." ++ column))
      (q.joinOn .inner (.table linkTable) (linkTable ++ "." ++ rightKey) relatedKey)

/-- Restricts a query on related rows to those of the listed parents. -/
def scope (r : Relation) (q : Query) (parentKeys : List Json) : Query :=
  ((r.joinParents (q.qualifyColumns r.related.table)).such
      (.membership r.parentColumn false (.values (parentKeys.map .ofJson) true))).addColumn
    (r.parentColumn ++ " AS " ++ r.ownerColumn)

/-- Applies a customizer and keeps its alternatives together. -/
def customize (customizer : Option Customizer) (q : Query) : Query :=
  match customizer with
  | none => q
  | some f => (f q).groupPredicate

/-- Puts a related row, as a model, with those of the parent that it names. -/
def groupRow (r : Relation) (additional : List String) (groups : Fields ModelSet) (row : Record) :
    Except Failure (Fields ModelSet) :=
  match row.get? r.ownerColumn with
  | none => .error (.relationship
      ("related row is missing the '" ++ r.ownerColumn ++ "' column"))
  | some owner =>
    let m := Model.ofRow r.related (row.erase r.ownerColumn) additional
    let siblings := (groups.get? (keyText owner)).getD []
    .ok (groups.insert (keyText owner) (siblings.push m))

/-- Sorts related rows by the parents they name. -/
def group (r : Relation) (additional : List String) (rows : List Record) :
    Except Failure (Fields ModelSet) := rows.foldlM (r.groupRow additional) []

variable {π : Type} [Pool π]

/-- All rows of the related table. -/
def relatedQuery (r : Relation) : Session π Query := do
  return (← Session.query r.related.dataSource).table r.related.table

/-- The related rows of many parents. -/
def queryFor (r : Relation) (parentKeys : List Json) (customizer : Option Customizer) :
    Session π Query := do
  return r.scope (customize customizer (← r.relatedQuery)) parentKeys

/-- Related models of many parents by the keys of the parents, read by one statement. -/
def resultsFor (r : Relation) (parentKeys : List Json) (customizer : Option Customizer) :
    Session π (Fields ModelSet) := do
  if parentKeys.isEmpty then return []
  let q ← r.queryFor parentKeys customizer
  Session.ofExcept (r.group q.additional (← q.fetch))

/-- Related models of the one parent. A parent without a key has none. -/
def results (r : Relation) : Session π ModelSet := do
  if r.parentKey.isNull then return []
  return ((← r.resultsFor [r.parentKey] none).get? (keyText r.parentKey)).getD []

/-- The first related model. -/
def result (r : Relation) : Session π Model := do
  match ModelSet.models (← r.results) with
  | m :: _ => return m
  | [] => throw (.notFound
      (r.related.table ++ " related to " ++ r.parent.table ++ "(" ++ keyText r.parentKey ++ ")"))

/-- Related models in the shape of the relation. -/
def loaded (r : Relation) (models : ModelSet) : Loaded :=
  if r.isSingle then .one models.models.head? else .many models

end Relation

/-- Reads one relation of a model and attaches it. -/
def Model.loadRelation {π : Type} [Pool π] (m : Model) (schemas : Schemas) (name : String) :
    Session π Model := do
  let r ← Session.ofExcept (m.relation schemas name)
  return m.attach name (r.loaded (← r.results))

end SqlRecords
