import SqlRecords.Fields
import SqlRecords.Text.Description

/-! What a table holds and how its rows relate to the rows of other tables. -/
namespace SqlRecords

/-- How related rows are reached from a parent row. -/
inductive RelationKind where
  /-- The parent row names its one related row. -/
  | belongsTo (foreignKey : String)
  /-- At most one related row names the parent. -/
  | hasOne (foreignKey : String)
  /-- The related rows name the parent. -/
  | hasMany (foreignKey : String)
  /-- Rows of a link table pair `leftKey` of the parent with `rightKey` of the related row. -/
  | belongsToMany (linkTable leftKey rightKey : String) (extraColumns : List String)
  deriving DecidableEq, Repr, Inhabited

/-- Whether a parent has at most one related row. -/
def RelationKind.isSingle : RelationKind → Bool
  | .belongsTo _ | .hasOne _ => true
  | .hasMany _ | .belongsToMany .. => false

def RelationKind.description : RelationKind → String
  | .belongsTo foreignKey => Text.described "BelongsTo" [("foreign_key", Text.escaped foreignKey)]
  | .hasOne foreignKey => Text.described "HasOne" [("foreign_key", Text.escaped foreignKey)]
  | .hasMany foreignKey => Text.described "HasMany" [("foreign_key", Text.escaped foreignKey)]
  | .belongsToMany linkTable leftKey rightKey extraColumns =>
    Text.described "BelongsToMany" [("link_table", Text.escaped linkTable),
      ("left_key", Text.escaped leftKey), ("right_key", Text.escaped rightKey),
      ("extra_columns", Text.escapedList extraColumns)]

structure RelationDecl where
  kind : RelationKind
  /-- Name of the schema of the related rows. -/
  related : String
  deriving DecidableEq, Repr, Inhabited

structure Schema where
  dataSource : String
  table : String
  primaryKey : String
  columns : List String
  relations : Fields RelationDecl
  deriving DecidableEq, Repr, Inhabited

/-- Schemas by name. Relations refer to one another's schemas, so they do it by name. -/
abbrev Schemas := Fields Schema

namespace Schema

/-- A table whose primary key is `id`. -/
def new (dataSource table : String) : Schema := ⟨dataSource, table, "id", [], []⟩

def keyedBy (s : Schema) (column : String) : Schema := { s with primaryKey := column }

/-- Declares the columns that are stored; the primary key comes first if they lack it. -/
def declare (s : Schema) (columns : List String) : Schema :=
  { s with columns := if columns.contains s.primaryKey then columns else s.primaryKey :: columns }

/-- Declares a relation, after all others, in place of an earlier one of its name. -/
def relate (s : Schema) (name : String) (decl : RelationDecl) : Schema :=
  { s with relations := s.relations.erase name ++ [(name, decl)] }

def description (s : Schema) : String :=
  Text.described "ModelSchema" [("data_source", Text.escaped s.dataSource),
    ("table", Text.escaped s.table), ("primary_key", Text.escaped s.primaryKey),
    ("columns", Text.escapedList s.columns), ("relations", Text.escapedList s.relations.keys)]

def hasColumn (s : Schema) (column : String) : Bool := s.columns.contains column

end Schema
end SqlRecords
