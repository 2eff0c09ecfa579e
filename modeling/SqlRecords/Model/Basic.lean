import SqlRecords.Json.Printer
import SqlRecords.Model.Schema

/-! Rows as models: stored values apart from values waiting to be saved, with the related models
that were loaded. -/
namespace SqlRecords

mutual

structure Model where
  schema : Schema
  /-- Values as they are stored. -/
  stored : Record
  /-- Values waiting to be saved. -/
  changed : Record
  /-- Values of projected columns that the schema does not declare. -/
  additional : Record
  /-- The columns that are shown; all without a list. -/
  visible : Option (List String)
  relations : List (String × Loaded)
  isNew : Bool

/-- The related models of a relation. A set of models keeps each with its key as of when it was
added. -/
inductive Loaded where
  | one (model : Option Model)
  | many (models : List (String × Model))

end

/-- Models in order, each under the key that it had when it was added. -/
abbrev ModelSet := List (String × Model)

/-- How keys are compared: text by itself, all else by how it is written. -/
def keyText : Json → String
  | .text s => s
  | j => j.render

namespace Model

/-- A row that is not stored yet, null throughout. -/
def blank (schema : Schema) : Model where
  schema := schema
  stored := .ofList (schema.columns.map fun column => (column, Json.null))
  changed := []
  additional := []
  visible := none
  relations := []
  isNew := true

/-- Takes declared columns over as stored. -/
def load (m : Model) (row : Record) : Model :=
  { m with
    stored := m.stored.insertAll (row.filter fun (column, _) => m.schema.hasColumn column)
    isNew := false }

/-- A row as it was read. It shows the columns that were read, and `additional` lists those that
it keeps beside the declared ones. -/
def ofRow (schema : Schema) (row : Record) (additional : List String) : Model :=
  let kept := additional.filterMap fun column => (row.get? column).map fun v => (column, v)
  { blank schema with visible := some row.keys, additional := .ofList kept }.load row

/-- Sets a declared column, to be saved; other columns are ignored. -/
def set (m : Model) (column : String) (v : Json) : Model :=
  if m.schema.hasColumn column then { m with changed := m.changed.insert column v } else m

def setAll (m : Model) (values : Record) : Model :=
  values.foldl (fun m (column, v) => m.set column v) m

/-- Current value of a column, one waiting to be saved first. -/
def column (m : Model) (name : String) : Json :=
  ((m.changed.get? name).or (m.stored.get? name)).getD .null

def key (m : Model) : Json := m.column m.schema.primaryKey

/-- The primary key as it is stored. -/
def storedKey (m : Model) : Json := (m.stored.get? m.schema.primaryKey).getD .null

def isDirty (m : Model) : Bool := !m.changed.isEmpty

def shows (m : Model) (column : String) : Bool :=
  match m.visible with
  | none => true
  | some columns => columns.contains column

/-- Shows no other columns than these. -/
def showOnly (m : Model) (columns : List String) : Model := { m with visible := some columns }

def showAll (m : Model) : Model := { m with visible := none }

/-- The declared columns that are shown, and then the additional ones. -/
def shown (m : Model) : Record :=
  Fields.insertAll
    (.ofList ((m.schema.columns.filter m.shows).map fun column => (column, m.column column)))
    (m.additional.filter fun (column, _) => m.shows column)

def loaded? (m : Model) (name : String) : Option Loaded := List.lookup name m.relations

def isLoaded (m : Model) (name : String) : Bool := (m.loaded? name).isSome

/-- Attaches a relation in the place of the one of its name, else after all others. -/
def attach (m : Model) (name : String) (l : Loaded) : Model :=
  { m with relations := Fields.insert m.relations name l }

/-- Takes a relation off. -/
def detach (m : Model) (name : String) : Model :=
  { m with relations := m.relations.eraseP (·.1 == name) }

end Model

mutual

/-- The columns that a model shows, with all relations that are loaded. -/
def Model.toJson : Model → Json
  | m@⟨_, _, _, _, _, relations, _⟩ => .object (Fields.insertAll m.shown (Loaded.toJsons relations))

def Loaded.toJson : Loaded → Json
  | .one none => .null
  | .one (some m) => m.toJson
  | .many models => .list (Model.toJsons models)

def Loaded.toJsons : List (String × Loaded) → List (String × Json)
  | [] => []
  | (name, l) :: rest => (name, l.toJson) :: Loaded.toJsons rest

def Model.toJsons : List (String × Model) → List Json
  | [] => []
  | (_, m) :: rest => m.toJson :: Model.toJsons rest

end

end SqlRecords
