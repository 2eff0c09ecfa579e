import SqlRecords.Config.Basic
import SqlRecords.Json.Access

/-! Configurations as JSON documents. -/
namespace SqlRecords.Config

def textOrNull : Option String → Json
  | some s => .text s
  | none => .null

def toJson (c : Config) : Json := .object [
  ("name", .text c.name),
  ("engine", .text c.engine.name),
  ("host", .text c.host),
  ("port", match c.port with
    | some n => .int n
    | none => .null),
  ("database", .text c.database),
  ("user", textOrNull c.user),
  ("password", textOrNull c.password),
  ("max_connections", .int c.maxConnections),
  ("acquire_timeout_seconds", .int c.acquireTimeoutSeconds)]

def topPort : Nat := 65535
def topConnections : Nat := 4294967295
def topSeconds : Nat := 18446744073709551615

/-- A value or null. -/
def optional? {α : Type} (read : Json → Option α) : Json → Option (Option α)
  | .null => some none
  | j => (read j).map some

/-- A name, or an object whose only field is named so and holds null. -/
def engine? : Json → Option Engine
  | .text s => Engine.ofName? s
  | .object [(name, .null)] => Engine.ofName? name
  | _ => none

/-- Names of the fields, in the order in which a list may give them. -/
def fieldNames : List String :=
  ["name", "engine", "host", "port", "database", "user", "password", "max_connections",
    "acquire_timeout_seconds"]

/-- A field, or `default` if it is missing. -/
def field? {α : Type} (fields : Fields Json) (name : String) (read : Json → Option α)
    (default : Option α) : Option α :=
  match fields.get? name with
  | some j => read j
  | none => default

def ofFields? (fields : Fields Json) : Option Config := do
  let name ← field? fields "name" Json.text? none
  let engine ← field? fields "engine" engine? none
  let host ← field? fields "host" Json.text? none
  let port ← field? fields "port" (optional? (Json.natural? topPort)) (some none)
  let database ← field? fields "database" Json.text? none
  let user ← field? fields "user" (optional? Json.text?) (some none)
  let password ← field? fields "password" (optional? Json.text?) (some none)
  let maxConnections ← field? fields "max_connections" (Json.natural? topConnections)
    (some defaultMaxConnections)
  let seconds ← field? fields "acquire_timeout_seconds" (Json.natural? topSeconds)
    (some defaultAcquireTimeout)
  return ⟨name, engine, host, port, database, user, password, maxConnections, seconds⟩

/-- Reads an object, or a list of the fields' values in order; unknown fields are ignored. -/
def ofJson? : Json → Option Config
  | .object fields => ofFields? fields
  | .list items =>
    if items.length ≤ fieldNames.length then ofFields? (fieldNames.zip items) else none
  | _ => none

end SqlRecords.Config
