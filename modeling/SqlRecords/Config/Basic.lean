import SqlRecords.Engine
import SqlRecords.Failure
import SqlRecords.Json.Basic

/-! Connection configurations: one for each data source. -/
namespace SqlRecords

inductive ConfigError where
  | missingVariable (name : String)
  | invalidValue (field value expected : String)
  | invalidField (field reason : String)
  deriving DecidableEq, Repr

namespace ConfigError

def message : ConfigError → String
  | .missingVariable v => "Missing required environment variable: " ++ v
  | .invalidValue field value expected =>
    "Invalid value for " ++ field ++ ": '" ++ value ++ "', expected " ++ expected
  | .invalidField field reason => "Validation failed for " ++ field ++ ": " ++ reason

def failure (e : ConfigError) : Failure := .configuration e.message

end ConfigError

structure Config where
  /-- The data source that queries and schemas refer to. -/
  name : String
  engine : Engine
  host : String
  port : Option Nat
  database : String
  user : Option String
  password : Option String
  maxConnections : Nat
  acquireTimeoutSeconds : Nat
  deriving DecidableEq, Repr, Inhabited

namespace Config

def defaultMaxConnections : Nat := 10
def defaultAcquireTimeout : Nat := 30

def ofParts (name : String) (engine : Engine) (host database : String) : Config where
  name := name
  engine := engine
  host := host
  port := none
  database := database
  user := none
  password := none
  maxConnections := defaultMaxConnections
  acquireTimeoutSeconds := defaultAcquireTimeout

/-- The port to connect to. -/
def effectivePort (c : Config) : Nat := c.port.getD c.engine.defaultPort

/-- The first thing that is wrong with a configuration. -/
def flaw? (c : Config) : Option ConfigError :=
  if Text.isAllBlank c.name then
    some (.invalidField "name" "Connection name cannot be empty")
  else if Text.isAllBlank c.host then some (.invalidField "host" "Host cannot be empty")
  else if Text.isAllBlank c.database then
    some (.invalidField "database" "Database name cannot be empty")
  else if c.maxConnections = 0 then
    some (.invalidField "max_connections" "Pool must allow at least one connection")
  else none

def validate (c : Config) : Except ConfigError Unit :=
  match c.flaw? with
  | some e => .error e
  | none => .ok ()

end Config
end SqlRecords
