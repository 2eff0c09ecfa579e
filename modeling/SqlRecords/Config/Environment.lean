import SqlRecords.Config.Document
import SqlRecords.Text.Numeral
import SqlRecords.Text.Uppercase

/-! Configurations from environment variables that share a name in front. -/
namespace SqlRecords.Config

/-- The variables that are set to a text; one whose value is no Unicode text counts as not set. -/
abbrev Environment := Fields String

/-- A variable that is set and not empty. -/
def Environment.given? (env : Environment) (name : String) : Option String :=
  (env.get? name).filter (· != "")

def Environment.required (env : Environment) (name : String) : Except ConfigError String :=
  match env.get? name with
  | some v => .ok v
  | none => .error (.missingVariable name)

/-- A numeral of at most `top`, if one is given. -/
def Environment.number (env : Environment) (name : String) (top : Nat) (expected : String) :
    Except ConfigError (Option Nat) :=
  match env.given? name with
  | none => .ok none
  | some raw =>
    match Text.unsigned? top raw with
    | some n => .ok (some n)
    | none => .error (.invalidValue name raw expected)

/-- Reads `ENGINE`, `PORT`, `MAX_CONNECTIONS`, `ACQUIRE_TIMEOUT`, `HOST`, `DATABASE`, `USER` and
`PASSWORD` after the given word, which is the name in capitals if none is given. -/
def ofEnvironment (env : Environment) (name : String) (word : Option String) :
    Except ConfigError Config := do
  let word := word.getD (Text.upper name)
  let spelled (suffix : String) := word ++ "_" ++ suffix
  let engineName ← env.required (spelled "ENGINE")
  let engine ← match Engine.parse? engineName with
    | some e => .ok e
    | none => .error (.invalidValue (spelled "ENGINE") engineName "mysql, mssql or postgres")
  let port ← env.number (spelled "PORT") topPort "a port number"
  let connections ← env.number (spelled "MAX_CONNECTIONS") topConnections "a positive integer"
  let seconds ← env.number (spelled "ACQUIRE_TIMEOUT") topSeconds "a number of seconds"
  let database ← env.required (spelled "DATABASE")
  let config : Config := {
    name := name
    engine := engine
    host := (env.given? (spelled "HOST")).getD "localhost"
    port := port
    database := database
    user := env.given? (spelled "USER")
    password := env.given? (spelled "PASSWORD")
    maxConnections := connections.getD defaultMaxConnections
    acquireTimeoutSeconds := seconds.getD defaultAcquireTimeout }
  config.validate
  return config

end SqlRecords.Config
