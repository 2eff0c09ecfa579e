import SqlRecords.Config.Basic
import SqlRecords.Pool.Basic
import SqlRecords.PoolError
import SqlRecords.Query.Basic
import SqlRecords.Text.Description

/-! Named data sources, their pools, and operations on them that may fail. -/
namespace SqlRecords

/-- Opens a pool for a configuration. -/
abbrev Backend (π : Type) := Config → Except Failure π

/-- A pool that was opened, for the engine of the configuration at that time. -/
structure OpenedPool (π : Type) where
  source : String
  engine : Engine
  pool : π

structure Database (π : Type) where
  configs : Fields Config
  backends : List (Engine × Backend π)
  /-- Every pool that was opened, in order, also after it was evicted. -/
  opened : List (OpenedPool π)
  /-- For each data source with an open pool, the position of that pool in `opened`. -/
  registry : Fields Nat

/-- An operation on a database. What it changed before it failed stays changed. -/
abbrev Session (π : Type) := ExceptT Failure (StateM (Database π))

namespace Database
variable {π : Type}

def empty (backends : List (Engine × Backend π)) : Database π := ⟨[], backends, [], []⟩

def config? (db : Database π) (source : String) : Option Config := db.configs.get? source

def isOpen (db : Database π) (source : String) : Bool := db.registry.contains source

/-- The pool now registered for a data source. -/
def openPool? (db : Database π) (source : String) : Option (OpenedPool π) :=
  (db.registry.get? source).bind fun i => db.opened[i]?

/-- The pool that was opened last for a data source, with its position. -/
def newest? (db : Database π) (source : String) : Option (OpenedPool π × Nat) :=
  db.opened.zipIdx.reverse.find? (·.1.source == source)

def newestPool? (db : Database π) (source : String) : Option (OpenedPool π) :=
  (db.newest? source).map (·.1)

/-- Names of the data sources, sorted. -/
def sourceNames (db : Database π) : List String := db.configs.keys.mergeSort (· ≤ ·)

def description (db : Database π) : String :=
  Text.described "Database" [("data_sources", Text.escapedList db.sourceNames)]

/-- Names the engines that have a backend. -/
def poolsDescription (db : Database π) : String :=
  Text.described "PoolRegistry" [("backends", Text.described "DatabaseBackendRegistry"
    [("engines", Text.bracketed (db.backends.map (·.1.label)))])]

def modifyPool (db : Database π) (i : Nat) (f : π → π) : Database π :=
  { db with opened := db.opened.modify i fun o => { o with pool := f o.pool } }

/-- Changes the pool that was opened last for a data source. -/
def modifyNewest (db : Database π) (source : String) (f : π → π) : Database π :=
  match db.newest? source with
  | some (_, i) => db.modifyPool i f
  | none => db

/-- Registers a pool for a data source in place of the one before. -/
def register (db : Database π) (source : String) (engine : Engine) (pool : π) : Database π :=
  { db with
    opened := db.opened ++ [⟨source, engine, pool⟩]
    registry := db.registry.insert source db.opened.length }

/-- Takes a pool out of the registry. -/
def evict (db : Database π) (source : String) : Database π :=
  { db with registry := db.registry.erase source }

end Database

namespace Session
variable {π : Type}

def ofExcept {α : Type} (e : Except Failure α) : Session π α := ExceptT.mk (pure e)

/-- Adds a configuration or replaces the one of that name. -/
def configure (c : Config) : Session π Unit :=
  match c.flaw? with
  | some e => throw e.failure
  | none => modify fun db => { db with configs := db.configs.insert c.name c }

def config (source : String) : Session π Config := do
  match (← get).config? source with
  | some c => return c
  | none => throw (PoolError.unknownSource source).failure

/-- A new query on a data source, in the dialect of its engine. -/
def query (source : String) : Session π Query :=
  (config source).map fun c => .empty c.engine.dialect (some source)

/-- Serves a data source from a pool that is already open. -/
def attach (c : Config) (pool : π) : Session π Unit := do
  configure c
  modify fun db => db.register c.name c.engine pool

/-- What opening a pool failed with. A configuration error stands as it is. -/
def openFailure (source : String) : Failure → Failure
  | .configuration m => .configuration m
  | f => (PoolError.creationFailed source f.text).failure

def openPool (c : Config) : Session π π := do
  match (← get).backends.lookup c.engine with
  | some backend =>
    match backend c with
    | .ok pool => return pool
    | .error f => throw (openFailure c.name f)
  | none =>
    throw (.configuration ("No backend registered for engine '" ++ c.engine.name
      ++ "' (data source '" ++ c.name ++ "')"))

/-- Position of the open pool for a configuration, which is opened on first use. -/
def poolFor (c : Config) : Session π Nat := do
  match (← get).registry.get? c.name with
  | some i => return i
  | none =>
    let p ← openPool c
    let db ← get
    set (db.register c.name c.engine p)
    return db.opened.length

def pool (source : String) : Session π Nat := do poolFor (← config source)

/-- Runs an operation of the pool at a position. -/
def onPool [Inhabited α] (i : Nat) (f : π → α × π) : Session π α := do
  let db ← get
  match db.opened[i]? with
  | none => return default
  | some o =>
    let (result, p) := f o.pool
    set (db.modifyPool i fun _ => p)
    return result

/-- Closes the pool at a position. -/
def closeAt [Pool π] (i : Nat) : Session π Unit := do ofExcept (← onPool i Pool.close)

/-- Evicts a pool and closes it; tells whether there was one. -/
def close [Pool π] (source : String) : Session π Bool := do
  match (← get).registry.get? source with
  | none => return false
  | some i =>
    modify (·.evict source)
    closeAt i
    return true

/-- Takes all pools out of the registry. -/
def evictAll : Session π (List Nat) := do
  let db ← get
  set { db with registry := [] }
  return db.registry.map (·.2)

/-- Closes pools one after another, up to the first that fails to close. -/
def closeEach [Pool π] (positions : List Nat) : Session π Unit := positions.forM closeAt

/-- Evicts all pools and closes them. -/
def closeAll [Pool π] : Session π Unit := do closeEach (← evictAll)

/-- Evicts all pools and closes them in an order that the registry chooses. -/
def closeAllIn [Pool π] (order : List Nat → List Nat) : Session π Unit := do
  closeEach (order (← evictAll))

end Session
end SqlRecords
