import SqlRecords.Model.Relation

/-! Loading relations of many models, one statement for each segment of a path. -/
namespace SqlRecords

/-- A path of relations, separated by points. A customizer changes the query of its last segment. -/
structure RelationPath where
  path : String
  customizer : Option Customizer

def RelationPath.segments (p : RelationPath) : List String := Text.splitAt '.' p.path

/-- Describes paths, each with whether it has a customizer. -/
def RelationPath.descriptions (paths : List RelationPath) : String :=
  Text.bracketed (paths.map fun p =>
    "(" ++ Text.escaped p.path ++ ", " ++ (if p.customizer.isSome then "true" else "false") ++ ")")

namespace Loaded

def models : Loaded → List Model
  | .one m => m.toList
  | .many ms => ModelSet.models ms

/-- Puts as many models from the front of a list as there were, and gives the rest. -/
def refill (l : Loaded) (models : List Model) : Loaded × List Model :=
  match l with
  | .one none => (.one none, models)
  | .one (some _) => (.one models.head?, models.tail)
  | .many ms => (.many (ModelSet.ofList (models.take ms.length)), models.drop ms.length)

end Loaded

namespace ModelSet

/-- Distinct keys of the models on which a relation is not loaded, as far as they have one. -/
def pendingKeys (s : ModelSet) (name : String) : List Json :=
  distinctKeys (((s.models.filter fun m => !m.isLoaded name).map Model.key).filter (!·.isNull))

/-- Attaches related models by their parents' keys wherever a relation is not loaded. -/
def attachGroups (s : ModelSet) (name : String) (r : Relation) (groups : Fields ModelSet) :
    ModelSet :=
  s.mapModels fun m =>
    if m.isLoaded name then m
    else m.attach name (r.loaded ((groups.get? (keyText m.key)).getD []))

/-- All models that are loaded under a name. -/
def relatedModels (s : ModelSet) (name : String) : List Model :=
  s.models.flatMap fun m => (m.loaded? name).elim [] Loaded.models

def detachAll (s : ModelSet) (name : String) : ModelSet := s.mapModels (·.detach name)

/-- Puts related models back, each model taking as many as it had, after its other relations. -/
def refill (name : String) : ModelSet → List Model → ModelSet
  | [], _ => []
  | (label, m) :: rest, related =>
    match m.loaded? name with
    | none => (label, m) :: refill name rest related
    | some l =>
      let (l, related) := l.refill related
      (label, (m.detach name).attach name l) :: refill name rest related

/-- Puts related models back on which more was loaded. After a failure none are there to be put
back. -/
def handBack (s : ModelSet) (name : String) :
    Except Failure Unit × ModelSet → Except Failure Unit × ModelSet
  | (.error f, _) => (.error f, s.detachAll name)
  | (.ok (), related) => (.ok (), s.refill name related.models)

variable {π : Type} [Pool π]

/-- Loads the relations along a path. The set that comes with a failure is what is left then: the
relations loaded so far stay, but those below which a segment failed are gone. -/
def loadSegments (schemas : Schemas) (customizer : Option Customizer) :
    List String → ModelSet → StateM (Database π) (Except Failure Unit × ModelSet)
  | [], s => return (.ok (), s)
  | name :: rest, s => do
    let some first := s.models.head? | return (.ok (), s)
    match first.relation schemas name with
    | .error f => return (.error f, s)
    | .ok r =>
      let pending := s.pendingKeys name
      match ← (r.resultsFor pending (if rest.isEmpty then customizer else none)).run with
      | .error f => return (.error f, s)
      | .ok groups =>
        let s := if pending.isEmpty then s else s.attachGroups name r groups
        if rest.isEmpty then return (.ok (), s)
        let below ← loadSegments schemas customizer rest (ModelSet.ofList (s.relatedModels name))
        return s.handBack name below

/-- Loads paths one after another, up to the first that fails. -/
def loadPaths (schemas : Schemas) :
    List RelationPath → ModelSet → StateM (Database π) (Except Failure Unit × ModelSet)
  | [], s => return (.ok (), s)
  | p :: paths, s => do
    match ← loadSegments schemas p.customizer p.segments s with
    | (.error f, s) => return (.error f, s)
    | (.ok (), s) => loadPaths schemas paths s

end ModelSet

/-- Loads paths of relations of one model. It stays as it is when a path fails. -/
def Model.loadPaths {π : Type} [Pool π] (m : Model) (schemas : Schemas)
    (paths : List RelationPath) : Session π Model := do
  let loading : StateM (Database π) _ := ModelSet.loadPaths schemas paths (ModelSet.ofList [m])
  let (outcome, s) ← loading
  Session.ofExcept outcome
  return (ModelSet.models s).head?.getD m

namespace Model
variable {π : Type}

/-- Attaches a relation and looks it up. -/
def attachInPlace (name : String) (l : Loaded) : Edit Model π Loaded := do
  modify fun m => m.attach name l
  match (← get).loaded? name with
  | some l => return l
  | none => throw (.relationship ("relation '" ++ name ++ "' was not attached"))

variable [Pool π]

/-- Reads a relation for a model and attaches it to the model itself. -/
def loadRelationInPlace (schemas : Schemas) (name : String) : Edit Model π Loaded := do
  let r ← Edit.onDatabase (Session.ofExcept ((← get).relation schemas name))
  let models ← Edit.onDatabase r.results
  attachInPlace name (r.loaded models)

/-- Loads paths on a set with a copy of a model; the model becomes the copy if all are loaded. -/
def loadPathsInPlace (schemas : Schemas) (paths : List RelationPath) : Edit Model π Unit := do
  let copied : StateM (Database π) _ := ModelSet.loadPaths schemas paths (.ofList [← get])
  let (outcome, s) ← Edit.onDatabase (liftM copied)
  Edit.onDatabase (Session.ofExcept outcome)
  match s.models.getLast? with
  | some loaded => modify fun _ => loaded
  | none => return ()

end Model
end SqlRecords
