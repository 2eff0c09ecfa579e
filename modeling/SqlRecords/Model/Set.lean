import SqlRecords.Model.Basic

/-! Sets of models in order. -/
namespace SqlRecords.ModelSet

/-- Adds a model at the end, under its current key. -/
def push (s : ModelSet) (m : Model) : ModelSet := s ++ [(keyText m.key, m)]

def ofList (models : List Model) : ModelSet := models.map fun m => (keyText m.key, m)

def models (s : ModelSet) : List Model := s.map (·.2)

@[simp] theorem models_ofList (ms : List Model) : (ofList ms).models = ms := by
  simp [ofList, models, Function.comp_def]

/-- The first model that was added under a key. -/
def get? (s : ModelSet) (key : Json) : Option Model := List.lookup (keyText key) s

/-- Changes the first model that was added under a key. It stays under that key. -/
def modify (s : ModelSet) (key : Json) (f : Model → Model) : ModelSet :=
  List.modify s (List.findIdx (·.1 == keyText key) s) fun (label, m) => (label, f m)

/-- Changes all models. They stay under their keys. -/
def mapModels (s : ModelSet) (f : Model → Model) : ModelSet := s.map fun (label, m) => (label, f m)

@[simp] theorem models_mapModels (s : ModelSet) (f : Model → Model) :
    (s.mapModels f).models = s.models.map f := by
  simp [mapModels, models, Function.comp_def]

/-- Keys in order of first appearance, told apart by their text. -/
def distinctKeys (keys : List Json) : List Json :=
  keys.foldl (fun acc k => if acc.any (keyText · == keyText k) then acc else acc ++ [k]) []

/-- The current keys of the models. -/
def keys (s : ModelSet) : List Json := distinctKeys (s.models.map Model.key)

def toJson (s : ModelSet) : Json := .list (Model.toJsons s)

end SqlRecords.ModelSet
