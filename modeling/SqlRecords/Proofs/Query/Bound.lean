import SqlRecords.Proofs.Sql.Fragments
import SqlRecords.Query.Write

/-! The values of a query that are bound and not written into the text: operands and members that
are marked so, the bounds of BETWEEN, the values of a write that is marked so. They are listed in
the order in which a statement writes them, at every depth, and replaced one by one. -/
namespace SqlRecords

mutual

/-- The bound values of a SELECT: those of the weights, then of the source, then of each join, then
of the predicate. -/
def Query.boundValues : Query → List Value
  | ⟨_, _, source, _, _, _, joins, predicate, weights, _, _, _, _, _, _⟩ =>
    Weight.allBoundValues weights ++ Source.anyBoundValues source ++ Join.allBoundValues joins
      ++ Token.allBoundValues predicate

def Source.anyBoundValues : Option Source → List Value
  | none => []
  | some source => source.boundValues

def Source.boundValues : Source → List Value
  | .table _ => []
  | .derived query _ => query.boundValues

def Members.boundValues : Members → List Value
  | .values values bound => if bound then values else []
  | .rows query => query.boundValues

def Token.boundValues : Token → List Value
  | .compare _ _ v bound => if bound then [v] else []
  | .membership _ _ members => members.boundValues
  | .between _ low high => [low, high]
  | .nullness .. | .connector _ | .opening | .closing => []

def Token.allBoundValues : List Token → List Value
  | [] => []
  | t :: rest => t.boundValues ++ Token.allBoundValues rest

/-- The target comes before ON. -/
def Join.boundValues : Join → List Value
  | ⟨_, target, on⟩ => target.boundValues ++ Token.allBoundValues on

def Join.allBoundValues : List Join → List Value
  | [] => []
  | j :: rest => j.boundValues ++ Join.allBoundValues rest

def Weight.boundValues : Weight → List Value
  | ⟨predicate, _, otherwise⟩ => Token.allBoundValues predicate ++ otherwise.boundValues

def Otherwise.boundValues : Otherwise → List Value
  | .score _ => []
  | .weight w => w.boundValues

def Weight.allBoundValues : List Weight → List Value
  | [] => []
  | w :: rest => w.boundValues ++ Weight.allBoundValues rest

end

/-- The bound values of an INSERT, row by row in the order of the columns. -/
def Payload.insertedValues (rows : List (Fields Value)) (bound : Bool) : List Value :=
  if bound then rows.flatMap fun row => (insertColumns rows).filterMap row.get? else []

/-- The bound values of an UPDATE. -/
def Payload.assignedValues (values : Fields Value) (bound : Bool) : List Value :=
  if bound then values.map (·.2) else []

def Payload.mapBound (f : Value → Value) : Payload → Payload
  | .insert rows bound => .insert (rows.map (.mapValues fun v => if bound then f v else v)) bound
  | .update values bound => .update (values.mapValues fun v => if bound then f v else v) bound

mutual

/-- The same query with other bound values, at every depth. -/
def Query.mapBound (f : Value → Value) : Query → Query
  | q@⟨_, _, source, _, _, _, joins, predicate, weights, _, _, _, _, payload, _⟩ =>
    { q with
      source := Source.mapAnyBound f source
      joins := Join.mapAllBound f joins
      predicate := Token.mapAllBound f predicate
      weights := Weight.mapAllBound f weights
      payload := payload.map (.mapBound f) }

def Source.mapAnyBound (f : Value → Value) : Option Source → Option Source
  | none => none
  | some source => some (source.mapBound f)

def Source.mapBound (f : Value → Value) : Source → Source
  | .table name => .table name
  | .derived query label => .derived (query.mapBound f) label

def Members.mapBound (f : Value → Value) : Members → Members
  | .values values bound => .values (values.map fun v => if bound then f v else v) bound
  | .rows query => .rows (query.mapBound f)

def Token.mapBound (f : Value → Value) : Token → Token
  | .compare field comparison v bound => .compare field comparison (if bound then f v else v) bound
  | .nullness field isNull => .nullness field isNull
  | .membership field negated members => .membership field negated (members.mapBound f)
  | .between field low high => .between field (f low) (f high)
  | .connector c => .connector c
  | .opening => .opening
  | .closing => .closing

def Token.mapAllBound (f : Value → Value) : List Token → List Token
  | [] => []
  | t :: rest => t.mapBound f :: Token.mapAllBound f rest

def Join.mapBound (f : Value → Value) : Join → Join
  | ⟨kind, target, on⟩ => ⟨kind, target.mapBound f, Token.mapAllBound f on⟩

def Join.mapAllBound (f : Value → Value) : List Join → List Join
  | [] => []
  | j :: rest => j.mapBound f :: Join.mapAllBound f rest

def Weight.mapBound (f : Value → Value) : Weight → Weight
  | ⟨predicate, score, otherwise⟩ => ⟨Token.mapAllBound f predicate, score, otherwise.mapBound f⟩

def Otherwise.mapBound (f : Value → Value) : Otherwise → Otherwise
  | .score x => .score x
  | .weight w => .weight (w.mapBound f)

def Weight.mapAllBound (f : Value → Value) : List Weight → List Weight
  | [] => []
  | w :: rest => w.mapBound f :: Weight.mapAllBound f rest

end

end SqlRecords
