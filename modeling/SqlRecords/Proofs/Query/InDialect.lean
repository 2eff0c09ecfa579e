import SqlRecords.Proofs.Query.Nesting

/-! A query with all the queries inside it made for one dialect. -/
namespace SqlRecords

mutual

/-- The same query for another dialect, at every depth. -/
def Query.inDialect (d : Dialect) : Query → Query
  | q@⟨_, _, source, _, _, _, joins, predicate, weights, _, _, _, _, _, _⟩ =>
    { q with
      dialect := d
      source := Source.anyInDialect d source
      joins := Join.allInDialect d joins
      predicate := Token.allInDialect d predicate
      weights := Weight.allInDialect d weights }

def Source.anyInDialect (d : Dialect) : Option Source → Option Source
  | none => none
  | some source => some (source.inDialect d)

def Source.inDialect (d : Dialect) : Source → Source
  | .table name => .table name
  | .derived query label => .derived (query.inDialect d) label

def Members.inDialect (d : Dialect) : Members → Members
  | .values values bound => .values values bound
  | .rows query => .rows (query.inDialect d)

def Token.inDialect (d : Dialect) : Token → Token
  | .membership field negated members => .membership field negated (members.inDialect d)
  | .compare field comparison v bound => .compare field comparison v bound
  | .nullness field isNull => .nullness field isNull
  | .between field low high => .between field low high
  | .connector c => .connector c
  | .opening => .opening
  | .closing => .closing

def Token.allInDialect (d : Dialect) : List Token → List Token
  | [] => []
  | t :: rest => t.inDialect d :: Token.allInDialect d rest

def Join.inDialect (d : Dialect) : Join → Join
  | ⟨kind, target, on⟩ => ⟨kind, target.inDialect d, Token.allInDialect d on⟩

def Join.allInDialect (d : Dialect) : List Join → List Join
  | [] => []
  | j :: rest => j.inDialect d :: Join.allInDialect d rest

def Weight.inDialect (d : Dialect) : Weight → Weight
  | ⟨predicate, score, otherwise⟩ =>
    ⟨Token.allInDialect d predicate, score, otherwise.inDialect d⟩

def Otherwise.inDialect (d : Dialect) : Otherwise → Otherwise
  | .score x => .score x
  | .weight w => .weight (w.inDialect d)

def Weight.allInDialect (d : Dialect) : List Weight → List Weight
  | [] => []
  | w :: rest => w.inDialect d :: Weight.allInDialect d rest

end

section
variable (d : Dialect)

theorem Token.allInDialect_eq (ts : List Token) : allInDialect d ts = ts.map (inDialect d) := by
  induction ts with
  | nil => rfl
  | cons t rest ih => exact congrArg (t.inDialect d :: ·) ih

theorem Join.allInDialect_eq (js : List Join) : allInDialect d js = js.map (inDialect d) := by
  induction js with
  | nil => rfl
  | cons j rest ih => exact congrArg (j.inDialect d :: ·) ih

theorem Weight.allInDialect_eq (ws : List Weight) : allInDialect d ws = ws.map (inDialect d) := by
  induction ws with
  | nil => rfl
  | cons w rest ih => exact congrArg (w.inDialect d :: ·) ih

theorem Source.anyInDialect_eq (source : Option Source) :
    anyInDialect d source = source.map (inDialect d) := by
  cases source <;> rfl

theorem Query.inDialect_eq (q : Query) :
    q.inDialect d = { q with
      dialect := d
      source := q.source.map (Source.inDialect d)
      joins := q.joins.map (Join.inDialect d)
      predicate := q.predicate.map (Token.inDialect d)
      weights := q.weights.map (Weight.inDialect d) } := by
  cases q
  simp only [inDialect, Source.anyInDialect_eq, Join.allInDialect_eq, Token.allInDialect_eq,
    Weight.allInDialect_eq]

/-! The queries inside stay where they are. -/

theorem Source.nested_inDialect (source : Source) :
    (source.inDialect d).nested = source.nested.map (Query.inDialect d) := by
  cases source <;> rfl

theorem Token.nested_inDialect (t : Token) :
    (t.inDialect d).nested = t.nested.map (Query.inDialect d) := by
  cases t with
  | membership field negated members => cases members <;> rfl
  | compare | nullness | between | connector | opening | closing => rfl

theorem flatMap_nested_map {α : Type} {nested : α → List Query} {f : α → α}
    (h : ∀ a, nested (f a) = (nested a).map (Query.inDialect d)) (items : List α) :
    (items.map f).flatMap nested = (items.flatMap nested).map (Query.inDialect d) := by
  rw [List.flatMap_map, List.map_flatMap]
  exact List.flatMap_congr fun a _ => h a

theorem Predicate.nested_inDialect (p : List Token) :
    nested (p.map (Token.inDialect d)) = (nested p).map (Query.inDialect d) :=
  flatMap_nested_map d (Token.nested_inDialect d) p

theorem Join.nested_inDialect (j : Join) :
    (j.inDialect d).nested = j.nested.map (Query.inDialect d) := by
  obtain ⟨kind, target, on⟩ := j
  rw [inDialect, nested, nested, Token.allInDialect_eq, Source.nested_inDialect,
    Predicate.nested_inDialect, List.map_append]

mutual

theorem Weight.nested_inDialect (w : Weight) :
    (w.inDialect d).nested = w.nested.map (Query.inDialect d) := by
  obtain ⟨predicate, score, otherwise⟩ := w
  rw [Weight.inDialect, Weight.nested, Weight.nested, Token.allInDialect_eq,
    Predicate.nested_inDialect, Otherwise.nested_inDialect otherwise, List.map_append]

theorem Otherwise.nested_inDialect (o : Otherwise) :
    (o.inDialect d).nested = o.nested.map (Query.inDialect d) := by
  match o with
  | .score x => rw [Otherwise.inDialect, Otherwise.nested]; rfl
  | .weight w => rw [Otherwise.inDialect, Otherwise.nested, Otherwise.nested,
      Weight.nested_inDialect w]

end

theorem Query.nested_inDialect (q : Query) :
    (q.inDialect d).nested = q.nested.map (Query.inDialect d) := by
  have hsource : (q.source.map (Source.inDialect d)).elim [] Source.nested =
      (q.source.elim [] Source.nested).map (Query.inDialect d) := by
    cases q.source with
    | none => rfl
    | some source => exact source.nested_inDialect d
  rw [inDialect_eq, nested, nested]
  simp only [flatMap_nested_map d (Weight.nested_inDialect d),
    flatMap_nested_map d (Join.nested_inDialect d), Predicate.nested_inDialect, hsource,
    List.map_append]

theorem Token.isClause_inDialect (t : Token) : (t.inDialect d).isClause = t.isClause := by
  cases t <;> rfl

theorem Predicate.hasClause_inDialect (p : List Token) :
    hasClause (p.map (Token.inDialect d)) = hasClause p := by
  unfold hasClause
  rw [List.any_map]
  congr 1
  funext t
  exact t.isClause_inDialect d

end

end SqlRecords
