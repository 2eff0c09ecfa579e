import SqlRecords.Proofs.Model.BatchScope
import SqlRecords.Proofs.Model.EagerLoading
import SqlRecords.Proofs.Query.Parameters
import SqlRecords.Proofs.Session.Recording

/-! The levels of a path and what they ask. A level asks for the keys of the models that wait for
the relation, by one statement, and does not ask if no model waits. -/
namespace SqlRecords

theorem mem_of_mem_eraseDupsBy {α : Type} {r : α → α → Bool} {a : α} {as : List α}
    (h : a ∈ as.eraseDupsBy r) : a ∈ as := by
  have hloop : ∀ kept, a ∈ List.eraseDupsBy.loop r as kept → a ∈ as ∨ a ∈ kept := by
    clear h
    induction as with
    | nil => exact fun kept hmem => .inr (List.mem_reverse.mp hmem)
    | cons b as ih =>
      intro kept hmem
      rw [List.eraseDupsBy.loop] at hmem
      split at hmem
      · exact (ih kept hmem).imp_left (List.mem_cons_of_mem b)
      · obtain has | hkept := ih (b :: kept) hmem
        · exact .inl (List.mem_cons_of_mem b has)
        · obtain rfl | hkept := List.mem_cons.mp hkept
          · exact .inl List.mem_cons_self
          · exact .inr hkept
  exact (hloop [] h).resolve_right List.not_mem_nil

/-- One level of a path as it is about to be loaded: a segment, the models that are there, their
relation of that name and what changes the query on it. -/
structure Level where
  name : String
  models : List Model
  relation : Relation
  customizer : Option Customizer

/-- Whether a model waits for a relation: it has a key, and nothing is loaded under the name. -/
def Model.waits (name : String) (m : Model) : Bool := !m.isLoaded name && !m.key.isNull

namespace ModelSet

theorem distinctKeys_eq (keys : List Json) :
    distinctKeys keys = keys.eraseDupsBy fun a b => keyText a == keyText b := by
  -- The fold adds keys at the end, the loop of the library before all others.
  have hloop : ∀ acc : List Json,
      keys.foldl (fun acc k => if acc.any (keyText · == keyText k) then acc else acc ++ [k]) acc =
        List.eraseDupsBy.loop (fun a b => keyText a == keyText b) keys acc.reverse := by
    induction keys with
    | nil => intro acc; exact (List.reverse_reverse acc).symm
    | cons key rest ih =>
      intro acc
      have hany : (acc.reverse.any fun k => keyText key == keyText k) =
          acc.any (keyText · == keyText key) := by
        rw [List.any_reverse]
        simp only [Bool.beq_comm]
      rw [List.foldl_cons, List.eraseDupsBy.loop, hany]
      cases acc.any (keyText · == keyText key) with
      | true => exact ih acc
      | false => simpa using ih (acc ++ [key])
  exact hloop []

theorem pendingKeys_eq (s : ModelSet) (name : String) :
    s.pendingKeys name = ((s.models.filter (Model.waits name)).map Model.key).eraseDupsBy fun a b =>
      keyText a == keyText b := by
  unfold pendingKeys
  rw [distinctKeys_eq, List.filter_map, List.filter_filter]
  congr 2
  refine List.filter_congr fun m _ => ?_
  exact Bool.and_comm _ _

theorem isEmpty_pendingKeys (s : ModelSet) (name : String) :
    (s.pendingKeys name).isEmpty = !s.models.any (Model.waits name) := by
  rw [pendingKeys_eq]
  cases hw : s.models.filter (Model.waits name) with
  | nil =>
    have hnone : s.models.any (Model.waits name) = false := by
      simpa [List.filter_eq_nil_iff] using hw
    rw [hnone]
    rfl
  | cons m rest =>
    have hm : m ∈ s.models.filter (Model.waits name) := by rw [hw]; exact List.mem_cons_self
    have hsome : s.models.any (Model.waits name) = true :=
      List.any_eq_true.mpr ⟨m, List.mem_filter.mp hm⟩
    rw [hsome, List.map_cons, List.eraseDupsBy_cons]
    rfl

end ModelSet

theorem Query.params_of_selectStatement {q : Query} {s : Statement}
    (h : q.selectStatement = .ok s) : s.params = q.boundValues.filter (!·.isNull) := by
  have hstatement : q.statement .select = .ok s := h
  obtain ⟨draft, hdraft, rfl⟩ := draft_of_statement hstatement
  exact congrArg (List.filter (!·.isNull)) (draft_slots hdraft)

namespace Level

/-- The keys of the models that wait, in the order of the models and each text once. -/
def keys (l : Level) : List Json :=
  ((l.models.filter (Model.waits l.name)).map Model.key).eraseDupsBy fun a b =>
    keyText a == keyText b

/-- All rows of the related table, in the dialect of its data source. -/
def relatedRows (l : Level) (c : Config) : Query :=
  (Query.empty c.engine.dialect (some l.relation.related.dataSource)).table l.relation.related.table

/-- The query on the related rows of the models that wait. -/
def query? (l : Level) (configs : Fields Config) : Option Query :=
  (configs.get? l.relation.related.dataSource).map fun c =>
    l.relation.scope (Relation.customize l.customizer (l.relatedRows c)) l.keys

/-- The statement of a level, if a model waits. -/
def statement? (l : Level) (configs : Fields Config) : Option Statement :=
  if l.keys.isEmpty then none else (l.query? configs).bind fun q => q.selectStatement.toOption

theorem keys_eq_pendingKeys (l : Level) :
    l.keys = (ModelSet.ofList l.models).pendingKeys l.name := by
  rw [ModelSet.pendingKeys_eq, ModelSet.models_ofList, keys]

/-- Only keys of models that wait are asked for. -/
theorem isNull_of_mem_keys {l : Level} {key : Json} (h : key ∈ l.keys) : key.isNull = false := by
  obtain ⟨m, hm, rfl⟩ := List.mem_map.mp (mem_of_mem_eraseDupsBy h)
  have hwaits := (List.mem_filter.mp hm).2
  simp only [Model.waits, Bool.and_eq_true, Bool.not_eq_true'] at hwaits
  exact hwaits.2

/-- A statement is the SELECT of its level. The clause on the parents is the last of the predicate, and
the keys of the models that wait are the last parameters; without a customizer there are no others. -/
def BindsKeys (l : Level) (configs : Fields Config) (s : Statement) : Prop :=
  ∃ q before earlier, l.query? configs = some q ∧ q.selectStatement = .ok s ∧
    q.predicate = before ++ [l.relation.scopeClause l.keys] ∧
    s.params = earlier ++ l.keys.map .ofJson ∧
    (l.customizer = none → before = [] ∧ earlier = [])

theorem bindsKeys_of_statement {l : Level} {configs : Fields Config} {s : Statement}
    (h : l.statement? configs = some s) : l.BindsKeys configs s := by
  unfold statement? at h
  cases hempty : l.keys.isEmpty with
  | true => rw [hempty] at h; cases h
  | false =>
  rw [hempty] at h
  obtain ⟨q, hq, hs⟩ := Option.bind_eq_some_iff.mp h
  cases hselect : q.selectStatement with
  | error e => rw [hselect] at hs; cases hs
  | ok s' =>
  rw [hselect] at hs
  cases Option.some.inj hs
  have hquery := hq
  unfold query? at hquery
  obtain ⟨c, -, rfl⟩ := Option.map_eq_some_iff.mp hquery
  have hkeys : (l.keys.map Value.ofJson).filter (!·.isNull) = l.keys.map .ofJson := by
    refine List.filter_eq_self.mpr fun v hv => ?_
    obtain ⟨key, hkey, rfl⟩ := List.mem_map.mp hv
    rw [Value.isNull_ofJson, isNull_of_mem_keys hkey]
    rfl
  refine ⟨_, _, (Relation.customize l.customizer (l.relatedRows c)).boundValues.filter (!·.isNull),
    hq, hselect, l.relation.predicate_scope _ _, ?_, ?_⟩
  · rw [Query.params_of_selectStatement hselect, Relation.boundValues_scope, List.filter_append,
      hkeys]
  · intro hnone
    rw [hnone]
    exact ⟨rfl, rfl⟩

end Level

/-- Levels send their statements, one after another, and nothing else is sent. A level has a
statement exactly if one of its models waits. -/
structure Sent {π : Type} (levels : List Level) (db db' : Database (Recorded π)) : Prop where
  sends : ∃ sent, db.Sends sent db' ∧
    sent.map Database.Sending.statement = levels.filterMap (·.statement? db.configs)
  asks : ∀ l ∈ levels, (l.statement? db.configs).isSome = l.models.any (Model.waits l.name)

namespace Sent
variable {π : Type} {levels levels' : List Level} {db mid db' : Database (Recorded π)}

theorem nil (db : Database (Recorded π)) : Sent [] db db :=
  ⟨⟨[], .refl db, rfl⟩, fun _ hl => absurd hl List.not_mem_nil⟩

theorem append (h : Sent levels db mid) (h' : Sent levels' mid db') :
    Sent (levels ++ levels') db db' := by
  obtain ⟨⟨first, hfirst, htexts⟩, hasks⟩ := h
  obtain ⟨⟨second, hsecond, htexts'⟩, hasks'⟩ := h'
  rw [hfirst.configs] at htexts' hasks'
  refine ⟨⟨first ++ second, hfirst.trans hsecond, ?_⟩, fun l hl => ?_⟩
  · rw [List.map_append, List.filterMap_append, htexts, htexts']
  · obtain hl | hl := List.mem_append.mp hl
    · exact hasks l hl
    · exact hasks' l hl

theorem isFresh (h : Sent levels db db') (hdb : db.IsFresh) : db'.IsFresh := by
  obtain ⟨sent, hsends, -⟩ := h.sends
  exact hsends.isFresh hdb

end Sent

namespace ModelSet

/-- The levels of a path, the top one first. Each has the related models of the one above it, as
they are once that one is loaded, and only the last segment is customized. There are no levels below
one without models. -/
inductive Descends (schemas : Schemas) (customizer : Option Customizer) :
    List String → List Model → List Model → List Level → Prop
  | done (models : List Model) : Descends schemas customizer [] models models []
  | empty (segments : List String) : Descends schemas customizer segments [] [] []
  | level {name : String} {rest : List String} {first : Model} {others after : List Model}
      {r : Relation} {answer : Option Answer} {own : Option Customizer} {below : List Level}
      (hrelation : first.relation schemas name = .ok r)
      (hcustomizer : own = if rest.isEmpty then customizer else none)
      (hanswer : answer.isSome = (first :: others).any (Model.waits name))
      (hmodels : List.Forall₂ (fun m m' => m.Gains name (m.held name answer) m')
        (first :: others) after)
      (hbelow : Descends schemas customizer rest
        ((first :: others).flatMap fun m => (m.held name answer).elim [] Loaded.models)
        (after.flatMap fun m => (m.loaded? name).elim [] Loaded.models) below) :
      Descends schemas customizer (name :: rest) (first :: others) after
        (⟨name, first :: others, r, own⟩ :: below)

/-- The levels follow the segments of the path, at most one for each. -/
theorem Descends.prefix_segments {schemas : Schemas} {customizer : Option Customizer}
    {segments : List String} {before after : List Model} {levels : List Level}
    (h : Descends schemas customizer segments before after levels) :
    levels.map Level.name <+: segments := by
  induction h with
  | done => exact List.nil_prefix
  | empty => exact List.nil_prefix
  | level _ _ _ _ _ ih => exact (List.prefix_cons_inj _).mpr ih

end ModelSet

namespace Relation
variable {π : Type} [Pool π]

/-- What is asked for parents is determined, and so is what it leaves. -/
theorem Asks.unique {r : Relation} {pending : List Json} {customizer : Option Customizer}
    {db mid mid' : Database π} {answer answer' : Option Answer}
    (h : r.Asks pending customizer db answer mid) (h' : r.Asks pending customizer db answer' mid') :
    answer = answer' ∧ mid = mid' := by
  cases h with
  | nothing hpending =>
    cases h' with
    | nothing _ => exact ⟨rfl, rfl⟩
    | statement hne _ _ _ => exact absurd hpending hne
  | statement hne hquery hrows _ =>
    cases h' with
    | nothing hpending => exact absurd hpending hne
    | statement _ hquery' hrows' _ =>
      obtain ⟨rfl, rfl⟩ := hquery.unique hquery'
      obtain ⟨rfl, rfl⟩ := hrows.unique hrows'
      exact ⟨rfl, rfl⟩

/-- There is an answer exactly if a model waits. -/
theorem Asks.isSome_eq {r : Relation} {models : List Model} {name : String}
    {customizer : Option Customizer} {db db' : Database π} {answer : Option Answer}
    (h : r.Asks (ModelSet.pendingKeys (.ofList models) name) customizer db answer db') :
    answer.isSome = models.any (Model.waits name) := by
  have hempty := ModelSet.isEmpty_pendingKeys (.ofList models) name
  rw [ModelSet.models_ofList] at hempty
  cases h with
  | nothing hpending =>
    rw [hpending, List.isEmpty_nil, Bool.true_eq, Bool.not_eq_true'] at hempty
    exact hempty.symm
  | statement hpending _ _ _ =>
    rw [List.isEmpty_eq_false_iff.mpr hpending, Bool.false_eq, Bool.not_eq_false'] at hempty
    exact hempty.symm

/-- A level sends its statement. -/
theorem Asks.sent {l : Level} {db db' : Database (Recorded π)} {answer : Option Answer}
    (hdb : db.IsFresh)
    (h : l.relation.Asks (ModelSet.pendingKeys (.ofList l.models) l.name) l.customizer db answer
      db') : Sent [l] db db' := by
  have hanswer := h.isSome_eq
  rw [← l.keys_eq_pendingKeys] at h
  cases h with
  | nothing hkeys =>
    have hnone : l.statement? db.configs = none := by
      rw [Level.statement?, hkeys]
      rfl
    refine ⟨⟨[], .refl db, ?_⟩, ?_⟩
    · rw [List.filterMap_cons, hnone]
      rfl
    · intro l' hl'
      rw [List.mem_singleton.mp hl', hnone, ← hanswer]
      rfl
  | statement hkeys hquery hrows _ =>
    obtain ⟨base, hbase, rfl⟩ := yields_queryFor.mp hquery
    obtain ⟨c, hc, rfl, rfl⟩ := yields_relatedQuery.mp hbase
    obtain ⟨i, s, hs, hsends⟩ := Query.sends_fetch hdb hrows
    have hstatement : l.statement? db.configs = some s := by
      have hquery? : l.query? db.configs = some (l.relation.scope
          (customize l.customizer (l.relatedRows c)) l.keys) :=
        congrArg (Option.map _) hc
      rw [Level.statement?, List.isEmpty_eq_false_iff.mpr hkeys, hquery?]
      exact congrArg Except.toOption hs
    refine ⟨⟨_, hsends, ?_⟩, ?_⟩
    · rw [List.filterMap_cons, hstatement]
      rfl
    · intro l' hl'
      rw [List.mem_singleton.mp hl', hstatement, ← hanswer]
      rfl

end Relation

namespace ModelSet
variable {π : Type} [Pool π]

theorem Loads.of_nil {schemas : Schemas} {customizer : Option Customizer}
    {before after : List Model} {db db' : Database π}
    (h : Loads schemas customizer [] before after db db') : before = after ∧ db = db' := by
  cases h <;> exact ⟨rfl, rfl⟩

/-- Two runs of a path that differ in what is customized have their levels in common but for the
last segment, and each sends the statements of its levels. -/
theorem Loads.descends {schemas : Schemas} {c c' : Option Customizer} {segments : List String}
    {before after after' : List Model} {db db₁ db₂ : Database (Recorded π)} (hdb : db.IsFresh)
    (h : Loads schemas c segments before after db db₁)
    (h' : Loads schemas c' segments before after' db db₂) :
    ∃ above last last', last.length ≤ 1 ∧ last'.length ≤ 1 ∧
      (last ++ last' ≠ [] → above.length + 1 = segments.length) ∧
      (Descends schemas c segments before after (above ++ last) ∧ Sent (above ++ last) db db₁) ∧
      Descends schemas c' segments before after' (above ++ last') ∧
      Sent (above ++ last') db db₂ := by
  induction h generalizing after' db₂ with
  | done models db =>
    obtain ⟨rfl, rfl⟩ := h'.of_nil
    have hnone : Descends schemas c [] models models [] ∧ Sent [] db db := ⟨.done _, .nil db⟩
    exact ⟨[], [], [], Nat.zero_le _, Nat.zero_le _, absurd rfl, hnone, .done _, hnone.2⟩
  | empty segments db =>
    have hnone : after' = [] ∧ db₂ = db := by cases h' <;> exact ⟨rfl, rfl⟩
    obtain ⟨rfl, rfl⟩ := hnone
    have hsent : Sent [] db₂ db₂ := .nil db₂
    exact ⟨[], [], [], Nat.zero_le _, Nat.zero_le _, absurd rfl, ⟨.empty _, hsent⟩, .empty _, hsent⟩
  | @level name rest first others after r answer db mid db₁ hrelation hasks hmodels hbelow ih =>
    cases h' with
    | @level _ _ _ _ _ r' answer' _ mid' _ hrelation' hasks' hmodels' hbelow' =>
    cases Except.ok.inj (hrelation.symm.trans hrelation')
    have hsent :=
      hasks.sent (l := ⟨name, first :: others, r, if rest.isEmpty then c else none⟩) hdb
    have hsent' :=
      hasks'.sent (l := ⟨name, first :: others, r, if rest.isEmpty then c' else none⟩) hdb
    cases rest with
    | nil =>
      obtain ⟨hrelated, rfl⟩ := hbelow.of_nil
      obtain ⟨hrelated', rfl⟩ := hbelow'.of_nil
      refine ⟨[], [_], [_], Nat.le_refl 1, Nat.le_refl 1, fun _ => rfl, ⟨?_, hsent⟩, ?_, hsent'⟩
      · exact .level hrelation rfl hasks.isSome_eq hmodels (hrelated ▸ .done _)
      · exact .level hrelation' rfl hasks'.isSome_eq hmodels' (hrelated' ▸ .done _)
    | cons next rest =>
      -- The segment is not the last, so both runs ask the same here.
      obtain ⟨rfl, rfl⟩ := hasks.unique hasks'
      obtain ⟨above, last, last', hlast, hlast', hlength, ⟨hdescends, hrest⟩, hdescends', hrest'⟩ :=
        ih (hsent.isFresh hdb) hbelow'
      refine ⟨_ :: above, last, last', hlast, hlast', fun hne => ?_, ⟨?_, hsent.append hrest⟩, ?_,
        hsent.append hrest'⟩
      · exact congrArg (· + 1) (hlength hne)
      · exact .level hrelation rfl hasks.isSome_eq hmodels hdescends
      · exact .level hrelation' rfl hasks'.isSome_eq hmodels' hdescends'

/-- The levels of paths that are loaded one after another. -/
inductive DescendsAll (schemas : Schemas) :
    List RelationPath → List Model → List Model → List (List Level) → Prop
  | nil (models : List Model) : DescendsAll schemas [] models models []
  | cons {p : RelationPath} {paths : List RelationPath} {before between after : List Model}
      {levels : List Level} {traces : List (List Level)}
      (hpath : Descends schemas p.customizer p.segments before between levels)
      (hpaths : DescendsAll schemas paths between after traces) :
      DescendsAll schemas (p :: paths) before after (levels :: traces)

theorem DescendsAll.prefix_segments {schemas : Schemas} {paths : List RelationPath}
    {before after : List Model} {traces : List (List Level)}
    (h : DescendsAll schemas paths before after traces) :
    List.Forall₂ (fun levels p => levels.map Level.name <+: p.segments) traces paths := by
  induction h with
  | nil => exact .nil
  | cons hpath _ ih => exact .cons hpath.prefix_segments ih

theorem DescendsAll.append {schemas : Schemas} {paths paths' : List RelationPath}
    {before between after : List Model} {traces traces' : List (List Level)}
    (h : DescendsAll schemas paths before between traces)
    (h' : DescendsAll schemas paths' between after traces') :
    DescendsAll schemas (paths ++ paths') before after (traces ++ traces') := by
  induction h with
  | nil => exact h'
  | cons hpath _ ih => exact .cons hpath (ih h')

theorem loadPaths_cons_ok {schemas : Schemas} {p : RelationPath} {paths : List RelationPath}
    {s s' : ModelSet} {db db' : Database π}
    (h : (loadPaths schemas (p :: paths) s).run db = ((.ok (), s'), db')) :
    ∃ between mid,
      (loadSegments schemas p.customizer p.segments s).run db = ((.ok (), between), mid) ∧
      (loadPaths schemas paths between).run mid = ((.ok (), s'), db') := by
  rw [loadPaths_cons] at h
  cases hrun : (loadSegments schemas p.customizer p.segments s).run db with
  | mk result mid =>
  rw [hrun] at h
  obtain ⟨outcome, between⟩ := result
  cases outcome with
  | error f => cases h
  | ok u => exact ⟨between, mid, rfl, h⟩

/-- Paths that are loaded send the statements of their levels. -/
theorem loadPaths_descends {schemas : Schemas} {paths : List RelationPath} {s s' : ModelSet}
    {db db' : Database (Recorded π)} (hdb : db.IsFresh)
    (h : (loadPaths schemas paths s).run db = ((.ok (), s'), db')) :
    ∃ traces, DescendsAll schemas paths s.models s'.models traces ∧ Sent traces.flatten db db' := by
  induction paths generalizing s db with
  | nil =>
    obtain ⟨hs, rfl⟩ := Prod.mk.inj h
    obtain ⟨-, rfl⟩ := Prod.mk.inj hs
    exact ⟨[], .nil _, .nil _⟩
  | cons p paths ih =>
    obtain ⟨between, mid, hpath, hpaths⟩ := loadPaths_cons_ok h
    obtain ⟨hloads, -⟩ := loadSegments_loads hpath
    obtain ⟨above, last, -, -, -, -, ⟨hdescends, hsent⟩, -⟩ := hloads.descends hdb hloads
    obtain ⟨traces, hall, hrest⟩ := ih (hsent.isFresh hdb) hpaths
    exact ⟨(above ++ last) :: traces, .cons hdescends hall, hsent.append hrest⟩

end ModelSet
end SqlRecords
