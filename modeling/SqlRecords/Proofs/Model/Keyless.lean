import SqlRecords.Proofs.Model.FailedLoading
import SqlRecords.Proofs.Model.Resolution

/-! Related rows of models that have no key. Keys are told apart by their text, and the text of null
is also that of the text `null`: a model without a key is handed the rows that name either. -/
namespace SqlRecords

namespace Decimal

theorem not_mem_toDigits {c : Char} (hc : c.isDigit = false) (n : Nat) :
    c ∉ Nat.toDigits 10 n := by
  intro hmem
  have hdigit := Nat.isDigit_of_mem_toDigits (by decide) (by decide) hmem
  exact Bool.noConfusion (hc.symm.trans hdigit)

/-- The texts of floats have no `u`. -/
theorem u_not_mem_text (r : Reading) (f : Format) : 'u' ∉ (compact.text f r).toList := by
  have hdigits (n : Nat) : 'u' ∉ Nat.toDigits 10 n := not_mem_toDigits (by decide) n
  have htake (n k : Nat) : 'u' ∉ (Nat.toDigits 10 n).take k :=
    fun h => hdigits n (List.take_subset k _ h)
  have hdrop (n k : Nat) : 'u' ∉ (Nat.toDigits 10 n).drop k :=
    fun h => hdigits n (List.drop_subset k _ h)
  have hpositional (s : Scientific) : 'u' ∉ (positionalText s ".0").toList := by
    unfold positionalText
    split
    · simp [hdigits, zeros, String.toList_append]
    · dsimp only
      split <;> simp [hdigits, htake, hdrop, zeros, String.toList_append]
  have hexponent (s : Scientific) : 'u' ∉ (exponentText s).toList := by
    unfold exponentText
    dsimp only
    have htail (n : Nat) : 'u' ∉ (Nat.toDigits 10 n).tail :=
      fun h => hdigits n (List.mem_of_mem_tail h)
    split <;> split <;> simp [hdigits, htake, htail, digitText, String.toList_append]
  have hmagnitude (s : Scientific) : 'u' ∉ (compact.magnitude s).toList := by
    unfold Layout.magnitude
    dsimp only [compact]
    split
    · exact hpositional s
    · exact hexponent s
  cases r with
  | nan => simp [Layout.text]
  | infinite negative => cases negative <;> simp [Layout.text]
  | finite negative mantissa exponent =>
    cases negative <;> simp [Layout.text, hmagnitude, String.toList_append]

end Decimal

/-- Only null and the text `null` have this text as a key. -/
theorem keyText_eq_null_iff (key : Json) :
    keyText key = "null" ↔ key = .null ∨ key = .text "null" := by
  -- Numbers have no `u` in their texts; lists and objects begin with their brackets.
  have hother {t : String} (h : 'u' ∉ t.toList) : t ≠ "null" := by
    rintro rfl
    exact h (by decide)
  have hopening {c : Char} {t : String} (h : t.toList.head? = some c) (hc : c ≠ 'n') :
      t ≠ "null" := by
    rintro rfl
    exact hc (Option.some.inj h).symm
  cases key with
  | null => simp [keyText, Json.render]
  | text s => simp [keyText]
  | bool b => cases b <;> simp [keyText, Json.render]
  | int n =>
    have hdigits (n : Nat) : 'u' ∉ Nat.toDigits 10 n := Decimal.not_mem_toDigits (by decide) n
    have hnumeral : 'u' ∉ (toString n).toList := by
      cases n with
      | ofNat n =>
        have htext : toString (Int.ofNat n) = n.repr := rfl
        rw [htext, Nat.toList_repr]
        exact hdigits n
      | negSucc n =>
        have htext : toString (Int.negSucc n) = "-" ++ (n + 1).repr := rfl
        simp [htext, hdigits]
    simpa [keyText, Json.render] using hother hnumeral
  | double x =>
    simpa [keyText, Json.render] using
      hother (t := Json.doubleText x) (Decimal.u_not_mem_text x.reading _)
  | list items =>
    have hhead : (keyText (.list items)).toList.head? = some '[' := by simp [keyText, Json.render]
    simpa using hopening hhead (by decide)
  | object fields =>
    have hhead : (keyText (.object fields)).toList.head? = some '\x7b' := by
      simp [keyText, Json.render]
    simpa using hopening hhead (by decide)

/-- Whether a row of an answer names null, or what has its text. -/
def Answer.NamesNull (a : Answer) : Prop :=
  ∃ row ∈ a.rows, row.get? a.relation.ownerColumn = some .null ∨
    row.get? a.relation.ownerColumn = some (.text "null")

namespace Model

/-- The models that a model has under a name. -/
def relatedTo (m : Model) (name : String) : List Model := (m.loaded? name).elim [] Loaded.models

theorem keyText_of_keyless {m : Model} (h : m.key.isNull = true) : keyText m.key = "null" := by
  refine (keyText_eq_null_iff m.key).mpr (.inl ?_)
  cases hkey : m.key with
  | null => rfl
  | _ =>
    rw [hkey] at h
    cases h

/-- A model without a key is answered by the rows that name null or its text. -/
theorem models_loaded_keyless_iff {a : Answer} {m : Model} (h : m.key.isNull = true) :
    (a.loaded m).models ≠ [] ↔ a.NamesNull := by
  have hshape : (a.loaded m).models ≠ [] ↔ a.modelsOf "null" ≠ [] := by
    unfold Answer.loaded
    rw [keyText_of_keyless h]
    split
    · cases a.modelsOf "null" <;> simp [Loaded.models]
    · simp [Loaded.models]
  rw [hshape, Answer.modelsOf, Answer.NamesNull]
  simp only [ne_eq, List.map_eq_nil_iff, List.filter_eq_nil_iff, beq_iff_eq,
    Option.map_eq_some_iff, keyText_eq_null_iff, not_forall, not_not]
  constructor
  · rintro ⟨row, hrow, owner, howner, rfl | rfl⟩
    · exact ⟨row, hrow, .inl howner⟩
    · exact ⟨row, hrow, .inr howner⟩
  · rintro ⟨row, hrow, howner | howner⟩
    · exact ⟨row, hrow, _, howner, .inl rfl⟩
    · exact ⟨row, hrow, _, howner, .inr rfl⟩

/-- What a model without a key and without a relation gets of a level that is loaded. -/
theorem Gains.relatedTo_keyless_iff {name : String} {answer : Option Answer} {m m' : Model}
    (h : m.Gains name (m.held name answer) m') (hkey : m.key.isNull = true)
    (hlacks : m.isLoaded name = false) :
    m'.relatedTo name ≠ [] ↔ ∃ a ∈ answer, a.NamesNull := by
  have hnone : m.loaded? name = none := Option.not_isSome_iff_eq_none.mp (by
    rw [← Bool.not_eq_true] at hlacks
    exact hlacks)
  have hrelated := h.related
  rw [held, hnone, Option.none_or] at hrelated
  unfold relatedTo
  cases answer with
  | none =>
    generalize m'.loaded? name = found at hrelated
    cases hrelated
    simp
  | some a =>
    generalize m'.loaded? name = found at hrelated
    cases hrelated with
    | some hsame =>
      have hlength := congrArg List.length hsame.2
      rw [List.length_map, List.length_map] at hlength
      simp only [Option.elim_some, Option.mem_some_iff, exists_eq_left',
        ← models_loaded_keyless_iff hkey, ← List.length_pos_iff, hlength]

theorem not_mem_relations {m : Model} {name : String} (h : m.isLoaded name = false) :
    name ∉ Fields.keys m.relations := by
  intro hmem
  exact Bool.eq_false_iff.mp h (Fields.isSome_get?_iff.mpr hmem)

/-- A model without a relation has nothing of it to take off. -/
theorem detach_of_not_isLoaded {m : Model} {name : String} (h : m.isLoaded name = false) :
    m.detach name = m := by
  have hothers := Fields.forall_ne_of_not_mem (not_mem_relations h)
  unfold detach
  rw [List.eraseP_of_forall_not hothers]
  rcases m with ⟨⟩
  rfl

/-- A relation that is taken off where it was attached leaves the model as it was. -/
theorem detach_attach {m : Model} {name : String} (h : m.isLoaded name = false) (l : Loaded) :
    (m.attach name l).detach name = m := by
  have hmissing := not_mem_relations h
  have herase : (Fields.insert m.relations name l).eraseP (·.1 == name) = m.relations := by
    rw [Fields.insert_of_not_mem hmissing,
      List.eraseP_append_right _ (Fields.forall_ne_of_not_mem hmissing)]
    simp
  unfold attach detach
  rw [herase]
  rcases m with ⟨⟩
  rfl

/-- Taking a relation off loads nothing. -/
theorem isLoaded_detach {m : Model} {other : String} (h : m.isLoaded other = false)
    (name : String) : (m.detach name).isLoaded other = false := by
  by_cases hother : other = name
  · subst hother
    rw [detach_of_not_isLoaded h, h]
  · rw [isLoaded, m.loaded?_detach_of_ne hother]
    exact h

end Model

/-- A level of a path that is loaded: its models before and after, and what was answered for those
that waited for the relation. -/
structure Stage where
  name : String
  before : List Model
  answer : Option Answer
  after : List Model

namespace Stage

/-- Whether models that have neither a key nor the relation get related models exactly if a row of
the answer names null or its text. -/
def GivesKeyless (stage : Stage) : Prop :=
  List.Forall₂ (fun m m' => m.key.isNull = true → m.isLoaded stage.name = false →
    (m'.relatedTo stage.name ≠ [] ↔ ∃ a ∈ stage.answer, a.NamesNull)) stage.before stage.after

/-- Whether the rows of the answer name only keys that were asked for. -/
def AnswersAsked (stage : Stage) : Prop :=
  ∀ a ∈ stage.answer, ∀ row ∈ a.rows, ∃ m ∈ stage.before, m.waits stage.name = true ∧
    (row.get? a.relation.ownerColumn).map keyText = some (keyText m.key)

/-- An answer to what was asked names null, or its text, only where the text is a key. -/
theorem key_of_answersAsked {stage : Stage} (h : stage.AnswersAsked) {a : Answer}
    (ha : a ∈ stage.answer) (hnames : a.NamesNull) :
    ∃ m ∈ stage.before, m.waits stage.name = true ∧ m.key = .text "null" := by
  obtain ⟨row, hrow, howner⟩ := hnames
  obtain ⟨m, hm, hwaits, hkey⟩ := h a ha row hrow
  have htext : keyText m.key = "null" := by
    rcases howner with howner | howner
    · rw [howner] at hkey
      exact (Option.some.inj hkey).symm
    · rw [howner] at hkey
      exact (Option.some.inj hkey).symm
  refine ⟨m, hm, hwaits, ((keyText_eq_null_iff m.key).mp htext).resolve_left fun hnull => ?_⟩
  simp [Model.waits, hnull, Json.isNull] at hwaits

end Stage

namespace ModelSet
variable {π : Type} [Pool π]

/-- How a path is loaded, with its levels, the top one first. -/
inductive Passes (schemas : Schemas) (customizer : Option Customizer) :
    List String → List Model → List Model → Database π → Database π → List Stage → Prop
  | done (models : List Model) (db : Database π) :
      Passes schemas customizer [] models models db db []
  | empty (segments : List String) (db : Database π) :
      Passes schemas customizer segments [] [] db db []
  | level {name : String} {rest : List String} {first : Model} {others after : List Model}
      {r : Relation} {answer : Option Answer} {db mid db' : Database π} {below : List Stage}
      (hrelation : first.relation schemas name = .ok r)
      (hasks : r.Asks (pendingKeys (.ofList (first :: others)) name)
        (if rest.isEmpty then customizer else none) db answer mid)
      (hmodels : List.Forall₂ (fun m m' => m.Gains name (m.held name answer) m')
        (first :: others) after)
      (hbelow : Passes schemas customizer rest
        ((first :: others).flatMap fun m => (m.held name answer).elim [] Loaded.models)
        (after.flatMap fun m => m.relatedTo name) mid db' below) :
      Passes schemas customizer (name :: rest) (first :: others) after db db'
        (⟨name, first :: others, answer, after⟩ :: below)

theorem Loads.passes {schemas : Schemas} {customizer : Option Customizer} {segments : List String}
    {before after : List Model} {db db' : Database π}
    (h : Loads schemas customizer segments before after db db') :
    ∃ stages, Passes schemas customizer segments before after db db' stages := by
  induction h with
  | done models db => exact ⟨[], .done models db⟩
  | empty segments db => exact ⟨[], .empty segments db⟩
  | level hrelation hasks hmodels _ ih =>
    obtain ⟨below, hbelow⟩ := ih
    exact ⟨_, .level hrelation hasks hmodels hbelow⟩

theorem Passes.givesKeyless {schemas : Schemas} {customizer : Option Customizer}
    {segments : List String} {before after : List Model} {db db' : Database π}
    {stages : List Stage} (h : Passes schemas customizer segments before after db db' stages) :
    ∀ stage ∈ stages, stage.GivesKeyless := by
  induction h with
  | done | empty => simp
  | level _ _ hmodels _ ih =>
    refine List.forall_mem_cons.mpr ⟨?_, ih⟩
    exact hmodels.imp fun m m' hm hkey hlacks => hm.relatedTo_keyless_iff hkey hlacks

/-- A path that fails leaves nothing loaded that was not loaded before. -/
theorem not_isLoaded_of_error {schemas : Schemas} {customizer : Option Customizer}
    {segments : List String} {s s' : ModelSet} {db db' : Database π} {f : Failure}
    (h : (loadSegments schemas customizer segments s).run db = ((.error f, s'), db')) :
    List.Forall₂ (fun m m' => ∀ name, m.isLoaded name = false → m'.isLoaded name = false)
      s.models s'.models := by
  cases segments with
  | nil => cases h
  | cons name rest =>
    rcases loadSegments_error h with ⟨-, rfl⟩ | ⟨loaded, mid, below, hfirst, -, rfl⟩
    · exact List.forall₂_same.mpr fun _ _ _ => id
    · rw [detachAll, models_mapModels, List.forall₂_map_right_iff]
      rcases loadSegments_single hfirst with rfl | ⟨-, r, groups, rfl⟩
      · exact List.forall₂_same.mpr fun _ _ _ hlacks => Model.isLoaded_detach hlacks name
      · rw [attachGroups, models_mapModels, List.forall₂_map_right_iff]
        refine List.forall₂_same.mpr fun m _ other hlacks => ?_
        split
        · exact Model.isLoaded_detach hlacks name
        next hmissing =>
          rwa [Model.detach_attach (Bool.eq_false_iff.mpr hmissing)]

/-- A path gives related models to models that have no key exactly where what a level was answered
names null, or the text that keys of null are told apart by. If the rows name only keys that were
asked for, then a model with that text as its key waited on the same level: a number, or another
text, is never taken for null. A path that fails leaves nothing loaded that was not. -/
theorem keyless_given_rows_iff {schemas : Schemas} {p : RelationPath} {s s' : ModelSet}
    {db db' : Database π} {outcome : Except Failure Unit}
    (h : (loadPaths schemas [p] s).run db = ((outcome, s'), db')) :
    (outcome.isOk = true → ∃ stages,
      Passes schemas p.customizer p.segments s.models s'.models db db' stages ∧
      ∀ stage ∈ stages, stage.GivesKeyless ∧
        (stage.AnswersAsked → ∀ a ∈ stage.answer, a.NamesNull →
          ∃ m ∈ stage.before, m.waits stage.name = true ∧ m.key = .text "null")) ∧
    (outcome.isOk = false →
      List.Forall₂ (fun m m' => ∀ name, m.isLoaded name = false → m'.isLoaded name = false)
        s.models s'.models) := by
  rw [loadPaths_cons] at h
  cases hpath : (loadSegments schemas p.customizer p.segments s).run db with
  | mk result mid =>
  obtain ⟨first, between⟩ := result
  rw [hpath] at h
  cases first with
  | error f =>
    obtain ⟨hs, -⟩ := Prod.mk.inj h
    obtain ⟨rfl, rfl⟩ := Prod.mk.inj hs
    refine ⟨?_, ?_⟩
    · rintro ⟨⟩
    · intro _
      exact not_isLoaded_of_error hpath
  | ok u =>
    obtain ⟨hs, rfl⟩ := Prod.mk.inj h
    obtain ⟨rfl, rfl⟩ := Prod.mk.inj hs
    refine ⟨?_, ?_⟩
    · intro _
      obtain ⟨stages, hpasses⟩ := (loadSegments_loads hpath).1.passes
      refine ⟨stages, hpasses, fun stage hstage => ⟨hpasses.givesKeyless stage hstage, ?_⟩⟩
      intro hasked a ha hnames
      exact stage.key_of_answersAsked hasked ha hnames
    · rintro ⟨⟩

def storedCity (key : Json) : Model :=
  { Model.blank ((townSchemas.get? "cities").getD default) with
    stored := [("id", key), ("name", .text "Oslo")]
    isNew := false }

/-- A city whose key is the text `null`, and one without a key. -/
def namelessCities : ModelSet := .ofList [storedCity (.text "null"), storedCity .null]

/-- Answers with a user of the city whose key is the text. -/
def namelessDatabase : Database ScriptedPool where
  configs := [("main", .ofParts "main" .postgres "localhost" "town")]
  backends := []
  opened := [⟨"main", .postgres, { ScriptedPool.new with responses :=
    [.rows [[("id", .int 1), ("city_id", .text "null"),
      ("__table_cities__key", .text "null")]]] }⟩]
  registry := [("main", 0)]

/-- Both cities are given the user. -/
theorem namelessCities_share : ∃ (s' : ModelSet) (db' : Database ScriptedPool),
    (loadPaths townSchemas [⟨"users", none⟩] namelessCities).run namelessDatabase =
      ((.ok (), s'), db') ∧
    s'.relatedKeys "users" = [["1"], ["1"]] ∧
    ∃ stages, Passes townSchemas none (RelationPath.segments ⟨"users", none⟩)
      namelessCities.models s'.models namelessDatabase db' stages ∧
      ∀ stage ∈ stages, stage.GivesKeyless := by
  have hok : ((loadPaths townSchemas [⟨"users", none⟩] namelessCities).run
      namelessDatabase).1.1.isOk = true := by decide +kernel
  have husers : ((loadPaths townSchemas [⟨"users", none⟩] namelessCities).run
      namelessDatabase).1.2.relatedKeys "users" = [["1"], ["1"]] := by decide +kernel
  cases hrun : (loadPaths townSchemas [⟨"users", none⟩] namelessCities).run namelessDatabase with
  | mk result db' =>
  rw [hrun] at hok husers
  obtain ⟨outcome, s'⟩ := result
  cases outcome with
  | error f => cases hok
  | ok u =>
    obtain ⟨stages, hpasses, hgives⟩ := (keyless_given_rows_iff hrun).1 rfl
    exact ⟨s', db', rfl, husers, stages, hpasses, fun stage hstage => (hgives stage hstage).1⟩

/-- So a model without a key may be given related models. -/
theorem keyless_may_be_given_rows : ¬ ∀ (schemas : Schemas) (p : RelationPath) (s s' : ModelSet)
    (db db' : Database ScriptedPool),
    (loadPaths schemas [p] s).run db = ((.ok (), s'), db') →
      ∀ name ∈ p.segments.head?, List.Forall₂ (fun m m' => m.key.isNull = true →
        m.isLoaded name = false → m'.relatedTo name = []) s.models s'.models := by
  intro hnever
  have hok : ((loadPaths townSchemas [⟨"users", none⟩] namelessCities).run
      namelessDatabase).1.1.isOk = true := by decide +kernel
  have husers : ((loadPaths townSchemas [⟨"users", none⟩] namelessCities).run
      namelessDatabase).1.2.models.map (fun m => (m.relatedTo "users").length) = [1, 1] := by
    decide +kernel
  have hname : "users" ∈ (RelationPath.segments ⟨"users", none⟩).head? := by decide +kernel
  cases hrun : (loadPaths townSchemas [⟨"users", none⟩] namelessCities).run namelessDatabase with
  | mk result db' =>
  rw [hrun] at hok husers
  obtain ⟨outcome, s'⟩ := result
  cases outcome with
  | error f => cases hok
  | ok u =>
    have hnone := hnever _ _ _ _ _ _ hrun "users" hname
    rw [namelessCities, models_ofList] at hnone
    dsimp only at husers
    generalize s'.models = after at hnone husers
    rcases hnone with _ | ⟨-, _ | ⟨hsecond, _⟩⟩
    have hnothing := hsecond (by decide) (by decide)
    simp [hnothing] at husers

end ModelSet
end SqlRecords
