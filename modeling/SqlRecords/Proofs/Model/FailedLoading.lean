import SqlRecords.Proofs.Model.Levels

/-! What a failed load leaves. Models and all their relations stay, with the relations that the
paths loaded so far; but where a path fails below its first segment, the relation of that segment
was taken off the models and is not put back. -/
namespace SqlRecords

namespace Model

/-- A model with all its relations but perhaps one, each with the records that it had. -/
structure Keeps (lost : Option String) (m m' : Model) : Prop where
  bare : m'.bare = m.bare
  relations (name : String) (l : Loaded) : some name ≠ lost → m.loaded? name = some l →
    ∃ l', m'.loaded? name = some l' ∧ l.SameRecords l'

/-- Whether relations are told apart by their names. -/
def NamesOnce (m : Model) : Prop := (Fields.keys m.relations).Nodup

theorem Keeps.refl (lost : Option String) (m : Model) : m.Keeps lost m :=
  ⟨rfl, fun _ l _ hl => ⟨l, hl, .refl l⟩⟩

theorem Keeps.weaken {m m' : Model} (h : m.Keeps none m') (lost : Option String) :
    m.Keeps lost m' := ⟨h.bare, fun name l _ => h.relations name l (by simp)⟩

theorem Keeps.trans {lost : Option String} {m m' m'' : Model} (h : m.Keeps none m')
    (h' : m'.Keeps lost m'') : m.Keeps lost m'' := by
  refine ⟨h'.bare.trans h.bare, fun name l hname hl => ?_⟩
  obtain ⟨l', hl', hsame⟩ := h.relations name l (by simp) hl
  obtain ⟨l'', hl'', hsame'⟩ := h'.relations name l' hname hl'
  exact ⟨l'', hl'', hsame'.1.trans hsame.1, hsame'.2.trans hsame.2⟩

/-- What a model gains takes nothing from it. -/
theorem Gains.keeps {name : String} {answer : Option Answer} {m m' : Model}
    (h : m.Gains name (m.held name answer) m') : m.Keeps none m' := by
  refine ⟨h.bare, fun other l _ hl => ?_⟩
  by_cases hother : other = name
  · subst hother
    have hrelated := h.related
    rw [held, hl, Option.some_or] at hrelated
    obtain ⟨l', hl', hsame⟩ : ∃ l', m'.loaded? other = some l' ∧ l.SameRecords l' := by
      generalize m'.loaded? other = found at hrelated
      cases hrelated with
      | some hsame => exact ⟨_, rfl, hsame⟩
    exact ⟨l', hl', hsame⟩
  · exact ⟨l, (h.others other hother).trans hl, .refl l⟩

theorem keeps_detach (m : Model) (name : String) : m.Keeps (some name) (m.detach name) := by
  refine ⟨rfl, fun other l hother hl => ⟨l, ?_, .refl l⟩⟩
  rw [m.loaded?_detach_of_ne fun h => hother (congrArg some h), hl]

theorem NamesOnce.attach {m : Model} (h : m.NamesOnce) (name : String) (l : Loaded) :
    (m.attach name l).NamesOnce :=
  Fields.nodup_keys_insert h name l

theorem NamesOnce.detach {m : Model} (h : m.NamesOnce) (name : String) :
    (m.detach name).NamesOnce :=
  List.Nodup.sublist (List.eraseP_sublist.map _) h

theorem NamesOnce.loaded?_detach {m : Model} (h : m.NamesOnce) (name : String) :
    (m.detach name).loaded? name = none := by
  have herase : ∀ fields : Fields Loaded, fields.keys.Nodup →
      Fields.get? (fields.eraseP (·.1 == name)) name = none := by
    intro fields hfields
    induction fields with
    | nil => rfl
    | cons p rest ih =>
      obtain ⟨n, l⟩ := p
      obtain ⟨hn, hrest⟩ := List.nodup_cons.mp hfields
      rw [List.eraseP_cons]
      by_cases hname : n = name
      · subst hname
        simp only [beq_self_eq_true, cond_true]
        refine List.lookup_eq_none_iff.mpr fun q hq => ?_
        have hmem : q.1 ∈ Fields.keys rest := List.mem_map_of_mem hq
        exact bne_iff_ne.mpr fun heq => hn (heq ▸ hmem)
      · have hne : (n == name) = false := by simp [hname]
        simp only [hne, cond_false, Fields.get?_cons, if_neg (Ne.symm hname)]
        exact ih hrest
  exact herase m.relations h

end Model

namespace ModelSet

theorem forall₂_keeps_trans {lost : Option String} {before between after : List Model}
    (h : List.Forall₂ (Model.Keeps none) before between)
    (h' : List.Forall₂ (Model.Keeps lost) between after) :
    List.Forall₂ (Model.Keeps lost) before after := by
  induction h generalizing after with
  | nil =>
    cases h'
    exact .nil
  | cons hm _ ih =>
    cases h' with
    | cons hm' hrest => exact .cons (hm.trans hm') (ih hrest)

theorem forall₂_keeps_refl (lost : Option String) (models : List Model) :
    List.Forall₂ (Model.Keeps lost) models models :=
  List.forall₂_same.mpr fun m _ => .refl lost m

theorem any_isLoaded_of_keeps {name : String} {before after : List Model}
    (h : List.Forall₂ (Model.Keeps none) before after)
    (hloaded : before.any (·.isLoaded name) = true) : after.any (·.isLoaded name) = true := by
  induction h with
  | nil => exact hloaded
  | @cons m m' before after hm _ ih =>
    rw [List.any_cons, Bool.or_eq_true] at hloaded ⊢
    refine hloaded.imp (fun hl => ?_) ih
    obtain ⟨l, hl⟩ := Option.isSome_iff_exists.mp hl
    obtain ⟨l', hl', -⟩ := hm.relations name l (by simp) hl
    exact Option.isSome_iff_exists.mpr ⟨l', hl'⟩

variable {π : Type} [Pool π]

/-- A path that is loaded takes nothing from the models. -/
theorem Loads.keeps {schemas : Schemas} {customizer : Option Customizer} {segments : List String}
    {before after : List Model} {db db' : Database π}
    (h : Loads schemas customizer segments before after db db') :
    List.Forall₂ (Model.Keeps none) before after := by
  cases h with
  | done => exact forall₂_keeps_refl none _
  | empty => exact .nil
  | level _ _ hmodels _ => exact hmodels.imp fun _ _ hm => hm.keeps

theorem loadPaths_keeps {schemas : Schemas} {paths : List RelationPath} {s s' : ModelSet}
    {db db' : Database π} (h : (loadPaths schemas paths s).run db = ((.ok (), s'), db')) :
    List.Forall₂ (Model.Keeps none) s.models s'.models := by
  induction paths generalizing s db with
  | nil =>
    obtain ⟨hs, -⟩ := Prod.mk.inj h
    obtain ⟨-, rfl⟩ := Prod.mk.inj hs
    exact forall₂_keeps_refl none _
  | cons p paths ih =>
    obtain ⟨between, mid, hpath, hpaths⟩ := loadPaths_cons_ok h
    exact forall₂_keeps_trans (loadSegments_loads hpath).1.keeps (ih hpaths)

/-- A path is loaded by its first segment, and then the rest on the related models, which are put
back after it. -/
theorem loadSegments_split (schemas : Schemas) (customizer : Option Customizer) (name : String)
    (rest : List String) (s : ModelSet) (db : Database π) :
    (loadSegments schemas customizer (name :: rest) s).run db =
      match (loadSegments schemas (if rest.isEmpty then customizer else none) [name] s).run db with
      | ((.error f, first), mid) => ((.error f, first), mid)
      | ((.ok (), first), mid) =>
        if rest.isEmpty then ((.ok (), first), mid)
        else
          let below := (loadSegments schemas customizer rest
            (ofList (first.relatedModels name))).run mid
          (first.handBack name below.1, below.2) := by
  rw [loadSegments_cons, loadSegments_cons]
  cases hfirst : s.models.head? with
  | none =>
    have hs : s = [] := List.map_eq_nil_iff.mp (List.head?_eq_none_iff.mp hfirst)
    subst hs
    cases rest <;> rfl
  | some first =>
  cases hr : first.relation schemas name with
  | error f => simp only [hr]
  | ok r =>
  simp only [hr, List.isEmpty_nil, if_true]
  cases (r.resultsFor (s.pendingKeys name)
    (if rest.isEmpty then customizer else none)).run.run db with
  | mk result mid => cases result <;> rfl

/-- A segment that fails changes nothing, and one that is loaded attaches what was read, if anything
was asked. -/
theorem loadSegments_single {schemas : Schemas} {customizer : Option Customizer} {name : String}
    {s s' : ModelSet} {db db' : Database π} {outcome : Except Failure Unit}
    (h : (loadSegments schemas customizer [name] s).run db = ((outcome, s'), db')) :
    s' = s ∨ outcome = .ok () ∧ ∃ r groups, s' = s.attachGroups name r groups := by
  rw [loadSegments_cons] at h
  cases hfirst : s.models.head? with
  | none =>
    simp only [hfirst] at h
    obtain ⟨hs, -⟩ := Prod.mk.inj h
    exact .inl (Prod.mk.inj hs).2.symm
  | some first =>
  cases hr : first.relation schemas name with
  | error f =>
    simp only [hfirst, hr] at h
    obtain ⟨hs, -⟩ := Prod.mk.inj h
    exact .inl (Prod.mk.inj hs).2.symm
  | ok r =>
  simp only [hfirst, hr, List.isEmpty_nil, if_true] at h
  cases hasked : (r.resultsFor (s.pendingKeys name) customizer).run.run db with
  | mk result mid =>
  rw [hasked] at h
  cases result with
  | error f =>
    obtain ⟨hs, -⟩ := Prod.mk.inj h
    exact .inl (Prod.mk.inj hs).2.symm
  | ok groups =>
    obtain ⟨hs, -⟩ := Prod.mk.inj h
    obtain ⟨hok, rfl⟩ := Prod.mk.inj hs
    split
    · exact .inl rfl
    · exact .inr ⟨hok.symm, r, groups, rfl⟩

/-- A path fails at its first segment, and then nothing is changed, or below it, and then the
relation of the first segment is taken off. -/
theorem loadSegments_error {schemas : Schemas} {customizer : Option Customizer} {name : String}
    {rest : List String} {s s' : ModelSet} {db db' : Database π} {f : Failure}
    (h : (loadSegments schemas customizer (name :: rest) s).run db = ((.error f, s'), db')) :
    ((loadSegments schemas (if rest.isEmpty then customizer else none) [name] s).run db =
      ((.error f, s), db') ∧ s' = s) ∨
    ∃ loaded mid below,
      (loadSegments schemas none [name] s).run db = ((.ok (), loaded), mid) ∧
      (loadSegments schemas customizer rest (ofList (loaded.relatedModels name))).run mid =
        ((.error f, below), db') ∧
      s' = loaded.detachAll name := by
  rw [loadSegments_split] at h
  cases hsingle : (loadSegments schemas (if rest.isEmpty then customizer else none) [name] s).run db
    with
  | mk result mid =>
  obtain ⟨outcome, first⟩ := result
  rw [hsingle] at h
  cases outcome with
  | error f' =>
    have hsame : first = s := (loadSegments_single hsingle).resolve_right fun hok => nomatch hok.1
    subst hsame
    obtain ⟨hs, rfl⟩ := Prod.mk.inj h
    obtain ⟨hf, rfl⟩ := Prod.mk.inj hs
    exact .inl ⟨by rw [hf], rfl⟩
  | ok u =>
    cases hrest : rest.isEmpty with
    | true =>
      simp only [hrest, if_true] at h
      cases h
    | false =>
      simp only [hrest, Bool.false_eq_true, if_false] at h hsingle
      obtain ⟨hback, hdb⟩ := Prod.mk.inj h
      cases hbelow : (loadSegments schemas customizer rest
        (ofList (first.relatedModels name))).run mid with
      | mk below last =>
      obtain ⟨outcome, related⟩ := below
      rw [hbelow] at hback hdb
      subst hdb
      cases outcome with
      | ok u => cases hback
      | error f' =>
        obtain ⟨hf, rfl⟩ := Prod.mk.inj hback
        cases hf
        exact .inr ⟨first, mid, related, hsingle, hbelow, rfl⟩

section
variable {P : Model → Prop} (hattach : ∀ m name l, P m → P (m.attach name l))
  (hdetach : ∀ m name, P m → P (m.detach name))
include hattach

theorem forall_single {schemas : Schemas} {customizer : Option Customizer} {name : String}
    {s s' : ModelSet} {db db' : Database π} {outcome : Except Failure Unit}
    (h : (loadSegments schemas customizer [name] s).run db = ((outcome, s'), db'))
    (hs : ∀ m ∈ s.models, P m) : ∀ m ∈ s'.models, P m := by
  obtain rfl | ⟨-, r, groups, rfl⟩ := loadSegments_single h
  · exact hs
  · rw [attachGroups, models_mapModels]
    refine List.forall_mem_map.mpr fun m hm => ?_
    split
    · exact hs m hm
    · exact hattach _ _ _ (hs m hm)

include hdetach

theorem forall_refill {name : String} {s : ModelSet} (h : ∀ m ∈ s.models, P m)
    (related : List Model) : ∀ m ∈ (s.refill name related).models, P m := by
  induction s generalizing related with
  | nil => exact h
  | cons p rest ih =>
    obtain ⟨label, m⟩ := p
    have hm : P m := h m List.mem_cons_self
    have hrest : ∀ m ∈ ModelSet.models rest, P m := fun m hmem => h m (List.mem_cons_of_mem _ hmem)
    rw [refill]
    cases hl : m.loaded? name with
    | none => exact List.forall_mem_cons.mpr ⟨hm, ih hrest related⟩
    | some l => exact List.forall_mem_cons.mpr ⟨hattach _ _ _ (hdetach _ _ hm), ih hrest _⟩

/-- What attaching relations and taking them off preserves, loading paths does. -/
theorem forall_loadPaths {schemas : Schemas} {paths : List RelationPath} {s s' : ModelSet}
    {db db' : Database π} (hrun : (loadPaths schemas paths s).run db = ((.ok (), s'), db'))
    (hs : ∀ m ∈ s.models, P m) : ∀ m ∈ s'.models, P m := by
  induction paths generalizing s db with
  | nil =>
    obtain ⟨h, -⟩ := Prod.mk.inj hrun
    exact (Prod.mk.inj h).2 ▸ hs
  | cons p paths ih =>
    obtain ⟨between, mid, hpath, hpaths⟩ := loadPaths_cons_ok hrun
    refine ih hpaths ?_
    cases hsegments : p.segments with
    | nil =>
      rw [hsegments] at hpath
      obtain ⟨h, -⟩ := Prod.mk.inj hpath
      exact (Prod.mk.inj h).2 ▸ hs
    | cons name rest =>
    rw [hsegments, loadSegments_split] at hpath
    cases hsingle : (loadSegments schemas (if rest.isEmpty then p.customizer else none) [name]
      s).run db with
    | mk result mid' =>
    obtain ⟨outcome, first⟩ := result
    rw [hsingle] at hpath
    cases outcome with
    | error f => cases hpath
    | ok u =>
      have hfirst := forall_single hattach hsingle hs
      dsimp only at hpath
      split at hpath
      · obtain ⟨h, -⟩ := Prod.mk.inj hpath
        exact (Prod.mk.inj h).2 ▸ hfirst
      · obtain ⟨hback, -⟩ := Prod.mk.inj hpath
        obtain ⟨related, -, rfl⟩ := handBack_ok hback
        exact forall_refill hattach hdetach hfirst _

end

/-- Paths fail where one of them does, after those before it were loaded. -/
theorem loadPaths_error {schemas : Schemas} {paths : List RelationPath} {s s' : ModelSet}
    {db db' : Database π} {f : Failure}
    (h : (loadPaths schemas paths s).run db = ((.error f, s'), db')) :
    ∃ earlier p later between mid, paths = earlier ++ p :: later ∧
      (loadPaths schemas earlier s).run db = ((.ok (), between), mid) ∧
      (loadSegments schemas p.customizer p.segments between).run mid = ((.error f, s'), db') := by
  induction paths generalizing s db with
  | nil => cases h
  | cons p paths ih =>
    rw [loadPaths_cons] at h
    cases hrun : (loadSegments schemas p.customizer p.segments s).run db with
    | mk result mid =>
    rw [hrun] at h
    obtain ⟨outcome, between⟩ := result
    cases outcome with
    | error f' => exact ⟨[], p, paths, s, db, rfl, rfl, hrun.trans h⟩
    | ok u =>
      obtain ⟨earlier, failing, later, between', mid', rfl, hearlier, hfails⟩ := ih h
      refine ⟨p :: earlier, failing, later, between', mid', rfl, ?_, hfails⟩
      rw [loadPaths_cons, hrun]
      exact hearlier

theorem keeps_detachAll (s : ModelSet) (name : String) :
    List.Forall₂ (Model.Keeps (some name)) s.models (s.detachAll name).models := by
  rw [detachAll, models_mapModels, List.forall₂_map_right_iff]
  exact List.forall₂_same.mpr fun m _ => m.keeps_detach name

/-- A failed load keeps the models with all that they had loaded if the path that fails does so at
its first segment. If it fails below, the relation of that segment, and no other, is taken off all
models, with the records that they had there before. -/
theorem failed_load_takes_off_one_relation (schemas : Schemas) (paths : List RelationPath)
    (s s' : ModelSet) (db db' : Database π) (f : Failure)
    (h : (loadPaths schemas paths s).run db = ((.error f, s'), db')) :
    ∃ earlier p later name rest between mid, paths = earlier ++ p :: later ∧
      p.segments = name :: rest ∧
      (loadPaths schemas earlier s).run db = ((.ok (), between), mid) ∧
      (((loadSegments schemas (if rest.isEmpty then p.customizer else none) [name] between).run
          mid = ((.error f, s'), db') ∧
        List.Forall₂ (Model.Keeps none) s.models s'.models) ∨
      ∃ loaded next below,
        (loadSegments schemas none [name] between).run mid = ((.ok (), loaded), next) ∧
        (loadSegments schemas p.customizer rest (ofList (loaded.relatedModels name))).run next =
          ((.error f, below), db') ∧
        List.Forall₂ (Model.Keeps none) s.models loaded.models ∧
        List.Forall₂ (Model.Keeps (some name)) s.models s'.models ∧
        ((∀ m ∈ s.models, m.NamesOnce) → ∀ m ∈ s'.models, m.loaded? name = none)) := by
  obtain ⟨earlier, p, later, between, mid, hpaths, hearlier, hfails⟩ := loadPaths_error h
  have hbetween := loadPaths_keeps hearlier
  cases hsegments : p.segments with
  | nil =>
    rw [hsegments] at hfails
    cases hfails
  | cons name rest =>
    rw [hsegments] at hfails
    refine ⟨earlier, p, later, name, rest, between, mid, hpaths, hsegments, hearlier, ?_⟩
    obtain ⟨hfirst, rfl⟩ | ⟨loaded, next, below, hfirst, hbelow, rfl⟩ := loadSegments_error hfails
    · exact .inl ⟨hfirst, hbetween⟩
    · have hloaded := forall₂_keeps_trans hbetween (loadSegments_loads hfirst).1.keeps
      refine .inr ⟨loaded, next, below, hfirst, hbelow, hloaded,
        forall₂_keeps_trans hloaded (loaded.keeps_detachAll name), fun hnames => ?_⟩
      have hattach (m : Model) (name : String) (l : Loaded) (hm : m.NamesOnce) :=
        hm.attach name l
      have hdetach (m : Model) (name : String) (hm : m.NamesOnce) := hm.detach name
      have honce := forall_single hattach hfirst (forall_loadPaths hattach hdetach hearlier hnames)
      rw [detachAll, models_mapModels]
      exact List.forall_mem_map.mpr fun m hm => (honce m hm).loaded?_detach name

/-- The users have their city loaded, and lose it when its mayor is asked for. -/
theorem townUsers_lose_city : ∃ (f : Failure) (s' : ModelSet) (db' : Database ScriptedPool),
    (loadPaths townSchemas [⟨"city", none⟩, ⟨"city.mayor", none⟩] townUsers).run townDatabase =
      ((.error f, s'), db') ∧
    s'.models.any (·.isLoaded "city") = false ∧
    ∃ name, List.Forall₂ (Model.Keeps (some name)) townUsers.models s'.models := by
  have herror : ((loadPaths townSchemas [⟨"city", none⟩, ⟨"city.mayor", none⟩] townUsers).run
      townDatabase).1.1.isOk = false := by decide +kernel
  have hcity : ((loadPaths townSchemas [⟨"city", none⟩, ⟨"city.mayor", none⟩] townUsers).run
      townDatabase).1.2.models.any (·.isLoaded "city") = false := by decide +kernel
  cases hrun : (loadPaths townSchemas [⟨"city", none⟩, ⟨"city.mayor", none⟩] townUsers).run
    townDatabase with
  | mk result db' =>
  rw [hrun] at herror hcity
  obtain ⟨outcome, s'⟩ := result
  cases outcome with
  | ok u => cases herror
  | error f =>
    refine ⟨f, s', db', rfl, hcity, ?_⟩
    obtain ⟨_, _, _, name, _, _, _, -, -, -, h⟩ :=
      failed_load_takes_off_one_relation _ _ _ _ _ _ _ hrun
    obtain ⟨-, hkeeps⟩ | ⟨_, _, _, -, -, -, hkeeps, -⟩ := h
    · exact ⟨name, hkeeps.imp fun _ _ hm => hm.weaken (some name)⟩
    · exact ⟨name, hkeeps⟩

/-- So not every failed load keeps what was loaded. -/
theorem failed_load_may_lose : ¬ ∀ (schemas : Schemas) (paths : List RelationPath)
    (s s' : ModelSet) (db db' : Database ScriptedPool) (f : Failure),
    (loadPaths schemas paths s).run db = ((.error f, s'), db') →
      List.Forall₂ (Model.Keeps none) s.models s'.models := by
  intro hkeeps
  have hcity : ((loadPaths townSchemas [⟨"city", none⟩] townUsers).run
      townDatabase).1.2.models.any (·.isLoaded "city") = true := by decide +kernel
  generalize hloaded : (loadPaths townSchemas [⟨"city", none⟩] townUsers).run townDatabase = first
    at hcity
  have herror : ((loadPaths townSchemas [⟨"city.mayor", none⟩] first.1.2).run
      first.2).1.1.isOk = false := by
    subst hloaded
    decide +kernel
  have hlost : ((loadPaths townSchemas [⟨"city.mayor", none⟩] first.1.2).run
      first.2).1.2.models.any (·.isLoaded "city") = false := by
    subst hloaded
    decide +kernel
  cases hrun : (loadPaths townSchemas [⟨"city.mayor", none⟩] first.1.2).run first.2 with
  | mk result db' =>
  rw [hrun] at herror hlost
  obtain ⟨outcome, s'⟩ := result
  cases outcome with
  | ok u => cases herror
  | error f =>
    have hstill := any_isLoaded_of_keeps (hkeeps _ _ _ _ _ _ _ hrun) hcity
    cases hstill.symm.trans hlost

end ModelSet
end SqlRecords
