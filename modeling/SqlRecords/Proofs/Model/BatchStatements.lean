import SqlRecords.Proofs.Model.Settled
import SqlRecords.Proofs.Session.Mirroring

/-! The statements that loading relations along paths sends: one for each level on which a model
waits, however many models there are. -/
namespace SqlRecords.ModelSet
variable {π : Type} [Pool π]

theorem loadPaths_append_ok {schemas : Schemas} {paths later : List RelationPath} {s s' : ModelSet}
    {db db' : Database π}
    (h : (loadPaths schemas (paths ++ later) s).run db = ((.ok (), s'), db')) :
    ∃ between mid, (loadPaths schemas paths s).run db = ((.ok (), between), mid) ∧
      (loadPaths schemas later between).run mid = ((.ok (), s'), db') := by
  induction paths generalizing s db with
  | nil => exact ⟨s, db, rfl, h⟩
  | cons p paths ih =>
    obtain ⟨first, mid, hpath, hpaths⟩ := loadPaths_cons_ok h
    obtain ⟨between, mid', hrun, hlater⟩ := ih hpaths
    refine ⟨between, mid', ?_, hlater⟩
    rw [loadPaths_cons, hpath]
    exact hrun

/-- Two runs that come from one state and differ in the customizer of the last path: they have all
levels in common but for the last segment of that path, and each sends the statements of its
levels. -/
def DiffersLast (schemas : Schemas) (earlier : List RelationPath) (path : String)
    (c c' : Option Customizer) (s : ModelSet) (db : Database (Recorded π))
    (s₁ : ModelSet) (db₁ : Database (Recorded π)) (s₂ : ModelSet) (db₂ : Database (Recorded π)) :
    Prop :=
  ∃ traces above last last', last.length ≤ 1 ∧ last'.length ≤ 1 ∧
    (last ++ last' ≠ [] → above.length + 1 = (Text.splitAt '.' path).length) ∧
    (DescendsAll schemas (earlier ++ [⟨path, c⟩]) s.models s₁.models (traces ++ [above ++ last]) ∧
      Sent (traces ++ [above ++ last]).flatten db db₁) ∧
    DescendsAll schemas (earlier ++ [⟨path, c'⟩]) s.models s₂.models (traces ++ [above ++ last']) ∧
      Sent (traces ++ [above ++ last']).flatten db db₂

theorem loadPaths_differsLast {schemas : Schemas} {earlier : List RelationPath} {path : String}
    {c c' : Option Customizer} {s s₁ s₂ : ModelSet} {db db₁ db₂ : Database (Recorded π)}
    (hdb : db.IsFresh)
    (h : (loadPaths schemas (earlier ++ [⟨path, c⟩]) s).run db = ((.ok (), s₁), db₁))
    (h' : (loadPaths schemas (earlier ++ [⟨path, c'⟩]) s).run db = ((.ok (), s₂), db₂)) :
    DiffersLast schemas earlier path c c' s db s₁ db₁ s₂ db₂ := by
  obtain ⟨between, mid, hearlier, hlast⟩ := loadPaths_append_ok h
  obtain ⟨between', mid', hearlier', hlast'⟩ := loadPaths_append_ok h'
  obtain ⟨hbetween, rfl⟩ := Prod.mk.inj (hearlier.symm.trans hearlier')
  obtain ⟨-, rfl⟩ := Prod.mk.inj hbetween
  obtain ⟨traces, htraces, hsent⟩ := loadPaths_descends hdb hearlier
  obtain ⟨t, next, hpath, hdone⟩ := loadPaths_cons_ok hlast
  obtain ⟨t', next', hpath', hdone'⟩ := loadPaths_cons_ok hlast'
  obtain ⟨ht, rfl⟩ := Prod.mk.inj hdone
  obtain ⟨-, rfl⟩ := Prod.mk.inj ht
  obtain ⟨ht', rfl⟩ := Prod.mk.inj hdone'
  obtain ⟨-, rfl⟩ := Prod.mk.inj ht'
  obtain ⟨above, last, last', hone, hone', hlength, ⟨hdescends, hown⟩, hdescends', hown'⟩ :=
    (loadSegments_loads hpath).1.descends (hsent.isFresh hdb) (loadSegments_loads hpath').1
  refine ⟨traces, above, last, last', hone, hone', hlength, ⟨?_, ?_⟩, ?_, ?_⟩
  · exact htraces.append (.cons hdescends (.nil _))
  · rw [List.flatten_append, List.flatten_singleton]
    exact hsent.append hown
  · exact htraces.append (.cons hdescends' (.nil _))
  · rw [List.flatten_append, List.flatten_singleton]
    exact hsent.append hown'

/-- There are at most as many levels as the paths have segments. -/
theorem length_flatten_le {traces : List (List Level)} {paths : List RelationPath}
    (h : List.Forall₂ (fun levels p => levels.map Level.name <+: p.segments) traces paths) :
    traces.flatten.length ≤ (paths.flatMap RelationPath.segments).length := by
  induction h with
  | nil => exact Nat.le_refl 0
  | cons hpath _ ih =>
    have hlength := hpath.length_le
    rw [List.length_map] at hlength
    rw [List.flatten_cons, List.length_append, List.flatMap_cons, List.length_append]
    exact Nat.add_le_add hlength ih

/-- Eager loading sends one statement for each level of each path on which a model waits, that is,
has a key and not the relation, and nothing else. The statement binds the keys of these models, each
once and in their order. A customizer changes the statement of the last segment only, and the same
paths once more ask nothing. All this is read off pools that keep what they receive; they answer as
the pools by themselves do. -/
theorem eager_load_asks_once_per_level (schemas : Schemas) (paths : List RelationPath)
    (s s' : ModelSet) (db db' : Database π)
    (h : (loadPaths schemas paths s).run db = ((.ok (), s'), db')) :
    ∃ (kept : Database (Recorded π)) (traces : List (List Level)) (sent : List Database.Sending),
      ((loadPaths schemas paths s).run db.recording = ((.ok (), s'), kept) ∧ kept.forget = db') ∧
      DescendsAll schemas paths s.models s'.models traces ∧
      List.Forall₂ (fun levels p => levels.map Level.name <+: p.segments) traces paths ∧
      ((∀ i, kept.received i = Database.receivedOf sent i) ∧ sent.map Database.Sending.statement =
        traces.flatten.filterMap (·.statement? db.configs)) ∧
      sent.length ≤ (paths.flatMap RelationPath.segments).length ∧
      (∀ l ∈ traces.flatten,
        ((l.statement? db.configs).isSome ↔
          ∃ m ∈ l.models, m.isLoaded l.name = false ∧ m.key.isNull = false) ∧
        ∀ st, l.statement? db.configs = some st → l.BindsKeys db.configs st) ∧
      (∃ s'', (loadPaths schemas paths s').run kept = ((.ok (), s''), kept)) ∧
      ∀ earlier path c c' s₁ s₂ db₁ db₂,
        (loadPaths schemas (earlier ++ [⟨path, c⟩]) s).run db.recording = ((.ok (), s₁), db₁) →
        (loadPaths schemas (earlier ++ [⟨path, c'⟩]) s).run db.recording = ((.ok (), s₂), db₂) →
        DiffersLast schemas earlier path c c' s db.recording s₁ db₁ s₂ db₂ := by
  obtain ⟨kept, hkept, hforget⟩ := loadPaths_recording h
  have hdb := Database.isFresh_recording db
  obtain ⟨traces, htraces, ⟨sent, hsends, hstatements⟩, hasks⟩ := loadPaths_descends hdb hkept
  have hconfigs : db.recording.configs = db.configs := rfl
  have hreceived (i : Nat) : kept.received i = Database.receivedOf sent i := by
    rw [hsends.received, Database.received_recording, List.nil_append]
  rw [hconfigs] at hstatements
  refine ⟨kept, traces, sent, ⟨hkept, hforget⟩, htraces, htraces.prefix_segments,
    ⟨hreceived, hstatements⟩, ?_, fun l hl => ⟨?_, fun st => Level.bindsKeys_of_statement⟩, ?_, ?_⟩
  · calc sent.length
        = (traces.flatten.filterMap (·.statement? db.configs)).length := by
          rw [← hstatements, List.length_map]
      _ ≤ traces.flatten.length := List.length_filterMap_le _ _
      _ ≤ _ := length_flatten_le htraces.prefix_segments
  · have hl' := hasks l hl
    rw [hconfigs] at hl'
    rw [hl', List.any_eq_true]
    simp [Model.waits]
  · exact settled_loadPaths (loadPaths_settled hkept).1 kept
  · intro earlier path c c' s₁ s₂ db₁ db₂ h₁ h₂
    exact loadPaths_differsLast hdb h₁ h₂

/-- Two users ask for their cities and the one city for its users, and then nothing is asked. -/
theorem townUsers_ask_twice : ∃ (s' s'' : ModelSet) (kept : Database (Recorded ScriptedPool)),
    (loadPaths townSchemas [⟨"city.users", none⟩] townUsers).run townDatabase.recording =
      ((.ok (), s'), kept) ∧
    (kept.received 0).map (fun st => st.params.length) = [2, 1] ∧
    (loadPaths townSchemas [⟨"city.users", none⟩] s').run kept = ((.ok (), s''), kept) := by
  have hok : ((loadPaths townSchemas [⟨"city.users", none⟩] townUsers).run
      townDatabase).1.1.isOk = true := by decide +kernel
  have hparams : (((loadPaths townSchemas [⟨"city.users", none⟩] townUsers).run
      townDatabase.recording).2.received 0).map (fun st => st.params.length) = [2, 1] := by
    decide +kernel
  cases hrun : (loadPaths townSchemas [⟨"city.users", none⟩] townUsers).run townDatabase with
  | mk outcome db' =>
  rw [hrun] at hok
  obtain ⟨outcome, s'⟩ := outcome
  cases outcome with
  | error f => cases hok
  | ok u =>
    obtain ⟨kept, -, -, ⟨hkept, -⟩, -, -, -, -, -, ⟨s'', hagain⟩, -⟩ :=
      eager_load_asks_once_per_level _ _ _ _ _ _ hrun
    rw [hkept] at hparams
    exact ⟨s', s'', kept, hkept, hparams, hagain⟩

end SqlRecords.ModelSet
