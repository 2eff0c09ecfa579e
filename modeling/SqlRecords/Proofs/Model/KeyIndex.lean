import Mathlib.Data.List.Induction
import SqlRecords.Proofs.Model.FailedLoading
import SqlRecords.Proofs.Model.Serialization
import SqlRecords.Proofs.Model.Settled

/-! The index of a set of models by their keys. It leads to the model that was first added under a
key, whatever the keys of the models are by now. -/
namespace SqlRecords

namespace Model

/-- What is done to a model in place: columns are set, a row is loaded into it, or it is saved. -/
inductive EditsTo : Model → Model → Prop where
  | set (m : Model) (column : String) (v : Json) : EditsTo m (m.set column v)
  | setAll (m : Model) (values : Record) : EditsTo m (m.setAll values)
  | load (m : Model) (row : Record) : EditsTo m (m.load row)
  | save {π : Type} [Pool π] (m : Model) (db : Database π) :
    EditsTo m (Edit.exec saveInPlace m db).1.2

/-- Edits that leave the primary key alone: other columns are set or loaded, and no model is saved
that gets its key by it. -/
inductive EditsBesideKey : Model → Model → Prop where
  | set {m : Model} {column : String} (h : m.schema.primaryKey ≠ column) (v : Json) :
    EditsBesideKey m (m.set column v)
  | setAll {m : Model} {values : Record} (h : m.schema.primaryKey ∉ values.keys) :
    EditsBesideKey m (m.setAll values)
  | load {m : Model} {row : Record} (h : m.schema.primaryKey ∉ row.keys) :
    EditsBesideKey m (m.load row)
  | save {π : Type} [Pool π] {m : Model} (hset : m.SetOnce)
    (h : m.isNew = true → m.changed.contains m.schema.primaryKey = true) (db : Database π) :
    EditsBesideKey m (Edit.exec saveInPlace m db).1.2

theorem schema_setAll (m : Model) (values : Record) : (m.setAll values).schema = m.schema := by
  obtain ⟨changed, hframe⟩ := m.setAll_frame values
  rw [hframe]

theorem EditsBesideKey.key_eq {m m' : Model} (h : m.EditsBesideKey m') : m'.key = m.key := by
  have hkey {m m' : Model} (hschema : m'.schema = m.schema)
      (hcolumn : m'.column m.schema.primaryKey = m.column m.schema.primaryKey) :
      m'.key = m.key := by
    rw [key, hschema, hcolumn, key]
  cases h with
  | @set _ column h v =>
    exact hkey (m.schema_setAll [(column, v)]) (m.column_set_of_ne h v)
  | setAll h => exact hkey (m.schema_setAll _) (m.column_setAll_of_not_mem h)
  | load h => exact hkey rfl (m.column_load_of_not_mem h)
  | save hset h db =>
    obtain hsame | ⟨result, hsaved⟩ := exec_save_cases hset db
    · rw [hsame]
    · have hgiven : m.givenKey? result = none := by
        unfold givenKey?
        cases hnew : m.isNew with
        | false => rfl
        | true => simp [h hnew]
      rw [hsaved]
      refine hkey (by rw [saved_eq]) ?_
      rw [column_saved hset, if_pos rfl, hgiven, Option.getD_none]

end Model

/-- The place of the first key with the text of a key. -/
def firstUnder (keys : List Json) (key : Json) : Option Nat :=
  keys.findIdx? (keyText · == keyText key)

theorem exists_of_firstUnder {keys : List Json} {key : Json} {i : Nat}
    (h : firstUnder keys key = some i) : ∃ k, keys[i]? = some k ∧ keyText k = keyText key := by
  obtain ⟨hi, htext, -⟩ := List.findIdx?_eq_some_iff_getElem.mp h
  exact ⟨_, List.getElem?_eq_getElem hi, eq_of_beq htext⟩

/-- No key with the text comes before the first. -/
theorem firstUnder_le {keys : List Json} {k key : Json} {i : Nat} (hi : keys[i]? = some k)
    (htext : keyText k = keyText key) : ∃ j ≤ i, firstUnder keys key = some j := by
  cases hfirst : firstUnder keys key with
  | none =>
    have hother := List.findIdx?_eq_none_iff.mp hfirst k (List.mem_of_getElem? hi)
    simp [htext] at hother
  | some j =>
    refine ⟨j, Nat.le_of_not_lt fun hlt => ?_, rfl⟩
    obtain ⟨hj, -, hbefore⟩ := List.findIdx?_eq_some_iff_getElem.mp hfirst
    obtain ⟨hlt', rfl⟩ := List.getElem?_eq_some_iff.mp hi
    exact hbefore i hlt (by simp [htext])

theorem firstUnder_eq (keys : List Json) (key : Json) :
    firstUnder keys key = (keys.map keyText).findIdx? (· == keyText key) := by
  rw [List.findIdx?_map]
  rfl

/-- Two lists of keys have a text first at the same place exactly if its first place in either is
one where the other has it too. -/
theorem firstUnder_eq_iff (keys others : List Json) (key : Json) :
    firstUnder keys key = firstUnder others key ↔
      (∀ i, firstUnder keys key = some i → ∃ k, others[i]? = some k ∧ keyText k = keyText key) ∧
      (∀ i, firstUnder others key = some i → ∃ k, keys[i]? = some k ∧ keyText k = keyText key) := by
  constructor
  · intro h
    exact ⟨fun i hi => exists_of_firstUnder (h ▸ hi), fun i hi => exists_of_firstUnder (h ▸ hi)⟩
  · rintro ⟨hkeys, hothers⟩
    cases hfirst : firstUnder keys key with
    | none =>
      cases hother : firstUnder others key with
      | none => rfl
      | some i =>
        obtain ⟨k, hk, htext⟩ := hothers i hother
        obtain ⟨j, -, hj⟩ := firstUnder_le hk htext
        cases hfirst.symm.trans hj
    | some i =>
      obtain ⟨k, hk, htext⟩ := hkeys i hfirst
      obtain ⟨j, hji, hj⟩ := firstUnder_le hk htext
      obtain ⟨k', hk', htext'⟩ := hothers j hj
      obtain ⟨i', hij, hi'⟩ := firstUnder_le hk' htext'
      cases hfirst.symm.trans hi'
      rw [hj, Nat.le_antisymm hji hij]

namespace ModelSet

/-- Where the index leads for a key. -/
def position? (s : ModelSet) (key : Json) : Option Nat := List.findIdx? (·.1 == keyText key) s

/-- Changes the model at a place. It stays under its key. -/
def modifyAt (s : ModelSet) (i : Nat) (f : Model → Model) : ModelSet :=
  List.modify s i fun (label, m) => (label, f m)

/-- The current keys of the models, one for each. -/
def currentKeys (s : ModelSet) : List Json := s.models.map Model.key

/-- Whether the index leads to the first model that has a key now, and nowhere if none has it. -/
def IndexTrue (s : ModelSet) (key : Json) : Prop := s.position? key = firstUnder s.currentKeys key

/-- Sets that come about by adding models, by changing them one at a time as `E` allows, and by
eager loading, which may fail; with the key of each model when it was added. -/
inductive Reached (E : Model → Model → Prop) : List Json → ModelSet → Prop where
  | empty : Reached E [] []
  | push {added : List Json} {s : ModelSet} (m : Model) :
    Reached E added s → Reached E (added ++ [m.key]) (s.push m)
  | modifyAt {added : List Json} {s : ModelSet} (i : Nat) {f : Model → Model} :
    Reached E added s → (∀ m, s.models[i]? = some m → E m (f m)) →
      Reached E added (s.modifyAt i f)
  | eagerLoad {π : Type} [Pool π] {added : List Json} {s s' : ModelSet} {schemas : Schemas}
    {paths : List RelationPath} {db db' : Database π} {outcome : Except Failure Unit} :
    Reached E added s → (loadPaths schemas paths s).run db = ((outcome, s'), db') →
      Reached E added s'

theorem get?_eq (s : ModelSet) (key : Json) :
    s.get? key = (s.position? key).bind (s.models[·]?) := by
  unfold get? position? models
  induction s with
  | nil => rfl
  | cons p rest ih =>
    rw [List.lookup_cons, List.findIdx?_cons, Bool.beq_comm]
    cases p.1 == keyText key with
    | true => rfl
    | false =>
      simp only [Bool.false_eq_true, if_false]
      rw [ih, Option.bind_map]
      rfl

/-- Where the index is true it answers what a search of the models finds. -/
theorem IndexTrue.get?_eq {s : ModelSet} {key : Json} (h : s.IndexTrue key) :
    s.get? key = s.models.find? (keyText ·.key == keyText key) := by
  rw [ModelSet.get?_eq, h, firstUnder, currentKeys, List.findIdx?_map,
    List.find?_eq_bind_findIdx?_getElem?]
  rfl

theorem mem_texts_keys (s : ModelSet) (text : String) :
    text ∈ s.keys.map keyText ↔ text ∈ s.currentKeys.map keyText := by
  have hfold (keys acc : List Json) :
      text ∈ (keys.foldl (fun acc k => if acc.any (keyText · == keyText k) then acc
        else acc ++ [k]) acc).map keyText ↔ text ∈ acc.map keyText ∨ text ∈ keys.map keyText := by
    induction keys generalizing acc with
    | nil => simp
    | cons key rest ih =>
      rw [List.foldl_cons, ih, List.map_cons, List.mem_cons, ← or_assoc]
      refine or_congr ?_ Iff.rfl
      cases hany : acc.any (keyText · == keyText key) with
      | false => simp
      | true =>
        obtain ⟨k, hk, htext⟩ := List.any_eq_true.mp hany
        refine ⟨.inl, Or.rec id ?_⟩
        rintro rfl
        exact List.mem_map.mpr ⟨k, hk, eq_of_beq htext⟩
  exact (hfold s.currentKeys []).trans (by simp)

theorem labels_mapModels (s : ModelSet) (f : Model → Model) :
    (s.mapModels f).map (·.1) = s.map (·.1) := by
  simp [mapModels, Function.comp_def]

theorem mapModels_mapModels (s : ModelSet) (f g : Model → Model) :
    (s.mapModels f).mapModels g = s.mapModels (g ∘ f) := by
  simp [mapModels, Function.comp_def]

/-- Changing the model at a place leaves all that does not tell it from what it becomes. -/
theorem map_modifyAt {α : Type} (s : ModelSet) (i : Nat) {f : Model → Model}
    {g : String × Model → α} (h : ∀ p, s[i]? = some p → g (p.1, f p.2) = g p) :
    (s.modifyAt i f).map g = s.map g := by
  refine List.ext_getElem? fun j => ?_
  rw [List.getElem?_map, List.getElem?_map, modifyAt, List.getElem?_modify]
  split
  · subst i
    cases hp : s[j]? with
    | none => rfl
    | some p => exact congrArg some (h p hp)
  · simp

theorem texts_currentKeys (s : ModelSet) :
    s.currentKeys.map keyText = s.map fun p => keyText p.2.key := by
  simp [currentKeys, models, Function.comp_def]

variable {π : Type} [Pool π]

/-- A path changes nothing about models but what is loaded below them, also when it fails. -/
theorem loadSegments_bare {schemas : Schemas} {customizer : Option Customizer}
    {segments : List String} {s s' : ModelSet} {db db' : Database π}
    {outcome : Except Failure Unit}
    (h : (loadSegments schemas customizer segments s).run db = ((outcome, s'), db')) :
    s'.mapModels Model.bare = s.mapModels Model.bare := by
  have hloaded {customizer : Option Customizer} {segments : List String} {s s' : ModelSet}
      {db db' : Database π}
      (h : (loadSegments schemas customizer segments s).run db = ((.ok (), s'), db')) :
      s'.mapModels Model.bare = s.mapModels Model.bare := by
    obtain ⟨hloads, hlabels⟩ := loadSegments_loads h
    rw [mapModels_eq_zip, mapModels_eq_zip, hlabels, hloads.bare_eq]
  cases outcome with
  | ok u => exact hloaded h
  | error f =>
    cases segments with
    | nil => cases h
    | cons name rest =>
      obtain ⟨-, rfl⟩ | ⟨loaded, mid, below, hfirst, -, rfl⟩ := loadSegments_error h
      · rfl
      · exact (mapModels_mapModels loaded _ _).trans (hloaded hfirst)

theorem loadPaths_bare {schemas : Schemas} {paths : List RelationPath} {s s' : ModelSet}
    {db db' : Database π} {outcome : Except Failure Unit}
    (h : (loadPaths schemas paths s).run db = ((outcome, s'), db')) :
    s'.mapModels Model.bare = s.mapModels Model.bare := by
  induction paths generalizing s db with
  | nil =>
    obtain ⟨hs, -⟩ := Prod.mk.inj h
    rw [(Prod.mk.inj hs).2]
  | cons p paths ih =>
    rw [loadPaths_cons] at h
    cases hpath : (loadSegments schemas p.customizer p.segments s).run db with
    | mk result mid =>
    obtain ⟨first, between⟩ := result
    rw [hpath] at h
    have hbetween := loadSegments_bare hpath
    cases first with
    | error f =>
      obtain ⟨hs, -⟩ := Prod.mk.inj h
      rw [← (Prod.mk.inj hs).2, hbetween]
    | ok u => exact (ih h).trans hbetween

namespace Reached
variable {E : Model → Model → Prop} {added : List Json} {s : ModelSet}

/-- A set of all models of a list is one to which they were added one after another. -/
theorem ofList (models : List Model) : Reached E (models.map Model.key) (ofList models) := by
  induction models using List.reverseRecOn with
  | nil => exact .empty
  | append_singleton models m ih =>
    simpa [ModelSet.ofList, ModelSet.push] using ih.push m

/-- The models stay under the keys that they were added with. -/
theorem labels (h : Reached E added s) : s.map (·.1) = added.map keyText := by
  induction h with
  | empty => rfl
  | push m _ ih => simp [ModelSet.push, ih]
  | modifyAt i _ _ ih => exact (map_modifyAt _ i fun _ _ => rfl).trans ih
  | eagerLoad _ hrun ih =>
    rw [← labels_mapModels _ Model.bare, loadPaths_bare hrun, labels_mapModels]
    exact ih

theorem position?_eq (h : Reached E added s) (key : Json) :
    s.position? key = firstUnder added key := by
  rw [firstUnder_eq, ← h.labels, List.findIdx?_map]
  rfl

/-- There is a model where the index leads. -/
theorem get?_of_firstUnder (h : Reached E added s) {key : Json} {i : Nat}
    (hi : firstUnder added key = some i) : ∃ m, s.models[i]? = some m ∧ s.get? key = some m := by
  obtain ⟨k, hk, -⟩ := exists_of_firstUnder hi
  obtain ⟨hlt, -⟩ := List.getElem?_eq_some_iff.mp hk
  have hlength : s.models.length = added.length := by
    simpa [models] using congrArg List.length h.labels
  have hm := List.getElem?_eq_getElem (hlength ▸ hlt)
  refine ⟨_, hm, ?_⟩
  rw [get?_eq, h.position?_eq, hi]
  exact hm

theorem isSome_get?_iff (h : Reached E added s) (key : Json) :
    (s.get? key).isSome = true ↔ ∃ k ∈ added, keyText k = keyText key := by
  have hlabels : (∃ p ∈ s, keyText key = p.1) ↔ keyText key ∈ s.map (·.1) := by
    simp [List.mem_map, eq_comm]
  unfold get?
  simp only [List.lookup_isSome_iff, beq_iff_eq]
  rw [hlabels, h.labels, List.mem_map]

/-- Adding models and loading what is below them changes no key. -/
theorem texts (h : Reached E added s)
    (hkept : ∀ m m', E m m' → keyText m'.key = keyText m.key) :
    s.currentKeys.map keyText = added.map keyText := by
  induction h with
  | empty => rfl
  | push m _ ih =>
    rw [texts_currentKeys] at ih ⊢
    simp [ModelSet.push, ih]
  | @modifyAt added s i f _ hedit ih =>
    rw [texts_currentKeys] at ih ⊢
    refine (map_modifyAt s i fun p hp => ?_).trans ih
    exact hkept _ _ (hedit p.2 (by simp [models, hp]))
  | @eagerLoad π _ added s s' _ _ _ _ _ _ hrun ih =>
    have hbare (s : ModelSet) : (s.mapModels Model.bare).currentKeys = s.currentKeys := by
      simp [currentKeys, Function.comp_def, Model.key_bare]
    rw [← hbare, loadPaths_bare hrun, hbare]
    exact ih

/-- The index stays true as long as no edit changes the text of a key. -/
theorem indexTrue (h : Reached E added s)
    (hkept : ∀ m m', E m m' → keyText m'.key = keyText m.key) (key : Json) : s.IndexTrue key := by
  unfold IndexTrue
  rw [h.position?_eq, firstUnder_eq, firstUnder_eq, h.texts hkept]

/-- So it does where the primary key is left alone. -/
theorem indexTrue_of_editsBesideKey (h : Reached Model.EditsBesideKey added s) (key : Json) :
    s.IndexTrue key :=
  h.indexTrue (fun _ _ hedit => congrArg keyText hedit.key_eq) key

/-- Changing a model that was looked up by its key is changing it at its place. -/
theorem modify {f : Model → Model} (key : Json) (h : Reached E added s)
    (hedit : ∀ m, s.get? key = some m → E m (f m)) : Reached E added (s.modify key f) := by
  refine h.modifyAt (List.findIdx (·.1 == keyText key) s) fun m hm => hedit m ?_
  obtain ⟨hlt, -⟩ := List.getElem?_eq_some_iff.mp hm
  have hposition : s.position? key = some (List.findIdx (·.1 == keyText key) s) :=
    List.findIdx?_eq_some_iff_findIdx_eq.mpr ⟨by simpa [models] using hlt, rfl⟩
  rw [get?_eq, hposition]
  exact hm

/-- Changing all models is changing them one after another. -/
theorem mapModels {f : Model → Model} (h : Reached E added s)
    (hedit : ∀ m ∈ s.models, E m (f m)) : Reached E added (s.mapModels f) := by
  -- The front has been changed already.
  have hrest (front back : ModelSet) (h : Reached E added (front ++ back))
      (hedit : ∀ m ∈ models back, E m (f m)) :
      Reached E added (front ++ ModelSet.mapModels back f) := by
    induction back generalizing front with
    | nil => exact h
    | cons p rest ih =>
      obtain ⟨hfirst, hothers⟩ := List.forall_mem_cons.mp hedit
      have hchanged : Reached E added (ModelSet.modifyAt (front ++ p :: rest) front.length f) := by
        refine h.modifyAt front.length fun m hm => ?_
        have hm' : p.2 = m := by simpa [models] using hm
        exact hm' ▸ hfirst
      have happ : ModelSet.modifyAt (front ++ p :: rest) front.length f =
          (front ++ [(p.1, f p.2)]) ++ rest := by
        simp [ModelSet.modifyAt, List.modify_eq_take_cons_drop]
      rw [happ] at hchanged
      simpa [ModelSet.mapModels] using ih _ hchanged hothers
  exact hrest [] s h hedit

end Reached

/-- The index leads to the model that was first added under a key. That is the first model that has
the key now exactly if the model that it leads to still has it, and the first model that has it was
added under it; so it is if the keys never change, as where every edit leaves the primary key alone.
A key leads somewhere if a model was added under it, and is listed if a model has it now. Editing the
model under a key, or all models, leads to such a set again. -/
theorem index_true_iff_keys_kept {E : Model → Model → Prop} {added : List Json} {s : ModelSet}
    (h : Reached E added s) (key : Json) :
    s.position? key = firstUnder added key ∧
    s.get? key = (s.position? key).bind (s.models[·]?) ∧
    (s.IndexTrue key ↔
      (∀ m, s.get? key = some m → keyText m.key = keyText key) ∧
      ∀ i, firstUnder s.currentKeys key = some i →
        ∃ k, added[i]? = some k ∧ keyText k = keyText key) ∧
    (s.IndexTrue key → s.get? key = s.models.find? (keyText ·.key == keyText key)) ∧
    ((∀ m m', E m m' → keyText m'.key = keyText m.key) → s.IndexTrue key) ∧
    (Reached Model.EditsBesideKey added s → s.IndexTrue key) ∧
    ((s.get? key).isSome = true ↔ ∃ k ∈ added, keyText k = keyText key) ∧
    (keyText key ∈ s.keys.map keyText ↔ ∃ m ∈ s.models, keyText m.key = keyText key) ∧
    ∀ f : Model → Model, (∀ m, E m (f m)) →
      Reached E added (s.modify key f) ∧ Reached E added (s.mapModels f) := by
  have hposition := h.position?_eq key
  refine ⟨hposition, s.get?_eq key, ?_, IndexTrue.get?_eq, fun hkept => h.indexTrue hkept key,
    fun hbeside => hbeside.indexTrue_of_editsBesideKey key, h.isSome_get?_iff key, ?_,
    fun f hedit => ⟨h.modify key fun m _ => hedit m, h.mapModels fun m _ => hedit m⟩⟩
  · unfold IndexTrue
    rw [hposition, firstUnder_eq_iff]
    refine and_congr_left fun _ => ⟨fun hkeeps m hm => ?_, fun hanswer i hi => ?_⟩
    · rw [s.get?_eq, hposition] at hm
      obtain ⟨i, hi, hmodel⟩ := Option.bind_eq_some_iff.mp hm
      obtain ⟨k, hk, htext⟩ := hkeeps i hi
      simp only [currentKeys, List.getElem?_map, hmodel] at hk
      rw [Option.some.inj hk]
      exact htext
    · obtain ⟨m, hmodel, hm⟩ := h.get?_of_firstUnder hi
      exact ⟨m.key, by simp [currentKeys, hmodel], hanswer m hm⟩
  · rw [mem_texts_keys]
    simp [currentKeys]

/-- A stored user. -/
def storedUser : Model :=
  (Model.blank Model.userSchema).load [("id", .int 7), ("name", .text "Ann")]

def pendingUser : Model := (Model.blank Model.userSchema).set "name" (.text "Bob")

/-- A database that reports the key of the row that it inserts. -/
def reportingDatabase : Database ScriptedPool :=
  { Model.userDatabase with
    opened := [⟨"main", .mysql, ScriptedPool.new.push (.exec ⟨1, 1, some (.int 12)⟩)⟩] }

/-- A stored user who was renamed and a new one who was saved. -/
def savedUsers : ModelSet :=
  ((ofList [storedUser, pendingUser]).modify (.int 7) (·.set "name" (.text "Eve"))).modifyAt 1
    fun m => (Edit.exec Model.saveInPlace m reportingDatabase).1.2

/-- The index follows the renamed user, and not the one whose key came with the save. -/
theorem savedUsers_index : Reached Model.EditsTo [.int 7, .null] savedUsers ∧
    savedUsers.IndexTrue (.int 7) ∧ ¬ savedUsers.IndexTrue (.int 12) ∧
    (savedUsers.get? (.int 12)).isSome = false ∧ "12" ∈ savedUsers.keys.map keyText := by
  have hadded : Reached Model.EditsTo [.int 7, .null] (ofList [storedUser, pendingUser]) :=
    .ofList [storedUser, pendingUser]
  have hreached : Reached Model.EditsTo [.int 7, .null] savedUsers :=
    (hadded.modify (.int 7) fun m _ => .set m _ _).modifyAt 1 fun m _ => .save m _
  obtain ⟨-, -, hseven, -⟩ := index_true_iff_keys_kept hreached (.int 7)
  obtain ⟨-, -, htwelve, -⟩ := index_true_iff_keys_kept hreached (.int 12)
  refine ⟨hreached, hseven.mpr ⟨?_, ?_⟩, fun htrue => ?_, ?_, ?_⟩
  · have hkept : (savedUsers.get? (.int 7)).map (keyText ·.key) = some "7" := by decide +kernel
    intro m hm
    rw [hm] at hkept
    exact Option.some.inj hkept
  · have hfirst : firstUnder savedUsers.currentKeys (.int 7) = some 0 := by decide +kernel
    intro i hi
    cases hfirst.symm.trans hi
    exact ⟨.int 7, rfl, rfl⟩
  · have hfirst : firstUnder savedUsers.currentKeys (.int 12) = some 1 := by decide +kernel
    obtain ⟨k, hk, htext⟩ := (htwelve.mp htrue).2 1 hfirst
    cases Option.some.inj hk
    revert htext
    decide +kernel
  · decide +kernel
  · decide +kernel

/-- A stored user whose key is changed in the set. -/
def rekeyedUsers : ModelSet := (ofList [storedUser]).modify (.int 7) (·.set "id" (.int 8))

/-- So the index is not always true, nor does it always find what is listed. -/
theorem index_not_always_true :
    (¬ ∀ (added : List Json) (s : ModelSet), Reached Model.EditsTo added s → ∀ key,
      s.get? key = s.models.find? (keyText ·.key == keyText key)) ∧
    ¬ ∀ (added : List Json) (s : ModelSet), Reached Model.EditsTo added s → ∀ key,
      ((s.get? key).isSome = true ↔ keyText key ∈ s.keys.map keyText) := by
  have hadded : Reached Model.EditsTo [.int 7] (ofList [storedUser]) := .ofList [storedUser]
  have hreached : Reached Model.EditsTo [.int 7] rekeyedUsers :=
    hadded.modify (.int 7) fun m _ => .set m _ _
  have hmissed : (rekeyedUsers.get? (.int 8)).isSome = false := by decide +kernel
  refine ⟨fun htrue => ?_, fun hlisted => ?_⟩
  · have hfound : (rekeyedUsers.models.find? (keyText ·.key == "8")).isSome = true := by
      decide +kernel
    rw [htrue _ _ hreached (.int 8)] at hmissed
    cases hmissed.symm.trans hfound
  · have hkeys : keyText (.int 8) ∈ rekeyedUsers.keys.map keyText := by decide +kernel
    rw [← hlisted _ _ hreached (.int 8)] at hkeys
    cases hmissed.symm.trans hkeys

end ModelSet
end SqlRecords
