import SqlRecords.Pool.Scripted
import SqlRecords.Proofs.Session.Interleaving

/-! What calls that race for the pool of a data source come to. -/
namespace SqlRecords

namespace RegistryEvent
variable {π : Type}

/-- What is registered for a data source after an event. -/
def after (source : String) (registered : Option Nat) : RegistryEvent → Option Nat
  | got _ name i true => if source = name then some i else registered
  | inserted _ name i _ => if source = name then some i else registered
  | evicted _ name _ => if source = name then none else registered
  | drained .. => none
  | _ => registered

/-- Whether an event is one that may be seen at a state of the database. -/
def Fits (db : Database π) : RegistryEvent → Prop
  | got _ name i false => db.registry.get? name = some i
  | got _ name i true => db.registry.get? name = none ∧ i = db.opened.length
  | inserted _ name i before => db.registry.get? name = before ∧ i = db.opened.length
  | evicted _ name i => db.registry.get? name = some i
  | missed _ name => db.registry.get? name = none
  | drained _ taken => taken = db.registry
  | acquired _ | failed .. | silent => True

/-- Whether a pool of a data source is evicted or replaced. -/
def takesOut (source : String) : RegistryEvent → Bool
  | inserted _ name _ before => name == source && before.isSome
  | evicted _ name _ => name == source
  | drained _ taken => taken.contains source
  | _ => false

/-- Whether the pool at a position is evicted or replaced. -/
def takes (i : Nat) : RegistryEvent → Bool
  | inserted _ _ _ before => before == some i
  | evicted _ _ j => j == i
  | drained _ taken => taken.any (·.2 == i)
  | _ => false

/-- Whether a backend makes a pool for a data source. -/
def makes (source : String) : RegistryEvent → Bool
  | got _ name _ true => name == source
  | _ => false

/-- Whether an event other than a call to close may change what is registered for a data source. -/
def disturbs (source : String) : RegistryEvent → Bool
  | got _ name _ true => name == source
  | inserted _ name _ _ => name == source
  | drained .. => true
  | _ => false

/-- What a call to close a data source finds: its pool or none. -/
def decision? (source : String) : RegistryEvent → Option (Nat × Option Nat)
  | evicted k name i => if name = source then some (k, some i) else none
  | missed k name => if name = source then some (k, none) else none
  | _ => none

variable {db : Database π} {e : RegistryEvent} {source : String}

/-- While a pool stays registered it is the one that is handed out, and no other is made. -/
theorem of_registered (hfits : e.Fits db) {i : Nat} (hi : db.registry.get? source = some i)
    (hkept : e.takesOut source = false) :
    e.after source (some i) = some i ∧ e.makes source = false ∧
      ∀ k j isNew, e = .got k source j isNew → j = i := by
  cases e with
  | acquired | failed | missed | silent => exact ⟨rfl, rfl, nofun⟩
  | got k name j isNew =>
    cases isNew with
    | false =>
      refine ⟨rfl, rfl, fun k' j' isNew' heq => ?_⟩
      cases heq
      exact Option.some.inj (hfits.symm.trans hi)
    | true =>
      have hne : name ≠ source := by
        rintro rfl
        cases hi.symm.trans hfits.1
      refine ⟨if_neg hne.symm, beq_false_of_ne hne, fun k' j' isNew' heq => ?_⟩
      cases heq
      exact absurd rfl hne
  | inserted k name j before =>
    have hne : name ≠ source := by
      rintro rfl
      have hbefore : before = some i := hfits.1.symm.trans hi
      simp [takesOut, hbefore] at hkept
    exact ⟨if_neg hne.symm, rfl, nofun⟩
  | evicted k name j =>
    have hne : source ≠ name := fun heq => ne_of_beq_false hkept heq.symm
    exact ⟨if_neg hne, rfl, nofun⟩
  | drained k taken =>
    rw [takesOut, Fields.contains, show taken = db.registry from hfits, hi] at hkept
    cases hkept

/-- Where no pool is registered, none is handed out before one is registered. -/
theorem of_none (hfits : e.Fits db) (hnone : db.registry.get? source = none) :
    e.after source none = none ∧ e.makes source = false ∧
        (∀ k j isNew, e ≠ .got k source j isNew) ∨
      ∃ i, e.after source none = some i ∧ ∀ k j isNew, e = .got k source j isNew → j = i := by
  cases e with
  | acquired | failed | missed | silent => exact .inl ⟨rfl, rfl, nofun⟩
  | got k name j isNew =>
    cases isNew with
    | false =>
      refine .inl ⟨rfl, rfl, fun k' j' isNew' heq => ?_⟩
      cases heq
      cases hnone.symm.trans hfits
    | true =>
      by_cases heq : source = name
      · refine .inr ⟨j, if_pos heq, fun k' j' isNew' h => ?_⟩
        cases h
        rfl
      · refine .inl ⟨if_neg heq, beq_false_of_ne (Ne.symm heq), fun k' j' isNew' h => ?_⟩
        cases h
        exact heq rfl
  | inserted k name j before =>
    by_cases heq : source = name
    · exact .inr ⟨j, if_pos heq, nofun⟩
    · exact .inl ⟨if_neg heq, rfl, nofun⟩
  | evicted k name j => exact .inl ⟨ite_self none, rfl, nofun⟩
  | drained => exact .inl ⟨rfl, rfl, nofun⟩

/-- A pool that is registered after an event was registered before or is new. -/
theorem after_some (hfits : e.Fits db) {i : Nat}
    (h : e.after source (db.registry.get? source) = some i) :
    db.registry.get? source = some i ∨ i = db.opened.length := by
  cases e with
  | acquired | failed | missed | silent => exact .inl h
  | got k name j isNew =>
    cases isNew with
    | false => exact .inl h
    | true =>
      obtain ⟨-, heq⟩ | ⟨-, hsame⟩ := ite_eq_iff.mp h
      · exact .inr ((Option.some.inj heq).symm.trans hfits.2)
      · exact .inl hsame
  | inserted k name j before =>
    obtain ⟨-, heq⟩ | ⟨-, hsame⟩ := ite_eq_iff.mp h
    · exact .inr ((Option.some.inj heq).symm.trans hfits.2)
    · exact .inl hsame
  | evicted k name j =>
    obtain ⟨-, heq⟩ | ⟨-, hsame⟩ := ite_eq_iff.mp h
    · cases heq
    · exact .inl hsame
  | drained => cases h

/-- A pool that is taken out was registered and no longer is. -/
theorem of_takes (hfits : e.Fits db) (hdb : db.IsTidy) {i : Nat} (h : e.takes i = true) :
    ∃ source, db.registry.get? source = some i ∧ e.after source (some i) ≠ some i := by
  cases e with
  | acquired | got | failed | missed | silent => cases h
  | inserted k name j before =>
    have hi : db.registry.get? name = some i := hfits.1.trans (eq_of_beq h)
    refine ⟨name, hi, fun heq => ?_⟩
    have hj : j = i := Option.some.inj ((if_pos rfl).symm.trans heq)
    exact absurd (hdb.opened hi) (hj ▸ hfits.2 ▸ Nat.lt_irrefl _)
  | evicted k name j =>
    have hj : j = i := eq_of_beq h
    refine ⟨name, hj ▸ hfits, fun heq => ?_⟩
    cases (if_pos rfl).symm.trans heq
  | drained k taken =>
    obtain ⟨⟨name, j⟩, hmem, heq⟩ := List.any_eq_true.mp h
    have htaken : taken = db.registry := hfits
    have hj : j = i := eq_of_beq heq
    exact ⟨name, Fields.get?_of_mem hdb.names (htaken ▸ hj ▸ hmem), nofun⟩

/-- An event that puts no pool in its place leaves a data source as it is, unless it evicts. -/
theorem after_of_calm (hcalm : e.disturbs source = false) (registered : Option Nat)
    (hevicted : ∀ k i, e ≠ .evicted k source i) : e.after source registered = registered := by
  cases e with
  | acquired | failed | missed | silent => rfl
  | got k name j isNew =>
    cases isNew with
    | false => rfl
    | true => exact if_neg fun heq => ne_of_beq_false hcalm heq.symm
  | inserted k name j before => exact if_neg fun heq => ne_of_beq_false hcalm heq.symm
  | evicted k name j => exact if_neg fun (heq : source = name) => hevicted k j (heq ▸ rfl)
  | drained => cases hcalm

/-- Where no pool is registered and none is put there, a call to close finds none. -/
theorem decision_of_none (hfits : e.Fits db) (hnone : db.registry.get? source = none)
    (hcalm : e.disturbs source = false) :
    e.after source none = none ∧ ∀ d ∈ e.decision? source, d.2 = none := by
  have hevicted : ∀ k i, e ≠ .evicted k source i := by
    rintro k i rfl
    cases hnone.symm.trans hfits
  refine ⟨after_of_calm hcalm none hevicted, fun d hd => ?_⟩
  cases e with
  | acquired | failed | silent | got | inserted | drained => cases hd
  | missed k name =>
    by_cases heq : name = source
    · rw [decision?, if_pos heq] at hd
      cases hd
      rfl
    · rw [decision?, if_neg heq] at hd
      cases hd
  | evicted k name j =>
    have hne : name ≠ source := fun heq => hevicted k j (heq ▸ rfl)
    rw [decision?, if_neg hne] at hd
    cases hd

/-- Where a pool is registered and stays undisturbed, the first call to close it evicts it. -/
theorem decision_of_registered (hfits : e.Fits db) {i : Nat}
    (hi : db.registry.get? source = some i) (hcalm : e.disturbs source = false) :
    e.after source (some i) = some i ∧ e.decision? source = none ∨
      e.after source (some i) = none ∧ ∃ k, e = .evicted k source i := by
  cases e with
  | acquired | failed | silent | got | inserted | drained =>
    exact .inl ⟨after_of_calm hcalm _ nofun, rfl⟩
  | missed k name =>
    have hne : name ≠ source := by
      rintro rfl
      cases hi.symm.trans hfits
    exact .inl ⟨rfl, if_neg hne⟩
  | evicted k name j =>
    by_cases heq : name = source
    · subst heq
      cases hi.symm.trans hfits
      exact .inr ⟨if_pos rfl, k, rfl⟩
    · exact .inl ⟨if_neg (Ne.symm heq), if_neg heq⟩

end RegistryEvent

namespace SharedRegistry
variable {π : Type} {s s' : SharedRegistry π} {e : RegistryEvent}

/-- What a step does to the registry, as far as it is seen. -/
structure Shows (s : SharedRegistry π) (e : RegistryEvent) (s' : SharedRegistry π) : Prop where
  fits : e.Fits s.db
  after (source : String) :
    s'.db.registry.get? source = e.after source (s.db.registry.get? source)
  tidy (h : s.db.IsTidy) : s'.db.IsTidy
  opened : s.db.opened.length ≤ s'.db.opened.length

theorem shows_of_same (hfits : e.Fits s.db) (hregistry : s'.db.registry = s.db.registry)
    (hlength : s'.db.opened.length = s.db.opened.length)
    (hafter : ∀ source registered, e.after source registered = registered) : s.Shows e s' := by
  refine ⟨hfits, fun source => ?_, fun h => Database.isTidy_of_same h hregistry hlength,
    Nat.le_of_eq hlength.symm⟩
  rw [hregistry, hafter]

theorem shows_register (hfits : e.Fits s.db) {source : String} {engine : Engine} {p : π}
    (hdb : s'.db = s.db.register source engine p)
    (hafter : ∀ name registered, e.after name registered =
      if name = source then some s.db.opened.length else registered) : s.Shows e s' := by
  refine ⟨hfits, fun name => ?_, fun h => hdb ▸ Database.isTidy_register h source engine p, ?_⟩
  · rw [hdb, Database.registry_register, Fields.get?_insert, hafter]
  · rw [hdb, Database.opened_register, List.length_append]
    exact Nat.le_add_right _ _

theorem Step.shows [Pool π] (h : Step s e s') (hs : s.IsExclusive) : s.Shows e s' := by
  cases h with
  | acquire | missing | finished | cancelled | answered =>
    exact shows_of_same trivial rfl rfl fun _ _ => rfl
  | failed => exact shows_of_same trivial rfl rfl fun _ _ => rfl
  | found hlock hk hi => exact shows_of_same hi rfl rfl fun _ _ => rfl
  | created hlock hk hp => exact shows_register ⟨hs.creating hk, rfl⟩ rfl fun _ _ => rfl
  | inserted hlock hk => exact shows_register ⟨rfl, rfl⟩ rfl fun _ _ => rfl
  | missed hlock hk hn => exact shows_of_same hn rfl rfl fun _ _ => rfl
  | @evicted k i source hlock hk hi =>
    refine ⟨hi, fun name => ?_, fun h => Database.isTidy_evict h source, Nat.le_refl _⟩
    exact Fields.get?_erase _ source name
  | drained => exact ⟨rfl, fun _ => rfl, fun _ => Database.isTidy_of_nil rfl, Nat.le_refl _⟩
  | closed hk hclose | notClosed hk hclose =>
    obtain ⟨hregistry, hlength⟩ := Session.closeAt_same hclose
    exact shows_of_same trivial hregistry hlength fun _ _ => rfl
  | worked i f => exact shows_of_same trivial rfl (Database.length_modifyPool ..) fun _ _ => rfl

namespace Run
variable [Pool π] {events : List RegistryEvent}

/-- While a pool stays registered every call gets that one, and no other is made. -/
theorem got_registered (h : Run s events s') (hs : s.IsExclusive) {source : String} {i : Nat}
    (hi : s.db.registry.get? source = some i) (hkept : ∀ e ∈ events, e.takesOut source = false) :
    (∀ k j isNew, .got k source j isNew ∈ events → j = i) ∧
      events.countP (·.makes source) = 0 := by
  induction h with
  | refl => exact ⟨nofun, rfl⟩
  | @step s mid s' e events hstep hrun ih =>
    obtain ⟨he, hrest⟩ := List.forall_mem_cons.mp hkept
    have hshows := hstep.shows hs
    obtain ⟨hafter, hmakes, hgot⟩ := RegistryEvent.of_registered hshows.fits hi he
    have hmid : mid.db.registry.get? source = some i := by rw [hshows.after, hi, hafter]
    obtain ⟨hsame, hcount⟩ := ih (hstep.exclusive hs) hmid hrest
    refine ⟨fun k j isNew hmem => ?_, ?_⟩
    · obtain heq | hmem := List.mem_cons.mp hmem
      · exact hgot k j isNew heq.symm
      · exact hsame k j isNew hmem
    · rw [List.countP_cons_of_neg (by rw [hmakes]; exact Bool.false_ne_true), hcount]

/-- Between two evictions or replacements all calls get the same pool, and a backend makes at most
one. -/
theorem got_same (h : Run s events s') (hs : s.IsExclusive) {source : String}
    (hkept : ∀ e ∈ events, e.takesOut source = false) :
    (∃ i, ∀ k j isNew, .got k source j isNew ∈ events → j = i) ∧
      events.countP (·.makes source) ≤ 1 := by
  induction h with
  | refl => exact ⟨⟨0, nofun⟩, Nat.zero_le _⟩
  | @step s mid s' e events hstep hrun ih =>
    obtain ⟨he, hrest⟩ := List.forall_mem_cons.mp hkept
    have hshows := hstep.shows hs
    have hexclusive := hstep.exclusive hs
    cases hi : s.db.registry.get? source with
    | some i =>
      obtain ⟨hsame, hcount⟩ := got_registered (.step hstep hrun) hs hi hkept
      exact ⟨⟨i, hsame⟩, hcount ▸ Nat.zero_le _⟩
    | none =>
      obtain ⟨hafter, hmakes, hgot⟩ | ⟨i, hafter, hgot⟩ := RegistryEvent.of_none hshows.fits hi
      · obtain ⟨⟨i, hsame⟩, hcount⟩ := ih hexclusive hrest
        refine ⟨⟨i, fun k j isNew hmem => ?_⟩, ?_⟩
        · obtain heq | hmem := List.mem_cons.mp hmem
          · exact absurd heq.symm (hgot k j isNew)
          · exact hsame k j isNew hmem
        · rwa [List.countP_cons_of_neg (by rw [hmakes]; exact Bool.false_ne_true)]
      · have hmid : mid.db.registry.get? source = some i := by rw [hshows.after, hi, hafter]
        obtain ⟨hsame, hcount⟩ := hrun.got_registered hexclusive hmid hrest
        refine ⟨⟨i, fun k j isNew hmem => ?_⟩, ?_⟩
        · obtain heq | hmem := List.mem_cons.mp hmem
          · exact hgot k j isNew heq.symm
          · exact hsame k j isNew hmem
        · rw [List.countP_cons, hcount]
          split <;> decide

/-- Where no pool is registered, no call to close finds one. -/
theorem decisions_none (h : Run s events s') (hs : s.IsExclusive) {source : String}
    (hnone : s.db.registry.get? source = none) (hcalm : ∀ e ∈ events, e.disturbs source = false) :
    ∀ d ∈ events.filterMap (·.decision? source), d.2 = none := by
  induction h with
  | refl => exact nofun
  | @step s mid s' e events hstep hrun ih =>
    obtain ⟨he, hrest⟩ := List.forall_mem_cons.mp hcalm
    have hshows := hstep.shows hs
    obtain ⟨hafter, hdecision⟩ := RegistryEvent.decision_of_none hshows.fits hnone he
    have hmid : mid.db.registry.get? source = none := by rw [hshows.after, hnone, hafter]
    intro d hd
    obtain ⟨e', he', hd'⟩ := List.mem_filterMap.mp hd
    obtain rfl | he' := List.mem_cons.mp he'
    · exact hdecision d hd'
    · exact ih (hstep.exclusive hs) hmid hrest d (List.mem_filterMap.mpr ⟨e', he', hd'⟩)

/-- Of the calls that close one pool the first evicts it, and the others find none. -/
theorem decisions_registered (h : Run s events s') (hs : s.IsExclusive) {source : String} {i : Nat}
    (hi : s.db.registry.get? source = some i) (hcalm : ∀ e ∈ events, e.disturbs source = false) :
    events.filterMap (·.decision? source) = [] ∨ ∃ (k : Nat) (others : List Nat),
      .evicted k source i ∈ events ∧ events.filterMap (·.decision? source) =
        (k, some i) :: others.map fun k' => (k', none) := by
  induction h with
  | refl => exact .inl rfl
  | @step s mid s' e events hstep hrun ih =>
    obtain ⟨he, hrest⟩ := List.forall_mem_cons.mp hcalm
    have hshows := hstep.shows hs
    have hexclusive := hstep.exclusive hs
    obtain ⟨hafter, hnone⟩ | ⟨hafter, k, rfl⟩ :=
      RegistryEvent.decision_of_registered hshows.fits hi he
    · have hmid : mid.db.registry.get? source = some i := by rw [hshows.after, hi, hafter]
      rw [List.filterMap_cons_none hnone]
      obtain hempty | ⟨k, others, hmem, heq⟩ := ih hexclusive hmid hrest
      · exact .inl hempty
      · exact .inr ⟨k, others, List.mem_cons_of_mem e hmem, heq⟩
    · have hmid : mid.db.registry.get? source = none := by rw [hshows.after, hi, hafter]
      have hothers := hrun.decisions_none hexclusive hmid hrest
      refine .inr ⟨k, (events.filterMap (·.decision? source)).map (·.1), List.mem_cons_self, ?_⟩
      have hfirst : RegistryEvent.decision? source (.evicted k source i) = some (k, some i) :=
        if_pos rfl
      rw [List.filterMap_cons_some hfirst, List.map_map]
      congr 1
      refine (List.map_id' _).symm.trans (List.map_congr_left fun d hd => ?_)
      exact Prod.ext rfl (hothers d hd)

/-- Of calls that race to close a pool one evicts it, and the others find none. -/
theorem close_race (h : Run s events s') (hs : s.IsExclusive) {source : String} {i : Nat}
    (hi : s.db.registry.get? source = some i) (hcalm : ∀ e ∈ events, e.disturbs source = false)
    {k : Nat} {outcome : Except Failure CallResult} (hk : (s.calls k).IsToDo (.close source))
    (hdone : s'.calls k = .done outcome) :
    ∃ winner, .evicted winner source i ∈ events ∧
      (∀ k' j, .evicted k' source j ∈ events → k' = winner) ∧
      (s'.calls winner).Leads (.closed true) ∧
      ∀ k' outcome', k' ≠ winner → (s.calls k').IsToDo (.close source) →
        s'.calls k' = .done outcome' → outcome' = .ok (.closed false) := by
  have hevicted {k' j : Nat} (hmem : .evicted k' source j ∈ events) :
      (k', some j) ∈ events.filterMap (·.decision? source) :=
    List.mem_filterMap.mpr ⟨.evicted k' source j, hmem, if_pos rfl⟩
  have hmissed {k' : Nat} (hmem : .missed k' source ∈ events) :
      (k', none) ∈ events.filterMap (·.decision? source) :=
    List.mem_filterMap.mpr ⟨.missed k' source, hmem, if_pos rfl⟩
  obtain hempty | ⟨winner, others, hwinner, hdecisions⟩ := h.decisions_registered hs hi hcalm
  · rw [hempty] at hevicted hmissed
    obtain ⟨j, hmem⟩ | ⟨hmem, -⟩ := h.decided_of_done hk hdone
    · cases hevicted hmem
    · cases hmissed hmem
  · have hfirst {k' j : Nat} (hmem : .evicted k' source j ∈ events) : k' = winner := by
      have hdecided := hevicted hmem
      rw [hdecisions] at hdecided
      obtain heq | hmem := List.mem_cons.mp hdecided
      · exact congrArg Prod.fst heq
      · obtain ⟨other, -, heq⟩ := List.mem_map.mp hmem
        cases heq
    refine ⟨winner, hwinner, fun k' j => hfirst, h.evicted_leads hwinner,
      fun k' outcome' hne hk' hdone' => ?_⟩
    obtain ⟨j, hmem⟩ | ⟨-, houtcome⟩ := h.decided_of_done hk' hdone'
    · exact absurd (hfirst hmem) hne
    · exact houtcome

end Run

/-- The pool at a position was opened and is not registered. -/
def IsGone (s : SharedRegistry π) (i : Nat) : Prop :=
  i < s.db.opened.length ∧ ∀ source, s.db.registry.get? source ≠ some i

/-- A pool that is gone is not taken out again, nor does it come back. -/
theorem Shows.stays_gone (h : s.Shows e s') (hs : s.db.IsTidy) {i : Nat} (hi : s.IsGone i) :
    e.takes i = false ∧ s'.IsGone i := by
  obtain ⟨hi, hgone⟩ := hi
  refine ⟨?_, Nat.lt_of_lt_of_le hi h.opened, fun source heq => ?_⟩
  · cases e with
    | acquired | got | failed | missed | silent => rfl
    | inserted k name j before =>
      exact beq_false_of_ne fun (heq : before = some i) => hgone name (h.fits.1.trans heq)
    | evicted k name j =>
      refine beq_false_of_ne fun (heq : j = i) => hgone name ?_
      exact heq ▸ h.fits
    | drained k taken =>
      refine List.any_eq_false.mpr fun ⟨name, j⟩ hmem heq => hgone name ?_
      have htaken : taken = s.db.registry := h.fits
      have hj : j = i := eq_of_beq heq
      exact Fields.get?_of_mem hs.names (htaken ▸ hj ▸ hmem)
  · rw [h.after source] at heq
    obtain hsame | hnew := RegistryEvent.after_some h.fits heq
    · exact hgone source hsame
    · exact absurd hi (hnew ▸ Nat.lt_irrefl _)

/-- A pool that is taken out is gone. -/
theorem Shows.gone_of_takes (h : s.Shows e s') (hs : s.db.IsTidy) {i : Nat}
    (ht : e.takes i = true) : s'.IsGone i := by
  obtain ⟨source, hi, hout⟩ := RegistryEvent.of_takes h.fits hs ht
  have hopened := hs.opened hi
  refine ⟨Nat.lt_of_lt_of_le hopened h.opened, fun name heq => ?_⟩
  rw [h.after name] at heq
  obtain hsame | hnew := RegistryEvent.after_some h.fits heq
  · rw [hs.unique hsame hi, hi] at heq
    exact hout heq
  · exact absurd hopened (hnew ▸ Nat.lt_irrefl _)

namespace Run
variable [Pool π] {events : List RegistryEvent}

theorem takes_none (h : Run s events s') (hs : s.IsExclusive) (hdb : s.db.IsTidy) {i : Nat}
    (hi : s.IsGone i) : events.countP (·.takes i) = 0 := by
  induction h with
  | refl => rfl
  | @step s mid s' e events hstep hrun ih =>
    have hshows := hstep.shows hs
    obtain ⟨he, hmid⟩ := hshows.stays_gone hdb hi
    rw [List.countP_cons_of_neg (by rw [he]; exact Bool.false_ne_true)]
    exact ih (hstep.exclusive hs) (hshows.tidy hdb) hmid

/-- Each pool is taken out once at most. -/
theorem takes_once (h : Run s events s') (hs : s.IsExclusive) (hdb : s.db.IsTidy) (i : Nat) :
    events.countP (·.takes i) ≤ 1 := by
  induction h with
  | refl => exact Nat.zero_le _
  | @step s mid s' e events hstep hrun ih =>
    have hshows := hstep.shows hs
    have hexclusive := hstep.exclusive hs
    have htidy := hshows.tidy hdb
    cases he : e.takes i with
    | true =>
      have hnone := hrun.takes_none hexclusive htidy (hshows.gone_of_takes hdb he)
      exact Nat.le_of_eq ((List.countP_cons_of_pos he).trans (congrArg (· + 1) hnone))
    | false =>
      rw [List.countP_cons_of_neg (by rw [he]; exact Bool.false_ne_true)]
      exact ih hexclusive htidy

theorem tidy (h : Run s events s') (hs : s.IsExclusive) (hdb : s.db.IsTidy) : s'.db.IsTidy := by
  induction h with
  | refl => exact hdb
  | step hstep _ ih => exact ih (hstep.exclusive hs) ((hstep.shows hs).tidy hdb)

end Run

/-- However the calls run: between two evictions or replacements of the pool of a data source all
calls get the same one, and a backend makes at most one; a call that fails to open a pool leaves the
registry as it was; a call to close evicts a pool or says that there was none, and of those that race
for one pool exactly one evicts it. No pool is taken out twice. A call that waits for a free registry
may run to its end alone, and then does what its operation does. -/
theorem one_pool_per_source [Pool π] {backends : List (Engine × Backend π)}
    {calls : Nat → RegistryCall π} {before events : List RegistryEvent}
    (hbefore : Run (start backends calls) before s) (hrun : Run s events s') :
    (∀ source, (∀ e ∈ events, e.takesOut source = false) →
      (∃ i, ∀ k c j, c.name = source → (s.calls k).IsToDo (.getOrCreate c) →
        s'.calls k = .done (.ok (.pool j)) → j = i) ∧
      events.countP (·.makes source) ≤ 1) ∧
    (∀ k source between, events = .acquired k :: between ++ [.failed k source] →
      s'.db.registry = s.db.registry) ∧
    (∀ k source outcome, (s.calls k).IsToDo (.close source) → s'.calls k = .done outcome →
      (∃ i, .evicted k source i ∈ events) ∨ outcome = .ok (.closed false)) ∧
    (∀ source i, s.db.registry.get? source = some i →
      (∀ e ∈ events, e.disturbs source = false) →
      ∀ k outcome, (s.calls k).IsToDo (.close source) → s'.calls k = .done outcome →
        ∃ winner, .evicted winner source i ∈ events ∧
          (∀ k' j, .evicted k' source j ∈ events → k' = winner) ∧
          (s'.calls winner).Leads (.closed true) ∧
          ∀ k' outcome', k' ≠ winner → (s.calls k').IsToDo (.close source) →
            s'.calls k' = .done outcome' → outcome' = .ok (.closed false)) ∧
    (∀ i, events.countP (·.takes i) ≤ 1) ∧
    ∀ k call, s'.holder = none → s'.calls k = .waiting call →
      s'.MayEnd k (call.session.run.run s'.db) := by
  have hs : s.IsExclusive := hbefore.exclusive (exclusive_start backends calls)
  have hdb : s.db.IsTidy := hbefore.tidy (exclusive_start backends calls)
    (Database.isTidy_of_nil rfl)
  refine ⟨fun source hkept => ?_, fun k source between heq => ?_,
    fun k source outcome hk hdone => (hrun.decided_of_done hk hdone).imp_right And.right,
    fun source i hi hcalm k outcome => hrun.close_race hs hi hcalm, hrun.takes_once hs hdb,
    fun k call hfree hk => mayEnd_alone hfree hk⟩
  · obtain ⟨⟨i, hsame⟩, hmade⟩ := hrun.got_same hs hkept
    refine ⟨⟨i, fun k c j hname hk hdone => ?_⟩, hmade⟩
    obtain ⟨isNew, hgot⟩ := hrun.got_of_done hk hdone
    exact hsame k j isNew (hname ▸ hgot)
  · exact Run.registry_of_failed hs (heq ▸ hrun)

def mainConfig : Config := .ofParts "main" .mysql "localhost" "app"

def sideConfig : Config := .ofParts "side" .postgres "localhost" "app"

/-- Two calls for the pool of `main`, two to close it, and others for a pool without a backend. -/
def mainCalls : Nat → RegistryCall ScriptedPool
  | 0 | 1 => .getOrCreate mainConfig
  | 2 | 3 => .close "main"
  | _ => .getOrCreate sideConfig

def mainOpens : List RegistryEvent :=
  [.acquired 0, .silent, .got 0 "main" 0 true, .acquired 1, .got 1 "main" 0 false]

def sideFails : List RegistryEvent := [.acquired 4, .silent, .failed 4 "side"]

def mainCloses : List RegistryEvent :=
  [.acquired 3, .evicted 3 "main" 0, .acquired 2, .missed 2 "main", .silent, .silent]

theorem mainCalls_run : ∃ s₁ s₂ s₃,
    Run (start [(.mysql, fun _ => .ok ScriptedPool.new)] mainCalls) mainOpens s₁ ∧
    Run s₁ sideFails s₂ ∧ Run s₂ mainCloses s₃ ∧
    (∀ k < 2, s₁.calls k = .done (.ok (.pool 0))) ∧ s₂.db.registry.get? "main" = some 0 ∧
    (s₂.calls 2).IsToDo (.close "main") ∧ s₃.calls 2 = .done (.ok (.closed false)) := by
  apply Exists.intro
  apply Exists.intro
  apply Exists.intro
  refine ⟨.step (.acquire (k := 0) rfl rfl) (.step (.missing (k := 0) rfl rfl rfl)
      (.step (.created (k := 0) (c := mainConfig) (p := ScriptedPool.new) rfl rfl rfl)
      (.step (.acquire (k := 1) rfl rfl)
      (.step (.found (k := 1) (c := mainConfig) rfl rfl rfl) (.refl _))))), ?_⟩
  refine ⟨.step (.acquire (k := 4) rfl rfl) (.step (.missing (k := 4) rfl rfl rfl)
      (.step (.failed (k := 4) (c := sideConfig) rfl rfl rfl) (.refl _))), ?_⟩
  refine ⟨.step (.acquire (k := 3) rfl rfl) (.step (.evicted (k := 3) rfl rfl rfl)
      (.step (.acquire (k := 2) rfl rfl) (.step (.missed (k := 2) rfl rfl rfl)
      (.step (.closed (k := 3) rfl rfl) (.step (.finished (k := 3) rfl) (.refl _)))))),
    fun k hk => ?_, rfl, rfl, rfl⟩
  match k, hk with
  | 0, _ | 1, _ => rfl

/-- The calls for `main` get one pool, which was made once, and one of those to close it evicts it. -/
theorem mainCalls_share_pool : ∃ s₁ s₂ s₃,
    Run (start [(.mysql, fun _ => .ok ScriptedPool.new)] mainCalls) mainOpens s₁ ∧
    Run s₁ sideFails s₂ ∧ Run s₂ mainCloses s₃ ∧
    (∃ i, ∀ k < 2, s₁.calls k = .done (.ok (.pool i))) ∧ mainOpens.countP (·.makes "main") ≤ 1 ∧
    s₂.db.registry = s₁.db.registry ∧
    (∃ winner, .evicted winner "main" 0 ∈ mainCloses ∧
      ∀ k j, .evicted k "main" j ∈ mainCloses → k = winner) ∧
    mainCloses.countP (·.takes 0) ≤ 1 := by
  obtain ⟨s₁, s₂, s₃, hopens, hfails, hcloses, hgot, hmain, htodo, hdone⟩ := mainCalls_run
  obtain ⟨hkept, -⟩ := one_pool_per_source (.refl _) hopens
  obtain ⟨-, hfailed, -⟩ := one_pool_per_source hopens hfails
  obtain ⟨-, -, -, hraced, htaken, -⟩ := one_pool_per_source (hopens.append hfails) hcloses
  obtain ⟨⟨i, hsame⟩, hmade⟩ := hkept "main" (by decide)
  obtain ⟨winner, hwinner, honly, -⟩ := hraced "main" 0 hmain (by decide) 2 _ htodo hdone
  refine ⟨s₁, s₂, s₃, hopens, hfails, hcloses, ⟨i, fun k hk => ?_⟩, hmade,
    hfailed 4 "side" [.silent] rfl, ⟨winner, hwinner, honly⟩, htaken 0⟩
  have htodo : mainCalls k = .getOrCreate mainConfig := by
    match k, hk with
    | 0, _ | 1, _ => rfl
  rw [hgot k hk, hsame k _ 0 rfl htodo (hgot k hk)]

end SharedRegistry
end SqlRecords
