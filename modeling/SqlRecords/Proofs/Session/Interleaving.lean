import Mathlib.Logic.Function.Basic
import SqlRecords.Proofs.Session.Pools

/-! Calls to the registry of pools that run at the same time. The registry is under a lock. A call
that opens a pool keeps the lock while the backend is at work; pools that leave the registry are
closed after the lock was given back. -/
namespace SqlRecords

inductive RegistryCall (π : Type) where
  | getOrCreate (c : Config)
  /-- A pool that is put in is one of its own each time. -/
  | insert (source : String) (engine : Engine) (pool : π)
  | close (source : String)
  | closeAll

inductive CallResult where
  | pool (position : Nat)
  | inserted
  | closed (wasOpen : Bool)
  | allClosed
  deriving DecidableEq

/-- A call as an operation on a database. -/
def RegistryCall.session {π : Type} [Pool π] : RegistryCall π → Session π CallResult
  | getOrCreate c => do return .pool (← Session.poolFor c)
  | insert source engine p => do
    modify fun db => db.register source engine p
    return .inserted
  | close source => do return .closed (← Session.close source)
  | closeAll => do
    Session.closeAll
    return .allClosed

/-- How far a call has come. -/
inductive CallPhase (π : Type) where
  | waiting (call : RegistryCall π)
  | holding (call : RegistryCall π)
  /-- The lock is held while the backend is at work. -/
  | creating (c : Config)
  /-- The lock was given back, and these pools are still to be closed. -/
  | closing (positions : List Nat) (result : CallResult)
  | done (outcome : Except Failure CallResult)
  /-- The caller gave up. -/
  | cancelled

/-- A registry with the call that holds its lock, if any does, and all calls. -/
structure SharedRegistry (π : Type) where
  db : Database π
  holder : Option Nat
  calls : Nat → CallPhase π

/-- What is seen of a step. A call is named by its number, and pools by their positions. -/
inductive RegistryEvent where
  | acquired (call : Nat)
  /-- A pool is handed out; `isNew` says whether the backend made it for this call. -/
  | got (call : Nat) (source : String) (i : Nat) (isNew : Bool)
  | failed (call : Nat) (source : String)
  /-- A pool is put in the place of the one before, if there was one. -/
  | inserted (call : Nat) (source : String) (i : Nat) (before : Option Nat)
  | evicted (call : Nat) (source : String) (i : Nat)
  | missed (call : Nat) (source : String)
  | drained (call : Nat) (taken : Fields Nat)
  | silent
  deriving DecidableEq

namespace SharedRegistry
variable {π : Type}

/-- All calls are still to come, to a registry without pools. -/
def start (backends : List (Engine × Backend π)) (calls : Nat → RegistryCall π) :
    SharedRegistry π :=
  ⟨.empty backends, none, fun k => .waiting (calls k)⟩

def advance (s : SharedRegistry π) (k : Nat) (phase : CallPhase π) : SharedRegistry π :=
  { s with calls := Function.update s.calls k phase }

/-- A call leaves a database behind and gives the lock back. -/
def release (s : SharedRegistry π) (k : Nat) (db : Database π) (phase : CallPhase π) :
    SharedRegistry π :=
  ⟨db, none, Function.update s.calls k phase⟩

@[simp] theorem calls_advance_self (s : SharedRegistry π) (k : Nat) (phase : CallPhase π) :
    (s.advance k phase).calls k = phase := Function.update_self ..

@[simp] theorem calls_release_self (s : SharedRegistry π) (k : Nat) (db : Database π)
    (phase : CallPhase π) : (s.release k db phase).calls k = phase := Function.update_self ..

/-- One step of one call, or of the surroundings. -/
inductive Step [Pool π] (s : SharedRegistry π) : RegistryEvent → SharedRegistry π → Prop
  | acquire {k : Nat} {call : RegistryCall π} (hfree : s.holder = none)
    (hk : s.calls k = .waiting call) :
    Step s (.acquired k) { s.advance k (.holding call) with holder := some k }
  | found {k i : Nat} {c : Config} (hlock : s.holder = some k)
    (hk : s.calls k = .holding (.getOrCreate c)) (hi : s.db.registry.get? c.name = some i) :
    Step s (.got k c.name i false) (s.release k s.db (.done (.ok (.pool i))))
  | missing {k : Nat} {c : Config} (hlock : s.holder = some k)
    (hk : s.calls k = .holding (.getOrCreate c)) (hnone : s.db.registry.get? c.name = none) :
    Step s .silent (s.advance k (.creating c))
  | created {k : Nat} {c : Config} {p : π} (hlock : s.holder = some k)
    (hk : s.calls k = .creating c) (hp : s.db.opening c = .ok p) :
    Step s (.got k c.name s.db.opened.length true) (s.release k (s.db.register c.name c.engine p)
      (.done (.ok (.pool s.db.opened.length))))
  | failed {k : Nat} {c : Config} {f : Failure} (hlock : s.holder = some k)
    (hk : s.calls k = .creating c) (hf : s.db.opening c = .error f) :
    Step s (.failed k c.name) (s.release k s.db (.done (.error f)))
  | inserted {k : Nat} {source : String} {engine : Engine} {p : π} (hlock : s.holder = some k)
    (hk : s.calls k = .holding (.insert source engine p)) :
    Step s (.inserted k source s.db.opened.length (s.db.registry.get? source))
      (s.release k (s.db.register source engine p) (.done (.ok .inserted)))
  | missed {k : Nat} {source : String} (hlock : s.holder = some k)
    (hk : s.calls k = .holding (.close source)) (hnone : s.db.registry.get? source = none) :
    Step s (.missed k source) (s.release k s.db (.done (.ok (.closed false))))
  | evicted {k i : Nat} {source : String} (hlock : s.holder = some k)
    (hk : s.calls k = .holding (.close source)) (hi : s.db.registry.get? source = some i) :
    Step s (.evicted k source i) (s.release k (s.db.evict source) (.closing [i] (.closed true)))
  /-- The registry hands its pools out in any order. -/
  | drained {k : Nat} {order : List Nat} (hlock : s.holder = some k)
    (hk : s.calls k = .holding .closeAll) (horder : order.Perm s.db.positions) :
    Step s (.drained k s.db.registry)
      (s.release k { s.db with registry := [] } (.closing order .allClosed))
  | closed {k i : Nat} {rest : List Nat} {result : CallResult} {db : Database π}
    (hk : s.calls k = .closing (i :: rest) result)
    (hclose : (Session.closeAt i).run.run s.db = (.ok (), db)) :
    Step s .silent { s.advance k (.closing rest result) with db := db }
  | notClosed {k i : Nat} {rest : List Nat} {result : CallResult} {db : Database π} {f : Failure}
    (hk : s.calls k = .closing (i :: rest) result)
    (hclose : (Session.closeAt i).run.run s.db = (.error f, db)) :
    Step s .silent { s.advance k (.done (.error f)) with db := db }
  | finished {k : Nat} {result : CallResult} (hk : s.calls k = .closing [] result) :
    Step s .silent (s.advance k (.done (.ok result)))
  /-- A call that is dropped gives its lock back. -/
  | cancelled {k : Nat} (hk : ∀ outcome, s.calls k ≠ .done outcome) :
    Step s .silent { s.advance k .cancelled with
      holder := if s.holder = some k then none else s.holder }
  /-- A pool works for one who has it. -/
  | worked (i : Nat) (f : π → π) : Step s .silent { s with db := s.db.modifyPool i f }
  /-- From now on the backends answer like this. -/
  | answered (backends : List (Engine × Backend π)) :
    Step s .silent { s with db := { s.db with backends := backends } }

inductive Run [Pool π] : SharedRegistry π → List RegistryEvent → SharedRegistry π → Prop
  | refl (s : SharedRegistry π) : Run s [] s
  | step {s mid s' : SharedRegistry π} {e : RegistryEvent} {events : List RegistryEvent}
    (h : Step s e mid) (hrun : Run mid events s') : Run s (e :: events) s'

end SharedRegistry

namespace RegistryEvent

/-- Whether a call is through with the registry at an event, and how it goes on. -/
def Ends {π : Type} (k : Nat) (call : RegistryCall π) (phase : CallPhase π) : RegistryEvent → Prop
  | got k' source i _ =>
    k' = k ∧ (∃ c, call = .getOrCreate c ∧ c.name = source) ∧ phase = .done (.ok (.pool i))
  | failed k' source =>
    k' = k ∧ (∃ c, call = .getOrCreate c ∧ c.name = source) ∧ ∃ f, phase = .done (.error f)
  | inserted k' source _ _ =>
    k' = k ∧ (∃ engine p, call = .insert source engine p) ∧ phase = .done (.ok .inserted)
  | missed k' source => k' = k ∧ call = .close source ∧ phase = .done (.ok (.closed false))
  | evicted k' source i => k' = k ∧ call = .close source ∧ phase = .closing [i] (.closed true)
  | drained k' _ => k' = k ∧ call = .closeAll ∧ ∃ order, phase = .closing order .allClosed
  | silent => phase = .cancelled
  | acquired _ => False

end RegistryEvent

namespace CallPhase
variable {π : Type}

/-- A call that works on the registry. -/
def IsCritical : CallPhase π → Prop
  | holding _ | creating _ => True
  | _ => False

/-- A call that is through with the registry. -/
def IsOver : CallPhase π → Prop
  | closing .. | done _ | cancelled => True
  | _ => False

/-- Whether a call is not through with the registry yet. -/
def IsToDo (call : RegistryCall π) : CallPhase π → Prop
  | waiting call' | holding call' => call' = call
  | creating c => .getOrCreate c = call
  | _ => False

/-- A call that ends with a result, unless it fails or is cancelled. -/
def Leads (result : CallResult) : CallPhase π → Prop
  | closing _ r | done (.ok r) => r = result
  | done (.error _) | cancelled => True
  | _ => False

/-- How a call comes on by one step. -/
inductive Moves : CallPhase π → CallPhase π → Prop
  | acquire (call : RegistryCall π) : Moves (.waiting call) (.holding call)
  | create (c : Config) : Moves (.holding (.getOrCreate c)) (.creating c)
  | leave {phase phase' : CallPhase π} (h : phase.IsCritical) (h' : phase'.IsOver) :
    Moves phase phase'
  | close (i : Nat) (rest : List Nat) (result : CallResult) :
    Moves (.closing (i :: rest) result) (.closing rest result)
  | stop (order : List Nat) (result : CallResult) (f : Failure) :
    Moves (.closing order result) (.done (.error f))
  | finish (result : CallResult) : Moves (.closing [] result) (.done (.ok result))
  | cancel {phase : CallPhase π} (h : ∀ outcome, phase ≠ .done outcome) : Moves phase .cancelled

variable {phase phase' : CallPhase π}

theorem isCritical_of_creating {c : Config} (h : phase = .creating c) : phase.IsCritical := by
  rw [h]
  trivial

theorem IsOver.not_isCritical (h : phase.IsOver) : ¬ phase.IsCritical := by
  cases phase <;> first | exact id | exact absurd h id

theorem Moves.isOver (h : phase.Moves phase') (hover : phase.IsOver) : phase'.IsOver := by
  cases h with
  | acquire | create => exact absurd hover id
  | leave hcritical => exact absurd hcritical hover.not_isCritical
  | close | stop | finish | cancel => trivial

/-- A call that has worked on the registry still does, or is through with it. -/
theorem Moves.critical_or_over (h : phase.Moves phase') (hbegun : phase.IsCritical ∨ phase.IsOver) :
    phase'.IsCritical ∨ phase'.IsOver := by
  cases h with
  | acquire | create => exact .inl trivial
  | leave _ hover => exact .inr hover
  | close | stop | finish | cancel => exact .inr trivial

theorem Moves.leads {result : CallResult} (h : phase.Moves phase') (hleads : phase.Leads result) :
    phase'.Leads result := by
  cases h with
  | acquire | create => exact absurd hleads id
  | leave hcritical hover =>
    cases phase <;> first | exact absurd hcritical id | exact absurd hleads id
  | close | finish => exact hleads
  | stop | cancel => trivial

/-- What a call came to stays. -/
theorem Moves.done {outcome : Except Failure CallResult} (h : phase.Moves phase') :
    phase ≠ .done outcome := by
  rintro rfl
  cases h with
  | leave hcritical => exact hcritical
  | cancel hnot => exact hnot outcome rfl

theorem Moves.cancelled (h : phase.Moves phase') (heq : phase = .cancelled) :
    phase' = .cancelled := by
  subst heq
  cases h with
  | leave hcritical => exact absurd hcritical id
  | cancel => rfl

end CallPhase

namespace SharedRegistry
variable {π : Type} {s s' : SharedRegistry π} {e : RegistryEvent}

/-- Only the call that holds the lock works on the registry, and while it opens a pool none is
registered for the same data source. -/
structure IsExclusive (s : SharedRegistry π) : Prop where
  holder {k : Nat} (h : (s.calls k).IsCritical) : s.holder = some k
  creating {k : Nat} {c : Config} (h : s.calls k = .creating c) :
    s.db.registry.get? c.name = none

theorem exclusive_start (backends : List (Engine × Backend π)) (calls : Nat → RegistryCall π) :
    (start backends calls).IsExclusive := ⟨False.elim, nofun⟩

/-- One call comes on, or none. -/
theorem Step.calls [Pool π] (h : Step s e s') :
    s'.calls = s.calls ∨ ∃ k phase, s'.calls = Function.update s.calls k phase ∧
      (s.calls k).Moves phase := by
  cases h with
  | acquire hfree hk => exact .inr ⟨_, _, rfl, hk ▸ .acquire _⟩
  | missing hlock hk => exact .inr ⟨_, _, rfl, hk ▸ .create _⟩
  | found hlock hk | created hlock hk | failed hlock hk | inserted hlock hk | missed hlock hk
  | evicted hlock hk | drained hlock hk =>
    exact .inr ⟨_, _, rfl, hk ▸ .leave trivial trivial⟩
  | closed hk => exact .inr ⟨_, _, rfl, hk ▸ .close ..⟩
  | notClosed hk => exact .inr ⟨_, _, rfl, hk ▸ .stop ..⟩
  | finished hk => exact .inr ⟨_, _, rfl, hk ▸ .finish _⟩
  | cancelled hk => exact .inr ⟨_, _, rfl, .cancel hk⟩
  | worked | answered => exact .inl rfl

/-- What holds of a call whenever it comes on stays true. -/
theorem Step.call_stays [Pool π] {P : CallPhase π → Prop} (hP : ∀ phase phase', phase.Moves phase' →
    P phase → P phase') (h : Step s e s') {k : Nat} (hk : P (s.calls k)) : P (s'.calls k) := by
  obtain hsame | ⟨k', phase, hupdate, hmoves⟩ := h.calls
  · exact hsame ▸ hk
  · rw [hupdate, Function.update_apply]
    split
    · next heq => exact hP _ _ hmoves (heq ▸ hk)
    · exact hk

/-- One call comes on while the registry stays as it is. -/
theorem exclusive_update (hs : s.IsExclusive) {k : Nat} {phase : CallPhase π}
    (hcalls : s'.calls = Function.update s.calls k phase)
    (hregistry : s'.db.registry = s.db.registry)
    (hholder : ∀ k', k' ≠ k → s.holder = some k' → s'.holder = some k')
    (hcritical : phase.IsCritical → s'.holder = some k)
    (hcreating : ∀ c, phase = .creating c → s.db.registry.get? c.name = none) :
    s'.IsExclusive := by
  constructor
  · intro k' hk'
    rw [hcalls, Function.update_apply] at hk'
    split at hk'
    · next heq => exact heq ▸ hcritical hk'
    · exact hholder k' ‹_› (hs.holder hk')
  · intro k' c hk'
    rw [hregistry]
    rw [hcalls, Function.update_apply] at hk'
    split at hk'
    · exact hcreating c hk'
    · exact hs.creating hk'

/-- The call that holds the lock gives it back, and no other call works on the registry. -/
theorem exclusive_release (hs : s.IsExclusive) {k : Nat} (hlock : s.holder = some k)
    (db : Database π) {phase : CallPhase π} (hover : phase.IsOver) :
    (s.release k db phase).IsExclusive := by
  have hidle (k' : Nat) : ¬ ((s.release k db phase).calls k').IsCritical := by
    unfold release
    dsimp only
    rw [Function.update_apply]
    split
    · exact hover.not_isCritical
    · next hne => exact fun h => hne (Option.some.inj ((hs.holder h).symm.trans hlock))
  exact ⟨fun h => absurd h (hidle _),
    fun h => absurd (CallPhase.isCritical_of_creating h) (hidle _)⟩

theorem Step.exclusive [Pool π] (h : Step s e s') (hs : s.IsExclusive) : s'.IsExclusive := by
  cases h with
  | found hlock | created hlock | failed hlock | inserted hlock | missed hlock | evicted hlock
  | drained hlock => exact exclusive_release hs hlock _ trivial
  | acquire hfree hk =>
    exact exclusive_update hs rfl rfl (fun k' _ h => by cases hfree.symm.trans h) (fun _ => rfl)
      nofun
  | missing hlock hk hnone =>
    refine exclusive_update hs rfl rfl (fun _ _ => id) (fun _ => hlock) fun c h => ?_
    cases h
    exact hnone
  | closed hk hclose | notClosed hk hclose =>
    have hregistry := (Session.closeAt_same hclose).1
    exact exclusive_update hs rfl hregistry (fun _ _ => id) nofun nofun
  | finished hk => exact exclusive_update hs rfl rfl (fun _ _ => id) nofun nofun
  | cancelled hk =>
    refine exclusive_update hs rfl rfl (fun k' hne h => ?_) nofun nofun
    dsimp only
    rw [if_neg, h]
    rw [h]
    exact fun heq => hne (Option.some.inj heq)
  | worked i f => exact ⟨hs.holder, hs.creating⟩
  | answered backends => exact ⟨hs.holder, hs.creating⟩

/-- A call stays to do up to the event at which it is through with the registry. -/
theorem Step.to_do [Pool π] (h : Step s e s') {k : Nat} {call : RegistryCall π}
    (hk : (s.calls k).IsToDo call) :
    (s'.calls k).IsToDo call ∨ e.Ends k call (s'.calls k) := by
  have hcomes {k' : Nat} {old phase : CallPhase π} (hold : s.calls k' = old)
      (hcalls : s'.calls = Function.update s.calls k' phase)
      (hself : old.IsToDo call → phase.IsToDo call ∨ e.Ends k' call phase) :
      (s'.calls k).IsToDo call ∨ e.Ends k call (s'.calls k) := by
    rw [hcalls]
    by_cases heq : k = k'
    · rw [← heq] at hold hself ⊢
      rw [Function.update_self]
      exact hself (hold ▸ hk)
    · rw [Function.update_of_ne heq]
      exact .inl hk
  cases h with
  | acquire hfree hk => exact hcomes hk rfl .inl
  | missing hlock hk => exact hcomes hk rfl .inl
  | found hlock hk => exact hcomes hk rfl fun h => .inr ⟨rfl, ⟨_, h.symm, rfl⟩, rfl⟩
  | created hlock hk => exact hcomes hk rfl fun h => .inr ⟨rfl, ⟨_, h.symm, rfl⟩, rfl⟩
  | failed hlock hk => exact hcomes hk rfl fun h => .inr ⟨rfl, ⟨_, h.symm, rfl⟩, _, rfl⟩
  | inserted hlock hk => exact hcomes hk rfl fun h => .inr ⟨rfl, ⟨_, _, h.symm⟩, rfl⟩
  | missed hlock hk => exact hcomes hk rfl fun h => .inr ⟨rfl, h.symm, rfl⟩
  | evicted hlock hk => exact hcomes hk rfl fun h => .inr ⟨rfl, h.symm, rfl⟩
  | drained hlock hk => exact hcomes hk rfl fun h => .inr ⟨rfl, h.symm, _, rfl⟩
  | closed hk | notClosed hk | finished hk => exact hcomes hk rfl False.elim
  | cancelled => exact hcomes rfl rfl fun _ => .inr rfl
  | worked | answered => exact .inl hk

namespace Run
variable [Pool π] {events : List RegistryEvent}

/-- A call that came to something got through with the registry at some event. -/
theorem ended (h : Run s events s') {k : Nat} {call : RegistryCall π}
    (hk : (s.calls k).IsToDo call) {outcome : Except Failure CallResult}
    (hdone : s'.calls k = .done outcome) :
    ∃ e ∈ events, ∃ mid rest, e.Ends k call (mid.calls k) ∧ Run mid rest s' := by
  induction h with
  | refl =>
    rw [hdone] at hk
    exact hk.elim
  | @step s mid s' e events hstep hrun ih =>
    obtain hmid | hends := hstep.to_do hk
    · obtain ⟨e', he', hrest⟩ := ih hmid hdone
      exact ⟨e', List.mem_cons_of_mem e he', hrest⟩
    · exact ⟨e, List.mem_cons_self, mid, events, hends, hrun⟩

theorem exclusive (h : Run s events s') (hs : s.IsExclusive) : s'.IsExclusive := by
  induction h with
  | refl => exact hs
  | step h _ ih => exact ih (h.exclusive hs)

/-- What holds of a call whenever it comes on stays true. -/
theorem call_stays {P : CallPhase π → Prop} (hP : ∀ phase phase', phase.Moves phase' →
    P phase → P phase') (h : Run s events s') {k : Nat} (hk : P (s.calls k)) : P (s'.calls k) := by
  induction h with
  | refl => exact hk
  | step h _ ih => exact ih (h.call_stays hP hk)

theorem done_stays (h : Run s events s') {k : Nat} {outcome : Except Failure CallResult}
    (hk : s.calls k = .done outcome) : s'.calls k = .done outcome :=
  h.call_stays (fun _ _ hmoves heq => absurd heq hmoves.done) hk

/-- An event is seen at some step. -/
theorem step_of_mem (h : Run s events s') {e : RegistryEvent} (he : e ∈ events) :
    ∃ mid mid' rest, Step mid e mid' ∧ Run mid' rest s' := by
  induction h with
  | refl => cases he
  | @step s mid s' e' events hstep hrun ih =>
    obtain rfl | he := List.mem_cons.mp he
    · exact ⟨s, mid, events, hstep, hrun⟩
    · exact ih he

/-- A call that gets a pool is seen to get it. -/
theorem got_of_done (h : Run s events s') {k : Nat} {c : Config}
    (hk : (s.calls k).IsToDo (.getOrCreate c)) {i : Nat}
    (hdone : s'.calls k = .done (.ok (.pool i))) : ∃ isNew, .got k c.name i isNew ∈ events := by
  obtain ⟨e, he, mid, rest, hends, hrest⟩ := h.ended hk hdone
  cases e with
  | acquired => exact hends.elim
  | got k' source j isNew =>
    obtain ⟨rfl, ⟨c', hc, rfl⟩, hmid⟩ := hends
    cases hc
    cases hdone.symm.trans (hrest.done_stays hmid)
    exact ⟨isNew, he⟩
  | failed k' source =>
    obtain ⟨-, -, f, hmid⟩ := hends
    cases hdone.symm.trans (hrest.done_stays hmid)
  | inserted k' source j before =>
    obtain ⟨-, ⟨engine, p, hcall⟩, -⟩ := hends
    cases hcall
  | evicted | missed => cases hends.2.1
  | drained => cases hends.2.1
  | silent => cases hdone.symm.trans (hrest.call_stays (fun _ _ => CallPhase.Moves.cancelled) hends)

/-- A call to close that came to something evicted a pool or found none. -/
theorem decided_of_done (h : Run s events s') {k : Nat} {source : String}
    (hk : (s.calls k).IsToDo (.close source)) {outcome : Except Failure CallResult}
    (hdone : s'.calls k = .done outcome) :
    (∃ i, .evicted k source i ∈ events) ∨
      .missed k source ∈ events ∧ outcome = .ok (.closed false) := by
  obtain ⟨e, he, mid, rest, hends, hrest⟩ := h.ended hk hdone
  cases e with
  | acquired => exact hends.elim
  | got | failed =>
    obtain ⟨-, ⟨c, hcall, -⟩, -⟩ := hends
    cases hcall
  | inserted =>
    obtain ⟨-, ⟨engine, p, hcall⟩, -⟩ := hends
    cases hcall
  | missed k' source' =>
    obtain ⟨rfl, hcall, hmid⟩ := hends
    cases hcall
    cases hdone.symm.trans (hrest.done_stays hmid)
    exact .inr ⟨he, rfl⟩
  | evicted k' source' i =>
    obtain ⟨rfl, hcall, -⟩ := hends
    cases hcall
    exact .inl ⟨i, he⟩
  | drained => cases hends.2.1
  | silent => cases hdone.symm.trans (hrest.call_stays (fun _ _ => CallPhase.Moves.cancelled) hends)

theorem evicted_leads (h : Run s events s') {k i : Nat} {source : String}
    (he : .evicted k source i ∈ events) : (s'.calls k).Leads (.closed true) := by
  obtain ⟨mid, mid', rest, hstep, hrun⟩ := h.step_of_mem he
  refine hrun.call_stays (fun _ _ hmoves => hmoves.leads) ?_
  cases hstep
  rw [calls_release_self]
  rfl

theorem append {mid : SharedRegistry π} {front back : List RegistryEvent} (h : Run s front mid)
    (hback : Run mid back s') : Run s (front ++ back) s' := by
  induction h with
  | refl => exact hback
  | step hstep _ ih => exact .step hstep (ih hback)

theorem of_append {front back : List RegistryEvent} (h : Run s (front ++ back) s') :
    ∃ mid, Run s front mid ∧ Run mid back s' := by
  induction front generalizing s with
  | nil => exact ⟨s, .refl s, h⟩
  | cons e front ih =>
    cases h with
    | step hstep hrun =>
      obtain ⟨mid, hfront, hback⟩ := ih hrun
      exact ⟨mid, .step hstep hfront, hback⟩

end Run

/-- A step after which a call still works on the registry leaves the registry as it is. -/
theorem Step.registry_of_critical [Pool π] (h : Step s e s') (hs : s.IsExclusive) {k : Nat}
    (hk : (s.calls k).IsCritical) (hk' : (s'.calls k).IsCritical) :
    s'.db.registry = s.db.registry := by
  have hreleased {k' : Nat} (db : Database π) {phase : CallPhase π} (hlock : s.holder = some k')
      (hstill : ((s.release k' db phase).calls k).IsCritical) (hover : phase.IsOver) : False := by
    have heq : k' = k := Option.some.inj (hlock.symm.trans (hs.holder hk))
    subst heq
    rw [calls_release_self] at hstill
    exact hover.not_isCritical hstill
  cases h with
  | found hlock | created hlock | failed hlock | inserted hlock | missed hlock | evicted hlock
  | drained hlock => exact (hreleased _ hlock hk' trivial).elim
  | acquire | missing | finished | cancelled | worked | answered => rfl
  | closed hk hclose | notClosed hk hclose => exact (Session.closeAt_same hclose).1

namespace Run
variable [Pool π] {events : List RegistryEvent}

/-- Nobody else changes the registry while a call works on it. -/
theorem registry_of_critical (h : Run s events s') (hs : s.IsExclusive) {k : Nat}
    (hk : (s.calls k).IsCritical) (hk' : (s'.calls k).IsCritical) :
    s'.db.registry = s.db.registry := by
  induction h with
  | refl => rfl
  | @step s mid s' e events hstep hrun ih =>
    have hmid : (mid.calls k).IsCritical ∨ (mid.calls k).IsOver :=
      hstep.call_stays (fun _ _ hmoves => hmoves.critical_or_over) (.inl hk)
    obtain hmid | hmid := hmid
    · exact (ih (hstep.exclusive hs) hmid hk').trans (hstep.registry_of_critical hs hk hmid)
    · have hover := hrun.call_stays (fun _ _ hmoves => hmoves.isOver) hmid
      exact absurd hk' hover.not_isCritical

/-- A call that fails to open a pool leaves the registry as it was when the call got the lock. -/
theorem registry_of_failed (hs : s.IsExclusive) {k : Nat} {source : String}
    {between : List RegistryEvent}
    (h : Run s (.acquired k :: between ++ [.failed k source]) s') :
    s'.db.registry = s.db.registry := by
  cases h with
  | @step _ first _ _ _ hacquire hrun =>
  obtain ⟨last, hbetween, hfailed⟩ := hrun.of_append
  cases hfailed with
  | @step _ final _ _ _ hfailed hrefl =>
  cases hrefl
  have hexclusive := hacquire.exclusive hs
  cases hacquire with
  | @acquire _ call hfree hk =>
  cases hfailed with
  | failed hlock hcreating hf =>
    have hbegun : ((s.advance k (.holding call)).calls k).IsCritical := by
      rw [calls_advance_self]
      trivial
    exact hbetween.registry_of_critical hexclusive hbegun
      (CallPhase.isCritical_of_creating hcreating)

end Run

section
variable [Pool π] {k : Nat}

/-- Whether a call may come to an outcome and leave a database behind while all others stay. -/
def MayEnd (s : SharedRegistry π) (k : Nat) (result : Except Failure CallResult × Database π) :
    Prop :=
  ∃ events s', Run s events s' ∧ s'.db = result.2 ∧ s'.holder = none ∧
    s'.calls = Function.update s.calls k (.done result.1)

theorem mayEnd_of_step {mid : SharedRegistry π} {k : Nat} {phase : CallPhase π}
    {result : Except Failure CallResult × Database π} (h : Step s e mid)
    (hcalls : mid.calls = Function.update s.calls k phase) (hmid : mid.MayEnd k result) :
    s.MayEnd k result := by
  obtain ⟨events, s', hrun, hdb, hfree, hcalls'⟩ := hmid
  refine ⟨e :: events, s', .step h hrun, hdb, hfree, ?_⟩
  rw [hcalls', hcalls, Function.update_idem]

theorem mayEnd_of_last {k : Nat} {result : Except Failure CallResult × Database π}
    (h : Step s e s') (hfree : s'.holder = none) (hdb : s'.db = result.2)
    (hcalls : s'.calls = Function.update s.calls k (.done result.1)) : s.MayEnd k result :=
  ⟨[e], s', .step h (.refl s'), hdb, hfree, hcalls⟩

/-- A call closes its pools one after another, up to the first that fails to close. -/
theorem mayEnd_of_closing {order : List Nat} {result : CallResult} (hfree : s.holder = none)
    (hk : s.calls k = .closing order result) :
    s.MayEnd k
      ((do Session.closeEach order; return result : Session π CallResult).run.run s.db) := by
  induction order generalizing s with
  | nil => exact mayEnd_of_last (.finished hk) hfree rfl rfl
  | cons i rest ih =>
    rw [Session.closeEach_cons, bind_assoc, Session.run_bind]
    cases hclose : (Session.closeAt i).run.run s.db with
    | mk outcome db =>
    cases outcome with
    | error f => exact mayEnd_of_last (.notClosed hk hclose) hfree rfl rfl
    | ok u => exact mayEnd_of_step (.closed hk hclose) rfl (ih hfree (Function.update_self ..))

theorem mayEnd_of_creating {c : Config} (hlock : s.holder = some k) (hk : s.calls k = .creating c)
    (hnone : s.db.registry.get? c.name = none) :
    s.MayEnd k ((RegistryCall.getOrCreate c).session.run.run s.db) := by
  rw [RegistryCall.session, Session.run_bind, Session.run_poolFor, hnone]
  dsimp only
  cases hp : s.db.opening c with
  | ok p => exact mayEnd_of_last (.created hlock hk hp) rfl rfl rfl
  | error f => exact mayEnd_of_last (.failed hlock hk hp) rfl rfl rfl

theorem mayEnd_of_holding {call : RegistryCall π} (hlock : s.holder = some k)
    (hk : s.calls k = .holding call) : s.MayEnd k (call.session.run.run s.db) := by
  cases call with
  | getOrCreate c =>
    cases hi : s.db.registry.get? c.name with
    | some i =>
      rw [RegistryCall.session, Session.run_bind, Session.run_poolFor, hi]
      exact mayEnd_of_last (.found hlock hk hi) rfl rfl rfl
    | none =>
      refine mayEnd_of_step (.missing hlock hk hi) rfl ?_
      exact mayEnd_of_creating hlock (Function.update_self ..) hi
  | insert source engine p => exact mayEnd_of_last (.inserted hlock hk) rfl rfl rfl
  | close source =>
    cases hi : s.db.registry.get? source with
    | none =>
      rw [RegistryCall.session, Session.run_bind, Session.run_close, hi]
      exact mayEnd_of_last (.missed hlock hk hi) rfl rfl rfl
    | some i =>
      have hsession : (RegistryCall.close source).session.run.run s.db =
          (do Session.closeEach [i]; return .closed true : Session π CallResult).run.run
            (s.db.evict source) := by
        rw [RegistryCall.session, Session.run_bind, Session.run_close, hi, Session.closeEach_cons,
          bind_assoc]
        dsimp only
        rw [Session.run_bind, Session.run_bind]
        cases (Session.closeAt i).run.run (s.db.evict source) with
        | mk outcome db => cases outcome <;> rfl
      rw [hsession]
      exact mayEnd_of_step (.evicted hlock hk hi) rfl
        (mayEnd_of_closing rfl (Function.update_self ..))
  | closeAll =>
    have hclosing := mayEnd_of_closing (s := s.release k { s.db with registry := [] }
      (.closing s.db.positions .allClosed)) rfl (Function.update_self ..)
    exact mayEnd_of_step (.drained hlock hk (.refl _)) rfl hclosing

/-- A call that is alone does what its operation does. -/
theorem mayEnd_alone {call : RegistryCall π} (hfree : s.holder = none)
    (hk : s.calls k = .waiting call) : s.MayEnd k (call.session.run.run s.db) :=
  mayEnd_of_step (.acquire hfree hk) rfl (mayEnd_of_holding rfl (Function.update_self ..))

end
end SharedRegistry
end SqlRecords
