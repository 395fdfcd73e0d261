import Mathlib.Data.Finset.Insert
import Mathlib.Data.Finset.Erase
import Ptvsd.Servers

/-!
# The Lifetime of the Adapter

The end of `ptvsd.adapter.__main__`: the main thread waits for all debug servers to
disconnect, and then, in `sessions.wait_until_ended`, for all sessions to end. Sessions
register and end at any time; one that ends is one for which `Session.notify_changed` finds
that all components have disconnected, and takes it out of `_sessions`.

One step is one block under the lock of `ptvsd.adapter.sessions`, one operation on
`_sessions_changed`, or one step of `ptvsd.adapter.servers`. Which sessions have registered so
far is recorded along with it; no step depends on that.

## Main results

* `not_stuck`: the main thread is not blocked on a cleared event while there are no sessions,
  in all runs in which some session has registered before it waits.
* `stuck_iff`: it is, whenever it is blocked and no session has registered.
* `Stuck.step`: it remains so until one does.
-/

namespace Ptvsd

/-- The adapter process, apart from what the sessions do. -/
structure Process where
  servers : Servers
  /-- `_sessions`. -/
  sessions : Finset ℕ
  /-- `_sessions_changed`. -/
  sessionsChanged : Bool
  /-- How far the main thread got in `wait_until_ended`, which waits before it looks; `none`
  before it calls that. -/
  main : Option WaitState
  /-- The sessions that have registered. -/
  registered : Finset ℕ

namespace Process

/-- The adapter when its main thread calls `servers.wait_until_disconnected`. -/
def init : Process := ⟨.init, ∅, false, none, ∅⟩

/-- `_sessions_changed.set()`. -/
def setChanged (p : Process) : Process :=
  { p with sessionsChanged := true, main := p.main.map WaitState.wake }

/-- `Session.register`. -/
def register (session : ℕ) (p : Process) : Process :=
  { p with
    sessions := insert session p.sessions
    registered := insert session p.registered }.setChanged

/-- The block of `Session.notify_changed` under the lock of the module. -/
def notifyChanged (session : ℕ) (p : Process) : Process :=
  if session ∈ p.sessions then { p with sessions := p.sessions.erase session }.setChanged else p

/-- `_sessions_changed.wait()`. -/
def wait (p : Process) : Process :=
  { p with main := some (if p.sessionsChanged then .looking else .blocked) }

/-- The block of `wait_until_ended` under the lock. -/
def look (p : Process) : Process :=
  let p := { p with sessionsChanged := false }
  if p.sessions = ∅ then { p with main := some .returned } else { p with main := some .looked }

/-- What the threads of the adapter do. -/
inductive Action where
  /-- Something that concerns the debug servers. -/
  | servers (a : Servers.Action)
  /-- A session registers. -/
  | register (session : ℕ)
  /-- All components of a session have disconnected. -/
  | notifyChanged (session : ℕ)
  /-- The main thread calls `wait_until_ended`. -/
  | waitUntilEnded
  /-- The main thread waits for the event. -/
  | wait
  /-- The main thread clears the event, and looks. -/
  | look

/-- The step under an action. -/
def step (p : Process) : Action → Option Process
  | .servers a => (p.servers.step a).map fun servers => { p with servers := servers }
  | .register session => some (p.register session)
  | .notifyChanged session => some (p.notifyChanged session)
  | .waitUntilEnded =>
      if p.servers.main.state = .returned ∧ p.main = none then some { p with main := some .looked }
      else none
  | .wait => if p.main = some .looked then some p.wait else none
  | .look => if p.main = some .looking then some p.look else none

end Process

/-- The process of an adapter. -/
def process : Machine Process Process.Action where
  start p := p = .init
  step := Process.step

namespace Process

variable {p p' : Process} {a : Action}

/-! ### The event and its thread -/

/-- `_sessions_changed` with the main thread. Nobody else clears the event, so that the thread
counts as about to wait even before it calls `wait_until_ended`. -/
def event (p : Process) : Event Unit where
  flag := p.sessionsChanged
  phase _ := (p.main.map WaitState.phase).getD .checked

/-- There are no sessions any more. -/
def Pending (p : Process) (_ : Unit) : Prop := p.sessions = ∅ ∧ p.registered ≠ ∅

/-- What holds in all runs: a session that has ended does not escape the main thread, and as
long as none has registered there is nothing to see. -/
structure Inv (p : Process) : Prop where
  awake : p.event.NoLost p.Pending
  subset : p.sessions ⊆ p.registered
  clear : p.registered = ∅ → p.sessionsChanged = false

theorem event_setChanged (p : Process) : p.setChanged.event = p.event.set := by
  refine Event.ext rfl (funext fun _ => ?_)
  cases hmain : p.main with
  | none => simp [event, setChanged, Event.set, hmain, Phase.wake]
  | some st => simp [event, setChanged, Event.set, hmain]

theorem setChanged_awake (p : Process) : p.setChanged.event.NoLost p.setChanged.Pending := by
  rw [event_setChanged]
  exact Event.NoLost.set _ _

theorem init_inv : init.Inv := by
  refine ⟨⟨fun _ _ => ?_, fun _ h => ?_⟩, Finset.Subset.refl _, fun _ => rfl⟩
  · rintro ⟨-, hregistered⟩
    exact absurd rfl hregistered
  · simp [event, init] at h

theorem register_inv (h : p.Inv) (session : ℕ) : (p.register session).Inv := by
  refine ⟨setChanged_awake _, ?_, fun hempty => ?_⟩
  · exact Finset.insert_subset_insert session h.subset
  · exact absurd hempty (Finset.insert_ne_empty session p.registered)

theorem notifyChanged_inv (h : p.Inv) (session : ℕ) : (p.notifyChanged session).Inv := by
  rw [notifyChanged]
  split_ifs with hmem
  · refine ⟨setChanged_awake _, ?_, fun hempty => ?_⟩
    · exact (Finset.erase_subset session p.sessions).trans h.subset
    · have hregistered : session ∈ p.registered := h.subset hmem
      have hnone : p.registered = ∅ := hempty
      simp [hnone] at hregistered
  · exact h

theorem wait_inv (h : p.Inv) (hmain : p.main = some .looked) : p.wait.Inv := by
  have hevent : p.wait.event = p.event.wait () := by
    refine Event.ext rfl (funext fun _ => ?_)
    cases hflag : p.sessionsChanged <;>
      simp [event, wait, Event.wait, hflag, WaitState.phase]
  refine ⟨?_, h.subset, h.clear⟩
  rw [hevent]
  exact h.awake.wait (by simp [event, hmain, WaitState.phase])

theorem look_inv (h : p.Inv) : p.look.Inv := by
  rw [look]
  dsimp only
  split_ifs with hempty
  · -- the thread returns
    refine ⟨⟨fun _ hphase => ?_, fun _ hphase => ?_⟩, h.subset, fun _ => rfl⟩
    · simp [event, WaitState.phase] at hphase
    · simp [event, WaitState.phase] at hphase
  · -- there are sessions
    refine ⟨⟨fun _ _ hpending => ?_, fun _ hphase => ?_⟩, h.subset, fun _ => rfl⟩
    · exact absurd hpending.1 hempty
    · simp [event, WaitState.phase] at hphase

/-- **One step keeps the invariant.** -/
theorem step_inv (h : p.Inv) (hstep : p.step a = some p') : p'.Inv := by
  cases a with
  | servers a =>
      obtain ⟨servers, -, rfl⟩ := Option.map_eq_some_iff.mp hstep
      exact ⟨h.awake, h.subset, h.clear⟩
  | register session =>
      obtain rfl := Option.some.inj hstep
      exact register_inv h session
  | notifyChanged session =>
      obtain rfl := Option.some.inj hstep
      exact notifyChanged_inv h session
  | waitUntilEnded =>
      simp only [step] at hstep
      split_ifs at hstep with hcall
      obtain rfl := Option.some.inj hstep
      have hevent : ({ p with main := some .looked } : Process).event = p.event :=
        Event.ext rfl (funext fun _ => by simp [event, hcall.2, WaitState.phase])
      refine ⟨?_, h.subset, h.clear⟩
      rw [hevent]
      exact h.awake
  | wait =>
      simp only [step] at hstep
      split_ifs at hstep with hmain
      obtain rfl := Option.some.inj hstep
      exact wait_inv h hmain
  | look =>
      simp only [step] at hstep
      split_ifs at hstep
      obtain rfl := Option.some.inj hstep
      exact look_inv h

theorem inv_of_reachable (h : process.Reachable p) : p.Inv := by
  have hinv : process.Invariant Inv := ⟨fun h => h ▸ init_inv, step_inv⟩
  exact hinv.of_reachable h

/-! ### Being stuck -/

/-- The main thread is blocked on a cleared event, and there are no sessions. -/
def Stuck (p : Process) : Prop :=
  p.main = some .blocked ∧ p.sessionsChanged = false ∧ p.sessions = ∅

/-- **When the main thread is stuck**: it is blocked, and no session has registered. -/
theorem stuck_iff (h : process.Reachable p) :
    p.Stuck ↔ p.main = some .blocked ∧ p.registered = ∅ := by
  have hinv := inv_of_reachable h
  constructor
  · rintro ⟨hmain, -, hempty⟩
    refine ⟨hmain, ?_⟩
    have hblocked : p.event.phase () = .blocked := by simp [event, hmain, WaitState.phase]
    by_contra hregistered
    exact hinv.awake.blocked () hblocked ⟨hempty, hregistered⟩
  · rintro ⟨hmain, hregistered⟩
    have hsubset := hinv.subset
    rw [hregistered] at hsubset
    exact ⟨hmain, hinv.clear hregistered, Finset.subset_empty.mp hsubset⟩

/-- **A thread that is stuck remains so** until a session registers. -/
theorem Stuck.step (h : p.Stuck) (hstep : p.step a = some p')
    (ha : ∀ session, a ≠ .register session) : p'.Stuck := by
  obtain ⟨hmain, hchanged, hempty⟩ := h
  cases a with
  | servers a =>
      obtain ⟨servers, -, rfl⟩ := Option.map_eq_some_iff.mp hstep
      exact ⟨hmain, hchanged, hempty⟩
  | register session => exact absurd rfl (ha session)
  | notifyChanged session =>
      obtain rfl := Option.some.inj hstep
      simp only [notifyChanged, hempty, Finset.notMem_empty, if_false]
      exact ⟨hmain, hchanged, hempty⟩
  | waitUntilEnded => simp [Process.step, hmain] at hstep
  | wait => simp [Process.step, hmain] at hstep
  | look => simp [Process.step, hmain] at hstep

/-- The condition on the steps of a run under which the main thread does not get stuck: some
session has registered when it waits. -/
def RegisteredFirst (p : Process) : Action → Prop
  | .wait => p.registered ≠ ∅
  | _ => True

/-- The main thread is blocked only if some session has registered. -/
def BlockedLate (p : Process) : Prop := p.main = some .blocked → p.registered ≠ ∅

theorem step_blockedLate (h : p.BlockedLate) (hC : RegisteredFirst p a)
    (hstep : p.step a = some p') : p'.BlockedLate := by
  cases a with
  | servers a =>
      obtain ⟨servers, -, rfl⟩ := Option.map_eq_some_iff.mp hstep
      exact h
  | register session =>
      obtain rfl := Option.some.inj hstep
      exact fun _ => Finset.insert_ne_empty session p.registered
  | notifyChanged session =>
      obtain rfl := Option.some.inj hstep
      rw [notifyChanged]
      split_ifs
      · intro hmain
        cases hst : p.main with
        | none => simp [setChanged, hst] at hmain
        | some st => cases st <;> simp [setChanged, hst, WaitState.wake] at hmain
      · exact h
  | waitUntilEnded =>
      simp only [step] at hstep
      split_ifs at hstep
      obtain rfl := Option.some.inj hstep
      intro hmain
      simp at hmain
  | wait =>
      simp only [step] at hstep
      split_ifs at hstep
      obtain rfl := Option.some.inj hstep
      exact fun _ => hC
  | look =>
      simp only [step] at hstep
      split_ifs at hstep
      obtain rfl := Option.some.inj hstep
      rw [look]
      dsimp only
      split_ifs
      · intro hmain
        simp at hmain
      · intro hmain
        simp at hmain

/-- **The main thread does not get stuck** in `wait_until_ended`, in all runs in which some
session has registered before it waits. -/
theorem not_stuck (h : process.ReachableWithin RegisteredFirst p) : ¬ p.Stuck := by
  have hinv : process.InvariantWithin RegisteredFirst BlockedLate := by
    refine ⟨?_, step_blockedLate⟩
    rintro p rfl hmain
    simp [init] at hmain
  intro hstuck
  obtain ⟨hmain, hregistered⟩ := (stuck_iff h.reachable).mp hstuck
  exact hinv.of_reachable h hmain hregistered

/-- A debug server connects and disconnects, while a session registers; the main thread waits
for that one, which ends. -/
theorem not_stuck_session :
    ∃ p, process.run init [.servers (.accept Servers.debugServer), .servers .mainWait,
        .servers .mainLook, .register 1, .servers (.serverDisconnect Servers.debugServer),
        .servers .mainWait, .servers .mainLook, .waitUntilEnded, .wait, .look, .wait,
        .notifyChanged 1] = some p ∧ p.main = some .looking ∧ ¬ p.Stuck := by
  have hC : process.StepsWithin RegisteredFirst init
      [.servers (.accept Servers.debugServer), .servers .mainWait, .servers .mainLook,
        .register 1, .servers (.serverDisconnect Servers.debugServer), .servers .mainWait,
        .servers .mainLook, .waitUntilEnded, .wait, .look, .wait, .notifyChanged 1] := by
    refine .cons trivial rfl (.cons trivial rfl (.cons trivial rfl (.cons trivial rfl
      (.cons trivial rfl (.cons trivial rfl (.cons trivial rfl (.cons trivial rfl
        (.cons ?_ rfl (.cons trivial rfl (.cons ?_ rfl (.cons trivial rfl trivial)))))))))))
    · exact Finset.insert_ne_empty 1 ∅
    · exact Finset.insert_ne_empty 1 ∅
  have hrun : ∃ p, process.run init [.servers (.accept Servers.debugServer), .servers .mainWait,
      .servers .mainLook, .register 1, .servers (.serverDisconnect Servers.debugServer),
      .servers .mainWait, .servers .mainLook, .waitUntilEnded, .wait, .look, .wait,
      .notifyChanged 1] = some p ∧ p.main = some .looking := ⟨_, rfl, rfl⟩
  obtain ⟨p, hp, hmain⟩ := hrun
  exact ⟨p, hp, hmain, not_stuck (Machine.ReachableWithin.run (.start rfl) hC hp)⟩

/-- **No IDE connects**: a debug server connects and disconnects again; then the main thread
waits for sessions to end that there never were. -/
theorem stuck_alone : ¬ ∀ p, process.Reachable p → ¬ p.Stuck := by
  intro h
  have hrun : ∃ p, process.run init [.servers (.accept Servers.debugServer), .servers .mainWait,
      .servers .mainLook, .servers (.serverDisconnect Servers.debugServer), .servers .mainWait,
      .servers .mainLook, .waitUntilEnded, .wait] = some p ∧ p.Stuck :=
    ⟨_, rfl, rfl, rfl, rfl⟩
  obtain ⟨p, hp, hstuck⟩ := hrun
  exact h p (Machine.reachable_iff_run.mpr ⟨_, _, rfl, hp⟩) hstuck

end Process

end Ptvsd
