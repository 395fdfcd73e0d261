import Mathlib.Data.Int.Notation
import Ptvsd.Event
import Ptvsd.Machine

/-!
# The Connections of the Adapter

`ptvsd.adapter.servers`: the list of debug servers that are connected to the adapter, and the
threads that wait for it to change. `_connections_changed` is one event for all of them: the
main thread in `wait_until_disconnected`, and any number of threads in
`wait_for_connection`, each of which clears the event before it looks.

One step is one block under `_lock`, or one operation on the event. What a waiting thread
has missed since its last look — which servers have connected, whether the last one has
disconnected — is recorded along with it; no step depends on that.

## Main results

* `no_lost_wakeup`: nobody is blocked on a cleared event while what it waits for has
  happened, in all runs in which nobody looks while another thread, for which it has
  happened, stands between its own look and its wait.
* `look_loses`: if somebody does, that thread blocks, and a wake-up is lost.
-/

namespace Ptvsd

/-- A debug server that is connected to the adapter. -/
structure Connection where
  /-- The identity of the object. -/
  id : ℕ
  pid : ℤ
  deriving DecidableEq

/-- The thread of `wait_for_connection` that waits for the timeout. -/
inductive Timer where
  /-- There is none, or it has ended. -/
  | off
  /-- In `time.sleep(timeout)`. -/
  | sleeping
  /-- `timed_out` is set; about to set the event. -/
  | setting

/-- How far a thread got with waiting. -/
inductive WaitState where
  /-- About to clear the event, and look. -/
  | looking
  /-- It has looked; about to wait. -/
  | looked
  /-- Blocked in `_connections_changed.wait()`. -/
  | blocked
  /-- Returned. -/
  | returned
  deriving DecidableEq

/-- What setting the event does. -/
def WaitState.wake : WaitState → WaitState
  | .blocked => .looking
  | st => st

/-- The phase of a thread with respect to the event. -/
def WaitState.phase : WaitState → Phase
  | .looking => .busy
  | .looked => .checked
  | .blocked => .blocked
  | .returned => .busy

@[simp] theorem WaitState.phase_eq_checked {st : WaitState} :
    st.phase = .checked ↔ st = .looked := by
  cases st <;> simp [phase]

@[simp] theorem WaitState.phase_eq_blocked {st : WaitState} :
    st.phase = .blocked ↔ st = .blocked := by
  cases st <;> simp [phase]

@[simp] theorem WaitState.phase_wake (st : WaitState) : st.wake.phase = st.phase.wake := by
  cases st <;> rfl

/-- A call of `wait_for_connection`. -/
structure Waiter where
  predicate : Connection → Bool
  timedOut : Bool
  timer : Timer
  state : WaitState
  /-- What it returned. -/
  result : Option Connection
  /-- The servers that have connected since it looked. -/
  missed : List Connection

/-- The call of `wait_until_disconnected`, which waits before it looks. -/
structure MainThread where
  state : WaitState
  /-- The last server has disconnected since it looked. -/
  missed : Bool

/-- The state of `ptvsd.adapter.servers`. -/
structure Servers where
  /-- `_connections`. -/
  connections : List Connection
  /-- The connections that got past `Connection.__init__`'s block under the lock. -/
  accepted : List ℕ
  /-- The connections whose `disconnected` is set. -/
  disconnected : List ℕ
  /-- `_connections_changed`. -/
  changed : Bool
  waiters : List Waiter
  main : MainThread

namespace Servers

/-- The adapter when its main thread calls `wait_until_disconnected`. -/
def init : Servers := ⟨[], [], [], false, [], ⟨.looked, false⟩⟩

/-- `_connections_changed.set()`. -/
def setChanged (s : Servers) : Servers :=
  { s with
    changed := true
    waiters := s.waiters.map fun w => { w with state := w.state.wake }
    main := { s.main with state := s.main.state.wake } }

/-- `_connections.append(conn)`. -/
def append (conn : Connection) (s : Servers) : Servers :=
  { s with
    connections := s.connections ++ [conn]
    waiters := s.waiters.map fun w => { w with missed := w.missed ++ [conn] } }

/-- `_connections.remove(conn)`. -/
def remove (conn : Connection) (s : Servers) : Servers :=
  { s with
    connections := s.connections.erase conn
    main := { s.main with missed := s.main.missed || (s.connections.erase conn).isEmpty } }

/-- The block of `Connection.__init__` under the lock; it raises `KeyError` on a clash. -/
def accept (conn : Connection) (s : Servers) : Servers :=
  let s := { s with accepted := s.accepted ++ [conn.id] }
  if conn.id ∈ s.disconnected then s
  else if s.connections.any fun c => c.pid = conn.pid then s
  else (s.append conn).setChanged

/-- `Connection.disconnect`; if it belongs to a `Server`, that one deregisters it. -/
def disconnect (conn : Connection) (s : Servers) : Servers :=
  let s := { s with disconnected := conn.id :: s.disconnected }
  if conn ∈ s.connections then (s.remove conn).setChanged else s

/-- `Server.disconnect`, up to `Component.disconnect`. -/
def serverDisconnect (conn : Connection) (s : Servers) : Option Servers :=
  if conn ∈ s.connections then some (s.remove conn).setChanged else none

/-- `wait_for_connection(session, predicate, timeout)`, up to its loop. -/
def waitForConnection (predicate : Connection → Bool) (timeout : Option ℕ) (s : Servers) :
    Servers :=
  let timer : Timer :=
    match timeout with
    | none => .off
    | some 0 => .off
    | some _ => .sleeping
  { s with
    waiters := s.waiters ++ [⟨predicate, timeout = some 0, timer, .looking, none, []⟩] }

/-- Changes a waiter. -/
def setWaiter (i : ℕ) (w : Waiter) (s : Servers) : Servers :=
  { s with waiters := s.waiters.set i w }

/-- The block of `wait_for_connection` under the lock. -/
def look (i : ℕ) (w : Waiter) (s : Servers) : Servers :=
  let s := { s with changed := false }
  let conn := s.connections.find? w.predicate
  if conn.isSome || w.timedOut then
    s.setWaiter i { w with state := .returned, result := conn, missed := [] }
  else s.setWaiter i { w with state := .looked, missed := [] }

/-- The block of `wait_until_disconnected` under the lock. -/
def mainLook (s : Servers) : Servers :=
  let s := { s with changed := false }
  if s.connections.isEmpty then { s with main := ⟨.returned, false⟩ }
  else { s with main := ⟨.looked, false⟩ }

/-- `_connections_changed.wait()`. -/
def waitState (s : Servers) : WaitState := if s.changed then .looking else .blocked

/-- What the threads of the adapter do. -/
inductive Action where
  /-- A `Connection` is being registered. -/
  | accept (conn : Connection)
  /-- The channel of a `Connection` disconnects. -/
  | disconnect (conn : Connection)
  /-- The channel of a `Server` disconnects. -/
  | serverDisconnect (conn : Connection)
  /-- `dont_wait_for_first_connection()` is called. -/
  | dontWait
  /-- `wait_for_connection()` is called. -/
  | waitForConnection (predicate : Connection → Bool) (timeout : Option ℕ)
  /-- A waiter clears the event, and looks. -/
  | look (i : ℕ)
  /-- A waiter waits for the event. -/
  | wait (i : ℕ)
  /-- The time of a waiter is up. -/
  | timeOut (i : ℕ)
  /-- The timer of a waiter sets the event. -/
  | timerSet (i : ℕ)
  /-- The main thread waits for the event. -/
  | mainWait
  /-- The main thread clears the event, and looks. -/
  | mainLook

/-- The step under an action. -/
def step (s : Servers) : Action → Option Servers
  | .accept conn => if conn.id ∈ s.accepted then none else some (s.accept conn)
  | .disconnect conn => some (s.disconnect conn)
  | .serverDisconnect conn => s.serverDisconnect conn
  | .dontWait => some s.setChanged
  | .waitForConnection predicate timeout => some (s.waitForConnection predicate timeout)
  | .look i =>
      match s.waiters[i]? with
      | some w => if w.state = .looking then some (s.look i w) else none
      | none => none
  | .wait i =>
      match s.waiters[i]? with
      | some w =>
          if w.state = .looked then some (s.setWaiter i { w with state := s.waitState })
          else none
      | none => none
  | .timeOut i =>
      match s.waiters[i]? with
      | some ⟨predicate, _, .sleeping, state, result, missed⟩ =>
          some (s.setWaiter i ⟨predicate, true, .setting, state, result, missed⟩)
      | _ => none
  | .timerSet i =>
      match s.waiters[i]? with
      | some ⟨predicate, timedOut, .setting, state, result, missed⟩ =>
          some (s.setWaiter i ⟨predicate, timedOut, .off, state, result, missed⟩).setChanged
      | _ => none
  | .mainWait =>
      if s.main.state = .looked then some { s with main := { s.main with state := s.waitState } }
      else none
  | .mainLook => if s.main.state = .looking then some s.mainLook else none

end Servers

/-- The connections of an adapter. -/
def servers : Machine Servers Servers.Action where
  start s := s = .init
  step := Servers.step

namespace Servers

variable {s s' : Servers} {a : Action} {i : ℕ} {w w' : Waiter} {t u : Option ℕ}

/-! ### The event and its threads -/

/-- `_connections_changed` with the threads that use it: the waiters, and `none` for the main
thread. -/
def event (s : Servers) : Event (Option ℕ) where
  flag := s.changed
  phase
    | none => s.main.state.phase
    | some i => (s.waiters[i]?.map fun w => w.state.phase).getD .busy

/-- What a thread waits for has happened since it looked: a server that satisfies its
predicate has connected, and still is; the last server has disconnected, and no other has
connected. -/
def Pending (s : Servers) : Option ℕ → Prop
  | none => s.main.missed = true ∧ s.connections = []
  | some i => ∃ w, s.waiters[i]? = some w ∧
      ∃ conn ∈ w.missed, conn ∈ s.connections ∧ w.predicate conn = true

/-- No thread misses what it waits for. -/
def Awake (s : Servers) : Prop := s.event.NoLost s.Pending

theorem event_setChanged (s : Servers) : s.setChanged.event = s.event.set := by
  refine Event.ext rfl (funext fun t => ?_)
  cases t with
  | none => exact WaitState.phase_wake _
  | some i =>
      simp only [event, setChanged, Event.set, List.getElem?_map]
      cases s.waiters[i]? with
      | none => rfl
      | some w => exact WaitState.phase_wake _

theorem event_setWaiter (hi : s.waiters[i]? = some w) (w' : Waiter) :
    (s.setWaiter i w').event = s.event.goto (some i) w'.state.phase := by
  refine Event.ext rfl (funext fun t => ?_)
  have hlt : i < s.waiters.length := (List.getElem?_eq_some_iff.mp hi).1
  by_cases ht : t = some i
  · subst ht
    simp [event, setWaiter, hlt]
  · rw [Event.goto_phase_ne ht]
    cases t with
    | none => rfl
    | some j =>
        have hij : i ≠ j := fun h => ht (congrArg some h.symm)
        simp [event, setWaiter, List.getElem?_set_ne hij]

theorem pending_setWaiter_ne (ht : t ≠ some i) (w' : Waiter) :
    (s.setWaiter i w').Pending t ↔ s.Pending t := by
  cases t with
  | none => exact Iff.rfl
  | some j =>
      have hij : i ≠ j := fun h => ht (congrArg some h.symm)
      simp only [Pending, setWaiter, List.getElem?_set_ne hij]

theorem pending_setWaiter_self (hi : s.waiters[i]? = some w) (w' : Waiter) :
    (s.setWaiter i w').Pending (some i) ↔
      ∃ conn ∈ w'.missed, conn ∈ s.connections ∧ w'.predicate conn = true := by
  have hlt : i < s.waiters.length := (List.getElem?_eq_some_iff.mp hi).1
  simp only [Pending, setWaiter, List.getElem?_set_self hlt, Option.some.injEq, exists_eq_left']

/-- Nothing else is pending for a waiter that still waits for the same. -/
theorem pending_update (hi : s.waiters[i]? = some w) (hmissed : w'.missed = w.missed)
    (hpred : w'.predicate = w.predicate) : (s.setWaiter i w').Pending t ↔ s.Pending t := by
  by_cases ht : t = some i
  · subst ht
    rw [pending_setWaiter_self hi, hmissed, hpred]
    simp only [Pending, hi, Option.some.injEq, exists_eq_left']
  · exact pending_setWaiter_ne ht w'

/-- Nothing is pending for a waiter that has just looked. -/
theorem pending_forget (hi : s.waiters[i]? = some w) (hmissed : w'.missed = []) :
    (s.setWaiter i w').Pending t ↔ t ≠ some i ∧ s.Pending t := by
  by_cases ht : t = some i
  · subst ht
    simp [pending_setWaiter_self hi, hmissed]
  · simp [pending_setWaiter_ne ht, ht]

theorem phase_waitState (s : Servers) :
    s.waitState.phase = if s.changed then .busy else .blocked := by
  rw [waitState]
  cases s.changed <;> rfl

theorem setChanged_awake (s : Servers) : s.setChanged.Awake := by
  rw [Awake, event_setChanged]
  exact Event.NoLost.set _ _

theorem init_awake : init.Awake := by
  refine ⟨fun t _ h => ?_, fun t _ h => ?_⟩
  all_goals
    cases t with
    | none => simp [Pending, init] at h
    | some i => simp [Pending, init] at h

/-! ### Steps of the threads -/

theorem accept_awake (hs : s.Awake) (conn : Connection) : (s.accept conn).Awake := by
  rw [accept]
  dsimp only
  split_ifs
  · exact hs
  · exact hs
  · exact setChanged_awake _

theorem disconnect_awake (hs : s.Awake) (conn : Connection) : (s.disconnect conn).Awake := by
  rw [disconnect]
  dsimp only
  split_ifs
  · exact setChanged_awake _
  · exact hs

theorem waitForConnection_awake (hs : s.Awake) (predicate : Connection → Bool)
    (timeout : Option ℕ) : (s.waitForConnection predicate timeout).Awake := by
  obtain ⟨w, hwaiters, hstate, hmissed⟩ : ∃ w,
      (s.waitForConnection predicate timeout).waiters = s.waiters ++ [w] ∧
        w.state = .looking ∧ w.missed = [] := ⟨_, rfl, rfl, rfl⟩
  have hevent : (s.waitForConnection predicate timeout).event = s.event := by
    refine Event.ext rfl (funext fun t => ?_)
    cases t with
    | none => rfl
    | some i =>
        simp only [event, hwaiters, List.getElem?_append]
        split_ifs with hlt
        · rfl
        · rw [List.getElem?_eq_none (Nat.not_lt.mp hlt), List.getElem?_singleton]
          split_ifs <;> simp [hstate, WaitState.phase]
  rw [Awake, hevent]
  refine hs.mono fun t ht => ?_
  cases t with
  | none => exact ht
  | some i =>
      obtain ⟨x, hx, conn, hconn, hrest⟩ := ht
      rw [hwaiters, List.getElem?_append] at hx
      split_ifs at hx with hlt
      · exact ⟨x, hx, conn, hconn, hrest⟩
      · -- the new thread has missed nothing
        rw [List.getElem?_singleton] at hx
        split_ifs at hx
        obtain rfl := Option.some.inj hx
        simp [hmissed] at hconn

/-- A waiter changed by something that is neither a look nor a wait. -/
theorem setWaiter_awake (hs : s.Awake) (hi : s.waiters[i]? = some w)
    (hstate : w'.state = w.state) (hmissed : w'.missed = w.missed)
    (hpred : w'.predicate = w.predicate) : (s.setWaiter i w').Awake := by
  have hevent : (s.setWaiter i w').event = s.event := by
    rw [event_setWaiter hi]
    refine Event.ext rfl (funext fun t => ?_)
    by_cases ht : t = some i
    · subst ht
      simp [event, hi, hstate]
    · exact Event.goto_phase_ne ht _ _
  rw [Awake, hevent]
  exact hs.mono fun t ht => (pending_update hi hmissed hpred).mp ht

/-- How a thread clears the event and looks. -/
def lookOf : Option ℕ → Action
  | none => .mainLook
  | some i => .look i

/-- How a thread waits. -/
def waitOf : Option ℕ → Action
  | none => .mainWait
  | some i => .wait i

/-- **What a wait does**: it is a wait for the event, and changes nothing about what is
pending. -/
theorem wait_effect (h : s.step (waitOf t) = some s') :
    s.event.phase t = .checked ∧ s'.event = s.event.wait t ∧
      ∀ u, s'.Pending u ↔ s.Pending u := by
  cases t with
  | none =>
      simp only [waitOf, step] at h
      split_ifs at h with hmain
      obtain rfl := Option.some.inj h
      refine ⟨by simp [event, hmain, WaitState.phase], ?_, fun u => by cases u <;> exact Iff.rfl⟩
      refine Event.ext rfl (funext fun u => ?_)
      cases u with
      | none =>
          rw [Event.wait, Event.goto_phase_self]
          exact phase_waitState s
      | some i => rw [Event.wait, Event.goto_phase_ne (by simp)]; rfl
  | some i =>
      simp only [waitOf, step] at h
      split at h
      case h_1 w hi =>
        split_ifs at h with hw
        obtain rfl := Option.some.inj h
        refine ⟨by simp [event, hi, hw, WaitState.phase], ?_, fun u => ?_⟩
        · rw [event_setWaiter hi, Event.wait, phase_waitState]
          rfl
        · exact pending_update hi rfl rfl
      case h_2 => simp at h

/-- A thread that has looked can wait. -/
theorem exists_wait (ht : s.event.phase t = .checked) : ∃ s', s.step (waitOf t) = some s' := by
  cases t with
  | none =>
      have hmain : s.main.state = .looked := WaitState.phase_eq_checked.mp ht
      exact ⟨_, by rw [waitOf, step, if_pos hmain]⟩
  | some i =>
      cases hi : s.waiters[i]? with
      | none => simp [event, hi] at ht
      | some w =>
          have hw : w.state = .looked := by simpa [event, hi] using ht
          exact ⟨s.setWaiter i { w with state := s.waitState }, by simp [waitOf, step, hi, hw]⟩

theorem wait_awake (hs : s.Awake) (h : s.step (waitOf t) = some s') : s'.Awake := by
  obtain ⟨hphase, hevent, hpending⟩ := wait_effect h
  rw [Awake, hevent]
  exact (Event.NoLost.wait hs hphase).mono fun u hu => (hpending u).mp hu

/-- **What a look does**: it clears the event, and nothing is pending any more for the thread
that looks. -/
theorem look_effect (h : s.step (lookOf t) = some s') :
    ∃ p, p ≠ .blocked ∧ s'.event = s.event.clear.goto t p ∧
      ∀ u, s'.Pending u ↔ u ≠ t ∧ s.Pending u := by
  cases t with
  | none =>
      have hlook : ∃ st, s' = { s with changed := false, main := ⟨st, false⟩ } ∧
          st.phase ≠ .blocked := by
        simp only [lookOf, step, mainLook] at h
        split_ifs at h <;> obtain rfl := Option.some.inj h
        · exact ⟨_, rfl, by simp [WaitState.phase]⟩
        · exact ⟨_, rfl, by simp [WaitState.phase]⟩
      obtain ⟨st, rfl, hphase⟩ := hlook
      refine ⟨st.phase, hphase, Event.ext rfl (funext fun u => ?_), fun u => ?_⟩
      · cases u with
        | none => rw [Event.goto_phase_self]; rfl
        | some i => rw [Event.goto_phase_ne (by simp)]; rfl
      · cases u with
        | none => simp [Pending]
        | some i => simp [Pending]
  | some i =>
      simp only [lookOf, step] at h
      split at h
      case h_1 w hi =>
        have hlook : ∃ w', s' = setWaiter i w' { s with changed := false } ∧
            w'.missed = [] ∧ w'.state.phase ≠ .blocked := by
          simp only [look] at h
          split_ifs at h <;> obtain rfl := Option.some.inj h
          · exact ⟨_, rfl, rfl, by simp [WaitState.phase]⟩
          · exact ⟨_, rfl, rfl, by simp [WaitState.phase]⟩
        obtain ⟨w', rfl, hmissed, hphase⟩ := hlook
        have hi' : ({ s with changed := false } : Servers).waiters[i]? = some w := hi
        refine ⟨w'.state.phase, hphase, event_setWaiter hi' w', fun u => ?_⟩
        refine (pending_forget hi' hmissed).trans (and_congr_right fun _ => ?_)
        cases u <;> exact Iff.rfl
      case h_2 => simp at h

/-- No other thread for which what it waits for has happened stands between its look and its
wait. -/
def Alone (s : Servers) (t : Option ℕ) : Prop :=
  ∀ u, u ≠ t → s.event.phase u = .checked → ¬ s.Pending u

/-- Nobody has missed anything. -/
theorem alone_of_nothing_missed (hmain : t ≠ none → s.main.missed = false)
    (hwaiters : ∀ w ∈ s.waiters, w.state = .looked → w.missed = []) : s.Alone t := by
  intro u hut hu hpending
  cases u with
  | none => simp [Pending, hmain hut.symm] at hpending
  | some i =>
      obtain ⟨w, hi, conn, hmissed, -⟩ := hpending
      have hstate : w.state = .looked := by simpa [event, hi] using hu
      simp [hwaiters w (List.mem_of_getElem? hi) hstate] at hmissed

theorem look_awake (hs : s.Awake) (halone : s.Alone t) (h : s.step (lookOf t) = some s') :
    s'.Awake := by
  obtain ⟨p, hp, hevent, hpending⟩ := look_effect h
  rw [Awake, hevent]
  exact Event.NoLost.clear hs hp halone fun u hu => (hpending u).mp hu

/-- The condition on the steps of a run under which no wake-up is lost: whoever clears the
event and looks is alone in that. -/
def LooksAlone (s : Servers) : Action → Prop
  | .look i => s.Alone (some i)
  | .mainLook => s.Alone none
  | _ => True

/-- **One step keeps everybody awake.** -/
theorem step_awake (hs : s.Awake) (hC : LooksAlone s a) (h : s.step a = some s') :
    s'.Awake := by
  cases a with
  | accept conn =>
      simp only [step] at h
      split_ifs at h
      obtain rfl := Option.some.inj h
      exact accept_awake hs conn
  | disconnect conn =>
      obtain rfl := Option.some.inj h
      exact disconnect_awake hs conn
  | serverDisconnect conn =>
      simp only [step, serverDisconnect] at h
      split_ifs at h
      obtain rfl := Option.some.inj h
      exact setChanged_awake _
  | dontWait =>
      obtain rfl := Option.some.inj h
      exact setChanged_awake _
  | waitForConnection predicate timeout =>
      obtain rfl := Option.some.inj h
      exact waitForConnection_awake hs predicate timeout
  | look i => exact look_awake (t := some i) hs hC h
  | wait i => exact wait_awake (t := some i) hs h
  | timeOut i =>
      simp only [step] at h
      split at h
      case h_1 hi =>
        obtain rfl := Option.some.inj h
        exact setWaiter_awake hs hi rfl rfl rfl
      case h_2 => simp at h
  | timerSet i =>
      simp only [step] at h
      split at h
      case h_1 hi =>
        obtain rfl := Option.some.inj h
        exact setChanged_awake _
      case h_2 => simp at h
  | mainWait => exact wait_awake (t := none) hs h
  | mainLook => exact look_awake (t := none) hs hC h

/-! ### Wake-ups -/

/-- Nobody is blocked on a cleared event while what it waits for has happened since it
looked. -/
def NoLostWakeup (s : Servers) : Prop :=
  (∀ w ∈ s.waiters, w.state = .blocked → s.changed = false →
    ∀ conn ∈ w.missed, conn ∈ s.connections → w.predicate conn = false) ∧
  (s.main.state = .blocked → s.changed = false → s.main.missed = true → s.connections ≠ [])

theorem Awake.noLostWakeup (hs : s.Awake) : s.NoLostWakeup := by
  refine ⟨fun w hw hblocked _ conn hmissed hconn => ?_, fun hblocked _ hmissed hempty => ?_⟩
  · obtain ⟨i, hi⟩ := List.mem_iff_getElem?.mp hw
    have hphase : s.event.phase (some i) = .blocked := by
      simp [event, hi, hblocked, WaitState.phase]
    by_contra hpred
    exact hs.blocked _ hphase ⟨w, hi, conn, hmissed, hconn, by simpa using hpred⟩
  · have hphase : s.event.phase none = .blocked := by simp [event, hblocked, WaitState.phase]
    exact hs.blocked _ hphase ⟨hmissed, hempty⟩

/-- **No wake-up is lost**, in all runs in which nobody clears the event while another thread
for which it was set stands between its look and its wait. -/
theorem no_lost_wakeup (h : servers.ReachableWithin LooksAlone s) : s.NoLostWakeup := by
  have hinv : servers.InvariantWithin LooksAlone Awake :=
    ⟨fun h => h ▸ init_awake, fun hs hC h => step_awake hs hC h⟩
  exact (hinv.of_reachable h).noLostWakeup

/-- A debug server. -/
def debugServer : Connection := ⟨0, 1234⟩

/-- A server connects while a thread waits for it, and disconnects again; both the thread and
the main thread return. -/
theorem no_lost_wakeup_debugServer :
    ∃ s, servers.run init [.waitForConnection (fun _ => true) (some 10), .look 0, .wait 0,
        .mainWait, .accept debugServer, .look 0, .mainLook, .mainWait,
        .serverDisconnect debugServer, .mainLook] = some s ∧
      s.main.state = .returned ∧ s.NoLostWakeup := by
  have hC : servers.StepsWithin LooksAlone init
      [.waitForConnection (fun _ => true) (some 10), .look 0, .wait 0, .mainWait,
        .accept debugServer, .look 0, .mainLook, .mainWait, .serverDisconnect debugServer,
        .mainLook] := by
    refine .cons trivial rfl (.cons ?_ rfl (.cons trivial rfl (.cons trivial rfl
      (.cons trivial rfl (.cons ?_ rfl (.cons ?_ rfl (.cons trivial rfl (.cons trivial rfl
        (.cons ?_ rfl trivial)))))))))
    · exact alone_of_nothing_missed (fun _ => rfl) (by decide)
    · exact alone_of_nothing_missed (fun _ => rfl) (by decide)
    · exact alone_of_nothing_missed (fun h => absurd rfl h) (by decide)
    · exact alone_of_nothing_missed (fun h => absurd rfl h) (by decide)
  have hrun : ∃ s, servers.run init [.waitForConnection (fun _ => true) (some 10), .look 0,
      .wait 0, .mainWait, .accept debugServer, .look 0, .mainLook, .mainWait,
      .serverDisconnect debugServer, .mainLook] = some s ∧ s.main.state = .returned :=
    ⟨_, rfl, rfl⟩
  obtain ⟨s, hs, hmain⟩ := hrun
  exact ⟨s, hs, hmain, no_lost_wakeup (Machine.ReachableWithin.run (.start rfl) hC hs)⟩

/-- **The main thread takes the wake-up of another thread**: a server connects after that
thread has looked for it; the main thread clears the event, and finds that it has to wait for
the server to disconnect; then the other thread waits. -/
theorem lost_wakeup : ¬ ∀ s, servers.Reachable s → s.NoLostWakeup := by
  intro h
  have hrun : ∃ s, servers.run init [.waitForConnection (fun _ => true) (some 10), .look 0,
      .accept debugServer, .mainWait, .mainLook, .wait 0] = some s ∧
      s.changed = false ∧ s.connections = [debugServer] ∧
      ∃ w ∈ s.waiters, w.state = .blocked ∧ w.missed = [debugServer] ∧
        w.predicate debugServer = true :=
    ⟨_, rfl, rfl, rfl, _, List.mem_singleton.mpr rfl, rfl, rfl, rfl⟩
  obtain ⟨s, hs, hchanged, hconnections, w, hw, hblocked, hmissed, hpred⟩ := hrun
  have hreach : servers.Reachable s := Machine.reachable_iff_run.mpr ⟨_, _, rfl, hs⟩
  have := (h s hreach).1 w hw hblocked hchanged debugServer (by simp [hmissed])
    (by simp [hconnections])
  simp [this] at hpred

/-- What is pending for a thread that is blocked, is lost. -/
theorem not_noLostWakeup (hchanged : s.changed = false) (ht : s.event.phase t = .blocked)
    (hpending : s.Pending t) : ¬ s.NoLostWakeup := by
  rintro ⟨hwaiters, hmain⟩
  cases t with
  | none =>
      have hstate : s.main.state = .blocked := WaitState.phase_eq_blocked.mp ht
      exact hmain hstate hchanged hpending.1 hpending.2
  | some i =>
      obtain ⟨w, hi, conn, hmissed, hconn, hpred⟩ := hpending
      have hstate : w.state = .blocked := by simpa [event, hi] using ht
      have hno := hwaiters w (List.mem_of_getElem? hi) hstate hchanged conn hmissed hconn
      simp [hpred] at hno

/-- **The condition is needed**: if a thread clears the event while it is not alone, the other
thread can wait next, and its wake-up is lost. -/
theorem look_loses (h : s.step (lookOf t) = some s') (hut : u ≠ t)
    (hu : s.event.phase u = .checked) (hpending : s.Pending u) :
    ∃ s'', s'.step (waitOf u) = some s'' ∧ ¬ s''.NoLostWakeup := by
  obtain ⟨p, -, hlook, hpending'⟩ := look_effect h
  have hflag : s'.event.flag = false := by rw [hlook]; rfl
  have hphase : s'.event.phase u = .checked := by rwa [hlook, Event.goto_phase_ne hut]
  obtain ⟨s'', hwait⟩ := exists_wait hphase
  obtain ⟨-, hevent, hpending''⟩ := wait_effect hwait
  refine ⟨s'', hwait, not_noLostWakeup (t := u) ?_ ?_ ?_⟩
  · exact (congrArg Event.flag hevent).trans hflag
  · rw [hevent, Event.blocked_of_wait hflag]
  · exact (hpending'' u).mpr ((hpending' u).mpr ⟨hut, hpending⟩)

end Servers

end Ptvsd
