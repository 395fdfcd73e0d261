import Mathlib.Logic.Function.Basic
import Ptvsd.Machine

/-!
# Which Sessions Are Registered

A session is in `_sessions` from the time when its IDE connects until `Session.notify_changed`
finds that none of its components is connected. That method runs after every assignment to an
attribute of the session or of one of its components, and after the timeouts of
`Session.wait_for`. It does not hold the lock of the session while it looks: it reads the
three components first, and then asks one after the other whether it is connected.

All other threads hold the lock of the session while a handler runs, except in
`Session.wait_for`. What a handler does is a list of operations, one for every assignment to
the flags and components that matter here, and one for everything in between that assigns to
other attributes; every read of `notify_changed` is a step of its own.

## Main results

* `registered_iff`: the session is registered as long as a component is connected, up to the
  call of `notify_changed` that follows the last assignment, and no component is connected
  any more once it is not; in all runs in which no server is attached to a session that is
  being finalized while a call has found that it has no server.
* `ended_alive`: otherwise the session is not registered while its server is connected.
-/

namespace Ptvsd

/-- The components of a session. -/
inductive Role where
  | ide
  | launcher
  | server
  deriving DecidableEq

/-- A call of `notify_changed` after it has released the lock. -/
structure Lookup where
  /-- The components of the session that it has yet to read. -/
  toRead : List Role
  /-- Those that it found, and has not found to be disconnected. -/
  present : List Role
  deriving DecidableEq

/-- What the code is waiting for that calls `Session.wait_for`. -/
inductive Awaited where
  /-- Something that does not matter here; the wait can time out. -/
  | other
  /-- `not self.launcher.is_connected`. -/
  | launcherDisconnected
  deriving DecidableEq

/-- The operations of the handlers. -/
inductive Op where
  /-- Anything that assigns only to attributes that do not matter here. -/
  | body
  /-- `if self.launcher or self.server: raise`. -/
  | checkStarted
  /-- `session.launcher = self` or `session.server = self`, after the assertion that there is
  none. -/
  | attach (role : Role)
  /-- The timeout thread of `Session.wait_for` is started. -/
  | startTimer
  /-- The loop of `Session.wait_for`. -/
  | waitFor (awaited : Awaited)
  /-- `Component.disconnect`. -/
  | disconnect
  /-- `Session.finalize`. -/
  | finalize
  /-- `self.is_finalizing = True`, and `_finalize`. -/
  | finalizing
  /-- `if self.server` in `_finalize`, and what follows. -/
  | finalizeServer
  /-- `Server.detach_from_session`. -/
  | detach
  /-- `if self.launcher and self.launcher.is_connected` in `_finalize`, and what follows. -/
  | finalizeLauncher
  deriving DecidableEq

/-- What a handler thread does next. -/
inductive Task where
  /-- A handler that does neither of the following. -/
  | other
  /-- The IDE requests "launch". -/
  | launch (noDebug : Bool)
  /-- The IDE requests "attach". -/
  | attach
  /-- The IDE requests "terminate" or "disconnect". -/
  | terminate
  /-- The channel has disconnected. -/
  | disconnect
  deriving DecidableEq

/-- The operations of a handler. `spawn_debuggee` waits for the debuggee to start, and then
for its server, unless there is to be none. -/
def Task.ops : Task → List Op
  | .other => [.body]
  | .launch true => [.checkStarted, .body, .attach .launcher, .body]
  | .launch false =>
      [.checkStarted, .body, .attach .launcher, .body, .startTimer, .waitFor .other, .body,
        .attach .server, .body]
  | .attach => [.checkStarted, .body, .attach .server, .body]
  | .terminate => [.body, .finalize]
  | .disconnect => [.disconnect]

/-- The handlers of a component. -/
def Task.allowed (role : Role) : Task → Bool
  | .other => true
  | .disconnect => true
  | _ => role = .ide

/-- The timeout thread of a `Session.wait_for`. -/
inductive TimeoutThread where
  /-- In `time.sleep(timeout)`. -/
  | sleeping
  /-- In `notify_changed`, about to notify. -/
  | notifying
  /-- In `notify_changed`, looking. -/
  | looking (lookup : Lookup)
  /-- Ended. -/
  | ended

/-- A handler thread that holds the lock of the session. -/
structure Holder where
  role : Role
  ops : List Op
  /-- The call of `notify_changed` that it is in. -/
  lookup : Option Lookup

/-- A session with its threads. -/
structure Registration where
  /-- The components that there are, and whether they are connected. -/
  component : Role → Option Bool
  isFinalizing : Bool
  /-- Whether the session is in `_sessions`. -/
  registered : Bool
  holder : Option Holder
  /-- What the other handler threads do once they get the lock. -/
  pending : Role → Option (List Op)
  /-- The components whose last handler has begun. -/
  ended : Role → Bool
  timers : List TimeoutThread

/-- A call of `notify_changed` that has read nothing yet. -/
def Lookup.new : Lookup := ⟨[.ide, .launcher, .server], []⟩

/-- The call after its next read, if it goes on. -/
def Lookup.next (component : Role → Option Bool) : Lookup → Option Lookup
  | ⟨role :: toRead, present⟩ =>
      some ⟨toRead, if (component role).isSome then present ++ [role] else present⟩
  | ⟨[], role :: present⟩ => if component role = some true then none else some ⟨[], present⟩
  | ⟨[], []⟩ => none

/-- The call is about to remove the session. -/
def Lookup.removes (lookup : Lookup) : Bool := lookup = ⟨[], []⟩

namespace Registration

/-- A session when its IDE has registered it. -/
def init : Registration where
  component
    | .ide => some true
    | _ => none
  isFinalizing := false
  registered := true
  holder := none
  pending := fun _ => none
  ended := fun _ => false
  timers := []

/-- The effect of a step of `notify_changed` on `_sessions`. -/
def remove (lookup : Lookup) (s : Registration) : Registration :=
  { s with registered := s.registered && !lookup.removes }

/-- The holder of the lock goes on with other operations. -/
def goto (role : Role) (ops : List Op) (s : Registration) : Registration :=
  { s with holder := some ⟨role, ops, none⟩ }

/-- The holder of the lock has assigned to an attribute. -/
def notify (role : Role) (ops : List Op) (s : Registration) : Registration :=
  { s with holder := some ⟨role, ops, some .new⟩ }

/-- A flag or a component is assigned to. -/
def setComponent (role : Role) (isConnected : Bool) (s : Registration) : Registration :=
  { s with component := Function.update s.component role (some isConnected) }

/-- `Session.wait_for` can return. -/
def Satisfied (s : Registration) : Awaited → Prop
  | .other => True
  | .launcherDisconnected => s.component .launcher ≠ some true

instance (s : Registration) : DecidablePred s.Satisfied
  | .other => inferInstanceAs (Decidable True)
  | .launcherDisconnected => inferInstanceAs (Decidable (s.component .launcher ≠ some true))

/-- The next operation of the holder of the lock. -/
def exec (role : Role) (s : Registration) : List Op → Option Registration
  | [] => some { s with holder := none }
  | .body :: rest => some (s.goto role rest)
  | .checkStarted :: rest =>
      if (s.component .launcher).isSome || (s.component .server).isSome then some (s.goto role [])
      else some (s.goto role rest)
  | .attach r :: rest =>
      if (s.component r).isSome then some (s.goto role [])
      else some ((s.setComponent r true).notify role rest)
  | .startTimer :: rest =>
      some ({ s with timers := s.timers ++ [TimeoutThread.sleeping] }.goto role rest)
  | .waitFor awaited :: rest => if s.Satisfied awaited then some (s.goto role rest) else none
  | .disconnect :: rest => some ((s.setComponent role false).notify role (.finalize :: rest))
  | .finalize :: rest =>
      if s.isFinalizing then some (s.goto role rest)
      else some (s.goto role (.finalizing :: rest))
  | .finalizing :: rest =>
      some ({ s with isFinalizing := true }.notify role (.finalizeServer :: rest))
  | .finalizeServer :: rest =>
      if (s.component .server).isSome then
        some (s.goto role (.detach :: .finalizeLauncher :: rest))
      else some (s.goto role (.finalizeLauncher :: rest))
  | .detach :: rest => some ((s.setComponent .server false).notify role rest)
  | .finalizeLauncher :: rest =>
      if s.component .launcher = some true then
        if (s.component .server).isSome then
          some (s.goto role
            (.startTimer :: .waitFor .other :: .waitFor .launcherDisconnected :: rest))
        else some (s.goto role (.waitFor .launcherDisconnected :: rest))
      else some (s.goto role rest)

/-- What the threads of a session do. -/
inductive Action where
  /-- A handler thread begins with a handler. -/
  | start (role : Role) (task : Task)
  /-- A handler thread gets the lock. -/
  | acquire (role : Role)
  /-- The holder of the lock executes its next operation. -/
  | exec
  /-- The holder of the lock assigns to some other attribute. -/
  | assign
  /-- The holder of the lock raises. -/
  | raise
  /-- The holder of the lock releases it, and waits. -/
  | wait
  /-- The holder of the lock goes on with `notify_changed`. -/
  | look
  /-- The time of a timeout thread is up. -/
  | timeOut (i : ℕ)
  /-- A timeout thread notifies. -/
  | timerNotify (i : ℕ)
  /-- A timeout thread goes on with `notify_changed`. -/
  | timerLook (i : ℕ)

/-- A handler thread is between two handlers. -/
def Idle (s : Registration) (role : Role) : Prop :=
  s.pending role = none ∧ ∀ holder ∈ s.holder, holder.role ≠ role

instance (s : Registration) : DecidablePred s.Idle := fun role =>
  inferInstanceAs (Decidable (s.pending role = none ∧ ∀ holder ∈ s.holder, holder.role ≠ role))

/-- Changes a timeout thread. -/
def setTimer (i : ℕ) (timer : TimeoutThread) (s : Registration) : Registration :=
  { s with timers := s.timers.set i timer }

/-- The state of a timeout thread after a step of `notify_changed`. -/
def timerAfter : Option Lookup → TimeoutThread
  | some lookup => .looking lookup
  | none => .ended

/-- The step under an action. -/
def step (s : Registration) : Action → Option Registration
  | .start role task =>
      if s.Idle role ∧ (s.component role).isSome ∧ s.ended role = false ∧ task.allowed role then
        some { s with
          pending := Function.update s.pending role (some task.ops)
          ended := Function.update s.ended role (task = .disconnect) }
      else none
  | .acquire role =>
      match s.holder, s.pending role with
      | none, some ops =>
          some { s with
            holder := some ⟨role, ops, none⟩
            pending := Function.update s.pending role none }
      | _, _ => none
  | .exec =>
      match s.holder with
      | some ⟨role, ops, none⟩ => s.exec role ops
      | _ => none
  | .assign =>
      match s.holder with
      | some ⟨role, .body :: rest, none⟩ => some (s.notify role (.body :: rest))
      | _ => none
  | .raise =>
      match s.holder with
      | some ⟨role, .body :: _, none⟩ => some (s.goto role [])
      | _ => none
  | .wait =>
      match s.holder with
      | some ⟨role, .waitFor awaited :: rest, none⟩ =>
          if awaited = .launcherDisconnected ∧ s.Satisfied awaited then none
          else
            some { s with
              holder := none
              pending := Function.update s.pending role (some (.waitFor awaited :: rest)) }
      | _ => none
  | .look =>
      match s.holder with
      | some ⟨role, ops, some lookup⟩ =>
          some { s.remove lookup with holder := some ⟨role, ops, lookup.next s.component⟩ }
      | _ => none
  | .timeOut i =>
      match s.timers[i]? with
      | some .sleeping => some (s.setTimer i .notifying)
      | _ => none
  | .timerNotify i =>
      match s.timers[i]?, s.holder with
      | some .notifying, none => some (s.setTimer i (.looking .new))
      | _, _ => none
  | .timerLook i =>
      match s.timers[i]? with
      | some (.looking lookup) =>
          some ((s.remove lookup).setTimer i (timerAfter (lookup.next s.component)))
      | _ => none

end Registration

/-- A session of the adapter, with respect to `_sessions`. -/
def registration : Machine Registration Registration.Action where
  start s := s = .init
  step := Registration.step

namespace Registration

/-! ### What a step can do -/

/-- What a step does, and when it can. -/
inductive Transition (s : Registration) : Action → Registration → Prop where
  | start {role : Role} {task : Task} (hidle : s.Idle role) (hsome : (s.component role).isSome)
      (hended : s.ended role = false) (hallowed : task.allowed role) :
      Transition s (.start role task) { s with
        pending := Function.update s.pending role (some task.ops)
        ended := Function.update s.ended role (task = .disconnect) }
  | acquire {role : Role} {ops : List Op} (hholder : s.holder = none)
      (hpending : s.pending role = some ops) :
      Transition s (.acquire role) { s with
        holder := some ⟨role, ops, none⟩
        pending := Function.update s.pending role none }
  | exec {role : Role} {ops : List Op} {s' : Registration}
      (hholder : s.holder = some ⟨role, ops, none⟩) (hexec : s.exec role ops = some s') :
      Transition s .exec s'
  | assign {role : Role} {rest : List Op} (hholder : s.holder = some ⟨role, .body :: rest, none⟩) :
      Transition s .assign (s.notify role (.body :: rest))
  | raise {role : Role} {rest : List Op} (hholder : s.holder = some ⟨role, .body :: rest, none⟩) :
      Transition s .raise (s.goto role [])
  | wait {role : Role} {awaited : Awaited} {rest : List Op}
      (hholder : s.holder = some ⟨role, .waitFor awaited :: rest, none⟩)
      (hwaits : ¬ (awaited = .launcherDisconnected ∧ s.Satisfied awaited)) :
      Transition s .wait { s with
        holder := none
        pending := Function.update s.pending role (some (.waitFor awaited :: rest)) }
  | look {role : Role} {ops : List Op} {lookup : Lookup}
      (hholder : s.holder = some ⟨role, ops, some lookup⟩) :
      Transition s .look
        { s.remove lookup with holder := some ⟨role, ops, lookup.next s.component⟩ }
  | timeOut {i : ℕ} (hi : s.timers[i]? = some .sleeping) :
      Transition s (.timeOut i) (s.setTimer i .notifying)
  | timerNotify {i : ℕ} (hi : s.timers[i]? = some .notifying) (hholder : s.holder = none) :
      Transition s (.timerNotify i) (s.setTimer i (.looking .new))
  | timerLook {i : ℕ} {lookup : Lookup} (hi : s.timers[i]? = some (.looking lookup)) :
      Transition s (.timerLook i)
        ((s.remove lookup).setTimer i (timerAfter (lookup.next s.component)))

/-- **A step is a transition.** -/
theorem step_cases {s s' : Registration} {a : Action} (h : s.step a = some s') :
    Transition s a s' := by
  cases a with
  | start role task =>
      simp only [step] at h
      split_ifs at h with hguard
      exact Option.some.inj h ▸ .start hguard.1 hguard.2.1 hguard.2.2.1 hguard.2.2.2
  | acquire role =>
      simp only [step] at h
      split at h
      case h_1 hholder hpending => exact Option.some.inj h ▸ .acquire hholder hpending
      case h_2 => simp at h
  | exec =>
      simp only [step] at h
      split at h
      case h_1 hholder => exact .exec hholder h
      case h_2 => simp at h
  | assign =>
      simp only [step] at h
      split at h
      case h_1 hholder => exact Option.some.inj h ▸ .assign hholder
      case h_2 => simp at h
  | raise =>
      simp only [step] at h
      split at h
      case h_1 hholder => exact Option.some.inj h ▸ .raise hholder
      case h_2 => simp at h
  | wait =>
      simp only [step] at h
      split at h
      case h_1 hholder =>
        split_ifs at h with hwaits
        exact Option.some.inj h ▸ .wait hholder hwaits
      case h_2 => simp at h
  | look =>
      simp only [step] at h
      split at h
      case h_1 hholder => exact Option.some.inj h ▸ .look hholder
      case h_2 => simp at h
  | timeOut i =>
      simp only [step] at h
      split at h
      case h_1 hi => exact Option.some.inj h ▸ .timeOut hi
      case h_2 => simp at h
  | timerNotify i =>
      simp only [step] at h
      split at h
      case h_1 hi hholder => exact Option.some.inj h ▸ .timerNotify hi hholder
      case h_2 => simp at h
  | timerLook i =>
      simp only [step] at h
      split at h
      case h_1 hi => exact Option.some.inj h ▸ .timerLook hi
      case h_2 => simp at h

variable {s s' : Registration} {a : Action} {role : Role} {ops rest : List Op} {op : Op}
  {holder : Holder} {lookup : Lookup} {i : ℕ}

/-! ### Where the threads are -/

/-- A handler thread still has to execute these operations. -/
def Runs (s : Registration) (role : Role) (ops : List Op) : Prop :=
  (∃ holder, s.holder = some holder ∧ holder.role = role ∧ holder.ops = ops) ∨
    s.pending role = some ops

/-- There is a component, and it is connected. -/
def Connected (s : Registration) (role : Role) : Prop := s.component role = some true

/-- No timeout thread is started before the launcher is attached. -/
def Timely : List Op → Prop
  | [] => True
  | .attach .launcher :: _ => True
  | .startTimer :: _ => False
  | _ :: rest => Timely rest

/-- What is known of the operations that a handler thread still has to execute. -/
structure Fits (s : Registration) (role : Role) (ops : List Op) : Prop where
  attach : ∀ r, .attach r ∈ ops → role = .ide ∧ s.ended role = false
  disconnect : .disconnect ∈ ops → s.ended role = true
  finalizing : .finalizeServer ∈ ops ∨ .detach ∈ ops → s.isFinalizing = true
  timely : (s.component .launcher).isSome ∨ Timely ops

/-- A call of `notify_changed` will find all the components that are connected. -/
def Complete (s : Registration) (lookup : Lookup) : Prop :=
  ∀ role, s.Connected role → role ∈ lookup.toRead ∨ role ∈ lookup.present

/-- The operations that lead to a server being detached. -/
def Detaching (isFinalizing : Bool) : List Op → Prop
  | .finalize :: _ => isFinalizing = false
  | .finalizing :: _ => True
  | .finalizeServer :: _ => True
  | .detach :: _ => True
  | _ => False

/-- The server will be detached when the session is finalized, and that has not begun, or the
thread that does it holds the lock. -/
def Early (s : Registration) : Prop :=
  (s.isFinalizing = false ∧ ∀ role, s.component role ≠ some false) ∨
    ∃ holder, s.holder = some holder ∧ Detaching s.isFinalizing holder.ops ∧
      ∀ role, role ≠ .server → s.component role = some false → role = holder.role

/-- A timeout thread will find all the components that are connected, except for a server
that will be detached. -/
def Sees (s : Registration) (lookup : Lookup) : Prop :=
  ∀ role, s.Connected role → role ∈ lookup.toRead ∨ role ∈ lookup.present ∨
    role = .server ∧ s.Early

/-- The holder of the lock is about to finalize the session. -/
def Finalizes : List Op → Prop
  | .finalize :: _ => True
  | .finalizing :: _ => True
  | _ => False

/-- What holds in all runs in which no server is attached too late. -/
structure Inv (s : Registration) : Prop where
  /-- The IDE is connected until its last handler. -/
  ide : s.Connected .ide ∨ s.component .ide = some false ∧ s.ended .ide = true
  fits : ∀ role ops, s.Runs role ops → s.Fits role ops
  /-- Whoever disconnects finalizes the session. -/
  finalizes : s.isFinalizing = true ∨ (∀ role, s.component role ≠ some false) ∨
    ∃ holder, s.holder = some holder ∧ Finalizes holder.ops
  timers : s.timers ≠ [] → (s.component .launcher).isSome
  complete : ∀ holder lookup, s.holder = some holder → holder.lookup = some lookup →
    s.Complete lookup
  sees : ∀ lookup, .looking lookup ∈ s.timers → s.Sees lookup
  registered : ∀ role, s.Connected role → s.registered = true
  notifies : s.registered = true → (∃ role, s.Connected role) ∨
    ∃ holder lookup, s.holder = some holder ∧ holder.lookup = some lookup

/-- The session is in `_sessions` as long as a component is connected, up to the call of
`notify_changed` that follows the last assignment. -/
def UpToDate (s : Registration) : Prop :=
  (∀ role, s.Connected role → s.registered = true) ∧
    (s.registered = true → (∃ role, s.Connected role) ∨
      ∃ holder lookup, s.holder = some holder ∧ holder.lookup = some lookup)

/-- The condition on the steps of a run under which that holds: no server is attached to a
session that is being finalized while a timeout thread has found that it has no server. -/
def AttachesInTime (s : Registration) : Action → Prop
  | .exec => ∀ role rest, s.holder = some ⟨role, .attach .server :: rest, none⟩ →
      s.isFinalizing = true → ∀ lookup, .looking lookup ∈ s.timers → .server ∈ lookup.toRead
  | _ => True

/-! ### Calls of `notify_changed` -/

/-- A read does not lose a component that is connected. -/
theorem next_keeps {lookup' : Lookup} (hnext : lookup.next s.component = some lookup')
    (hrole : s.Connected role) (hmem : role ∈ lookup.toRead ∨ role ∈ lookup.present) :
    role ∈ lookup'.toRead ∨ role ∈ lookup'.present := by
  obtain ⟨toRead, present⟩ := lookup
  cases toRead with
  | cons r toRead =>
      obtain rfl := Option.some.inj hnext
      rcases hmem with hmem | hmem
      · rcases List.mem_cons.mp hmem with rfl | hmem
        · right
          simp [show s.component role = some true from hrole]
        · exact .inl hmem
      · right
        dsimp only at hmem ⊢
        split_ifs
        · exact List.mem_append_left _ hmem
        · exact hmem
  | nil =>
      cases present with
      | nil => simp [Lookup.next] at hnext
      | cons r present =>
          simp only [Lookup.next] at hnext
          split_ifs at hnext with hr
          obtain rfl := Option.some.inj hnext
          rcases hmem with hmem | hmem
          · exact .inl hmem
          · rcases List.mem_cons.mp hmem with rfl | hmem
            · exact absurd hrole hr
            · exact .inr hmem

theorem Complete.next (h : s.Complete lookup) {lookup' : Lookup}
    (hnext : lookup.next s.component = some lookup') : s.Complete lookup' :=
  fun _ hrole => next_keeps hnext hrole (h _ hrole)

theorem Sees.next (h : s.Sees lookup) {lookup' : Lookup}
    (hnext : lookup.next s.component = some lookup') : s.Sees lookup' := by
  intro role hrole
  rcases h role hrole with hmem | hmem | hearly
  · exact (next_keeps hnext hrole (.inl hmem)).imp_right .inl
  · exact (next_keeps hnext hrole (.inr hmem)).imp_right .inl
  · exact .inr (.inr hearly)

/-- A call that does not find a component that is connected goes on until it removes the
session. -/
theorem removes_of_next (hnone : ∀ role, ¬ s.Connected role)
    (hnext : lookup.next s.component = none) : lookup.removes = true := by
  obtain ⟨toRead, present⟩ := lookup
  cases toRead with
  | cons r toRead => simp [Lookup.next] at hnext
  | nil =>
      cases present with
      | nil => rfl
      | cons r present =>
          simp only [Lookup.next] at hnext
          split_ifs at hnext with hr
          exact absurd hr (hnone r)

theorem eq_of_removes (h : lookup.removes = true) : lookup = ⟨[], []⟩ := of_decide_eq_true h

theorem complete_new : s.Complete .new := by
  intro role _
  left
  cases role <;> simp [Lookup.new]

theorem sees_new : s.Sees .new := fun role hrole => (complete_new role hrole).imp_right .inl

/-! ### Operations -/

/-- What is known of a thread does not get lost. -/
theorem Fits.of_state (h : s.Fits role ops) (hended : s'.ended = s.ended)
    (hlauncher : (s.component .launcher).isSome → (s'.component .launcher).isSome)
    (hfinalizing : s.isFinalizing = true → s'.isFinalizing = true) : s'.Fits role ops :=
  ⟨by rw [hended]; exact h.attach, by rw [hended]; exact h.disconnect,
    fun hmem => hfinalizing (h.finalizing hmem), h.timely.imp_left hlauncher⟩

/-- Only two operations matter to when the launcher is attached. -/
theorem timely_cons (hattach : op ≠ .attach .launcher) (htimer : op ≠ .startTimer) :
    Timely (op :: rest) ↔ Timely rest := by
  cases op with
  | attach r =>
      cases r with
      | launcher => exact absurd rfl hattach
      | ide => exact Iff.rfl
      | server => exact Iff.rfl
  | startTimer => exact absurd rfl htimer
  | body => exact Iff.rfl
  | checkStarted => exact Iff.rfl
  | waitFor awaited => exact Iff.rfl
  | disconnect => exact Iff.rfl
  | finalize => exact Iff.rfl
  | finalizing => exact Iff.rfl
  | finalizeServer => exact Iff.rfl
  | detach => exact Iff.rfl
  | finalizeLauncher => exact Iff.rfl

/-- What is known of the rest of a handler, once its next operation is done. -/
theorem Fits.tail (h : s.Fits role (op :: rest))
    (hlauncher : op = .attach .launcher → (s.component .launcher).isSome) :
    s.Fits role rest := by
  refine ⟨fun r hr => h.attach r (List.mem_cons_of_mem op hr),
    fun hd => h.disconnect (List.mem_cons_of_mem op hd),
    fun hf => h.finalizing (hf.imp (List.mem_cons_of_mem op) (List.mem_cons_of_mem op)), ?_⟩
  rcases h.timely with hsome | htimely
  · exact .inl hsome
  · by_cases hattach : op = .attach .launcher
    · exact .inl (hlauncher hattach)
    · by_cases htimer : op = .startTimer
      · subst htimer
        exact htimely.elim
      · exact .inr ((timely_cons hattach htimer).mp htimely)

theorem fits_nil : s.Fits role [] := by
  refine ⟨fun r hr => ?_, fun hd => ?_, fun hf => ?_, .inr trivial⟩
  · simp at hr
  · simp at hd
  · simp at hf

/-- An operation in front of which little needs to be known. -/
theorem Fits.cons (h : s.Fits role ops) (hattach : ∀ r, op ≠ .attach r)
    (hdisconnect : op ≠ .disconnect)
    (hfinalizing : op = .finalizeServer ∨ op = .detach → s.isFinalizing = true)
    (htimer : op = .startTimer → (s.component .launcher).isSome) : s.Fits role (op :: ops) := by
  refine ⟨fun r hr => ?_, fun hd => ?_, fun hf => ?_, ?_⟩
  · rcases List.mem_cons.mp hr with hr | hr
    · exact absurd hr.symm (hattach r)
    · exact h.attach r hr
  · rcases List.mem_cons.mp hd with hd | hd
    · exact absurd hd.symm hdisconnect
    · exact h.disconnect hd
  · rcases hf with hf | hf
    · rcases List.mem_cons.mp hf with hf | hf
      · exact hfinalizing (.inl hf.symm)
      · exact h.finalizing (.inl hf)
    · rcases List.mem_cons.mp hf with hf | hf
      · exact hfinalizing (.inr hf.symm)
      · exact h.finalizing (.inr hf)
  · rcases h.timely with hsome | htimely
    · exact .inl hsome
    · by_cases ht : op = .startTimer
      · exact .inl (htimer ht)
      · exact .inr ((timely_cons (hattach .launcher) ht).mpr htimely)

/-! ### Steps of the holder of the lock -/

theorem runs_goto {r : Role} {ops' : List Op}
    (h : (s.goto role ops).Runs r ops') : r = role ∧ ops' = ops ∨ s.pending r = some ops' := by
  rcases h with ⟨holder, hholder, rfl, rfl⟩ | hpending
  · obtain rfl := Option.some.inj hholder
    exact .inl ⟨rfl, rfl⟩
  · exact .inr hpending

/-- The holder of the lock goes on with operations that finalize the session if those before
do. -/
theorem goto_inv (h : s.Inv) (hholder : s.holder = some ⟨role, ops, none⟩) {ops' : List Op}
    (hfits : s.Fits role ops') (hfinalizes : Finalizes ops → s.isFinalizing = true ∨ Finalizes ops')
    (hdetaching : s.Connected .server → Detaching s.isFinalizing ops →
      Detaching s.isFinalizing ops') : (s.goto role ops').Inv := by
  have hearly : s.Connected .server → s.Early → (s.goto role ops').Early := by
    rintro hserver (hcalm | ⟨holder, hh, hdet, hrest⟩)
    · exact .inl hcalm
    · obtain rfl := Option.some.inj (hholder.symm.trans hh)
      exact .inr ⟨_, rfl, hdetaching hserver hdet, hrest⟩
  refine ⟨h.ide, fun r ops'' hruns => ?_, ?_, h.timers, ?_, fun lookup hlookup r hr => ?_,
    h.registered, fun hregistered => ?_⟩
  · rcases runs_goto hruns with ⟨rfl, rfl⟩ | hpending
    · exact hfits.of_state rfl id id
    · exact (h.fits r ops'' (.inr hpending)).of_state rfl id id
  · rcases h.finalizes with hfin | hnone | ⟨holder, hh, hfin⟩
    · exact .inl hfin
    · exact .inr (.inl hnone)
    · obtain rfl := Option.some.inj (hholder.symm.trans hh)
      exact (hfinalizes hfin).imp_right fun hfin' => .inr ⟨_, rfl, hfin'⟩
  · intro holder lookup hh hlookup
    obtain rfl := Option.some.inj hh
    simp at hlookup
  · rcases h.sees lookup hlookup r hr with hmem | hmem | ⟨rfl, hs⟩
    · exact .inl hmem
    · exact .inr (.inl hmem)
    · exact .inr (.inr ⟨rfl, hearly hr hs⟩)
  · rcases h.notifies hregistered with hconnected | ⟨holder, lookup, hh, hlookup⟩
    · exact .inl hconnected
    · obtain rfl := Option.some.inj (hholder.symm.trans hh)
      simp at hlookup

/-- The holder of the lock releases it. -/
theorem release_inv (h : s.Inv) (hholder : s.holder = some ⟨role, ops, none⟩)
    (hcalm : ¬ Finalizes ops) (hdetaching : ¬ Detaching s.isFinalizing ops)
    {pending : Role → Option (List Op)}
    (hpending : ∀ r ops', pending r = some ops' → s.Runs r ops') :
    ({ s with holder := none, pending := pending } : Registration).Inv := by
  refine ⟨h.ide, fun r ops' hruns => ?_, ?_, h.timers, ?_, fun lookup hlookup r hr => ?_,
    h.registered, fun hregistered => ?_⟩
  · have hfits : s.Fits r ops' := by
      rcases hruns with ⟨holder, hh, -⟩ | hruns
      · simp at hh
      · exact h.fits r ops' (hpending r ops' hruns)
    exact hfits.of_state rfl id id
  · rcases h.finalizes with hfin | hnone | ⟨holder, hh, hfin⟩
    · exact .inl hfin
    · exact .inr (.inl hnone)
    · obtain rfl := Option.some.inj (hholder.symm.trans hh)
      exact absurd hfin hcalm
  · intro holder lookup hh
    simp at hh
  · rcases h.sees lookup hlookup r hr with hmem | hmem | ⟨rfl, hnone | ⟨holder, hh, hdet, -⟩⟩
    · exact .inl hmem
    · exact .inr (.inl hmem)
    · exact .inr (.inr ⟨rfl, .inl hnone⟩)
    · obtain rfl := Option.some.inj (hholder.symm.trans hh)
      exact absurd hdet hdetaching
  · rcases h.notifies hregistered with hconnected | ⟨holder, lookup, hh, hlookup⟩
    · exact .inl hconnected
    · obtain rfl := Option.some.inj (hholder.symm.trans hh)
      simp at hlookup

/-- The holder of the lock has assigned to an attribute: what has to hold of the session after
the assignment. -/
theorem notify_inv (hide : s.Connected .ide ∨ s.component .ide = some false ∧ s.ended .ide = true)
    (hpending : ∀ r ops', s.pending r = some ops' → s.Fits r ops') (hfits : s.Fits role ops)
    (hfinalizes : s.isFinalizing = true ∨ (∀ r, s.component r ≠ some false) ∨ Finalizes ops)
    (htimers : s.timers ≠ [] → (s.component .launcher).isSome)
    (hsees : ∀ lookup, .looking lookup ∈ s.timers → (s.notify role ops).Sees lookup)
    (hregistered : ∀ r, s.Connected r → s.registered = true) : (s.notify role ops).Inv := by
  refine ⟨hide, fun r ops' hruns => ?_, ?_, htimers, ?_, hsees, hregistered, fun _ => .inr ?_⟩
  · have hfits' : s.Fits r ops' := by
      rcases hruns with ⟨holder, hh, rfl, rfl⟩ | hruns
      · obtain rfl := Option.some.inj hh
        exact hfits
      · exact hpending r ops' hruns
    exact hfits'.of_state rfl id id
  · rcases hfinalizes with hfin | hnone | hfin
    · exact .inl hfin
    · exact .inr (.inl hnone)
    · exact .inr (.inr ⟨_, rfl, hfin⟩)
  · intro holder lookup hh hlookup
    obtain rfl := Option.some.inj hh
    obtain rfl := Option.some.inj hlookup
    exact complete_new
  · exact ⟨_, _, rfl, rfl⟩

/-- What is known while the holder of the lock executes an operation that does not finalize
the session. -/
theorem Inv.calm (h : s.Inv) (hholder : s.holder = some ⟨role, ops, none⟩)
    (hcalm : ¬ Finalizes ops) :
    s.isFinalizing = true ∨ ∀ r, s.component r ≠ some false := by
  rcases h.finalizes with hfin | hnone | ⟨holder, hh, hfin⟩
  · exact .inl hfin
  · exact .inr hnone
  · obtain rfl := Option.some.inj (hholder.symm.trans hh)
    exact absurd hfin hcalm

theorem Early.calm (h : s.Early) (hholder : s.holder = some ⟨role, ops, none⟩)
    (hcalm : ¬ Detaching s.isFinalizing ops) :
    s.isFinalizing = false ∧ ∀ r, s.component r ≠ some false := by
  rcases h with hnone | ⟨holder, hh, hdet, -⟩
  · exact hnone
  · obtain rfl := Option.some.inj (hholder.symm.trans hh)
    exact absurd hdet hcalm

/-- The holder of the lock assigns to an attribute that does not matter. -/
theorem assign_inv (h : s.Inv) (hholder : s.holder = some ⟨role, .body :: rest, none⟩) :
    (s.notify role (.body :: rest)).Inv := by
  have hcalm := h.calm hholder (by simp [Finalizes])
  refine notify_inv h.ide (fun r ops' hr => h.fits r ops' (.inr hr))
    (h.fits role _ (.inl ⟨_, hholder, rfl, rfl⟩)) (hcalm.imp_right .inl) h.timers ?_ h.registered
  intro lookup hlookup r hr
  rcases h.sees lookup hlookup r hr with hmem | hmem | ⟨rfl, hearly⟩
  · exact .inl hmem
  · exact .inr (.inl hmem)
  · exact .inr (.inr ⟨rfl, .inl (hearly.calm hholder (by simp [Detaching]))⟩)

@[simp] theorem setComponent_self {b : Bool} :
    (s.setComponent role b).component role = some b := by
  simp [setComponent]

theorem setComponent_ne {r : Role} (hr : r ≠ role) (b : Bool) :
    (s.setComponent role b).component r = s.component r := by
  simp [setComponent, hr]

theorem isSome_setComponent {r : Role} {b : Bool} (h : (s.component r).isSome) :
    ((s.setComponent role b).component r).isSome := by
  by_cases hr : r = role
  · subst hr
    simp
  · rwa [setComponent_ne hr]

/-- What is known of the operations of a thread does not depend on the flags. -/
theorem Fits.setComponent {r : Role} (h : s.Fits r ops) (b : Bool) :
    (s.setComponent role b).Fits r ops :=
  h.of_state rfl isSome_setComponent id

/-- Nobody else becomes connected. -/
theorem connected_of_setComponent_false {r : Role}
    (h : (s.setComponent role false).Connected r) : r ≠ role ∧ s.Connected r := by
  have hr : r ≠ role := by
    rintro rfl
    simp [Connected] at h
  exact ⟨hr, (setComponent_ne hr false).symm.trans h⟩

/-- A component is attached. -/
theorem attach_inv (h : s.Inv) {r : Role}
    (hholder : s.holder = some ⟨role, .attach r :: rest, none⟩) (hnone : s.component r = none)
    (hC : AttachesInTime s .exec) : ((s.setComponent r true).notify role rest).Inv := by
  have hfits := h.fits role _ (.inl ⟨_, hholder, rfl, rfl⟩)
  obtain ⟨rfl, hended⟩ := hfits.attach r List.mem_cons_self
  -- the IDE is connected, since it has not begun with its last handler
  have hide : s.Connected .ide := by
    rcases h.ide with hide | ⟨-, hend⟩
    · exact hide
    · simp [hended] at hend
  have hr : r ≠ .ide := by
    rintro rfl
    simp [show s.component .ide = some true from hide] at hnone
  have hcalm := h.calm hholder (by simp [Finalizes])
  have hflags : (∀ r', s.component r' ≠ some false) →
      ∀ r', (s.setComponent r true).component r' ≠ some false := by
    intro hno r'
    by_cases hr' : r' = r
    · subst hr'
      simp
    · rw [setComponent_ne hr']
      exact hno r'
  refine notify_inv ?_ (fun r' ops' hr' => (h.fits r' ops' (.inr hr')).setComponent true) ?_
    (hcalm.imp_right fun hno => .inl (hflags hno)) (fun ht => isSome_setComponent (h.timers ht))
    ?_ fun _ _ => h.registered .ide hide
  · left
    rw [Connected, setComponent_ne hr.symm]
    exact hide
  · refine (hfits.setComponent true).tail fun heq => ?_
    obtain rfl := Op.attach.inj heq
    simp
  · intro lookup hlookup r' hr'
    by_cases hself : r' = r
    · subst hself
      cases r' with
      | ide => exact absurd rfl hr
      | launcher =>
          have := h.timers (List.ne_nil_of_mem hlookup)
          simp [hnone] at this
      | server =>
          rcases hcalm with hfin | hno
          · exact .inl (hC _ _ hholder hfin lookup hlookup)
          · by_cases hfin : s.isFinalizing = true
            · exact .inl (hC _ _ hholder hfin lookup hlookup)
            · have hfin' : s.isFinalizing = false := by simpa using hfin
              exact .inr (.inr ⟨rfl, .inl ⟨hfin', hflags hno⟩⟩)
    · rw [Connected] at hr'
      have hr'' : s.Connected r' := (setComponent_ne hself true).symm.trans hr'
      rcases h.sees lookup hlookup r' hr'' with hmem | hmem | ⟨rfl, hearly⟩
      · exact .inl hmem
      · exact .inr (.inl hmem)
      · have := hearly.calm hholder (by simp [Detaching])
        exact .inr (.inr ⟨rfl, .inl ⟨this.1, hflags this.2⟩⟩)

/-- A component disconnects. -/
theorem disconnect_inv (h : s.Inv)
    (hholder : s.holder = some ⟨role, .disconnect :: rest, none⟩) :
    ((s.setComponent role false).notify role (.finalize :: rest)).Inv := by
  have hfits := h.fits role _ (.inl ⟨_, hholder, rfl, rfl⟩)
  have hended : s.ended role = true := hfits.disconnect List.mem_cons_self
  refine notify_inv ?_ (fun r ops' hr => (h.fits r ops' (.inr hr)).setComponent false) ?_
    (.inr (.inr trivial)) (fun ht => isSome_setComponent (h.timers ht)) ?_ ?_
  · by_cases hrole : Role.ide = role
    · subst hrole
      exact .inr ⟨setComponent_self, hended⟩
    · rw [Connected, setComponent_ne hrole]
      exact h.ide
  · exact ((hfits.setComponent false).tail (by simp)).cons (by simp) (by simp) (by simp) (by simp)
  · intro lookup hlookup r hr
    obtain ⟨hrole, hr⟩ := connected_of_setComponent_false hr
    rcases h.sees lookup hlookup r hr with hmem | hmem | ⟨rfl, hearly⟩
    · exact .inl hmem
    · exact .inr (.inl hmem)
    · obtain ⟨hfin, hno⟩ := hearly.calm hholder (by simp [Detaching])
      refine .inr (.inr ⟨rfl, .inr ⟨_, rfl, hfin, fun r' _ hr' => ?_⟩⟩)
      by_contra hne
      exact hno r' ((setComponent_ne hne false).symm.trans hr')
  · intro r hr
    exact h.registered r (connected_of_setComponent_false hr).2

/-- The session is being finalized from now on. -/
theorem finalizing_inv (h : s.Inv)
    (hholder : s.holder = some ⟨role, .finalizing :: rest, none⟩) :
    ({ s with isFinalizing := true }.notify role (.finalizeServer :: rest) : Registration).Inv := by
  have hfits := h.fits role _ (.inl ⟨_, hholder, rfl, rfl⟩)
  refine @notify_inv { s with isFinalizing := true } _ _ h.ide (fun r ops' hr => ?_) ?_ (.inl rfl)
    h.timers ?_ h.registered
  · exact (h.fits r ops' (.inr hr)).of_state rfl id fun _ => rfl
  · refine Fits.cons ((hfits.tail (by simp)).of_state rfl id fun _ => rfl) ?_ ?_ ?_ ?_
    · simp
    · simp
    · exact fun _ => rfl
    · simp
  · intro lookup hlookup r hr
    rcases h.sees lookup hlookup r hr with hmem | hmem | ⟨rfl, hearly⟩
    · exact .inl hmem
    · exact .inr (.inl hmem)
    · refine .inr (.inr ⟨rfl, .inr ⟨_, rfl, trivial, fun r' hr' hflag => ?_⟩⟩)
      rcases hearly with hno | ⟨holder, hh, -, hrest⟩
      · exact absurd hflag (hno.2 r')
      · obtain rfl := Option.some.inj (hholder.symm.trans hh)
        exact hrest r' hr' hflag

/-- The server is detached. -/
theorem detach_inv (h : s.Inv) (hholder : s.holder = some ⟨role, .detach :: rest, none⟩) :
    ((s.setComponent .server false).notify role rest).Inv := by
  have hfits := h.fits role _ (.inl ⟨_, hholder, rfl, rfl⟩)
  have hfin := hfits.finalizing (.inr List.mem_cons_self)
  refine notify_inv ?_ (fun r ops' hr => (h.fits r ops' (.inr hr)).setComponent false) ?_
    (.inl hfin) (fun ht => isSome_setComponent (h.timers ht)) ?_ ?_
  · rw [Connected, setComponent_ne (by simp)]
    exact h.ide
  · exact (hfits.setComponent false).tail (by simp)
  · intro lookup hlookup r hr
    obtain ⟨hrole, hr⟩ := connected_of_setComponent_false hr
    rcases h.sees lookup hlookup r hr with hmem | hmem | ⟨rfl, -⟩
    · exact .inl hmem
    · exact .inr (.inl hmem)
    · exact absurd rfl hrole
  · intro r hr
    exact h.registered r (connected_of_setComponent_false hr).2

/-- The holder of the lock goes on after an operation that does not finalize the session. -/
theorem skip_inv (h : s.Inv) (hholder : s.holder = some ⟨role, op :: rest, none⟩)
    (hcalm : ¬ Finalizes (op :: rest)) (hdetaching : ¬ Detaching s.isFinalizing (op :: rest))
    {ops' : List Op} (hfits : s.Fits role ops') : (s.goto role ops').Inv :=
  goto_inv h hholder hfits (fun hfin => absurd hfin hcalm) fun _ hdet => absurd hdet hdetaching

/-- **One operation keeps the invariant.** -/
theorem exec_inv (h : s.Inv) (hholder : s.holder = some ⟨role, ops, none⟩)
    (hC : AttachesInTime s .exec) (hexec : s.exec role ops = some s') : s'.Inv := by
  have hfits := h.fits role ops (.inl ⟨_, hholder, rfl, rfl⟩)
  cases ops with
  | nil =>
      obtain rfl := Option.some.inj hexec
      exact release_inv h hholder (by simp [Finalizes]) (by simp [Detaching])
        fun r ops' hr => .inr hr
  | cons op rest =>
    cases op with
    | body =>
        obtain rfl := Option.some.inj hexec
        exact skip_inv h hholder (by simp [Finalizes]) (by simp [Detaching]) (hfits.tail (by simp))
    | checkStarted =>
        simp only [exec] at hexec
        split_ifs at hexec <;> obtain rfl := Option.some.inj hexec
        · exact skip_inv h hholder (by simp [Finalizes]) (by simp [Detaching]) fits_nil
        · exact skip_inv h hholder (by simp [Finalizes]) (by simp [Detaching])
            (hfits.tail (by simp))
    | attach r =>
        simp only [exec] at hexec
        split_ifs at hexec with hsome <;> obtain rfl := Option.some.inj hexec
        · exact skip_inv h hholder (by simp [Finalizes]) (by simp [Detaching]) fits_nil
        · exact attach_inv h hholder (by simpa using hsome) hC
    | startTimer =>
        obtain rfl := Option.some.inj hexec
        -- a handler starts a timeout thread only if there is a launcher
        have hlauncher : (s.component .launcher).isSome := by
          rcases hfits.timely with hsome | htimely
          · exact hsome
          · exact htimely.elim
        have hinv : ({ s with timers := s.timers ++ [TimeoutThread.sleeping] } :
            Registration).Inv := by
          refine ⟨h.ide, fun r ops' hr => ?_, h.finalizes, fun _ => hlauncher, h.complete,
            fun lookup hlookup => ?_, h.registered, h.notifies⟩
          · exact (h.fits r ops' hr).of_state rfl id id
          · refine h.sees lookup ?_
            simpa using hlookup
        refine skip_inv hinv hholder (by simp [Finalizes]) (by simp [Detaching]) ?_
        exact (hfits.tail (by simp)).of_state rfl id id
    | waitFor awaited =>
        simp only [exec] at hexec
        split_ifs at hexec
        obtain rfl := Option.some.inj hexec
        exact skip_inv h hholder (by simp [Finalizes]) (by simp [Detaching]) (hfits.tail (by simp))
    | disconnect =>
        obtain rfl := Option.some.inj hexec
        exact disconnect_inv h hholder
    | finalize =>
        have htail : s.Fits role rest := hfits.tail (by simp)
        simp only [exec] at hexec
        split_ifs at hexec with hfin <;> obtain rfl := Option.some.inj hexec
        · refine goto_inv h hholder htail (fun _ => .inl hfin) fun _ hdet => ?_
          exact absurd (hfin.symm.trans hdet) (by simp)
        · exact goto_inv h hholder (htail.cons (by simp) (by simp) (by simp) (by simp))
            (fun _ => .inr trivial) fun _ _ => trivial
    | finalizing =>
        obtain rfl := Option.some.inj hexec
        exact finalizing_inv h hholder
    | finalizeServer =>
        have htail : s.Fits role rest := hfits.tail (by simp)
        have hlauncher : s.Fits role (.finalizeLauncher :: rest) :=
          htail.cons (by simp) (by simp) (by simp) (by simp)
        have hfin := hfits.finalizing (.inl List.mem_cons_self)
        simp only [exec] at hexec
        split_ifs at hexec with hserver <;> obtain rfl := Option.some.inj hexec
        · exact goto_inv h hholder
            (hlauncher.cons (by simp) (by simp) (fun _ => hfin) (by simp))
            (fun _ => .inl hfin) fun _ _ => trivial
        · refine goto_inv h hholder hlauncher (fun _ => .inl hfin) fun hconnected _ => ?_
          simp [show s.component .server = some true from hconnected] at hserver
    | detach =>
        obtain rfl := Option.some.inj hexec
        exact detach_inv h hholder
    | finalizeLauncher =>
        have htail : s.Fits role rest := hfits.tail (by simp)
        have hwait : s.Fits role (.waitFor .launcherDisconnected :: rest) :=
          htail.cons (by simp) (by simp) (by simp) (by simp)
        simp only [exec] at hexec
        split_ifs at hexec with hlauncher hserver <;> obtain rfl := Option.some.inj hexec
        · refine skip_inv h hholder (by simp [Finalizes]) (by simp [Detaching]) ?_
          refine (hwait.cons (by simp) (by simp) (by simp) (by simp)).cons (by simp) (by simp)
            (by simp) fun _ => ?_
          simp [hlauncher]
        · exact skip_inv h hholder (by simp [Finalizes]) (by simp [Detaching]) hwait
        · exact skip_inv h hholder (by simp [Finalizes]) (by simp [Detaching]) htail

/-- The holder of the lock goes on with `notify_changed`. -/
theorem look_inv (h : s.Inv) (hholder : s.holder = some ⟨role, ops, some lookup⟩) :
    ({ s.remove lookup with holder := some ⟨role, ops, lookup.next s.component⟩ } :
      Registration).Inv := by
  have hcomplete := h.complete _ _ hholder rfl
  refine ⟨h.ide, fun r ops' hr => ?_, ?_, h.timers, ?_, fun l hl r hr => ?_, fun r hr => ?_,
    fun hregistered => ?_⟩
  · have hruns : s.Runs r ops' := by
      rcases hr with ⟨holder, hh, rfl, rfl⟩ | hr
      · obtain rfl := Option.some.inj hh
        exact .inl ⟨_, hholder, rfl, rfl⟩
      · exact .inr hr
    exact (h.fits r ops' hruns).of_state rfl id id
  · rcases h.finalizes with hfin | hnone | ⟨holder, hh, hfin⟩
    · exact .inl hfin
    · exact .inr (.inl hnone)
    · obtain rfl := Option.some.inj (hholder.symm.trans hh)
      exact .inr (.inr ⟨_, rfl, hfin⟩)
  · intro holder l hh hl
    obtain rfl := Option.some.inj hh
    exact hcomplete.next hl
  · rcases h.sees l hl r hr with hmem | hmem | ⟨rfl, hnone | ⟨holder, hh, hdet, hrest⟩⟩
    · exact .inl hmem
    · exact .inr (.inl hmem)
    · exact .inr (.inr ⟨rfl, .inl hnone⟩)
    · obtain rfl := Option.some.inj (hholder.symm.trans hh)
      exact .inr (.inr ⟨rfl, .inr ⟨_, rfl, hdet, hrest⟩⟩)
  · have hno : lookup.removes = false := by
      by_contra hremoves
      obtain rfl := eq_of_removes (by simpa using hremoves)
      simpa using hcomplete r hr
    simp [remove, hno, h.registered r hr]
  · by_cases hconnected : ∃ r, s.Connected r
    · exact .inl hconnected
    · cases hnext : lookup.next s.component with
      | some l => exact .inr ⟨_, l, rfl, rfl⟩
      | none =>
          have hremoves := removes_of_next (fun r hr => hconnected ⟨r, hr⟩) hnext
          simp [remove, hremoves] at hregistered

/-! ### Steps of the timeout threads -/

/-- **A timeout thread does not remove the session** while a component is connected. -/
theorem not_removes (h : s.Inv) (hsees : s.Sees lookup) (htimers : s.timers ≠ [])
    (hrole : s.Connected role) : lookup.removes = false := by
  by_contra hremoves
  obtain rfl := eq_of_removes (by simpa using hremoves)
  have hnone : ∀ r, r ≠ .server → ¬ s.Connected r := by
    intro r hr hconnected
    rcases hsees r hconnected with hmem | hmem | ⟨rfl, -⟩
    · simp at hmem
    · simp at hmem
    · exact hr rfl
  have hide : s.component .ide = some false := by
    rcases h.ide with hconnected | ⟨hflag, -⟩
    · exact absurd hconnected (hnone .ide (by simp))
    · exact hflag
  have hlauncher : s.component .launcher = some false := by
    obtain ⟨flag, hflag⟩ := Option.isSome_iff_exists.mp (h.timers htimers)
    cases flag with
    | false => exact hflag
    | true => exact absurd hflag (hnone .launcher (by simp))
  rcases hsees role hrole with hmem | hmem | ⟨-, hno | ⟨holder, -, -, hrest⟩⟩
  · simp at hmem
  · simp at hmem
  · exact hno.2 .ide hide
  · -- both would have to be the thread that finalizes the session
    have h₁ := hrest .ide (by simp) hide
    have h₂ := hrest .launcher (by simp) hlauncher
    simp [← h₁] at h₂

/-- A timeout thread changes. -/
theorem setTimer_inv (h : s.Inv) (timer : TimeoutThread)
    (htimers : s.timers ≠ []) (hsees : ∀ lookup, timer = .looking lookup → s.Sees lookup) :
    (s.setTimer i timer).Inv := by
  refine ⟨h.ide, fun r ops hr => ?_, h.finalizes, fun _ => h.timers htimers, h.complete, ?_,
    h.registered, h.notifies⟩
  · exact (h.fits r ops hr).of_state rfl id id
  · intro lookup hlookup
    rcases List.mem_or_eq_of_mem_set hlookup with hmem | heq
    · exact h.sees lookup hmem
    · exact hsees lookup heq.symm

theorem timers_ne_nil {timer : TimeoutThread} (h : s.timers[i]? = some timer) :
    s.timers ≠ [] := List.ne_nil_of_mem (List.mem_of_getElem? h)

/-- A timeout thread goes on with `notify_changed`. -/
theorem timerLook_inv (h : s.Inv) (hi : s.timers[i]? = some (.looking lookup)) :
    ((s.remove lookup).setTimer i (timerAfter (lookup.next s.component))).Inv := by
  have hsees := h.sees lookup (List.mem_of_getElem? hi)
  have hinv : (s.remove lookup).Inv := by
    refine ⟨h.ide, fun r ops hr => ?_, h.finalizes, h.timers, h.complete, h.sees,
      fun r hr => ?_, fun hregistered => h.notifies ?_⟩
    · exact (h.fits r ops hr).of_state rfl id id
    · have hno := not_removes h hsees (timers_ne_nil hi) hr
      simp [remove, hno, h.registered r hr]
    · exact (Bool.and_eq_true_iff.mp hregistered).1
  refine setTimer_inv hinv _ (timers_ne_nil hi) fun l hl => ?_
  cases hnext : lookup.next s.component with
  | none => simp [timerAfter, hnext] at hl
  | some l' =>
      rw [hnext] at hl
      obtain rfl := TimeoutThread.looking.inj hl
      exact hsees.next hnext

/-! ### Runs -/

/-- What is known of a handler that begins. -/
theorem fits_task {task : Task} (hallowed : task.allowed role)
    (hended : s.ended role = decide (task = .disconnect)) : s.Fits role task.ops := by
  cases task with
  | other => exact ⟨by simp [Task.ops], by simp [Task.ops], by simp [Task.ops], .inr trivial⟩
  | launch noDebug =>
      obtain rfl : role = .ide := by simpa [Task.allowed] using hallowed
      cases noDebug <;>
        exact ⟨fun _ _ => ⟨rfl, by simpa using hended⟩, by simp [Task.ops], by simp [Task.ops],
          .inr trivial⟩
  | attach =>
      obtain rfl : role = .ide := by simpa [Task.allowed] using hallowed
      exact ⟨fun _ _ => ⟨rfl, by simpa using hended⟩, by simp [Task.ops], by simp [Task.ops],
        .inr trivial⟩
  | terminate => exact ⟨by simp [Task.ops], by simp [Task.ops], by simp [Task.ops], .inr trivial⟩
  | disconnect =>
      exact ⟨by simp [Task.ops], fun _ => by simpa using hended, by simp [Task.ops], .inr trivial⟩

/-- A handler thread begins with a handler. -/
theorem start_inv (h : s.Inv) {task : Task} (hidle : s.Idle role) (hended : s.ended role = false)
    (hallowed : task.allowed role) :
    ({ s with
      pending := Function.update s.pending role (some task.ops)
      ended := Function.update s.ended role (task = .disconnect) } : Registration).Inv := by
  refine ⟨?_, fun r ops hr => ?_, h.finalizes, h.timers, h.complete, h.sees, h.registered,
    h.notifies⟩
  · rcases h.ide with hide | ⟨hide, hend⟩
    · exact .inl hide
    · have hrole : Role.ide ≠ role := by
        rintro rfl
        simp [hended] at hend
      exact .inr ⟨hide, by simpa [hrole] using hend⟩
  · by_cases hrole : r = role
    · subst hrole
      rcases hr with ⟨holder, hh, hr, -⟩ | hr
      · exact absurd hr (hidle.2 holder hh)
      · obtain rfl : task.ops = ops := by simpa using hr
        exact fits_task hallowed (by simp)
    · have hruns : s.Runs r ops := by
        rcases hr with hr | hr
        · exact .inl hr
        · exact .inr (by simpa [hrole] using hr)
      have hfits := h.fits r ops hruns
      refine ⟨fun r' hr' => ?_, fun hd => ?_, hfits.finalizing, hfits.timely⟩
      · have := hfits.attach r' hr'
        simpa [hrole] using this
      · simpa [hrole] using hfits.disconnect hd

/-- A handler thread gets the lock. -/
theorem acquire_inv (h : s.Inv) (hholder : s.holder = none) (hpending : s.pending role = some ops) :
    ({ s with
      holder := some ⟨role, ops, none⟩
      pending := Function.update s.pending role none } : Registration).Inv := by
  refine ⟨h.ide, fun r ops' hr => ?_, ?_, h.timers, ?_, fun lookup hlookup r hr => ?_,
    h.registered, fun hregistered => ?_⟩
  · have hruns : s.Runs r ops' := by
      rcases hr with ⟨holder, hh, rfl, rfl⟩ | hr
      · obtain rfl := Option.some.inj hh
        exact .inr hpending
      · by_cases hrole : r = role
        · subst hrole
          simp at hr
        · exact .inr (by simpa [hrole] using hr)
    exact (h.fits r ops' hruns).of_state rfl id id
  · rcases h.finalizes with hfin | hnone | ⟨holder, hh, -⟩
    · exact .inl hfin
    · exact .inr (.inl hnone)
    · simp [hholder] at hh
  · intro holder lookup hh hlookup
    obtain rfl := Option.some.inj hh
    simp at hlookup
  · rcases h.sees lookup hlookup r hr with hmem | hmem | ⟨rfl, hnone | ⟨holder, hh, -, -⟩⟩
    · exact .inl hmem
    · exact .inr (.inl hmem)
    · exact .inr (.inr ⟨rfl, .inl hnone⟩)
    · simp [hholder] at hh
  · rcases h.notifies hregistered with hconnected | ⟨holder, lookup, hh, -⟩
    · exact .inl hconnected
    · simp [hholder] at hh

theorem init_inv : init.Inv := by
  refine ⟨.inl rfl, fun r ops hr => ?_, .inr (.inl fun r => ?_), fun ht => absurd rfl ht, ?_,
    ?_, fun _ _ => rfl, fun _ => .inl ⟨.ide, rfl⟩⟩
  · rcases hr with ⟨holder, hh, -⟩ | hr
    · simp [init] at hh
    · simp [init] at hr
  · cases r <;> simp [init]
  · intro holder lookup hh
    simp [init] at hh
  · intro lookup hlookup
    simp [init] at hlookup

/-- **One step keeps the invariant**, as long as no server is attached too late. -/
theorem step_inv (h : s.Inv) (hC : AttachesInTime s a) (hstep : s.step a = some s') : s'.Inv := by
  cases step_cases hstep with
  | start hidle _ hended hallowed => exact start_inv h hidle hended hallowed
  | acquire hholder hpending => exact acquire_inv h hholder hpending
  | exec hholder hexec => exact exec_inv h hholder hC hexec
  | assign hholder => exact assign_inv h hholder
  | raise hholder =>
      exact skip_inv h hholder (by simp [Finalizes]) (by simp [Detaching]) fits_nil
  | @wait role awaited rest hholder _ =>
      refine release_inv h hholder (by simp [Finalizes]) (by simp [Detaching]) fun r ops' hr => ?_
      by_cases hself : r = role
      · subst hself
        obtain rfl : .waitFor awaited :: rest = ops' := by simpa using hr
        exact .inl ⟨_, hholder, rfl, rfl⟩
      · exact .inr (by simpa [hself] using hr)
  | look hholder => exact look_inv h hholder
  | timeOut hi => exact setTimer_inv h _ (timers_ne_nil hi) (by simp)
  | timerNotify hi =>
      refine setTimer_inv h _ (timers_ne_nil hi) fun lookup hlookup => ?_
      obtain rfl := TimeoutThread.looking.inj hlookup
      exact sees_new
  | timerLook hi => exact timerLook_inv h hi

theorem inv_of_reachable (h : registration.ReachableWithin AttachesInTime s) : s.Inv := by
  have hinv : registration.InvariantWithin AttachesInTime Inv :=
    ⟨fun h => h ▸ init_inv, fun hs hC hstep => step_inv hs hC hstep⟩
  exact hinv.of_reachable h

/-- No operation registers a session again. -/
theorem exec_registered (h : s.exec role ops = some s') : s'.registered = s.registered := by
  cases ops with
  | nil =>
      obtain rfl := Option.some.inj h
      rfl
  | cons op rest =>
      cases op <;> simp only [exec] at h <;> (try split_ifs at h) <;>
        obtain rfl := Option.some.inj h <;> rfl

/-- A session that has ended is not registered again. -/
theorem step_registered (h : s.registered = false) (hstep : s.step a = some s') :
    s'.registered = false := by
  cases step_cases hstep with
  | exec _ hexec => exact (exec_registered hexec).trans h
  | look => simp [remove, h]
  | timerLook => simp [setTimer, remove, h]
  | start | acquire | assign | raise | wait | timeOut | timerNotify => exact h

theorem run_registered {as : List Action} (h : s.registered = false)
    (hrun : registration.run s as = some s') : s'.registered = false := by
  induction as generalizing s with
  | nil =>
      obtain rfl := Option.some.inj hrun
      exact h
  | cons a as ih =>
      obtain ⟨s₁, h₁, h₂⟩ := Option.bind_eq_some_iff.mp hrun
      exact ih (step_registered h h₁) h₂

/-- **A session is registered as long as a component is connected**, and none is connected any
more once it is not; in all runs in which no server is attached too late. -/
theorem registered_iff (h : registration.ReachableWithin AttachesInTime s) :
    s.UpToDate ∧ ∀ as s', registration.StepsWithin AttachesInTime s as →
      registration.run s as = some s' → s.registered = false → ∀ role, ¬ s'.Connected role := by
  have hinv := inv_of_reachable h
  refine ⟨⟨hinv.registered, hinv.notifies⟩, fun as s' hC hrun hended role hconnected => ?_⟩
  have hregistered := (inv_of_reachable (h.run hC hrun)).registered role hconnected
  simp [run_registered hended hrun] at hregistered

/-- Nothing can be too late as long as there are no timeout threads. -/
theorem attachesInTime_of_timers (h : s.timers = []) : AttachesInTime s a := by
  cases a with
  | exec =>
      intro _ _ _ _ lookup hlookup
      simp [h] at hlookup
  | _ => trivial

/-- The IDE attaches to a server, and disconnects; the session ends. -/
def attachAndDisconnect : List Action :=
  [.start .ide .attach, .acquire .ide, .exec, .exec, .exec, .look, .look, .look, .look, .exec,
    .exec, .start .ide .disconnect, .acquire .ide, .exec, .look, .look, .look, .look, .look,
    .exec, .exec, .look, .look, .look, .look, .look, .exec, .exec, .look, .look, .look, .look,
    .look, .look, .exec, .exec]

theorem registered_iff_attach :
    ∃ s, registration.run init attachAndDisconnect = some s ∧ s.registered = false ∧
      s.UpToDate := by
  have hC : registration.StepsWithin AttachesInTime init attachAndDisconnect := by
    iterate 36 refine .cons (attachesInTime_of_timers rfl) rfl ?_
    trivial
  have hrun : ∃ s, registration.run init attachAndDisconnect = some s ∧ s.registered = false :=
    ⟨_, rfl, rfl⟩
  obtain ⟨s, hs, hended⟩ := hrun
  exact ⟨s, hs, hended, (registered_iff (.run (.start rfl) hC hs)).1⟩

/-- The launcher reports the debuggee, and disconnects, while the IDE waits for that in
"launch"; a timeout thread finds that there is no server; then one is attached. -/
def lateAttach : List Action :=
  [.start .ide (.launch false), .acquire .ide, .exec, .exec, .exec, .look, .look, .look, .look,
    .exec, .exec, .wait, .start .launcher .other, .acquire .launcher, .assign, .look, .look, .look,
    .look, .exec, .exec, .start .launcher .disconnect, .acquire .launcher, .exec, .look, .look,
    .look, .look, .exec, .exec, .look, .look, .look, .look, .exec, .exec, .exec, .timeOut 0,
    .timerNotify 0, .timerLook 0, .timerLook 0, .timerLook 0, .acquire .ide, .exec, .exec, .exec,
    .look, .look, .look, .look, .exec, .exec]

/-- The IDE disconnects from a session that has been finalized before, and the timeout thread
removes it. -/
def lateRemove : List Action :=
  [.start .ide .disconnect, .acquire .ide, .exec, .look, .look, .look, .look, .look, .look, .exec,
    .exec, .timerLook 0, .timerLook 0, .timerLook 0]

/-- **A session that has ended is alive**: its server is connected. -/
theorem ended_alive : ¬ ∀ s, registration.Reachable s → s.UpToDate := by
  intro h
  have hrun : ∃ s, registration.run init (lateAttach ++ lateRemove) = some s ∧
      s.registered = false ∧ s.Connected .server := ⟨_, rfl, rfl, rfl⟩
  obtain ⟨s, hs, hended, hconnected⟩ := hrun
  have hregistered := (h s (Machine.reachable_iff_run.mpr ⟨_, _, rfl, hs⟩)).1 .server hconnected
  simp [hended] at hregistered

end Registration

end Ptvsd
