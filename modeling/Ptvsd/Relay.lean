import Ptvsd.Registration

/-!
# Events from Launchers and Servers

What the IDE of a session receives: the events that are passed to `propagate_after_start`, the
responses to its requests, and the events "initialized", "exited" and "terminated", which the
adapter sends by itself. Its requests to the IDE, and its events about telemetry and about
subprocesses, are left out; nothing here depends on them.

Handlers of the three components run with the session locked, one operation of a handler being
one step; `Session.wait_for` releases the lock. A write to the IDE raises once the connection is
lost, and not before; the channel to the IDE is closed before `disconnect` is invoked. After an
exception that is no error of the message the adapter exits; here it may also go on. What has
been passed to `propagate_after_start`, and what was written, is recorded; no step depends on
that.

## Main results

* `propagated_in_order`: the events that were propagated are at any time a prefix of those that
  were passed to `propagate_after_start`, and come after the success response to the "launch" or
  "attach" request.
-/

namespace Ptvsd

/-- The events of a launcher. -/
inductive LauncherEvent where
  | process
  /-- Some output of the debuggee. -/
  | output (n : ℕ)
  | exited
  | terminated
  deriving DecidableEq

/-- The events of a debug server; those with a number are passed on, some of them not always. -/
inductive ServerEvent where
  | initialized
  | process (n : ℕ)
  | continued (n : ℕ)
  | exited (n : ℕ)
  | terminated
  | other (n : ℕ)
  deriving DecidableEq

/-- An event that is passed to `propagate_after_start`. -/
inductive RelayedEvent where
  | launcher (e : LauncherEvent)
  | server (e : ServerEvent)
  deriving DecidableEq

/-- A request from the IDE. -/
structure IdeRequest where
  id : ℕ
  /-- It is "launch" or "attach". -/
  start : Bool
  deriving DecidableEq

/-- What is written to the IDE. -/
inductive Sent where
  | propagated (e : RelayedEvent)
  | response (request : IdeRequest) (success : Bool)
  | initialized
  | exited
  | terminated
  deriving DecidableEq

namespace Relay

/-- The operations of the handlers. -/
inductive Op where
  /-- Anything that concerns none of the data here, and may raise. -/
  | other
  /-- `raise request.isnt_valid(…)`. -/
  | throw
  /-- `if self.launcher or self.server: raise`. -/
  | checkStarted
  /-- `session.launcher = self`. -/
  | attachLauncher
  /-- `Connection.attach_to_session`. -/
  | attachServer
  /-- The same, with the `except` clause. -/
  | tryAttachServer (request : IdeRequest)
  /-- An access to an attribute of `self.server`. -/
  | requireServer
  /-- The loop of `Session.wait_for`. -/
  | waitFor (awaited : Awaited)
  /-- `self.channel.send_event("initialized")`. -/
  | sendInitialized
  /-- `self.start_request = request`. -/
  | setStartRequest (request : IdeRequest)
  /-- `self.has_started = True`. -/
  | setHasStarted
  /-- `start_request.respond({})`, followed by `_propagate_deferred_events`. -/
  | respondToStart
  /-- `if self.start_request is None or self.has_started: request.cant_handle(…)`. -/
  | checkConfigurationDone (request : IdeRequest)
  /-- The `try` statement of "configurationDone". -/
  | tryConfigurationDone (request : IdeRequest)
  /-- `request.respond(self.server.channel.delegate(request))`, with the `except` clause. -/
  | delegate (request : IdeRequest)
  /-- Where a `finally` clause begins. -/
  | beginFinally
  /-- Where a `finally` clause ends. -/
  | endFinally
  /-- `_propagate_deferred_events`. -/
  | propagateDeferred
  /-- Its loop, at the event with this index. -/
  | propagateNext (i : ℕ)
  /-- `self._deferred_events = None`. -/
  | clearDeferred
  /-- `propagate_after_start(event)`. -/
  | propagateAfterStart (e : RelayedEvent)
  /-- `self._deferred_events.append(event)`. -/
  | defer (e : RelayedEvent)
  /-- `self.ide.channel.propagate(event)`. -/
  | propagate (e : RelayedEvent)
  /-- `if not self.launcher: self.ide.propagate_after_start(event)`. -/
  | unlessLauncher (e : RelayedEvent)
  /-- The same, if the IDE is not one of those that do not expect the event. -/
  | unlessVisualStudio (e : RelayedEvent)
  /-- `self.ide.channel.send_event("exited", …)`, in a `try` statement. -/
  | sendExited
  /-- `self.channel.close()`. -/
  | close
  /-- `Component.disconnect`. -/
  | disconnect
  /-- `Session.finalize`. -/
  | finalize
  /-- `if self.server`, in `_finalize`, and what follows. -/
  | finalizeServer
  /-- `if self.launcher and self.launcher.is_connected`, and what follows. -/
  | finalizeLauncher
  /-- `self.ide.channel.send_event("terminated")`, in a `try` statement. -/
  | sendTerminated
  deriving DecidableEq

/-- A handler of a component. -/
inductive Task where
  /-- "launch" or "attach" from the IDE. -/
  | launch (noDebug : Bool)
  | attach (noDebug : Bool)
  | configurationDone
  /-- "terminate" or "disconnect". -/
  | terminate
  /-- Any other request from the IDE. -/
  | other
  | launcherEvent (e : LauncherEvent)
  | serverEvent (e : ServerEvent)
  | disconnect
  deriving DecidableEq

/-- What `_start_message_handler` does in the end. -/
def startOps (request : IdeRequest) (noDebug : Bool) : List Op :=
  if noDebug then [.setStartRequest request, .setHasStarted, .respondToStart]
  else [.other, .requireServer, .other, .sendInitialized, .setStartRequest request]

/-- `spawn_debuggee`. -/
def spawnOps (noDebug : Bool) : List Op :=
  if noDebug then [.attachLauncher, .other]
  else [.attachLauncher, .other, .waitFor .other, .other, .attachServer]

/-- The operations of a handler. -/
def Task.ops (request : IdeRequest) : Task → List Op
  | .launch noDebug =>
      [.other, .checkStarted, .other] ++ spawnOps noDebug ++ startOps request noDebug
  | .attach true => [.other, .checkStarted, .throw]
  | .attach false =>
      [.other, .checkStarted, .other, .tryAttachServer request] ++ startOps request false
  | .configurationDone =>
      [.checkConfigurationDone request, .tryConfigurationDone request, .other]
  | .terminate => [.other, .finalize]
  | .other => [.other]
  | .launcherEvent .process => [.other, .propagateAfterStart (.launcher .process)]
  | .launcherEvent (.output n) => [.propagateAfterStart (.launcher (.output n))]
  | .launcherEvent .exited => [.other]
  | .launcherEvent .terminated => [.sendExited, .close]
  | .serverEvent .initialized => []
  | .serverEvent (.process n) => [.unlessLauncher (.server (.process n))]
  | .serverEvent (.continued n) => [.unlessVisualStudio (.server (.continued n))]
  | .serverEvent (.exited n) => [.unlessLauncher (.server (.exited n))]
  | .serverEvent .terminated => [.close]
  | .serverEvent (.other n) => [.propagateAfterStart (.server (.other n))]
  | .disconnect => [.disconnect]

/-- Whose handler it is. -/
def Task.role? : Task → Option Role
  | .launcherEvent _ => some .launcher
  | .serverEvent _ => some .server
  | .disconnect => none
  | _ => some .ide

/-- The request is "launch" or "attach". -/
def Task.isStart : Task → Bool
  | .launch _ => true
  | .attach _ => true
  | _ => false

/-- What `Request._handle` does in the end, unless the handler raises: it sends a response if it
gets a body. -/
def Task.returnsBody : Task → Bool
  | .terminate => true
  | .other => true
  | _ => false

/-- A handler thread that holds the lock of the session. -/
structure Holder where
  role : Role
  ops : List Op
  /-- An exception is to be raised again when the `finally` clause has ended. -/
  raised : Bool

end Relay

/-- A session, with regard to the events for the IDE. -/
structure Relay where
  /-- The launcher and the server, and whether they are connected. -/
  launcher : Option Bool
  server : Option Bool
  isFinalizing : Bool
  /-- The channels that handlers have closed; handlers that are queued run nevertheless. -/
  closed : Role → Bool
  /-- The channels whose last handler has begun. -/
  ended : Role → Bool
  startRequest : Option IdeRequest
  hasStarted : Bool
  /-- `_deferred_events`. -/
  deferred : Option (List RelayedEvent)
  /-- The number of requests that the IDE has sent. -/
  requests : ℕ
  /-- The request that the IDE's thread is handling, and whether its handler returns a body. -/
  current : Option (IdeRequest × Bool)
  /-- Whether it has been responded to, and how. -/
  responses : ℕ → Option Bool
  /-- The connection to the IDE is lost. -/
  lost : Bool
  holder : Option Relay.Holder
  /-- What the other handler threads do once they get the lock. -/
  pending : Role → Option (List Relay.Op)
  /-- The response that `Request._handle` is about to send. -/
  answer : Option (IdeRequest × Bool)
  /-- What was passed to `propagate_after_start`. -/
  passed : List RelayedEvent
  /-- What was written to the IDE. -/
  sent : List Sent

namespace Relay

/-- A session whose IDE has just connected. -/
def init : Relay where
  launcher := none
  server := none
  isFinalizing := false
  closed := fun _ => false
  ended := fun _ => false
  startRequest := none
  hasStarted := false
  deferred := some []
  requests := 0
  current := none
  responses := fun _ => none
  lost := false
  holder := none
  pending := fun _ => none
  answer := none
  passed := []
  sent := []

/-! ### Operations -/

/-- The holder of the lock goes on. -/
def goto (role : Role) (ops : List Op) (raised : Bool) (s : Relay) : Relay :=
  { s with holder := some ⟨role, ops, raised⟩ }

/-- What is left of a handler that raises: a `finally` clause. -/
def unwind (ops : List Op) : List Op := (ops.dropWhile (· ≠ .beginFinally)).tail

/-- The handler raises. -/
def raise (role : Role) (ops : List Op) (s : Relay) : Relay := s.goto role (unwind ops) true

/-- Something is written to the IDE. -/
def write (message : Sent) (s : Relay) : Relay := { s with sent := s.sent ++ [message] }

/-- `Request.respond`, which raises if there is a response already, and if it cannot be sent. -/
def respond (request : IdeRequest) (success : Bool) (s : Relay) : Option Relay :=
  if (s.responses request.id).isSome ∨ s.lost then none
  else
    some ({ s with responses := Function.update s.responses request.id (some success) }.write
      (.response request success))

/-- The holder goes on after something that may have raised. -/
def orRaise (role : Role) (ops rest : List Op) (raised : Bool) (s : Relay) :
    Option Relay → Relay
  | some s' => s'.goto role rest raised
  | none => s.raise role ops

/-- The handler raises an error that it has responded with, if it is the IDE's: what
`isnt_valid()` or `cant_handle()` has returned. -/
def refuse (role : Role) (ops : List Op) (s : Relay) : Relay :=
  match role, s.current with
  | .ide, some (request, _) => ((s.respond request false).getD s).raise role ops
  | _, _ => s.raise role ops

/-- Something is written to the IDE, if the connection is not lost. -/
def writeEvent (message : Sent) (s : Relay) : Option Relay :=
  if s.lost then none else some (s.write message)

/-- The same, in a `try` statement. -/
def tryWrite (message : Sent) (s : Relay) : Relay := if s.lost then s else s.write message

/-- `Session.wait_for` can return. -/
def Satisfied (s : Relay) : Awaited → Prop
  | .other => True
  | .launcherDisconnected => s.launcher ≠ some true

instance (s : Relay) : DecidablePred s.Satisfied
  | .other => inferInstanceAs (Decidable True)
  | .launcherDisconnected => inferInstanceAs (Decidable (s.launcher ≠ some true))

/-- A component has disconnected. -/
def setDisconnected (s : Relay) : Role → Relay
  | .ide => s
  | .launcher => { s with launcher := some false }
  | .server => { s with server := some false }

/-- The handler has returned, or raised, and releases the lock. -/
def finish (role : Role) (raised : Bool) (s : Relay) : Relay :=
  if role = .ide then
    { s with
      holder := none
      current := none
      answer := s.current.bind fun (request, body) =>
        if raised then some (request, false) else if body then some (request, true) else none }
  else { s with holder := none }

/-- The next operation of the holder of the lock; `branch` is what is left open. -/
def exec (role : Role) (raised branch : Bool) (s : Relay) : List Op → Option Relay
  | [] => some (s.finish role raised)
  | .other :: rest => some (s.goto role rest raised)
  | .throw :: rest => some (s.refuse role rest)
  | .checkStarted :: rest =>
      if s.launcher.isSome || s.server.isSome then some (s.refuse role rest)
      else some (s.goto role rest raised)
  | .attachLauncher :: rest =>
      if s.launcher.isSome then some (s.raise role rest)
      else some ({ s with launcher := some true }.goto role rest raised)
  | .attachServer :: rest =>
      if s.server.isSome ∨ branch then some (s.raise role rest)
      else some ({ s with server := some true }.goto role rest raised)
  | .tryAttachServer request :: rest =>
      -- it is being debugged already: the error is not raised
      if branch then some (s.orRaise role rest rest raised (s.respond request false))
      else if s.server.isSome then some (s.raise role rest)
      else some ({ s with server := some true }.goto role rest raised)
  | .requireServer :: rest =>
      if s.server.isSome then some (s.goto role rest raised) else some (s.raise role rest)
  | .waitFor awaited :: rest =>
      if s.Satisfied awaited then some (s.goto role rest raised) else none
  | .sendInitialized :: rest => some (s.orRaise role rest rest raised (s.writeEvent .initialized))
  | .setStartRequest request :: rest =>
      some ({ s with startRequest := some request }.goto role rest raised)
  | .setHasStarted :: rest => some ({ s with hasStarted := true }.goto role rest raised)
  | .respondToStart :: rest =>
      some (s.orRaise role rest (.propagateDeferred :: rest) raised
        (s.startRequest.bind fun request => s.respond request true))
  | .checkConfigurationDone request :: rest =>
      if s.startRequest.isNone || s.hasStarted then
        some (s.orRaise role rest rest raised (s.respond request false))
      else some (s.goto role rest raised)
  | .tryConfigurationDone request :: rest =>
      some (s.goto role
        (.setHasStarted :: .delegate request :: .beginFinally :: .respondToStart :: .endFinally ::
          rest) raised)
  | .delegate request :: rest =>
      if branch then
        -- the server has failed
        some (s.orRaise role rest rest raised
          (s.startRequest.bind fun start => s.respond start false))
      else some (s.orRaise role rest rest raised (s.respond request true))
  | .beginFinally :: rest => some (s.goto role rest raised)
  | .endFinally :: rest => some (s.goto role (if raised then [] else rest) raised)
  | .propagateDeferred :: rest =>
      match s.deferred with
      | some _ => some (s.goto role (.propagateNext 0 :: rest) raised)
      | none => some (s.raise role rest)
  | .propagateNext i :: rest =>
      match (s.deferred.getD [])[i]? with
      | some e =>
          some (s.orRaise role rest (.propagateNext (i + 1) :: rest) raised
            (s.writeEvent (.propagated e)))
      | none => some (s.goto role (.clearDeferred :: rest) raised)
  | .clearDeferred :: rest => some ({ s with deferred := none }.goto role rest raised)
  | .propagateAfterStart e :: rest =>
      let s' := { s with passed := s.passed ++ [e] }
      match s.deferred with
      | some _ => some (s'.goto role (.defer e :: rest) raised)
      | none => some (s'.goto role (.propagate e :: rest) raised)
  | .defer e :: rest =>
      match s.deferred with
      | some events => some ({ s with deferred := some (events ++ [e]) }.goto role rest raised)
      | none => some (s.raise role rest)
  | .propagate e :: rest =>
      some (s.orRaise role rest rest raised (s.writeEvent (.propagated e)))
  | .unlessLauncher e :: rest =>
      if s.launcher.isSome then some (s.goto role rest raised)
      else some (s.goto role (.propagateAfterStart e :: rest) raised)
  | .unlessVisualStudio e :: rest =>
      if branch then some (s.goto role rest raised)
      else some (s.goto role (.propagateAfterStart e :: rest) raised)
  | .sendExited :: rest => some ((s.tryWrite .exited).goto role rest raised)
  | .close :: rest =>
      some ({ s with closed := Function.update s.closed role true }.goto role rest raised)
  | .disconnect :: rest => some ((s.setDisconnected role).goto role (.finalize :: rest) raised)
  | .finalize :: rest =>
      if s.isFinalizing then some (s.goto role rest raised)
      else
        some ({ s with isFinalizing := true }.goto role
          (.finalizeServer :: .finalizeLauncher :: .sendTerminated :: rest) raised)
  | .finalizeServer :: rest =>
      if s.server.isSome then some ({ s with server := some false }.goto role rest raised)
      else some (s.goto role rest raised)
  | .finalizeLauncher :: rest =>
      if s.launcher = some true then
        if s.server.isSome then
          some (s.goto role (.waitFor .other :: .waitFor .launcherDisconnected :: rest) raised)
        else some (s.goto role (.waitFor .launcherDisconnected :: rest) raised)
      else some (s.goto role rest raised)
  | .sendTerminated :: rest => some ((s.tryWrite .terminated).goto role rest raised)

/-! ### Steps -/

/-- What the threads of a session do. -/
inductive Action where
  /-- A handler thread begins with a handler. -/
  | start (role : Role) (task : Task)
  /-- A handler thread gets the lock. -/
  | acquire (role : Role)
  /-- The holder of the lock executes its next operation. -/
  | exec (branch : Bool)
  /-- The holder of the lock raises, maybe an error that it has responded with. -/
  | raise (responds : Bool)
  /-- The holder of the lock releases it, and waits. -/
  | wait
  /-- `Request._handle` sends a response. -/
  | answer
  /-- The connection to the IDE is lost. -/
  | lose

/-- A handler thread is between two handlers. -/
def Idle (s : Relay) (role : Role) : Prop :=
  s.pending role = none ∧ (∀ holder ∈ s.holder, holder.role ≠ role) ∧
    (role = .ide → s.answer = none)

instance (s : Relay) : DecidablePred s.Idle := fun role =>
  inferInstanceAs (Decidable (s.pending role = none ∧ (∀ holder ∈ s.holder, holder.role ≠ role) ∧
    (role = .ide → s.answer = none)))

/-- The messages of the channel are handled by the component; those of a server that was detached
from the session are not. -/
def Present (s : Relay) : Role → Bool
  | .ide => true
  | .launcher => s.launcher.isSome
  | .server => s.server = some true

/-- A handler of a component can begin: its last one only when the channel is closed. -/
def Ready (s : Relay) (role : Role) (task : Task) : Prop :=
  s.Idle role ∧ s.Present role ∧ s.ended role = false ∧
    if task = .disconnect then role = .ide → s.lost = true else task.role? = some role

instance (s : Relay) (role : Role) (task : Task) : Decidable (s.Ready role task) :=
  inferInstanceAs (Decidable (_ ∧ _ ∧ _ ∧ _))

/-- The request that a handler of the IDE is about. -/
def nextRequest (task : Task) (s : Relay) : IdeRequest := ⟨s.requests, task.isStart⟩

/-- A handler thread begins with a handler, for which it needs the lock. -/
def begin (role : Role) (task : Task) (s : Relay) : Relay :=
  let s' := { s with
    pending := Function.update s.pending role (some (task.ops (s.nextRequest task)))
    ended := Function.update s.ended role (task = .disconnect) }
  if task.role? = some .ide then
    { s' with requests := s.requests + 1, current := some (s.nextRequest task, task.returnsBody) }
  else s'

/-- The step under an action. -/
def step (s : Relay) : Action → Option Relay
  | .start role task => if s.Ready role task then some (s.begin role task) else none
  | .acquire role =>
      match s.holder, s.pending role with
      | none, some ops =>
          some { s with
            holder := some ⟨role, ops, false⟩
            pending := Function.update s.pending role none }
      | _, _ => none
  | .exec branch =>
      match s.holder with
      | some ⟨role, ops, raised⟩ => s.exec role raised branch ops
      | none => none
  | .raise responds =>
      match s.holder with
      | some ⟨role, .other :: rest, _⟩ =>
          some (if responds then s.refuse role rest else s.raise role rest)
      | some ⟨role, .delegate _ :: rest, _⟩ => some (s.raise role rest)
      | _ => none
  | .wait =>
      match s.holder with
      | some ⟨role, .waitFor awaited :: rest, false⟩ =>
          if awaited = .launcherDisconnected ∧ s.Satisfied awaited then none
          else
            some { s with
              holder := none
              pending := Function.update s.pending role (some (.waitFor awaited :: rest)) }
      | _ => none
  | .answer =>
      match s.answer with
      | some (request, success) =>
          some { (s.respond request success).getD s with answer := none }
      | none => none
  | .lose => some { s with lost := true }

end Relay

/-- A session, with regard to the events for the IDE. -/
def relay : Machine Relay Relay.Action where
  start s := s = .init
  step := Relay.step

/-- The event that is propagated, if one is. -/
def Sent.event? : Sent → Option RelayedEvent
  | .propagated e => some e
  | _ => none

namespace Relay

variable {s s' s₁ : Relay} {role : Role} {op : Op} {ops rest : List Op} {raised branch : Bool}
  {a : Action} {message : Sent} {request : IdeRequest} {success : Bool} {e : RelayedEvent}

/-! ### What was written -/

/-- The events that were propagated. -/
def propagated (s : Relay) : List RelayedEvent := s.sent.filterMap Sent.event?

/-- The start request was responded to with success. -/
def Started (s : Relay) : Prop :=
  ∃ q, s.startRequest = some q ∧ q.start = true ∧ s.responses q.id = some true ∧
    .response q true ∈ s.sent

/-- No event comes before the success response to a start request. -/
def Ordered (sent : List Sent) : Prop :=
  ∀ before e after, sent = before ++ .propagated e :: after →
    ∃ q : IdeRequest, q.start = true ∧ .response q true ∈ before

theorem ordered_nil : Ordered [] := by
  intro before e after h
  simp at h

theorem Ordered.append {sent : List Sent} (h : Ordered sent)
    (hmessage : message.event?.isSome →
      ∃ q : IdeRequest, q.start = true ∧ .response q true ∈ sent) :
    Ordered (sent ++ [message]) := by
  intro before e after heq
  rcases List.eq_nil_or_concat after with rfl | ⟨after, last, rfl⟩
  · obtain ⟨rfl, rfl⟩ := List.append_inj' heq rfl |>.imp_right List.cons.inj |>.imp_right And.left
    exact hmessage rfl
  · rw [List.concat_eq_append, ← List.cons_append, ← List.append_assoc] at heq
    exact h before e after (List.append_inj' heq rfl).1

/-! ### Handlers that are not in the middle of something -/

/-- The operation belongs to the middle of a function that has read `_deferred_events`. -/
def Op.transient : Op → Bool
  | .propagateDeferred => true
  | .propagateNext _ => true
  | .clearDeferred => true
  | .defer _ => true
  | .propagate _ => true
  | _ => false

/-- What holds when nobody is in the middle of something. -/
structure Settled (s : Relay) : Prop where
  isPrefix : s.propagated <+: s.passed
  deferred : ∀ events, s.deferred = some events → s.passed = events
  direct : s.deferred = none → s.Started ∧ (s.lost = false → s.propagated = s.passed)
  started : s.propagated ≠ [] → s.Started

/-- What holds when a handler is about to execute these operations. -/
def Expects (s : Relay) : List Op → Prop
  | .propagateDeferred :: _ => s.Settled ∧ s.Started ∧ s.propagated = []
  | .propagateNext i :: _ => s.deferred = some s.passed ∧ s.Started ∧ s.propagated = s.passed.take i
  | .clearDeferred :: _ => s.Started ∧ s.propagated = s.passed
  | .defer e :: _ =>
      ∃ events, s.deferred = some events ∧ s.passed = events ++ [e] ∧ s.propagated <+: events ∧
        (s.propagated ≠ [] → s.Started)
  | .propagate e :: _ =>
      s.deferred = none ∧ s.Started ∧ ∃ events, s.passed = events ++ [e] ∧
        s.propagated <+: events ∧ (s.lost = false → s.propagated = events)
  | _ => s.Settled

theorem Expects.settled (h : s.Expects (op :: rest)) (hop : op.transient = false) : s.Settled := by
  cases op with
  | propagateDeferred => simp [Op.transient] at hop
  | propagateNext i => simp [Op.transient] at hop
  | clearDeferred => simp [Op.transient] at hop
  | defer e => simp [Op.transient] at hop
  | propagate e => simp [Op.transient] at hop
  | _ => exact h

theorem Settled.expects (h : s.Settled) (hops : ∀ op ∈ ops, op.transient = false) :
    s.Expects ops := by
  cases ops with
  | nil => exact h
  | cons op rest =>
      have hop := hops op List.mem_cons_self
      cases op with
      | propagateDeferred => simp [Op.transient] at hop
      | propagateNext i => simp [Op.transient] at hop
      | clearDeferred => simp [Op.transient] at hop
      | defer e => simp [Op.transient] at hop
      | propagate e => simp [Op.transient] at hop
      | _ => exact h

/-- Whose turn it is does not matter. -/
theorem Settled.of_turn (h : s.Settled) {holder : Option Holder}
    {pending : Role → Option (List Op)} {ended : Role → Bool} {requests : ℕ}
    {current : Option (IdeRequest × Bool)} :
    ({ s with
      holder := holder, pending := pending, ended := ended, requests := requests
      current := current } : Relay).Settled :=
  ⟨h.isPrefix, h.deferred, h.direct, h.started⟩

theorem Expects.of_turn (h : s.Expects ops) {holder : Option Holder}
    {pending : Role → Option (List Op)} {ended : Role → Bool} {requests : ℕ}
    {current : Option (IdeRequest × Bool)} :
    ({ s with
      holder := holder, pending := pending, ended := ended, requests := requests
      current := current } : Relay).Expects ops := by
  cases ops with
  | nil => exact Settled.of_turn h
  | cons op rest =>
      cases op with
      | propagateDeferred => exact ⟨h.1.of_turn, h.2⟩
      | propagateNext i => exact h
      | clearDeferred => exact h
      | defer e => exact h
      | propagate e => exact h
      | _ => exact Settled.of_turn h

/-- Once the connection is lost, less is expected. -/
theorem Settled.lose (h : s.Settled) : ({ s with lost := true } : Relay).Settled :=
  ⟨h.isPrefix, h.deferred, fun hnone => ⟨(h.direct hnone).1, fun hopen => by simp at hopen⟩,
    h.started⟩

theorem Expects.lose (h : s.Expects ops) : ({ s with lost := true } : Relay).Expects ops := by
  cases ops with
  | nil => exact Settled.lose h
  | cons op rest =>
      cases op with
      | propagateDeferred => exact ⟨h.1.lose, h.2⟩
      | propagateNext i => exact h
      | clearDeferred => exact h
      | defer e => exact h
      | propagate e =>
          obtain ⟨hnone, hstarted, events, hpassed, hprefix, -⟩ := h
          exact ⟨hnone, hstarted, events, hpassed, hprefix, fun hopen => by simp at hopen⟩
      | _ => exact Settled.lose h

/-! ### Start requests -/

/-- There is a launcher or a server. -/
def HasComponent (s : Relay) : Prop := s.launcher.isSome ∨ s.server.isSome

/-- A start request is recorded only where there is a component, and none is recorded yet; given
what holds before. -/
def Sound : Prop → Prop → List Op → Prop
  | _, _, [] => True
  | present, _, .checkStarted :: rest => Sound present True rest
  | _, free, .attachLauncher :: rest => Sound True free rest
  | _, free, .attachServer :: rest => Sound True free rest
  | _, free, .requireServer :: rest => Sound True free rest
  | present, free, .setStartRequest request :: rest =>
      present ∧ free ∧ request.start = true ∧ Sound present False rest
  | _, _, .tryConfigurationDone _ :: rest => Sound False False rest
  | _, _, .beginFinally :: rest => Sound False False rest
  | present, free, _ :: rest => Sound present free rest

theorem Sound.mono {present present' free free' : Prop} (h : Sound present free ops)
    (hpresent : present → present') (hfree : free → free') : Sound present' free' ops := by
  induction ops generalizing present present' free free' with
  | nil => trivial
  | cons op rest ih =>
      cases op with
      | checkStarted => exact ih h hpresent id
      | attachLauncher => exact ih h id hfree
      | attachServer => exact ih h id hfree
      | requireServer => exact ih h id hfree
      | setStartRequest request =>
          exact ⟨hpresent h.1, hfree h.2.1, h.2.2.1, ih h.2.2.2 hpresent id⟩
      | tryConfigurationDone request => exact h
      | beginFinally => exact h
      | _ => exact ih h hpresent hfree

/-- A `finally` clause records no start request. -/
theorem Sound.unwind {present free : Prop} (h : Sound present free ops) :
    Sound False False (unwind ops) := by
  induction ops generalizing present free with
  | nil => trivial
  | cons op rest ih =>
      cases op with
      | setStartRequest request => exact ih h.2.2.2
      | beginFinally => exact h
      | _ => exact ih h

theorem mem_of_mem_unwind (h : op ∈ unwind ops) : op ∈ ops :=
  (List.dropWhile_sublist _).mem (List.mem_of_mem_tail h)

theorem Sound.tail {present free : Prop} (h : Sound present free (op :: rest)) :
    ∃ present' free', Sound present' free' rest := by
  cases op with
  | setStartRequest request => exact ⟨_, _, h.2.2.2⟩
  | _ => exact ⟨_, _, h⟩

/-- The operations that a handler thread has yet to execute. -/
def Runs (s : Relay) (role : Role) (ops : List Op) : Prop :=
  (∃ raised, s.holder = some ⟨role, ops, raised⟩) ∨ s.pending role = some ops

/-- Only the IDE's thread handles start requests. -/
def Fits (s : Relay) (role : Role) (ops : List Op) : Prop :=
  if role = .ide then Sound s.HasComponent (s.startRequest = none) ops
  else ∀ request, .setStartRequest request ∉ ops

theorem fits_nil (s : Relay) (role : Role) : s.Fits role [] := by
  rw [Fits]
  split_ifs
  · trivial
  · simp

/-- What is left of a handler that raises records no start request. -/
theorem Fits.unwind_tail (h : s.Fits role (op :: rest)) : s₁.Fits role (unwind rest) := by
  rw [Fits] at h ⊢
  split_ifs at h ⊢
  · obtain ⟨_, _, hsound⟩ := h.tail
    exact hsound.unwind.mono False.elim False.elim
  · exact fun request hmem => h request (List.mem_cons_of_mem _ (mem_of_mem_unwind hmem))

theorem Fits.mono (h : s.Fits role ops) (hcomponent : s.HasComponent → s₁.HasComponent)
    (hfree : s.startRequest = none → s₁.startRequest = none) : s₁.Fits role ops := by
  rw [Fits] at h ⊢
  split_ifs at h ⊢
  · exact h.mono hcomponent hfree
  · exact h

/-- The operations are replaced by others that say as little about start requests. -/
theorem Fits.replace (h : s.Fits role ops)
    (hsound : ∀ present free, Sound present free ops → Sound present free rest)
    (hmem : ∀ request, .setStartRequest request ∈ rest → .setStartRequest request ∈ ops) :
    s.Fits role rest := by
  rw [Fits] at h ⊢
  split_ifs at h ⊢
  · exact hsound _ _ h
  · exact fun request hin => h request (hmem request hin)

/-- A component is found. -/
theorem Fits.component (h : s.Fits role (op :: ops)) (hcomponent : s.HasComponent)
    (hsound : ∀ present free, Sound present free (op :: ops) → Sound True free ops) :
    s.Fits role ops := by
  rw [Fits] at h ⊢
  split_ifs at h ⊢
  · exact (hsound _ _ h).mono (fun _ => hcomponent) id
  · exact fun request hin => h request (List.mem_cons_of_mem _ hin)

/-! ### The invariant -/

/-- What holds in all runs. -/
structure Inv (s : Relay) : Prop where
  ordered : Ordered s.sent
  component : s.startRequest.isSome → s.HasComponent
  start : ∀ q, s.startRequest = some q → q.start = true
  free : s.holder = none → s.Settled
  held : ∀ holder, s.holder = some holder →
    s.Expects holder.ops ∧ ∀ op ∈ holder.ops.tail, op.transient = false
  waiting : ∀ role ops, s.pending role = some ops → ∀ op ∈ ops, op.transient = false
  fits : ∀ role ops, s.Runs role ops → s.Fits role ops
  single : ∀ holder, s.holder = some holder → s.pending holder.role = none

/-- What most operations leave alone. -/
structure Keeps (s s' : Relay) : Prop where
  pending : s'.pending = s.pending
  deferred : s'.deferred = s.deferred
  passed : s'.passed = s.passed
  lost : s'.lost = s.lost
  startRequest : s'.startRequest = s.startRequest
  component : s.HasComponent → s'.HasComponent
  responses : ∀ i, s.responses i = some true → s'.responses i = some true
  sent : s'.sent = s.sent ∨ ∃ message : Sent, message.event? = none ∧ s'.sent = s.sent ++ [message]

theorem Keeps.refl (s : Relay) : s.Keeps s :=
  ⟨rfl, rfl, rfl, rfl, rfl, id, fun _ => id, Or.inl rfl⟩

theorem Keeps.propagated (h : s.Keeps s') : s'.propagated = s.propagated := by
  rcases h.sent with heq | ⟨message, hmessage, heq⟩
  · rw [Relay.propagated, heq, Relay.propagated]
  · rw [Relay.propagated, heq, List.filterMap_append, Relay.propagated]
    simp [hmessage]

theorem Keeps.started (h : s.Keeps s') (hstarted : s.Started) : s'.Started := by
  obtain ⟨q, hq, hstart, hresponse, hmem⟩ := hstarted
  refine ⟨q, h.startRequest.trans hq, hstart, h.responses _ hresponse, ?_⟩
  rcases h.sent with heq | ⟨message, -, heq⟩
  · exact heq ▸ hmem
  · exact heq ▸ List.mem_append_left _ hmem

theorem Keeps.ordered (h : s.Keeps s') (hordered : Ordered s.sent) : Ordered s'.sent := by
  rcases h.sent with heq | ⟨message, hmessage, heq⟩
  · exact heq ▸ hordered
  · exact heq ▸ hordered.append (by simp [hmessage])

theorem Keeps.settled (h : s.Keeps s') (hs : s.Settled) : s'.Settled where
  isPrefix := by
    rw [h.propagated, h.passed]
    exact hs.isPrefix
  deferred events hevents := h.passed.trans (hs.deferred events (h.deferred.symm.trans hevents))
  direct hnone := by
    obtain ⟨hstarted, heq⟩ := hs.direct (h.deferred.symm.trans hnone)
    refine ⟨h.started hstarted, fun hlost => ?_⟩
    rw [h.propagated, h.passed]
    exact heq (h.lost.symm.trans hlost)
  started hne := h.started (hs.started (h.propagated ▸ hne))

theorem Keeps.expects (h : s.Keeps s') (hexpects : s.Expects ops) : s'.Expects ops := by
  cases ops with
  | nil => exact h.settled hexpects
  | cons op rest =>
      cases op with
      | propagateDeferred =>
          exact ⟨h.settled hexpects.1, h.started hexpects.2.1, h.propagated.trans hexpects.2.2⟩
      | propagateNext i =>
          obtain ⟨hdeferred, hstarted, htake⟩ := hexpects
          refine ⟨?_, h.started hstarted, ?_⟩
          · rw [h.deferred, h.passed, hdeferred]
          · rw [h.propagated, h.passed, htake]
      | clearDeferred =>
          obtain ⟨hstarted, hall⟩ := hexpects
          exact ⟨h.started hstarted, h.propagated.trans (hall.trans h.passed.symm)⟩
      | defer e =>
          obtain ⟨events, hdeferred, hpassed, hprefix, hstarted⟩ := hexpects
          refine ⟨events, h.deferred.trans hdeferred, h.passed.trans hpassed, ?_, fun hne => ?_⟩
          · exact h.propagated ▸ hprefix
          · exact h.started (hstarted (h.propagated ▸ hne))
      | propagate e =>
          obtain ⟨hnone, hstarted, events, hpassed, hprefix, hall⟩ := hexpects
          refine ⟨h.deferred.trans hnone, h.started hstarted, events, h.passed.trans hpassed, ?_,
            fun hopen => ?_⟩
          · exact h.propagated ▸ hprefix
          · exact h.propagated.trans (hall (h.lost.symm.trans hopen))
      | _ => exact h.settled hexpects

/-- The holder of the lock goes on. -/
theorem Inv.goto (h : s.Inv) (hholder : s.holder = some ⟨role, ops, raised⟩) (s₁ : Relay)
    (rest : List Op) (hpending : s₁.pending = s.pending) (hordered : Ordered s₁.sent)
    (hcomponent : s.HasComponent → s₁.HasComponent)
    (hcomponent' : s₁.startRequest.isSome → s₁.HasComponent)
    (hstart : ∀ q, s₁.startRequest = some q → q.start = true)
    (hsame : role ≠ .ide → s₁.startRequest = s.startRequest) (hexpects : s₁.Expects rest)
    (htail : ∀ op ∈ rest.tail, op.transient = false) (hfits : s₁.Fits role rest)
    (raised' : Bool) : (s₁.goto role rest raised').Inv := by
  have hsingle := h.single _ hholder
  refine ⟨hordered, hcomponent', hstart, fun hnone => ?_, fun holder hheld => ?_,
    fun r ops' hr => ?_, fun r ops' hr => ?_, fun holder hheld => ?_⟩
  · simp [Relay.goto] at hnone
  · obtain rfl := Option.some.inj hheld
    exact ⟨hexpects.of_turn, htail⟩
  · exact h.waiting r ops' (hpending ▸ hr)
  · rcases hr with ⟨raised'', hr⟩ | hr
    · obtain ⟨rfl, rfl, -⟩ : role = r ∧ rest = ops' ∧ raised' = raised'' := by
        simpa [Relay.goto] using hr
      exact hfits
    · have hwaits : s.pending r = some ops' := hpending ▸ hr
      have hne : r ≠ role := by
        rintro rfl
        simp [hsingle] at hwaits
      have hold := h.fits r ops' (Or.inr hwaits)
      by_cases hide : r = .ide
      · subst hide
        exact hold.mono hcomponent fun hnone => (hsame hne.symm).trans hnone
      · simp only [Fits, if_neg hide] at hold ⊢
        exact hold
  · obtain rfl := Option.some.inj hheld
    exact (congrFun hpending _).trans hsingle

/-- The holder of the lock is not in the middle of something. -/
theorem Inv.settled (h : s.Inv) (hholder : s.holder = some ⟨role, op :: ops, raised⟩)
    (hop : op.transient = false) : s.Settled :=
  (h.held _ hholder).1.settled hop

/-- The holder of the lock goes on after something that matters to nobody else. -/
theorem Inv.proceed (h : s.Inv) (hholder : s.holder = some ⟨role, ops, raised⟩)
    (hsettled : s.Settled) (hkeeps : s.Keeps s₁) (hrest : ∀ op ∈ rest, op.transient = false)
    (hfits : s₁.Fits role rest) (raised' : Bool) : (s₁.goto role rest raised').Inv := by
  refine h.goto hholder s₁ rest hkeeps.pending (hkeeps.ordered h.ordered) hkeeps.component ?_ ?_
    (fun _ => hkeeps.startRequest) ((hkeeps.settled hsettled).expects hrest)
    (fun op hop => hrest op (List.mem_of_mem_tail hop)) hfits raised'
  · exact fun hsome => hkeeps.component (h.component (hkeeps.startRequest ▸ hsome))
  · exact fun q hq => h.start q (hkeeps.startRequest ▸ hq)

/-- The holder of the lock goes on with the rest of its operations. -/
theorem Inv.skip (h : s.Inv) (hholder : s.holder = some ⟨role, op :: ops, raised⟩)
    (hop : op.transient = false) (hkeeps : s.Keeps s₁) (hfits : s₁.Fits role ops) :
    (s₁.goto role ops raised).Inv :=
  h.proceed hholder (h.settled hholder hop) hkeeps (h.held _ hholder).2 hfits raised

/-- The holder of the lock goes on with some more operations before the rest of them. -/
theorem Inv.insert (h : s.Inv) (hholder : s.holder = some ⟨role, op :: ops, raised⟩)
    (hop : op.transient = false) (hkeeps : s.Keeps s₁) (added : List Op)
    (hadded : ∀ op ∈ added, op.transient = false ∧ ∀ request, op ≠ .setStartRequest request)
    (hsound : ∀ present free, Sound present free (op :: ops) → Sound present free (added ++ ops)) :
    (s₁.goto role (added ++ ops) raised).Inv := by
  have hrest := (h.held _ hholder).2
  have hfits : s.Fits role (added ++ ops) := by
    refine (h.fits role _ (Or.inl ⟨_, hholder⟩)).replace hsound fun request hmem => ?_
    rcases List.mem_append.mp hmem with hmem | hmem
    · exact absurd rfl ((hadded _ hmem).2 request)
    · exact List.mem_cons_of_mem _ hmem
  refine h.proceed hholder (h.settled hholder hop) hkeeps (fun op' hmem => ?_)
    (hfits.mono hkeeps.component fun hnone => hkeeps.startRequest.trans hnone) raised
  rcases List.mem_append.mp hmem with hmem | hmem
  · exact (hadded _ hmem).1
  · exact hrest _ hmem

/-- The holder of the lock goes on with the rest; what it has done says nothing about start
requests. -/
theorem Inv.next (h : s.Inv) (hholder : s.holder = some ⟨role, op :: ops, raised⟩)
    (hop : op.transient = false) (hkeeps : s.Keeps s₁)
    (hsound : ∀ present free, Sound present free (op :: ops) → Sound present free ops) :
    (s₁.goto role ops raised).Inv :=
  h.insert hholder hop hkeeps [] (by simp) hsound

/-- The holder of the lock raises. -/
theorem Inv.raise (h : s.Inv) (hholder : s.holder = some ⟨role, op :: ops, raised⟩)
    (hsettled : s.Settled) (hkeeps : s.Keeps s₁) : (s₁.raise role ops).Inv := by
  have hrest := (h.held _ hholder).2
  exact h.proceed hholder hsettled hkeeps (fun op hmem => hrest op (mem_of_mem_unwind hmem))
    (h.fits role _ (Or.inl ⟨_, hholder⟩)).unwind_tail true

/-- The holder of the lock goes on after something that may have raised. -/
theorem Inv.orRaise (h : s.Inv) (hholder : s.holder = some ⟨role, op :: ops, raised⟩)
    (hop : op.transient = false) {result : Option Relay}
    (hkeeps : ∀ s₁, result = some s₁ → s.Keeps s₁)
    (hsound : ∀ present free, Sound present free (op :: ops) → Sound present free ops) :
    (s.orRaise role ops ops raised result).Inv := by
  cases result with
  | none => exact h.raise hholder (h.settled hholder hop) (Keeps.refl s)
  | some s₁ => exact h.next hholder hop (hkeeps s₁ rfl) hsound

/-! ### What the operations leave alone -/

theorem keeps_write (hmessage : message.event? = none) : s.Keeps (s.write message) :=
  ⟨rfl, rfl, rfl, rfl, rfl, id, fun _ => id, Or.inr ⟨message, hmessage, rfl⟩⟩

theorem keeps_tryWrite (hmessage : message.event? = none) : s.Keeps (s.tryWrite message) := by
  rw [tryWrite]
  split_ifs
  · exact Keeps.refl s
  · exact keeps_write hmessage

theorem keeps_writeEvent (hmessage : message.event? = none)
    (h : s.writeEvent message = some s₁) : s.Keeps s₁ := by
  rw [writeEvent] at h
  split_ifs at h
  obtain rfl := Option.some.inj h
  exact keeps_write hmessage

/-- A request that has been responded to is not responded to again. -/
theorem respond_cases (h : s.respond request success = some s₁) :
    s.responses request.id = none ∧ s.lost = false ∧
      s₁ = { s with responses := Function.update s.responses request.id (some success) }.write
        (.response request success) := by
  rw [respond] at h
  split_ifs at h with hguard
  rw [not_or, Option.not_isSome_iff_eq_none, Bool.not_eq_true] at hguard
  exact ⟨hguard.1, hguard.2, (Option.some.inj h).symm⟩

theorem keeps_respond (h : s.respond request success = some s₁) : s.Keeps s₁ := by
  obtain ⟨hnone, -, rfl⟩ := respond_cases h
  refine ⟨rfl, rfl, rfl, rfl, rfl, id, fun i hi => ?_, Or.inr ⟨_, rfl, rfl⟩⟩
  have hne : i ≠ request.id := by
    rintro rfl
    simp [hnone] at hi
  simpa [write, hne] using hi

/-- An error that was responded with is raised. -/
theorem refuse_eq (s : Relay) (role : Role) (ops : List Op) :
    ∃ s₁, s.Keeps s₁ ∧ s.refuse role ops = s₁.raise role ops := by
  unfold refuse
  split
  · next request body _ =>
    cases hrespond : s.respond request false with
    | none => exact ⟨s, Keeps.refl s, rfl⟩
    | some s₁ => exact ⟨s₁, keeps_respond hrespond, rfl⟩
  · exact ⟨s, Keeps.refl s, rfl⟩

theorem keeps_setDisconnected (role : Role) : s.Keeps (s.setDisconnected role) := by
  cases role with
  | ide => exact Keeps.refl s
  | launcher =>
      exact ⟨rfl, rfl, rfl, rfl, rfl, fun _ => Or.inl rfl, fun _ => id, Or.inl rfl⟩
  | server => exact ⟨rfl, rfl, rfl, rfl, rfl, fun _ => Or.inr rfl, fun _ => id, Or.inl rfl⟩

/-- There is a launcher now. -/
theorem keeps_launcher (connected : Bool) : s.Keeps { s with launcher := some connected } :=
  ⟨rfl, rfl, rfl, rfl, rfl, fun _ => Or.inl rfl, fun _ => id, Or.inl rfl⟩

/-- There is a server now. -/
theorem keeps_server (connected : Bool) : s.Keeps { s with server := some connected } :=
  ⟨rfl, rfl, rfl, rfl, rfl, fun _ => Or.inr rfl, fun _ => id, Or.inl rfl⟩

theorem keeps_hasStarted (b : Bool) : s.Keeps { s with hasStarted := b } :=
  ⟨rfl, rfl, rfl, rfl, rfl, id, fun _ => id, Or.inl rfl⟩

theorem keeps_isFinalizing (b : Bool) : s.Keeps { s with isFinalizing := b } :=
  ⟨rfl, rfl, rfl, rfl, rfl, id, fun _ => id, Or.inl rfl⟩

theorem keeps_closed (closed : Role → Bool) : s.Keeps { s with closed := closed } :=
  ⟨rfl, rfl, rfl, rfl, rfl, id, fun _ => id, Or.inl rfl⟩

/-! ### One operation -/

/-- The handler returns, or its exception leaves it. -/
theorem finish_inv (h : s.Inv) (hholder : s.holder = some ⟨role, [], raised⟩) :
    (s.finish role raised).Inv := by
  have hsettled : s.Settled := (h.held _ hholder).1
  have hwaiting : ∀ r ops, s.pending r = some ops → s.Fits r ops := fun r ops hr =>
    h.fits r ops (Or.inr hr)
  rw [finish]
  split_ifs
  all_goals
    refine ⟨h.ordered, h.component, h.start, fun _ => ?_, fun _ hheld => ?_, h.waiting,
      fun r ops hr => ?_, fun _ hheld => ?_⟩
    · exact ⟨hsettled.isPrefix, hsettled.deferred, hsettled.direct, hsettled.started⟩
    · simp at hheld
    · exact hwaiting r ops (hr.resolve_left (by simp))
    · simp at hheld

/-! ### The operations on deferred events -/

/-- Something is written, whatever it is. -/
theorem started_write (h : s.Started) : (s.write message).Started := by
  obtain ⟨q, hq, hstart, hresponse, hmem⟩ := h
  exact ⟨q, hq, hstart, hresponse, List.mem_append_left _ hmem⟩

theorem propagated_write : (s.write (.propagated e)).propagated = s.propagated ++ [e] := by
  simp [propagated, write, Sent.event?]

/-- **An event is propagated only after the response.** -/
theorem ordered_write (h : Ordered s.sent) (hstarted : s.Started) :
    Ordered (s.write (.propagated e)).sent := by
  obtain ⟨q, -, hstart, -, hmem⟩ := hstarted
  exact h.append fun _ => ⟨q, hstart, hmem⟩

/-- A start request that has not been responded to has not been started. -/
theorem not_started (hq : s.startRequest = some request) (hnone : s.responses request.id = none) :
    ¬ s.Started := by
  rintro ⟨q, hq', -, hresponse, -⟩
  obtain rfl : request = q := Option.some.inj (hq.symm.trans hq')
  simp [hnone] at hresponse

theorem respondToStart_inv (h : s.Inv)
    (hholder : s.holder = some ⟨role, .respondToStart :: rest, raised⟩) :
    (s.orRaise role rest (.propagateDeferred :: rest) raised
      (s.startRequest.bind fun request => s.respond request true)).Inv := by
  have hsettled := h.settled hholder rfl
  cases hresult : s.startRequest.bind fun request => s.respond request true with
  | none => exact h.raise hholder hsettled (Keeps.refl s)
  | some s₁ =>
      obtain ⟨q, hq, hrespond⟩ := Option.bind_eq_some_iff.mp hresult
      have hkeeps := keeps_respond hrespond
      obtain ⟨hnone, -, rfl⟩ := respond_cases hrespond
      -- nothing was propagated yet
      have hempty : s.propagated = [] := by
        by_contra hne
        exact not_started hq hnone (hsettled.started hne)
      refine h.goto hholder _ (.propagateDeferred :: rest) hkeeps.pending
        (hkeeps.ordered h.ordered) id h.component h.start (fun _ => rfl)
        ⟨hkeeps.settled hsettled, ⟨q, hq, h.start q hq, ?_, ?_⟩, hkeeps.propagated.trans hempty⟩
        (h.held _ hholder).2 ?_ raised
      · simp [write]
      · simp [write]
      · exact (h.fits role _ (Or.inl ⟨_, hholder⟩)).replace (fun _ _ => id) (by simp)

theorem propagateDeferred_inv (h : s.Inv)
    (hholder : s.holder = some ⟨role, .propagateDeferred :: rest, raised⟩)
    (hexec : s.exec role raised branch (.propagateDeferred :: rest) = some s') : s'.Inv := by
  obtain ⟨hsettled, hstarted, hempty⟩ := (h.held _ hholder).1
  simp only [exec] at hexec
  split at hexec
  · next events hdeferred =>
    obtain rfl := Option.some.inj hexec
    have hpassed := hsettled.deferred events hdeferred
    refine h.goto hholder s (.propagateNext 0 :: rest) rfl h.ordered id h.component h.start
      (fun _ => rfl) ⟨hpassed ▸ hdeferred, hstarted, by simpa using hempty⟩
      (h.held _ hholder).2 ?_ raised
    exact (h.fits role _ (Or.inl ⟨_, hholder⟩)).replace (fun _ _ => id) (by simp)
  · obtain rfl := Option.some.inj hexec
    exact h.raise hholder hsettled (Keeps.refl s)

theorem propagateNext_inv (h : s.Inv) {i : ℕ}
    (hholder : s.holder = some ⟨role, .propagateNext i :: rest, raised⟩)
    (hexec : s.exec role raised branch (.propagateNext i :: rest) = some s') : s'.Inv := by
  obtain ⟨hdeferred, hstarted, htake⟩ := (h.held _ hholder).1
  have hfits := h.fits role _ (Or.inl ⟨_, hholder⟩)
  simp only [exec, hdeferred, Option.getD_some] at hexec
  split at hexec
  · next e he =>
    obtain rfl := Option.some.inj hexec
    rw [writeEvent]
    split_ifs with hlost
    · refine h.raise hholder ⟨htake ▸ List.take_prefix i _, fun events hevents => ?_,
        fun hnone => ?_, fun _ => hstarted⟩ (Keeps.refl s)
      · exact Option.some.inj (hdeferred.symm.trans hevents)
      · simp [hdeferred] at hnone
    · refine h.goto hholder (s.write (.propagated e)) (.propagateNext (i + 1) :: rest) rfl
        (ordered_write h.ordered hstarted) id h.component h.start (fun _ => rfl)
        ⟨hdeferred, started_write hstarted, ?_⟩ (h.held _ hholder).2
        (hfits.replace (fun _ _ => id) (by simp)) raised
      rw [propagated_write, htake]
      obtain ⟨hlt, rfl⟩ := List.getElem?_eq_some_iff.mp he
      exact (List.take_succ_eq_append_getElem hlt).symm
  · next hnone =>
    obtain rfl := Option.some.inj hexec
    have hall : s.passed.take i = s.passed :=
      List.take_of_length_le (List.getElem?_eq_none_iff.mp hnone)
    exact h.goto hholder s (.clearDeferred :: rest) rfl h.ordered id h.component h.start
      (fun _ => rfl) ⟨hstarted, htake.trans hall⟩ (h.held _ hholder).2
      (hfits.replace (fun _ _ => id) (by simp)) raised

/-- **All deferred events have been propagated** when the list is given up. -/
theorem clearDeferred_inv (h : s.Inv)
    (hholder : s.holder = some ⟨role, .clearDeferred :: rest, raised⟩) :
    ({ s with deferred := none }.goto role rest raised).Inv := by
  obtain ⟨hstarted, hall⟩ := (h.held _ hholder).1
  have hsettled : ({ s with deferred := none } : Relay).Settled :=
    ⟨hall ▸ List.prefix_refl _, fun _ hnone => by simp at hnone, fun _ => ⟨hstarted, fun _ => hall⟩,
      fun _ => hstarted⟩
  have hrest := (h.held _ hholder).2
  exact h.goto hholder { s with deferred := none } rest rfl h.ordered id h.component h.start
    (fun _ => rfl) (hsettled.expects hrest) (fun op hop => hrest op (List.mem_of_mem_tail hop))
    ((h.fits role _ (Or.inl ⟨_, hholder⟩)).replace (fun _ _ => id) (by simp)) raised

theorem propagateAfterStart_inv (h : s.Inv)
    (hholder : s.holder = some ⟨role, .propagateAfterStart e :: rest, raised⟩)
    (hexec : s.exec role raised branch (.propagateAfterStart e :: rest) = some s') : s'.Inv := by
  have hsettled := h.settled hholder rfl
  have hfits := h.fits role _ (Or.inl ⟨_, hholder⟩)
  simp only [exec] at hexec
  split at hexec
  · next events hdeferred =>
    obtain rfl := Option.some.inj hexec
    have hpassed := hsettled.deferred events hdeferred
    exact h.goto hholder { s with passed := s.passed ++ [e] } (.defer e :: rest) rfl h.ordered id
      h.component h.start (fun _ => rfl)
      ⟨events, hdeferred, by rw [hpassed], hpassed ▸ hsettled.isPrefix, hsettled.started⟩
      (h.held _ hholder).2 (hfits.replace (fun _ _ => id) (by simp)) raised
  · next hnone =>
    obtain rfl := Option.some.inj hexec
    obtain ⟨hstarted, hall⟩ := hsettled.direct hnone
    exact h.goto hholder { s with passed := s.passed ++ [e] } (.propagate e :: rest) rfl h.ordered
      id h.component h.start (fun _ => rfl)
      ⟨hnone, hstarted, s.passed, rfl, hsettled.isPrefix, hall⟩ (h.held _ hholder).2
      (hfits.replace (fun _ _ => id) (by simp)) raised

theorem defer_inv (h : s.Inv) (hholder : s.holder = some ⟨role, .defer e :: rest, raised⟩)
    (hexec : s.exec role raised branch (.defer e :: rest) = some s') : s'.Inv := by
  obtain ⟨events, hdeferred, hpassed, hprefix, hstarted⟩ := (h.held _ hholder).1
  simp only [exec, hdeferred] at hexec
  obtain rfl := Option.some.inj hexec
  have hle : s.propagated <+: s.passed := hprefix.trans (hpassed ▸ List.prefix_append _ _)
  have hsettled : ({ s with deferred := some (events ++ [e]) } : Relay).Settled := by
    refine ⟨hle, fun events' hevents => ?_, fun hnone => by simp at hnone, hstarted⟩
    exact hpassed.trans (Option.some.inj hevents)
  have hrest := (h.held _ hholder).2
  exact h.goto hholder { s with deferred := some (events ++ [e]) } rest rfl h.ordered id
    h.component h.start (fun _ => rfl) (hsettled.expects hrest)
    (fun op hop => hrest op (List.mem_of_mem_tail hop))
    ((h.fits role _ (Or.inl ⟨_, hholder⟩)).replace (fun _ _ => id) (by simp)) raised

theorem propagate_inv (h : s.Inv) (hholder : s.holder = some ⟨role, .propagate e :: rest, raised⟩)
    (hexec : s.exec role raised branch (.propagate e :: rest) = some s') : s'.Inv := by
  obtain ⟨hnone, hstarted, events, hpassed, hprefix, hall⟩ := (h.held _ hholder).1
  have hrest := (h.held _ hholder).2
  obtain rfl := Option.some.inj hexec
  rw [writeEvent]
  split_ifs with hlost
  · refine h.raise hholder ⟨?_, fun _ hsome => ?_, fun _ => ⟨hstarted, fun hopen => ?_⟩,
      fun _ => hstarted⟩ (Keeps.refl s)
    · exact hprefix.trans (hpassed ▸ List.prefix_append _ _)
    · simp [hnone] at hsome
    · simp [hlost] at hopen
  · have heq : (s.write (.propagated e)).propagated = s.passed := by
      rw [propagated_write, hall (by simpa using hlost), hpassed]
    have hsettled : (s.write (.propagated e)).Settled :=
      ⟨heq ▸ List.prefix_refl _, fun _ hsome => by simp [write, hnone] at hsome,
        fun _ => ⟨started_write hstarted, fun _ => heq⟩, fun _ => started_write hstarted⟩
    exact h.goto hholder (s.write (.propagated e)) rest rfl (ordered_write h.ordered hstarted) id
      h.component h.start (fun _ => rfl) (hsettled.expects hrest)
      (fun op hop => hrest op (List.mem_of_mem_tail hop))
      ((h.fits role _ (Or.inl ⟨_, hholder⟩)).replace (fun _ _ => id) (by simp)) raised

/-- **A start request is recorded once.** -/
theorem setStartRequest_inv (h : s.Inv)
    (hholder : s.holder = some ⟨role, .setStartRequest request :: rest, raised⟩) :
    ({ s with startRequest := some request }.goto role rest raised).Inv := by
  have hsettled := h.settled hholder rfl
  have hrest := (h.held _ hholder).2
  have hfits := h.fits role _ (Or.inl ⟨_, hholder⟩)
  rw [Fits] at hfits
  split_ifs at hfits with hide
  · obtain ⟨hcomponent, hnone, hstart, hsound⟩ := hfits
    have hnot : ¬ s.Started := by
      rintro ⟨q, hq, -⟩
      simp [hnone] at hq
    have hsettled' : ({ s with startRequest := some request } : Relay).Settled :=
      ⟨hsettled.isPrefix, hsettled.deferred, fun hdirect => absurd (hsettled.direct hdirect).1 hnot,
        fun hne => absurd (hsettled.started hne) hnot⟩
    refine h.goto hholder { s with startRequest := some request } rest rfl h.ordered id
      (fun _ => hcomponent) (fun q hq => ?_)
      (fun hne => absurd hide hne) (hsettled'.expects hrest)
      (fun op hop => hrest op (List.mem_of_mem_tail hop)) ?_ raised
    · exact Option.some.inj hq ▸ hstart
    · rw [Fits, if_pos hide]
      exact hsound.mono id False.elim
  · exact absurd List.mem_cons_self (hfits request)

/-- An error that was responded with leaves the handler. -/
theorem refuse_inv (h : s.Inv) (hholder : s.holder = some ⟨role, op :: ops, raised⟩)
    (hop : op.transient = false) : (s.refuse role ops).Inv := by
  obtain ⟨s₁, hkeeps, heq⟩ := refuse_eq s role ops
  rw [heq]
  exact h.raise hholder (h.settled hholder hop) hkeeps

/-- There is no launcher and no server, hence no start request. -/
theorem checkStarted_inv (h : s.Inv)
    (hholder : s.holder = some ⟨role, .checkStarted :: rest, raised⟩)
    (hexec : s.exec role raised branch (.checkStarted :: rest) = some s') : s'.Inv := by
  simp only [exec] at hexec
  split at hexec
  · obtain rfl := Option.some.inj hexec
    exact refuse_inv h hholder rfl
  · next hnobody =>
    obtain rfl := Option.some.inj hexec
    have hnone : s.startRequest = none := by
      by_contra hne
      have := h.component (Option.isSome_iff_ne_none.mpr hne)
      simp_all [HasComponent]
    refine h.skip hholder rfl (Keeps.refl s) ?_
    have hfits := h.fits role _ (Or.inl ⟨_, hholder⟩)
    rw [Fits] at hfits ⊢
    split_ifs at hfits ⊢
    · have hsound : Sound s.HasComponent True rest := hfits
      exact hsound.mono id fun _ => hnone
    · exact fun request hmem => hfits request (List.mem_cons_of_mem _ hmem)

/-- A component is found, or attached. -/
theorem found_inv (h : s.Inv) (hholder : s.holder = some ⟨role, op :: rest, raised⟩)
    (hop : op.transient = false) (hkeeps : s.Keeps s₁) (hcomponent : s₁.HasComponent)
    (hsound : ∀ present free, Sound present free (op :: rest) → Sound True free rest) :
    (s₁.goto role rest raised).Inv :=
  h.skip hholder hop hkeeps (((h.fits role _ (Or.inl ⟨_, hholder⟩)).mono hkeeps.component
    fun hnone => hkeeps.startRequest.trans hnone).component hcomponent hsound)

/-- **One operation.** -/
theorem exec_inv (h : s.Inv) (hholder : s.holder = some ⟨role, ops, raised⟩)
    (hexec : s.exec role raised branch ops = some s') : s'.Inv := by
  cases ops with
  | nil =>
      obtain rfl := Option.some.inj hexec
      exact finish_inv h hholder
  | cons op rest =>
      cases op with
      | other =>
          obtain rfl := Option.some.inj hexec
          exact h.next hholder rfl (Keeps.refl s) fun _ _ => id
      | throw =>
          obtain rfl := Option.some.inj hexec
          exact refuse_inv h hholder rfl
      | checkStarted => exact checkStarted_inv h hholder hexec
      | attachLauncher =>
          simp only [exec] at hexec
          split at hexec <;> obtain rfl := Option.some.inj hexec
          · exact h.raise hholder (h.settled hholder rfl) (Keeps.refl s)
          · exact found_inv h hholder rfl (keeps_launcher true) (Or.inl rfl) fun _ _ => id
      | attachServer =>
          simp only [exec] at hexec
          split at hexec <;> obtain rfl := Option.some.inj hexec
          · exact h.raise hholder (h.settled hholder rfl) (Keeps.refl s)
          · exact found_inv h hholder rfl (keeps_server true) (Or.inr rfl) fun _ _ => id
      | tryAttachServer request =>
          simp only [exec] at hexec
          split_ifs at hexec <;> obtain rfl := Option.some.inj hexec
          · exact h.orRaise hholder rfl (fun _ => keeps_respond) fun _ _ => id
          · exact h.raise hholder (h.settled hholder rfl) (Keeps.refl s)
          · exact h.next hholder rfl (keeps_server true) fun _ _ => id
      | requireServer =>
          simp only [exec] at hexec
          split at hexec <;> obtain rfl := Option.some.inj hexec
          · next hserver =>
            exact found_inv h hholder rfl (Keeps.refl s) (Or.inr hserver) fun _ _ => id
          · exact h.raise hholder (h.settled hholder rfl) (Keeps.refl s)
      | waitFor awaited =>
          simp only [exec] at hexec
          split_ifs at hexec
          obtain rfl := Option.some.inj hexec
          exact h.next hholder rfl (Keeps.refl s) fun _ _ => id
      | sendInitialized =>
          obtain rfl := Option.some.inj hexec
          exact h.orRaise hholder rfl (fun _ => keeps_writeEvent rfl) fun _ _ => id
      | setStartRequest request =>
          obtain rfl := Option.some.inj hexec
          exact setStartRequest_inv h hholder
      | setHasStarted =>
          obtain rfl := Option.some.inj hexec
          exact h.next hholder rfl (keeps_hasStarted true) fun _ _ => id
      | respondToStart =>
          obtain rfl := Option.some.inj hexec
          exact respondToStart_inv h hholder
      | checkConfigurationDone request =>
          simp only [exec] at hexec
          split at hexec <;> obtain rfl := Option.some.inj hexec
          · exact h.orRaise hholder rfl (fun _ => keeps_respond) fun _ _ => id
          · exact h.next hholder rfl (Keeps.refl s) fun _ _ => id
      | tryConfigurationDone request =>
          obtain rfl := Option.some.inj hexec
          exact h.insert hholder rfl (Keeps.refl s)
            [.setHasStarted, .delegate request, .beginFinally, .respondToStart, .endFinally]
            (by simp [Op.transient]) fun _ _ => id
      | delegate request =>
          simp only [exec] at hexec
          split at hexec <;> obtain rfl := Option.some.inj hexec
          · refine h.orRaise hholder rfl (fun s₁ hs₁ => ?_) fun _ _ => id
            obtain ⟨q, -, hrespond⟩ := Option.bind_eq_some_iff.mp hs₁
            exact keeps_respond hrespond
          · exact h.orRaise hholder rfl (fun _ => keeps_respond) fun _ _ => id
      | beginFinally =>
          obtain rfl := Option.some.inj hexec
          refine h.next hholder rfl (Keeps.refl s) fun _ _ hsound => ?_
          have hclause : Sound False False rest := hsound
          exact hclause.mono False.elim False.elim
      | endFinally =>
          obtain rfl := Option.some.inj hexec
          cases raised with
          | true =>
              exact h.proceed hholder (h.settled hholder rfl) (Keeps.refl s) (by simp)
                (fits_nil s role) true
          | false => exact h.next hholder rfl (Keeps.refl s) fun _ _ => id
      | propagateDeferred => exact propagateDeferred_inv h hholder hexec
      | propagateNext i => exact propagateNext_inv h hholder hexec
      | clearDeferred =>
          obtain rfl := Option.some.inj hexec
          exact clearDeferred_inv h hholder
      | propagateAfterStart e => exact propagateAfterStart_inv h hholder hexec
      | defer e => exact defer_inv h hholder hexec
      | propagate e => exact propagate_inv h hholder hexec
      | unlessLauncher e =>
          simp only [exec] at hexec
          split at hexec <;> obtain rfl := Option.some.inj hexec
          · exact h.next hholder rfl (Keeps.refl s) fun _ _ => id
          · exact h.insert hholder rfl (Keeps.refl s) [.propagateAfterStart e]
              (by simp [Op.transient]) fun _ _ => id
      | unlessVisualStudio e =>
          simp only [exec] at hexec
          split at hexec <;> obtain rfl := Option.some.inj hexec
          · exact h.next hholder rfl (Keeps.refl s) fun _ _ => id
          · exact h.insert hholder rfl (Keeps.refl s) [.propagateAfterStart e]
              (by simp [Op.transient]) fun _ _ => id
      | sendExited =>
          obtain rfl := Option.some.inj hexec
          exact h.next hholder rfl (keeps_tryWrite rfl) fun _ _ => id
      | close =>
          obtain rfl := Option.some.inj hexec
          exact h.next hholder rfl (keeps_closed _) fun _ _ => id
      | disconnect =>
          obtain rfl := Option.some.inj hexec
          exact h.insert hholder rfl (keeps_setDisconnected role) [.finalize]
            (by simp [Op.transient]) fun _ _ => id
      | finalize =>
          simp only [exec] at hexec
          split at hexec <;> obtain rfl := Option.some.inj hexec
          · exact h.next hholder rfl (Keeps.refl s) fun _ _ => id
          · exact h.insert hholder rfl (keeps_isFinalizing true)
              [.finalizeServer, .finalizeLauncher, .sendTerminated] (by simp [Op.transient])
              fun _ _ => id
      | finalizeServer =>
          simp only [exec] at hexec
          split at hexec <;> obtain rfl := Option.some.inj hexec
          · exact h.next hholder rfl (keeps_server false) fun _ _ => id
          · exact h.next hholder rfl (Keeps.refl s) fun _ _ => id
      | finalizeLauncher =>
          simp only [exec] at hexec
          split_ifs at hexec <;> obtain rfl := Option.some.inj hexec
          · exact h.insert hholder rfl (Keeps.refl s)
              [.waitFor .other, .waitFor .launcherDisconnected] (by simp [Op.transient])
              fun _ _ => id
          · exact h.insert hholder rfl (Keeps.refl s) [.waitFor .launcherDisconnected]
              (by simp [Op.transient]) fun _ _ => id
          · exact h.next hholder rfl (Keeps.refl s) fun _ _ => id
      | sendTerminated =>
          obtain rfl := Option.some.inj hexec
          exact h.next hholder rfl (keeps_tryWrite rfl) fun _ _ => id

/-! ### The other steps -/

/-- A handler begins with nothing halfway. -/
theorem ops_transient (request : IdeRequest) (task : Task) (hop : op ∈ task.ops request) :
    op.transient = false := by
  revert hop op
  rcases task with (_ | _) | (_ | _) | _ | _ | _ | (_ | _ | _ | _) | (_ | _ | _ | _ | _ | _) | _ <;>
    simp [Task.ops, spawnOps, startOps, Op.transient]

/-- "launch" and "attach" record the request where they have found a component. -/
theorem ops_sound (request : IdeRequest) (task : Task) (present free : Prop)
    (hstart : task.isStart → request.start = true) : Sound present free (task.ops request) := by
  rcases task with (_ | _) | (_ | _) | _ | _ | _ | (_ | _ | _ | _) | (_ | _ | _ | _ | _ | _) | _ <;>
    simp_all [Task.ops, Task.isStart, spawnOps, startOps, Sound]

/-- No other handler does. -/
theorem setStartRequest_not_mem (request q : IdeRequest) (task : Task)
    (hrole : task.role? ≠ some .ide) : .setStartRequest q ∉ task.ops request := by
  rcases task with (_ | _) | (_ | _) | _ | _ | _ | (_ | _ | _ | _) | (_ | _ | _ | _ | _ | _) | _ <;>
    simp_all [Task.ops, Task.role?]

theorem init_inv : Relay.init.Inv where
  ordered := ordered_nil
  component hsome := by simp [init] at hsome
  start q hq := by simp [init] at hq
  free _ :=
    ⟨List.nil_prefix, fun _ hevents => Option.some.inj hevents,
      fun hnone => by simp [init] at hnone, fun hne => absurd rfl hne⟩
  held _ hheld := by simp [init] at hheld
  waiting _ _ hwaits := by simp [init] at hwaits
  fits _ _ hruns := by simp [init, Runs] at hruns
  single _ hheld := by simp [init] at hheld

/-- A handler thread begins with a handler. -/
theorem begin_inv (h : s.Inv) {task : Task} (hready : s.Ready role task) :
    (s.begin role task).Inv := by
  obtain ⟨⟨hnone, hholds, -⟩, -, -, htask⟩ := hready
  set ops := task.ops (s.nextRequest task) with hops
  have hfits : s.Fits role ops := by
    rw [Fits]
    split_ifs with hide
    · exact ops_sound _ _ _ _ fun hstart => hstart
    · refine fun q => setStartRequest_not_mem _ q task ?_
      split_ifs at htask with hdisconnect
      · simp [hdisconnect, Task.role?]
      · simpa [htask] using hide
  have hwaiting : ∀ r ops', Function.update s.pending role (some ops) r = some ops' →
      r = role ∧ ops = ops' ∨ s.pending r = some ops' := by
    intro r ops' hr
    by_cases heq : r = role
    · subst heq
      exact Or.inl ⟨rfl, by simpa using hr⟩
    · exact Or.inr (by simpa [heq] using hr)
  have hbegin : ∀ requests current, ({ s with
      pending := Function.update s.pending role (some ops)
      ended := Function.update s.ended role (task = .disconnect)
      requests := requests, current := current } : Relay).Inv := by
    intro requests current
    refine ⟨h.ordered, h.component, h.start, fun hfree => (h.free hfree).of_turn,
      fun holder hheld => ⟨(h.held holder hheld).1.of_turn, (h.held holder hheld).2⟩,
      fun r ops' hr => ?_, fun r ops' hr => ?_, fun holder hheld => ?_⟩
    · rcases hwaiting r ops' hr with ⟨-, rfl⟩ | hr
      · exact fun op hop => ops_transient _ task hop
      · exact h.waiting r ops' hr
    · rcases hr with hr | hr
      · exact h.fits r ops' (Or.inl hr)
      · rcases hwaiting r ops' hr with ⟨rfl, rfl⟩ | hr
        · exact hfits
        · exact h.fits r ops' (Or.inr hr)
    · have hne : holder.role ≠ role := hholds holder hheld
      simpa [hne] using h.single holder hheld
  rw [begin]
  split_ifs
  · exact hbegin _ _
  · exact hbegin s.requests s.current

/-- A handler thread gets the lock. -/
theorem acquire_inv (h : s.Inv) (hfree : s.holder = none) (hwaits : s.pending role = some ops) :
    ({ s with
      holder := some ⟨role, ops, false⟩
      pending := Function.update s.pending role none } : Relay).Inv := by
  have hops := h.waiting role ops hwaits
  have hother : ∀ r ops', Function.update s.pending role none r = some ops' →
      s.pending r = some ops' := by
    intro r ops' hr
    by_cases heq : r = role
    · simp [heq] at hr
    · simpa [heq] using hr
  refine ⟨h.ordered, h.component, h.start, fun hnone => by simp at hnone, fun holder hheld => ?_,
    fun r ops' hr => h.waiting r ops' (hother r ops' hr), fun r ops' hr => ?_,
    fun holder hheld => ?_⟩
  · obtain rfl := Option.some.inj hheld
    exact ⟨((h.free hfree).expects hops).of_turn, fun op hop => hops op (List.mem_of_mem_tail hop)⟩
  · rcases hr with ⟨raised', hr⟩ | hr
    · obtain ⟨rfl, rfl, -⟩ : role = r ∧ ops = ops' ∧ false = raised' := by simpa using hr
      exact h.fits role ops (Or.inr hwaits)
    · exact h.fits r ops' (Or.inr (hother r ops' hr))
  · obtain rfl := Option.some.inj hheld
    simp

/-- The holder of the lock waits. -/
theorem wait_inv (h : s.Inv) {awaited : Awaited}
    (hholder : s.holder = some ⟨role, .waitFor awaited :: rest, false⟩) :
    ({ s with
      holder := none
      pending := Function.update s.pending role (some (.waitFor awaited :: rest)) } :
        Relay).Inv := by
  have hops := (h.held _ hholder).2
  have hother : ∀ r ops', Function.update s.pending role (some (.waitFor awaited :: rest)) r =
      some ops' → s.Runs r ops' ∧ ∀ op ∈ ops', op.transient = false := by
    intro r ops' hr
    by_cases heq : r = role
    · subst heq
      obtain rfl : .waitFor awaited :: rest = ops' := by simpa using hr
      refine ⟨Or.inl ⟨_, hholder⟩, fun op hop => ?_⟩
      rcases List.mem_cons.mp hop with rfl | hop
      · rfl
      · exact hops op hop
    · have hwaits : s.pending r = some ops' := by simpa [heq] using hr
      exact ⟨Or.inr hwaits, h.waiting r ops' hwaits⟩
  refine ⟨h.ordered, h.component, h.start, fun _ => (h.settled hholder rfl).of_turn,
    fun holder hheld => by simp at hheld, fun r ops' hr => (hother r ops' hr).2,
    fun r ops' hr => ?_, fun holder hheld => by simp at hheld⟩
  rcases hr with ⟨raised', hr⟩ | hr
  · simp at hr
  · exact h.fits r ops' (hother r ops' hr).1

/-- What matters to nobody changes nothing. -/
theorem Inv.keep (h : s.Inv) (hkeeps : s.Keeps s₁) (hholder : s₁.holder = s.holder) : s₁.Inv where
  ordered := hkeeps.ordered h.ordered
  component hsome := hkeeps.component (h.component (hkeeps.startRequest ▸ hsome))
  start q hq := h.start q (hkeeps.startRequest ▸ hq)
  free hnone := hkeeps.settled (h.free (hholder ▸ hnone))
  held holder hheld := by
    obtain ⟨hexpects, htail⟩ := h.held holder (hholder ▸ hheld)
    exact ⟨hkeeps.expects hexpects, htail⟩
  waiting r ops hr := h.waiting r ops (hkeeps.pending ▸ hr)
  fits r ops hr := by
    have hruns : s.Runs r ops := by
      rw [Runs, hholder, hkeeps.pending] at hr
      exact hr
    exact (h.fits r ops hruns).mono hkeeps.component fun hnone => hkeeps.startRequest.trans hnone
  single holder hheld := (congrFun hkeeps.pending _).trans (h.single holder (hholder ▸ hheld))

/-- The connection to the IDE is lost. -/
theorem lose_inv (h : s.Inv) : ({ s with lost := true } : Relay).Inv :=
  ⟨h.ordered, h.component, h.start, fun hfree => (h.free hfree).lose,
    fun holder hheld => ⟨(h.held holder hheld).1.lose, (h.held holder hheld).2⟩, h.waiting, h.fits,
    h.single⟩

/-- A response is sent, or fails to be. -/
theorem answer_inv (h : s.Inv) :
    ({ (s.respond request success).getD s with answer := none } : Relay).Inv := by
  cases hrespond : s.respond request success with
  | none => exact h.keep ⟨rfl, rfl, rfl, rfl, rfl, id, fun _ => id, Or.inl rfl⟩ rfl
  | some s₁ =>
      have hkeeps := keeps_respond hrespond
      obtain ⟨-, -, rfl⟩ := respond_cases hrespond
      exact h.keep ⟨rfl, rfl, rfl, rfl, rfl, id, hkeeps.responses, hkeeps.sent⟩ rfl

/-- **The invariant is kept.** -/
theorem step_inv (h : s.Inv) (hstep : s.step a = some s') : s'.Inv := by
  cases a with
  | start role task =>
      simp only [step] at hstep
      split_ifs at hstep with hready
      obtain rfl := Option.some.inj hstep
      exact begin_inv h hready
  | acquire role =>
      simp only [step] at hstep
      split at hstep
      · next hfree hwaits =>
        obtain rfl := Option.some.inj hstep
        exact acquire_inv h hfree hwaits
      · simp at hstep
  | exec branch =>
      simp only [step] at hstep
      split at hstep
      · next role ops raised hholder => exact exec_inv h hholder hstep
      · simp at hstep
  | raise responds =>
      simp only [step] at hstep
      split at hstep
      · next role rest raised hholder =>
        obtain rfl := Option.some.inj hstep
        cases responds with
        | true => exact refuse_inv h hholder rfl
        | false => exact h.raise hholder (h.settled hholder rfl) (Keeps.refl s)
      · next role request rest raised hholder =>
        obtain rfl := Option.some.inj hstep
        exact h.raise hholder (h.settled hholder rfl) (Keeps.refl s)
      · simp at hstep
  | wait =>
      simp only [step] at hstep
      split at hstep
      · next role awaited rest hholder =>
        split_ifs at hstep
        obtain rfl := Option.some.inj hstep
        exact wait_inv h hholder
      · simp at hstep
  | answer =>
      simp only [step] at hstep
      split at hstep
      · obtain rfl := Option.some.inj hstep
        exact answer_inv h
      · simp at hstep
  | lose =>
      obtain rfl := Option.some.inj hstep
      exact lose_inv h

theorem inv_of_reachable (h : relay.Reachable s) : s.Inv := by
  have hinv : relay.Invariant Inv :=
    ⟨fun hs => hs ▸ init_inv, fun hs hstep => step_inv hs hstep⟩
  exact hinv.of_reachable h

/-- Halfway through a function, too, nothing is out of order. -/
theorem Expects.isPrefix (h : s.Expects ops) : s.propagated <+: s.passed := by
  cases ops with
  | nil => exact Settled.isPrefix h
  | cons op rest =>
      cases op with
      | propagateDeferred => exact h.1.isPrefix
      | propagateNext i => exact h.2.2 ▸ List.take_prefix i s.passed
      | clearDeferred => exact h.2 ▸ List.prefix_refl _
      | defer e =>
          obtain ⟨events, -, hpassed, hprefix, -⟩ := h
          exact hprefix.trans (hpassed ▸ List.prefix_append _ _)
      | propagate e =>
          obtain ⟨-, -, events, hpassed, hprefix, -⟩ := h
          exact hprefix.trans (hpassed ▸ List.prefix_append _ _)
      | _ => exact Settled.isPrefix h

theorem Inv.isPrefix (h : s.Inv) : s.propagated <+: s.passed := by
  cases hholder : s.holder with
  | none => exact (h.free hholder).isPrefix
  | some holder => exact (h.held holder hholder).1.isPrefix

/-! ### The order of the events -/

/-- **Events are relayed in order**: what was propagated is a prefix of what was passed to
`propagate_after_start`, and comes after the success response to a start request. -/
theorem propagated_in_order (h : relay.Reachable s) :
    s.propagated <+: s.passed ∧ Ordered s.sent := by
  have hinv := inv_of_reachable h
  exact ⟨hinv.isPrefix, hinv.ordered⟩

/-- The IDE attaches, the server sends an event, the IDE sends "configurationDone", and the
server sends another event. -/
def attachAndConfigure : List Action :=
  [.start .ide (.attach false), .acquire .ide] ++ List.replicate 10 (.exec false) ++
    [.start .server (.serverEvent (.other 0)), .acquire .server] ++
    List.replicate 3 (.exec false) ++
    [.start .ide .configurationDone, .acquire .ide] ++ List.replicate 13 (.exec false) ++
    [.start .server (.serverEvent (.other 1)), .acquire .server] ++
    List.replicate 3 (.exec false)

theorem propagated_in_order_configured :
    ∃ s, relay.run init attachAndConfigure = some s ∧
      s.propagated = [.server (.other 0), .server (.other 1)] ∧
      s.propagated <+: s.passed ∧ Ordered s.sent := by
  have hrun : ∃ s, relay.run init attachAndConfigure = some s ∧
      s.propagated = [.server (.other 0), .server (.other 1)] := ⟨_, rfl, rfl⟩
  obtain ⟨s, hs, hpropagated⟩ := hrun
  exact ⟨s, hs, hpropagated,
    propagated_in_order (Machine.reachable_iff_run.mpr ⟨_, _, rfl, hs⟩)⟩

end Relay

end Ptvsd
