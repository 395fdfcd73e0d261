import Ptvsd.Locks

/-!
# The Locks of the Adapter

The threads of the adapter as sequences of acquisitions and releases of two kinds of locks:
`servers._lock`, and the lock of each session. The functions below are those of the source,
reduced to what they do with these locks, in its order; every assignment to an attribute of a
session or of a component invokes `Session.notify_changed`, which takes the lock of the session.

What decides between different sequences is kept if the locks depend on it: the `server` of a
connection and of a session, the handlers of the channel of a connection, and whether a session
is being finalized. Everything else is left open, and a handler may raise anywhere.

## Main results

* `not_deadlocked`: no thread holds `servers._lock` and waits for the lock of a session, while
  another thread holds that, and waits for `servers._lock`; in all runs in which
  `Connection.disconnect` finds that the connection belongs to no session.
* `deadlocked`: otherwise there is a run that ends so.
-/

namespace Ptvsd

namespace LockUsage

/-- The locks; sessions are given by their numbers. -/
inductive Lock where
  /-- `servers._lock`. -/
  | servers
  /-- `Session.lock`. -/
  | session (k : ℕ)
  deriving DecidableEq

/-- The threads of the adapter. -/
inductive Thread where
  | main
  /-- Accepts connections from IDEs. -/
  | acceptIde
  /-- Accepts connections from debug servers. -/
  | acceptServer
  /-- Handles the messages from the IDE of a session. -/
  | ide (k : ℕ)
  /-- Handles the messages from the launcher of a session. -/
  | launcher (k : ℕ)
  /-- Handles the messages from a debug server. -/
  | connection (c : ℕ)
  /-- Some timeout thread. -/
  | timeout (i : ℕ)
  deriving DecidableEq

/-- What the threads share, as far as locks depend on it. -/
structure Shared where
  /-- The channels whose message loops have been started. -/
  started : Thread → Bool
  /-- The channels that have disconnected. -/
  ended : Thread → Bool
  /-- `_connections`. -/
  connections : List ℕ
  /-- `Connection.disconnected`. -/
  disconnected : ℕ → Bool
  /-- `Connection.server`: the session that the component belongs to. -/
  server : ℕ → Option ℕ
  /-- The handlers of the channel of a connection: those of a server of a session, or its own. -/
  handlers : ℕ → Option ℕ
  /-- `Session.server`: the connection of the component. -/
  sessionServer : ℕ → Option ℕ
  /-- Whether there is a `Session.launcher`. -/
  sessionLauncher : ℕ → Bool
  /-- `Session.is_finalizing`. -/
  isFinalizing : ℕ → Bool
  /-- The variable `conn` of the handler of a start request. -/
  conn : ℕ → Option ℕ

/-- The requests and events from an IDE. -/
inductive Request where
  | launch (noDebug : Bool)
  | attach (noDebug : Bool)
  | configurationDone
  /-- "terminate" or "disconnect". -/
  | terminate
  | other
  deriving DecidableEq

/-- What depends on the data, or changes it. -/
inductive Call where
  /-- `channel.start()`. -/
  | startChannel (t : Thread)
  /-- `_connections.append(self)`. -/
  | register (c : ℕ)
  /-- `Connection.disconnect`, under the lock. -/
  | disconnect (c : ℕ)
  /-- `_connections.remove(self.connection)`. -/
  | remove (c : ℕ)
  /-- The search of `wait_for_connection`. -/
  | look (k : ℕ) (c : ℕ)
  /-- What the handler of a start request does with `conn`. -/
  | useConn (k : ℕ)
  /-- `Connection.attach_to_session`, under the lock. -/
  | attach (k : ℕ) (c : ℕ)
  /-- `channel.handlers = self`. -/
  | setHandlers (k : ℕ) (c : ℕ)
  /-- `session.server = self`. -/
  | setSessionServer (k : ℕ) (c : ℕ)
  /-- `self.server = Server(session, self)`, once there is the component. -/
  | setServer (k : ℕ) (c : ℕ)
  /-- `session.launcher = self`. -/
  | setSessionLauncher (k : ℕ)
  /-- `self.channel.handlers = self.connection`, and `self.connection.server = None`. -/
  | detach (c : ℕ)
  /-- A start request, from where it is checked that there is no server yet. -/
  | startRequest (k : ℕ) (request : Request) (c : ℕ)
  /-- `Session.finalize`. -/
  | finalize (k : ℕ)
  /-- `if self.server`, in `_finalize`. -/
  | finalizeServer (k : ℕ)
  /-- `if self.launcher and self.launcher.is_connected`, in `_finalize`. -/
  | finalizeLauncher (k : ℕ)

/-- A program of a thread. -/
abbrev Program := Code Lock Call

/-! ### Sessions and components -/

/-- `Session.notify_changed`. -/
def notifyChanged (k : ℕ) : Program := .withLock (.session k) []

/-- `Session.wait_for`. -/
def waitFor (k : ℕ) : Program := .withLock (.session k) [.loop [.wait (.session k)]]

/-- `Component.__init__`: the assertion that the session is locked, and the assignment to
`observers`. -/
def componentInit (k : ℕ) (setUp : List Program) : List Program :=
  .withLock (.session k) [] :: setUp ++ [notifyChanged k]

/-- `Component.message_handler`. -/
def messageHandler (k : ℕ) (f : List Program) : Program := .withLock (.session k) f

/-- A handler that assigns to attributes. -/
def otherHandler (k : ℕ) : Program := messageHandler k [.loop [notifyChanged k]]

/-- `Component.disconnect`. -/
def componentDisconnect (k : ℕ) : Program :=
  .withLock (.session k) [notifyChanged k, .call (.finalize k)]

/-- `Launcher.terminate_debuggee`. -/
def terminateDebuggee (k : ℕ) : Program := .withLock (.session k) []

/-- `Launcher.__init__`. -/
def launcherInit (k : ℕ) : Program :=
  .withLock (.session k)
    (componentInit k [.call (.startChannel (.launcher k))] ++
      [notifyChanged k, notifyChanged k, .call (.setSessionLauncher k), notifyChanged k])

/-- `IDE.__init__`: six attributes of its own, and `session.ide`. -/
def ideInit (k : ℕ) : Program :=
  .withLock (.session k)
    (componentInit k [.call (.startChannel (.ide k))] ++ List.replicate 7 (notifyChanged k))

/-! ### Servers -/

/-- `dont_wait_for_first_connection`. -/
def dontWaitForFirstConnection : Program := .withLock .servers []

/-- `connections()`. -/
def connections : Program := .withLock .servers []

/-- `wait_for_connection`, which may look several times. -/
def waitForConnection (k c : ℕ) : List Program :=
  [.loop [.withLock .servers []], .withLock .servers [.call (.look k c)]]

/-- `wait_until_disconnected`. -/
def waitUntilDisconnected : Program := .loop [.withLock .servers []]

/-- `Server.__init__`. -/
def serverInit (k c : ℕ) : Program :=
  .withLock (.session k)
    (componentInit k [.call (.setHandlers k c)] ++
      [notifyChanged k, notifyChanged k, .call (.setSessionServer k c), notifyChanged k])

/-- `Connection.attach_to_session`. -/
def attachToSession (k c : ℕ) : Program := .withLock .servers [.call (.attach k c)]

/-- `Server.detach_from_session`. -/
def detachFromSession (k c : ℕ) : Program :=
  .withLock .servers [notifyChanged k, .call (.detach c)]

/-- `Server.disconnect`. -/
def serverDisconnect (k c : ℕ) : List Program :=
  [.withLock .servers [.call (.remove c)], componentDisconnect k]

/-- `Connection.disconnect`. -/
def connectionDisconnect (c : ℕ) : Program := .withLock .servers [.call (.disconnect c)]

/-- `IDE.notify_of_subprocess`. -/
def notifyOfSubprocess (k : ℕ) : Program := .withLock (.session k) []

/-- `Connection.__init__`: the connection gets registered, and its parent session is notified,
if there is one; or an exception is raised, maybe in the block under the lock. -/
def connectionInit (c parent : ℕ) : List Program :=
  [.call (.startChannel (.connection c)),
    .choose
      [.withLock .servers [.call (.register c)], .choose [notifyOfSubprocess parent] []]
      [.choose [.withLock .servers []] [], dontWaitForFirstConnection]]

/-! ### Handlers of the IDE -/

/-- `spawn_debuggee`. -/
def spawnDebuggee (k c : ℕ) (noDebug : Bool) : List Program :=
  launcherInit k ::
    if noDebug then [] else waitFor k :: waitForConnection k c ++ [.call (.useConn k)]

/-- What `_start_message_handler` is applied to; only the first session can be launched. -/
def startHandler (k c : ℕ) : Request → List Program
  | .launch noDebug => if k = 1 then connections :: spawnDebuggee k c noDebug else []
  | .attach _ => waitForConnection k c ++ [.call (.useConn k)]
  | _ => []

/-- The request says "noDebug". -/
def Request.noDebug : Request → Bool
  | .launch noDebug => noDebug
  | .attach noDebug => noDebug
  | _ => false

/-- `_start_message_handler`, where there is no launcher and no server: `no_debug`,
`debug_options`, and what is assigned once the start request has been handled. -/
def startMessageHandler (k c : ℕ) (request : Request) : List Program :=
  notifyChanged k :: (if request.noDebug then [dontWaitForFirstConnection] else []) ++
    notifyChanged k :: startHandler k c request ++ [.loop [notifyChanged k]]

/-- `configurationDone_request`. -/
def configurationDone (k : ℕ) : List Program :=
  [notifyChanged k, notifyChanged k, connections, .loop [notifyOfSubprocess k]]

/-- The handlers of the IDE; `c` is the connection that a start request finds. -/
def ideHandler (k c : ℕ) : Request → Program
  | .configurationDone => messageHandler k (configurationDone k)
  | .terminate => messageHandler k [.call (.finalize k)]
  | .other => otherHandler k
  | request => messageHandler k [.call (.startRequest k request c)]

/-! ### What depends on data -/

/-- The first part of `_finalize`, and what follows it. -/
def finalizeBody (k : ℕ) : List Program :=
  [dontWaitForFirstConnection, .call (.finalizeServer k), .call (.finalizeLauncher k)]

/-- The effect of a call, and what is done next. -/
def call (s : Shared) : Call → Shared × List Program
  | .startChannel t => ({ s with started := Function.update s.started t true }, [])
  | .register c =>
      if s.disconnected c then (s, []) else ({ s with connections := s.connections ++ [c] }, [])
  | .disconnect c =>
      let s' := { s with disconnected := Function.update s.disconnected c true }
      match s.server c with
      | some k => (s', serverDisconnect k c)
      | none => ({ s' with connections := s.connections.erase c }, [])
  | .remove c => ({ s with connections := s.connections.erase c }, [])
  | .look k c =>
      ({ s with conn := Function.update s.conn k (if c ∈ s.connections then some c else none) },
        [])
  | .useConn k =>
      match s.conn k with
      | some c => (s, [attachToSession k c])
      | none => (s, [])
  | .attach k c =>
      match s.server c with
      | some _ => (s, [])
      | none => (s, [serverInit k c, .call (.setServer k c)])
  | .setHandlers k c => ({ s with handlers := Function.update s.handlers c (some k) }, [])
  | .setSessionServer k c =>
      ({ s with sessionServer := Function.update s.sessionServer k (some c) }, [])
  | .setServer k c => ({ s with server := Function.update s.server c (some k) }, [])
  | .setSessionLauncher k =>
      ({ s with sessionLauncher := Function.update s.sessionLauncher k true }, [])
  | .detach c =>
      ({ s with
          handlers := Function.update s.handlers c none
          server := Function.update s.server c none }, [])
  | .startRequest k request c =>
      if s.sessionLauncher k || (s.sessionServer k).isSome then (s, [])
      else (s, startMessageHandler k c request)
  | .finalize k =>
      if s.isFinalizing k then (s, [])
      else
        ({ s with isFinalizing := Function.update s.isFinalizing k true },
          notifyChanged k :: finalizeBody k)
  | .finalizeServer k =>
      match s.sessionServer k with
      | some c => (s, [.choose [terminateDebuggee k] [], detachFromSession k c])
      | none => (s, [])
  | .finalizeLauncher k =>
      if s.sessionLauncher k then
        (s, [.choose
          ((if (s.sessionServer k).isSome then [waitFor k] else []) ++
            [terminateDebuggee k, waitFor k]) []])
      else (s, [])

/-- What the threads begin with. -/
inductive Task where
  /-- The main thread waits for the debug servers to disconnect. -/
  | main
  /-- A connection is accepted: a new session, or a new connection from a debug server whose
  parent process may belong to a session. -/
  | accept (id parent : ℕ)
  /-- A message arrives; a start request finds the connection `c`, if it does not fail. -/
  | message (request : Request) (c : ℕ)
  /-- The channel has disconnected. -/
  | disconnect
  /-- `Session.wait_for` times out, or else `wait_for_connection`. -/
  | timeout (session : Option ℕ)

/-- The channel of a handler thread has been started, and has not disconnected. -/
def Shared.Open (s : Shared) (t : Thread) : Prop := s.started t = true ∧ s.ended t = false

instance (s : Shared) (t : Thread) : Decidable (s.Open t) := inferInstanceAs (Decidable (_ ∧ _))

/-- The last handler of a channel begins. -/
def Shared.finish (s : Shared) (t : Thread) : Shared :=
  { s with ended := Function.update s.ended t true }

/-- What a thread begins with. -/
def begin (s : Shared) : Thread → Task → Option (Shared × List Program)
  | .main, .main => some (s, [waitUntilDisconnected])
  | .acceptIde, .accept k _ => if s.started (.ide k) then none else some (s, [ideInit k])
  | .acceptServer, .accept c parent =>
      if s.started (.connection c) then none else some (s, connectionInit c parent)
  | .ide k, .message request c =>
      if s.Open (.ide k) then some (s, [ideHandler k c request]) else none
  | .ide k, .disconnect =>
      if s.Open (.ide k) then some (s.finish (.ide k), [componentDisconnect k]) else none
  | .launcher k, .message _ _ =>
      if s.Open (.launcher k) then some (s, [otherHandler k]) else none
  | .launcher k, .disconnect =>
      if s.Open (.launcher k) then some (s.finish (.launcher k), [componentDisconnect k])
      else none
  | .connection c, .message _ _ =>
      if s.Open (.connection c) then
        match s.handlers c with
        | some k => some (s, [otherHandler k])
        | none => some (s, [])
      else none
  | .connection c, .disconnect =>
      if s.Open (.connection c) then
        match s.handlers c with
        | some k => some (s.finish (.connection c), serverDisconnect k c)
        | none => some (s.finish (.connection c), [connectionDisconnect c])
      else none
  | .timeout _, .timeout (some k) => some (s, [notifyChanged k])
  | .timeout _, .timeout none => some (s, [.withLock .servers []])
  | _, _ => none

/-- The adapter when it starts. -/
def initial : Shared where
  started := fun _ => false
  ended := fun _ => false
  connections := []
  disconnected := fun _ => false
  server := fun _ => none
  handlers := fun _ => none
  sessionServer := fun _ => none
  sessionLauncher := fun _ => false
  isFinalizing := fun _ => false
  conn := fun _ => none

end LockUsage

/-- The adapter, as far as its locks are concerned. -/
def lockUsage :
    Locking LockUsage.Lock LockUsage.Thread LockUsage.Call LockUsage.Task LockUsage.Shared where
  initial := LockUsage.initial
  begin := LockUsage.begin
  call := LockUsage.call

namespace LockUsage

/-! ### The discipline -/

/-- The adapter at some time. -/
abbrev State := Threads Lock Thread Call Shared

/-- What a thread does. -/
abbrev Action := Locking.Action Thread Task

/-- Whose `Connection.disconnect` is about to look whether it belongs to a session. -/
def disconnecting : List (Frame Lock Call) → Option ℕ
  | .code (.call (.disconnect c)) :: _ => some c
  | _ => none

/-- A `Connection.disconnect` that looks whether it belongs to a session finds that it does not. -/
def FindsNoServer (s : State) : Action → Prop
  | .exec t _ => ∀ c ∈ disconnecting (s.worker t).todo, s.shared.server c = none
  | _ => True

instance (s : State) : ∀ a, Decidable (FindsNoServer s a)
  | .exec t _ =>
      inferInstanceAs (Decidable (∀ c ∈ disconnecting (s.worker t).todo, s.shared.server c = none))
  | .begin _ _ => isTrue trivial
  | .raise _ => isTrue trivial

/-- With `servers._lock`, no session is locked that is not locked already. -/
def Allowed (held : List Lock) (l : Lock) : Prop := .servers ∈ held → l = .servers ∨ l ∈ held

/-- The session is locked. -/
def Locked (k : ℕ) (held : List Lock) : Prop := .session k ∈ held

/-- The session is locked, and `servers._lock` is not held. -/
def OnlyLocked (k : ℕ) (held : List Lock) : Prop := .session k ∈ held ∧ .servers ∉ held

/-- What the functions rely on. A `Connection.disconnect` that belongs to no session takes no
other lock. -/
def Relies (held : List Lock) : Call → Prop
  | .attach k _ => Locked k held
  | .useConn k => OnlyLocked k held
  | .startRequest k _ _ => OnlyLocked k held
  | .finalize k => OnlyLocked k held
  | .finalizeServer k => OnlyLocked k held
  | .finalizeLauncher k => OnlyLocked k held
  | _ => True

/-- The order of the locks: sessions first. -/
def sessionsFirst : Discipline Lock Call := ⟨Allowed, Relies⟩

attribute [simp] Relies

@[simp] theorem sessionsFirst_allowed : sessionsFirst.allowed = Allowed := rfl

@[simp] theorem sessionsFirst_safe : sessionsFirst.safe = Relies := rfl

variable {held : List Lock} {k c : ℕ} {setUp body : List Program} {s s' : Shared} {t : Thread}
  {task : Task} {request : Request}

/-- `servers._lock` can be taken anywhere. -/
@[simp] theorem allowed_servers : Allowed held .servers := fun _ => .inl rfl

/-- A thread that holds nothing can take every lock. -/
@[simp] theorem allowed_nil {l : Lock} : Allowed [] l := fun h => absurd h List.not_mem_nil

/-- A session that is locked can be locked again. -/
theorem Locked.allowed (h : Locked k held) : Allowed held (.session k) := fun _ => .inr h

theorem OnlyLocked.allowed (h : OnlyLocked k held) : Allowed held (.session k) :=
  Locked.allowed h.1

theorem OnlyLocked.cons (h : OnlyLocked k held) : OnlyLocked k (.session k :: held) :=
  ⟨List.mem_cons_self, by simpa using h.2⟩

theorem onlyLocked_singleton : OnlyLocked k [.session k] := ⟨List.mem_cons_self, by simp⟩

theorem locked_cons : Locked k (.session k :: held) := List.mem_cons_self

theorem safe_notifyChanged (h : Locked k held) : sessionsFirst.Safe held (notifyChanged k) := by
  simpa [notifyChanged] using h.allowed

/-- While a thread waits for a condition of a session, it may hold `servers._lock` only if nobody
minds; it does not. -/
theorem safe_waitFor (h : OnlyLocked k held) : sessionsFirst.Safe held (waitFor k) := by
  have hwait : Allowed ((Lock.session k :: held).filter (· ≠ .session k)) (.session k) :=
    fun hservers => absurd (List.mem_of_mem_filter hservers) h.cons.2
  simpa [waitFor, h.allowed] using hwait

theorem safe_componentInit (h : Locked k held) (hsetUp : sessionsFirst.SafeAll held setUp) :
    sessionsFirst.SafeAll held (componentInit k setUp) := by
  simpa [componentInit, h.allowed, safe_notifyChanged h] using hsetUp

theorem safe_otherHandler (h : Allowed held (.session k)) :
    sessionsFirst.Safe held (otherHandler k) := by
  simpa [otherHandler, messageHandler, safe_notifyChanged locked_cons] using h

theorem safe_componentDisconnect (h : Lock.servers ∉ held) :
    sessionsFirst.Safe held (componentDisconnect k) := by
  have hallowed : Allowed held (.session k) := fun hservers => absurd hservers h
  have hrelies : OnlyLocked k (.session k :: held) := ⟨locked_cons, by simpa using h⟩
  simpa [componentDisconnect, hallowed, safe_notifyChanged locked_cons] using hrelies

theorem safe_launcherInit (h : OnlyLocked k held) : sessionsFirst.Safe held (launcherInit k) := by
  have hnotify := safe_notifyChanged (@locked_cons held k)
  have hinit : sessionsFirst.SafeAll (.session k :: held)
      (componentInit k [.call (.startChannel (.launcher k))]) :=
    safe_componentInit locked_cons (by simp)
  simp [launcherInit, h.allowed, hinit, hnotify]

theorem safe_ideInit : sessionsFirst.Safe [] (ideInit k) := by
  have hnotify := safe_notifyChanged (@locked_cons [] k)
  have hinit : sessionsFirst.SafeAll [.session k]
      (componentInit k [.call (.startChannel (.ide k))]) :=
    safe_componentInit locked_cons (by simp)
  simp [ideInit, hinit, hnotify, List.replicate]

theorem safe_waitForConnection : sessionsFirst.SafeAll held (waitForConnection k c) := by
  simp [waitForConnection]

/-- **The server of a session is constructed with `servers._lock` held**, by a thread that has
locked the session before. -/
theorem safe_serverInit (h : Locked k held) : sessionsFirst.Safe held (serverInit k c) := by
  have hnotify := safe_notifyChanged (@locked_cons held k)
  have hinit : sessionsFirst.SafeAll (.session k :: held)
      (componentInit k [.call (.setHandlers k c)]) :=
    safe_componentInit locked_cons (by simp)
  simp [serverInit, h.allowed, hinit, hnotify]

theorem safe_detachFromSession (h : Locked k held) :
    sessionsFirst.Safe held (detachFromSession k c) := by
  have hnotify : sessionsFirst.Safe (.servers :: held) (notifyChanged k) :=
    safe_notifyChanged (List.mem_cons_of_mem _ h)
  simp [detachFromSession, hnotify]

/-- **A server disconnects with `servers._lock` released** before its session is locked. -/
theorem safe_serverDisconnect (h : Lock.servers ∉ held) :
    sessionsFirst.SafeAll held (serverDisconnect k c) := by
  simp [serverDisconnect, safe_componentDisconnect h]

theorem safe_connectionInit {parent : ℕ} : sessionsFirst.SafeAll [] (connectionInit c parent) := by
  simp [connectionInit, notifyOfSubprocess, dontWaitForFirstConnection]

theorem safe_startHandler (h : OnlyLocked k held) :
    sessionsFirst.SafeAll held (startHandler k c request) := by
  have hconn : sessionsFirst.SafeAll held (waitForConnection k c ++ [.call (.useConn k)]) := by
    simpa [safe_waitForConnection] using h
  cases request with
  | launch noDebug =>
      simp only [startHandler, spawnDebuggee]
      split_ifs
      · simp [connections, safe_launcherInit h]
      · simpa [connections, safe_launcherInit h, safe_waitFor h] using hconn
      · exact Discipline.safeAll_nil
  | attach noDebug => exact hconn
  | configurationDone => exact Discipline.safeAll_nil
  | terminate => exact Discipline.safeAll_nil
  | other => exact Discipline.safeAll_nil

theorem safe_startMessageHandler (h : OnlyLocked k held) :
    sessionsFirst.SafeAll held (startMessageHandler k c request) := by
  have hnotify := safe_notifyChanged h.1
  have hhandler := @safe_startHandler _ _ c request h
  cases hrequest : request.noDebug <;>
    simp [startMessageHandler, dontWaitForFirstConnection, hrequest, hnotify, hhandler]

theorem safe_ideHandler : sessionsFirst.Safe [] (ideHandler k c request) := by
  have hnotify := safe_notifyChanged (@locked_cons [] k)
  have honly : OnlyLocked k [.session k] := onlyLocked_singleton
  cases request with
  | configurationDone =>
      simp [ideHandler, messageHandler, configurationDone, connections, notifyOfSubprocess, hnotify,
        honly.allowed]
  | terminate => simpa [ideHandler, messageHandler] using honly
  | other => exact safe_otherHandler allowed_nil
  | launch noDebug => simpa [ideHandler, messageHandler] using honly
  | attach noDebug => simpa [ideHandler, messageHandler] using honly

/-- What a thread begins with takes the locks in order. -/
theorem safe_begin (h : begin s t task = some (s', body)) : sessionsFirst.SafeAll [] body := by
  have hdisconnect : ∀ k, sessionsFirst.Safe [] (componentDisconnect k) := fun k =>
    safe_componentDisconnect List.not_mem_nil
  have hother : ∀ k, sessionsFirst.Safe [] (otherHandler k) := fun k =>
    safe_otherHandler allowed_nil
  cases t with
  | main =>
      cases task <;> simp only [begin, Option.some.injEq, Prod.mk.injEq, reduceCtorEq] at h
      obtain ⟨-, rfl⟩ := h
      simp [waitUntilDisconnected]
  | acceptIde =>
      cases task <;> simp only [begin, reduceCtorEq] at h
      split_ifs at h
      obtain ⟨-, rfl⟩ := Prod.mk.inj (Option.some.inj h)
      simp [safe_ideInit]
  | acceptServer =>
      cases task <;> simp only [begin, reduceCtorEq] at h
      split_ifs at h
      obtain ⟨-, rfl⟩ := Prod.mk.inj (Option.some.inj h)
      exact safe_connectionInit
  | ide k =>
      cases task <;> simp only [begin, reduceCtorEq] at h
      all_goals
        split_ifs at h
        obtain ⟨-, rfl⟩ := Prod.mk.inj (Option.some.inj h)
      · simp [safe_ideHandler]
      · simp [hdisconnect]
  | launcher k =>
      cases task <;> simp only [begin, reduceCtorEq] at h
      all_goals
        split_ifs at h
        obtain ⟨-, rfl⟩ := Prod.mk.inj (Option.some.inj h)
      · simp [hother]
      · simp [hdisconnect]
  | connection c =>
      cases task <;> simp only [begin, reduceCtorEq] at h
      all_goals
        split_ifs at h
        split at h <;> obtain ⟨-, rfl⟩ := Prod.mk.inj (Option.some.inj h)
      · simp [hother]
      · simp
      · exact safe_serverDisconnect List.not_mem_nil
      · simp [connectionDisconnect]
  | timeout i =>
      cases task with
      | timeout session =>
          cases session <;> obtain ⟨-, rfl⟩ := Prod.mk.inj (Option.some.inj h)
          · simp
          · simp [notifyChanged]
      | main => simp [begin] at h
      | accept id parent => simp [begin] at h
      | message request c => simp [begin] at h
      | disconnect => simp [begin] at h

/-- **A call takes the locks in order**, except for a `Connection.disconnect` that belongs to a
session. -/
theorem safe_call {call : Call} (h : Relies held call)
    (hserver : ∀ c, call = .disconnect c → s.server c = none) :
    sessionsFirst.SafeAll held (LockUsage.call s call).2 := by
  cases call with
  | startChannel t => exact Discipline.safeAll_nil
  | register c =>
      simp only [LockUsage.call]
      split_ifs <;> exact Discipline.safeAll_nil
  | disconnect c =>
      simp only [LockUsage.call, hserver c rfl]
      exact Discipline.safeAll_nil
  | remove c => exact Discipline.safeAll_nil
  | look k c => exact Discipline.safeAll_nil
  | useConn k =>
      simp only [LockUsage.call]
      split
      · simpa [attachToSession, Locked] using h.1
      · exact Discipline.safeAll_nil
  | attach k c =>
      simp only [LockUsage.call]
      split
      · exact Discipline.safeAll_nil
      · simp [safe_serverInit h]
  | setHandlers k c => exact Discipline.safeAll_nil
  | setSessionServer k c => exact Discipline.safeAll_nil
  | setServer k c => exact Discipline.safeAll_nil
  | setSessionLauncher k => exact Discipline.safeAll_nil
  | detach c => exact Discipline.safeAll_nil
  | startRequest k request c =>
      simp only [LockUsage.call]
      split_ifs
      · exact Discipline.safeAll_nil
      · exact safe_startMessageHandler h
  | finalize k =>
      simp only [LockUsage.call]
      split_ifs
      · exact Discipline.safeAll_nil
      · simpa [safe_notifyChanged h.1, finalizeBody, dontWaitForFirstConnection] using h
  | finalizeServer k =>
      simp only [LockUsage.call]
      split
      · simp [terminateDebuggee, h.allowed, safe_detachFromSession h.1]
      · exact Discipline.safeAll_nil
  | finalizeLauncher k =>
      simp only [LockUsage.call]
      split_ifs
      · simp [terminateDebuggee, h.allowed, safe_waitFor h]
      · simp [terminateDebuggee, h.allowed, safe_waitFor h]
      · exact Discipline.safeAll_nil

/-- **The adapter takes the locks in order**, as long as no `Connection.disconnect` finds that it
belongs to a session. -/
theorem follows : lockUsage.Follows sessionsFirst FindsNoServer where
  begin h := safe_begin h
  call hC htodo h := by
    refine safe_call h fun c hcall => hC c ?_
    rw [htodo, hcall]
    rfl

variable {s : State}

/-- **There is no deadlock** over `servers._lock` and the lock of a session, in all runs in which
`Connection.disconnect` finds that the connection belongs to no session. -/
theorem not_deadlocked (h : lockUsage.machine.ReachableWithin FindsNoServer s) (k : ℕ) :
    ¬ s.Deadlocked .servers (.session k) := by
  have hdisciplined := Locking.disciplined_of_reachable follows h
  refine hdisciplined.deadlock_free fun held hservers hallowed => ?_
  rcases hallowed hservers with heq | hmem
  · cases heq
  · exact hmem

/-! ### The deadlock -/

/-- A thread goes on for several steps, without entering a branch. -/
def go (t : Thread) (n : ℕ) : List Action := List.replicate n (.exec t false)

/-- An IDE connects, and a debug server, which then disconnects: its handler thread begins with
`Connection.disconnect`. -/
def connectAndDisconnect : List Action :=
  .begin .acceptIde (.accept 1 0) :: go .acceptIde 21 ++
    .begin .acceptServer (.accept 0 0) :: go .acceptServer 1 ++ .exec .acceptServer true ::
    go .acceptServer 4 ++ [.begin (.connection 0) .disconnect]

/-- The IDE disconnects, and its handler has locked the session. -/
def ideDisconnects : List Action :=
  .begin (.ide 1) (.message .terminate 0) :: go (.ide 1) 4

/-- A server disconnects that belongs to no session, while the IDE waits for it to give up
`servers._lock`. -/
theorem not_deadlocked_disconnect :
    ∃ s, lockUsage.machine.run lockUsage.init
        (connectAndDisconnect ++ go (.connection 0) 1 ++ ideDisconnects ++ go (.connection 0) 1) =
          some s ∧
      s.WaitsFor (.ide 1) .servers ∧ ¬ s.Deadlocked .servers (.session 1) := by
  have hC : lockUsage.machine.StepsWithin FindsNoServer lockUsage.init
      (connectAndDisconnect ++ go (.connection 0) 1 ++ ideDisconnects ++
        go (.connection 0) 1) := by
    decide
  have hrun : ∃ s, lockUsage.machine.run lockUsage.init
      (connectAndDisconnect ++ go (.connection 0) 1 ++ ideDisconnects ++ go (.connection 0) 1) =
        some s ∧ s.WaitsFor (.ide 1) .servers :=
    ⟨_, rfl, rfl, .connection 0, by decide, rfl⟩
  obtain ⟨s, hs, hwaits⟩ := hrun
  exact ⟨s, hs, hwaits, not_deadlocked (.run (.start rfl) hC hs) 1⟩

/-- The IDE attaches to the server; the next request fails, since its channel is closed. -/
def attachAndFail : List Action :=
  .begin (.ide 1) (.message (.attach false) 0) :: go (.ide 1) 29 ++
    .raise (.ide 1) :: go (.ide 1) 1

/-- **A deadlock**: the server is attached to a session before its `Connection.disconnect` takes
`servers._lock`; that finds the session, and waits for its lock, which the IDE holds that is
disconnecting, too. -/
theorem deadlocked :
    ∃ s, lockUsage.machine.run lockUsage.init
        (connectAndDisconnect ++ attachAndFail ++ go (.connection 0) 5 ++ ideDisconnects) =
          some s ∧
      s.Deadlocked .servers (.session 1) :=
  ⟨_, rfl, .connection 0, .ide 1, List.mem_cons_self, ⟨rfl, .ide 1, by decide, rfl⟩,
    List.mem_cons_self, ⟨rfl, .connection 0, by decide, rfl⟩⟩

end LockUsage

end Ptvsd
