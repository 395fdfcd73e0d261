import Mathlib.Logic.Function.Basic
import Ptvsd.Json
import Ptvsd.Machine

/-!
# The Adapter and Its Debug Servers

The adapter process with any number of sessions and of debug servers: the thread that accepts
debug servers (`Connection.__init__`), the handler thread of the channel of each of them, and
the threads of the sessions. A step is what a thread does under one of the locks, or up to
the next wait for a response; what the other processes send is left open, and so is when a
wait ends.

A handler thread first looks up the handlers of the channel, and then runs the handler: the
component that handles a message is the one that was there at the lookup. In
`Server.disconnect` the connection is deregistered under `servers._lock`, and the rest needs
the lock of the session. That `Connection.disconnect` keeps `servers._lock` in between is left
out, and so is what `_finalize` waits for after it has detached the server: other threads
have more to do here than in the adapter.

Connections, servers and sessions are numbered in the order in which they are created; those
that are still to be created are there already, in their initial state.

## Main results

* `Adapter.step_eq_some`: **what a step is**, namely the possible actions of a process that runs;
  `adapter` is the machine whose runs the invariants of the adapter are about.
-/

namespace Ptvsd

/-! ### Access tokens -/

/-- `servers.access_token` and `adapter.access_token`. -/
structure Tokens where
  servers : Option String
  adapter : Option String

namespace Tokens

/-- At least one of the tokens is not `None`. -/
def configured (tokens : Tokens) : Bool := tokens.servers.isSome || tokens.adapter.isSome

/-- A "clientAccessToken" that equals `adapter.access_token`. -/
def matches? (tokens : Tokens) : Property → Bool
  | some (.str token) => tokens.adapter = some token
  | some .null => tokens.adapter.isNone
  | _ => false

/-- The body of a response to "pydevdAuthorize" carries the token of the adapter. -/
def carriedBy (tokens : Tokens) : Json → Bool
  | .dict items => tokens.matches? (items.lookup "clientAccessToken")
  | _ => false

/-- `Connection.authenticate` does not raise; `response` is the body of the response to
"pydevdAuthorize", if there is one. -/
def authenticate (tokens : Tokens) (response : Option Json) : Bool :=
  !tokens.configured || response.any tokens.carriedBy

/-- `Connection.authenticate` raises something else than `MessageHandlingError` or
`NoMoreMessages`: `RuntimeError` if there is another token, `TypeError` if the body is no object.
If the server refuses to answer, or disconnects, or leaves the token out, it is one of those. -/
def mismatches (tokens : Tokens) (response : Option Json) : Bool :=
  !tokens.authenticate response &&
    match response with
    | none => false
    | some .null => false
    | some (.dict items) => (items.lookup "clientAccessToken").isSome
    | some _ => true

end Tokens

/-! ### The parties -/

namespace Adapter

/-- What a debug server sends without being asked. -/
inductive Message where
  | event (name : String) (body : Json)
  | request (command : String)
  | disconnect

/-- Where the handler thread of the channel of a connection is. -/
inductive Handling where
  /-- Waiting for the next message. -/
  | idle
  /-- About to handle a message with the handlers of a server, or of the connection. -/
  | running (message : Message) (handlers : Option ℕ)
  /-- In `Server.disconnect` of this server, after deregistering the connection. -/
  | deregistered (server : ℕ)
  /-- The disconnect has been handled. -/
  | ended

/-- The thread is waiting for the next message. -/
def Handling.isIdle : Handling → Bool
  | .idle => true
  | _ => false

/-- The thread has ended. -/
def Handling.isEnded : Handling → Bool
  | .ended => true
  | _ => false

/-- A debug server that is connected to the adapter. -/
structure Connection where
  /-- The body of its response to "pydevdAuthorize". -/
  authorization : Option Json
  pid : Option ℤ
  ppid : Option ℤ
  disconnected : Bool
  server : Option ℕ
  /-- `channel.handlers`: a server, or `none` for the connection itself. -/
  handlers : Option ℕ
  handling : Handling

/-- The component for a debug server. -/
structure Server where
  session : ℕ
  connection : ℕ
  isConnected : Bool
  /-- The disconnect of the connection had been handled when the component was created. -/
  late : Bool

/-- What is written to the channel of an IDE about a debug server, or on its behalf. -/
inductive IDEMessage where
  | event (source : ℕ) (name : String) (body : Json)
  | response (source : ℕ) (body : Json)
  /-- The response to a start request that has failed, possibly in the words of the server. -/
  | failure (source : ℕ)
  | request (source : ℕ) (command : String)
  /-- The event "ptvsd_attach". -/
  | attach (conn : ℕ)

/-- The event that announces the process of this connection. -/
def IDEMessage.isAttach (c : ℕ) : IDEMessage → Bool
  | .attach conn => conn = c
  | _ => false

/-- Where the handler thread of an IDE is. -/
inductive IDEThread where
  /-- Waiting for the next message. -/
  | idle
  /-- In `spawn_debuggee`, waiting for the "process" event; the session is not locked. -/
  | launching
  /-- In `servers.wait_for_connection`, for the connection with this pid or for any. -/
  | connecting (wanted : Option ℤ)
  /-- About to attach to this connection. -/
  | found (conn : ℕ)
  /-- Waiting for responses of the server to "initialize" and the start request. -/
  | starting
  /-- Waiting for the response of the server to "configurationDone". -/
  | configuring
  /-- In the loop at the end of `configurationDone_request`. -/
  | announcing (rest : List ℕ)
  /-- The disconnect has been handled. -/
  | ended
  deriving DecidableEq

/-- The handler of the IDE keeps the session locked between two steps. -/
def IDEThread.locks : IDEThread → Bool
  | .idle => false
  | .launching => false
  | .ended => false
  | _ => true

/-- A debug session. -/
structure Session where
  pid : Option ℤ
  server : Option ℕ
  /-- The launcher, if there is one: whether it is connected. -/
  launcher : Option Bool
  ide : IDEThread
  ideConnected : Bool
  /-- The channel to the IDE can be written to. -/
  ideOpen : Bool
  clientId : String
  /-- `_initialize_request` is not `None`. -/
  initializeRequest : Bool
  /-- `start_request` is not `None`. -/
  startRequest : Bool
  /-- `"processId" in arguments`, of the "launch" or "attach" request. -/
  processId : Bool
  hasStarted : Bool
  /-- `configurationDone_request` has gone through all connections. -/
  announced : Bool
  /-- Those of them that were children of the debuggee, but already being debugged. -/
  passedOver : List ℕ
  knownSubprocesses : List ℕ
  deferredEvents : Option (List IDEMessage)
  isFinalizing : Bool
  /-- `_finalize` is going to detach the server; the session is locked. -/
  detaching : Bool
  /-- The session is one of `sessions._sessions`. -/
  registered : Bool
  /-- What was written to the channel of the IDE. -/
  written : List IDEMessage

/-- Where the thread is that accepts debug servers. -/
inductive AcceptThread where
  | idle
  /-- Waiting for the response to "pydevdAuthorize". -/
  | authenticating (conn : ℕ)
  /-- Waiting for the response to "pydevdSystemInfo". -/
  | querying (conn : ℕ)
  /-- Waiting for the response to "evaluate". -/
  | injecting (conn : ℕ)
  /-- About to append the connection to `_connections`. -/
  | registering (conn : ℕ)
  /-- About to call `sessions.get`. -/
  | lookingUp (conn : ℕ)
  /-- In `notify_of_subprocess`, waiting for the lock of the session. -/
  | notifying (conn session : ℕ)
  /-- In `notify_of_subprocess`, after the lock was released. -/
  | sending (conn session : ℕ)
  deriving DecidableEq

end Adapter

/-- The adapter. -/
structure Adapter where
  /-- How many debug servers have connected. -/
  accepted : ℕ
  conns : ℕ → Adapter.Connection
  acceptThread : Adapter.AcceptThread
  /-- `servers._connections`. -/
  connections : List ℕ
  /-- How many `Server` components have been created. -/
  created : ℕ
  servers : ℕ → Adapter.Server
  /-- How many IDEs have connected. -/
  ides : ℕ
  sessions : ℕ → Adapter.Session
  /-- The process has terminated. -/
  exited : Bool

namespace Adapter

/-- A connection when it is accepted. -/
def newConnection : Connection where
  authorization := none
  pid := none
  ppid := none
  disconnected := false
  server := none
  handlers := none
  handling := .idle

/-- A session when its IDE connects. -/
def newSession : Session where
  pid := none
  server := none
  launcher := none
  ide := .idle
  ideConnected := true
  ideOpen := true
  clientId := ""
  initializeRequest := false
  startRequest := false
  processId := false
  hasStarted := false
  announced := false
  passedOver := []
  knownSubprocesses := []
  deferredEvents := some []
  isFinalizing := false
  detaching := false
  registered := true
  written := []

/-- The adapter when it starts. -/
def init : Adapter where
  accepted := 0
  conns := fun _ => newConnection
  acceptThread := .idle
  connections := []
  created := 0
  servers := fun _ => ⟨0, 0, false, false⟩
  ides := 0
  sessions := fun _ => newSession
  exited := false

/-! ### Updates -/

/-- One connection is replaced. -/
def setConnection (s : Adapter) (c : ℕ) (conn : Connection) : Adapter :=
  { s with conns := Function.update s.conns c conn }

/-- One server is replaced. -/
def setServer (s : Adapter) (v : ℕ) (server : Server) : Adapter :=
  { s with servers := Function.update s.servers v server }

/-- One session is replaced. -/
def setSession (s : Adapter) (k : ℕ) (session : Session) : Adapter :=
  { s with sessions := Function.update s.sessions k session }

/-- One handler thread goes on to something else. -/
def setHandling (s : Adapter) (c : ℕ) (handling : Handling) : Adapter :=
  s.setConnection c { s.conns c with handling }

/-! ### Sessions -/

/-- The session is locked between two steps. -/
def Session.locked (x : Session) : Bool := x.detaching || x.ide.locks

/-- `Session.finalize`, and `_finalize` until the server is detached. -/
def Session.finalize (x : Session) : Session :=
  if x.isFinalizing then x else { x with isFinalizing := true, detaching := true }

/-- A component of the session is connected. -/
def active (s : Adapter) (x : Session) : Bool :=
  x.ideConnected || x.launcher = some true || x.server.any fun v => (s.servers v).isConnected

/-- `Session.notify_changed`: a session that has ended is not in `_sessions` any more. -/
def notifyChanged (s : Adapter) (k : ℕ) : Adapter :=
  s.setSession k
    { s.sessions k with registered := (s.sessions k).registered && s.active (s.sessions k) }

/-- `propagate_after_start`. -/
def Session.propagateAfterStart (x : Session) (event : IDEMessage) : Session :=
  match x.deferredEvents with
  | some events => { x with deferredEvents := some (events ++ [event]) }
  | none => if x.ideOpen then { x with written := x.written ++ [event] } else x

/-- `_propagate_deferred_events`. -/
def Session.propagateDeferredEvents (x : Session) : Session :=
  { x with written := x.written ++ x.deferredEvents.getD [], deferredEvents := none }

/-- The start request has failed because of this server, and the IDE is told. -/
def Session.failStart (x : Session) (source : ℕ) : Session :=
  { x with
    ide := .idle
    written := if x.ideOpen then x.written ++ [.failure source] else x.written }

/-- Whether the handler of `Server` for the event propagates it. -/
def Session.propagates (x : Session) : String → Bool
  | "initialized" => false
  | "process" => x.launcher.isNone
  | "continued" => x.clientId ≠ "visualstudio" && x.clientId ≠ "vsformac"
  | "exited" => x.launcher.isNone
  | "terminated" => false
  | _ => true

/-- Whether `notify_of_subprocess` reports the connection. -/
def Session.reports (x : Session) (c : ℕ) : Bool :=
  x.startRequest && c ∉ x.knownSubprocesses && !x.processId

/-! ### Actions -/

/-- What happens to a session alone. -/
inductive SessionAction where
  /-- The IDE requests "initialize". -/
  | initializeRequest (clientId : String)
  /-- The IDE requests "launch", and the launcher connects. -/
  | launchRequest (processId noDebug : Bool)
  /-- The launcher has sent "process". -/
  | launched
  /-- The IDE requests "attach", to the process with this pid or to any. -/
  | attachRequest (wanted : Option ℤ) (processId : Bool)
  /-- `servers.wait_for_connection` returns this connection. -/
  | wait (c : ℕ)
  /-- The IDE requests "configurationDone". -/
  | configurationDoneRequest
  /-- The server has answered "configurationDone", or it has disconnected. -/
  | configured (answered : Bool)
  /-- The next connection of the loop in `configurationDone_request`. -/
  | announce
  /-- The server has answered a request that the handler of the IDE passed on to it, with a body
  or with the text of an error, and the IDE is told. -/
  | delegate (body : Json)
  /-- The IDE requests "terminate" or "disconnect". -/
  | finalize
  /-- The IDE disconnects. -/
  | ideDisconnect
  /-- The launcher disconnects. -/
  | launcherDisconnect
  /-- The channel to the IDE breaks. -/
  | lose

/-- What happens in the adapter. -/
inductive Action where
  /-- A handler raises an exception that nothing catches, which ends the process. -/
  | exit
  /-- A debug server connects. -/
  | accept
  /-- `Connection.authenticate` ends. -/
  | authorize (c : ℕ) (response : Option Json)
  /-- "pydevdSystemInfo" is answered, with a pid and possibly a ppid. -/
  | report (c : ℕ) (info : Option (ℤ × Option ℤ))
  /-- "evaluate" is answered, or the server has disconnected. -/
  | inject (c : ℕ) (answered : Bool)
  | register (c : ℕ)
  /-- `sessions.get` returns one of the sessions with the right pid, or none. -/
  | lookUp (c : ℕ) (session : Option ℕ)
  | notify (c k : ℕ)
  | send (c k : ℕ)
  /-- The handler thread takes a message and looks up the handlers. -/
  | receive (c : ℕ) (message : Message)
  /-- The handler runs, in `Server.disconnect` up to the lock of the session. -/
  | handle (c : ℕ)
  /-- The rest of `Server.disconnect`. -/
  | disconnect (c v : ℕ)
  /-- An IDE connects. -/
  | connectIDE
  /-- `Connection.attach_to_session`. -/
  | attachToSession (k c : ℕ)
  /-- `Server.initialize`, and the start request; `response` is to "pydevdAuthorize". -/
  | start (k : ℕ) (response : Option Json)
  /-- The server fails "initialize", or, once it is initialized, the start request. -/
  | fail (k : ℕ) (initialized : Bool)
  /-- `Server.detach_from_session`, in `_finalize`. -/
  | detach (k : ℕ)
  | session (k : ℕ) (a : SessionAction)

/-! ### Steps of a session -/

/-- `servers.wait_for_connection`: the oldest connection with the pid, or the oldest of all. -/
def waitForConnection (s : Adapter) (wanted : Option ℤ) : Option ℕ :=
  s.connections.find? fun c => wanted.isNone || (s.conns c).pid = wanted

/-- The handler of the IDE can take a request. -/
def Session.ready (x : Session) : Bool := x.ide = .idle && !x.detaching

/-- `_start_message_handler` lets the request pass. -/
def Session.startable (x : Session) : Bool :=
  x.ready && x.initializeRequest && x.launcher.isNone && x.server.isNone

/-- The connections that the loop in `configurationDone_request` reports. -/
def announces (s : Adapter) (x : Session) (c : ℕ) : Bool :=
  (s.conns c).server.isNone && (s.conns c).ppid = x.pid && x.reports c

/-- When a thread of a session can take a step. -/
def Session.enabled (s : Adapter) (k : ℕ) (x : Session) : SessionAction → Bool
  | .initializeRequest _ => x.ready && !x.initializeRequest
  | .launchRequest _ noDebug =>
      x.startable && k = 0 && s.connections.isEmpty && (!noDebug || x.ideOpen)
  | .launched => x.ide = .launching && !x.detaching
  | .attachRequest _ _ => x.startable
  | .wait c =>
      match x.ide with
      | .connecting wanted => s.waitForConnection wanted = some c
      | _ => false
  | .configurationDoneRequest => x.ready && x.startRequest && !x.hasStarted
  | .configured _ => x.ide = .configuring && x.ideOpen
  | .announce =>
      match x.ide with
      | .announcing (c :: _) => x.ideOpen || !s.announces x c
      | .announcing [] => true
      | _ => false
  | .delegate _ => x.server.isSome
  | .finalize => x.ready
  | .ideDisconnect => x.ready
  | .launcherDisconnect => x.launcher = some true && !x.locked
  | .lose => x.ideOpen

/-- What a step of a thread of a session does to the session. -/
def Session.next (s : Adapter) (x : Session) : SessionAction → Session
  | .initializeRequest clientId => { x with clientId, initializeRequest := true }
  | .launchRequest processId true =>
      { x with
        launcher := some true, processId, startRequest := true,
        hasStarted := true }.propagateDeferredEvents
  | .launchRequest processId false =>
      { x with launcher := some true, processId, ide := .launching }
  | .launched => { x with ide := .connecting none }
  | .attachRequest wanted processId => { x with processId, ide := .connecting wanted }
  | .wait c => { x with ide := .found c }
  | .configurationDoneRequest => { x with hasStarted := true, ide := .configuring }
  | .configured true =>
      { x with ide := .announcing s.connections }.propagateDeferredEvents
  -- the exception passes through `finally`, which does not know about it
  | .configured false => { x with ide := .idle }.propagateDeferredEvents
  | .announce =>
      match x.ide with
      | .announcing (c :: rest) =>
          if s.announces x c then
            { x with
              ide := .announcing rest
              knownSubprocesses := c :: x.knownSubprocesses
              written := x.written ++ [.attach c] }
          else if (s.conns c).server.isSome && (s.conns c).ppid = x.pid then
            { x with ide := .announcing rest, passedOver := c :: x.passedOver }
          else { x with ide := .announcing rest }
      | _ => { x with ide := .idle, announced := true }
  | .delegate body =>
      match x.server with
      | some v =>
          if x.ideOpen then
            { x with written := x.written ++ [.response (s.servers v).connection body] }
          else x
      | none => x
  | .finalize => x.finalize
  | .ideDisconnect => { x with ideConnected := false, ideOpen := false, ide := .ended }.finalize
  | .launcherDisconnect => { x with launcher := some false }.finalize
  | .lose => { x with ideOpen := false }

/-! ### Steps of the adapter -/

/-- `Server.disconnect`, up to the lock of the session. -/
def deregister (s : Adapter) (c v : ℕ) : Adapter :=
  if (s.servers v).connection ∈ s.connections then
    { s.setHandling c (.deregistered v) with
      connections := s.connections.erase (s.servers v).connection }
  else { s with exited := true }

/-- The handlers of `Connection`. -/
def handleConnection (s : Adapter) (c : ℕ) : Message → Adapter
  | .event _ _ => s.setHandling c .idle
  -- the server is told that the request is not valid
  | .request _ => s.setHandling c .idle
  | .disconnect =>
      let s := s.setConnection c { s.conns c with disconnected := true }
      match (s.conns c).server with
      | some v => s.deregister c v
      | none => { s.setHandling c .ended with connections := s.connections.erase c }

/-- The handlers of `Server`. -/
def handleServer (s : Adapter) (c v : ℕ) : Message → Adapter
  | .event name body =>
      let k := (s.servers v).session
      let x := s.sessions k
      if x.propagates name then
        (s.setHandling c .idle).setSession k
          (x.propagateAfterStart (.event (s.servers v).connection name body))
      else s.setHandling c .idle
  -- `isnt_valid` has responded already when the decorator responds again
  | .request _ => { s with exited := true }
  | .disconnect => s.deregister c v

/-- The handler of the start request ends with an error of the server. -/
def failStart (s : Adapter) (k : ℕ) (x : Session) : Adapter :=
  match x.server with
  | some v => s.setSession k (x.failStart (s.servers v).connection)
  | none => s

/-- The action is possible in this state. -/
def enabled (s : Adapter) : Action → Bool
  | .exit => true
  | .accept => s.acceptThread = .idle
  | .authorize c _ => s.acceptThread = .authenticating c
  | .report c _ => s.acceptThread = .querying c
  | .inject c _ => s.acceptThread = .injecting c
  | .register c => s.acceptThread = .registering c
  | .lookUp c (some k) =>
      s.acceptThread = .lookingUp c && k < s.ides && (s.sessions k).registered &&
        (s.sessions k).pid = (s.conns c).ppid
  | .lookUp c none =>
      s.acceptThread = .lookingUp c &&
        (List.range s.ides).all fun k =>
          !((s.sessions k).registered && (s.sessions k).pid = (s.conns c).ppid)
  | .notify c k => s.acceptThread = .notifying c k && !(s.sessions k).locked
  | .send c k => s.acceptThread = .sending c k
  | .receive c _ => c < s.accepted && (s.conns c).handling.isIdle
  | .handle c =>
      match (s.conns c).handling with
      | .running .disconnect _ => true
      | .running _ (some v) => !(s.sessions (s.servers v).session).locked
      | .running _ none => true
      | _ => false
  | .disconnect c v =>
      match (s.conns c).handling with
      | .deregistered v' => v = v' && !(s.sessions (s.servers v).session).locked
      | _ => false
  | .connectIDE => true
  | .attachToSession k c => k < s.ides && (s.sessions k).ide = .found c
  | .start k _ => (s.sessions k).ide = .starting
  | .fail k _ => (s.sessions k).ide = .starting
  | .detach k => (s.sessions k).detaching
  | .session k a => k < s.ides && (s.sessions k).enabled s k a

/-- The state after an action. -/
def next (tokens : Tokens) (s : Adapter) : Action → Adapter
  | .exit => { s with exited := true }
  | .accept =>
      { s with accepted := s.accepted + 1, acceptThread := .authenticating s.accepted }
  | .authorize c response =>
      { s.setConnection c { s.conns c with authorization := response } with
        acceptThread := if tokens.authenticate response then .querying c else .idle }
  | .report c (some (pid, ppid)) =>
      { s.setConnection c { s.conns c with pid := some pid, ppid } with
        acceptThread := .injecting c }
  | .report _ none => { s with acceptThread := .idle }
  | .inject c answered =>
      { s with acceptThread := if answered then .registering c else .idle }
  | .register c =>
      if (s.conns c).disconnected then { s with acceptThread := .idle }
      else if s.connections.any fun conn => (s.conns conn).pid = (s.conns c).pid then
        { s with acceptThread := .idle }
      else { s with connections := s.connections ++ [c], acceptThread := .lookingUp c }
  | .lookUp c (some k) => { s with acceptThread := .notifying c k }
  | .lookUp _ none => { s with acceptThread := .idle }
  | .notify c k =>
      let x := s.sessions k
      if x.reports c then
        { s.setSession k { x with knownSubprocesses := c :: x.knownSubprocesses } with
          acceptThread := .sending c k }
      else { s with acceptThread := .idle }
  | .send c k =>
      let x := s.sessions k
      if x.ideOpen then
        { s.setSession k { x with written := x.written ++ [.attach c] } with
          acceptThread := .idle }
      else { s with acceptThread := .idle }
  | .receive c message => s.setHandling c (.running message (s.conns c).handlers)
  | .handle c =>
      match (s.conns c).handling with
      | .running message (some v) => s.handleServer c v message
      | .running message none => s.handleConnection c message
      | _ => s
  | .disconnect c v =>
      let k := (s.servers v).session
      (((s.setHandling c .ended).setServer v { s.servers v with isConnected := false }).setSession k
        (s.sessions k).finalize).notifyChanged k
  | .connectIDE => { s with ides := s.ides + 1 }
  | .attachToSession k c =>
      let x := s.sessions k
      let conn := s.conns c
      -- the handler raises, or responds to a request that has a response already
      if conn.server.isSome || x.server.isSome || x.pid.isSome then { s with exited := true }
      else
        let v := s.created
        { ((s.setServer v ⟨k, c, true, conn.handling.isEnded⟩).setConnection c
              { conn with server := some v, handlers := some v }).setSession k
            { x with pid := conn.pid, server := some v, ide := .starting } with
          created := v + 1 }
  | .start k response =>
      let x := s.sessions k
      if tokens.authenticate response then
        s.setSession k { x with initializeRequest := false, startRequest := true, ide := .idle }
      -- `RuntimeError` and `TypeError` are not passed on to the IDE
      else if tokens.mismatches response then { s with exited := true }
      else s.failStart k x
  | .fail k initialized =>
      let x := s.sessions k
      s.failStart k { x with initializeRequest := x.initializeRequest && !initialized }
  | .detach k =>
      let x := s.sessions k
      match x.server with
      | some v =>
          let c := (s.servers v).connection
          (((s.setServer v { s.servers v with isConnected := false }).setConnection c
            { s.conns c with server := none, handlers := none }).setSession k
              { x with detaching := false }).notifyChanged k
      | none => (s.setSession k { x with detaching := false }).notifyChanged k
  | .session k a => (s.setSession k ((s.sessions k).next s a)).notifyChanged k

/-- The step of the adapter under an action. -/
def step (tokens : Tokens) (s : Adapter) (a : Action) : Option Adapter :=
  if !s.exited && s.enabled a then some (s.next tokens a) else none

/-- **What a step is**: the process runs, the action is possible, and `next` is the state that
it leads to. -/
theorem step_eq_some {tokens : Tokens} {s s' : Adapter} {a : Action} :
    s.step tokens a = some s' ↔
      s.exited = false ∧ s.enabled a = true ∧ s.next tokens a = s' := by
  simp [step, and_assoc]

end Adapter

/-- The adapter, with these access tokens. -/
def adapter (tokens : Tokens) : Machine Adapter Adapter.Action where
  start s := s = .init
  step := Adapter.step tokens

end Ptvsd
