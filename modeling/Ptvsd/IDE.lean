import Ptvsd.Adapter
import Ptvsd.Arguments
import Ptvsd.Validators

/-!
# The IDE Component

The handlers that start a debug session, `initialize_request`, `launch_request`,
`attach_request` and `configurationDone_request`, with what they call in the other modules of
the adapter. They run on the handler thread of the channel of the IDE, one after another; in
between, events of the launcher and of the debug server are passed to
`propagate_after_start`, and other sessions and threads change the list of connections.

A handler is a program on the state of the session. What it does to one request is what
`Ptvsd.Component` says, and what the other processes answer is given: the `Outcomes` of the
calls that a start request makes, and the `Answer` to a request that is delegated.

## Main definitions

* `IDE.initializeRequest`, `IDE.launchRequest`, `IDE.attachRequest`, `IDE.configurationDoneRequest`:
  the handlers, as programs.
* `IDE.settle`: what the message loop makes of the outcome of a handler.
* `IDE.ide`: **the runs of the component**, whatever the other processes answer.
-/

namespace Ptvsd

namespace IDE

/-! ### State -/

/-- An event of the launcher or of the debug server. -/
structure Event where
  event : String
  body : Json

/-- A debug server in the list of connections. -/
structure Connection where
  id : ℕ
  pid : ℤ
  ppid : Option ℤ
  /-- The session that its `Server` belongs to. -/
  server : Option ℕ

/-- A process that a request is sent to. -/
inductive Receiver where
  | launcher
  | server
  | ide
  deriving DecidableEq

/-- A request that is sent to another process, and the request that is handled meanwhile. -/
structure Outgoing where
  origin : Request
  receiver : Receiver
  command : String
  arguments : Json

/-- The response to a request that is sent to another process. -/
inductive Answer where
  | success (body : Json)
  /-- The failure of the request with this identity. -/
  | failure (type : ErrorType) (reason : String) (cause : MessageId)
  /-- The other process has disconnected. -/
  | disconnect (text streamName : String)
  /-- The request cannot be written. -/
  | ioError (text streamName : String)

/-- What stays the same while the adapter runs. -/
structure Setup where
  /-- `session.id`. -/
  sessionId : ℕ
  /-- `sys.platform == "win32"`. -/
  win32 : Bool
  tokens : Tokens
  /-- The ports of `servers.Connection.listener` and of `IDE.listener`. -/
  serverPort : ℤ
  idePort : ℤ
  /-- `sys.executable`, and the directory of the launcher. -/
  executable : String
  launcherDir : String
  /-- `int(text)`, or `none` if it raises. -/
  int : String → Option ℤ

/-- The session and its IDE component. -/
structure State where
  objects : List PyObject
  /-- `request.response` of the requests of the IDE. -/
  responses : MessageId → Option (ℕ × Value)
  /-- `_closed` of the channel of the IDE, its next number, and what was written to it. -/
  closed : Bool
  seqIter : ℕ
  written : List (ℕ × SentResponse)
  events : List (ℕ × Event)
  /-- `os._exit()` was called. -/
  exited : Bool
  /-- The number of requests received; they are numbered in this order. -/
  received : MessageId
  clientId : Property
  capabilities : List (String × Json)
  expectations : List (String × Json)
  initializeRequest : Option Request
  startRequest : Option Request
  hasStarted : Bool
  /-- `None` once the events are no longer deferred. -/
  deferredEvents : Option (List Event)
  /-- The connections in `_known_subprocesses`. -/
  knownSubprocesses : List ℕ
  noDebug : Bool
  debugOptions : List String
  /-- `session.launcher` is present. -/
  launcher : Bool
  /-- The connection of `session.server`. -/
  server : Option ℕ
  pid : Option ℤ
  /-- `servers._connections`. -/
  connections : List Connection
  /-- The requests sent to other processes. -/
  sent : List Outgoing

namespace State

variable (s : State)

/-- What the handler of one request sees of the channel. -/
def view (id : MessageId) : World where
  objects := s.objects
  response := s.responses id
  closed := s.closed
  seqIter := s.seqIter
  written := s.written
  exited := s.exited

/-- The state after the part that the handler of one request sees has changed. -/
def update (id : MessageId) (w : World) : State :=
  { s with
    objects := w.objects
    responses := fun id' => if id' = id then w.response else s.responses id'
    closed := w.closed
    seqIter := w.seqIter
    written := w.written
    exited := w.exited }

/-- The responses to a request that were written. -/
def responsesTo (id : MessageId) : List (ℕ × SentResponse) :=
  s.written.filter fun p => p.2.request = id

/-- There is a launcher, or a debug server. -/
def Started : Prop := s.launcher = true ∨ s.server.isSome = true

/-- `attach_to_session` has assigned the connection. -/
def assign (conn : Connection) (sessionId : ℕ) : List Connection :=
  s.connections.map fun c => if c.id = conn.id then { c with server := some sessionId } else c

end State

/-- A piece of a handler. -/
abbrev Handler := Program State ObjectId

/-- What is done to one request. -/
def on {α : Type} (id : MessageId) (x : Python α) : Handler α :=
  ExceptT.mk fun s => ((x.exec (s.view id)).1, s.update id (x.exec (s.view id)).2)

/-! ### What handlers are made of -/

variable (setup : Setup) (request : Request)

/-- Raises a new exception. -/
def raise {α : Type} (exc : PyException) : Handler α := on request.id (Ptvsd.raise exc)

/-- `assert condition`. -/
def pyAssert (condition : Bool) : Handler PUnit := on request.id (Ptvsd.pyAssert condition "")

/-- `raise request.isnt_valid(reason)`. -/
def raiseIsntValid {α : Type} (reason : String) : Handler α := do
  throw (← on request.id (isntValid request.toIncomingRequest reason))

/-- `raise request.cant_handle(reason)`. -/
def raiseCantHandle {α : Type} (reason : String) : Handler α := do
  throw (← on request.id (cantHandle request.toIncomingRequest reason))

/-- What is raised about the arguments is made by `isnt_valid()` of the request, which sends
the response. -/
def parse {α : Type} (x : Except PyError α) : Handler α :=
  match x with
  | .ok a => pure a
  | .error (.invalidMessage reason _) => raiseIsntValid request reason
  | .error e => raise request (.other e.text)

/-- `exc.propagate(request)` for the `MessageHandlingError`s that are raised. -/
def propagating {α : Type} (x : Handler α) : Handler α :=
  tryCatch x fun id => do
    match ((← get).view request.id).exception? id with
    | some (.handlingError type reason _) =>
        raise request (.handlingError type reason request.id)
    | _ => throw id

/-- `channel.send_event` of the IDE. -/
def sendEvent (event : Event) : Handler PUnit := do
  let s ← get
  modify fun s => { s with seqIter := s.seqIter + 1 }
  if s.closed then raise request (.noMoreMessages "No more messages" request.streamName)
  else modify fun s' => { s' with events := s'.events ++ [(s.seqIter, event)] }

/-- `channel.propagate` for each of the events. -/
def sendEvents : List Event → Handler PUnit
  | [] => pure ⟨⟩
  | event :: events => do
      sendEvent request event
      sendEvents events

/-- `component.channel.request(command, arguments)`. -/
def channelRequest (receiver : Receiver) (command : String) (arguments : Json)
    (answer : Answer) : Handler Json := do
  let s ← get
  if receiver = .server ∧ s.server = none then raise request (.componentNotAvailable "Server")
  else if receiver = .launcher ∧ s.launcher = false then
    raise request (.componentNotAvailable "Launcher")
  else do
    modify fun s => { s with sent := s.sent ++ [⟨request, receiver, command, arguments⟩] }
    match answer with
    | .success body => return body
    | .failure type reason cause => raise request (.handlingError type reason cause)
    | .disconnect text streamName => raise request (.noMoreMessages text streamName)
    | .ioError text streamName => raise request (.jsonIOError text streamName)

/-- `component.channel.delegate(request)`. -/
def delegate (receiver : Receiver) (answer : Answer) : Handler Json :=
  propagating request (channelRequest request receiver request.command request.arguments answer)

/-- `IDE.propagate_after_start`. -/
def propagateAfterStart (event : Event) : Handler PUnit := do
  match (← get).deferredEvents with
  | some events => modify fun s => { s with deferredEvents := some (events ++ [event]) }
  | none => sendEvent request event

/-- `IDE._propagate_deferred_events`. -/
def propagateDeferredEvents : Handler PUnit := do
  match (← get).deferredEvents with
  | some events => do
      sendEvents request events
      modify fun s => { s with deferredEvents := none }
  | none => raise request (.other "'NoneType' object is not iterable")

/-! ### `initialize_request` -/

/-- What the adapter responds to "initialize". -/
def adapterCapabilities : Json :=
  .dict (["supportsCompletionsRequest", "supportsConditionalBreakpoints",
    "supportsConfigurationDoneRequest", "supportsDebuggerProperties",
    "supportsDelayedStackTraceLoading", "supportsEvaluateForHovers",
    "supportsExceptionInfoRequest", "supportsExceptionOptions",
    "supportsHitConditionalBreakpoints", "supportsLogPoints", "supportsModulesRequest",
    "supportsSetExpression", "supportsSetVariable", "supportsValueFormattingOptions",
    "supportsTerminateDebuggee", "supportsGotoTargetsRequest"].map
      (fun name => (name, Json.bool true)) ++
    [("exceptionBreakpointFilters", .list
      [.dict [("filter", .str "raised"), ("label", .str "Raised Exceptions"),
          ("default", .bool false)],
        .dict [("filter", .str "uncaught"), ("label", .str "Uncaught Exceptions"),
          ("default", .bool true)]])])

/-- `Capabilities(self, request)` for an "initialize" request. -/
def requestCapabilities (properties : List (String × Validator)) :
    Except PyError (List (String × Json)) :=
  match Ptvsd.capabilities properties request.items with
  | .ok flags => .ok flags
  | .error reason => .error (.invalidMessage reason (some request.id))

/-- What `initialize_request` reads; it yields the `Expectations`. -/
def readInitialize : Handler (List (String × Json)) := do
  -- the default value `""` is false, so that the property is not validated at all
  let clientId ← parse request (request.call "clientID" Except.ok)
  modify fun s => { s with clientId := clientId }
  let capabilities ← parse request (requestCapabilities request ideCapabilities)
  modify fun s => { s with capabilities := capabilities }
  parse request (requestCapabilities request ideExpectations)

/-- `IDE.initialize_request`. -/
def initializeRequest : Handler Value := do
  if (← get).initializeRequest.isSome then
    raiseIsntValid request "Session is already initialized"
  else do
    let expectations ← readInitialize request
    modify fun s => { s with expectations := expectations, initializeRequest := some request }
    return .object (← on request.id (new (.payload adapterCapabilities)))

/-! ### `launch_request` and `attach_request` -/

/-- What the calls that a start request makes come to. -/
structure Outcomes where
  /-- What `sockets.create_server`, `subprocess.Popen` and `listener.accept` raise. -/
  createServer : Option String
  popen : Option String
  accept : Option String
  /-- The environment variables for the launcher. -/
  env : Json
  runInTerminal : Answer
  /-- The launcher's answer to the start request. -/
  launcher : Answer
  /-- The launcher reports the "process" event in time. -/
  process : Bool
  /-- What `subprocess.Popen` raises in `servers.inject`. -/
  inject : Option String
  /-- The first connection to arrive that `wait_for_connection` waits for, and whether it
  arrives in time. -/
  arriving : Connection
  inTime : Bool
  /-- The debug server's answers. -/
  authorize : Answer
  initialization : Answer
  start : Answer
  setDebuggerProperty : Answer

variable (outcomes : Outcomes)

/-- What a call raises, if it does. -/
def attemptCall (exc : Option String) : Handler PUnit :=
  match exc with
  | some text => raise request (.other text)
  | none => pure ⟨⟩

/-- `servers.wait_for_connection`: the connection, and the list after the wait. A wait with no
timeout, which is for any connection, lasts until there is one. -/
def State.waitForConnection (s : State) (pred : Connection → Bool) (timeout : Option ℕ) :
    Option Connection × List Connection :=
  match s.connections.find? pred, timeout with
  | some conn, _ => (some conn, s.connections)
  | none, none => (some outcomes.arriving, s.connections ++ [outcomes.arriving])
  | none, some 0 => (none, s.connections)
  | none, some _ =>
      if outcomes.inTime && pred outcomes.arriving then
        (some outcomes.arriving, s.connections ++ [outcomes.arriving])
      else (none, s.connections)

/-- `servers.wait_for_connection`. -/
def waitForConnection (pred : Connection → Bool) (timeout : Option ℕ) :
    Handler (Option Connection) := do
  let s ← get
  modify fun s' => { s' with connections := (s.waitForConnection outcomes pred timeout).2 }
  return (s.waitForConnection outcomes pred timeout).1

/-- The `ValueError` that `attach_to_session` raises. -/
def valueError : PyException := .other "ValueError"

/-- `Connection.attach_to_session`, with `Server.__init__`. -/
def attachToSession (conn : Connection) : Handler PUnit := do
  if conn.server.isSome then raise request valueError
  else do
    let s ← get
    pyAssert request s.server.isNone
    pyAssert request s.pid.isNone
    modify fun s => { s with
      pid := some conn.pid
      server := some conn.id
      connections := s.assign conn setup.sessionId }

/-- `Connection.authenticate`; the exceptions caused by a response have that of the
adapter's own request as their cause here. -/
def authenticate (cause : MessageId) : Handler PUnit :=
  if setup.tokens.configured then do
    let token := setup.tokens.servers.elim Json.null Json.str
    let auth ← channelRequest request .server "pydevdAuthorize"
      (.dict [("debugServerAccessToken", token)]) outcomes.authorize
    match auth with
    | .dict items =>
        match items.lookup "clientAccessToken" with
        | none => raise request (.handlingError .invalidMessageError
            "missing property 'clientAccessToken'" cause)
        | some token =>
            if setup.tokens.matches? (some token) then pure ⟨⟩
            else
              -- the channel of the debug server is closed first
              raise request (.other "Mismatched \"clientAccessToken\"; server not authorized.")
    | auth => raise request (.other ("'" ++ auth.typeName ++ "' object has no property"))
  else pure ⟨⟩

/-- `Server.initialize`. -/
def serverInitialize (initRequest : Request) (cause : MessageId) : Handler PUnit := do
  pyAssert request (initRequest.command = "initialize")
  authenticate setup request outcomes cause
  let body ← channelRequest request .server initRequest.command initRequest.arguments
    outcomes.initialization
  match body with
  | .dict payload =>
      match Ptvsd.capabilities serverCapabilities payload with
      | .ok _ => pure ⟨⟩
      | .error reason => raise request (.handlingError .invalidMessageError reason cause)
  | body => raise request (.other ("'" ++ body.typeName ++ "' object has no attribute 'get'"))

/-- The arguments that the other processes get: if "program" is a list, it is the one that
`launch_request` appends the items of "args" to. -/
def startItems : List (String × Json) :=
  match request.items.lookup "program", request.items.lookup "args" with
  | some (.list program), some (.list args) =>
      if request.command = "launch" then Dict.set request.items "program" (.list (program ++ args))
      else request.items
  | _, _ => request.items

/-- The arguments that the debug server gets: if there is a launcher, it is the launcher that
redirects the output. -/
def serverArguments (launcher : Bool) (debugOptions : List String)
    (arguments : List (String × Json)) : List (String × Json) :=
  if launcher then
    let arguments :=
      if "RedirectOutput" ∈ debugOptions then
        Dict.set arguments "debugOptions" (.list ((debugOptions.filter
          (· ≠ "RedirectOutput")).map Json.str))
      else arguments
    if (arguments.lookup "redirectOutput").any Json.truth then
      Dict.del arguments "redirectOutput"
    else arguments
  else arguments

/-- The value of "ideOS". -/
def clientOsType (debugOptions : List String) : String :=
  if "WindowsClient" ∈ debugOptions ∨ "Windows" ∈ debugOptions then "WINDOWS"
  else if "UnixClient" ∈ debugOptions ∨ "UNIX" ∈ debugOptions then "UNIX"
  else if setup.win32 then "WINDOWS" else "UNIX"

/-- The arguments of "setDebuggerProperty". -/
def debuggerProperties (debugOptions : List String) : Json :=
  .dict [("skipSuspendOnBreakpointException", .list [.str "BaseException"]),
    ("skipPrintBreakpointException", .list [.str "NameError"]),
    ("multiThreadsSingleNotification", .bool true),
    ("ideOS", .str (clientOsType setup debugOptions))]

/-- The checks of `_start_message_handler`; they yield `_initialize_request`. -/
def checkState : Handler Request := do
  pyAssert request (request.command = "launch" ∨ request.command = "attach")
  let s ← get
  match s.initializeRequest with
  | none => raiseIsntValid request "Session is not initialized yet"
  | some initRequest =>
      if s.launcher || s.server.isSome then
        raiseIsntValid request "Session is already started"
      else return initRequest

/-- The options that both handlers read. -/
def readOptions : Handler (List String) := do
  let noDebug ← parse request (request.call "noDebug" (.default (.bool false)))
  modify fun s => { s with noDebug := noDebug.toBool }
  let debugOptions ← parse request (request.call "debugOptions" .texts)
  modify fun s => { s with debugOptions := debugOptions.toTexts.dedup }
  return debugOptions.toTexts.dedup

/-- The debug server is told about the start, if there is one. -/
def startServer (initRequest : Request) (debugOptions : List String) (cause : MessageId) :
    Handler PUnit := do
  if (← get).server.isSome then do
    serverInitialize setup request outcomes initRequest cause
    modify fun s => { s with initializeRequest := none }
    let s ← get
    let arguments := serverArguments s.launcher debugOptions (startItems request)
    let _ ← propagating request
      (channelRequest request .server request.command (.dict arguments) outcomes.start)
  else pure ⟨⟩

/-- The start request is answered, or left to "configurationDone". -/
def finishStart (debugOptions : List String) : Handler Value := do
  if (← get).noDebug then do
    modify fun s => { s with startRequest := some request, hasStarted := true }
    let body ← on request.id (new (.payload (.dict [])))
    on request.id (respond request.toIncomingRequest (.object body))
    propagateDeferredEvents request
    return .none
  else do
    let _ ← channelRequest request .server "setDebuggerProperty"
      (debuggerProperties setup debugOptions) outcomes.setDebuggerProperty
    sendEvent request ⟨"initialized", .dict []⟩
    modify fun s => { s with startRequest := some request }
    return .noResponse

/-- `IDE._start_message_handler(f)`. -/
def startMessageHandler (f : List String → Handler PUnit) (cause : MessageId) :
    Handler Value := do
  let initRequest ← checkState request
  let debugOptions ← readOptions request
  f debugOptions
  startServer setup request outcomes initRequest debugOptions cause
  finishStart setup request outcomes debugOptions

/-- `"Sudo" in self.session.debug_options` decides what "sudo" is by default. -/
def readSudo (debugOptions : List String) : Handler Bool := do
  let useSudo ← parse request
    (request.call "sudo" (.default (.bool (decide ("Sudo" ∈ debugOptions)))))
  if useSudo.toBool then
    if setup.win32 then raiseCantHandle request "\"sudo\":true is not supported on Windows."
    else return true
  else if "Sudo" ∈ debugOptions then
    raiseIsntValid request
      "\"sudo\":false and \"debugOptions\":[\"Sudo\"] are mutually exclusive"
  else return false

/-- What is to be run. -/
def readTarget : Handler (List String) :=
  if request.contains "program" then do
    return (← parse request (request.call "program" .someTexts)).toTexts
  else if request.contains "module" then do
    return "-m" :: (← parse request (request.call "module" .someTexts)).toTexts
  else if request.contains "code" then do
    return "-c" :: (← parse request (request.call "code" .someTexts)).toTexts
  else return []

/-- What is to be run, and its arguments. -/
def readArgs : Handler (List String) := do
  let target ← readTarget request
  let args ← parse request (request.call "args" .texts)
  return target ++ args.toTexts

/-- `Capabilities.require("supportsRunInTerminalRequest")` of the IDE. -/
def requireRunInTerminal : Handler PUnit := do
  if ((← get).capabilities.lookup "supportsRunInTerminalRequest").any Json.truth then pure ⟨⟩
  else raise request (.handlingError .messageHandlingError
    "IDE[1] does not have capability \"supportsRunInTerminalRequest\"" none)

/-- `kinds[console]`. -/
def kindOfConsole (console : String) : String :=
  if console = "integratedTerminal" then "integrated" else "external"

/-- `spawn_launcher` in `spawn_debuggee`, up to the connection of the launcher. -/
def spawnLauncher (cmdline : List String) (console title : String) : Handler PUnit := do
  attemptCall request outcomes.createServer
  if console = "internalConsole" then attemptCall request outcomes.popen
  else do
    requireRunInTerminal request
    let _ ← channelRequest request .ide "runInTerminal"
      (.dict [("kind", .str (kindOfConsole console)), ("title", .str title),
        ("args", .list (cmdline.map Json.str)), ("env", outcomes.env)]) outcomes.runInTerminal
  attemptCall request outcomes.accept
  pyAssert request (!(← get).launcher)
  modify fun s => { s with launcher := true }

/-- The arguments that the launcher gets. -/
def launcherArguments (noDebug : Bool) : Json :=
  if noDebug then .dict (startItems request)
  else .dict (Dict.set (Dict.set (startItems request) "port" (.int setup.serverPort))
    "clientAccessToken" (setup.tokens.adapter.elim Json.null Json.str))

/-- `launchers.spawn_debuggee`. -/
def spawnDebuggee (useSudo : Bool) (args : List String) (console title : String) :
    Handler PUnit := do
  let cmdline :=
    (if useSudo then ["sudo"] else []) ++ [setup.executable, setup.launcherDir] ++ args
  let noDebug := (← get).noDebug
  spawnLauncher request outcomes cmdline console title
  let _ ← propagating request (channelRequest request .launcher request.command
    (launcherArguments setup request noDebug) outcomes.launcher)
  if noDebug then pure ⟨⟩
  else if !outcomes.process then
    raiseCantHandle request
      "Session-1 timed out waiting for \"process\" event from Launcher[1]"
  else do
    match ← waitForConnection outcomes (fun _ => true) (some 10) with
    | none => raiseCantHandle request "Session-1 timed out waiting for debuggee to spawn"
    | some conn => attachToSession setup request conn

/-- The body of `IDE.launch_request`. -/
def launch (debugOptions : List String) : Handler PUnit := do
  if setup.sessionId ≠ 1 ∨ (← get).connections ≠ [] then
    raiseCantHandle request "\"attach\" expected"
  else do
    let useSudo ← readSudo setup request debugOptions
    let args ← readArgs request
    let console ← parse request (request.call "console"
      (enum ["internalConsole", "integratedTerminal", "externalTerminal"] true))
    let title ← parse request (request.call "consoleTitle"
      (.default (.str "Python Debug Console")))
    spawnDebuggee setup request outcomes useSudo args console.toText title.toText

/-- `IDE.launch_request`. -/
def launchRequest (cause : MessageId) : Handler Value :=
  startMessageHandler setup request outcomes (launch setup request outcomes) cause

/-- Which connection "attach" is for, and how long to wait for it. -/
structure Target where
  pred : Connection → Bool
  timeout : Option ℕ
  /-- `servers.inject` is to be called. -/
  inject : Option (ℤ × List String)
  /-- `sub_pid`. -/
  subPid : Property

/-- `json.of_type((int, unicode), optional=True)`: the types are in a tuple. -/
def processIdType : Validator :=
  .ofClassInfo [.tuple [.cls PyType.int.toClass, .cls PyType.unicode.toClass]] true

/-- The arguments of "attach" that say what to attach to. -/
def attachTarget : Except PyError Target := do
  let pid ← request.call "processId" processIdType
  let subPid ← request.call "subProcessId" (ofType [.int] true)
  match pid with
  | some value =>
      if subPid.isSome then
        .error (.invalidMessage
          "\"processId\" and \"subProcessId\" are mutually exclusive" (some request.id))
      else
        let parsed := match value with
          | .str text => setup.int text
          | value => some (Property.toInt (some value))
        match parsed with
        | none => .error (.invalidMessage "\"processId\" must be parseable as int"
            (some request.id))
        | some pid => do
            let args ← request.call "ptvsdArgs" .texts
            return ⟨fun conn => conn.pid = pid, some 10, some (pid, args.toTexts), subPid⟩
  | none =>
      match subPid with
      | some value => return ⟨fun conn => conn.pid = Property.toInt (some value), some 0, none,
          subPid⟩
      | none => do
          -- the default value `False` means that the property is not validated at all
          let waitForAttach ← request.call "waitForAttach" Except.ok
          return ⟨fun _ => true, if waitForAttach.truth then none else some 10, none, subPid⟩

/-- `str(sub_pid)`. -/
def Target.subPidText (target : Target) : String :=
  match target.subPid with
  | some (.bool b) => if b then "True" else "False"
  | some value => toString (Property.toInt (some value))
  | none => "()"

/-- The reason that there is no connection. -/
def Target.notFound (target : Target) : String :=
  if target.timeout.any (· ≠ 0) then "Timed out waiting for debug server to connect."
  else if target.subPid.isNone then "There is no debug server connected to this adapter."
  else "No known subprocess with \"subProcessId\":" ++ target.subPidText

/-- `servers.inject`. -/
def injectServer (target : Target) : Handler PUnit :=
  match target.inject, outcomes.inject with
  | some (pid, _), some exc => raise request (.handlingError .messageHandlingError
      ("Failed to inject debug server into process with PID=" ++ toString pid ++ ": " ++ exc)
      none)
  | _, _ => pure ⟨⟩

/-- `str(conn)`. -/
def Connection.str (conn : Connection) : String := "Server[pid=" ++ toString conn.pid ++ "]"

/-- `attach_to_session` in `attach_request`, with its `except` clause. -/
def tryAttach (conn : Connection) : Handler PUnit :=
  tryCatch (attachToSession setup request conn) fun id => do
    match ((← get).view request.id).exception? id with
    | some (.other "ValueError") => do
        -- what `cant_handle()` returns is not raised
        let _ ← on request.id (cantHandle request.toIncomingRequest
          (conn.str ++ " is already being debugged."))
        return ⟨⟩
    | _ => throw id

/-- The body of `IDE.attach_request`. -/
def attach : Handler PUnit := do
  if (← get).noDebug then raiseIsntValid request "\"noDebug\" is not supported for \"attach\""
  else do
    let target ← parse request (attachTarget setup request)
    injectServer request outcomes target
    match ← waitForConnection outcomes target.pred target.timeout with
    | none => raiseCantHandle request target.notFound
    | some conn => tryAttach setup request conn

/-- `IDE.attach_request`. -/
def attachRequest (cause : MessageId) : Handler Value :=
  startMessageHandler setup request outcomes (fun _ => attach setup request outcomes) cause

/-! ### `configurationDone_request` -/

/-- `fmt(format_string)` without arguments, or `none` if it raises. -/
def formatChars : List Char → Option (List Char)
  | [] => some []
  | '{' :: '{' :: cs => (formatChars cs).map ('{' :: ·)
  | '}' :: '}' :: cs => (formatChars cs).map ('}' :: ·)
  | '{' :: _ => none
  | '}' :: _ => none
  | c :: cs => (formatChars cs).map (c :: ·)

/-- The "ptvsd_attach" event that `notify_of_subprocess` sends. -/
def attachEvent (arguments : List (String × Json)) (conn : Connection) : Event :=
  let body := Dict.set arguments "name" (.str ("Subprocess " ++ toString conn.pid))
  let body := Dict.set body "request" (.str "attach")
  let body := if Dict.has body "host" then body else Dict.set body "host" (.str "127.0.0.1")
  let body := if Dict.has body "port" then body else Dict.set body "port" (.int setup.idePort)
  let body := Dict.del body "processId"
  ⟨"ptvsd_attach", .dict (Dict.set body "subProcessId" (.int conn.pid))⟩

/-- `IDE.notify_of_subprocess`. -/
def notifyOfSubprocess (conn : Connection) : Handler PUnit := do
  let s ← get
  match s.startRequest with
  | none => pure ⟨⟩
  | some start =>
      if conn.id ∈ s.knownSubprocesses ∨ start.contains "processId" then pure ⟨⟩
      else do
        modify fun s => { s with knownSubprocesses := conn.id :: s.knownSubprocesses }
        sendEvent request (attachEvent setup start.items conn)

/-- The loop at the end of `configurationDone_request`. -/
def notifyOfSubprocesses : List Connection → Handler PUnit
  | [] => pure ⟨⟩
  | conn :: conns => do
      if conn.server = none ∧ conn.ppid = (← get).pid then notifyOfSubprocess setup request conn
      notifyOfSubprocesses conns

/-- `self.start_request.cant_handle(str(exc))`. -/
def failStart (reason : String) : Handler PUnit := do
  match (← get).startRequest with
  | none => raise request (.other "'NoneType' object has no attribute 'cant_handle'")
  | some start =>
      match formatChars reason.toList with
      | none => raise request (.other "fmt")
      | some reason => do
          let _ ← on start.id (cantHandle start.toIncomingRequest (String.ofList reason))
          return ⟨⟩

/-- `self.start_request.respond({})`. -/
def respondToStart : Handler PUnit := do
  match (← get).startRequest with
  | none => raise request (.other "'NoneType' object has no attribute 'respond'")
  | some start => do
      let body ← on request.id (new (.payload (.dict [])))
      on start.id (respond start.toIncomingRequest (.object body))

/-- The early rejection: what `cant_handle()` returns is not raised. -/
def rejectEarly : Handler PUnit := do
  let s ← get
  if s.startRequest.isNone || s.hasStarted then do
    let _ ← on request.id (cantHandle request.toIncomingRequest
      ("\"configurationDone\" is only allowed during handling of a \"launch\" or an " ++
        "\"attach\" request"))
    return ⟨⟩
  else return ⟨⟩

/-- The `try` block, with its `except` clause. -/
def configure (answer : Answer) : Handler PUnit :=
  tryCatch (do
    modify fun s => { s with hasStarted := true }
    let body ← delegate request .server answer
    let body ← on request.id (new (.payload body))
    on request.id (respond request.toIncomingRequest (.object body))) fun id => do
      match ((← get).view request.id).exception? id with
      | some (.handlingError type reason cause) =>
          failStart request (PyException.handlingError type reason cause).str
      | _ => throw id

/-- The `finally` block. -/
def finishConfiguration : Handler PUnit := do
  respondToStart request
  propagateDeferredEvents request

/-- `IDE.configurationDone_request`. -/
def configurationDoneRequest (answer : Answer) : Handler Value := do
  rejectEarly request
  Program.tryFinally (configure request answer) (finishConfiguration request)
  notifyOfSubprocesses setup request (← get).connections
  return .none

/-! ### The message loop -/

/-- `IDE.request`, for the requests that have no handler of their own. -/
def genericRequest (answer : Answer) : Handler Value := do
  let body ← delegate request .server answer
  return .object (← on request.id (new (.payload body)))

/-- `_get_handler_for` and its handler. -/
def handler (answer : Answer) (cause : MessageId) : Handler Value :=
  if request.command = "initialize" then initializeRequest request
  else if request.command = "launch" then launchRequest setup request outcomes cause
  else if request.command = "attach" then attachRequest setup request outcomes cause
  else if request.command = "configurationDone" then
    configurationDoneRequest setup request answer
  else genericRequest request answer

/-- What the wrapper of the handler, `Request._handle` and `_run_handlers` do with the outcome
of a handler. -/
def settle (request : IncomingRequest) (outcome : Except ObjectId Value) (w : World) : World :=
  runHandler (handle request (messageHandler request (Program.ofOutcome outcome))) w

/-- A request is handled. -/
def dispatch (f : Handler Value) (s : State) : State :=
  let (outcome, s') := f.exec s
  s'.update request.id (settle request.toIncomingRequest outcome (s'.view request.id))

/-- What happens to the session. -/
inductive Action where
  /-- A request of the IDE is handled; `cause` is a request of the adapter itself. -/
  | request (request : Request) (answer : Answer) (outcomes : Outcomes) (cause : MessageId)
  /-- An event of the launcher or the debug server is propagated, if it is after the start. -/
  | event (request : Request) (event : Event)
  /-- Other threads change the list of connections. -/
  | connections (connections : List Connection)

/-- Requests with handlers that are left out here. -/
def otherCommands : List String :=
  ["pause", "continue", "ptvsd_systemInfo", "terminate", "disconnect"]

/-- The request that is being handled is the next one. -/
def enabled (s : State) : Action → Bool
  | .request request _ _ _ =>
      !s.exited && request.id = s.received && request.command ∉ otherCommands
  | .event _ _ => !s.exited
  | .connections _ => !s.exited

/-- The state after an action. -/
def next (s : State) : Action → State
  | .request request answer outcomes cause =>
      dispatch request (handler setup request outcomes answer cause)
        { s with received := s.received + 1 }
  | .event request event => ((propagateAfterStart request event).exec s).2
  | .connections connections => { s with connections := connections }

/-- The session that was just created for an IDE. -/
def initial : State where
  objects := []
  responses _ := none
  closed := false
  seqIter := 1
  written := []
  events := []
  exited := false
  received := 0
  clientId := none
  capabilities := []
  expectations := []
  initializeRequest := none
  startRequest := none
  hasStarted := false
  deferredEvents := some []
  knownSubprocesses := []
  noDebug := false
  debugOptions := []
  launcher := false
  server := none
  pid := none
  connections := []
  sent := []

/-- **The runs of an IDE component.** -/
def ide : Machine State Action where
  start s := s = initial
  step s a := if enabled s a then some (next setup s a) else none

end IDE

end Ptvsd
