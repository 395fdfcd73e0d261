import Ptvsd.IDERuns
import Ptvsd.LaunchAcceptance

/-!
# Default Properties of a Launch Request

Both the adapter and the launcher read a launch request, each with its own validators and its
own defaults.

## Main results

* `default_iff`: leaving a property out is the same as specifying its default, **except for the
  console and the interpreter**: without the console, the launcher must be told whether to
  redirect the output, and it accepts nothing without the interpreter.
-/

namespace Ptvsd

/-- A request with one more property. -/
def Request.specify (request : Request) (key : String) (value : Json) : Request :=
  { request with arguments := .dict (request.items ++ [(key, value)]) }

/-! ### Defaults -/

/-- The properties that the adapter or the launcher has a default for. -/
inductive Default where
  | console
  | python
  | pythonPath
  | noDebug
  | args
  | env
  | ptvsdArgs
  | debugOptions
  deriving DecidableEq

namespace Default

/-- The name of the property. -/
def key : Default → String
  | console => "console"
  | python => "python"
  | pythonPath => "pythonPath"
  | noDebug => "noDebug"
  | args => "args"
  | env => "env"
  | ptvsdArgs => "ptvsdArgs"
  | debugOptions => "debugOptions"

/-- The ways of specifying the default. -/
def values (system : Launcher.System) : Default → List Json
  | console => [.str "internalConsole"]
  | python => [.str system.executable, .list [.str system.executable]]
  | pythonPath => [.str system.executable, .list [.str system.executable]]
  | noDebug => [.bool false]
  | args => [.list []]
  | env => [.dict []]
  | ptvsdArgs => [.list []]
  | debugOptions => [.list []]

/-- The request leaves the property out; the interpreter can be specified in two ways. -/
def LeftOut (d : Default) (request : Request) : Prop :=
  match d with
  | python => Launcher.get request "python" = none ∧ Launcher.get request "pythonPath" = none
  | pythonPath => Launcher.get request "python" = none ∧ Launcher.get request "pythonPath" = none
  | d => Launcher.get request d.key = none

variable {system : Launcher.System} {request : Request} {d : Default} {value : Json}

/-- A property that is left out is not found. -/
theorem LeftOut.get_key (h : d.LeftOut request) : Launcher.get request d.key = none := by
  cases d with
  | python => exact h.1
  | pythonPath => exact h.2
  | _ => exact h

end Default

section Specify

variable {request : Request} {d : Default} {value : Json} {key : String} {validate : Validator}

/-- Only the property that was specified is found now. -/
theorem Launcher.get_specify (hleft : d.LeftOut request) :
    Launcher.get (request.specify d.key value) key =
      if key = d.key then some value else Launcher.get request key := by
  have hnone := hleft.get_key
  change (request.items ++ [(d.key, value)]).lookup key = _
  change request.items.lookup d.key = none at hnone
  rw [List.lookup_append]
  split_ifs with hkey
  · simp [hkey, hnone]
  · have hne : (key == d.key) = false := by simpa using hkey
    simp [List.lookup_cons, hne, Launcher.get]

/-- A property is read alike if the validator does the same. -/
theorem Launcher.call_congr {request' : Request} (hid : request'.id = request.id)
    (hargs : request.HasArguments) (hargs' : request'.HasArguments)
    (h : validate (get request' key) = validate (get request key)) :
    request'.call key validate = request.call key validate := by
  obtain ⟨items, hitems⟩ := hargs
  obtain ⟨items', hitems'⟩ := hargs'
  simp only [get, Request.items, hitems, hitems'] at h
  simp only [Request.call, hitems, hitems', MessageDict.call, MessageDict.get, h, hid,
    MessageDict.isntValid]

/-- A property is read alike, whether or not the default is specified. -/
theorem call_specify (hargs : request.HasArguments) (hleft : d.LeftOut request)
    (h : key = d.key → validate (some value) = validate none) :
    (request.specify d.key value).call key validate = request.call key validate := by
  refine Launcher.call_congr (by rfl) hargs ⟨_, rfl⟩ ?_
  rw [Launcher.get_specify hleft]
  split_ifs with hkey
  · rw [h hkey, hkey, hleft.get_key]
  · rfl

/-- The other properties are there as before. -/
theorem contains_specify (hleft : d.LeftOut request) (h : key ≠ d.key) :
    (request.specify d.key value).contains key = request.contains key := by
  rw [Launcher.contains_eq, Launcher.contains_eq, Launcher.get_specify hleft, if_neg h]

end Specify

namespace IDE

open Program

/-! ### Two runs of the adapter -/

/-- What is sent to another process, up to the arguments of a request that is passed on. -/
def Outgoing.shape (o : Outgoing) : MessageId × Receiver × String × Option Json :=
  (o.origin.id, o.receiver, o.command,
    if o.receiver ≠ .ide ∧ o.command = o.origin.command then none else some o.arguments)

/-- The states of two sessions that only differ in the arguments that are passed on. -/
structure State.Like (s t : State) : Prop where
  rest : t = { s with startRequest := t.startRequest, sent := t.sent }
  startRequest : s.startRequest.map (·.id) = t.startRequest.map (·.id)
  sent : s.sent.map Outgoing.shape = t.sent.map Outgoing.shape

variable {setup : Setup} {request : Request} {arguments : Json} {outcomes : Outcomes} {α : Type}

/-- A state is like itself. -/
theorem State.Like.refl (s : State) : s.Like s := ⟨rfl, rfl, rfl⟩

/-- Every request is in the same world. -/
theorem State.Like.view {s t : State} (h : s.Like t) (id : MessageId) : t.view id = s.view id := by
  rw [h.rest]
  rfl

/-- What is done to a request is the same. -/
theorem alike_on {id : MessageId} {x : Python α} : Alike State.Like (on id x) (on id x) := by
  intro s t h
  have hexec : ∀ s : State, exec (on id x) s =
      ((x.exec (s.view id)).1, s.update id (x.exec (s.view id)).2) := fun _ => rfl
  rw [hexec, hexec, h.view]
  refine ⟨rfl, ?_, h.startRequest, h.sent⟩
  conv_lhs => rw [h.rest]
  rfl

/-- A change that reads and leaves alone what may differ. -/
theorem alike_modify_rest {m : State → State}
    (hm : ∀ s start sent, m { s with startRequest := start, sent := sent } =
      { m s with startRequest := start, sent := sent }) :
    Alike State.Like (modify m : Handler PUnit) (modify m) := by
  refine alike_modify fun s t h => ?_
  have hs := hm s s.startRequest s.sent
  have ht := hm s t.startRequest t.sent
  rw [← h.rest] at ht
  rw [ht]
  refine ⟨rfl, ?_, ?_⟩
  · rw [hs]
    exact h.startRequest
  · rw [hs]
    exact h.sent

/-- Reading what cannot differ. -/
theorem alike_get_rest {f g : State → Handler α}
    (h : ∀ s start sent,
      Alike State.Like (f s) (g { s with startRequest := start, sent := sent })) :
    Alike State.Like (get >>= f) (get >>= g) := by
  refine alike_get_bind fun s t hst => ?_
  rw [hst.rest]
  exact h s _ _

/-- What was looked up is looked up. -/
theorem alike_parse {x : Except PyError α} :
    Alike State.Like (parse request x) (parse { request with arguments := arguments } x) := by
  unfold parse
  split
  · exact alike_pure
  · exact Alike.bind alike_on fun _ => alike_throw
  · exact alike_on

/-- A request to another component, which may forward the arguments. -/
theorem alike_channelRequest {receiver : Receiver} {command : String} {body body' : Json}
    {answer : Answer} (hbody : body = body' ∨ receiver ≠ .ide ∧ command = request.command) :
    Alike State.Like (channelRequest request receiver command body answer)
      (channelRequest { request with arguments := arguments } receiver command body' answer) := by
  refine alike_get_rest fun s start sent => ?_
  split_ifs with hserver hlauncher
  · exact alike_on
  · exact alike_on
  · refine Alike.bind (alike_modify fun s t h => ⟨?_, h.startRequest, ?_⟩) fun _ => ?_
    · conv_lhs => rw [h.rest]
    · simp only [List.map_append, List.map_cons, List.map_nil, h.sent]
      rcases hbody with rfl | ⟨hreceiver, hcommand⟩
      · rfl
      · simp [Outgoing.shape, hreceiver, hcommand]
    · cases answer with
      | success body => exact alike_pure
      | failure type reason cause => exact alike_on
      | disconnect text streamName => exact alike_on
      | ioError text streamName => exact alike_on

/-- An error is propagated in the same way. -/
theorem alike_propagating {x y : Handler α} (h : Alike State.Like x y) :
    Alike State.Like (propagating request x)
      (propagating { request with arguments := arguments } y) := by
  refine h.tryCatch fun id => alike_get_bind fun s t hst => ?_
  dsimp only
  rw [hst.view]
  split
  · exact alike_on
  · exact alike_throw

/-- An event does not show the arguments. -/
theorem alike_sendEvent {event : Event} : Alike State.Like (sendEvent request event)
    (sendEvent { request with arguments := arguments } event) := by
  refine alike_get_rest fun s start sent => ?_
  refine Alike.bind (alike_modify_rest fun _ _ _ => rfl) fun _ => ?_
  change Alike State.Like (if s.closed = true then _ else _) (if s.closed = true then _ else _)
  split_ifs
  · exact alike_on
  · exact alike_modify_rest fun _ _ _ => rfl

/-- Several events do not show the arguments. -/
theorem alike_sendEvents (events : List Event) : Alike State.Like (sendEvents request events)
    (sendEvents { request with arguments := arguments } events) := by
  induction events with
  | nil => exact alike_pure
  | cons event events ih => exact alike_sendEvent.bind fun _ => ih

/-- The events that were put off do not show the arguments. -/
theorem alike_propagateDeferredEvents : Alike State.Like (propagateDeferredEvents request)
    (propagateDeferredEvents { request with arguments := arguments }) := by
  refine alike_get_rest fun s start sent => ?_
  dsimp only
  split
  · exact (alike_sendEvents _).bind fun _ => alike_modify_rest fun _ _ _ => rfl
  · exact alike_on

/-- A call that may raise does not depend on the arguments. -/
theorem alike_attemptCall {exc : Option String} : Alike State.Like (attemptCall request exc)
    (attemptCall { request with arguments := arguments } exc) := by
  cases exc with
  | none => exact alike_pure
  | some text => exact alike_on

/-- To wait for a connection does not depend on the arguments. -/
theorem alike_waitForConnection {pred : Connection → Bool} {timeout : Option ℕ} :
    Alike State.Like (waitForConnection outcomes pred timeout)
      (waitForConnection outcomes pred timeout) := by
  refine alike_get_rest fun s start sent => ?_
  exact Alike.bind (alike_modify_rest fun _ _ _ => rfl) fun _ => alike_pure

/-- To attach a server to the session does not depend on the arguments. -/
theorem alike_attachToSession {conn : Connection} :
    Alike State.Like (attachToSession setup request conn)
      (attachToSession setup { request with arguments := arguments } conn) := by
  unfold attachToSession
  split_ifs
  · exact alike_on
  · refine alike_get_rest fun s start sent => ?_
    refine Alike.bind alike_on fun _ => Alike.bind alike_on fun _ => ?_
    exact alike_modify_rest fun _ _ _ => rfl

/-- The authentication of a server does not depend on the arguments. -/
theorem alike_authenticate {cause : MessageId} :
    Alike State.Like (authenticate setup request outcomes cause)
      (authenticate setup { request with arguments := arguments } outcomes cause) := by
  unfold authenticate
  split_ifs
  · refine (alike_channelRequest (.inl rfl)).bind fun auth => ?_
    cases auth with
    | dict items =>
        dsimp only
        cases items.lookup "clientAccessToken" with
        | none => exact alike_on
        | some token =>
            dsimp only
            split_ifs
            · exact alike_pure
            · exact alike_on
    | _ => exact alike_on
  · exact alike_pure

/-- The initialization of a server does not depend on the arguments. -/
theorem alike_serverInitialize {initRequest : Request} {cause : MessageId} :
    Alike State.Like (serverInitialize setup request outcomes initRequest cause)
      (serverInitialize setup { request with arguments := arguments } outcomes initRequest
        cause) := by
  refine Alike.bind alike_on fun _ => alike_authenticate.bind fun _ =>
    (alike_channelRequest (.inl rfl)).bind fun body => ?_
  cases body with
  | dict payload =>
      dsimp only
      cases Ptvsd.capabilities serverCapabilities payload with
      | ok flags => exact alike_pure
      | error reason => exact alike_on
  | _ => exact alike_on

/-- The server is told the arguments, and answers as before. -/
theorem alike_startServer {initRequest : Request} {debugOptions : List String}
    {cause : MessageId} :
    Alike State.Like (startServer setup request outcomes initRequest debugOptions cause)
      (startServer setup { request with arguments := arguments } outcomes initRequest debugOptions
        cause) := by
  refine alike_get_rest fun s start sent => ?_
  change Alike State.Like (if s.server.isSome = true then _ else _)
    (if s.server.isSome = true then _ else _)
  split_ifs
  · refine alike_serverInitialize.bind fun _ => ?_
    refine Alike.bind (alike_modify_rest fun _ _ _ => rfl) fun _ => ?_
    refine alike_get_bind fun s t hst => ?_
    refine (alike_propagating ?_).bind fun _ => alike_pure
    exact alike_channelRequest (.inr ⟨by decide, rfl⟩)
  · exact alike_pure

/-- The end of a start request does not depend on the arguments. -/
theorem alike_finishStart {debugOptions : List String} :
    Alike State.Like (finishStart setup request outcomes debugOptions)
      (finishStart setup { request with arguments := arguments } outcomes debugOptions) := by
  have hstart : ∀ started : Bool, Alike State.Like
      (modify fun s => { s with startRequest := some request, hasStarted := started } :
        Handler PUnit)
      (modify fun s => { s with
        startRequest := some { request with arguments := arguments }, hasStarted := started }) :=
    fun started => alike_modify fun s t h =>
      ⟨by conv_lhs => rw [h.rest], rfl, h.sent⟩
  refine alike_get_rest fun s start sent => ?_
  change Alike State.Like (if s.noDebug = true then _ else _) (if s.noDebug = true then _ else _)
  split_ifs
  · refine (hstart true).bind fun _ => Alike.bind alike_on fun body => ?_
    exact Alike.bind alike_on fun _ => alike_propagateDeferredEvents.bind fun _ => alike_pure
  · refine (alike_channelRequest (.inl rfl)).bind fun _ => alike_sendEvent.bind fun _ => ?_
    refine Alike.bind (alike_modify fun s t h => ?_) fun _ => alike_pure
    exact ⟨by conv_lhs => rw [h.rest], rfl, h.sent⟩

/-- A launcher is spawned in the same way. -/
theorem alike_spawnLauncher {cmdline : List String} {console title : String} :
    Alike State.Like (spawnLauncher request outcomes cmdline console title)
      (spawnLauncher { request with arguments := arguments } outcomes cmdline console title) := by
  have hrest : Alike State.Like (do
      attemptCall request outcomes.accept
      pyAssert request (!(← get).launcher)
      modify fun s => { s with launcher := true } : Handler PUnit) (do
      attemptCall { request with arguments := arguments } outcomes.accept
      pyAssert { request with arguments := arguments } (!(← get).launcher)
      modify fun s => { s with launcher := true } : Handler PUnit) := by
    refine alike_attemptCall.bind fun _ => alike_get_rest fun s start sent => ?_
    exact Alike.bind alike_on fun _ => alike_modify_rest fun _ _ _ => rfl
  refine alike_attemptCall.bind fun _ => ?_
  split_ifs
  · exact alike_attemptCall.bind fun _ => hrest
  · refine Alike.bind (alike_get_rest fun s start sent => ?_) fun _ =>
      (alike_channelRequest (.inl rfl)).bind fun _ => hrest
    change Alike State.Like (if (s.capabilities.lookup _).any Json.truth = true then _ else _)
      (if (s.capabilities.lookup _).any Json.truth = true then _ else _)
    split_ifs
    · exact alike_pure
    · exact alike_on

/-- The launcher gets the arguments, and answers as before. -/
theorem alike_spawnDebuggee {useSudo : Bool} {args : List String} {console title : String} :
    Alike State.Like (spawnDebuggee setup request outcomes useSudo args console title)
      (spawnDebuggee setup { request with arguments := arguments } outcomes useSudo args console
        title) := by
  refine alike_get_rest fun s start sent => alike_spawnLauncher.bind fun _ => ?_
  refine (alike_propagating (alike_channelRequest (.inr ⟨by decide, rfl⟩))).bind fun _ => ?_
  change Alike State.Like (if s.noDebug = true then _ else _) (if s.noDebug = true then _ else _)
  split_ifs
  · exact alike_pure
  · exact Alike.bind alike_on fun _ => alike_throw
  · refine alike_waitForConnection.bind fun conn => ?_
    cases conn with
    | none => exact Alike.bind alike_on fun _ => alike_throw
    | some conn => exact alike_attachToSession

section Specify

variable {system : Launcher.System} {d : Default} {value : Json} {cause : MessageId}

/-- The checks of the adapter do the same, whether or not the default is specified. -/
theorem alike_readOptions (hargs : request.HasArguments) (hleft : d.LeftOut request)
    (hvalue : value ∈ d.values system) : Alike State.Like (readOptions request)
      (readOptions (request.specify d.key value)) := by
  have hnoDebug : (request.specify d.key value).call "noDebug" (.default (.bool false)) =
      request.call "noDebug" (.default (.bool false)) := by
    refine call_specify hargs hleft fun hkey => ?_
    cases d <;> simp [Default.key] at hkey
    obtain rfl := List.mem_singleton.1 hvalue
    rfl
  have hoptions : (request.specify d.key value).call "debugOptions" .texts =
      request.call "debugOptions" .texts := by
    refine call_specify hargs hleft fun hkey => ?_
    cases d <;> simp [Default.key] at hkey
    obtain rfl := List.mem_singleton.1 hvalue
    rfl
  unfold readOptions
  rw [hnoDebug, hoptions]
  refine alike_parse.bind fun noDebug => Alike.bind (alike_modify_rest fun _ _ _ => rfl) fun _ => ?_
  exact alike_parse.bind fun options =>
    Alike.bind (alike_modify_rest fun _ _ _ => rfl) fun _ => alike_pure

/-- The default is that of the property. -/
theorem alike_readSudo (hargs : request.HasArguments) (hleft : d.LeftOut request)
    {debugOptions : List String} : Alike State.Like (readSudo setup request debugOptions)
      (readSudo setup (request.specify d.key value) debugOptions) := by
  unfold readSudo
  rw [call_specify hargs hleft fun hkey => by cases d <;> simp [Default.key] at hkey]
  refine alike_parse.bind fun useSudo => ?_
  split_ifs
  · exact Alike.bind alike_on fun _ => alike_throw
  · exact alike_pure
  · exact Alike.bind alike_on fun _ => alike_throw
  · exact alike_pure

/-- No target has a default. -/
theorem alike_readTarget (hargs : request.HasArguments) (hleft : d.LeftOut request) :
    Alike State.Like (readTarget request) (readTarget (request.specify d.key value)) := by
  have hkey : ∀ key ∈ Launcher.targetKeys, key ≠ d.key := by
    cases d <;> decide
  have hcontains : ∀ key ∈ Launcher.targetKeys,
      (request.specify d.key value).contains key = request.contains key :=
    fun key hmem => contains_specify hleft (hkey key hmem)
  have hcall : ∀ key ∈ Launcher.targetKeys,
      (request.specify d.key value).call key .someTexts = request.call key .someTexts :=
    fun key hmem => call_specify hargs hleft fun h => absurd h (hkey key hmem)
  simp only [Launcher.targetKeys, List.forall_mem_cons] at hcontains hcall
  unfold readTarget
  rw [hcontains.1, hcontains.2.1, hcontains.2.2.1, hcall.1, hcall.2.1, hcall.2.2.1]
  split_ifs
  · exact alike_parse.bind fun _ => alike_pure
  · exact alike_parse.bind fun _ => alike_pure
  · exact alike_parse.bind fun _ => alike_pure
  · exact alike_pure

/-- No arguments are the default. -/
theorem alike_readArgs (hargs : request.HasArguments) (hleft : d.LeftOut request)
    (hvalue : value ∈ d.values system) : Alike State.Like (readArgs request)
      (readArgs (request.specify d.key value)) := by
  have hcall : (request.specify d.key value).call "args" .texts = request.call "args" .texts := by
    refine call_specify hargs hleft fun hkey => ?_
    cases d <;> simp [Default.key] at hkey
    obtain rfl := List.mem_singleton.1 hvalue
    rfl
  unfold readArgs
  rw [hcall]
  exact (alike_readTarget hargs hleft).bind fun _ => alike_parse.bind fun _ => alike_pure

/-- **The adapter does the same with a launch request that specifies the default**, up to the
arguments that it passes on. -/
theorem alike_launchRequest (hargs : request.HasArguments) (hleft : d.LeftOut request)
    (hvalue : value ∈ d.values system) :
    Alike State.Like (launchRequest setup request outcomes cause)
      (launchRequest setup (request.specify d.key value) outcomes cause) := by
  have hcheck : Alike State.Like (checkState request) (checkState request) := by
    refine Alike.bind alike_on fun _ => alike_get_rest fun s start sent => ?_
    dsimp only
    split
    · exact Alike.bind alike_on fun _ => alike_throw
    · split_ifs
      · exact Alike.bind alike_on fun _ => alike_throw
      · exact alike_pure
  have hlaunch : ∀ debugOptions, Alike State.Like (launch setup request outcomes debugOptions)
      (launch setup (request.specify d.key value) outcomes debugOptions) := by
    intro debugOptions
    have hconsole : (request.specify d.key value).call "console"
        (enum ["internalConsole", "integratedTerminal", "externalTerminal"] true) =
        request.call "console"
          (enum ["internalConsole", "integratedTerminal", "externalTerminal"] true) := by
      refine call_specify hargs hleft fun hkey => ?_
      cases d <;> simp [Default.key] at hkey
      obtain rfl := List.mem_singleton.1 hvalue
      rfl
    have htitle : (request.specify d.key value).call "consoleTitle"
        (.default (.str "Python Debug Console")) =
        request.call "consoleTitle" (.default (.str "Python Debug Console")) :=
      call_specify hargs hleft fun hkey => by cases d <;> simp [Default.key] at hkey
    unfold launch
    rw [hconsole, htitle]
    refine alike_get_rest fun s start sent => ?_
    change Alike State.Like (if setup.sessionId ≠ 1 ∨ s.connections ≠ [] then _ else _)
      (if setup.sessionId ≠ 1 ∨ s.connections ≠ [] then _ else _)
    split_ifs
    · exact Alike.bind alike_on fun _ => alike_throw
    · refine (alike_readSudo hargs hleft).bind fun useSudo => ?_
      refine (alike_readArgs hargs hleft hvalue).bind fun args => ?_
      exact alike_parse.bind fun console => alike_parse.bind fun title => alike_spawnDebuggee
  refine hcheck.bind fun initRequest => ?_
  refine (alike_readOptions hargs hleft hvalue).bind fun options => ?_
  exact (hlaunch options).bind fun _ => alike_startServer.bind fun _ => alike_finishStart

end Specify

end IDE

namespace Launcher

open Program

/-! ### Two runs of the launcher -/

/-- What `launch_request` of the launcher reads, apart from the console. -/
def reads : List (String × Validator) :=
  [("debugOptions", .texts), ("sudo", ofType [.bool] true), ("python", .someTexts),
    ("pythonPath", .someTexts), ("noDebug", .default (.bool false)),
    ("port", ofType [.int] false), ("clientAccessToken", ofType [.unicode] true),
    ("ptvsdArgs", .texts), ("program", .someTexts), ("module", .someTexts), ("code", .someTexts),
    ("args", .texts), ("cwd", ofType [.unicode] true),
    ("env", .object (ofType [.unicode] false)), ("gevent", Except.ok),
    ("redirectOutput", ofType [.bool] true), ("waitOnNormalExit", ofType [.bool] true),
    ("waitOnAbnormalExit", ofType [.bool] true)]

/-- The properties that it looks for. -/
def lookedFor : List String := ["python", "pythonPath", "program", "module", "code"]

variable {system : System} {request request' : Request}

/-- The launcher does the same with requests that it reads alike. -/
theorem launchRequest_congr (hid : request'.id = request.id)
    (hcall : ∀ p ∈ reads, request'.call p.1 p.2 = request.call p.1 p.2)
    (hcontains : ∀ key ∈ lookedFor, request'.contains key = request.contains key)
    (hredirect : ∀ options, request.call "debugOptions" .texts = .ok options →
      readRedirectOutput request' options.toTexts = readRedirectOutput request options.toTexts) :
    launchRequest system request' = launchRequest system request := by
  simp only [reads, lookedFor, List.forall_mem_cons] at hcall hcontains
  obtain ⟨hoptions, hsudo, hpython, hpath, hnoDebug, hport, htoken, hptvsdArgs, hprogram, hmodule,
    hcode, hargs, hcwd, henv, hgevent, -, hnormal, habnormal, -⟩ := hcall
  obtain ⟨hpython', hpath', hprogram', hmodule', hcode', -⟩ := hcontains
  have hkey : pythonKey request' = pythonKey request := by
    simp only [pythonKey, hpython', hpath', isntValid, hid]
  have hpythonRead : readPython system request' = readPython system request := by
    rw [readPython, readPython, hkey]
    cases h : pythonKey request with
    | error e => rfl
    | ok key =>
        have hcase : key = "python" ∨ key = "pythonPath" := by
          simp only [pythonKey] at h
          split_ifs at h
          · cases h
          · exact .inl (pure_eq_ok_iff.1 h).symm
          · exact .inr (pure_eq_ok_iff.1 h).symm
          · exact .inl (pure_eq_ok_iff.1 h).symm
        rcases hcase with rfl | rfl
        · simp only [bind, Except.bind, hpython]
        · simp only [bind, Except.bind, hpath]
  have hsudoRead : ∀ options, readSudo system request' options = readSudo system request options :=
    fun options => by simp only [readSudo, propertyOrDebugOption, hsudo, isntValid, cantHandle, hid]
  have hserverRead : readServer system request' = readServer system request := by
    simp only [readServer, hnoDebug, hport, htoken, hptvsdArgs]
  have htargetsRead : readTargets request' = readTargets request := by
    simp only [readTargets, readTexts, hprogram', hmodule', hcode', hprogram, hmodule, hcode,
      isntValid, hid]
  have hcwdRead : ∀ program, readCwd system request' program = readCwd system request program :=
    fun program => by rw [readCwd, readCwd, hcwd]
  have henvRead : readEnv system request' = readEnv system request := by
    simp only [readEnv, henv, hgevent]
  have hnormalRead : ∀ options predicate,
      appendPredicate request' options "waitOnNormalExit" "WaitOnNormalExit" predicate =
        appendPredicate request options "waitOnNormalExit" "WaitOnNormalExit" predicate :=
    fun options predicate => by
      simp only [appendPredicate, readPredicate, propertyOrDebugOption, hnormal, isntValid, hid]
  have habnormalRead : ∀ options predicate,
      appendPredicate request' options "waitOnAbnormalExit" "WaitOnAbnormalExit" predicate =
        appendPredicate request options "waitOnAbnormalExit" "WaitOnAbnormalExit" predicate :=
    fun options predicate => by
      simp only [appendPredicate, readPredicate, propertyOrDebugOption, habnormal, isntValid, hid]
  unfold launchRequest
  simp only [hoptions, hpythonRead, hsudoRead, hserverRead, htargetsRead, hargs, hcwdRead, henvRead,
    hnormalRead, habnormalRead]
  exact ofOutcome_bind_congr fun options h => by rw [hredirect options h]

/-- The request with the default specified, as the launcher sees it. -/
structure Specifies (d : Default) (value : Json) (request request' : Request) : Prop where
  id : request'.id = request.id
  arguments : request.HasArguments
  arguments' : request'.HasArguments
  leftOut : d.LeftOut request
  get : ∀ key, get request' key = if key = d.key then some value else get request key

variable {d : Default} {value : Json} {predicates : List (ℤ → Bool)}

/-- A property is read alike, if its validator takes the default for a missing one. -/
theorem Specifies.call (h : Specifies d value request request') {key : String}
    {validate : Validator} (hkey : key = d.key → validate (some value) = validate none) :
    request'.call key validate = request.call key validate := by
  refine call_congr h.id h.arguments h.arguments' ?_
  rw [h.get]
  split_ifs with heq
  · rw [hkey heq, heq, h.leftOut.get_key]
  · rfl

/-- The other properties are there as before. -/
theorem Specifies.contains (h : Specifies d value request request') {key : String}
    (hkey : key ≠ d.key) : request'.contains key = request.contains key := by
  rw [contains_eq, contains_eq, h.get, if_neg hkey]

/-- It is the console only that decides where the output goes. -/
theorem Specifies.readRedirectOutput (h : Specifies d value request request')
    (hd : d ≠ .console) (debugOptions : List String) :
    readRedirectOutput request' debugOptions = readRedirectOutput request debugOptions := by
  have hflag : request'.call "redirectOutput" (ofType [.bool] true) =
      request.call "redirectOutput" (ofType [.bool] true) :=
    h.call fun hkey => by cases d <;> simp [Default.key] at hkey
  have hconsole : request'.call "console" (ofType [.unicode] false) =
      request.call "console" (ofType [.unicode] false) :=
    h.call fun hkey => by cases d <;> simp [Default.key] at hkey hd
  simp only [Launcher.readRedirectOutput, propertyOrDebugOption, hflag, hconsole, isntValid, h.id]

/-- The other properties are read alike. -/
theorem Specifies.launchRequest_eq (h : Specifies d value request request')
    (hneutral : ∀ p ∈ reads, p.1 = d.key → p.2 (some value) = p.2 none)
    (hkey : d.key ∉ lookedFor)
    (hredirect : ∀ options, request.call "debugOptions" .texts = .ok options →
      Launcher.readRedirectOutput request' options.toTexts =
        Launcher.readRedirectOutput request options.toTexts) :
    launchRequest system request' = launchRequest system request :=
  launchRequest_congr h.id (fun p hp => h.call (hneutral p hp))
    (fun _ hmem => h.contains fun heq => hkey (heq ▸ hmem)) hredirect

/-- Most defaults make no difference to the launcher. -/
theorem Specifies.launchRequest_of_neutral (h : Specifies d value request request')
    (hvalue : value ∈ d.values system)
    (hd : d ≠ .console ∧ d ≠ .python ∧ d ≠ .pythonPath) :
    launchRequest system request' = launchRequest system request := by
  refine h.launchRequest_eq ?_ ?_ fun options _ => h.readRedirectOutput hd.1 options.toTexts
  · cases d <;> simp at hd <;> obtain rfl := List.mem_singleton.1 hvalue <;>
      simp only [reads, List.forall_mem_cons, Default.key] <;> simp <;> rfl
  · cases d <;> simp at hd <;> decide

/-- The console makes no difference if it is said whether to redirect the output. -/
theorem Specifies.launchRequest_of_redirectGiven (h : Specifies .console value request request')
    (hgiven : RedirectGiven request) :
    launchRequest system request' = launchRequest system request := by
  refine h.launchRequest_eq (by simp [reads, Default.key]) (by decide) fun options hoptions => ?_
  have hflag : request'.call "redirectOutput" (ofType [.bool] true) =
      request.call "redirectOutput" (ofType [.bool] true) :=
    h.call fun hkey => by simp [Default.key] at hkey
  have hproperty : propertyOrDebugOption request' options.toTexts "redirectOutput"
      "RedirectOutput" =
      propertyOrDebugOption request options.toTexts "redirectOutput" "RedirectOutput" := by
    simp only [propertyOrDebugOption, hflag, isntValid, h.id]
  have hnone : propertyOrDebugOption request options.toTexts "redirectOutput" "RedirectOutput" ≠
      .ok none := by
    rw [toTexts_of_texts (call_eq_ok_iff.1 hoptions).2]
    intro hok
    exact flagValue_eq_none_iff.1 (propertyOrDebugOption_eq_ok_iff.1 hok).2.2 hgiven
  unfold Launcher.readRedirectOutput
  rw [hproperty]
  cases hvalue :
    propertyOrDebugOption request options.toTexts "redirectOutput" "RedirectOutput" with
  | error e => rfl
  | ok value =>
      cases value with
      | none => exact absurd hvalue hnone
      | some value => rfl

/-- There is no value if the outcome is an exception. -/
theorem toOption_eq_none_iff {α : Type} {x : Except PyError α} :
    x.toOption = none ↔ ¬∃ a, x = .ok a := by
  cases x <;> simp [Except.toOption]

/-- A request that is not accepted does as well as one that is not. -/
theorem toOption_eq_iff (h : ¬Acceptable system request) :
    (exec (launchRequest system request) predicates).1.toOption =
        (exec (launchRequest system request') predicates).1.toOption ↔
      ¬Acceptable system request' := by
  rw [toOption_eq_none_iff.2 (mt (launchRequest_ok_iff system request predicates).1 h),
    ← launchRequest_ok_iff system request' predicates, ← toOption_eq_none_iff, eq_comm]

/-- Without the console it must be said whether to redirect the output. -/
theorem Acceptable.redirectGiven (h : Acceptable system request)
    (hconsole : get request "console" = none) : RedirectGiven request := by
  by_contra hgiven
  obtain ⟨value, hvalue⟩ := h.console hgiven
  rw [hconsole] at hvalue
  cases hvalue

/-- Without the interpreter nothing is accepted. -/
theorem Acceptable.python_isSome (h : Acceptable system request)
    (hpython : get request "python" = none ∧ get request "pythonPath" = none) : False := by
  obtain ⟨value, hvalue⟩ := h.python
  rw [hpython.2] at hvalue
  change Validator.someTexts (get request "python") = .ok value at hvalue
  rw [hpython.1] at hvalue
  cases hvalue

/-- The launcher has the default, or does not accept the request with it either. -/
def DefaultHolds (system : System) (d : Default) (request request' : Request) : Prop :=
  match d with
  | .console => RedirectGiven request ∨ ¬Acceptable system request'
  | .python => ¬Acceptable system request'
  | .pythonPath => ¬Acceptable system request'
  | _ => True

/-- **When the launcher does the same with a request that specifies the default.** -/
theorem Specifies.toOption_eq_iff (h : Specifies d value request request')
    (hvalue : value ∈ d.values system) :
    (exec (launchRequest system request) predicates).1.toOption =
        (exec (launchRequest system request') predicates).1.toOption ↔
      DefaultHolds system d request request' := by
  have hleft := h.leftOut
  by_cases hd : d ≠ .console ∧ d ≠ .python ∧ d ≠ .pythonPath
  · rw [h.launchRequest_of_neutral hvalue hd]
    cases d <;> simp at hd <;> simp [DefaultHolds]
  · cases d with
    | console =>
        by_cases hgiven : RedirectGiven request
        · simp [h.launchRequest_of_redirectGiven hgiven, DefaultHolds, hgiven]
        · rw [Launcher.toOption_eq_iff fun hacc => hgiven (hacc.redirectGiven hleft)]
          simp [DefaultHolds, hgiven]
    | python => exact Launcher.toOption_eq_iff fun hacc => hacc.python_isSome hleft
    | pythonPath => exact Launcher.toOption_eq_iff fun hacc => hacc.python_isSome hleft
    | _ => exact absurd (by decide) hd

/-! ### From the adapter to the launcher -/

/-- A launch request of the IDE as the launcher gets it. -/
def forwarded (setup : IDE.Setup) (request : Request) (incoming : IncomingRequest) : Request :=
  ⟨incoming, IDE.launcherArguments setup request (get request "noDebug").toBool⟩

variable {setup : IDE.Setup} {incoming : IncomingRequest}

/-- An entry that is there is replaced. -/
theorem lookup_map_set (items : List (String × Json)) (key key' : String) :
    (items.map fun item => if item.1 == key then (key, value) else item).lookup key' =
      if key' = key then if items.any (·.1 == key) then some value else none
      else items.lookup key' := by
  induction items with
  | nil => simp
  | cons item rest ih =>
      obtain ⟨k, v⟩ := item
      rw [List.map_cons, List.any_cons, List.lookup_cons]
      by_cases hk : k = key
      · subst hk
        simp only [beq_self_eq_true, if_true, Bool.true_or, List.lookup_cons, ih]
        by_cases hkey : key' = k
        · simp [hkey]
        · have hne : (key' == k) = false := by simpa using hkey
          simp only [hne, if_neg hkey]
      · have hne : (k == key) = false := by simpa using hk
        simp only [hne, Bool.false_eq_true, if_false, Bool.false_or, List.lookup_cons, ih]
        by_cases hkey : key' = key
        · have hne' : (key' == k) = false := by simpa [hkey] using Ne.symm hk
          simp only [hne', if_pos hkey]
        · simp only [if_neg hkey]

/-- A property is what it was set to last. -/
theorem lookup_set {items : List (String × Json)} {key key' : String} :
    (Dict.set items key value).lookup key' =
      if key' = key then some value else items.lookup key' := by
  unfold Dict.set
  split_ifs with hany hkey hkey
  · rw [lookup_map_set, if_pos hkey, if_pos hany]
  · rw [lookup_map_set, if_neg hkey]
  · have hnone : items.lookup key = none := by
      have hhas : (items.lookup key).isSome = false := by
        rw [← has_eq, Dict.has, Bool.eq_false_iff]
        exact hany
      simpa using hhas
    rw [List.lookup_append, hkey, hnone]
    simp
  · have hne : (key' == key) = false := by simpa using hkey
    rw [List.lookup_append]
    simp [List.lookup_cons, hne]

/-- The adapter changes the program only. -/
theorem lookup_startItems {key : String} (hkey : key ≠ "program") :
    (IDE.startItems request).lookup key = get request key := by
  unfold IDE.startItems
  split
  · split_ifs
    · rw [lookup_set, if_neg hkey]
      rfl
    · rfl
  · rfl

/-- The arguments are put behind the program, if both are lists. -/
theorem lookup_startItems_program : (IDE.startItems request).lookup "program" =
    match get request "program", get request "args" with
    | some (.list program), some (.list args) =>
        if request.command = "launch" then some (.list (program ++ args))
        else some (.list program)
    | program, _ => program := by
  unfold IDE.startItems
  change (match get request "program", get request "args" with
    | some (.list program), some (.list args) =>
        if request.command = "launch" then
          Dict.set request.items "program" (.list (program ++ args))
        else request.items
    | _, _ => request.items).lookup "program" = _
  have hget : request.items.lookup "program" = get request "program" := rfl
  split
  · next program args hprogram hargs =>
      split_ifs
      · rw [lookup_set, if_pos rfl]
      · rw [hget, hprogram]
  · rfl

/-- The list that the adapter extends is the same without any arguments. -/
theorem lookup_startItems_specify (hleft : d.LeftOut request) (hvalue : value ∈ d.values system)
    (key : String) : (IDE.startItems (request.specify d.key value)).lookup key =
      if key = d.key then some value else (IDE.startItems request).lookup key := by
  by_cases hkey : key = "program"
  · subst hkey
    have hprogram : "program" ≠ d.key := by cases d <;> decide
    rw [lookup_startItems_program, lookup_startItems_program, get_specify hleft, get_specify hleft,
      if_neg hprogram, if_neg hprogram]
    by_cases hargs : "args" = d.key
    · obtain rfl : d = .args := by cases d <;> first | rfl | simp [Default.key] at hargs
      obtain rfl := List.mem_singleton.1 hvalue
      rw [if_pos hargs, show get request "args" = none from hleft]
      cases get request "program" with
      | none => rfl
      | some program =>
          cases program with
          | list program =>
              dsimp only
              rw [List.append_nil, ite_self]
          | _ => rfl
    · rw [if_neg hargs]
      rfl
  · rw [lookup_startItems hkey, lookup_startItems hkey, get_specify hleft]

/-- What the launcher finds in the request that the adapter sends. -/
theorem get_forwarded (key : String) : get (forwarded setup request incoming) key =
    if (get request "noDebug").toBool = false ∧ key = "clientAccessToken" then
      some (setup.tokens.adapter.elim Json.null Json.str)
    else if (get request "noDebug").toBool = false ∧ key = "port" then some (.int setup.serverPort)
    else (IDE.startItems request).lookup key := by
  unfold forwarded IDE.launcherArguments
  cases (get request "noDebug").toBool with
  | true => simp [get, Request.items]
  | false => simp [get, Request.items, lookup_set]

/-- What the launcher gets differs as what the adapter gets. -/
theorem specifies_forwarded (hleft : d.LeftOut request) (hvalue : value ∈ d.values system) :
    Specifies d value (forwarded setup request incoming)
      (forwarded setup (request.specify d.key value) incoming) := by
  have hargs : ∀ request, (forwarded setup request incoming).HasArguments := by
    intro request
    unfold forwarded IDE.launcherArguments
    split_ifs
    · exact ⟨_, rfl⟩
    · exact ⟨_, rfl⟩
  have hkey : d.key ≠ "clientAccessToken" ∧ d.key ≠ "port" ∧ d.key ≠ "program" := by
    cases d <;> decide
  have hsame : ∀ key, key ≠ "clientAccessToken" ∧ key ≠ "port" ∧ key ≠ "program" →
      get (forwarded setup request incoming) key = get request key := by
    rintro key ⟨htoken, hport, hprogram⟩
    rw [get_forwarded, if_neg (fun h => htoken h.2), if_neg (fun h => hport h.2),
      lookup_startItems hprogram]
  have hnoDebug : (get (request.specify d.key value) "noDebug").toBool =
      (get request "noDebug").toBool := by
    rw [get_specify hleft]
    split_ifs with h
    · obtain rfl : d = .noDebug := by cases d <;> first | rfl | simp [Default.key] at h
      obtain rfl := List.mem_singleton.1 hvalue
      rw [show get request "noDebug" = none from hleft]
      rfl
    · rfl
  refine ⟨rfl, hargs _, hargs _, ?_, fun key => ?_⟩
  · cases d with
    | python => exact ⟨by rw [hsame _ (by decide), hleft.1], by rw [hsame _ (by decide), hleft.2]⟩
    | pythonPath =>
        exact ⟨by rw [hsame _ (by decide), hleft.1], by rw [hsame _ (by decide), hleft.2]⟩
    | _ => exact (hsame _ hkey).trans hleft.get_key
  · rw [get_forwarded, get_forwarded, hnoDebug, lookup_startItems_specify hleft hvalue]
    by_cases heq : key = d.key
    · subst heq
      simp [hkey]
    · simp [heq]

/-- **Leaving a property out is the same as specifying its default**, for the adapter always,
and for the launcher exactly where `DefaultHolds`: it needs the console if it is not said
whether to redirect the output, and it needs the interpreter. -/
theorem default_iff (setup : IDE.Setup) (outcomes : IDE.Outcomes) (cause : MessageId)
    (system : System) (request : Request) (incoming : IncomingRequest)
    (predicates : List (ℤ → Bool)) (d : Default) (value : Json) (hargs : request.HasArguments)
    (hleft : d.LeftOut request) (hvalue : value ∈ d.values system) :
    ((∀ s, ((IDE.launchRequest setup request outcomes cause).exec s).1 =
          ((IDE.launchRequest setup (request.specify d.key value) outcomes cause).exec s).1 ∧
        ((IDE.launchRequest setup request outcomes cause).exec s).2.Like
          ((IDE.launchRequest setup (request.specify d.key value) outcomes cause).exec s).2) ∧
      (exec (launchRequest system (forwarded setup request incoming)) predicates).1.toOption =
        (exec (launchRequest system
          (forwarded setup (request.specify d.key value) incoming)) predicates).1.toOption) ↔
      DefaultHolds system d (forwarded setup request incoming)
        (forwarded setup (request.specify d.key value) incoming) := by
  rw [← (specifies_forwarded hleft hvalue).toOption_eq_iff hvalue]
  exact and_iff_right fun s => IDE.alike_launchRequest hargs hleft hvalue s s (.refl s)

/-- The request of the adapter that the launcher answers. -/
def fromAdapter : IncomingRequest where
  id := 0
  seq := 2
  command := "launch"
  description := "request \"launch\""
  streamName := "Adapter-1"
  handlerName := "launch_request"

/-- An adapter with an access token. -/
def tokenSetup : IDE.Setup := { IDE.localSetup with tokens := ⟨none, some "0123"⟩ }

/-- A launch request that says which interpreter runs which program. -/
def programRequest : Request := requestOf [("program", .str "a.py"), ("python", .str "python")]

/-- The launcher accepts this one. -/
def consoleRequest : Request := programRequest.specify "console" (.str "internalConsole")

theorem default_debugOptions :
    (∀ s, ((IDE.launchRequest tokenSetup consoleRequest IDE.quickOutcomes 0).exec s).1 =
          ((IDE.launchRequest tokenSetup (consoleRequest.specify "debugOptions" (.list []))
            IDE.quickOutcomes 0).exec s).1 ∧
        ((IDE.launchRequest tokenSetup consoleRequest IDE.quickOutcomes 0).exec s).2.Like
          ((IDE.launchRequest tokenSetup (consoleRequest.specify "debugOptions" (.list []))
            IDE.quickOutcomes 0).exec s).2) ∧
      (exec (launchRequest linux (forwarded tokenSetup consoleRequest fromAdapter)) []).1.toOption =
        (exec (launchRequest linux (forwarded tokenSetup
          (consoleRequest.specify "debugOptions" (.list [])) fromAdapter)) []).1.toOption :=
  (default_iff tokenSetup IDE.quickOutcomes 0 linux consoleRequest fromAdapter [] .debugOptions
    (.list []) ⟨_, rfl⟩ rfl (by simp [Default.values])).mpr trivial

/-- Without the console, or without the interpreter, the launcher refuses a request that it
accepts with the default. -/
theorem default_console :
    ¬∀ (setup : IDE.Setup) (system : System) (request : Request) (incoming : IncomingRequest)
      (predicates : List (ℤ → Bool)) (d : Default) (value : Json), request.HasArguments →
      d.LeftOut request → value ∈ d.values system →
      (exec (launchRequest system (forwarded setup request incoming)) predicates).1.toOption =
        (exec (launchRequest system
          (forwarded setup (request.specify d.key value) incoming)) predicates).1.toOption := by
  intro h
  have hsame := h tokenSetup linux programRequest fromAdapter [] .console (.str "internalConsole")
    ⟨_, rfl⟩ rfl (by simp [Default.values])
  simp only [launchRequest, outcome_bind_ofOutcome, outcome_bind_append, outcome_bind_get,
    exec_pure] at hsame
  cases hsame

end Launcher

end Ptvsd
