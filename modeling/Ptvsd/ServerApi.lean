import Ptvsd.CommandLine
import Ptvsd.Program

/-!
# Starting the Debug Server

`setup_debug_server` of `ptvsd.server.cli`, the functions `attach` and `enable_attach` of
`ptvsd`, and those of `ptvsd.server.api` that they call, with the wrapper `_starts_debugging`.
The module of the options serves as a value that stands for what has been parsed.

## Main results

* `configured_iff`: debugging is started with what was parsed, or asked for, **except that the
  child processes are always debugged**: the public functions do not pass `multiprocess` on.
-/

namespace Ptvsd

namespace Api

open CommandLine (Options)

/-! ### State -/

/-- The arguments of `pydevd.settrace`; `attach` does not give the last three. -/
structure Settrace where
  host : String
  port : ℤ
  suspend : Bool
  patchMultiprocessing : Bool
  dontTraceStartPatterns : List String
  dontTraceEndPatterns : List String
  clientAccessToken : Option String
  waitForReadyToRun : Option Bool
  blockUntilConnected : Option Bool
  accessToken : Option String

/-- The process that is to be debugged. -/
structure Debuggee where
  /-- `ptvsd.server.options`, with `log.log_dir`. -/
  options : Options
  /-- `pydevd._is_attached()`. -/
  attached : Bool
  /-- `hasattr(enable_attach, "adapter")`. -/
  hasAdapter : Bool
  /-- The command lines that `subprocess.Popen` was called with for an adapter. -/
  adapters : List (List String)
  settraces : List Settrace
  /-- `pydevd._wait_for_attach` was called. -/
  waited : Bool

/-- What the adapter sends to the debug server. -/
structure Endpoints where
  serverHost : String
  serverPort : ℤ
  idePort : ℤ

/-- The world around the process: what the calls of other modules come to. -/
structure World where
  /-- `sys.executable`, and the directories of the adapter and of `ptvsd`. -/
  executable : String
  adapterDir : String
  ptvsdDir : String
  /-- `server_access_token`. -/
  token : String
  /-- The port of `endpoints_listener`, or what `sockets.create_server` raises. -/
  listener : Except String ℤ
  /-- What `subprocess.Popen` raises. -/
  popen : Option String
  /-- The endpoints, or the text of the exception about them. -/
  endpoints : Except String Endpoints
  /-- What `pydevd.settrace` raises. -/
  settrace : Option String
  /-- `get_global_debugger()` is there. -/
  debugger : Bool

/-- What the functions raise. -/
inductive ApiError where
  | runtimeError (text : String)
  | assertionError (text : String)
  | valueError (text : String)
  /-- An exception of `pydevd`. -/
  | pydevd (text : String)

/-- What a function does to the process. -/
abbrev Action := Program Debuggee ApiError

/-- An argument for which the module `options` can be given. -/
inductive Argument (α : Type) where
  | options
  | value (a : α)

/-- A port, as a number or as a text. -/
inductive Port where
  | int (n : ℤ)
  | text (s : String)

/-- What a debug function returns: `(host, port)`, or `None`. -/
abbrev Address := Option (String × ℤ)

/-! ### `ptvsd.server.api` -/

variable (world : World)

/-- `_settrace`. -/
def settrace (call : Settrace) : Action PUnit := do
  modify fun p => { p with settraces := p.settraces ++ [call] }
  match world.settrace with
  | some text => throw (.pydevd text)
  | none => pure ⟨⟩

/-- `int(port)`. -/
def Port.toInt : Port → Action ℤ
  | .int n => pure n
  | .text s =>
      match CommandLine.int s with
      | some n => pure n
      | none => throw (.valueError ("invalid literal for int() with base 10: '" ++ s ++ "'"))

/-- `log.log_dir = log_dir`, if there is one. -/
def setLogDir : Option String → Action PUnit
  | some dir =>
      if dir = "" then pure ⟨⟩
      else modify fun p => { p with options := { p.options with logDir := some dir } }
  | none => pure ⟨⟩

/-- `options.host, options.port = (host, int(port))`, unless the address is `options`. -/
def setAddress : Argument (String × Port) → Action PUnit
  | .options => pure ⟨⟩
  | .value (host, port) => do
      let port ← port.toInt
      modify fun p => { p with options := { p.options with host := host, port := port } }

/-- `options.multiprocess = multiprocess`, unless it is `options`. -/
def setMultiprocess : Argument Bool → Action PUnit
  | .options => pure ⟨⟩
  | .value b => modify fun p => { p with options := { p.options with multiprocess := b } }

/-- `_starts_debugging(func)`. -/
def startsDebugging (func : List String → List String → Action Address)
    (address : Argument (String × Port)) (logDir : Option String) (multiprocess : Argument Bool) :
    Action Address := do
  setLogDir logDir
  let p ← get
  if p.attached then return some (p.options.host, p.options.port)
  else do
    setAddress address
    setMultiprocess multiprocess
    func [world.ptvsdDir] ["ptvsd_launcher.py"]

/-- `adapter_args`. -/
def adapterArgs (options : Options) (endpointsPort : ℤ) : List String :=
  [world.executable, world.adapterDir, "--for-server", toString endpointsPort, "--host",
    options.host, "--port", toString options.port, "--server-access-token", world.token] ++
  options.logDir.elim [] fun dir => ["--log-dir", dir]

/-- The adapter is spawned. -/
def spawnAdapter : Action PUnit := do
  match world.listener with
  | .error exc => throw (.runtimeError ("can't listen for adapter endpoints: " ++ exc))
  | .ok endpointsPort => do
      let options := (← get).options
      modify fun p => { p with adapters := p.adapters ++ [adapterArgs world options endpointsPort] }
      match world.popen with
      | some exc => throw (.runtimeError ("error spawning debug adapter: " ++ exc))
      | none => modify fun p => { p with hasAdapter := true }

/-- `enable_attach`, in the wrapper. -/
def enableAttach (startPatterns endPatterns : List String) : Action Address := do
  if (← get).hasAdapter then
    throw (.assertionError "enable_attach() can only be called once per process")
  else do
    spawnAdapter world
    match world.endpoints with
    | .error text => throw (.runtimeError text)
    | .ok endpoints => do
        modify fun p => { p with options := { p.options with port := endpoints.idePort } }
        let options := (← get).options
        settrace world {
          host := endpoints.serverHost
          port := endpoints.serverPort
          suspend := false
          patchMultiprocessing := options.multiprocess
          dontTraceStartPatterns := startPatterns
          dontTraceEndPatterns := endPatterns
          clientAccessToken := options.clientAccessToken
          waitForReadyToRun := some false
          blockUntilConnected := some true
          accessToken := some world.token }
        return some (options.host, options.port)

/-- `attach`, in the wrapper. -/
def attach (startPatterns endPatterns : List String) : Action Address := do
  let options := (← get).options
  settrace world {
    host := options.host
    port := options.port
    suspend := false
    patchMultiprocessing := options.multiprocess
    dontTraceStartPatterns := startPatterns
    dontTraceEndPatterns := endPatterns
    clientAccessToken := options.clientAccessToken
    waitForReadyToRun := none
    blockUntilConnected := none
    accessToken := none }
  return none

/-- `wait_for_attach`. -/
def waitForAttach : Action PUnit :=
  if world.debugger then modify fun p => { p with waited := true }
  else throw (.runtimeError "wait_for_attach() called before enable_attach()")

/-! ### `ptvsd` -/

/-- The functions of `ptvsd.server.api` that start debugging. -/
inductive Mode where
  | attach
  | enableAttach
  deriving DecidableEq

/-- `api.attach` and `api.enable_attach`. -/
def apiStart (mode : Mode) (address : Argument (String × Port)) (logDir : Option String)
    (multiprocess : Argument Bool) : Action Address :=
  match mode with
  | .attach => startsDebugging world (attach world) address logDir multiprocess
  | .enableAttach => startsDebugging world (enableAttach world) address logDir multiprocess

/-- `ptvsd.attach` and `ptvsd.enable_attach`: `multiprocess` is not passed on, and is `True`
in the call. -/
def start (mode : Mode) (address : Argument (String × Port)) (logDir : Option String)
    (_multiprocess : Argument Bool) : Action Address :=
  apiStart world mode address logDir (.value true)

/-- `ptvsd.attach`. -/
def publicAttach : Argument (String × Port) → Option String → Argument Bool → Action Address :=
  start world .attach

/-- `ptvsd.enable_attach`. -/
def publicEnableAttach :
    Argument (String × Port) → Option String → Argument Bool → Action Address :=
  start world .enableAttach

/-! ### `ptvsd.server.cli` -/

/-- `ptvsd.attach if options.client else ptvsd.enable_attach`. -/
def modeOf (options : Options) : Mode := if options.client then .attach else .enableAttach

/-- `setup_debug_server`, after `sys.argv[0]` is set. -/
def setupDebugServer : Action PUnit := do
  let options := (← get).options
  let _ ← start world (modeOf options) .options none .options
  if (← get).options.wait then waitForAttach world
  else pure ⟨⟩

/-! ### What reaches the debugger -/

open Program

variable {world : World} {p : Debuggee} {mode : Mode}

/-- Debugging gets started, if the arguments are valid: `attach` always does it, and
`enable_attach` once, if the adapter can be spawned and provides its endpoints. -/
def Starts (world : World) (mode : Mode) (p : Debuggee) : Prop :=
  mode = .enableAttach → p.hasAdapter = false ∧ (∃ port, world.listener = .ok port) ∧
    world.popen = none ∧ ∃ endpoints, world.endpoints = .ok endpoints

/-- An adapter is spawned, or at least tried to be. -/
def Spawns (world : World) (mode : Mode) (p : Debuggee) : Prop :=
  mode = .enableAttach ∧ p.hasAdapter = false ∧ ∃ port, world.listener = .ok port

/-- The debugger is given the options of the process. -/
structure Settrace.Has (call : Settrace) (mode : Mode) (options : Options) : Prop where
  multiprocess : call.patchMultiprocessing = options.multiprocess
  token : call.clientAccessToken = options.clientAccessToken
  address : mode = .attach → call.host = options.host ∧ call.port = options.port

/-- The adapter is given the address. -/
def HasAddress (args : List String) (options : Options) : Prop :=
  ["--host", options.host, "--port", toString options.port] <:+: args

/-- What is added to the calls and to the command lines has the options. -/
structure Passes (world : World) (mode : Mode) (options : Options) (p p' : Debuggee) : Prop where
  settraces : ∃ calls, p'.settraces = p.settraces ++ calls ∧
    (∀ call ∈ calls, call.Has mode options) ∧ (Starts world mode p → calls.length = 1) ∧
      (¬Starts world mode p → calls = [])
  adapters : ∃ adapters, p'.adapters = p.adapters ++ adapters ∧
    (∀ args ∈ adapters, HasAddress args options) ∧ (Spawns world mode p → adapters.length = 1) ∧
      (¬Spawns world mode p → adapters = [])

/-- The call is made, whether or not it raises. -/
theorem exec_settrace (call : Settrace) (address : Address) :
    ((do settrace world call; return address : Action Address).exec p).2 =
      { p with settraces := p.settraces ++ [call] } := by
  unfold settrace
  simp only [bind_assoc]
  rw [exec_bind_ok exec_modify]
  cases world.settrace with
  | some text => rfl
  | none => rfl

/-- Nothing is spawned, and the debugger is called with the options. -/
theorem attach_passes {startPatterns endPatterns : List String} :
    Passes world .attach p.options p ((attach world startPatterns endPatterns).exec p).2 := by
  have hstarts : Starts world .attach p := fun h => by cases h
  have hspawns : ¬Spawns world .attach p := fun h => by cases h.1
  unfold attach
  rw [exec_bind_ok exec_get, exec_settrace]
  refine ⟨⟨_, rfl, ?_, fun _ => rfl, fun h => absurd hstarts h⟩,
    ⟨[], (List.append_nil _).symm, by simp, fun h => absurd h hspawns, fun _ => rfl⟩⟩
  intro call hcall
  obtain rfl := List.mem_singleton.1 hcall
  exact ⟨rfl, rfl, fun _ => ⟨rfl, rfl⟩⟩

theorem hasAddress_adapterArgs (options : Options) (port : ℤ) :
    HasAddress (adapterArgs world options port) options :=
  ⟨[world.executable, world.adapterDir, "--for-server", toString port],
    ["--server-access-token", world.token] ++ options.logDir.elim [] fun dir => ["--log-dir", dir],
    by simp [adapterArgs]⟩

/-- The process does not get as far as `settrace`. -/
theorem Passes.of_not_starts {options : Options} {p' : Debuggee} (hstarts : ¬Starts world mode p)
    (hsettraces : p'.settraces = p.settraces)
    (hadapters : ∃ adapters, p'.adapters = p.adapters ++ adapters ∧
      (∀ args ∈ adapters, HasAddress args options) ∧ (Spawns world mode p → adapters.length = 1) ∧
        (¬Spawns world mode p → adapters = [])) : Passes world mode options p p' :=
  ⟨⟨[], by rw [hsettraces, List.append_nil], by simp, fun h => absurd h hstarts, fun _ => rfl⟩,
    hadapters⟩

theorem exec_spawnAdapter : (spawnAdapter world).exec p =
    match world.listener, world.popen with
    | .error exc, _ => (.error (.runtimeError ("can't listen for adapter endpoints: " ++ exc)), p)
    | .ok port, some exc => (.error (.runtimeError ("error spawning debug adapter: " ++ exc)),
        { p with adapters := p.adapters ++ [adapterArgs world p.options port] })
    | .ok port, none => (.ok ⟨⟩,
        { p with
          adapters := p.adapters ++ [adapterArgs world p.options port]
          hasAdapter := true }) := by
  unfold spawnAdapter
  cases world.listener with
  | error exc => rfl
  | ok port =>
      cases world.popen with
      | some exc => rfl
      | none => rfl

/-- The adapter is spawned with the address, and the debugger is called with the other
options. -/
theorem enableAttach_passes {startPatterns endPatterns : List String} :
    Passes world .enableAttach p.options p
      ((enableAttach world startPatterns endPatterns).exec p).2 := by
  have hnone : ∀ p' : Debuggee, p'.adapters = p.adapters → ¬Spawns world .enableAttach p →
      ∃ adapters, p'.adapters = p.adapters ++ adapters ∧
        (∀ args ∈ adapters, HasAddress args p.options) ∧
        (Spawns world .enableAttach p → adapters.length = 1) ∧
        (¬Spawns world .enableAttach p → adapters = []) := fun p' h hspawns =>
    ⟨[], by rw [h, List.append_nil], by simp, fun h => absurd h hspawns, fun _ => rfl⟩
  have hone : ∀ (p' : Debuggee) (port : ℤ),
      p'.adapters = p.adapters ++ [adapterArgs world p.options port] →
      Spawns world .enableAttach p → ∃ adapters, p'.adapters = p.adapters ++ adapters ∧
        (∀ args ∈ adapters, HasAddress args p.options) ∧
        (Spawns world .enableAttach p → adapters.length = 1) ∧
        (¬Spawns world .enableAttach p → adapters = []) := fun p' port h hspawns =>
    ⟨_, h, by simp [hasAddress_adapterArgs], fun _ => rfl, fun h => absurd hspawns h⟩
  unfold enableAttach
  rw [exec_bind_ok exec_get]
  cases hadapter : p.hasAdapter with
  | true =>
      refine .of_not_starts (fun h => ?_) rfl (hnone _ rfl fun h => ?_)
      · exact absurd (h rfl).1 (by simp [hadapter])
      · exact absurd h.2.1 (by simp [hadapter])
  | false =>
      simp only [Bool.false_eq_true, if_false]
      rw [exec_bind, exec_spawnAdapter]
      cases hlistener : world.listener with
      | error exc =>
          refine .of_not_starts (fun h => ?_) rfl (hnone _ rfl fun h => ?_)
          · obtain ⟨-, ⟨port, hport⟩, -⟩ := h rfl
            cases hlistener.symm.trans hport
          · obtain ⟨-, -, port, hport⟩ := h
            cases hlistener.symm.trans hport
      | ok port =>
          have hspawns : Spawns world .enableAttach p := ⟨rfl, hadapter, port, hlistener⟩
          cases hpopen : world.popen with
          | some exc =>
              refine .of_not_starts (fun h => ?_) rfl (hone _ port rfl hspawns)
              exact absurd (h rfl).2.2.1 (by simp [hpopen])
          | none =>
              cases hendpoints : world.endpoints with
              | error text =>
                  refine .of_not_starts (fun h => ?_) rfl (hone _ port rfl hspawns)
                  obtain ⟨-, -, -, endpoints, h⟩ := h rfl
                  cases hendpoints.symm.trans h
              | ok endpoints =>
                  have hstarts : Starts world .enableAttach p :=
                    fun _ => ⟨hadapter, ⟨port, hlistener⟩, hpopen, endpoints, hendpoints⟩
                  dsimp only
                  rw [exec_bind_ok exec_modify, exec_bind_ok exec_get, exec_settrace]
                  refine ⟨⟨_, rfl, ?_, fun _ => rfl, fun h => absurd hstarts h⟩,
                    hone _ port rfl hspawns⟩
                  intro call hcall
                  obtain rfl := List.mem_singleton.1 hcall
                  exact ⟨rfl, rfl, fun h => by cases h⟩

/-- The host and the port that an address stands for, unless `int` raises. -/
def Argument.resolve (options : Options) : Argument (String × Port) → Option (String × ℤ)
  | .options => some (options.host, options.port)
  | .value (host, .int n) => some (host, n)
  | .value (host, .text s) => (CommandLine.int s).map fun n => (host, n)

/-- The options after `log_dir` is taken over. -/
def withLogDir (options : Options) : Option String → Options
  | some dir => if dir = "" then options else { options with logDir := some dir }
  | none => options

/-- The options that debugging is started with. -/
def startOptions (options : Options) (host : String) (port : ℤ) (logDir : Option String)
    (multiprocess : Bool) : Options :=
  { withLogDir options logDir with host := host, port := port, multiprocess := multiprocess }

variable {address : Argument (String × Port)} {logDir : Option String} {multiprocess : Bool}

theorem exec_setLogDir :
    (setLogDir logDir).exec p = (.ok ⟨⟩, { p with options := withLogDir p.options logDir }) := by
  cases logDir with
  | none => rfl
  | some dir =>
      simp only [setLogDir, withLogDir]
      split_ifs <;> rfl

theorem withLogDir_address : (withLogDir p.options logDir).host = p.options.host ∧
    (withLogDir p.options logDir).port = p.options.port := by
  cases logDir with
  | none => exact ⟨rfl, rfl⟩
  | some dir =>
      simp only [withLogDir]
      split_ifs <;> exact ⟨rfl, rfl⟩

/-- The wrapper calls the function after it has stored its arguments. -/
theorem exec_startsDebugging {func : List String → List String → Action Address}
    (hattached : p.attached = false) :
    ((startsDebugging world func address logDir (.value multiprocess)).exec p).2 =
      match address.resolve p.options with
      | some (host, port) => ((func [world.ptvsdDir] ["ptvsd_launcher.py"]).exec
          { p with options := startOptions p.options host port logDir multiprocess }).2
      | none => { p with options := withLogDir p.options logDir } := by
  unfold startsDebugging
  rw [exec_bind_ok exec_setLogDir, exec_bind_ok exec_get]
  simp only [hattached, Bool.false_eq_true, if_false]
  match address with
  | .options =>
      obtain ⟨hhost, hport⟩ := @withLogDir_address p logDir
      simp only [Argument.resolve, startOptions, ← hhost, ← hport]
      rfl
  | .value (host, .int n) => rfl
  | .value (host, .text s) =>
      simp only [setAddress, Port.toInt, Argument.resolve]
      cases CommandLine.int s with
      | none => rfl
      | some n => rfl

/-- What the public functions pass: **the child processes are always debugged**. -/
theorem start_passes (hattached : p.attached = false) {m : Argument Bool} {host : String} {port : ℤ}
    (haddress : address.resolve p.options = some (host, port)) :
    Passes world mode (startOptions p.options host port logDir true) p
      ((start world mode address logDir m).exec p).2 := by
  cases mode with
  | attach =>
      unfold start apiStart
      rw [exec_startsDebugging hattached, haddress]
      have h := @attach_passes world
        { p with options := startOptions p.options host port logDir true }
        [world.ptvsdDir] ["ptvsd_launcher.py"]
      exact ⟨h.settraces, h.adapters⟩
  | enableAttach =>
      unfold start apiStart
      rw [exec_startsDebugging hattached, haddress]
      have h := @enableAttach_passes world
        { p with options := startOptions p.options host port logDir true }
        [world.ptvsdDir] ["ptvsd_launcher.py"]
      exact ⟨h.settraces, h.adapters⟩

/-- Waiting for the IDE does not change what was passed. -/
theorem setupDebugServer_passes (hattached : p.attached = false) :
    Passes world (modeOf p.options) { p.options with multiprocess := true } p
      ((setupDebugServer world).exec p).2 := by
  have h : Passes world (modeOf p.options) (startOptions p.options p.options.host p.options.port
      none true) p ((start world (modeOf p.options) .options none .options).exec p).2 :=
    start_passes hattached rfl
  unfold setupDebugServer
  rw [exec_bind_ok exec_get, exec_bind]
  generalize hexec : (start world (modeOf p.options) .options none .options).exec p = r
  rw [hexec] at h
  obtain ⟨r, p'⟩ := r
  cases r with
  | error e => exact h
  | ok address =>
      dsimp only
      rw [exec_bind_ok exec_get]
      split_ifs
      · unfold waitForAttach
        split_ifs
        · exact ⟨h.settraces, h.adapters⟩
        · exact h
      · exact h

/-- Options that only differ in `multiprocess` are passed alike if that is the same, or if it is
not passed at all. -/
theorem passes_iff {options : Options} {p' : Debuggee}
    (h : Passes world mode { options with multiprocess := true } p p') :
    Passes world mode options p p' ↔ options.multiprocess = true ∨ ¬Starts world mode p := by
  obtain ⟨⟨calls, hcalls, hhas, hone, hno⟩, hadapters⟩ := h
  constructor
  · rintro ⟨⟨calls', hcalls', hhas', -, -⟩, -⟩
    obtain rfl : calls' = calls := List.append_cancel_left (hcalls'.symm.trans hcalls)
    by_cases hstarts : Starts world mode p
    · obtain ⟨call, rfl⟩ := List.length_eq_one_iff.1 (hone hstarts)
      have hcall := List.mem_singleton_self call
      exact .inl ((hhas' call hcall).multiprocess.symm.trans (hhas call hcall).multiprocess)
    · exact .inr hstarts
  · rintro (hmultiprocess | hstarts)
    · have hsame : options = { options with multiprocess := true } := by rw [← hmultiprocess]
      rw [hsame]
      exact ⟨⟨calls, hcalls, hhas, hone, hno⟩, hadapters⟩
    · obtain rfl := hno hstarts
      exact ⟨⟨[], hcalls, by simp, fun h => absurd h hstarts, fun _ => rfl⟩, hadapters⟩

/-- The debugger is called with `multiprocess` as given. -/
def HonoursMultiprocess (multiprocess : Bool) (p p' : Debuggee) : Prop :=
  ∃ calls, p'.settraces = p.settraces ++ calls ∧
    ∀ call ∈ calls, call.patchMultiprocessing = multiprocess

theorem honoursMultiprocess_iff (hattached : p.attached = false) :
    HonoursMultiprocess multiprocess p
        ((start world mode address logDir (.value multiprocess)).exec p).2 ↔
      multiprocess = true ∨
        ¬((address.resolve p.options).isSome = true ∧ Starts world mode p) := by
  cases haddress : address.resolve p.options with
  | none =>
      have hsame : ((start world mode address logDir (.value multiprocess)).exec p).2.settraces =
          p.settraces := by
        cases mode <;> unfold start apiStart <;>
          rw [exec_startsDebugging hattached, haddress]
      simp only [Option.isSome_none, Bool.false_eq_true, false_and, not_false_eq_true, or_true,
        iff_true]
      exact ⟨[], by rw [hsame, List.append_nil], by simp⟩
  | some a =>
      obtain ⟨host, port⟩ := a
      obtain ⟨calls, hcalls, hhas, hone, hno⟩ :=
        (@start_passes world p mode address logDir hattached (.value multiprocess) host port
          haddress).settraces
      simp only [Option.isSome_some, true_and]
      constructor
      · rintro ⟨calls', hcalls', hall⟩
        obtain rfl : calls' = calls := List.append_cancel_left (hcalls'.symm.trans hcalls)
        by_cases hstarts : Starts world mode p
        · obtain ⟨call, rfl⟩ := List.length_eq_one_iff.1 (hone hstarts)
          have hcall := List.mem_singleton_self call
          exact .inl ((hall call hcall).symm.trans (hhas call hcall).multiprocess)
        · exact .inr hstarts
      · rintro (rfl | hstarts)
        · exact ⟨calls, hcalls, fun call hcall => (hhas call hcall).multiprocess⟩
        · obtain rfl := hno hstarts
          exact ⟨[], hcalls, by simp⟩

/-- **Debugging is started as the command line says, and as the functions are asked to**, if and
only if child processes are to be debugged as well, or nothing is started at all. -/
theorem configured_iff (world : World) (p : Debuggee) (hattached : p.attached = false) :
    (∀ (logDir : Option String) (args rest : List String),
      CommandLine.parse args (CommandLine.defaults logDir) = .ok (p.options, rest) →
      p.options.targetKind ≠ some .pid →
      (Passes world (modeOf p.options) p.options p ((setupDebugServer world).exec p).2 ↔
        p.options.multiprocess = true ∨ ¬Starts world (modeOf p.options) p)) ∧
    ∀ (mode : Mode) (address : Argument (String × Port)) (logDir : Option String)
      (multiprocess : Bool),
      (HonoursMultiprocess multiprocess p
          ((start world mode address logDir (.value multiprocess)).exec p).2 ↔
        multiprocess = true ∨
          ¬((address.resolve p.options).isSome = true ∧ Starts world mode p)) :=
  ⟨fun _ _ _ _ _ => passes_iff (setupDebugServer_passes hattached),
    fun _ _ _ _ => honoursMultiprocess_iff hattached⟩

/-! ### A process -/

/-- The adapter starts, and nothing is raised. -/
def quickWorld : World where
  executable := "python"
  adapterDir := "adapter"
  ptvsdDir := "ptvsd"
  token := "0123"
  listener := .ok 5679
  popen := none
  endpoints := .ok ⟨"127.0.0.1", 5680, 5678⟩
  settrace := none
  debugger := true

/-- A process that has just started. -/
def fresh (options : Options) : Debuggee := ⟨options, false, false, [], [], false⟩

/-- The options for a program whose child processes are debugged, or not. -/
def programOptions (settings : List CommandLine.Setting) : Options :=
  (CommandLine.defaults none).given settings .file (.text "a.py")

theorem parse_program {settings : List CommandLine.Setting} {before : List String}
    (hsettings : CommandLine.Setting.AllSpelled settings before)
    (once : (settings.map CommandLine.Setting.name).Nodup)
    (hhost : "--host" ∈ settings.map CommandLine.Setting.name) :
    CommandLine.parse (before ++ ["a.py"] ++ ["-x"]) (CommandLine.defaults none) =
      .ok (programOptions settings, ["-x"]) :=
  CommandLine.parse_of_accepts rfl rfl (.intro hsettings (.file rfl) once hhost (by simp) ["-x"])

theorem configured_client : Passes quickWorld .attach
    (programOptions [.client, .host "localhost"])
    (fresh (programOptions [.client, .host "localhost"]))
    ((setupDebugServer quickWorld).exec (fresh (programOptions [.client, .host "localhost"]))).2 :=
  ((configured_iff quickWorld (fresh (programOptions [.client, .host "localhost"])) rfl).1 none _
    ["-x"] (parse_program (.cons .client (.cons (.host "localhost") .nil)) (by decide) (by decide))
    (by decide)).2 (.inl rfl)

/-- Child processes are debugged in spite of `--no-subprocesses`. -/
theorem not_configured :
    ¬∀ (world : World) (logDir : Option String) (args rest : List String) (p : Debuggee),
      CommandLine.parse args (CommandLine.defaults logDir) = .ok (p.options, rest) →
      p.options.targetKind ≠ some .pid → p.attached = false →
      Passes world (modeOf p.options) p.options p ((setupDebugServer world).exec p).2 := by
  intro h
  have hpasses := h quickWorld none _ ["-x"]
    (fresh (programOptions [.client, .host "localhost", .noSubprocesses]))
    (parse_program (.cons .client (.cons (.host "localhost") (.cons .noSubprocesses .nil)))
      (by decide) (by decide)) (by decide) rfl
  rcases (passes_iff (setupDebugServer_passes rfl)).1 hpasses with hmultiprocess | hstarts
  · cases hmultiprocess
  · exact hstarts fun hmode => by cases hmode

end Api

end Ptvsd
