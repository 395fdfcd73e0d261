import Ptvsd.CommandLine
import Ptvsd.PropertyLookup
import Ptvsd.Validators

/-!
# The Launch Request in the Launcher

`launch_request` of `ptvsd.launcher.handlers`, up to the call of `debuggee.spawn`: the
properties of the request become the command line, the directory and the environment of the
debuggee. The command line starts the debug server, which parses the part of it that follows
its own directory with `cli.parse`.

## Main results

* `launch_parse`: **the debug server recovers what was requested** from the command line that
  the launcher composes, whatever the strings in the request look like.
-/

namespace Ptvsd

open Program

namespace Launcher

/-- What the launcher runs in. -/
structure System where
  /-- `sys.platform == "win32"`. -/
  win32 : Bool
  /-- `sys.executable`. -/
  executable : String
  /-- The directory of `ptvsd.__file__`. -/
  ptvsdDir : String
  /-- `os.environ`. -/
  environ : List (String × String)
  /-- `os.path.dirname`. -/
  dirname : String → String

/-- The arguments of `debuggee.spawn`, and what is in `wait_on_exit_predicates` then. -/
structure Launch where
  processName : String
  cmdline : List String
  cwd : Option String
  env : List (String × String)
  redirectOutput : Bool
  waitOnExitPredicates : List (ℤ → Bool)

variable (system : System) (request : Request)

/-! ### Properties -/

/-- `raise request.isnt_valid(reason)`. -/
def isntValid {α : Type} (reason : String) : Except PyError α :=
  .error (.invalidMessage reason (some request.id))

/-- `raise request.cant_handle(reason)`. -/
def cantHandle {α : Type} (reason : String) : Except PyError α :=
  .error (.messageHandling reason (some request.id))

/-- `property_or_debug_option`. -/
def propertyOrDebugOption (debugOptions : List String) (propName flagName : String) :
    Except PyError (Option Bool) := do
  let value ← request.call propName (ofType [.bool] true)
  let value := value.map Json.truth
  if flagName ∈ debugOptions then
    if value = some false then
      isntValid request ("\"" ++ propName ++ "\":false and \"debugOptions\":[\"" ++ flagName ++
        "\"] are mutually exclusive")
    else return some true
  else return value

/-- The first part of the command line. -/
def readSudo (debugOptions : List String) : Except PyError (List String) := do
  let useSudo ← propertyOrDebugOption request debugOptions "sudo" "Sudo"
  if useSudo = some true then
    if system.win32 then cantHandle request "\"sudo\":true is not supported on Windows."
    else return ["sudo"]
  else return []

/-- `python_key`: "pythonPath" is a deprecated legacy spelling. -/
def pythonKey : Except PyError String :=
  if request.contains "python" then
    if request.contains "pythonPath" then
      isntValid request "\"pythonPath\" is not valid if \"python\" is specified"
    else return "python"
  else if request.contains "pythonPath" then return "pythonPath"
  else return "python"

/-- `python`. -/
def readPython : Except PyError (List String) := do
  let key ← pythonKey request
  let python ← request.call key .someTexts
  return if python.toTexts.isEmpty then [system.executable] else python.toTexts

/-- `str(n)` of an instance of `int`. -/
def strInt : Property → String
  | some (.int n) => toString n
  | some (.bool true) => "True"
  | some (.bool false) => "False"
  | _ => ""

/-- What starts the debug server in the debuggee. -/
def readServer : Except PyError (List String) := do
  let noDebug ← request.call "noDebug" (.default (.bool false))
  if noDebug.truth then return []
  else do
    let port ← request.call "port" (ofType [.int] false)
    let clientAccessToken ← request.call "clientAccessToken" (ofType [.unicode] true)
    let token :=
      if clientAccessToken.isSome then ["--client-access-token", clientAccessToken.toText] else []
    let ptvsdArgs ← request.call "ptvsdArgs" .texts
    return [system.ptvsdDir, "--client", "--host", "127.0.0.1", "--port", strInt port] ++ token ++
      ptvsdArgs.toTexts

/-- "program", "module" or "code", if it is there. -/
def readTexts (key : String) : Except PyError (Option (List String)) :=
  if request.contains key then do
    let value ← request.call key .someTexts
    return some value.toTexts
  else return none

/-- `program`, `module` and `code`. -/
structure Targets where
  program : Option (List String)
  module : Option (List String)
  code : Option (List String)

/-- The part of the command line for the targets. -/
def Targets.cmdline (targets : Targets) : List String :=
  targets.program.getD [] ++ targets.module.elim [] ("-m" :: ·) ++
    targets.code.elim [] ("-c" :: ·)

/-- `process_name`. -/
def Targets.processName (targets : Targets) (python : List String) : String :=
  match targets with
  | ⟨_, _, some _⟩ => python.headD ""
  | ⟨_, some module, none⟩ => module.headD ""
  | ⟨program, none, none⟩ => (program.getD []).headD ""

/-- The targets of a request, of which there must be one. -/
def readTargets : Except PyError Targets := do
  let program ← readTexts request "program"
  let module ← readTexts request "module"
  let code ← readTexts request "code"
  let numTargets := [program, module, code].countP Option.isSome
  if numTargets = 0 then
    isntValid request "either \"program\", \"module\", or \"code\" must be specified"
  else if numTargets ≠ 1 then
    isntValid request "\"program\", \"module\", and \"code\" are mutually exclusive"
  else return ⟨program, module, code⟩

/-- `cwd`: by default the directory of the program. -/
def readCwd (program : Option (List String)) : Except PyError (Option String) := do
  let cwd ← request.call "cwd" (ofType [.unicode] true)
  match cwd, program with
  | some cwd, _ => return some (Property.toText (some cwd))
  | none, none => return none
  | none, some program =>
      let dir := system.dirname (program.headD "")
      return if dir = "" then none else some dir

/-- The entries of a property that passed `json.object(unicode)`. -/
def toEntries : Property → List (String × String)
  | some (.dict items) => items.map fun item => (item.1, Property.toText (some item.2))
  | _ => []

/-- `env`, up to what the redirection of the output adds to it. -/
def readEnv : Except PyError (List (String × String)) := do
  let env :=
    if Dict.has system.environ "PTVSD_TEST" then Dict.del system.environ "COV_CORE_SOURCE"
    else system.environ
  let update ← request.call "env" (.object (ofType [.unicode] false))
  let env := (toEntries update).foldl (fun env item => Dict.set env item.1 item.2) env
  -- the default value is false, so that the property is not validated at all
  let gevent ← request.call "gevent" Except.ok
  return if gevent.truth then Dict.set env "GEVENT_SUPPORT" "True" else env

/-- `redirect_output`: by default it depends on the console. -/
def readRedirectOutput (debugOptions : List String) : Except PyError Bool := do
  match ← propertyOrDebugOption request debugOptions "redirectOutput" "RedirectOutput" with
  | some redirectOutput => return redirectOutput
  | none => do
      let console ← request.call "console" (ofType [.unicode] false)
      return console.toText == "internalConsole"

/-- What the redirection of the output adds to the environment. -/
def redirectEnv (redirectOutput : Bool) (env : List (String × String)) :
    List (String × String) :=
  if redirectOutput then
    Dict.set (Dict.set env "PYTHONUNBUFFERED" "1") "PYTHONIOENCODING" "utf-8"
  else env

/-- A predicate for `wait_on_exit_predicates`, if it is asked for. -/
def readPredicate (debugOptions : List String) (propName flagName : String)
    (predicate : ℤ → Bool) : Except PyError (List (ℤ → Bool)) := do
  let wait ← propertyOrDebugOption request debugOptions propName flagName
  return if wait = some true then [predicate] else []

/-- It is appended to `wait_on_exit_predicates`, where it stays if the request fails later. -/
def appendPredicate (debugOptions : List String) (propName flagName : String)
    (predicate : ℤ → Bool) : Program (List (ℤ → Bool)) PyError PUnit := do
  let predicates ← ofOutcome (readPredicate request debugOptions propName flagName predicate)
  modify (· ++ predicates)

/-- `launch_request`, with `wait_on_exit_predicates` as its state. -/
def launchRequest : Program (List (ℤ → Bool)) PyError Launch := do
  let debugOptions ← ofOutcome (request.call "debugOptions" .texts)
  let debugOptions := debugOptions.toTexts
  let useSudo ← ofOutcome (readSudo system request debugOptions)
  let python ← ofOutcome (readPython system request)
  let server ← ofOutcome (readServer system request)
  let targets ← ofOutcome (readTargets request)
  let args ← ofOutcome (request.call "args" .texts)
  let cwd ← ofOutcome (readCwd system request targets.program)
  let env ← ofOutcome (readEnv system request)
  let redirectOutput ← ofOutcome (readRedirectOutput request debugOptions)
  appendPredicate request debugOptions "waitOnNormalExit" "WaitOnNormalExit" (· == 0)
  appendPredicate request debugOptions "waitOnAbnormalExit" "WaitOnAbnormalExit" (· != 0)
  let predicates ← get
  return {
    processName := targets.processName python
    cmdline := useSudo ++ python ++ server ++ targets.cmdline ++ args.toTexts
    cwd := cwd
    env := redirectEnv redirectOutput env
    redirectOutput := redirectOutput
    waitOnExitPredicates := predicates }

/-! ### What the properties are -/

/-- The value of a property of the request. -/
def get (key : String) : Property := request.items.lookup key

/-- The strings in a property that may be left out. -/
inductive Strings : Property → List String → Prop
  | missing : Strings none []
  | list (ss : List String) : Strings (some (.list (ss.map .str))) ss

/-- The strings in a property that is a string, or a list of some. -/
inductive SomeStrings : Property → String → List String → Prop
  | one (s : String) : SomeStrings (some (.str s)) s []
  | list (s : String) (ss : List String) : SomeStrings (some (.list ((s :: ss).map .str))) s ss

/-- The string in a property that may be left out. -/
inductive OptionalString : Property → Option String → Prop
  | missing : OptionalString none none
  | one (s : String) : OptionalString (some (.str s)) (some s)

theorem bind_eq_ok_iff {α β : Type} {x : Except PyError α} {f : α → Except PyError β} {b : β} :
    x >>= f = .ok b ↔ ∃ a, x = .ok a ∧ f a = .ok b := by
  cases x with
  | ok a => simp [bind, Except.bind]
  | error e => simp [bind, Except.bind]

theorem pure_eq_ok_iff {α : Type} {a b : α} : (pure a : Except PyError α) = .ok b ↔ a = b := by
  simp [pure, Except.pure]

variable {system request} {key : String} {validate : Validator} {value : Property}
  {predicates : List (ℤ → Bool)}

/-- What comes after a predicate finds it among the others. -/
theorem outcome_bind_append {α : Type} {debugOptions : List String} {propName flagName : String}
    {predicate : ℤ → Bool} {f : PUnit → Program (List (ℤ → Bool)) PyError α} :
    (exec (appendPredicate request debugOptions propName flagName predicate >>= f) predicates).1 =
      readPredicate request debugOptions propName flagName predicate >>= fun added =>
        (exec (f ⟨⟩) (predicates ++ added)).1 := by
  rw [appendPredicate, bind_assoc, outcome_bind_ofOutcome]
  rfl

/-- A property is read exactly when the validator accepts it. -/
theorem call_eq_ok_iff : request.call key validate = .ok value ↔
    request.HasArguments ∧ validate (get request key) = .ok value := by
  unfold Request.call Request.HasArguments get Request.items
  split
  · next items harguments =>
      rw [MessageDict.call_eq_ok_iff]
      simp [MessageDict.get, harguments]
  · next harguments =>
      simp only [reduceCtorEq, false_iff, not_and]
      rintro ⟨items, hitems⟩
      exact absurd hitems (harguments items)

/-- The items of a list of strings. -/
theorem validates_unicode_iff {items items' : List Json} :
    (ofType [.unicode] false).Validates items items' ↔
      items' = items ∧ ∃ ss : List String, items = ss.map .str := by
  have hitem : ∀ x y : Json, (ofType [.unicode] false).item x = .ok y ↔
      y = x ∧ ∃ s, x = .str s := by
    intro x y
    cases x <;> simp [Validator.item, ofType, Property.isinstance, Json.isinstance, Except.map,
      eq_comm]
  induction items generalizing items' with
  | nil =>
      rw [Validator.Validates, List.forall₂_nil_left_iff]
      exact ⟨fun h => ⟨h, [], rfl⟩, fun h => h.1⟩
  | cons x rest ih =>
      rw [Validator.Validates, List.forall₂_cons_left_iff]
      change (∃ y ys, (ofType [.unicode] false).item x = .ok y ∧
        (ofType [.unicode] false).Validates rest ys ∧ items' = y :: ys) ↔ _
      constructor
      · rintro ⟨y, ys, hx, hrest, rfl⟩
        obtain ⟨rfl, s, rfl⟩ := (hitem x y).1 hx
        obtain ⟨rfl, ss, rfl⟩ := ih.1 hrest
        exact ⟨rfl, s :: ss, rfl⟩
      · rintro ⟨rfl, ss, hss⟩
        cases ss with
        | nil => cases hss
        | cons s ss =>
            obtain ⟨rfl, rfl⟩ := List.cons.inj hss
            exact ⟨_, _, (hitem _ _).2 ⟨rfl, s, rfl⟩, ih.2 ⟨rfl, ss, rfl⟩, rfl⟩

theorem toTexts_map (ss : List String) :
    Property.toTexts (some (.list (ss.map .str))) = ss := by
  simp only [Property.toTexts, List.map_map]
  exact List.map_id ss

/-- `json.array(unicode)` reads the strings. -/
theorem texts_eq_ok_iff {result : Property} : Validator.texts value = .ok result ↔
    ∃ ss, Strings value ss ∧ result = some (.list (ss.map .str)) := by
  simp only [Validator.texts, Validator.array_eq, Validator.arrayOf_eq_ok_iff,
    validates_unicode_iff]
  constructor
  · rintro ⟨items, _, hitems, -, ⟨rfl, ss, rfl⟩, rfl⟩
    refine ⟨ss, ?_, rfl⟩
    match value with
    | none =>
        obtain rfl : ss = [] := by simpa [asItems] using hitems
        exact .missing
    | some (.list items) =>
        obtain rfl : items = ss.map .str := by simpa [asItems] using hitems
        exact .list ss
  · rintro ⟨ss, hss | _, rfl⟩
    · exact ⟨[], [], rfl, by simp [Size.validate], ⟨rfl, [], rfl⟩, rfl⟩
    · exact ⟨_, _, rfl, by simp [Size.validate], ⟨rfl, ss, rfl⟩, rfl⟩

/-- `json.array(unicode, vectorize=True, size=(1,))` reads the strings. -/
theorem someTexts_eq_ok_iff {result : Property} : Validator.someTexts value = .ok result ↔
    ∃ s ss, SomeStrings value s ss ∧ result = some (.list ((s :: ss).map .str)) := by
  simp only [Validator.someTexts, Validator.array_eq, Validator.arrayOf_eq_ok_iff,
    validates_unicode_iff]
  constructor
  · rintro ⟨items, _, hitems, hsize, ⟨rfl, ss, rfl⟩, rfl⟩
    cases ss with
    | nil => simp [Size.validate] at hsize
    | cons s ss =>
        refine ⟨s, ss, ?_, rfl⟩
        cases value with
        | none => simp [asItems] at hitems
        | some x =>
            cases x with
            | list items =>
                obtain rfl : items = (s :: ss).map .str := by simpa [asItems] using hitems
                exact .list s ss
            | str t =>
                obtain ⟨rfl, rfl⟩ : t = s ∧ ss = [] := by simpa [asItems] using hitems
                exact .one t
            | _ => simp [asItems] at hitems
  · rintro ⟨s, ss, _ | _, rfl⟩
    · exact ⟨_, _, rfl, by simp [Size.validate], ⟨rfl, [s], rfl⟩, rfl⟩
    · refine ⟨_, _, rfl, ?_, ⟨rfl, s :: ss, rfl⟩, rfl⟩
      have hlength : ¬ (((s :: ss).map Json.str).length : ℤ) < (1 : ℕ) := by
        rw [List.length_map, List.length_cons]
        omega
      rw [Size.validate]
      exact if_neg hlength

/-- `json.of_type(unicode, optional=True)` reads the string. -/
theorem optional_eq_ok_iff {result : Property} : ofType [.unicode] true value = .ok result ↔
    result = value ∧ ∃ s, OptionalString value s := by
  match value with
  | none =>
      simp only [ofType, Option.isNone_none, Bool.and_self, Bool.true_or, if_true,
        Except.ok.injEq]
      exact ⟨fun h => ⟨h.symm, none, .missing⟩, fun h => h.1.symm⟩
  | some (.str s) =>
      simp only [ofType, List.any_cons, Property.isinstance, Json.isinstance, Bool.true_or,
        Bool.or_true, if_true, Except.ok.injEq]
      exact ⟨fun h => ⟨h.symm, _, .one s⟩, fun h => h.1.symm⟩
  | some .null | some (.bool _) | some (.int _) | some (.float _) | some (.list _)
  | some (.dict _) =>
      simp only [ofType, List.any_cons, List.any_nil, Property.isinstance, Json.isinstance,
        Option.isNone_some]
      constructor
      · intro h
        cases h
      · rintro ⟨-, s, h⟩
        cases h

/-! ### The debug server -/

open CommandLine (TargetKind Setting isSwitch defaults)

/-- The launcher is asked to run a target, with the other strings of its property. -/
inductive Asks (request : Request) : TargetKind → String → List String → Prop
  | program {s : String} {ss : List String} (h : SomeStrings (get request "program") s ss) :
      Asks request .file s ss
  | module {s : String} {ss : List String} (h : SomeStrings (get request "module") s ss) :
      Asks request .module s ss
  | code {s : String} {ss : List String} (h : SomeStrings (get request "code") s ss) :
      Asks request .code s ss

/-- The arguments of the interpreter for a target. -/
def targetWords (kind : TargetKind) (s : String) : List String :=
  match kind with
  | .file => [s]
  | .module => ["-m", s]
  | .code => ["-c", s]
  | .pid => ["--pid", s]

/-- A target that is there is read. -/
theorem readTexts_eq_ok {result : Option (List String)} (h : readTexts request key = .ok result) :
    result = none ∨ ∃ s ss, SomeStrings (get request key) s ss ∧ result = some (s :: ss) := by
  rw [readTexts] at h
  split_ifs at h
  · simp only [bind_eq_ok_iff, pure_eq_ok_iff, call_eq_ok_iff, someTexts_eq_ok_iff] at h
    obtain ⟨_, ⟨-, s, ss, hss, rfl⟩, rfl⟩ := h
    exact .inr ⟨s, ss, hss, by rw [toTexts_map]⟩
  · exact .inl (pure_eq_ok_iff.1 h).symm

/-- There is one target. -/
theorem readTargets_eq_ok {targets : Targets} (h : readTargets request = .ok targets) :
    ∃ kind s ss, Asks request kind s ss ∧ targets.cmdline = targetWords kind s ++ ss := by
  simp only [readTargets, bind_eq_ok_iff] at h
  obtain ⟨program, hprogram, module, hmodule, code, hcode, h⟩ := h
  rcases readTexts_eq_ok hprogram with rfl | ⟨s₁, ss₁, h₁, rfl⟩ <;>
    rcases readTexts_eq_ok hmodule with rfl | ⟨s₂, ss₂, h₂, rfl⟩ <;>
      rcases readTexts_eq_ok hcode with rfl | ⟨s₃, ss₃, h₃, rfl⟩ <;>
        simp [isntValid, pure_eq_ok_iff] at h <;> subst h
  · exact ⟨_, _, _, .code h₃, rfl⟩
  · exact ⟨_, _, _, .module h₂, by simp [Targets.cmdline, targetWords]⟩
  · exact ⟨_, _, _, .program h₁, by simp [Targets.cmdline, targetWords]⟩

/-- A number is written in the digits that `int()` reads. -/
theorem map_toAscii (m : ℕ) :
    (toString (m : ℤ)).toList.map CommandLine.toAscii = Numeral.decimal m := by
  have hlist : (toString (m : ℤ)).toList = Nat.toDigits 10 m := by
    rw [show toString (m : ℤ) = Nat.repr m from rfl]
    simp
  rw [hlist]
  refine List.map_congr_left fun c hc => ?_
  have hdigit := Nat.isDigit_of_mem_toDigits (by decide) (by decide) hc
  have hlt : c.toNat < 127 := by
    have : 48 ≤ c.toNat ∧ c.toNat ≤ 57 := by
      simpa [Char.isDigit, UInt32.le_iff_toNat_le] using hdigit
    omega
  rw [CommandLine.toAscii, if_pos hlt]

/-- A number is written so that the debug server reads it back. -/
theorem int_toString {n : ℤ} (hn : 0 ≤ n) : CommandLine.int (toString n) = some n := by
  obtain ⟨m, rfl⟩ := Int.eq_ofNat_of_zero_le hn
  rw [CommandLine.int, map_toAscii, Numeral.parseInt_decimal]

theorem Strings.eq_nil {ss : List String} (h : Strings value ss)
    (hvalue : value = none ∨ value = some (.list [])) : ss = [] := by
  cases h with
  | missing => rfl
  | list ss => simpa using hvalue

variable {launch : Launch} {port : ℤ}

/-- The switch for the access token, if there is one. -/
def tokenWords (token : Option String) : List String :=
  token.elim [] fun token => ["--client-access-token", token]

theorem OptionalString.words {token : Option String} (h : OptionalString value token) :
    (if value.isSome then ["--client-access-token", value.toText] else []) = tokenWords token := by
  cases h with
  | missing => rfl
  | one token => rfl

/-- What starts the debug server. -/
theorem readServer_eq_ok {server : List String} (h : readServer system request = .ok server)
    (hdebug : get request "noDebug" = none ∨ get request "noDebug" = some (.bool false))
    (hptvsdArgs : get request "ptvsdArgs" = none ∨ get request "ptvsdArgs" = some (.list []))
    (hport : get request "port" = some (.int port)) :
    ∃ token, OptionalString (get request "clientAccessToken") token ∧
      server = system.ptvsdDir :: ["--client", "--host", "127.0.0.1", "--port", toString port] ++
        tokenWords token := by
  simp only [readServer, bind_eq_ok_iff, call_eq_ok_iff] at h
  obtain ⟨noDebug, ⟨-, hnoDebug⟩, h⟩ := h
  have hfalse : noDebug.truth = false := by
    rcases hdebug with hdebug | hdebug <;>
      · rw [hdebug] at hnoDebug
        obtain rfl := Except.ok.inj hnoDebug
        rfl
  rw [hfalse] at h
  simp only [Bool.false_eq_true, if_false, bind_eq_ok_iff, call_eq_ok_iff, pure_eq_ok_iff,
    optional_eq_ok_iff, texts_eq_ok_iff] at h
  obtain ⟨_, ⟨-, hport'⟩, _, ⟨-, rfl, token, htoken⟩, _, ⟨-, ss, hss, rfl⟩, rfl⟩ := h
  obtain rfl := hss.eq_nil hptvsdArgs
  rw [hport] at hport'
  obtain rfl := Except.ok.inj hport'
  refine ⟨token, htoken, ?_⟩
  simp only [htoken.words, toTexts_map [], strInt, List.append_nil, List.cons_append]

/-- The settings of the debug server, as they are spelled on the command line. -/
theorem settings_spelled (hrange : 0 ≤ port ∧ port < 65536) (token : Option String) :
    Setting.AllSpelled
      ([.client, .host "127.0.0.1", .port port] ++ token.elim [] fun s => [.clientAccessToken s])
      (["--client", "--host", "127.0.0.1", "--port", toString port] ++ tokenWords token) := by
  have htoken : Setting.AllSpelled (token.elim [] fun s => [.clientAccessToken s])
      (tokenWords token) := by
    cases token with
    | none => exact .nil
    | some s => exact .cons (.clientAccessToken s) .nil
  have hport := CommandLine.Setting.Spelled.port (int_toString hrange.1) hrange
  have h := Setting.AllSpelled.cons .client (.cons (.host "127.0.0.1") (.cons hport htoken))
  exact h

/-- A target that is not taken for a switch is spelled by its arguments. -/
theorem Asks.spelled {kind : TargetKind} {s : String} {ss : List String}
    (h : Asks request kind s ss)
    (hprogram : ∀ s ss, SomeStrings (get request "program") s ss → isSwitch s = false) :
    CommandLine.Target.Spelled kind (.text s) (targetWords kind s) := by
  cases h with
  | program h => exact .file (hprogram s ss h)
  | module h => exact .module s
  | code h => exact .code s

/-- **The debug server recovers what was requested**: it is a client of the adapter at the
requested port, with the access token if there is one, it runs the target, and everything else
is left to the debuggee, whether it looks like a switch or not. -/
theorem launch_parse (logDir : Option String)
    (haccept : (exec (launchRequest system request) predicates).1 = .ok launch)
    (hdebug : get request "noDebug" = none ∨ get request "noDebug" = some (.bool false))
    (hptvsdArgs : get request "ptvsdArgs" = none ∨ get request "ptvsdArgs" = some (.list []))
    (hport : get request "port" = some (.int port)) (hrange : 0 ≤ port ∧ port < 65536)
    (hprogram : ∀ s ss, SomeStrings (get request "program") s ss → isSwitch s = false) :
    ∃ debugOptions useSudo python part kind target others args token,
      request.call "debugOptions" .texts = .ok debugOptions ∧
      readSudo system request debugOptions.toTexts = .ok useSudo ∧
      readPython system request = .ok python ∧
      launch.cmdline = useSudo ++ python ++ system.ptvsdDir :: part ∧
      Asks request kind target others ∧ Strings (get request "args") args ∧
      OptionalString (get request "clientAccessToken") token ∧
      CommandLine.parse part (defaults logDir) =
        .ok ({ defaults logDir with
          client := true, host := "127.0.0.1", port := port, clientAccessToken := token,
          targetKind := some kind, target := some (.text target) }, others ++ args) := by
  simp only [launchRequest, outcome_bind_ofOutcome, outcome_bind_append, outcome_bind_get,
    exec_pure, bind_eq_ok_iff, Except.ok.injEq] at haccept
  obtain ⟨debugOptions, hoptions, useSudo, hsudo, python, hpython, server, hserver, targets,
    htargets, args, hargs, cwd, -, env, -, redirectOutput, -, -, -, -, -, rfl⟩ := haccept
  obtain ⟨token, htoken, rfl⟩ := readServer_eq_ok hserver hdebug hptvsdArgs hport
  obtain ⟨kind, target, others, hasks, hcmdline⟩ := readTargets_eq_ok htargets
  obtain ⟨-, hargs⟩ := call_eq_ok_iff.1 hargs
  obtain ⟨ss, hss, rfl⟩ := texts_eq_ok_iff.1 hargs
  have hsettings := settings_spelled hrange token
  have hkind : ¬(kind = .pid ∧ Setting.wait ∈ [Setting.client, .host "127.0.0.1", .port port] ++
      token.elim [] fun s => [.clientAccessToken s]) := by
    rintro ⟨rfl, -⟩
    cases hasks
  have haccepts := @CommandLine.Accepts.intro (defaults logDir) _ _ _ _ _ hsettings
    (hasks.spelled hprogram) (by cases token <;> simp [Setting.name]) (by simp [Setting.name]) hkind
    (others ++ ss)
  have hparse := CommandLine.parse_of_accepts rfl rfl haccepts
  refine ⟨debugOptions, useSudo, python, _, kind, target, others, ss, token, hoptions, hsudo,
    hpython, ?_, hasks, hss, htoken, hparse.trans ?_⟩
  · simp [hcmdline, toTexts_map]
  · cases token <;> rfl

/-- A launch request with these arguments. -/
def requestOf (items : List (String × Json)) : Request where
  id := 0
  seq := 2
  command := "launch"
  description := "request \"launch\""
  streamName := "Adapter-1"
  handlerName := "launch_request"
  arguments := .dict items

/-- A launcher on Linux, where the programs are in the current directory. -/
def linux : System where
  win32 := false
  executable := "/usr/bin/python3"
  ptvsdDir := "/opt/ptvsd"
  environ := [("PATH", "/usr/bin")]
  dirname := fun _ => ""

/-- The token and the arguments look like switches of the debug server. -/
def switchesRequest : Request :=
  requestOf [("program", .str "a.py"), ("python", .str "python"), ("port", .int 5679),
    ("clientAccessToken", .str "--wait"), ("args", .list [.str "--host", .str ""]),
    ("console", .str "internalConsole")]

theorem launch_parse_switches :
    ∃ launch, (exec (launchRequest linux switchesRequest) []).1 = .ok launch ∧
    ∃ debugOptions useSudo python part kind target others args token,
      switchesRequest.call "debugOptions" .texts = .ok debugOptions ∧
      readSudo linux switchesRequest debugOptions.toTexts = .ok useSudo ∧
      readPython linux switchesRequest = .ok python ∧
      launch.cmdline = useSudo ++ python ++ "/opt/ptvsd" :: part ∧
      Asks switchesRequest kind target others ∧ Strings (get switchesRequest "args") args ∧
      OptionalString (get switchesRequest "clientAccessToken") token ∧
      CommandLine.parse part (defaults none) =
        .ok ({ defaults none with
          client := true, host := "127.0.0.1", port := 5679, clientAccessToken := token,
          targetKind := some kind, target := some (.text target) }, others ++ args) :=
  ⟨_, rfl, launch_parse none rfl (.inl rfl) (.inl rfl) rfl ⟨by decide, by decide⟩ (by
    intro s ss (h : SomeStrings (some (.str "a.py")) s ss)
    cases h
    rfl)⟩

end Launcher

end Ptvsd
