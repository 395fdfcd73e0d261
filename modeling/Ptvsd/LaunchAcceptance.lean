import Ptvsd.LaunchRequest

/-!
# The Launch Requests That the Launcher Accepts

Whether `launch_request` accepts a request, as a condition on its properties: each is valid by
itself, and some of them go together.

## Main results

* `launchRequest_ok_iff`: the launcher accepts a request **exactly if it is `Acceptable`**.
-/

namespace Ptvsd

open Program

namespace Launcher

/-! ### What the launcher accepts -/

/-- The validator accepts the property. -/
def Valid (request : Request) (key : String) (validate : Validator) : Prop :=
  ∃ value, validate (get request key) = .ok value

/-- The legacy flags. -/
def debugOptionsOf (request : Request) : List String :=
  Property.toTexts (get request "debugOptions")

/-- A property that can also be specified as a flag does not contradict it. -/
def FlagValid (request : Request) (propName flagName : String) : Prop :=
  Valid request propName (ofType [.bool] true) ∧
    ¬(flagName ∈ debugOptionsOf request ∧ get request propName = some (.bool false))

/-- The property is set, or its flag is. -/
def Asked (request : Request) (propName flagName : String) : Prop :=
  flagName ∈ debugOptionsOf request ∨ get request propName = some (.bool true)

/-- It is said whether to redirect the output. -/
def RedirectGiven (request : Request) : Prop :=
  "RedirectOutput" ∈ debugOptionsOf request ∨ (get request "redirectOutput").isSome = true

/-- The properties that can also be specified as flags. -/
def flagged : List (String × String) :=
  [("sudo", "Sudo"), ("redirectOutput", "RedirectOutput"),
    ("waitOnNormalExit", "WaitOnNormalExit"), ("waitOnAbnormalExit", "WaitOnAbnormalExit")]

/-- The properties that say what to run. -/
def targetKeys : List String := ["program", "module", "code"]

/-- A request that the launcher accepts. -/
structure Acceptable (system : System) (request : Request) : Prop where
  arguments : request.HasArguments
  debugOptions : Valid request "debugOptions" .texts
  flags : ∀ names ∈ flagged, FlagValid request names.1 names.2
  root : Asked request "sudo" "Sudo" → system.win32 = false
  onePython : ¬((get request "python").isSome = true ∧ (get request "pythonPath").isSome = true)
  python : Valid request (if (get request "pythonPath").isSome then "pythonPath" else "python")
    .someTexts
  noDebug : Valid request "noDebug" (.default (.bool false))
  server : get request "noDebug" ≠ some (.bool true) →
    Valid request "port" (ofType [.int] false) ∧
      Valid request "clientAccessToken" (ofType [.unicode] true) ∧ Valid request "ptvsdArgs" .texts
  targets : ∀ key ∈ targetKeys, (get request key).isSome = true → Valid request key .someTexts
  oneTarget : targetKeys.countP (fun key => (get request key).isSome) = 1
  args : Valid request "args" .texts
  cwd : Valid request "cwd" (ofType [.unicode] true)
  env : Valid request "env" (.object (ofType [.unicode] false))
  console : ¬RedirectGiven request → Valid request "console" (ofType [.unicode] false)

/-! ### What each part accepts -/

variable {system : System} {request : Request} {debugOptions : List String}

/-- A key is there if something is found for it. -/
theorem has_eq (items : List (String × Json)) (key : String) :
    Dict.has items key = (items.lookup key).isSome := by
  induction items with
  | nil => rfl
  | cons item rest ih =>
      obtain ⟨k, value⟩ := item
      rw [Dict.has] at ih
      by_cases hk : k = key
      · simp [Dict.has, hk]
      · have hne : (key == k) = false := by simpa using Ne.symm hk
        simp [Dict.has, List.lookup_cons, hk, hne, ih]

/-- A property is there if it is found. -/
theorem contains_eq (request : Request) (key : String) :
    request.contains key = (get request key).isSome := by
  unfold Request.contains get Request.items
  split
  · exact has_eq _ key
  · rfl

/-- A property is read if it is valid. -/
theorem exists_call_iff {key : String} {validate : Validator} :
    (∃ value, request.call key validate = .ok value) ↔
      request.HasArguments ∧ Valid request key validate := by
  simp only [call_eq_ok_iff, Valid, exists_and_left]

/-- What returns returns in both of its parts. -/
theorem exists_bind_iff {α β : Type} {x : Except PyError α} {f : α → Except PyError β} :
    (∃ b, x >>= f = .ok b) ↔ ∃ a, x = .ok a ∧ ∃ b, f a = .ok b := by
  simp only [bind_eq_ok_iff]
  exact ⟨fun ⟨b, a, hx, hf⟩ => ⟨a, hx, b, hf⟩, fun ⟨a, hx, b, hf⟩ => ⟨b, a, hx, hf⟩⟩

/-- `json.of_type(bool, optional=True)`. -/
theorem optionalBool_eq_ok_iff {value result : Property} :
    ofType [.bool] true value = .ok result ↔
      result = value ∧ (value = none ∨ ∃ b, value = some (.bool b)) := by
  match value with
  | none => simp [ofType, eq_comm]
  | some (.bool b) => simp [ofType, Property.isinstance, Json.isinstance, eq_comm]
  | some .null | some (.int _) | some (.float _) | some (.str _) | some (.list _)
  | some (.dict _) => simp [ofType, Property.isinstance, Json.isinstance]

/-- What `property_or_debug_option` returns for a valid property. -/
def flagValue (request : Request) (propName flagName : String) : Option Bool :=
  if flagName ∈ debugOptionsOf request then some true
  else (get request propName).map Json.truth

variable {propName flagName : String}

/-- The property is left out, or says yes or no. -/
theorem FlagValid.cases (h : FlagValid request propName flagName) :
    get request propName = none ∨ ∃ b, get request propName = some (.bool b) := by
  obtain ⟨⟨_, hvalue⟩, -⟩ := h
  exact (optionalBool_eq_ok_iff.1 hvalue).2

/-- The flag is on where it is asked for. -/
theorem FlagValid.flagValue_eq_true_iff (h : FlagValid request propName flagName) :
    flagValue request propName flagName = some true ↔ Asked request propName flagName := by
  unfold flagValue Asked
  by_cases hflag : flagName ∈ debugOptionsOf request
  · simp [hflag]
  · rcases h.cases with hnone | ⟨b, hb⟩
    · simp [hflag, hnone]
    · simp [hflag, hb, Json.truth]

/-- Nothing is said in either way. -/
theorem flagValue_eq_none_iff : flagValue request propName flagName = none ↔
    ¬(flagName ∈ debugOptionsOf request ∨ (get request propName).isSome = true) := by
  unfold flagValue
  by_cases hflag : flagName ∈ debugOptionsOf request
  · simp [hflag]
  · simp [hflag]

/-- The flag that is read. -/
theorem propertyOrDebugOption_eq_ok_iff {value : Option Bool} :
    propertyOrDebugOption request (debugOptionsOf request) propName flagName = .ok value ↔
      request.HasArguments ∧ FlagValid request propName flagName ∧
        flagValue request propName flagName = value := by
  have hfalse : (get request propName = none ∨ ∃ b, get request propName = some (.bool b)) →
      ((get request propName).map Json.truth = some false ↔
        get request propName = some (.bool false)) := by
    rintro (h | ⟨b, h⟩) <;> simp [h, Json.truth]
  constructor
  · intro h
    simp only [propertyOrDebugOption, bind_eq_ok_iff, call_eq_ok_iff, optionalBool_eq_ok_iff] at h
    obtain ⟨property, ⟨hargs, hproperty, hbool⟩, h⟩ := h
    subst hproperty
    have hvalid : Valid request propName (ofType [.bool] true) :=
      ⟨_, optionalBool_eq_ok_iff.2 ⟨rfl, hbool⟩⟩
    by_cases hflag : flagName ∈ debugOptionsOf request
    · rw [if_pos hflag] at h
      split_ifs at h with hvalue
      · cases h
      · refine ⟨hargs, ⟨hvalid, fun hboth => hvalue ((hfalse hbool).2 hboth.2)⟩, ?_⟩
        rw [flagValue, if_pos hflag, pure_eq_ok_iff.1 h]
    · rw [if_neg hflag] at h
      refine ⟨hargs, ⟨hvalid, fun hboth => hflag hboth.1⟩, ?_⟩
      rw [flagValue, if_neg hflag, pure_eq_ok_iff.1 h]
  · rintro ⟨hargs, hvalid, hvalue⟩
    have hbool := hvalid.cases
    refine bind_eq_ok_iff.2 ⟨_, call_eq_ok_iff.2 ⟨hargs, optionalBool_eq_ok_iff.2 ⟨rfl, hbool⟩⟩, ?_⟩
    rw [← hvalue, flagValue]
    by_cases hflag : flagName ∈ debugOptionsOf request
    · rw [if_pos hflag, if_pos hflag,
        if_neg fun hvalue => hvalid.2 ⟨hflag, (hfalse hbool).1 hvalue⟩]
      rfl
    · rw [if_neg hflag, if_neg hflag]
      rfl

/-- When it can be said whether to use `sudo`. -/
theorem exists_readSudo_iff :
    (∃ words, readSudo system request (debugOptionsOf request) = .ok words) ↔
      request.HasArguments ∧ FlagValid request "sudo" "Sudo" ∧
        (Asked request "sudo" "Sudo" → system.win32 = false) := by
  simp only [readSudo, exists_bind_iff, propertyOrDebugOption_eq_ok_iff]
  constructor
  · rintro ⟨value, ⟨hargs, hvalid, hvalue⟩, words, hwords⟩
    refine ⟨hargs, hvalid, fun h => ?_⟩
    rw [← hvalue, if_pos (hvalid.flagValue_eq_true_iff.2 h)] at hwords
    cases hwin : system.win32 with
    | false => rfl
    | true =>
        rw [hwin] at hwords
        cases hwords
  · rintro ⟨hargs, hvalid, hroot⟩
    refine ⟨_, ⟨hargs, hvalid, rfl⟩, ?_⟩
    by_cases hasked : flagValue request "sudo" "Sudo" = some true
    · rw [if_pos hasked, hroot (hvalid.flagValue_eq_true_iff.1 hasked)]
      exact ⟨_, rfl⟩
    · rw [if_neg hasked]
      exact ⟨_, rfl⟩

/-- When there is an interpreter. -/
theorem exists_readPython_iff : (∃ python, readPython system request = .ok python) ↔
    request.HasArguments ∧
      ¬((get request "python").isSome = true ∧ (get request "pythonPath").isSome = true) ∧
      Valid request (if (get request "pythonPath").isSome then "pythonPath" else "python")
        .someTexts := by
  have hkey : pythonKey request =
      if (get request "python").isSome = true ∧ (get request "pythonPath").isSome = true then
        isntValid request "\"pythonPath\" is not valid if \"python\" is specified"
      else .ok (if (get request "pythonPath").isSome then "pythonPath" else "python") := by
    simp only [pythonKey, contains_eq]
    cases (get request "python").isSome <;> cases (get request "pythonPath").isSome <;> rfl
  rw [readPython, exists_bind_iff, hkey]
  by_cases hboth : (get request "python").isSome = true ∧ (get request "pythonPath").isSome = true
  · simp [hboth, isntValid]
  · rw [if_neg hboth]
    simp only [Except.ok.injEq, exists_eq_left', exists_bind_iff, pure_eq_ok_iff, exists_eq',
      and_true, exists_call_iff, hboth, not_false_eq_true, true_and]

/-- When the debug server can be started. -/
theorem exists_readServer_iff : (∃ words, readServer system request = .ok words) ↔
    request.HasArguments ∧ Valid request "noDebug" (.default (.bool false)) ∧
      (get request "noDebug" ≠ some (.bool true) →
        Valid request "port" (ofType [.int] false) ∧
          Valid request "clientAccessToken" (ofType [.unicode] true) ∧
          Valid request "ptvsdArgs" .texts) := by
  have hvalue : ∀ value, Validator.default (.bool false) (get request "noDebug") = .ok value →
      (value.truth = true ↔ get request "noDebug" = some (.bool true)) := by
    intro value h
    generalize get request "noDebug" = property at h ⊢
    match property with
    | none =>
      obtain rfl := Except.ok.inj h
      simp [Property.truth, Json.truth]
    | some (.bool b) =>
      obtain rfl := Except.ok.inj h
      simp [Property.truth, Json.truth]
    | some .null | some (.int _) | some (.float _) | some (.str _) | some (.list _)
    | some (.dict _) => simp [Validator.default, Json.isinstanceOf, Json.isinstance] at h
  rw [readServer, exists_bind_iff]
  constructor
  · rintro ⟨value, hcall, h⟩
    obtain ⟨hargs, hnoDebug⟩ := call_eq_ok_iff.1 hcall
    refine ⟨hargs, ⟨_, hnoDebug⟩, fun hne => ?_⟩
    rw [if_neg (mt (hvalue value hnoDebug).1 hne)] at h
    simp only [exists_bind_iff] at h
    obtain ⟨_, hport, _, htoken, _, hargs, -⟩ := h
    exact ⟨(exists_call_iff.1 ⟨_, hport⟩).2, (exists_call_iff.1 ⟨_, htoken⟩).2,
      (exists_call_iff.1 ⟨_, hargs⟩).2⟩
  · rintro ⟨hargs, ⟨value, hnoDebug⟩, h⟩
    refine ⟨value, call_eq_ok_iff.2 ⟨hargs, hnoDebug⟩, ?_⟩
    by_cases htrue : value.truth = true
    · rw [if_pos htrue]
      exact ⟨_, rfl⟩
    · rw [if_neg htrue]
      obtain ⟨⟨port, hport⟩, ⟨token, htoken⟩, ptvsdArgs, hptvsdArgs⟩ :=
        h (mt (hvalue value hnoDebug).2 htrue)
      simp only [exists_bind_iff]
      exact ⟨port, call_eq_ok_iff.2 ⟨hargs, hport⟩, token, call_eq_ok_iff.2 ⟨hargs, htoken⟩,
        ptvsdArgs, call_eq_ok_iff.2 ⟨hargs, hptvsdArgs⟩, _, rfl⟩

/-- When a target can be read. -/
theorem exists_readTexts_iff {key : String} (hargs : request.HasArguments) :
    (∃ result, readTexts request key = .ok result) ↔
      ((get request key).isSome = true → Valid request key .someTexts) := by
  rw [readTexts, contains_eq]
  split_ifs with hkey
  · simp only [exists_bind_iff, pure_eq_ok_iff, exists_eq', and_true, exists_call_iff, hkey,
      forall_const, hargs, true_and]
  · exact ⟨fun _ h => absurd h hkey, fun _ => ⟨_, rfl⟩⟩

/-- A target is read if it is there. -/
theorem isSome_of_readTexts {key : String} {result : Option (List String)}
    (h : readTexts request key = .ok result) : result.isSome = (get request key).isSome := by
  rw [readTexts, contains_eq] at h
  split_ifs at h with hkey
  · simp only [bind_eq_ok_iff, pure_eq_ok_iff] at h
    obtain ⟨_, -, rfl⟩ := h
    exact hkey.symm
  · obtain rfl := pure_eq_ok_iff.1 h
    simpa using hkey

/-- When there is one target. -/
theorem exists_readTargets_iff (hargs : request.HasArguments) :
    (∃ targets, readTargets request = .ok targets) ↔
      (∀ key ∈ targetKeys, (get request key).isSome = true → Valid request key .someTexts) ∧
        targetKeys.countP (fun key => (get request key).isSome) = 1 := by
  have hall : (∀ key ∈ targetKeys, (get request key).isSome = true → Valid request key .someTexts)
      ↔ ∀ key ∈ targetKeys, ∃ result, readTexts request key = .ok result :=
    forall₂_congr fun key _ => (exists_readTexts_iff hargs).symm
  have hcount : ∀ program module code, readTexts request "program" = .ok program →
      readTexts request "module" = .ok module → readTexts request "code" = .ok code →
      [program, module, code].countP Option.isSome =
        targetKeys.countP fun key => (get request key).isSome := by
    intro program module code hprogram hmodule hcode
    simp only [targetKeys, List.countP_cons, List.countP_nil, isSome_of_readTexts hprogram,
      isSome_of_readTexts hmodule, isSome_of_readTexts hcode]
  rw [hall]
  simp only [readTargets, exists_bind_iff]
  constructor
  · rintro ⟨program, hprogram, module, hmodule, code, hcode, targets, h⟩
    rw [hcount _ _ _ hprogram hmodule hcode] at h
    refine ⟨?_, ?_⟩
    · simp only [targetKeys, List.forall_mem_cons]
      exact ⟨⟨_, hprogram⟩, ⟨_, hmodule⟩, ⟨_, hcode⟩, by simp⟩
    · split_ifs at h with hzero hone
      · cases h
      · cases h
      · exact not_not.1 hone
  · rintro ⟨hvalid, hone⟩
    simp only [targetKeys, List.forall_mem_cons] at hvalid
    obtain ⟨⟨program, hprogram⟩, ⟨module, hmodule⟩, ⟨code, hcode⟩, -⟩ := hvalid
    refine ⟨program, hprogram, module, hmodule, code, hcode, ?_⟩
    rw [hcount _ _ _ hprogram hmodule hcode, hone]
    exact ⟨_, rfl⟩

/-- When the directory can be read. -/
theorem exists_readCwd_iff {program : Option (List String)} :
    (∃ cwd, readCwd system request program = .ok cwd) ↔
      request.HasArguments ∧ Valid request "cwd" (ofType [.unicode] true) := by
  rw [readCwd, exists_bind_iff, ← exists_call_iff]
  refine exists_congr fun cwd => and_iff_left ?_
  -- the working directory is found in one way or another, whatever was given
  cases cwd <;> cases program <;> exact ⟨_, rfl⟩

/-- When the environment can be read. -/
theorem exists_readEnv_iff : (∃ env, readEnv system request = .ok env) ↔
    request.HasArguments ∧ Valid request "env" (.object (ofType [.unicode] false)) := by
  rw [readEnv, ← exists_call_iff, exists_bind_iff]
  refine exists_congr fun update => and_iff_left_of_imp fun hcall => ?_
  have hargs := (call_eq_ok_iff.1 hcall).1
  exact exists_bind_iff.2 ⟨get request "gevent", call_eq_ok_iff.2 ⟨hargs, rfl⟩, _, rfl⟩

/-- When it can be said whether to redirect the output. -/
theorem exists_readRedirectOutput_iff :
    (∃ result, readRedirectOutput request (debugOptionsOf request) = .ok result) ↔
      request.HasArguments ∧ FlagValid request "redirectOutput" "RedirectOutput" ∧
        (¬RedirectGiven request → Valid request "console" (ofType [.unicode] false)) := by
  simp only [readRedirectOutput, exists_bind_iff, propertyOrDebugOption_eq_ok_iff]
  constructor
  · rintro ⟨value, ⟨hargs, hvalid, hvalue⟩, h⟩
    refine ⟨hargs, hvalid, fun hgiven => ?_⟩
    obtain rfl : none = value := (flagValue_eq_none_iff.2 hgiven).symm.trans hvalue
    obtain ⟨console, hconsole, -⟩ := exists_bind_iff.1 h
    exact (exists_call_iff.1 ⟨console, hconsole⟩).2
  · rintro ⟨hargs, hvalid, hconsole⟩
    refine ⟨_, ⟨hargs, hvalid, rfl⟩, ?_⟩
    cases hvalue : flagValue request "redirectOutput" "RedirectOutput" with
    | some value => exact ⟨value, rfl⟩
    | none =>
        obtain ⟨console, hconsole⟩ := hconsole (flagValue_eq_none_iff.1 hvalue)
        exact exists_bind_iff.2 ⟨console, call_eq_ok_iff.2 ⟨hargs, hconsole⟩, _, rfl⟩

/-- When it can be said whether to wait at the exit. -/
theorem exists_readPredicate_iff {predicate : ℤ → Bool} :
    (∃ result, readPredicate request (debugOptionsOf request) propName flagName predicate =
      .ok result) ↔ request.HasArguments ∧ FlagValid request propName flagName := by
  simp only [readPredicate, exists_bind_iff, propertyOrDebugOption_eq_ok_iff]
  constructor
  · rintro ⟨_, ⟨hargs, hvalid, -⟩, -⟩
    exact ⟨hargs, hvalid⟩
  · rintro ⟨hargs, hvalid⟩
    exact ⟨_, ⟨hargs, hvalid, rfl⟩, _, rfl⟩

/-- What "debugOptions" is read as is what is in it. -/
theorem toTexts_of_texts {value : Property} (h : Validator.texts (get request "debugOptions") =
    .ok value) : value.toTexts = debugOptionsOf request := by
  obtain ⟨ss, hss, rfl⟩ := texts_eq_ok_iff.1 h
  rw [toTexts_map, debugOptionsOf]
  generalize get request "debugOptions" = property at hss
  cases hss with
  | missing => rfl
  | list ss => rw [toTexts_map]

/-- **The requests that the launcher accepts.** -/
theorem launchRequest_ok_iff (system : System) (request : Request)
    (predicates : List (ℤ → Bool)) :
    (∃ launch, (exec (launchRequest system request) predicates).1 = .ok launch) ↔
      Acceptable system request := by
  simp only [launchRequest, outcome_bind_ofOutcome, outcome_bind_append, outcome_bind_get,
    exec_pure, exists_bind_iff, Except.ok.injEq, exists_eq', and_true]
  constructor
  · rintro ⟨debugOptions, hoptions, h⟩
    obtain ⟨hargs, hvalid⟩ := call_eq_ok_iff.1 hoptions
    rw [toTexts_of_texts hvalid] at h
    obtain ⟨useSudo, hsudo, python, hpython, server, hserver, targets, htargets, args, hcallArgs,
      cwd, hcwd, env, henv, redirectOutput, hredirect, onNormal, hnormal, onAbnormal,
      habnormal⟩ := h
    obtain ⟨-, hsudoValid, hroot⟩ := exists_readSudo_iff.1 ⟨_, hsudo⟩
    obtain ⟨-, honePython, hpythonValid⟩ := exists_readPython_iff.1 ⟨_, hpython⟩
    obtain ⟨-, hnoDebug, hserverValid⟩ := exists_readServer_iff.1 ⟨_, hserver⟩
    obtain ⟨htargetsValid, honeTarget⟩ := (exists_readTargets_iff hargs).1 ⟨_, htargets⟩
    obtain ⟨-, hredirectValid, hconsole⟩ := exists_readRedirectOutput_iff.1 ⟨_, hredirect⟩
    exact {
      arguments := hargs
      debugOptions := ⟨_, hvalid⟩
      flags := by
        simp only [flagged, List.forall_mem_cons]
        exact ⟨hsudoValid, hredirectValid, (exists_readPredicate_iff.1 ⟨_, hnormal⟩).2,
          (exists_readPredicate_iff.1 ⟨_, habnormal⟩).2, by simp⟩
      root := hroot
      onePython := honePython
      python := hpythonValid
      noDebug := hnoDebug
      server := hserverValid
      targets := htargetsValid
      oneTarget := honeTarget
      args := (exists_call_iff.1 ⟨_, hcallArgs⟩).2
      cwd := (exists_readCwd_iff.1 ⟨_, hcwd⟩).2
      env := (exists_readEnv_iff.1 ⟨_, henv⟩).2
      console := hconsole }
  · intro h
    have hargs := h.arguments
    have hflags := h.flags
    simp only [flagged, List.forall_mem_cons] at hflags
    obtain ⟨hsudoValid, hredirectValid, hnormal, habnormal, -⟩ := hflags
    obtain ⟨debugOptions, hvalid⟩ := h.debugOptions
    obtain ⟨useSudo, hsudo⟩ := exists_readSudo_iff.2 ⟨hargs, hsudoValid, h.root⟩
    obtain ⟨python, hpython⟩ : ∃ python, readPython system request = .ok python :=
      exists_readPython_iff.2 ⟨hargs, h.onePython, h.python⟩
    obtain ⟨server, hserver⟩ : ∃ words, readServer system request = .ok words :=
      exists_readServer_iff.2 ⟨hargs, h.noDebug, h.server⟩
    obtain ⟨targets, htargets⟩ := (exists_readTargets_iff hargs).2 ⟨h.targets, h.oneTarget⟩
    obtain ⟨args, hcallArgs⟩ := exists_call_iff.2 ⟨hargs, h.args⟩
    obtain ⟨cwd, hcwd⟩ : ∃ cwd, readCwd system request targets.program = .ok cwd :=
      exists_readCwd_iff.2 ⟨hargs, h.cwd⟩
    obtain ⟨env, henv⟩ : ∃ env, readEnv system request = .ok env :=
      exists_readEnv_iff.2 ⟨hargs, h.env⟩
    obtain ⟨redirectOutput, hredirect⟩ :=
      exists_readRedirectOutput_iff.2 ⟨hargs, hredirectValid, h.console⟩
    obtain ⟨onNormal, hnormal⟩ := (@exists_readPredicate_iff _ _ _ (· == 0)).2
      ⟨hargs, hnormal⟩
    obtain ⟨onAbnormal, habnormal⟩ := (@exists_readPredicate_iff _ _ _ (· != 0)).2
      ⟨hargs, habnormal⟩
    refine ⟨debugOptions, call_eq_ok_iff.2 ⟨hargs, hvalid⟩, ?_⟩
    rw [toTexts_of_texts hvalid]
    exact ⟨useSudo, hsudo, python, hpython, server, hserver, targets, htargets, args, hcallArgs,
      cwd, hcwd, env, henv, redirectOutput, hredirect, onNormal, hnormal, onAbnormal, habnormal⟩

end Launcher

end Ptvsd
