import Ptvsd.LaunchRequest

/-!
# The Command Line of the Debugger

`pydevd` has a command line of its own. `process_command_line` reads it into the dictionary
`setup`, and `setup_to_argv` writes the dictionary as a command line again, for a subprocess that is
to be debugged in the same way. Both go through one list of argument handlers.

## Main results

* `processCommandLine_setupToArgv`: **what is written is read back**: the subprocess has the
  settings of its parent, and gets its own file and arguments, unless the port is no number.
-/

namespace Ptvsd

namespace SetupArguments

/-- A value in `setup`. -/
inductive Value where
  | none
  | bool (b : Bool)
  | int (n : ℤ)
  | str (s : String)
  deriving DecidableEq

namespace Value

/-- `'%s' % (v,)`. -/
def text : Value → String
  | .none => "None"
  | .bool b => if b then "True" else "False"
  | .int n => toString n
  | .str s => s

/-- `bool(v)`. -/
def truth : Value → Bool
  | .none => false
  | .bool b => b
  | .int n => n ≠ 0
  | .str s => s ≠ ""

/-- The number that a value is for `==`. -/
def number : Value → Option ℤ
  | .bool b => some (if b then 1 else 0)
  | .int n => some n
  | _ => Option.none

/-- `v == w`. -/
def eq (v w : Value) : Bool := v = w || (v.number.isSome && v.number = w.number)

end Value

/-- The dictionary `setup`. -/
abbrev Setup := String → Option Value

/-- `setup[name] = v`. -/
def Setup.set (setup : Setup) (name : String) (v : Value) : Setup :=
  Function.update setup name (some v)

/-- What is raised for a command line. -/
inductive Error where
  /-- `IndexError`: an argument is missing. -/
  | index
  /-- The `ValueError` of `int`. -/
  | literal (s : String)
  /-- A `ValueError` that is raised here. -/
  | value (text : String)
  deriving DecidableEq

/-! ### The handlers -/

/-- `ArgHandlerWithParam`, with `convert_val` and `default_val`, or `ArgHandlerBool`. -/
inductive Kind where
  | param (convertVal : Option (String → Option ℤ)) (defaultVal : Value)
  | bool

/-- A handler of one argument, by its name. -/
structure Handler where
  argName : String
  kind : Kind

/-- `ACCEPTED_ARG_HANDLERS`. -/
def acceptedArgHandlers : List Handler :=
  [⟨"port", .param (some CommandLine.int) (.int 0)⟩,
    ⟨"vm_type", .param none .none⟩,
    ⟨"client", .param none .none⟩,
    ⟨"access-token", .param none .none⟩,
    ⟨"client-access-token", .param none .none⟩,
    ⟨"server", .bool⟩,
    ⟨"DEBUG_RECORD_SOCKET_READS", .bool⟩,
    ⟨"multiproc", .bool⟩,
    ⟨"multiprocess", .bool⟩,
    ⟨"save-signatures", .bool⟩,
    ⟨"save-threading", .bool⟩,
    ⟨"save-asyncio", .bool⟩,
    ⟨"print-in-debugger-startup", .bool⟩,
    ⟨"cmd-line", .bool⟩,
    ⟨"module", .bool⟩,
    ⟨"json-dap", .bool⟩,
    ⟨"json-dap-http", .bool⟩,
    ⟨"protocol-quoted-line", .bool⟩,
    ⟨"protocol-http", .bool⟩]

namespace Handler

/-- `arg_v_rep`. -/
def argVRep (h : Handler) : String := "--" ++ h.argName

/-- `default_val`. -/
def defaultVal (h : Handler) : Value :=
  match h.kind with
  | .param _ v => v
  | .bool => .bool false

/-- `to_argv`: what is appended to the list. -/
def toArgv (h : Handler) (setup : Setup) : List String :=
  match h.kind, (setup h.argName).getD .none with
  | .param _ d, v => if v ≠ .none ∧ ¬ v.eq d then [h.argVRep, v.text] else []
  | .bool, v => if v.truth then [h.argVRep] else []

end Handler

/-- `ARGV_REP_TO_HANDLER.get(arg)`. -/
def handlerOf (arg : String) : Option Handler := acceptedArgHandlers.find? (·.argVRep = arg)

/-- `setup_to_argv`, `file` being what `get_pydevd_file` returns. -/
def setupToArgv (file : String) (setup : Setup) : List String :=
  file :: (acceptedArgHandlers.filter fun h => (setup h.argName).isSome).flatMap (·.toArgv setup)

/-! ### Reading -/

/-- `s.startswith(p)`. -/
def startsWith (s p : String) : Bool := p.toList.isPrefixOf s.toList

/-- What `--qt-support` stands for. -/
def qtSupport (arg : String) : Except Error Value :=
  if arg = "--qt-support" then .ok (.str "auto")
  else if startsWith arg "--qt-support=" then
    let mode := String.ofList (arg.toList.drop "--qt-support=".toList.length)
    if mode ∉ ["none", "auto", "pyqt5", "pyqt4", "pyside"] then
      .error (.value ("qt-support mode invalid: " ++ mode))
    else if mode = "none" then .ok (.str "")
    else .ok (.str mode)
  else .error (.value ("Unexpected definition for qt-support flag: " ++ arg))

/-- `set_debug`. -/
def setDebug (setup : Setup) : Setup :=
  ((setup.set "DEBUG_RECORD_SOCKET_READS" (.bool true)).set "DEBUG_TRACE_BREAKPOINTS" (.int 1)).set
    "DEBUG_TRACE_LEVEL" (.int 3)

/-- The loop: the arguments that have been dealt with are removed from `argv`. -/
def readArguments (setup : Setup) : List String → Except Error (Setup × List String)
  | [] => .ok (setup, [])
  | arg :: argv =>
      match handlerOf arg with
      | some ⟨name, .param convertVal _⟩ =>
          match argv with
          | [] => .error .index
          | val :: argv =>
              match convertVal with
              | none => readArguments (setup.set name (.str val)) argv
              | some convertVal =>
                  match convertVal val with
                  | none => .error (.literal val)
                  | some n => readArguments (setup.set name (.int n)) argv
      | some ⟨name, .bool⟩ => readArguments (setup.set name (.bool true)) argv
      | none =>
          if startsWith arg "--qt-support" then
            match qtSupport arg with
            | .error e => .error e
            | .ok v => readArguments (setup.set "qt-support" v) argv
          else if arg = "--file" then
            match argv with
            | [] => .error .index
            | file :: argv => .ok (setup.set "file" (.str file), file :: argv)
          else if arg = "--DEBUG" then readArguments (setDebug setup) argv
          else .error (.value ("Unexpected option: " ++ arg))

/-- A value is set for each handler. -/
def setAll (value : Handler → Value) (handlers : List Handler) (setup : Setup) : Setup :=
  handlers.foldl (fun setup h => setup.set h.argName (value h)) setup

/-- The dictionary before the command line is read. -/
def defaults : Setup :=
  ((setAll Handler.defaultVal acceptedArgHandlers fun _ => none).set "file" (.str "")).set
    "qt-support" (.str "")

/-- `process_command_line`, with what is left of `argv`. -/
def processCommandLine : List String → Except Error (Setup × List String)
  | [] => .error .index
  | _ :: argv => readArguments defaults argv

/-! ### What is passed on -/

/-- What a subprocess has for the argument of a handler: a number that is written is read as a
number again, and what is not written is left at the default. -/
def Handler.passed (h : Handler) (setup : Setup) : Option Value :=
  match h.kind, (setup h.argName).getD .none with
  | .param convertVal d, v =>
      if v ≠ .none ∧ ¬ v.eq d then
        match convertVal with
        | none => some (.str v.text)
        | some convertVal => (convertVal v.text).map .int
      else some d
  | .bool, v => some (.bool v.truth)

/-- All settings can be passed on: the port, unless it is the default, is a number. -/
def Passable (setup : Setup) : Prop := ∀ h ∈ acceptedArgHandlers, (h.passed setup).isSome

instance (setup : Setup) : Decidable (Passable setup) :=
  inferInstanceAs (Decidable (∀ h ∈ acceptedArgHandlers, (h.passed setup).isSome))

variable {setup t : Setup} {h : Handler} {argv args : List String} {arg name file : String}
  {v : Value}

theorem argName_nodup : (acceptedArgHandlers.map Handler.argName).Nodup := by decide

@[simp] theorem set_self : setup.set name v name = some v := Function.update_self ..

theorem set_of_ne (hname : arg ≠ name) : setup.set name v arg = setup arg :=
  Function.update_of_ne hname _ _

theorem handlerOf_argVRep (hh : h ∈ acceptedArgHandlers) : handlerOf h.argVRep = some h := by
  have hrep : ∀ h' : Handler, h'.argVRep = h.argVRep ↔ h'.argName = h.argName := fun h' => by
    simp [Handler.argVRep]
  have hnames := argName_nodup
  rw [handlerOf]
  simp only [hrep]
  generalize acceptedArgHandlers = handlers at hh hnames
  induction handlers with
  | nil => simp at hh
  | cons h' handlers ih =>
      rw [List.map_cons, List.nodup_cons] at hnames
      rcases List.mem_cons.mp hh with rfl | hmem
      · simp
      · have hne : h'.argName ≠ h.argName := fun heq =>
          hnames.1 (heq ▸ List.mem_map_of_mem hmem)
        rw [List.find?_cons_of_neg (by simpa using hne)]
        exact ih hmem hnames.2

/-- What is not written is the default. -/
theorem passed_of_toArgv (hnil : h.toArgv setup = []) : h.passed setup = some h.defaultVal := by
  obtain ⟨name, kind⟩ := h
  rcases kind with ⟨convertVal, d⟩ | _
  · simp only [Handler.toArgv] at hnil
    split_ifs at hnil with hv
    simp only [Handler.passed, if_neg hv]
    rfl
  · simp only [Handler.toArgv] at hnil
    split_ifs at hnil with hv
    simp only [Handler.passed, Bool.eq_false_iff.mpr hv]
    rfl

/-- The arguments that a handler writes, in front of others. -/
theorem readArguments_toArgv (hh : h ∈ acceptedArgHandlers) (hne : h.toArgv setup ≠ []) :
    readArguments t (h.toArgv setup ++ argv) =
      match h.passed setup with
      | none => .error (.literal ((setup h.argName).getD .none).text)
      | some v => readArguments (t.set h.argName v) argv := by
  have hhandler := handlerOf_argVRep hh
  obtain ⟨name, kind⟩ := h
  rcases kind with ⟨convertVal, d⟩ | _
  · simp only [Handler.toArgv, Handler.passed] at hne ⊢
    split_ifs at hne ⊢ with hv
    · rw [List.cons_append, List.singleton_append, readArguments.eq_def]
      rcases convertVal with _ | convertVal
      · simp only [hhandler]
      · cases hn : convertVal ((setup name).getD .none).text <;> simp [hhandler, hn]
    · exact absurd rfl hne
  · simp only [Handler.toArgv, Handler.passed] at hne ⊢
    split_ifs at hne ⊢ with hv
    · rw [List.singleton_append, readArguments.eq_def]
      simp only [hhandler, hv]
    · exact absurd rfl hne

variable {handlers : List Handler} {value : Handler → Value}

theorem setAll_of_notMem (hname : name ∉ handlers.map Handler.argName) :
    setAll value handlers t name = t name := by
  induction handlers generalizing t with
  | nil => rfl
  | cons h handlers ih =>
      rw [List.map_cons, List.mem_cons, not_or] at hname
      rw [setAll, List.foldl_cons]
      exact (ih hname.2).trans (set_of_ne hname.1)

theorem setAll_of_mem (hnodup : (handlers.map Handler.argName).Nodup) (hh : h ∈ handlers) :
    setAll value handlers t h.argName = some (value h) := by
  induction handlers generalizing t with
  | nil => simp at hh
  | cons h' handlers ih =>
      rw [List.map_cons, List.nodup_cons] at hnodup
      rw [setAll, List.foldl_cons]
      rcases List.mem_cons.mp hh with rfl | hmem
      · exact (setAll_of_notMem hnodup.1).trans set_self
      · exact ih hnodup.2 hmem

/-- The dictionary after the arguments of all handlers. -/
def received (setup : Setup) (handlers : List Handler) : Setup → Setup :=
  setAll (fun h => (h.passed setup).getD .none) (handlers.filter (·.toArgv setup ≠ []))

theorem received_of_mem (hnodup : (handlers.map Handler.argName).Nodup) (hh : h ∈ handlers) :
    received setup handlers t h.argName =
      if h.toArgv setup = [] then t h.argName else some ((h.passed setup).getD .none) := by
  have hfilter := (List.filter_sublist (p := fun h : Handler => h.toArgv setup ≠ [])
    (l := handlers)).map Handler.argName
  split_ifs with hnil
  · refine setAll_of_notMem fun hmem => ?_
    obtain ⟨h', hh', heq⟩ := List.mem_map.mp hmem
    obtain ⟨hh', hne⟩ := List.mem_filter.mp hh'
    rw [List.inj_on_of_nodup_map hnodup hh' hh heq] at hne
    simp [hnil] at hne
  · exact setAll_of_mem (hnodup.sublist hfilter) (List.mem_filter.mpr ⟨hh, by simpa using hnil⟩)

/-- The arguments that the handlers write are read by one handler after the other, up to one whose
value cannot be converted. -/
theorem readArguments_flatMap (setup t : Setup) (argv : List String)
    (hsub : ∀ h ∈ handlers, h ∈ acceptedArgHandlers) :
    ((∀ h ∈ handlers, (h.passed setup).isSome) ∧
      readArguments t (handlers.flatMap (·.toArgv setup) ++ argv) =
        readArguments (received setup handlers t) argv) ∨
    (¬ ∀ h ∈ handlers, (h.passed setup).isSome) ∧
      ∃ s, readArguments t (handlers.flatMap (·.toArgv setup) ++ argv) = .error (.literal s) := by
  induction handlers generalizing t with
  | nil => exact .inl ⟨by simp, rfl⟩
  | cons h handlers ih =>
      have ih' := fun t => ih t fun h' hh' => hsub h' (by simp [hh'])
      rw [List.flatMap_cons, List.append_assoc]
      by_cases hnil : h.toArgv setup = []
      · have hreceived : received setup (h :: handlers) t = received setup handlers t := by
          rw [received, List.filter_cons_of_neg (by simpa using hnil), received]
        simp only [List.forall_mem_cons, passed_of_toArgv hnil, Option.isSome_some, true_and, hnil,
          List.nil_append, hreceived]
        exact ih' t
      · rw [readArguments_toArgv (hsub h (by simp)) hnil]
        cases hv : h.passed setup with
        | none => exact .inr ⟨fun hall => by simpa [hv] using hall h (by simp), _, rfl⟩
        | some v =>
            have hreceived : received setup (h :: handlers) t =
                received setup handlers (t.set h.argName v) := by
              rw [received, List.filter_cons_of_pos (by simpa using hnil), setAll,
                List.foldl_cons, hv, Option.getD_some, received, setAll]
            simp only [List.forall_mem_cons, hv, Option.isSome_some, true_and, hreceived]
            exact ih' _

/-- A handler writes nothing for what is missing. -/
theorem flatMap_filter : (handlers.filter fun h => (setup h.argName).isSome).flatMap
    (·.toArgv setup) = handlers.flatMap (·.toArgv setup) := by
  induction handlers with
  | nil => rfl
  | cons h handlers ih =>
      rw [List.filter_cons, List.flatMap_cons]
      split_ifs with hsome
      · rw [List.flatMap_cons, ih]
      · have hnone : setup h.argName = none := by simpa using hsome
        have htoArgv : h.toArgv setup = [] := by
          obtain ⟨name, kind⟩ := h
          cases kind <;> simp_all [Handler.toArgv, Value.truth]
        rw [htoArgv, List.nil_append, ih]

theorem argName_ne (hh : h ∈ acceptedArgHandlers) :
    h.argName ≠ "file" ∧ h.argName ≠ "qt-support" := by
  revert h
  decide

theorem defaults_of_mem (hh : h ∈ acceptedArgHandlers) :
    defaults h.argName = some h.defaultVal := by
  rw [defaults, set_of_ne (argName_ne hh).2, set_of_ne (argName_ne hh).1]
  exact setAll_of_mem argName_nodup hh

theorem handlerOf_file : handlerOf "--file" = none := by decide

/-- The file is the last thing that is read. -/
theorem readArguments_file : readArguments t ("--file" :: file :: args) =
    .ok (t.set "file" (.str file), file :: args) := by
  rw [readArguments.eq_def]
  simp only [handlerOf_file]
  rfl

theorem readArguments_file_nil : readArguments t ["--file"] = .error .index := by
  rw [readArguments.eq_def]
  simp only [handlerOf_file]
  rfl

/-- **What is written is read back**: a subprocess has the settings of its parent, and gets its own
file and arguments, if and only if the settings can be passed on. -/
theorem processCommandLine_setupToArgv (setup : Setup) (pydevd file : String)
    (args : List String) :
    (Passable setup →
      ∃ setup', processCommandLine (setupToArgv pydevd setup ++ "--file" :: file :: args) =
          .ok (setup', file :: args) ∧
        setup' "file" = some (.str file) ∧
        ∀ h ∈ acceptedArgHandlers, setup' h.argName = h.passed setup) ∧
    (¬ Passable setup →
      ∃ s, processCommandLine (setupToArgv pydevd setup ++ "--file" :: file :: args) =
        .error (.literal s)) := by
  rw [setupToArgv, flatMap_filter, List.cons_append, processCommandLine]
  rcases readArguments_flatMap setup defaults ("--file" :: file :: args) (fun h hh => hh) with
    ⟨hall, hread⟩ | ⟨hall, hread⟩
  · refine ⟨fun _ => ⟨_, hread.trans readArguments_file, set_self, fun h hh => ?_⟩,
      fun hnot => absurd hall hnot⟩
    rw [set_of_ne (argName_ne hh).1, received_of_mem argName_nodup hh]
    split_ifs with hnil
    · rw [defaults_of_mem hh, passed_of_toArgv hnil]
    · obtain ⟨v, hv⟩ := Option.isSome_iff_exists.mp (hall h hh)
      rw [hv, Option.getD_some]
  · exact ⟨fun hpass => absurd hpass hall, fun _ => hread⟩

/-! ### What is left -/

/-- Something is left only of a command line with `--file`. -/
theorem length_readArguments {result : Setup × List String}
    (h : readArguments setup argv = .ok result) :
    result.2 = [] ∨ result.2.length < argv.length := by
  fun_induction readArguments setup argv with
  | case1 =>
      cases h
      exact .inl rfl
  | case3 _ _ _ _ _ _ _ ih | case5 _ _ _ _ _ _ _ _ _ _ ih | case6 _ _ _ _ _ ih
  | case8 _ _ _ _ _ _ _ ih | case11 _ _ _ _ _ ih =>
      refine (ih h).imp_right fun hlt => hlt.trans_le ?_
      simp only [List.length_cons]
      omega
  | case10 =>
      cases h
      exact .inr (by simp)
  | case2 | case4 | case7 | case9 | case12 => cases h

theorem readArguments_flag (hh : handlerOf arg = some ⟨name, .bool⟩) :
    readArguments t (arg :: argv) = readArguments (t.set name (.bool true)) argv := by
  rw [readArguments.eq_def]
  simp only [hh]

/-- A value is not looked at. -/
theorem readArguments_value (t : Setup) (val : String) (argv : List String)
    {convertVal : Option (String → Option ℤ)}
    (hh : handlerOf arg = some ⟨name, .param convertVal v⟩) :
    (∃ e, readArguments t (arg :: val :: argv) = .error e) ∨
      ∃ t', readArguments t (arg :: val :: argv) = readArguments t' argv := by
  rw [readArguments.eq_def]
  simp only [hh]
  rcases convertVal with - | convertVal
  · exact .inr ⟨_, rfl⟩
  · cases hn : convertVal val with
    | none => exact .inl ⟨.literal val, by simp only [hn]⟩
    | some n => exact .inr ⟨t.set name (.int n), by simp only [hn]⟩

/-- What a handler writes. -/
theorem toArgv_cases (h : Handler) (setup : Setup) :
    h.toArgv setup = [] ∨ h.kind = .bool ∧ h.toArgv setup = [h.argVRep] ∨
      ∃ convertVal d val, h.kind = .param convertVal d ∧ h.toArgv setup = [h.argVRep, val] := by
  obtain ⟨name, kind⟩ := h
  rcases kind with ⟨convertVal, d⟩ | _ <;> simp only [Handler.toArgv] <;> split_ifs <;> simp

/-- If a value is `--file`, and the rest is cut off behind it, then what follows is read as
arguments of the debugger. -/
theorem readArguments_takeWhile (hsub : ∀ h ∈ handlers, h ∈ acceptedArgHandlers)
    (hmem : "--file" ∈ handlers.flatMap (·.toArgv setup)) :
    (∃ e, readArguments t
        ((handlers.flatMap (·.toArgv setup)).takeWhile (· ≠ "--file") ++ "--file" :: argv) =
      .error e) ∨
      ∃ t', readArguments t
        ((handlers.flatMap (·.toArgv setup)).takeWhile (· ≠ "--file") ++ "--file" :: argv) =
      readArguments t' argv := by
  induction handlers generalizing t with
  | nil => simp at hmem
  | cons h handlers ih =>
      have ih' := fun t => ih (t := t) fun h' hh' => hsub h' (by simp [hh'])
      have hhandler := handlerOf_argVRep (hsub h (by simp))
      have hrep : h.argVRep ≠ "--file" := fun heq => by
        rw [heq, handlerOf_file] at hhandler
        cases hhandler
      rw [List.flatMap_cons, List.mem_append] at hmem
      rw [List.flatMap_cons]
      obtain hnil | ⟨hkind, hflag⟩ | ⟨convertVal, d, val, hkind, hval⟩ := toArgv_cases h setup
      · rw [hnil] at hmem ⊢
        exact ih' t (hmem.resolve_left (by simp))
      · have hhandler' : handlerOf h.argVRep = some ⟨h.argName, .bool⟩ := hkind ▸ hhandler
        rw [hflag] at hmem ⊢
        rw [List.singleton_append, List.takeWhile_cons_of_pos (by simpa using hrep),
          List.cons_append, readArguments_flag hhandler']
        exact ih' _ (hmem.resolve_left (by simpa using hrep.symm))
      · have hhandler' : handlerOf h.argVRep = some ⟨h.argName, .param convertVal d⟩ :=
          hkind ▸ hhandler
        rw [hval] at hmem ⊢
        rw [List.cons_append, List.takeWhile_cons_of_pos (by simpa using hrep),
          List.singleton_append, List.cons_append]
        by_cases hfile : val = "--file"
        · rw [List.takeWhile_cons_of_neg (by simpa using hfile), List.nil_append, ← hfile]
          exact readArguments_value _ _ _ hhandler'
        · rw [List.takeWhile_cons_of_pos (by simpa using hfile), List.cons_append]
          obtain ⟨e, he⟩ | ⟨t', ht'⟩ := readArguments_value t val
            ((handlers.flatMap (·.toArgv setup)).takeWhile (· ≠ "--file") ++ "--file" :: argv)
            hhandler'
          · exact .inl ⟨e, he⟩
          · rw [ht']
            exact ih' t' (hmem.resolve_left (by simp [hrep.symm, Ne.symm hfile]))

/-- The flag may be there more than once. -/
theorem readArguments_replicate (hh : handlerOf arg = some ⟨name, .bool⟩) (n : ℕ) :
    readArguments t (List.replicate n arg ++ argv) =
      readArguments (if n = 0 then t else t.set name (.bool true)) argv := by
  induction n generalizing t with
  | zero => rfl
  | succ n ih =>
      rw [List.replicate_succ, List.cons_append, readArguments_flag hh, ih,
        if_neg (Nat.succ_ne_zero n)]
      split_ifs
      · rfl
      · rw [Setup.set, Setup.set, Function.update_idem]

/-! ### Passing on again -/

/-- All settings are passed on as they are. -/
def Settled (setup : Setup) : Prop :=
  ∀ h ∈ acceptedArgHandlers, ∃ v, setup h.argName = some v ∧ h.passed setup = some v

theorem Settled.passable (hs : Settled setup) : Passable setup := fun h hh => by
  obtain ⟨v, -, hv⟩ := hs h hh
  simp [hv]

theorem passed_congr (heq : setup h.argName = t h.argName) : h.passed setup = h.passed t := by
  rw [Handler.passed, Handler.passed, heq]

/-- A value that is read is passed on as it is. -/
theorem Settled.set (hs : Settled setup)
    (hv : ∀ h ∈ acceptedArgHandlers, h.argName = name → h.passed (setup.set name v) = some v) :
    Settled (setup.set name v) := fun h hh => by
  by_cases hname : h.argName = name
  · exact ⟨v, hname ▸ set_self, hv h hh hname⟩
  · have heq : setup.set name v h.argName = setup h.argName := set_of_ne hname
    obtain ⟨w, hw, hpassed⟩ := hs h hh
    exact ⟨w, heq.trans hw, (passed_congr heq).trans hpassed⟩

theorem passed_bool (name : String) (b : Bool) :
    Handler.passed ⟨name, .bool⟩ (setup.set name (.bool b)) = some (.bool b) := by
  simp [Handler.passed, Value.truth]

theorem passed_str (name s : String) :
    Handler.passed ⟨name, .param none .none⟩ (setup.set name (.str s)) = some (.str s) := by
  simp [Handler.passed, Value.text, Value.eq, Value.number]

theorem int_toString (n : ℤ) : CommandLine.int (toString n) = some n := by
  cases n with
  | ofNat n => exact Launcher.int_toString (Int.natCast_nonneg n)
  | negSucc n =>
      have hlist : (toString (Int.negSucc n)).toList =
          '-' :: (toString ((n + 1 : ℕ) : ℤ)).toList := by
        rw [show toString (Int.negSucc n) = "-" ++ Nat.repr (n + 1) from rfl,
          show toString ((n + 1 : ℕ) : ℤ) = Nat.repr (n + 1) from rfl]
        simp
      have hminus : CommandLine.toAscii '-' = 45 := rfl
      rw [CommandLine.int, hlist, List.map_cons, hminus, Launcher.map_toAscii,
        Numeral.parseInt_neg_decimal, Int.negSucc_eq]
      rfl

theorem passed_int (name : String) (n : ℤ) :
    Handler.passed ⟨name, .param (some CommandLine.int) (.int 0)⟩ (setup.set name (.int n)) =
      some (.int n) := by
  by_cases hn : n = 0
  · simp [Handler.passed, Value.eq, hn]
  · have hne : ¬ Value.eq (.int n) (.int 0) := by simp [Value.eq, Value.number, hn]
    simp only [Handler.passed, set_self, Option.getD_some]
    rw [if_pos ⟨by simp, hne⟩, Value.text, int_toString, Option.map_some]

theorem settled_defaults : Settled defaults := fun h hh => by
  refine ⟨h.defaultVal, defaults_of_mem hh, ?_⟩
  have hd := defaults_of_mem hh
  obtain ⟨name, kind⟩ := h
  cases kind <;> simp_all [Handler.passed, Handler.defaultVal, Value.eq, Value.truth]

/-- The values that the handlers with a parameter convert, and their defaults. -/
theorem kind_of_mem (hh : h ∈ acceptedArgHandlers) :
    h.kind = .param (some CommandLine.int) (.int 0) ∨ h.kind = .param none .none ∨
      h.kind = .bool := by
  simp only [acceptedArgHandlers, List.mem_cons, List.not_mem_nil, or_false] at hh
  rcases hh with rfl | rfl | rfl | rfl | rfl | rfl | rfl | rfl | rfl | rfl | rfl | rfl | rfl |
    rfl | rfl | rfl | rfl | rfl | rfl <;> simp

theorem mem_of_handlerOf (hh : handlerOf arg = some h) : h ∈ acceptedArgHandlers :=
  List.mem_of_find?_eq_some hh

/-- What is passed on is passed on again as it is. -/
theorem passed_passed (hh : h ∈ acceptedArgHandlers) (heq : setup h.argName = h.passed t)
    (hsome : (h.passed t).isSome) : h.passed setup = h.passed t := by
  obtain ⟨v, hv⟩ := Option.isSome_iff_exists.mp hsome
  have hself : h.passed setup = h.passed (setup.set h.argName v) :=
    passed_congr (by rw [set_self, heq, hv])
  rw [hself, hv]
  obtain ⟨name, kind⟩ := h
  obtain rfl | rfl | rfl := kind_of_mem hh
  · simp only [Handler.passed] at hv
    split_ifs at hv
    · obtain ⟨n, -, rfl⟩ := Option.map_eq_some_iff.mp hv
      exact passed_int name n
    · cases hv
      exact passed_int name 0
  · simp only [Handler.passed] at hv
    split_ifs at hv
    · cases hv
      exact passed_str name _
    · cases hv
      simp [Handler.passed]
  · simp only [Handler.passed] at hv
    cases hv
    exact passed_bool name _

/-- `--file` is among the arguments if it is a setting. -/
theorem file_mem_flatMap (hpass : Passable setup) :
    "--file" ∈ acceptedArgHandlers.flatMap (·.toArgv setup) ↔
      ∃ h ∈ acceptedArgHandlers, h.passed setup = some (.str "--file") := by
  rw [List.mem_flatMap]
  refine exists_congr fun h => and_congr_right fun hh => ?_
  have hhandler := handlerOf_argVRep hh
  have hrep : "--file" ≠ h.argVRep := fun heq => by
    rw [← heq, handlerOf_file] at hhandler
    cases hhandler
  have hint : CommandLine.int "--file" = none := by decide
  have hsome := hpass h hh
  obtain ⟨name, kind⟩ := h
  obtain rfl | rfl | rfl := kind_of_mem hh
  · simp only [Handler.toArgv, Handler.passed] at hsome ⊢
    split_ifs at hsome ⊢
    · refine iff_of_false (fun hmem => ?_) (by simp)
      rw [List.mem_cons, or_iff_right hrep, List.mem_singleton] at hmem
      rw [← hmem, hint] at hsome
      cases hsome
    · simp
  · simp only [Handler.toArgv, Handler.passed]
    split_ifs
    · simp [hrep, eq_comm]
    · simp
  · simp only [Handler.toArgv, Handler.passed]
    split_ifs <;> simp [hrep]

/-- The name of a handler that is found is set. -/
theorem Settled.set_handler (hs : Settled setup) (hh : handlerOf arg = some h)
    (hv : h.passed (setup.set h.argName v) = some v) : Settled (setup.set h.argName v) := by
  refine hs.set fun h' hh' hname => ?_
  rwa [List.inj_on_of_nodup_map argName_nodup hh' (mem_of_handlerOf hh) hname]

/-- A name that is not one of a handler. -/
theorem Settled.set_other (hs : Settled setup)
    (hname : name ∉ acceptedArgHandlers.map Handler.argName) : Settled (setup.set name v) :=
  hs.set fun _ hh heq => absurd (heq ▸ List.mem_map_of_mem hh) hname

/-- By induction on the command line. -/
theorem settled_readArguments {result : Setup × List String} (hs : Settled setup)
    (h : readArguments setup argv = .ok result) : Settled result.1 := by
  fun_induction readArguments setup argv with
  | case1 setup =>
      cases h
      exact hs
  | case3 setup arg name d val argv hh ih =>
      refine ih (hs.set_handler hh ?_) h
      obtain hkind | hkind | hkind := kind_of_mem (mem_of_handlerOf hh) <;> cases hkind
      exact passed_str name val
  | case5 setup arg name d val argv convertVal n hn hh ih =>
      refine ih (hs.set_handler hh ?_) h
      obtain hkind | hkind | hkind := kind_of_mem (mem_of_handlerOf hh) <;> cases hkind
      exact passed_int name n
  | case6 setup arg argv name hh ih => exact ih (hs.set_handler hh (passed_bool name true)) h
  | case8 setup arg argv hh hqt v hv ih => exact ih (hs.set_other (by decide)) h
  | case10 setup file argv hh hqt =>
      cases h
      exact hs.set_other (by decide)
  | case11 setup argv hh hqt hne ih =>
      have hhandler : handlerOf "--DEBUG_RECORD_SOCKET_READS" =
          some ⟨"DEBUG_RECORD_SOCKET_READS", .bool⟩ := rfl
      exact ih (Settled.set_other (Settled.set_other
        (hs.set_handler hhandler (passed_bool _ true)) (by decide)) (by decide)) h
  | case2 | case4 | case7 | case9 | case12 => cases h

/-- **Settings from a command line are passed on as they are**, from one process to the next. -/
theorem processCommandLine_settled {argv' : List String}
    (h : processCommandLine argv = .ok (setup, argv')) : Settled setup := by
  cases argv with
  | nil => cases h
  | cons _ argv => exact settled_readArguments settled_defaults h

end SetupArguments

end Ptvsd
