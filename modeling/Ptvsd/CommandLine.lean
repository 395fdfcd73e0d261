import Ptvsd.Json
import Ptvsd.Numeral

/-!
# The Command Line of the Debug Server

`cli.parse` of `ptvsd.server`: the switches in front of the target are read one by one from an
iterator, from which the actions of the switches take their values; what is left in it when the
target is set belongs to the debuggee.

A help or version switch exits at once.

## Main results

* `parse_iff`: the parser accepts exactly the command lines of the grammar `Accepts`, with the
  options that they give, and **raises nothing but `ValueError`** for the others, unless they
  ask for help or the version.
-/

namespace Ptvsd

namespace CommandLine

/-! ### Integers -/

/-- `str.isspace()` of a character. -/
def isSpace (c : Char) : Bool :=
  c.toNat ∈ [32, 133, 160, 5760, 8232, 8233, 8239, 8287, 12288] ||
    (9 ≤ c.toNat && c.toNat ≤ 13) || (28 ≤ c.toNat && c.toNat ≤ 31) ||
    (8192 ≤ c.toNat && c.toNat ≤ 8202)

/-- The zeros of the decimal digits in Unicode; the other digits follow. -/
def zeros : List ℕ :=
  [0x30, 0x660, 0x6F0, 0x7C0, 0x966, 0x9E6, 0xA66, 0xAE6, 0xB66, 0xBE6, 0xC66, 0xCE6, 0xD66,
    0xDE6, 0xE50, 0xED0, 0xF20, 0x1040, 0x1090, 0x17E0, 0x1810, 0x1946, 0x19D0, 0x1A80, 0x1A90,
    0x1B50, 0x1BB0, 0x1C40, 0x1C50, 0xA620, 0xA8D0, 0xA900, 0xA9D0, 0xA9F0, 0xAA50, 0xABF0,
    0xFF10, 0x104A0, 0x10D30, 0x11066, 0x110F0, 0x11136, 0x111D0, 0x112F0, 0x11450, 0x114D0,
    0x11650, 0x116C0, 0x11730, 0x118E0, 0x11950, 0x11C50, 0x11D50, 0x11DA0, 0x16A60, 0x16AC0,
    0x16B50, 0x1D7CE, 0x1D7D8, 0x1D7E2, 0x1D7EC, 0x1D7F6, 0x1E140, 0x1E2F0, 0x1E950, 0x1FBF0]

/-- What `int()` takes a character for, in ASCII: a character that is neither a space nor
a digit does not belong in a numeral. -/
def toAscii (c : Char) : UInt8 :=
  if c.toNat < 127 then c.toNat.toUInt8
  else if isSpace c then 32
  else match zeros.find? fun z => z ≤ c.toNat && c.toNat < z + 10 with
    | some z => (48 + (c.toNat - z)).toUInt8
    | none => 63

/-- `int(s)`, or `none` for `ValueError`. -/
def int (s : String) : Option ℤ := Numeral.parseInt (s.toList.map toAscii)

/-! ### Strings -/

/-- The strings that a command line consists of: those of Lean, or others that have more characters.
The parser looks for ASCII texts in them, and takes them for integers, so that it does not matter
what `view` has in place of the characters that Lean does not know, as long as they are not ASCII,
digits or spaces. -/
class ArgText (S : Type) where
  /-- The string, as far as it is one of Lean. -/
  view : S → String

instance : ArgText String := ⟨id⟩

@[simp]
theorem view_string (s : String) : ArgText.view s = s := rfl

/-! ### Options -/

/-- `options.target_kind`. -/
inductive TargetKind where
  | file
  | module
  | code
  | pid
  deriving DecidableEq

/-- `options.target`, for strings of some type. -/
inductive TargetOf (S : Type) where
  | text (s : S)
  | pid (n : ℤ)
  deriving DecidableEq

/-- `options.target`. -/
abbrev Target := TargetOf String

/-- `ptvsd.server.options`, and what the command line sets in `ptvsd.common.log`, for strings of
some type. -/
structure OptionsOf (S : Type) where
  targetKind : Option TargetKind
  target : Option (TargetOf S)
  host : S
  port : ℤ
  client : Bool
  wait : Bool
  multiprocess : Bool
  clientAccessToken : Option S
  /-- `log.log_dir`. -/
  logDir : Option S
  /-- All levels are in `log.stderr.levels`. -/
  logStderr : Bool
  deriving DecidableEq

/-- `ptvsd.server.options`, and what the command line sets in `ptvsd.common.log`. -/
abbrev Options := OptionsOf String

/-- The options before the command line is parsed, with the default host; an environment variable
may have set `log.log_dir`. -/
def OptionsOf.defaults {S : Type} (host : S) (logDir : Option S) : OptionsOf S where
  targetKind := none
  target := none
  host := host
  port := 5678
  client := false
  wait := false
  multiprocess := true
  clientAccessToken := none
  logDir := logDir
  logStderr := false

/-- The options before the command line is parsed. -/
def defaults (logDir : Option String) : Options := .defaults "127.0.0.1" logDir

/-! ### Switches -/

/-- What a switch does; what it sets may be refused with the text of an exception. -/
inductive Action (S : Type) where
  /-- `print_help_and_exit`, `print_version_and_exit`. -/
  | exit
  /-- Takes nothing from the iterator. -/
  | const (set : OptionsOf S → OptionsOf S)
  /-- Takes `next(it)`. -/
  | value (set : S → OptionsOf S → Except String (OptionsOf S))
  /-- Takes the argument itself. -/
  | positional (set : S → OptionsOf S → Except String (OptionsOf S))

/-- `in_range(int, start, stop)`. -/
def inRange (start stop : Option ℤ) (s : String) : Except String ℤ :=
  match int s with
  | none => .error ("invalid literal for int() with base 10: '" ++ s ++ "'")
  | some n =>
      if start.any (n < ·) then .error ("must be >= " ++ toString (start.getD 0))
      else if stop.any (· ≤ n) then .error ("must be < " ++ toString (stop.getD 0))
      else .ok n

/-- `port`. -/
def port : String → Except String ℤ := inRange (some 0) (some 65536)

/-- `pid`. -/
def pid : String → Except String ℤ := inRange (some 0) none

section Switches

variable {S : Type} [ArgText S]

/-- `set_arg(varname, parser)`. -/
def setArg {α : Type} (set : α → OptionsOf S → OptionsOf S) (parser : S → Except String α) :
    Action S :=
  .value fun s options => (parser s).map fun value => set value options

/-- `set_target(kind, parser)`. -/
def setTarget (kind : TargetKind) (parser : S → Except String (TargetOf S)) : Action S :=
  .value fun s options => (parser s).map fun target =>
    { options with targetKind := some kind, target := some target }

/-- `set_target(kind, positional=True)`. -/
def setPositional (kind : TargetKind) : Action S :=
  .positional fun s options =>
    .ok { options with targetKind := some kind, target := some (.text s) }

/-- An entry of `switches`. -/
structure Switch (S : Type) where
  names : List String
  placeholder : Option String
  action : Action S
  required : Bool

/-- `switches`. -/
def switches : List (Switch S) :=
  [⟨["-?", "-h", "--help"], none, .exit, false⟩,
    ⟨["-V", "--version"], none, .exit, false⟩,
    ⟨["--client"], none, .const fun o => { o with client := true }, false⟩,
    ⟨["--host"], some "<address>", setArg (fun s o => { o with host := s }) .ok, true⟩,
    ⟨["--port"], some "<port>", setArg (fun n o => { o with port := n })
      fun s => port (ArgText.view s), false⟩,
    ⟨["--wait"], none, .const fun o => { o with wait := true }, false⟩,
    ⟨["--no-subprocesses"], none, .const fun o => { o with multiprocess := false }, false⟩,
    ⟨["--log-dir"], some "<path>", setArg (fun s o => { o with logDir := some s }) .ok, false⟩,
    ⟨["--log-stderr"], none, .const fun o => { o with logStderr := true }, false⟩,
    ⟨["--client-access-token"], some "<token>",
      setArg (fun s o => { o with clientAccessToken := some s }) .ok, false⟩,
    ⟨[""], some "<filename>", setPositional .file, false⟩,
    ⟨["-m"], some "<module>", setTarget .module fun s => .ok (.text s), false⟩,
    ⟨["-c"], some "<code>", setTarget .code fun s => .ok (.text s), false⟩,
    ⟨["--pid"], some "<pid>", setTarget .pid fun s => (pid (ArgText.view s)).map .pid, false⟩]

/-! ### Parsing -/

/-- What leaves `parse`, other than a result. -/
inductive ParseError where
  | valueError (text : String)
  | assertionError
  /-- `sys.exit(0)`. -/
  | systemExit
  deriving DecidableEq

/-- `TARGET`. -/
def targetUsage : String := "<filename> | -m <module> | -c <code> | --pid <pid>"

/-- `arg.startswith("-")`. -/
def isSwitch (arg : String) : Bool := arg.toList.head? == some '-'

/-- The entry for an argument, and its index. -/
@[irreducible]
def findSwitch (arg : String) : Option (Switch S × ℕ) :=
  switches.zipIdx.find? fun sw => (if isSwitch arg then arg else "") ∈ sw.1.names

/-- `fmt("{0}", placeholder)`. -/
def Switch.placeholderText (sw : Switch S) : String := sw.placeholder.getD "None"

/-- The first loop of `parse`, which ends when the target is set: it yields `seen`, the options
and what is left in the iterator. -/
def parseLoop (seen : List ℕ) (options : OptionsOf S) :
    List S → Except ParseError (List ℕ × OptionsOf S × List S)
  | [] => .error (.valueError ("missing target: " ++ targetUsage))
  | arg :: it =>
      let switch := if isSwitch (ArgText.view arg) then ArgText.view arg else ""
      match findSwitch (ArgText.view arg) with
      | none => .error (.valueError ("unrecognized switch " ++ switch))
      | some (sw, i) =>
          let invalid : String → ParseError := fun exc =>
            .valueError ("invalid " ++ switch ++ " " ++ sw.placeholderText ++ ": " ++ exc)
          if i ∈ seen then .error (.valueError ("duplicate switch " ++ switch))
          else
            match sw.action with
            | .exit => .error .systemExit
            | .const set =>
                if (set options).target.isSome then .ok (i :: seen, set options, it)
                else parseLoop (i :: seen) (set options) it
            | .value set =>
                match it with
                | [] =>
                    match sw.placeholder with
                    | none => .error .assertionError
                    | some placeholder =>
                        .error (.valueError (switch ++ ": missing " ++ placeholder))
                | value :: it =>
                    match set value options with
                    | .error exc => .error (invalid exc)
                    | .ok options =>
                        if options.target.isSome then .ok (i :: seen, options, it)
                        else parseLoop (i :: seen) options it
            | .positional set =>
                match set arg options with
                | .error exc => .error (invalid exc)
                | .ok options =>
                    if options.target.isSome then .ok (i :: seen, options, it)
                    else parseLoop (i :: seen) options it

/-- The second loop of `parse`: a required switch is missing. -/
def missingRequired (S : Type) [ArgText S] (seen : List ℕ) : Option String :=
  ((switches (S := S)).zipIdx.find? fun sw => sw.1.required && sw.2 ∉ seen).map fun sw =>
    "missing required " ++ sw.1.names.headD "" ++
      (sw.1.placeholder.elim "" fun placeholder => " " ++ placeholder)

/-- `parse(args)`, where the options are those given. -/
def parse (args : List S) (options : OptionsOf S) :
    Except ParseError (OptionsOf S × List S) :=
  match parseLoop [] options args with
  | .error e => .error e
  | .ok (seen, options, it) =>
      match missingRequired S seen with
      | some message => .error (.valueError message)
      | none =>
          if options.targetKind = some .pid ∧ options.wait then
            .error (.valueError "--pid does not support --wait")
          else .ok (options, it)

end Switches

/-! ### The grammar -/

/-- A switch in front of the target, with its value. -/
inductive Setting where
  | client
  | host (s : String)
  | port (n : ℤ)
  | wait
  | noSubprocesses
  | logDir (s : String)
  | logStderr
  | clientAccessToken (s : String)
  deriving DecidableEq

/-- The switch of a setting. -/
def Setting.name : Setting → String
  | .client => "--client"
  | .host _ => "--host"
  | .port _ => "--port"
  | .wait => "--wait"
  | .noSubprocesses => "--no-subprocesses"
  | .logDir _ => "--log-dir"
  | .logStderr => "--log-stderr"
  | .clientAccessToken _ => "--client-access-token"

/-- What a setting says about the options. -/
def Setting.apply : Setting → Options → Options
  | .client, options => { options with client := true }
  | .host s, options => { options with host := s }
  | .port n, options => { options with port := n }
  | .wait, options => { options with wait := true }
  | .noSubprocesses, options => { options with multiprocess := false }
  | .logDir s, options => { options with logDir := some s }
  | .logStderr, options => { options with logStderr := true }
  | .clientAccessToken s, options => { options with clientAccessToken := some s }

/-- The arguments that spell a setting. -/
inductive Setting.Spelled : Setting → List String → Prop
  | client : Spelled .client ["--client"]
  | host (s : String) : Spelled (.host s) ["--host", s]
  | port {s : String} {n : ℤ} (hint : int s = some n) (hn : 0 ≤ n ∧ n < 65536) :
      Spelled (.port n) ["--port", s]
  | wait : Spelled .wait ["--wait"]
  | noSubprocesses : Spelled .noSubprocesses ["--no-subprocesses"]
  | logDir (s : String) : Spelled (.logDir s) ["--log-dir", s]
  | logStderr : Spelled .logStderr ["--log-stderr"]
  | clientAccessToken (s : String) :
      Spelled (.clientAccessToken s) ["--client-access-token", s]

/-- The arguments that spell one setting after another. -/
inductive Setting.AllSpelled : List Setting → List String → Prop
  | nil : AllSpelled [] []
  | cons {setting : Setting} {settings : List Setting} {words args : List String}
      (hwords : setting.Spelled words) (hargs : AllSpelled settings args) :
      AllSpelled (setting :: settings) (words ++ args)

/-- The arguments that spell a target. -/
inductive Target.Spelled : TargetKind → Target → List String → Prop
  | file {s : String} (hs : isSwitch s = false) : Spelled .file (.text s) [s]
  | module (s : String) : Spelled .module (.text s) ["-m", s]
  | code (s : String) : Spelled .code (.text s) ["-c", s]
  | pid {s : String} {n : ℤ} (hint : int s = some n) (hn : 0 ≤ n) :
      Spelled .pid (.pid n) ["--pid", s]

/-- The options after some settings and a target. -/
def Options.given (options : Options) (settings : List Setting) (kind : TargetKind)
    (target : Target) : Options :=
  { settings.foldl (fun options setting => setting.apply options) options with
    targetKind := some kind, target := some target }

/-- **The grammar of the command line**: settings, each at most once and the host among them,
then a target, then the arguments `rest` of the debuggee. -/
inductive Accepts (initial : Options) : List String → Options → List String → Prop
  | intro {settings : List Setting} {before : List String} {kind : TargetKind}
      {target : Target} {words : List String} (hsettings : Setting.AllSpelled settings before)
      (htarget : Target.Spelled kind target words)
      (once : (settings.map Setting.name).Nodup) (host : "--host" ∈ settings.map Setting.name)
      (pid_wait : ¬(kind = .pid ∧ .wait ∈ settings)) (rest : List String) :
      Accepts initial (before ++ words ++ rest) (initial.given settings kind target) rest

/-- The switches that ask for help or for the version. -/
def exitSwitches : List String := ["-?", "-h", "--help", "-V", "--version"]

/-- After some settings, each at most once, the command line asks for help or the version. -/
inductive Exits : List String → Prop
  | intro {settings : List Setting} {before : List String} {switch : String}
      (hsettings : Setting.AllSpelled settings before)
      (once : (settings.map Setting.name).Nodup) (hswitch : switch ∈ exitSwitches)
      (rest : List String) : Exits (before ++ switch :: rest)

/-! ### One switch -/

/-- The entry of `switches` for a setting. -/
def Setting.index : Setting → ℕ
  | .client => 2
  | .host _ => 3
  | .port _ => 4
  | .wait => 5
  | .noSubprocesses => 6
  | .logDir _ => 7
  | .logStderr => 8
  | .clientAccessToken _ => 9

/-- The entry of `switches` for a target. -/
def TargetKind.index : TargetKind → ℕ
  | .file => 10
  | .module => 11
  | .code => 12
  | .pid => 13

theorem Setting.index_eq_iff (s t : Setting) : s.index = t.index ↔ s.name = t.name := by
  cases s <;> cases t <;> simp [Setting.index, Setting.name]

@[simp]
theorem Setting.apply_target (setting : Setting) (options : Options) :
    (setting.apply options).target = options.target := by
  cases setting <;> rfl

theorem port_ok_iff (s : String) (n : ℤ) :
    port s = .ok n ↔ int s = some n ∧ 0 ≤ n ∧ n < 65536 := by
  unfold port inRange
  cases int s with
  | none => simp
  | some m =>
    simp only [Option.any_some]
    grind

theorem pid_ok_iff (s : String) (n : ℤ) : pid s = .ok n ↔ int s = some n ∧ 0 ≤ n := by
  unfold pid inRange
  cases int s with
  | none => simp
  | some m =>
    simp only [Option.any_some]
    grind

variable {seen : List ℕ} {options : Options} {setting : Setting} {words rest it : List String}
  {kind : TargetKind} {target : Target} {arg : String}

section Argument

-- The loop is executed on one argument.
attribute [local simp] parseLoop findSwitch switches

/-- A setting whose switch is new is applied. -/
theorem parseLoop_setting (hwords : setting.Spelled words) (hnew : setting.index ∉ seen)
    (hnone : options.target = none) :
    parseLoop seen options (words ++ rest) =
      parseLoop (setting.index :: seen) (setting.apply options) rest := by
  cases hwords with
  | port hint hn =>
      have hport := (port_ok_iff _ _).2 ⟨hint, hn⟩
      simp only [Setting.index] at hnew
      simp [isSwitch, setArg, Setting.index, Setting.apply,
        Except.map, hnew, hnone, hport]
  | _ =>
      simp only [Setting.index] at hnew
      simp [isSwitch, setArg, Setting.index, Setting.apply,
        Except.map, hnew, hnone]

/-- A setting whose switch has been seen is refused. -/
theorem parseLoop_duplicate (hwords : setting.Spelled words) (hseen : setting.index ∈ seen) :
    ∃ text, parseLoop seen options (words ++ rest) = .error (.valueError text) := by
  cases hwords with
  | _ =>
      simp only [Setting.index] at hseen
      simp [isSwitch, hseen]

/-- A target ends the loop. -/
theorem parseLoop_target (hwords : target.Spelled kind words) (hnew : kind.index ∉ seen) :
    parseLoop seen options (words ++ rest) =
      .ok (kind.index :: seen, { options with targetKind := some kind, target := some target },
        rest) := by
  cases hwords with
  | file hs =>
      simp only [TargetKind.index] at hnew
      simp [hs, TargetKind.index, setPositional, hnew]
  | pid hint hn =>
      have hpid := (pid_ok_iff _ _).2 ⟨hint, hn⟩
      simp only [TargetKind.index] at hnew
      simp [isSwitch, TargetKind.index, setTarget, Except.map,
        hnew, hpid]
  | _ =>
      simp only [TargetKind.index] at hnew
      simp [isSwitch, TargetKind.index, setTarget, Except.map,
        hnew]

/-- A help or version switch exits. -/
theorem parseLoop_exit (harg : arg ∈ exitSwitches) (h0 : 0 ∉ seen) (h1 : 1 ∉ seen) :
    parseLoop seen options (arg :: it) = .error .systemExit := by
  simp only [exitSwitches, List.mem_cons, List.not_mem_nil, or_false] at harg
  rcases harg with rfl | rfl | rfl | rfl | rfl <;>
    simp [isSwitch, h0, h1]

/-- The switches that take a value. -/
def valueSwitches : List String :=
  ["--host", "--port", "--log-dir", "--client-access-token", "-m", "-c", "--pid"]

/-- The entry of a switch that takes a value has a placeholder for it. -/
theorem findSwitch_value (harg : arg ∈ valueSwitches) :
    ∃ (sw : Switch String) (i : ℕ) (set : _) (placeholder : _),
      findSwitch arg = some (sw, i) ∧ sw.action = .value set ∧
        sw.placeholder = some placeholder := by
  unfold findSwitch
  simp only [valueSwitches, List.mem_cons, List.not_mem_nil, or_false] at harg
  rcases harg with rfl | rfl | rfl | rfl | rfl | rfl | rfl <;>
    exact ⟨_, _, _, _, rfl, rfl, rfl⟩

/-- A switch is refused at the end of the arguments if it takes a value. -/
theorem parseLoop_missing (harg : arg ∈ valueSwitches) :
    ∃ text, parseLoop seen options [arg] = .error (.valueError text) := by
  obtain ⟨sw, i, set, placeholder, hfind, haction, hplaceholder⟩ := findSwitch_value harg
  simp only [parseLoop, view_string, hfind, haction, hplaceholder]
  split
  · exact ⟨_, rfl⟩
  · exact ⟨_, rfl⟩

/-- A port or a process id out of range is refused. -/
theorem parseLoop_invalid {s : String}
    (harg : arg = "--port" ∧ (∀ n, port s ≠ .ok n) ∨ arg = "--pid" ∧ ∀ n, pid s ≠ .ok n) :
    ∃ text, parseLoop seen options (arg :: s :: it) = .error (.valueError text) := by
  rcases harg with ⟨rfl, hport⟩ | ⟨rfl, hpid⟩
  · by_cases hseen : 4 ∈ seen
    · simp [isSwitch, hseen]
    · cases h : port s with
      | ok n => exact absurd h (hport n)
      | error exc =>
        simp [isSwitch, hseen, setArg, h, Except.map]
  · by_cases hseen : 13 ∈ seen
    · simp [isSwitch, hseen]
    · cases h : pid s with
      | ok n => exact absurd h (hpid n)
      | error exc =>
        simp [isSwitch, hseen, setTarget, h, Except.map]

end Argument

/-- The switches in front of a target that take no value. -/
def flags : List String := ["--client", "--wait", "--no-subprocesses", "--log-stderr"]

/-- The names in the table. -/
theorem names_cases : ∀ sw ∈ (switches (S := String)).zipIdx, ∀ name ∈ sw.1.names,
    name = "" ∨ name ∈ exitSwitches ∨ name ∈ flags ∨ name ∈ valueSwitches := by decide

/-- An argument that starts with a dash is refused if it is not in the table. -/
theorem parseLoop_unrecognized (hs : isSwitch arg = true) (hexit : arg ∉ exitSwitches)
    (hflag : arg ∉ flags) (hvalue : arg ∉ valueSwitches) :
    ∃ text, parseLoop seen options (arg :: it) = .error (.valueError text) := by
  have hfind : findSwitch (S := String) arg = none := by
    unfold findSwitch
    refine List.find?_eq_none.2 fun sw hmem hname => ?_
    rw [hs, if_pos rfl, decide_eq_true_eq] at hname
    rcases names_cases sw hmem arg hname with rfl | h | h | h
    · cases hs
    · exact hexit h
    · exact hflag h
    · exact hvalue h
  refine ⟨"unrecognized switch " ++ arg, ?_⟩
  simp only [parseLoop, view_string, hfind, hs, if_true]

/-- What a list of arguments begins with, when the loop goes on or exits. -/
inductive Begins : List String → Prop
  | setting {setting : Setting} {words : List String} (hwords : setting.Spelled words)
      (rest : List String) : Begins (words ++ rest)
  | target {kind : TargetKind} {target : Target} {words : List String}
      (hwords : target.Spelled kind words) (rest : List String) : Begins (words ++ rest)
  | exit {switch : String} (hswitch : switch ∈ exitSwitches) (rest : List String) :
      Begins (switch :: rest)

theorem begins_flag (harg : arg ∈ flags) : Begins (arg :: it) := by
  simp only [flags, List.mem_cons, List.not_mem_nil, or_false] at harg
  rcases harg with rfl | rfl | rfl | rfl
  · exact .setting .client it
  · exact .setting .wait it
  · exact .setting .noSubprocesses it
  · exact .setting .logStderr it

/-- A switch begins a setting or a target if its value is one. -/
theorem begins_value {value : String} (harg : arg ∈ valueSwitches) :
    Begins (arg :: value :: it) ∨ ∀ seen options, ∃ text,
      parseLoop seen options (arg :: value :: it) = .error (.valueError text) := by
  simp only [valueSwitches, List.mem_cons, List.not_mem_nil, or_false] at harg
  rcases harg with rfl | rfl | rfl | rfl | rfl | rfl | rfl
  · exact .inl (.setting (.host value) it)
  · by_cases h : ∃ n, port value = .ok n
    · obtain ⟨n, hn⟩ := h
      obtain ⟨hint, hrange⟩ := (port_ok_iff value n).1 hn
      exact .inl (.setting (.port hint hrange) it)
    · exact .inr fun _ _ => parseLoop_invalid (.inl ⟨rfl, not_exists.1 h⟩)
  · exact .inl (.setting (.logDir value) it)
  · exact .inl (.setting (.clientAccessToken value) it)
  · exact .inl (.target (.module value) it)
  · exact .inl (.target (.code value) it)
  · by_cases h : ∃ n, pid value = .ok n
    · obtain ⟨n, hn⟩ := h
      obtain ⟨hint, hpos⟩ := (pid_ok_iff value n).1 hn
      exact .inl (.target (.pid hint hpos) it)
    · exact .inr fun _ _ => parseLoop_invalid (.inr ⟨rfl, not_exists.1 h⟩)

/-- What does not begin so is refused, whatever has been read. -/
theorem begins_or_refused (args : List String) :
    Begins args ∨ ∀ seen options, ∃ text,
      parseLoop seen options args = .error (.valueError text) := by
  cases args with
  | nil => exact .inr fun seen options => ⟨_, rfl⟩
  | cons arg it =>
      cases hs : isSwitch arg with
      | false => exact .inl (.target (.file hs) it)
      | true =>
          by_cases hexit : arg ∈ exitSwitches
          · exact .inl (.exit hexit it)
          by_cases hflag : arg ∈ flags
          · exact .inl (begins_flag hflag)
          by_cases hvalue : arg ∈ valueSwitches
          · cases it with
            | nil => exact .inr fun _ _ => parseLoop_missing hvalue
            | cons value it => exact begins_value hvalue
          · exact .inr fun _ _ => parseLoop_unrecognized hs hexit hflag hvalue

/-! ### The loop -/

/-- Settings with new switches are applied one after another. -/
theorem parseLoop_settings {settings : List Setting} {before : List String}
    (hsettings : Setting.AllSpelled settings before)
    (once : (settings.map Setting.name).Nodup) :
    ∀ {seen : List ℕ} {options : Options}, (∀ setting ∈ settings, setting.index ∉ seen) →
      options.target = none →
      parseLoop seen options (before ++ rest) =
        parseLoop ((settings.map Setting.index).reverse ++ seen)
          (settings.foldl (fun options setting => setting.apply options) options) rest := by
  induction hsettings with
  | nil => intros; rfl
  | @cons setting settings words args hwords hargs ih =>
      intro seen options hnew hnone
      rw [List.map_cons, List.nodup_cons] at once
      rw [List.append_assoc, parseLoop_setting hwords (hnew setting List.mem_cons_self) hnone,
        ih once.2 ?_ ?_]
      · simp
      · intro later hlater hmem
        rcases List.mem_cons.1 hmem with heq | hmem
        · exact once.1 (List.mem_map.2 ⟨later, hlater, (Setting.index_eq_iff _ _).1 heq⟩)
        · exact hnew later (List.mem_cons_of_mem setting hlater) hmem
      · rw [Setting.apply_target, hnone]

/-- The settings in front, each switch at most once, and **what comes after them**: a target,
a switch that exits, or something that the loop refuses. -/
theorem settings_cases : ∀ (args : List String) (seen : List ℕ),
    ∃ settings before rest, args = before ++ rest ∧ Setting.AllSpelled settings before ∧
      (settings.map Setting.name).Nodup ∧ (∀ setting ∈ settings, setting.index ∉ seen) ∧
      ((∃ kind target words it, Target.Spelled kind target words ∧ rest = words ++ it) ∨
        (∃ switch it, switch ∈ exitSwitches ∧ rest = switch :: it) ∨
        ∀ options, ∃ text, parseLoop ((settings.map Setting.index).reverse ++ seen) options rest =
          .error (.valueError text)) := by
  intro args
  induction hlen : args.length using Nat.strong_induction_on generalizing args with
  | _ n ih =>
    intro seen
    rcases begins_or_refused args with hbegins | hrefused
    · cases hbegins with
      | target hwords rest =>
          exact ⟨[], [], _, rfl, .nil, .nil, by simp, .inl ⟨_, _, _, rest, hwords, rfl⟩⟩
      | exit hswitch rest =>
          exact ⟨[], [], _, rfl, .nil, .nil, by simp, .inr (.inl ⟨_, rest, hswitch, rfl⟩)⟩
      | @setting setting words hwords it =>
          by_cases hseen : setting.index ∈ seen
          · exact ⟨[], [], _, rfl, .nil, .nil, by simp,
              .inr (.inr fun _ => parseLoop_duplicate hwords hseen)⟩
          have hshort : it.length < n := by
            cases hwords <;> simp at hlen <;> omega
          obtain ⟨settings, before, rest, rfl, hsettings, once, hnew, hafter⟩ :=
            ih it.length hshort it rfl (setting.index :: seen)
          refine ⟨setting :: settings, words ++ before, rest, by simp, .cons hwords hsettings,
            ?_, ?_, by simpa using hafter⟩
          · rw [List.map_cons, List.nodup_cons]
            refine ⟨fun hmem => ?_, once⟩
            obtain ⟨later, hlater, hname⟩ := List.mem_map.1 hmem
            exact hnew later hlater
              (List.mem_cons.2 (.inl ((Setting.index_eq_iff _ _).2 hname)))
          · intro other hother
            rcases List.mem_cons.1 hother with rfl | hother
            · exact hseen
            · exact fun hmem => hnew other hother (List.mem_cons_of_mem _ hmem)
    · exact ⟨[], [], args, rfl, .nil, .nil, by simp, .inr (.inr fun options => hrefused _ options)⟩


/-! ### Acceptance -/

theorem missingRequired_eq (seen : List ℕ) :
    missingRequired String seen =
      if 3 ∈ seen then none else some "missing required --host <address>" := by
  by_cases h : 3 ∈ seen
  · simp [missingRequired, switches, h]
  · simp [missingRequired, switches, h]

theorem host_mem_iff (settings : List Setting) :
    "--host" ∈ settings.map Setting.name ↔ 3 ∈ settings.map Setting.index := by
  constructor <;> intro h <;> obtain ⟨setting, hmem, hname⟩ := List.mem_map.1 h
  · exact List.mem_map.2 ⟨setting, hmem,
      (Setting.index_eq_iff setting (.host "")).2 hname⟩
  · exact List.mem_map.2 ⟨setting, hmem,
      (Setting.index_eq_iff setting (.host "")).1 hname⟩

theorem foldl_wait (settings : List Setting) (options : Options) :
    (settings.foldl (fun options setting => setting.apply options) options).wait = true ↔
      options.wait = true ∨ .wait ∈ settings := by
  induction settings generalizing options with
  | nil => simp
  | cons setting settings ih =>
      rw [List.foldl_cons, ih]
      cases setting <;> simp [Setting.apply]

variable {settings : List Setting} {before : List String} {initial : Options}

/-- The parser on settings and a target. -/
theorem parse_target (hnone : initial.target = none) (hwait : initial.wait = false)
    (hsettings : Setting.AllSpelled settings before)
    (once : (settings.map Setting.name).Nodup) (htarget : Target.Spelled kind target words) :
    parse (before ++ words ++ rest) initial =
      if "--host" ∈ settings.map Setting.name then
        if kind = .pid ∧ .wait ∈ settings then
          .error (.valueError "--pid does not support --wait")
        else .ok (initial.given settings kind target, rest)
      else .error (.valueError "missing required --host <address>") := by
  have hindex : kind.index ∉ (settings.map Setting.index).reverse ++ [] := by
    simp only [List.append_nil, List.mem_reverse, List.mem_map, not_exists, not_and]
    intro setting _
    cases setting <;> cases kind <;> simp [Setting.index, TargetKind.index]
  have hloop : parseLoop [] initial (before ++ words ++ rest) =
      .ok (kind.index :: ((settings.map Setting.index).reverse ++ []),
        initial.given settings kind target, rest) := by
    rw [List.append_assoc, parseLoop_settings hsettings once (by simp) hnone]
    exact parseLoop_target htarget hindex
  have hmissing : 3 ∈ kind.index :: ((settings.map Setting.index).reverse ++ []) ↔
      "--host" ∈ settings.map Setting.name := by
    rw [host_mem_iff]
    cases kind <;> simp [TargetKind.index]
  have hpid : (initial.given settings kind target).targetKind = some .pid ∧
      (initial.given settings kind target).wait ↔ kind = .pid ∧ .wait ∈ settings := by
    simp [Options.given, foldl_wait, hwait]
  simp only [parse, hloop, missingRequired_eq, hmissing, hpid]
  by_cases hhost : "--host" ∈ settings.map Setting.name
  · simp only [if_pos hhost]
  · simp only [if_neg hhost]

/-- What the grammar accepts is parsed. -/
theorem parse_of_accepts {args : List String} (hnone : initial.target = none)
    (hwait : initial.wait = false) (h : Accepts initial args options rest) :
    parse args initial = .ok (options, rest) := by
  obtain ⟨hsettings, htarget, once, hhost, hpid, rest⟩ := h
  rw [parse_target hnone hwait hsettings once htarget, if_pos hhost, if_neg hpid]

/-- After settings, a switch that exits does. -/
theorem parse_of_exits {args : List String} (hnone : initial.target = none) (h : Exits args) :
    parse args initial = .error .systemExit := by
  obtain ⟨hsettings, once, hswitch, rest⟩ := h
  rename_i settings before switch
  have hnew : ∀ i < 2, i ∉ (settings.map Setting.index).reverse ++ [] := by
    intro i hi
    simp only [List.append_nil, List.mem_reverse, List.mem_map, not_exists, not_and]
    intro setting _
    cases setting <;> simp only [Setting.index] <;> omega
  rw [parse, parseLoop_settings hsettings once (by simp) hnone,
    parseLoop_exit hswitch (hnew 0 (by omega)) (hnew 1 (by omega))]

/-- **Every command line is accepted, or asks to exit, or is refused with `ValueError`.** -/
theorem parse_cases (hnone : initial.target = none) (hwait : initial.wait = false)
    (args : List String) :
    (∃ options rest, Accepts initial args options rest) ∨ Exits args ∨
      ∃ text, parse args initial = .error (.valueError text) := by
  obtain ⟨settings, before, rest, rfl, hsettings, once, hnew, hafter⟩ := settings_cases args []
  rcases hafter with ⟨kind, target, words, it, htarget, rfl⟩ | ⟨switch, it, hswitch, rfl⟩ | hrefused
  · rw [← List.append_assoc]
    by_cases hhost : "--host" ∈ settings.map Setting.name
    · by_cases hpid : kind = .pid ∧ .wait ∈ settings
      · refine .inr (.inr ⟨"--pid does not support --wait", ?_⟩)
        rw [parse_target hnone hwait hsettings once htarget, if_pos hhost, if_pos hpid]
      · exact .inl ⟨_, it, .intro hsettings htarget once hhost hpid it⟩
    · refine .inr (.inr ⟨"missing required --host <address>", ?_⟩)
      rw [parse_target hnone hwait hsettings once htarget, if_neg hhost]
  · exact .inr (.inl (.intro hsettings once hswitch it))
  · obtain ⟨text, htext⟩ := hrefused
      (settings.foldl (fun options setting => setting.apply options) initial)
    refine .inr (.inr ⟨text, ?_⟩)
    rw [parse, parseLoop_settings hsettings once hnew hnone, htext]

/-! ### The port -/

section Port

variable {S : Type} {seen seen' : List ℕ} {options options' : OptionsOf S} {args rest : List S}

/-- What the switch sets leaves the port in its range. -/
def Action.KeepsPort : Action S → Prop
  | .exit => True
  | .const set => ∀ options, 0 ≤ options.port → 0 ≤ (set options).port
  | .value set => ∀ s options options', set s options = .ok options' → 0 ≤ options.port →
      0 ≤ options'.port
  | .positional set => ∀ s options options', set s options = .ok options' → 0 ≤ options.port →
      0 ≤ options'.port

theorem keepsPort_setArg {α : Type} {set : α → OptionsOf S → OptionsOf S}
    {parser : S → Except String α}
    (h : ∀ s value, parser s = .ok value → ∀ options, 0 ≤ options.port →
      0 ≤ (set value options).port) : (setArg set parser).KeepsPort := by
  intro s options options' hset hport
  cases hvalue : parser s with
  | error exc => simp [hvalue, Except.map] at hset
  | ok value =>
      obtain rfl : set value options = options' := by simpa [hvalue, Except.map] using hset
      exact h s value hvalue options hport

theorem keepsPort_setTarget {kind : TargetKind} {parser : S → Except String (TargetOf S)} :
    (setTarget kind parser).KeepsPort := by
  intro s options options' hset hport
  cases hvalue : parser s with
  | error exc => simp [hvalue, Except.map] at hset
  | ok value =>
      simp only [hvalue, Except.map, Except.ok.injEq] at hset
      exact hset ▸ hport

theorem keepsPort_setPositional {kind : TargetKind} :
    (setPositional (S := S) kind).KeepsPort := by
  intro s options options' hset hport
  simp only [Except.ok.injEq] at hset
  exact hset ▸ hport

variable [ArgText S]

theorem keepsPort_switches : ∀ sw ∈ (switches (S := S)), sw.action.KeepsPort := by
  simp only [switches, List.forall_mem_cons, List.not_mem_nil, false_implies, implies_true,
    and_true]
  refine ⟨trivial, trivial, fun _ h => h, keepsPort_setArg fun _ _ _ _ h => h, ?_, fun _ h => h,
    fun _ h => h, keepsPort_setArg fun _ _ _ _ h => h, fun _ h => h,
    keepsPort_setArg fun _ _ _ _ h => h, keepsPort_setPositional, keepsPort_setTarget,
    keepsPort_setTarget, keepsPort_setTarget⟩
  exact keepsPort_setArg fun s n hn _ _ => ((port_ok_iff (ArgText.view s) n).1 hn).2.1

theorem keepsPort_findSwitch {arg : String} {sw : Switch S} {i : ℕ}
    (h : findSwitch arg = some (sw, i)) : sw.action.KeepsPort := by
  unfold findSwitch at h
  have hmem := List.mem_of_find?_eq_some h
  obtain ⟨_, heq⟩ := List.mem_zipIdx' hmem
  exact keepsPort_switches sw (heq ▸ List.getElem_mem _)

theorem port_of_parseLoop (h : parseLoop seen options args = .ok (seen', options', rest))
    (hport : 0 ≤ options.port) : 0 ≤ options'.port := by
  fun_induction parseLoop seen options args with
  | case5 seen options arg it sw i hfind hnew set haction htarget =>
      have hkeeps := keepsPort_findSwitch hfind
      rw [haction] at hkeeps
      cases h
      exact hkeeps options hport
  | case6 seen options arg it sw i hfind hnew set haction htarget ih =>
      have hkeeps := keepsPort_findSwitch hfind
      rw [haction] at hkeeps
      exact ih h (hkeeps options hport)
  | case10 seen options arg sw i hfind hnew set haction value it options₁ hset htarget =>
      have hkeeps := keepsPort_findSwitch hfind
      rw [haction] at hkeeps
      cases h
      exact hkeeps value options _ hset hport
  | case11 seen options arg sw i hfind hnew set haction value it options₁ hset htarget ih =>
      have hkeeps := keepsPort_findSwitch hfind
      rw [haction] at hkeeps
      exact ih h (hkeeps value options options₁ hset hport)
  | case13 seen options arg it sw i hfind hnew set haction options₁ hset htarget =>
      have hkeeps := keepsPort_findSwitch hfind
      rw [haction] at hkeeps
      cases h
      exact hkeeps arg options _ hset hport
  | case14 seen options arg it sw i hfind hnew set haction options₁ hset htarget ih =>
      have hkeeps := keepsPort_findSwitch hfind
      rw [haction] at hkeeps
      exact ih h (hkeeps arg options options₁ hset hport)
  | _ => cases h

/-- The port of accepted options is not negative. -/
theorem port_of_parse {host : S} {logDir : Option S}
    (h : parse args (.defaults host logDir) = .ok (options, rest)) : 0 ≤ options.port := by
  have hdefault : (0 : ℤ) ≤ (OptionsOf.defaults host logDir).port :=
    show (0 : ℤ) ≤ 5678 by decide
  rw [parse] at h
  split at h
  · cases h
  · next hloop =>
      split at h
      · cases h
      · split_ifs at h
        cases h
        exact port_of_parseLoop hloop hdefault

end Port

/-- **The parser accepts exactly the grammar**, with the options and the arguments that it says;
it exits exactly when it is asked to, and refuses everything else with `ValueError`. -/
theorem parse_iff (logDir : Option String) (args : List String) :
    (∀ options rest, parse args (defaults logDir) = .ok (options, rest) ↔
      Accepts (defaults logDir) args options rest) ∧
    (parse args (defaults logDir) = .error .systemExit ↔ Exits args) ∧
    ∀ e, parse args (defaults logDir) = .error e →
      (∃ text, e = .valueError text) ∨ e = .systemExit := by
  have hok : ∀ {options rest}, Accepts (defaults logDir) args options rest →
      parse args (defaults logDir) = .ok (options, rest) := parse_of_accepts rfl rfl
  have hexit : Exits args → parse args (defaults logDir) = .error .systemExit :=
    parse_of_exits rfl
  rcases @parse_cases (defaults logDir) rfl rfl args with
    ⟨options, rest, haccepts⟩ | hexits | ⟨text, htext⟩
  · refine ⟨fun options' rest' => ⟨fun h => ?_, hok⟩, ⟨fun h => ?_, hexit⟩, fun e h => ?_⟩ <;>
      rw [hok haccepts] at h <;> cases h
    exact haccepts
  · refine ⟨fun options' rest' => ⟨fun h => ?_, hok⟩, ⟨fun _ => hexits, hexit⟩, fun e h => ?_⟩ <;>
      rw [hexit hexits] at h <;> cases h
    exact .inr rfl
  · refine ⟨fun options' rest' => ⟨fun h => ?_, hok⟩, ⟨fun h => ?_, hexit⟩, fun e h => ?_⟩ <;>
      rw [htext] at h <;> cases h
    exact .inl ⟨text, rfl⟩

end CommandLine

end Ptvsd
