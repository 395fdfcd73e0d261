import Ptvsd.PatchArgs

/-!
# The Processes that a Debuggee Starts

A command line of Python says which options the interpreter gets, which program it runs, and what
the arguments of the program are. A patched one runs the debugger, whose arguments say the same of
the program that is to be debugged.

## Main results

* `patchArgs_debugs_iff`: **the child is debugged with the settings of its parent, and runs the
  program that it was to run**, if and only if the command line is `Patchable`.
-/

namespace Ptvsd

open SetupArguments PatchArgs

namespace ChildProcesses

/-! ### Command lines of Python -/

/-- What versions of Python differ in: the letters of the options without a value and of those with
one, and whether there is `--check-hash-based-pycs`, which has one, too. -/
structure Version where
  flags : List Char
  valued : List Char
  hashBasedPycs : Bool

/-- What an interpreter takes an argument with options for. -/
inductive Reading where
  /-- Options, with their values if they have any. -/
  | options
  /-- The value of the last one is the next argument. -/
  | expects
  /-- The last one is `-m`, and the next argument is the name. -/
  | module
  /-- The last one is `-m`, with the name behind it. -/
  | joined (name : String)
  /-- No program is named: there is code, or the interpreter exits. -/
  | stops
  deriving DecidableEq

namespace Version

/-- The letters of an argument. What follows the letter of an option with a value is the value. -/
def readLetters (version : Version) : List Char → Reading
  | [] => .options
  | c :: cs =>
      if c = 'c' then .stops
      else if c = 'm' then if cs = [] then .module else .joined (String.ofList cs)
      else if c ∈ version.valued then if cs = [] then .expects else .options
      else if c ∈ version.flags then version.readLetters cs
      else .stops

/-- An argument that begins with a dash. A program that is read from the standard input has no name,
and one behind `--` is left out. -/
def readOption (version : Version) (arg : String) : Reading :=
  match arg.toList with
  | ['-'] => .stops
  | '-' :: '-' :: _ =>
      if version.hashBasedPycs && arg = "--check-hash-based-pycs" then .expects else .stops
  | '-' :: cs => version.readLetters cs
  | _ => .stops

end Version

/-- An argument with options, by itself or with the value of the last one. -/
inductive Switch where
  | flag (arg : String)
  | valued (arg value : String)
  deriving DecidableEq

/-- What is run: a file, or a module, whose name may follow `-m` at once; `arg` is the argument with
the `-m`, and maybe with other options. -/
inductive Program where
  | script (file : String)
  | module (arg name : String)
  | joined (arg name : String)
  deriving DecidableEq

/-- A command line that names a program, without the interpreter. -/
structure Command where
  switches : List Switch
  program : Program
  params : List String
  deriving DecidableEq

namespace Command

/-- An option in front of the others. -/
def cons (s : Switch) (cmd : Command) : Command := { cmd with switches := s :: cmd.switches }

end Command

/-- How an interpreter reads its arguments, if they name a program. -/
def readCommand (version : Version) : List String → Option Command
  | [] => none
  | arg :: args =>
      if startsWith arg "-" then
        match version.readOption arg with
        | .options => (readCommand version args).map (·.cons (.flag arg))
        | .expects =>
            match args with
            | [] => none
            | value :: args => (readCommand version args).map (·.cons (.valued arg value))
        | .module =>
            match args with
            | [] => none
            | name :: params => some ⟨[], .module arg name, params⟩
        | .joined name => some ⟨[], .joined arg name, args⟩
        | .stops => none
      else some ⟨[], .script arg, args⟩

namespace Switch

/-- The words of a switch on the command line. -/
def words : Switch → List String
  | .flag arg => [arg]
  | .valued arg value => [arg, value]

/-- It is read as options. -/
def IsOption (version : Version) : Switch → Prop
  | .flag arg => version.readOption arg = .options
  | .valued arg _ => version.readOption arg = .expects

/-- It is taken for an option when the command line is patched: so is a value only if it looks like
one. -/
def Plain : Switch → Prop
  | .flag _ => True
  | .valued _ value => startsWith value "-" ∧ ¬ startsWith value "-m" ∧ value ≠ "-c"

instance : DecidablePred Plain
  | .flag _ => inferInstanceAs (Decidable True)
  | .valued _ value => inferInstanceAs
      (Decidable (startsWith value "-" ∧ ¬ startsWith value "-m" ∧ value ≠ "-c"))

end Switch

namespace Program

/-- The file or the module. -/
def name : Program → String
  | .script file => file
  | .module _ name => name
  | .joined _ name => name

/-- Whether the program is run with `-m`. -/
def isModule : Program → Bool
  | .script _ => false
  | _ => true

/-- The argument that says that it is a module. -/
def option : Program → List String
  | .script _ => []
  | .module arg _ => [arg]
  | .joined arg _ => [arg]

/-- It is read as a program. -/
def IsProgram (version : Version) : Program → Prop
  | .script file => ¬ startsWith file "-"
  | .module arg _ => version.readOption arg = .module
  | .joined arg name => version.readOption arg = .joined name

end Program

namespace Command

/-- What is behind the options, `-m` being one of them. -/
def behind (cmd : Command) : List String :=
  match cmd.program with
  | .script file => file :: cmd.params
  | .module _ name => name :: cmd.params
  | .joined _ _ => cmd.params

/-- The arguments, as they are on the command line. -/
def words (cmd : Command) : List String :=
  cmd.switches.flatMap Switch.words ++ (cmd.program.option ++ cmd.behind)

end Command

variable {version : Version} {cmd : Command} {s : Switch} {switches : List Switch}
  {args rest : List String} {arg value : String}

/-! ### Reading a command line -/

/-- Only what begins with a dash is read as options. -/
theorem dash_of_readOption (version : Version) (h : version.readOption arg ≠ .stops) :
    startsWith arg "-" := by
  rw [startsWith, List.isPrefixOf_iff_prefix]
  rw [Version.readOption] at h
  split at h
  · exact absurd rfl h
  · next heq => exact heq ▸ ⟨_, rfl⟩
  · next heq => exact heq ▸ ⟨_, rfl⟩
  · exact absurd rfl h

/-- `-m` comes first. -/
theorem readOption_m (h : startsWith arg "-m") : version.readOption arg =
    if arg = "-m" then .module else .joined (String.ofList (arg.toList.drop 2)) := by
  rw [startsWith, List.isPrefixOf_iff_prefix] at h
  obtain ⟨name, hname⟩ := h
  have harg : arg = "-m" ↔ name = [] := by
    rw [← String.toList_inj, ← hname]
    simp
  rw [Version.readOption, ← hname]
  simp [harg, Version.readLetters]

/-- Code is no program. -/
theorem readOption_c (version : Version) : version.readOption "-c" = .stops := rfl

/-- Options in front of the program are not mistaken for `-m` or `-c`. -/
theorem not_m_of_readOption (h : version.readOption arg = .options ∨
    version.readOption arg = .expects) : ¬ startsWith arg "-m" ∧ arg ≠ "-c" := by
  constructor
  · intro hm
    rw [readOption_m hm] at h
    split_ifs at h <;> simp at h
  · rintro rfl
    rw [readOption_c] at h
    simp at h

/-- The first word of an option. -/
theorem dash_of_isOption (h : (Switch.valued arg value).IsOption version ∨
    (Switch.flag arg).IsOption version) :
    startsWith arg "-" ∧ ¬ startsWith arg "-m" ∧ arg ≠ "-c" := by
  refine ⟨dash_of_readOption version fun hstops => ?_, not_m_of_readOption h.symm⟩
  rcases h with h | h <;> rw [Switch.IsOption, hstops] at h <;> cases h

/-- The arguments are the words of what is read. -/
theorem readCommand_words (h : readCommand version args = some cmd) :
    args = cmd.words ∧ (∀ s ∈ cmd.switches, s.IsOption version) ∧
      cmd.program.IsProgram version := by
  fun_induction readCommand version args generalizing cmd with
  | case1 | case3 | case5 | case8 => cases h
  | case2 arg args hdash hread ih =>
      obtain ⟨cmd, hcmd, rfl⟩ := Option.map_eq_some_iff.mp h
      obtain ⟨rfl, hswitches, hprogram⟩ := ih hcmd
      exact ⟨by simp [Command.words, Command.cons, Command.behind, Switch.words],
        List.forall_mem_cons.mpr ⟨hread, hswitches⟩, hprogram⟩
  | case4 arg hdash hread value args ih =>
      obtain ⟨cmd, hcmd, rfl⟩ := Option.map_eq_some_iff.mp h
      obtain ⟨rfl, hswitches, hprogram⟩ := ih hcmd
      exact ⟨by simp [Command.words, Command.cons, Command.behind, Switch.words],
        List.forall_mem_cons.mpr ⟨hread, hswitches⟩, hprogram⟩
  | case6 arg hdash hread name params =>
      cases h
      exact ⟨rfl, by simp, hread⟩
  | case7 arg args hdash name hread =>
      cases h
      exact ⟨rfl, by simp, hread⟩
  | case9 arg args hdash =>
      cases h
      exact ⟨rfl, by simp, hdash⟩

/-- What does not begin with a dash is a script. -/
theorem readCommand_script (h : ¬ startsWith arg "-") :
    readCommand version (arg :: args) = some ⟨[], .script arg, args⟩ := by
  rw [readCommand.eq_def]
  exact if_neg h

/-- An argument at which the interpreter stops. -/
theorem readCommand_stops (hdash : startsWith arg "-") (h : version.readOption arg = .stops) :
    readCommand version (arg :: args) = none := by
  rw [readCommand.eq_def]
  simp only [hdash, if_true, h]

/-- An argument with options, whose values are in it. -/
theorem readCommand_flag (h : version.readOption arg = .options) :
    readCommand version (arg :: args) = (readCommand version args).map (·.cons (.flag arg)) := by
  have hdash : startsWith arg "-" := dash_of_readOption version (by simp [h])
  rw [readCommand.eq_def]
  simp only [hdash, if_true, h]

/-- An argument with options, the last of which has the next one as its value. -/
theorem readCommand_valued (h : version.readOption arg = .expects) :
    readCommand version (arg :: value :: args) =
      (readCommand version args).map (·.cons (.valued arg value)) := by
  have hdash : startsWith arg "-" := dash_of_readOption version (by simp [h])
  rw [readCommand.eq_def]
  simp only [hdash, if_true, h]

/-- The options are read one by one. -/
theorem readCommand_switches (hs : ∀ s ∈ switches, s.IsOption version) :
    readCommand version (switches.flatMap Switch.words ++ rest) =
      (readCommand version rest).map fun cmd => { cmd with switches := switches ++ cmd.switches } :=
    by
  induction switches with
  | nil => simp
  | cons s switches ih =>
      have ih' := ih fun s' hs' => hs s' (by simp [hs'])
      have hoption := hs s (by simp)
      cases s with
      | flag arg =>
          rw [List.flatMap_cons, Switch.words, List.append_assoc, List.singleton_append,
            readCommand_flag hoption, ih']
          simp [Command.cons, Function.comp_def]
      | valued arg value =>
          rw [List.flatMap_cons, Switch.words, List.append_assoc, List.cons_append,
            List.singleton_append, readCommand_valued hoption, ih']
          simp [Command.cons, Function.comp_def]

/-! ### The child -/

/-- The arguments run the debugger, which runs the program, in the same interpreter and with the
same arguments. -/
def Runs (version : Version) (p : Parent) (cmd : Command) (args : List String) (setup : Setup) :
    Prop :=
  ∃ argv, readCommand version args = some ⟨cmd.switches, .script p.pydevdFile, argv⟩ ∧
    processCommandLine (p.pydevdFile :: argv) = .ok (setup, cmd.program.name :: cmd.params) ∧
      setup "file" = some (.str cmd.program.name) ∧
        setup "module" = some (.bool cmd.program.isModule)

/-- The settings are those of the parent. -/
def Inherits (p : Parent) (setup : Setup) : Prop :=
  ∀ h ∈ acceptedArgHandlers, h.argName ≠ "module" → setup h.argName = h.passed p.childSetup

/-- The program is debugged with the settings of the parent. -/
def Debugs (version : Version) (p : Parent) (cmd : Command) (args : List String) : Prop :=
  ∃ setup, Runs version p cmd args setup ∧ Inherits p setup

/-- The arguments for the settings. -/
def settingWords (p : Parent) : List String := acceptedArgHandlers.flatMap (·.toArgv p.childSetup)

/-- The commands that are patched as they should be. -/
structure Patchable (p : Parent) (cmd : Command) : Prop where
  /-- The port is a number. -/
  passable : Passable p.childSetup
  /-- No setting is taken for the end of the settings. -/
  settings : ∀ h ∈ acceptedArgHandlers, h.passed p.childSetup ≠ some (.str "--file")
  switches : ∀ s ∈ cmd.switches, s.Plain
  /-- There is no other option in front of `-m` in its argument. -/
  option : ∀ w ∈ cmd.program.option, startsWith w "-m"
  /-- What looks like the program is no archive. -/
  archive : isPyZip false cmd.words = false
  /-- What is behind the options does not look like another one. -/
  behind : ¬ cmd.behind.head?.any (startsWith · "-")
  managed : ¬ cmd.behind.head?.any isManagedArg
  /-- A module has no script as its child. -/
  module : (p.childSetup "module").any Value.truth → cmd.program.isModule

variable {p : Parent} {python : String}

/-- What is inserted: the debugger, the flags for modules, and the settings up to the first
`--file`. -/
theorem inserted_eq (p : Parent) (n : ℕ) : p.inserted n =
    p.pydevdFile :: (List.replicate n "--module" ++
      ((settingWords p).takeWhile (· ≠ "--file") ++ ["--file"])) := by
  have hfile : p.pydevdFile ≠ "--file" := fun h => p.pydevdFile_dash (h ▸ by decide)
  have hmodule : ∀ w ∈ List.replicate n "--module", decide (w ≠ "--file") := fun w hw => by
    rw [List.eq_of_mem_replicate hw]
    decide
  rw [Parent.inserted, Parent.original, setupToArgv, List.tail_cons, flatMap_filter,
    List.takeWhile_cons_of_pos (by simpa using hfile), List.takeWhile_append_of_pos hmodule,
    settingWords]
  generalize acceptedArgHandlers.flatMap (·.toArgv p.childSetup) = settings
  have hend : (settings ++ ["--file"]).takeWhile (· ≠ "--file") =
      settings.takeWhile (· ≠ "--file") := by
    induction settings with
    | nil => rfl
    | cons w settings ih =>
        rw [List.cons_append, List.takeWhile_cons, List.takeWhile_cons, ih]
  rw [hend, List.cons_append, List.append_assoc]

/-- A text starts with its front. -/
theorem startsWith_append (s t : String) : startsWith (s ++ t) s := by
  rw [startsWith, List.isPrefixOf_iff_prefix, String.toList_append]
  exact List.prefix_append _ _

/-- The module that the loop finds, and what it leaves. -/
theorem program_arguments (hprogram : cmd.program.IsProgram version)
    (hoption : ∀ w ∈ cmd.program.option, startsWith w "-m") :
    (cmd.program.option.foldl joinedName none).toList ++ cmd.behind =
      cmd.program.name :: cmd.params := by
  obtain ⟨switches, program, params⟩ := cmd
  cases program with
  | script file => rfl
  | module arg name =>
      have hstart : startsWith arg "-m" := hoption arg (by simp [Program.option])
      have hread : version.readOption arg = .module := hprogram
      have hm : arg = "-m" := by
        by_contra hm
        rw [readOption_m hstart, if_neg hm] at hread
        cases hread
      simp [Program.option, Command.behind, joinedName, Program.name, hm]
  | joined arg name =>
      have hstart : startsWith arg "-m" := hoption arg (by simp [Program.option])
      have hread : version.readOption arg = .joined name := hprogram
      rw [readOption_m hstart] at hread
      split_ifs at hread with hm
      cases hread
      simp [Program.option, Command.behind, joinedName, Program.name, hstart, hm]

/-- The argument with `-m` begins with a dash. -/
theorem dash_option (hprogram : cmd.program.IsProgram version) :
    ∀ w ∈ cmd.program.option, startsWith w "-" := by
  obtain ⟨switches, program, params⟩ := cmd
  intro w hw
  refine dash_of_readOption version fun hstops => ?_
  cases program with
  | script file => simp [Program.option] at hw
  | module arg name =>
      have hread : version.readOption arg = .module := hprogram
      rw [← List.mem_singleton.mp hw, hstops] at hread
      cases hread
  | joined arg name =>
      have hread : version.readOption arg = .joined name := hprogram
      rw [← List.mem_singleton.mp hw, hstops] at hread
      cases hread

/-- There is one argument with `-m`, for a module. -/
theorem length_option (cmd : Command) :
    cmd.program.option.length = (if cmd.program.isModule then 1 else 0) ∧
      cmd.behind.length ≤ cmd.params.length + 1 := by
  obtain ⟨switches, program, params⟩ := cmd
  cases program <;> simp [Program.option, Program.isModule, Command.behind]

/-- A command line that runs the debugger is longer. -/
theorem Runs.length_lt {setup : Setup} (h : Runs version p cmd args setup) :
    cmd.words.length < args.length := by
  obtain ⟨argv, hread, hprocess, -⟩ := h
  obtain ⟨rfl, -, -⟩ := readCommand_words hread
  have hargv : cmd.params.length + 1 < argv.length := by
    simpa using (length_readArguments hprocess).resolve_left (by simp)
  have hwords : cmd.words.length = (cmd.switches.flatMap Switch.words).length +
      (cmd.program.option.length + cmd.behind.length) := by
    rw [Command.words, List.length_append, List.length_append]
  have hchild : (Command.words ⟨cmd.switches, .script p.pydevdFile, argv⟩).length =
      (cmd.switches.flatMap Switch.words).length + (argv.length + 1) := by
    simp [Command.words, Program.option, Command.behind]
  have hoption := length_option cmd
  rw [hwords, hchild]
  split_ifs at hoption <;> omega

/-- The words of the options, if values look like options. -/
theorem dash_words (hs : ∀ s ∈ switches, s.IsOption version) (hplain : ∀ s ∈ switches, s.Plain)
    {w : String} (hw : w ∈ switches.flatMap Switch.words) :
    startsWith w "-" ∧ ¬ startsWith w "-m" ∧ w ≠ "-c" := by
  obtain ⟨s, hmem, hw⟩ := List.mem_flatMap.mp hw
  have hoption := hs s hmem
  have hplain := hplain s hmem
  cases s with
  | flag arg =>
      obtain rfl : w = arg := by simpa [Switch.words] using hw
      exact @dash_of_isOption _ _ "" (Or.inr hoption)
  | valued arg value =>
      obtain rfl | rfl : w = arg ∨ w = value := by simpa [Switch.words] using hw
      · exact dash_of_isOption (Or.inl hoption)
      · exact hplain

/-- Nothing is taken for an option, if the first argument is none. -/
theorem takeWhile_eq_nil {l : List String} (h : ¬ l.head?.any (startsWith · "-")) :
    l.takeWhile (startsWith · "-") = [] ∧ l.dropWhile (startsWith · "-") = l := by
  cases l <;> simp_all

/-- The options end in front of the program. -/
theorem dashes_words (hwords : ∀ w ∈ cmd.switches.flatMap Switch.words, startsWith w "-")
    (hoption : ∀ w ∈ cmd.program.option, startsWith w "-")
    (hbehind : ¬ cmd.behind.head?.any (startsWith · "-")) :
    dashes cmd.words = cmd.switches.flatMap Switch.words ++ cmd.program.option ∧
      cmd.words.dropWhile (startsWith · "-") = cmd.behind := by
  obtain ⟨htake, hdrop⟩ := takeWhile_eq_nil hbehind
  rw [dashes, Command.words, List.takeWhile_append_of_pos hwords,
    List.takeWhile_append_of_pos hoption, htake, List.append_nil,
    List.dropWhile_append_of_pos hwords, List.dropWhile_append_of_pos hoption, hdrop]
  exact ⟨rfl, rfl⟩

/-- No module is found without `-m`. -/
theorem foldl_joinedName {l : List String} (hl : ∀ w ∈ l, ¬ startsWith w "-m") :
    l.foldl joinedName none = none := by
  induction l with
  | nil => rfl
  | cons w l ih =>
      rw [List.foldl_cons, joinedName, if_neg (fun h => hl w (by simp) h.2)]
      exact ih fun w' hw' => hl w' (by simp [hw'])

/-- What the patched options are. -/
theorem patched_words (hs : ∀ s ∈ cmd.switches, s.IsOption version)
    (hplain : ∀ s ∈ cmd.switches, s.Plain) (hprogram : cmd.program.IsProgram version)
    (hoption : ∀ w ∈ cmd.program.option, startsWith w "-m")
    (hbehind : ¬ cmd.behind.head?.any (startsWith · "-")) :
    p.patched cmd.words = cmd.switches.flatMap Switch.words ++
      (p.inserted (if cmd.program.isModule then 1 else 0) ++ cmd.program.name :: cmd.params) := by
  have hwords := fun w (hw : w ∈ cmd.switches.flatMap Switch.words) => dash_words hs hplain hw
  obtain ⟨hdashes, hdrop⟩ :=
    dashes_words (fun w hw => (hwords w hw).1) (dash_option hprogram) hbehind
  generalize cmd.switches.flatMap Switch.words = words at hwords hdashes
  have hfilter : (words ++ cmd.program.option).filter (¬ startsWith · "-m") = words := by
    rw [List.filter_append, List.filter_eq_self.mpr, List.filter_eq_nil_iff.mpr, List.append_nil]
    · simpa using hoption
    · simpa using fun w hw => (hwords w hw).2.1
  have hcount : (words ++ cmd.program.option).countP (startsWith · "-m") =
      if cmd.program.isModule then 1 else 0 := by
    rw [List.countP_append, List.countP_eq_zero.mpr fun w hw => (hwords w hw).2.1, Nat.zero_add,
      List.countP_eq_length.mpr hoption, (length_option cmd).1]
  rw [Parent.patched, hdashes, hdrop, hfilter, hcount, List.foldl_append,
    foldl_joinedName (fun w hw => (hwords w hw).2.1), program_arguments hprogram hoption]

/-- The flag for modules is an option of the debugger. -/
theorem handlerOf_module : handlerOf "--module" = some ⟨"module", .bool⟩ := by rfl

/-- The flag is set by the insertion, or because it is set in the parent. -/
theorem received_module (setup : Setup) (n : ℕ) :
    received setup acceptedArgHandlers (if n = 0 then defaults else
      defaults.set "module" (.bool true)) "module" =
        some (.bool (n ≠ 0 || (setup "module").any Value.truth)) := by
  have hmem : (⟨"module", .bool⟩ : Handler) ∈ acceptedArgHandlers :=
    mem_of_handlerOf handlerOf_module
  have htruth : ((setup "module").getD .none).truth = (setup "module").any Value.truth := by
    cases setup "module" <;> rfl
  refine (received_of_mem argName_nodup hmem).trans ?_
  simp only [Handler.toArgv, Handler.passed, htruth]
  by_cases hn : n = 0
  · have hdefault : defaults "module" = some (.bool false) := defaults_of_mem hmem
    cases (setup "module").any Value.truth <;> simp [hn, hdefault]
  · cases (setup "module").any Value.truth <;> simp [hn]

/-! ### The arguments of the debugger -/

/-- The arguments of the debugger in a patched command line. -/
def debuggerArguments (p : Parent) (args : List String) : List String :=
  List.replicate ((dashes args).countP (startsWith · "-m")) "--module" ++
    ((settingWords p).takeWhile (· ≠ "--file") ++
      "--file" :: (((dashes args).foldl joinedName none).toList ++
        args.dropWhile (startsWith · "-")))

/-- The options come first, then the debugger. -/
theorem patched_split (p : Parent) (args : List String) :
    (p.patched args).takeWhile (startsWith · "-") = (dashes args).filter (¬ startsWith · "-m") ∧
      (p.patched args).dropWhile (startsWith · "-") = p.pydevdFile :: debuggerArguments p args := by
  have hdash : ∀ w ∈ (dashes args).filter (¬ startsWith · "-m"), startsWith w "-" := fun w hw =>
    List.mem_takeWhile_imp (p := (startsWith · "-")) (List.mem_filter.mp hw).1
  have hfile : ¬ startsWith p.pydevdFile "-" := p.pydevdFile_dash
  rw [Parent.patched, inserted_eq, List.cons_append, List.takeWhile_append_of_pos hdash,
    List.dropWhile_append_of_pos hdash, List.takeWhile_cons_of_neg (p := (startsWith · "-")) hfile,
    List.dropWhile_cons_of_neg (p := (startsWith · "-")) hfile, debuggerArguments]
  simp

/-- The settings are passed on to their end. -/
theorem takeWhile_settingWords (hfile : "--file" ∉ settingWords p) :
    (settingWords p).takeWhile (· ≠ "--file") = settingWords p :=
  List.takeWhile_eq_self_iff.mpr fun w hw => by
    have hne : w ≠ "--file" := fun heq => hfile (heq ▸ hw)
    simpa using hne

/-- The settings before those of the parent are read. -/
def flagged (n : ℕ) : Setup := if n = 0 then defaults else defaults.set "module" (.bool true)

/-- The arguments for the settings are read, unless one of them cannot be converted. -/
theorem readArguments_settings (n : ℕ) (rest : List String)
    (hfile : "--file" ∉ settingWords p) :
    (Passable p.childSetup ∧
      readArguments defaults (List.replicate n "--module" ++
        ((settingWords p).takeWhile (· ≠ "--file") ++ "--file" :: rest)) =
          readArguments (received p.childSetup acceptedArgHandlers (flagged n))
            ("--file" :: rest)) ∨
    ¬ Passable p.childSetup ∧ ∃ e,
      readArguments defaults (List.replicate n "--module" ++
        ((settingWords p).takeWhile (· ≠ "--file") ++ "--file" :: rest)) = .error e := by
  rw [readArguments_replicate handlerOf_module, takeWhile_settingWords hfile, settingWords]
  obtain h | ⟨hpass, _, he⟩ := readArguments_flatMap p.childSetup (flagged n)
    ("--file" :: rest) (fun h hh => hh)
  · exact .inl h
  · exact .inr ⟨hpass, _, he⟩

/-- **The debugger has the settings of the parent**, if none of their arguments is `--file`. -/
theorem inherits_of_read {setup : Setup} {n : ℕ} {left : List String}
    (hfile : "--file" ∉ settingWords p)
    (h : readArguments defaults (List.replicate n "--module" ++
      ((settingWords p).takeWhile (· ≠ "--file") ++ "--file" :: rest)) = .ok (setup, left)) :
    (Passable p.childSetup ∧ Inherits p setup) ∧ rest = left ∧
      setup "module" = some (.bool (n ≠ 0 || (p.childSetup "module").any Value.truth)) := by
  obtain ⟨hpass, hread⟩ | ⟨-, e, he⟩ := readArguments_settings n rest hfile
  swap
  · rw [he] at h
    cases h
  rw [hread] at h
  cases rest with
  | nil =>
      rw [readArguments_file_nil] at h
      cases h
  | cons file args =>
      rw [readArguments_file] at h
      cases h
      refine ⟨⟨hpass, fun handler hh hname => ?_⟩, rfl, ?_⟩
      · rw [set_of_ne (argName_ne hh).1, received_of_mem argName_nodup hh]
        split_ifs with hnil
        · have hflagged : flagged n handler.argName = defaults handler.argName := by
            rw [flagged]
            split_ifs
            · rfl
            · exact set_of_ne hname
          rw [hflagged, defaults_of_mem hh, passed_of_toArgv hnil]
        · obtain ⟨v, hv⟩ := Option.isSome_iff_exists.mp (hpass handler hh)
          rw [hv, Option.getD_some]
      · rw [set_of_ne (by decide)]
        exact received_module _ _

/-- If enough is left of the arguments of the debugger, the settings have been read to their end. -/
theorem file_notMem_settingWords {setup : Setup} {n : ℕ} {left : List String}
    (h : readArguments defaults (List.replicate n "--module" ++
      ((settingWords p).takeWhile (· ≠ "--file") ++ "--file" :: rest)) = .ok (setup, left))
    (hne : left ≠ []) (hlength : rest.length ≤ left.length) : "--file" ∉ settingWords p := by
  intro hmem
  rw [readArguments_replicate handlerOf_module] at h
  obtain ⟨e, he⟩ | ⟨t', ht'⟩ := readArguments_takeWhile (fun h hh => hh) hmem
  · rw [settingWords, he] at h
    cases h
  · rw [settingWords, ht'] at h
    have hlt : left.length < rest.length := (length_readArguments h).resolve_left hne
    omega

namespace Patchable

/-- The command is one to be patched. -/
theorem patchesProgram (h : Patchable p cmd) (hpython : isPython p.basename python)
    (hc : python ≠ "-c") (hs : ∀ s ∈ cmd.switches, s.IsOption version)
    (hprogram : cmd.program.IsProgram version) : p.PatchesProgram python cmd.words := by
  have hwords := fun w (hw : w ∈ cmd.switches.flatMap Switch.words) =>
    dash_words hs h.switches hw
  obtain ⟨hdashes, hdrop⟩ :=
    dashes_words (fun w hw => (hwords w hw).1) (dash_option hprogram) h.behind
  refine ⟨hpython, ?_, ?_, h.archive, hdrop ▸ h.managed⟩
  · have hfront : "-c" ∉ python :: (cmd.switches.flatMap Switch.words ++ cmd.program.option) := by
      rw [List.mem_cons, List.mem_append, not_or, not_or]
      exact ⟨hc.symm, fun hmem => (hwords _ hmem).2.2 rfl,
        fun hmem => absurd (h.option _ hmem) (by decide)⟩
    have hsplit : python :: cmd.words =
        python :: (cmd.switches.flatMap Switch.words ++ cmd.program.option) ++ cmd.behind := by
      rw [Command.words, List.cons_append, List.append_assoc]
    have hbehind := h.behind
    rw [hsplit]
    cases hrest : cmd.behind with
    | nil => rw [List.append_nil, getCOptionIndex, if_neg hfront]
    | cons arg rest =>
        exact getCOptionIndex_eq_none hfront (by simp) (by simpa [hrest] using hbehind)
  · obtain ⟨switches, program, params⟩ := cmd
    cases program <;> simp [Command.words, Program.option, Command.behind]

/-- The child is debugged. -/
theorem debugs (h : Patchable p cmd) (hs : ∀ s ∈ cmd.switches, s.IsOption version)
    (hprogram : cmd.program.IsProgram version) : Debugs version p cmd (p.patched cmd.words) := by
  have hfile : "--file" ∉ settingWords p := fun hmem => by
    obtain ⟨h', hh', heq⟩ := (file_mem_flatMap h.passable).mp hmem
    exact h.settings h' hh' heq
  set n := if cmd.program.isModule then 1 else 0 with hn
  obtain ⟨-, hread⟩ | ⟨hpass, -⟩ :=
    readArguments_settings n (cmd.program.name :: cmd.params) hfile
  swap
  · exact absurd h.passable hpass
  have hprocess := hread.trans readArguments_file
  obtain ⟨⟨-, hinherits⟩, -, hmodule⟩ := inherits_of_read hfile hprocess
  refine ⟨_, ⟨_, ?_, hprocess, set_self, ?_⟩, hinherits⟩
  · rw [patched_words hs h.switches hprogram h.option h.behind, readCommand_switches hs,
      inserted_eq, List.cons_append, readCommand_script p.pydevdFile_dash]
    simp [hn]
  · have himp := h.module
    rw [hmodule, hn]
    rcases hvalue : cmd.program.isModule <;> simp_all

end Patchable

/-! ### What a child that is debugged shows -/

namespace Runs

variable {setup : Setup} (h : Runs version p cmd (p.patched cmd.words) setup)
  (hpatches : p.PatchesProgram python cmd.words)

include h hpatches

/-- A value that does not look like an option would be the debugger itself. -/
theorem dash_words {w : String} (hw : w ∈ cmd.switches.flatMap Switch.words) :
    startsWith w "-" := by
  obtain ⟨argv, hread, -⟩ := h
  have hpatched := (readCommand_words hread).1
  obtain ⟨-, hdrop⟩ := patched_split p cmd.words
  by_contra hnot
  have hmanaged := hpatches.notManaged
  have hne : (cmd.switches.flatMap Switch.words).dropWhile (startsWith · "-") ≠ [] := fun hnil =>
    hnot (List.dropWhile_eq_nil_iff.mp hnil w hw)
  obtain ⟨v, rest, hv⟩ := List.exists_cons_of_ne_nil hne
  have hdropWords : ∀ more : List String,
      (cmd.switches.flatMap Switch.words ++ more).dropWhile (startsWith · "-") =
        v :: (rest ++ more) := fun more => by
    rw [List.dropWhile_append, hv]
    rfl
  rw [hpatched, Command.words, hdropWords] at hdrop
  rw [Command.words, hdropWords, (List.cons.inj hdrop).1] at hmanaged
  exact hmanaged p.pydevdFile_managed

/-- The options are the ones that are kept, and the debugger is run with its arguments. -/
theorem split : (dashes cmd.words).filter (¬ startsWith · "-m") =
      cmd.switches.flatMap Switch.words ∧
    processCommandLine (p.pydevdFile :: debuggerArguments p cmd.words) =
      .ok (setup, cmd.program.name :: cmd.params) := by
  have hdash : ∀ w ∈ cmd.switches.flatMap Switch.words, startsWith w "-" := fun w hw =>
    h.dash_words hpatches hw
  obtain ⟨argv, hread, hprocess, -⟩ := h
  have hpatched := (readCommand_words hread).1
  have hfile : ¬ startsWith p.pydevdFile "-" := p.pydevdFile_dash
  obtain ⟨htake, hdrop⟩ := patched_split p cmd.words
  have hwords : p.patched cmd.words = cmd.switches.flatMap Switch.words ++ p.pydevdFile :: argv :=
    hpatched
  rw [hwords, List.takeWhile_append_of_pos hdash,
    List.takeWhile_cons_of_neg (p := (startsWith · "-")) hfile, List.append_nil] at htake
  rw [hwords, List.dropWhile_append_of_pos hdash,
    List.dropWhile_cons_of_neg (p := (startsWith · "-")) hfile] at hdrop
  exact ⟨htake.symm, (List.cons.inj hdrop).2 ▸ hprocess⟩

/-- No option is dropped, so that none can be one of a module. -/
theorem not_m {w : String} (hw : w ∈ cmd.switches.flatMap Switch.words) : ¬ startsWith w "-m" := by
  rw [← (h.split hpatches).1, List.mem_filter] at hw
  simpa using hw.2

/-- Every value has been taken for an option. -/
theorem plain : ∀ s ∈ cmd.switches, s.Plain := by
  have hc := notMem_dashes hpatches.noCode
  intro s hmem
  cases s with
  | flag arg => trivial
  | valued arg value =>
      have hvalue : value ∈ cmd.switches.flatMap Switch.words :=
        List.mem_flatMap.mpr ⟨_, hmem, by simp [Switch.words]⟩
      have hkept := hvalue
      rw [← (h.split hpatches).1, List.mem_filter] at hkept
      refine ⟨h.dash_words hpatches hvalue, h.not_m hpatches hvalue, ?_⟩
      rintro rfl
      exact hc (List.mem_cons_of_mem _ hkept.1)

end Runs

/-- The name of a module that follows `-m` at once is shorter than the argument. -/
theorem joinedName_ne (arg : String) : joinedName none arg ≠ some arg := by
  rw [joinedName]
  split_ifs with hjoined
  · intro h
    have hlength := congrArg (fun s => s.toList.length) (Option.some.inj h)
    have hdash := hjoined.2
    rw [startsWith, List.isPrefixOf_iff_prefix] at hdash
    have hle := hdash.length_le
    simp at hlength hle
    omega
  · simp

/-- Nothing is taken where nothing is dropped. -/
theorem takeWhile_of_dropWhile {l : List String}
    (h : l.dropWhile (startsWith · "-") = l) : l.takeWhile (startsWith · "-") = [] := by
  have hsplit := List.takeWhile_append_dropWhile (p := (startsWith · "-")) (l := l)
  rw [h] at hsplit
  simpa using hsplit

/-- The module that the loop finds, and what it leaves. -/
def found (cmd : Command) : List String :=
  ((cmd.program.option ++ cmd.behind.takeWhile (startsWith · "-")).foldl joinedName none).toList ++
    cmd.behind.dropWhile (startsWith · "-")

/-- There is one name at most. -/
theorem length_toList_le (name : Option String) : name.toList.length ≤ 1 := by
  cases name <;> simp

/-- If something behind the options looks like another one, it is not found again. -/
theorem found_ne (hprogram : cmd.program.IsProgram version)
    (hoption : ∀ w ∈ cmd.program.option, startsWith w "-m")
    (hbehind : cmd.behind.head?.any (startsWith · "-")) :
    (found cmd).length ≤ cmd.params.length + 1 ∧ found cmd ≠ cmd.program.name :: cmd.params := by
  obtain ⟨switches, program, params⟩ := cmd
  have hle := (List.dropWhile_sublist (l := params) (startsWith · "-")).length_le
  cases program with
  | script file =>
      have hfile : startsWith file "-" := by simpa [Command.behind] using hbehind
      exact absurd hfile hprogram
  | module arg name =>
      have hdash : startsWith name "-" := by simpa [Command.behind] using hbehind
      have hstart : startsWith arg "-m" := hoption arg (by simp [Program.option])
      have hread : version.readOption arg = .module := hprogram
      have hnone : joinedName none arg = none := by
        rw [readOption_m hstart] at hread
        split_ifs at hread with hm
        simp [joinedName, hm]
      simp only [found, Command.behind, Program.option, Program.name, List.takeWhile_cons_of_pos
        (p := (startsWith · "-")) hdash, List.dropWhile_cons_of_pos (p := (startsWith · "-")) hdash,
        List.singleton_append, List.foldl_cons, hnone]
      have hlength := length_toList_le
        ((params.takeWhile (startsWith · "-")).foldl joinedName (joinedName none name))
      refine ⟨by rw [List.length_append]; omega, fun heq => ?_⟩
      cases hn : (params.takeWhile (startsWith · "-")).foldl joinedName (joinedName none name) with
      | none =>
          rw [hn, Option.toList_none, List.nil_append] at heq
          rw [heq, List.length_cons] at hle
          omega
      | some x =>
          rw [hn, Option.toList_some, List.singleton_append] at heq
          obtain ⟨rfl, hdrop⟩ := List.cons.inj heq
          rw [takeWhile_of_dropWhile hdrop, List.foldl_nil] at hn
          exact joinedName_ne x hn
  | joined arg name =>
      have hparams : (params.dropWhile (startsWith · "-")).length < params.length := by
        obtain ⟨arg, rest, rfl⟩ : ∃ arg rest, params = arg :: rest := by
          cases params with
          | nil => simp [Command.behind] at hbehind
          | cons arg rest => exact ⟨arg, rest, rfl⟩
        have hdash : startsWith arg "-" := by simpa [Command.behind] using hbehind
        have hrest := (List.dropWhile_sublist (l := rest) (startsWith · "-")).length_le
        rw [List.dropWhile_cons_of_pos (p := (startsWith · "-")) hdash, List.length_cons]
        omega
      have hlength := length_toList_le (([arg] ++
        params.takeWhile (startsWith · "-")).foldl joinedName none)
      have hfound : (found ⟨switches, .joined arg name, params⟩).length ≤ params.length := by
        simp only [found, Command.behind, Program.option, List.length_append]
        omega
      refine ⟨hfound.trans (Nat.le_succ _), fun heq => ?_⟩
      rw [heq, List.length_cons] at hfound
      exact Nat.not_succ_le_self _ hfound

namespace Runs

/-- The conditions are read off one after the other. -/
theorem patchable {setup : Setup} (h : Runs version p cmd (p.patched cmd.words) setup)
    (hpatches : p.PatchesProgram python cmd.words) (hprogram : cmd.program.IsProgram version) :
    Patchable p cmd := by
  have hdash : ∀ w ∈ cmd.switches.flatMap Switch.words, startsWith w "-" := fun w hw =>
    h.dash_words hpatches hw
  have hmodule : ∀ w ∈ cmd.switches.flatMap Switch.words, ¬ startsWith w "-m" := fun w hw =>
    h.not_m hpatches hw
  obtain ⟨hfilter, hprocess⟩ := h.split hpatches
  have hoptionDash := dash_option hprogram
  have hdashes : dashes cmd.words = cmd.switches.flatMap Switch.words ++
      (cmd.program.option ++ cmd.behind.takeWhile (startsWith · "-")) := by
    rw [dashes, Command.words, List.takeWhile_append_of_pos hdash,
      List.takeWhile_append_of_pos hoptionDash]
  -- nothing but the options is kept, so that the argument with `-m` was dropped
  have hoption : ∀ w ∈ cmd.program.option, startsWith w "-m" := by
    rw [hdashes, List.filter_append, List.filter_eq_self.mpr (by simpa using hmodule),
      List.append_right_eq_self, List.filter_append, List.append_eq_nil_iff] at hfilter
    simpa using hfilter.1
  have hdrop : cmd.words.dropWhile (startsWith · "-") =
      cmd.behind.dropWhile (startsWith · "-") := by
    rw [Command.words, List.dropWhile_append_of_pos hdash,
      List.dropWhile_append_of_pos hoptionDash]
  have hfound : ((dashes cmd.words).foldl joinedName none).toList ++
      cmd.words.dropWhile (startsWith · "-") = found cmd := by
    rw [hdashes, hdrop, List.foldl_append, foldl_joinedName hmodule, found]
  have hlength : (found cmd).length ≤ (cmd.program.name :: cmd.params).length := by
    by_cases hbehind : cmd.behind.head?.any (startsWith · "-")
    · exact (found_ne hprogram hoption hbehind).1
    · obtain ⟨htake, hdrop⟩ := takeWhile_eq_nil hbehind
      rw [found, htake, hdrop, List.append_nil, program_arguments hprogram hoption]
  rw [processCommandLine, debuggerArguments, hfound] at hprocess
  have hfile := file_notMem_settingWords hprocess (by simp) hlength
  obtain ⟨⟨hpassable, -⟩, hleft, hvalue⟩ := inherits_of_read hfile hprocess
  have hbehind : ¬ cmd.behind.head?.any (startsWith · "-") := fun hbehind =>
    (found_ne hprogram hoption hbehind).2 hleft
  have hmanaged := hpatches.notManaged
  rw [(dashes_words hdash hoptionDash hbehind).2] at hmanaged
  have hsettings : ∀ h ∈ acceptedArgHandlers, h.passed p.childSetup ≠ some (.str "--file") :=
    fun h hh heq => hfile ((file_mem_flatMap hpassable).mpr ⟨h, hh, heq⟩)
  refine ⟨hpassable, hsettings, h.plain hpatches, hoption, hpatches.noZip, hbehind, hmanaged,
    fun htruth => ?_⟩
  obtain ⟨-, -, -, -, hset⟩ := h
  rw [hset, htruth, Bool.or_true] at hvalue
  exact SetupArguments.Value.bool.inj (Option.some.inj hvalue)

end Runs

/-- A command line that has become longer is one of a program, with the debugger in front. -/
theorem patched_of_length_lt {args' : List String} (hunix : p.win32 = false)
    (hargs : p.patchArgs (python :: args) = python :: args')
    (hlength : args.length < args'.length) :
    p.PatchesProgram python args ∧ args' = p.patched args := by
  obtain ⟨hsame, -⟩ | ⟨front, code, rest, host, port, hsplit, hhead, hport, hfront, hall⟩ |
    ⟨python', args, hsplit, hpatches⟩ := p.patchArgs_cases hunix (python :: args)
  · rw [hsame] at hargs
    exact absurd (congrArg List.length (List.cons.inj hargs).2) hlength.ne
  · rw [hsplit] at hhead
    rw [hsplit, p.patchArgs_code hunix hhead hport hfront hall] at hargs
    have hbefore := congrArg List.length hsplit
    have hafter := congrArg List.length hargs
    simp only [List.length_cons, List.length_append] at hbefore hafter
    omega
  · cases hsplit
    rw [p.patchArgs_program hunix hpatches] at hargs
    exact ⟨hpatches, (List.cons.inj hargs).2.symm⟩

/-- A child that runs the program comes from a command that is patchable. -/
theorem patchable_of_runs {args' : List String} {setup : Setup} (hunix : p.win32 = false)
    (hread : readCommand version args = some cmd)
    (hargs : p.patchArgs (python :: args) = python :: args')
    (h : Runs version p cmd args' setup) : Patchable p cmd := by
  obtain ⟨rfl, -, hprogram⟩ := readCommand_words hread
  obtain ⟨hpatches, rfl⟩ := patched_of_length_lt hunix hargs h.length_lt
  exact h.patchable hpatches hprogram

/-- A command that is patchable is debugged. -/
theorem debugs_of_patchable (hunix : p.win32 = false) (hpython : isPython p.basename python)
    (hc : python ≠ "-c") (hread : readCommand version args = some cmd) (h : Patchable p cmd) :
    ∃ args', p.patchArgs (python :: args) = python :: args' ∧ Debugs version p cmd args' := by
  obtain ⟨rfl, hs, hprogram⟩ := readCommand_words hread
  exact ⟨_, p.patchArgs_program hunix (h.patchesProgram hpython hc hs hprogram),
    h.debugs hs hprogram⟩

/-- Python 3.7. -/
def python37 : Version := ⟨"bBdEiIOqRsStuvx".toList, "WX".toList, true⟩

/-- `-m` and an option of the interpreter. -/
def testCommand : Command := ⟨[.flag "-u"], .joined "-mtest" "test", ["bar"]⟩

/-- It is read as the command. -/
theorem readCommand_test : readCommand python37 ["-u", "-mtest", "bar"] = some testCommand := by
  decide

/-- Options in one argument. -/
example : readCommand python37 ["-um", "test", "bar"] =
    some ⟨[], .module "-um" "test", ["bar"]⟩ := by decide

/-- The interpreter is one. -/
theorem debuggee_isPython : isPython debuggee.basename "/usr/bin/python" := by decide

/-- The command can be patched. -/
theorem patchable_test : Patchable debuggee testCommand where
  passable := by decide
  settings := by decide
  switches := by decide
  option := by decide
  archive := by decide
  behind := by decide
  managed := by decide
  module := by decide

end ChildProcesses

end Ptvsd
