import Ptvsd.ChildProcesses

/-!
# The Descendants of a Debuggee

A child that is debugged has a `setup` of its own, which its debugger has read from the command
line, and starts processes with it in turn. What it hands on goes from one generation to the next,
so that the settings of the first process are those of all its descendants; but so goes the flag
that says that a program is a module.

## Main results

* `settings_kept`: **every descendant has the settings of the first process**, whatever programs
  the debuggers run.
* `descendant_debugs_iff`: where every process has run the program that it was to run, the next one
  is debugged if and only if the first process could start it, and **no module has started a
  script**.
-/

namespace Ptvsd

open SetupArguments PatchArgs ChildProcesses

namespace Descendants

/-- The protocol that `main` sets. -/
def protocolOf (setup : Setup) : Protocol :=
  if (setup "json-dap").any Value.truth then .json
  else if (setup "json-dap-http").any Value.truth then .httpJson
  else if (setup "protocol-http").any Value.truth then .http
  else .quotedLine

/-- The child as a parent, once `main` has read its arguments. -/
def child (p : Parent) (setup : Setup) (hport : setup "port" ≠ some .none) : Parent :=
  { p with setup := setup, port_ne_none := hport, protocol := protocolOf setup }

/-- The process starts the command: arguments have been put in front of the program, the
interpreter runs the debugger, and the settings are what that reads of its arguments. -/
inductive Starts (version : Version) (p : Parent) (cmd : Command) : Parent → Prop where
  | intro {python : String} {args args' argv left : List String} {switches : List Switch}
      {setup : Setup} (hread : readCommand version args = some cmd)
      (hargs : p.patchArgs (python :: args) = python :: args')
      (hlength : args.length < args'.length)
      (hchild : readCommand version args' = some ⟨switches, .script p.pydevdFile, argv⟩)
      (hprocess : processCommandLine (p.pydevdFile :: argv) = .ok (setup, left))
      (hport : setup "port" ≠ some .none) :
      Starts version p cmd (child p setup hport)

/-- The process starts the command, and the debugger runs the program of the command. -/
inductive StartsProgram (version : Version) (p : Parent) (cmd : Command) : Parent → Prop where
  | intro {python : String} {args args' : List String} {setup : Setup}
      (hread : readCommand version args = some cmd)
      (hargs : p.patchArgs (python :: args) = python :: args')
      (h : Runs version p cmd args' setup) (hport : setup "port" ≠ some .none) :
      StartsProgram version p cmd (child p setup hport)

/-- The commands by which one process has been started after the other. -/
inductive Descends (starts : Parent → Command → Parent → Prop) (root : Parent) :
    List Command → Parent → Prop where
  | root : Descends starts root [] root
  | child {cmds : List Command} {cmd : Command} {p p' : Parent} :
      Descends starts root cmds p → starts p cmd p' → Descends starts root (cmds ++ [cmd]) p'

/-- What descendants have in common. -/
structure Kept (root p : Parent) : Prop where
  win32 : p.win32 = root.win32
  basename : p.basename = root.basename
  protocol : p.protocol = root.protocol
  settings : ∀ h ∈ acceptedArgHandlers, h.argName ≠ "module" →
    h.passed p.childSetup = h.passed root.childSetup

/-- The flag for a module is set if it was at first, or if there has been a module. -/
def KeptModule (root : Parent) (cmds : List Command) (p : Parent) : Prop :=
  (p.childSetup "module").any Value.truth =
    ((root.childSetup "module").any Value.truth || cmds.any (·.program.isModule))

variable {version : Version} {root p p' : Parent} {cmd : Command} {cmds : List Command}
  {setup : Setup} {h : Handler} {hport : setup "port" ≠ some .none}

/-- The names of the protocols. -/
def protocolNames : List String :=
  ["json-dap-http", "json-dap", "protocol-quoted-line", "protocol-http"]

theorem childSetup_of_notMem {name : String} (hname : name ∉ protocolNames) :
    p.childSetup name = p.setup name := by
  have hargument : name ≠ p.protocol.argument := by
    rintro rfl
    revert hname
    cases p.protocol <;> decide
  rw [Parent.childSetup, getSetupUpdatedWithProtocol, set_of_ne hargument]
  exact if_neg hname

theorem childSetup_of_mem {name : String} (hname : name ∈ protocolNames) :
    p.childSetup name = if name = p.protocol.argument then some (.bool true) else none := by
  rw [Parent.childSetup, getSetupUpdatedWithProtocol]
  split_ifs with hargument
  · rw [hargument, set_self]
  · rw [set_of_ne hargument]
    exact if_pos hname

theorem handlerOf_protocol {name : String} (hname : name ∈ protocolNames) :
    (⟨name, .bool⟩ : Handler) ∈ acceptedArgHandlers := by
  simp only [protocolNames, List.mem_cons, List.not_mem_nil, or_false] at hname
  rcases hname with rfl | rfl | rfl | rfl
  · exact mem_of_handlerOf (show handlerOf "--json-dap-http" = _ from rfl)
  · exact mem_of_handlerOf (show handlerOf "--json-dap" = _ from rfl)
  · exact mem_of_handlerOf (show handlerOf "--protocol-quoted-line" = _ from rfl)
  · exact mem_of_handlerOf (show handlerOf "--protocol-http" = _ from rfl)

/-- The child uses the protocol of its parent. -/
theorem protocolOf_eq (h : Inherits p setup) : protocolOf setup = p.protocol := by
  have hname : ∀ name ∈ protocolNames, (setup name).any Value.truth =
      decide (name = p.protocol.argument) := fun name hmem => by
    have hne : name ≠ "module" := by
      rintro rfl
      revert hmem
      decide
    have hpassed := h ⟨name, .bool⟩ (handlerOf_protocol hmem) hne
    rw [hpassed]
    simp only [Handler.passed, childSetup_of_mem hmem]
    split_ifs with heq <;> simp [heq, Value.truth]
  rw [protocolOf, hname _ (by decide), hname _ (by decide), hname _ (by decide)]
  cases p.protocol <;> decide

/-- The child hands on what it was given. -/
theorem passed_child (hpass : Passable p.childSetup) (h : Inherits p setup)
    {handler : Handler} (hh : handler ∈ acceptedArgHandlers) (hne : handler.argName ≠ "module") :
    handler.passed (child p setup hport).childSetup = handler.passed p.childSetup := by
  by_cases hname : handler.argName ∈ protocolNames
  · refine passed_congr ?_
    rw [childSetup_of_mem hname, childSetup_of_mem hname]
    exact congrArg (fun protocol => if handler.argName = Protocol.argument protocol then
      some (SetupArguments.Value.bool true) else none) (protocolOf_eq h)
  · refine passed_passed hh ?_ (hpass handler hh)
    rw [childSetup_of_notMem hname]
    exact h handler hh hne

/-- The flag for a module is a flag in every process. -/
theorem passed_module (hh : h ∈ acceptedArgHandlers) (hname : h.argName = "module")
    (setup : Setup) : ∃ b, h.passed setup = some (.bool b) := by
  have hmem : (⟨"module", .bool⟩ : Handler) ∈ acceptedArgHandlers :=
    mem_of_handlerOf handlerOf_module
  rw [List.inj_on_of_nodup_map argName_nodup hh hmem hname]
  exact ⟨_, rfl⟩

/-- A property of settings that flags have. -/
theorem forall_passed {p p' : Parent} {P : Option SetupArguments.Value → Prop}
    (hsettings : ∀ h ∈ acceptedArgHandlers, h.argName ≠ "module" →
      h.passed p'.childSetup = h.passed p.childSetup) (hflag : ∀ b, P (some (.bool b))) :
    (∀ h ∈ acceptedArgHandlers, P (h.passed p'.childSetup)) ↔
      ∀ h ∈ acceptedArgHandlers, P (h.passed p.childSetup) := by
  refine forall₂_congr fun h hh => ?_
  by_cases hname : h.argName = "module"
  · obtain ⟨b, hb⟩ := passed_module hh hname p'.childSetup
    obtain ⟨b', hb'⟩ := passed_module hh hname p.childSetup
    exact iff_of_true (hb ▸ hflag b) (hb' ▸ hflag b')
  · rw [hsettings h hh hname]

/-! ### What a child reads -/

/-- The interpreter does not get behind an argument of the debugger. -/
theorem readCommand_debugger {file arg file' : String} {rest argv : List String}
    {switches : List Switch} (hfile : ¬ startsWith file "-") (hdash : startsWith arg "-")
    (harg : version.readOption arg = .stops) :
    ∀ front : List String, (∀ w ∈ front, startsWith w "-") →
      readCommand version (front ++ file :: arg :: rest) = some ⟨switches, .script file', argv⟩ →
      file' = file ∧ argv = arg :: rest
  | [], _, h => by
      rw [List.nil_append, readCommand_script hfile] at h
      cases h
      exact ⟨rfl, rfl⟩
  | w :: front, hfront, h => by
      have hw : startsWith w "-" := hfront w List.mem_cons_self
      rw [List.cons_append] at h
      cases hread : version.readOption w with
      | options =>
          rw [readCommand_flag hread] at h
          obtain ⟨⟨switches', program, params⟩, hcmd, heq⟩ := Option.map_eq_some_iff.mp h
          cases heq
          exact readCommand_debugger hfile hdash harg front
            (fun v hv => hfront v (List.mem_cons_of_mem w hv)) hcmd
      | expects =>
          match front, hfront, h with
          | [], _, h =>
              -- the debugger is taken for the value
              rw [List.nil_append, readCommand_valued hread, readCommand_stops hdash harg] at h
              cases h
          | v :: front, hfront, h =>
              rw [List.cons_append, readCommand_valued hread] at h
              obtain ⟨⟨switches', program, params⟩, hcmd, heq⟩ := Option.map_eq_some_iff.mp h
              cases heq
              exact readCommand_debugger hfile hdash harg front
                (fun u hu => hfront u (List.mem_cons_of_mem w (List.mem_cons_of_mem v hu))) hcmd
      | module =>
          rw [readCommand.eq_def] at h
          simp only [hw, if_true, hread] at h
          cases front <;> cases h
      | joined name =>
          rw [readCommand.eq_def] at h
          simp only [hw, if_true, hread] at h
          cases h
      | stops =>
          rw [readCommand_stops hw hread] at h
          cases h

/-- An argument of the debugger is none of an interpreter. -/
theorem readOption_debugger {arg : String}
    (harg : arg ∈ "--file" :: acceptedArgHandlers.map Handler.argVRep) :
    startsWith arg "-" ∧ version.readOption arg = .stops := by
  have hall : ∀ arg ∈ "--file" :: acceptedArgHandlers.map Handler.argVRep,
      startsWith arg "-" ∧ arg ≠ "--check-hash-based-pycs" ∧ startsWith arg "--" := by decide
  obtain ⟨hdash, hne, hstart⟩ := hall arg harg
  refine ⟨hdash, ?_⟩
  rw [startsWith, List.isPrefixOf_iff_prefix] at hstart
  obtain ⟨name, hname⟩ := hstart
  rw [Version.readOption, ← hname]
  simp [hne]

/-- The first argument of the debugger. -/
theorem debuggerArguments_cons (p : Parent) (args : List String) :
    ∃ arg rest, debuggerArguments p args = arg :: rest ∧
      arg ∈ "--file" :: acceptedArgHandlers.map Handler.argVRep := by
  rw [debuggerArguments]
  generalize (dashes args).countP (startsWith · "-m") = n
  generalize ((dashes args).foldl joinedName none).toList ++ _ = program
  cases n with
  | succ n => exact ⟨"--module", _, rfl, by decide⟩
  | zero =>
      rw [List.replicate_zero, List.nil_append]
      cases hwords : settingWords p with
      | nil => exact ⟨"--file", program, rfl, List.mem_cons_self⟩
      | cons w words =>
          by_cases hw : w = "--file"
          · rw [List.takeWhile_cons_of_neg (by simpa using hw)]
            exact ⟨"--file", program, rfl, List.mem_cons_self⟩
          · rw [List.takeWhile_cons_of_pos (by simpa using hw)]
            refine ⟨w, _, rfl, List.mem_cons_of_mem _ ?_⟩
            have hhead : (settingWords p).head? = some w := by rw [hwords]; rfl
            rw [settingWords, List.head?_flatMap] at hhead
            obtain ⟨h, hh, hargv⟩ := List.exists_of_findSome?_eq_some hhead
            refine List.mem_map.mpr ⟨h, hh, ?_⟩
            obtain hnil | ⟨-, hflag⟩ | ⟨convertVal, d, val, -, hval⟩ :=
              toArgv_cases h p.childSetup
            · rw [hnil] at hargv
              cases hargv
            · rw [hflag] at hargv
              exact Option.some.inj hargv
            · rw [hval] at hargv
              exact Option.some.inj hargv

/-- **The child has the settings of its parent**, whatever the debugger runs. -/
theorem Starts.inherits (hs : Starts version p cmd p') (hunix : p.win32 = false)
    (hfile : "--file" ∉ settingWords p) :
    ∃ setup hport, p' = child p setup hport ∧ Passable p.childSetup ∧ Inherits p setup := by
  obtain @⟨python, args, args', argv, left, switches, setup, hread, hargs, hlength, hchild,
    hprocess, hport⟩ := hs
  obtain ⟨-, rfl⟩ := patched_of_length_lt hunix hargs hlength
  obtain ⟨htake, hdrop⟩ := patched_split p args
  obtain ⟨arg, rest, harguments, harg⟩ := debuggerArguments_cons p args
  obtain ⟨hdash, hstops⟩ : startsWith arg "-" ∧ version.readOption arg = .stops :=
    readOption_debugger harg
  have hwords : p.patched args = (dashes args).filter (¬ startsWith · "-m") ++
      p.pydevdFile :: arg :: rest := by
    rw [← List.takeWhile_append_dropWhile (p := (startsWith · "-")) (l := p.patched args), htake,
      hdrop, harguments]
  have hfront : ∀ w ∈ (dashes args).filter (¬ startsWith · "-m"), startsWith w "-" := fun w hw =>
    List.mem_takeWhile_imp (p := (startsWith · "-")) (List.mem_filter.mp hw).1
  rw [hwords] at hchild
  obtain ⟨-, rfl⟩ := readCommand_debugger p.pydevdFile_dash hdash hstops _ hfront hchild
  rw [← harguments, debuggerArguments] at hprocess
  exact ⟨setup, hport, rfl, (inherits_of_read hfile hprocess).1⟩

/-- A debugger that runs its program has been started. -/
theorem StartsProgram.starts (hs : StartsProgram version p cmd p') :
    Starts version p cmd p' := by
  obtain @⟨python, args, args', setup, hread, hargs, h, hport⟩ := hs
  have hlength := h.length_lt
  obtain ⟨argv, hchild, hprocess, -⟩ := h
  rw [← (readCommand_words hread).1] at hlength
  exact .intro hread hargs hlength hchild hprocess hport

/-! ### From one generation to the next -/

/-- One generation. -/
theorem Kept.step (hk : Kept root p) (hpass : Passable p.childSetup) (h : Inherits p setup) :
    Kept root (child p setup hport) where
  win32 := hk.win32
  basename := hk.basename
  protocol := (protocolOf_eq h).trans hk.protocol
  settings handler hh hne := (passed_child hpass h hh hne).trans (hk.settings handler hh hne)

/-- No argument for the settings of a child is `--file`, either. -/
theorem file_notMem_child (hpass : Passable p.childSetup) (h : Inherits p setup)
    (hfile : "--file" ∉ settingWords p) : "--file" ∉ settingWords (child p setup hport) := by
  have hsettings : ∀ handler ∈ acceptedArgHandlers, handler.argName ≠ "module" →
      handler.passed (child p setup hport).childSetup = handler.passed p.childSetup :=
    fun handler hh hne => passed_child hpass h hh hne
  have hpass' : Passable (child p setup hport).childSetup :=
    (forall_passed (P := fun v => v.isSome) hsettings fun _ => rfl).mpr hpass
  have hnone : ∀ handler ∈ acceptedArgHandlers,
      handler.passed p.childSetup ≠ some (.str "--file") := fun handler hh heq =>
    hfile ((file_mem_flatMap hpass).mpr ⟨handler, hh, heq⟩)
  intro hmem
  obtain ⟨handler, hh, heq⟩ := (file_mem_flatMap hpass').mp hmem
  exact (forall_passed (P := fun v => v ≠ some (.str "--file")) hsettings (by simp)).mpr hnone
    handler hh heq

theorem kept (hunix : root.win32 = false) (hfile : "--file" ∉ settingWords root)
    (h : Descends (Starts version) root cmds p) : Kept root p ∧ "--file" ∉ settingWords p := by
  induction h with
  | root => exact ⟨⟨rfl, rfl, rfl, fun _ _ _ => rfl⟩, hfile⟩
  | child _ hs ih =>
      obtain ⟨hk, hfile'⟩ := ih
      obtain ⟨setup, hport, rfl, hpass, hinherits⟩ := hs.inherits (hk.win32.trans hunix) hfile'
      exact ⟨hk.step hpass hinherits, file_notMem_child hpass hinherits hfile'⟩

/-- **Every descendant has the settings of the first process**, and its protocol. -/
theorem settings_kept (hunix : root.win32 = false) (hfile : "--file" ∉ settingWords root)
    (h : Descends (Starts version) root cmds p) :
    p.protocol = root.protocol ∧ ∀ h ∈ acceptedArgHandlers, h.argName ≠ "module" →
      h.passed p.childSetup = h.passed root.childSetup :=
  ⟨(kept hunix hfile h).1.protocol, (kept hunix hfile h).1.settings⟩

/-- A child is a parent like any other. -/
theorem starts_of_patchable {python : String} {args : List String} (hunix : p.win32 = false)
    (hpython : isPython p.basename python) (hc : python ≠ "-c")
    (hread : readCommand version args = some cmd) (h : Patchable p cmd) :
    ∃ p', StartsProgram version p cmd p' := by
  obtain ⟨args', hargs, setup, hruns, hinherits⟩ :=
    debugs_of_patchable hunix hpython hc hread h
  have hport : setup "port" ≠ some .none := fun hnone => by
    have hmem : (⟨"port", .param (some CommandLine.int) (.int 0)⟩ : Handler) ∈
        acceptedArgHandlers := mem_of_handlerOf (show handlerOf "--port" = _ from rfl)
    have hpassed := (hinherits _ hmem (by decide)).symm.trans hnone
    simp only [Handler.passed] at hpassed
    split_ifs at hpassed
    · obtain ⟨n, -, hn⟩ := Option.map_eq_some_iff.mp hpassed
      cases hn
    · cases hpassed
  exact ⟨_, .intro hread hargs hruns hport⟩

/-- A process that a module of the first one has been started as. -/
theorem debuggee_settings_kept : ∃ p, Descends (Starts python37) debuggee [testCommand] p ∧
    p.protocol = debuggee.protocol ∧ ∀ h ∈ acceptedArgHandlers, h.argName ≠ "module" →
      h.passed p.childSetup = h.passed debuggee.childSetup := by
  obtain ⟨p, hp⟩ := starts_of_patchable rfl debuggee_isPython (by decide) readCommand_test
    patchable_test
  have hdescends : Descends (Starts python37) debuggee [testCommand] p := .child .root hp.starts
  exact ⟨p, hdescends, settings_kept rfl (by decide) hdescends⟩

/-! ### Modules and scripts -/

/-- One generation, when the program is the one to be run. -/
theorem KeptModule.step (hunix : p.win32 = false) (hm : KeptModule root cmds p)
    (hs : StartsProgram version p cmd p') :
    ∃ setup hport, p' = child p setup hport ∧ Patchable p cmd ∧ Inherits p setup ∧
      KeptModule root (cmds ++ [cmd]) p' := by
  have hstarts := hs.starts
  obtain @⟨python, args, args', setup, hread, hargs, h, hport⟩ := hs
  have hpatchable := patchable_of_runs hunix hread hargs h
  have hfile : "--file" ∉ settingWords p := fun hmem => by
    obtain ⟨h', hh', heq⟩ := (file_mem_flatMap hpatchable.passable).mp hmem
    exact hpatchable.settings h' hh' heq
  obtain ⟨setup', hport', heq, -, hinherits⟩ := hstarts.inherits hunix hfile
  obtain rfl : setup = setup' := congrArg Parent.setup heq
  refine ⟨setup, hport, rfl, hpatchable, hinherits, ?_⟩
  obtain ⟨-, -, -, -, hmodule⟩ := h
  have hchild : (child p setup hport).childSetup "module" =
      some (.bool cmd.program.isModule) := (childSetup_of_notMem (by decide)).trans hmodule
  have himp := hpatchable.module
  rw [KeptModule] at hm ⊢
  rw [hm] at himp
  rw [hchild, List.any_append, ← Bool.or_assoc]
  cases hvalue : cmd.program.isModule <;> simp_all [Value.truth]

theorem keptModule (hunix : root.win32 = false) (h : Descends (StartsProgram version) root cmds p) :
    Kept root p ∧ KeptModule root cmds p := by
  induction h with
  | root => exact ⟨⟨rfl, rfl, rfl, fun _ _ _ => rfl⟩, by simp [KeptModule]⟩
  | child _ hs ih =>
      obtain ⟨hk, hm⟩ := ih
      obtain ⟨setup, hport, rfl, hpatchable, hinherits, hm'⟩ :=
        hm.step (hk.win32.trans hunix) hs
      exact ⟨hk.step hpatchable.passable hinherits, hm'⟩

/-- What can be started by a descendant. -/
theorem Kept.patchable_iff (hk : Kept root p) (hm : KeptModule root cmds p) : Patchable p cmd ↔
    Patchable root cmd ∧ (cmds.any (·.program.isModule) → cmd.program.isModule) := by
  have hpassable : Passable p.childSetup ↔ Passable root.childSetup :=
    forall_passed (P := fun v => v.isSome) hk.settings fun _ => rfl
  have hsettings := forall_passed (P := fun v => v ≠ some (.str "--file")) hk.settings (by simp)
  constructor
  · intro h
    have hmodule := h.module
    rw [hm, Bool.or_eq_true, or_imp] at hmodule
    exact ⟨⟨hpassable.mp h.passable, hsettings.mp h.settings, h.switches, h.option, h.archive,
      h.behind, h.managed, hmodule.1⟩, hmodule.2⟩
  · rintro ⟨h, hmodule⟩
    refine ⟨hpassable.mpr h.passable, hsettings.mpr h.settings, h.switches, h.option, h.archive,
      h.behind, h.managed, ?_⟩
    rw [hm, Bool.or_eq_true, or_imp]
    exact ⟨h.module, hmodule⟩

/-- **A descendant starts a process that is debugged** if and only if the first process could, and
no module has started a script. -/
theorem descendant_debugs_iff {python : String} {args : List String} (hunix : root.win32 = false)
    (h : Descends (StartsProgram version) root cmds p) (hpython : isPython root.basename python)
    (hc : python ≠ "-c") (hread : readCommand version args = some cmd) :
    (∃ args', p.patchArgs (python :: args) = python :: args' ∧ Debugs version p cmd args') ↔
      Patchable root cmd ∧ (cmds.any (·.program.isModule) → cmd.program.isModule) := by
  obtain ⟨hk, hm⟩ := keptModule hunix h
  have hunix' : p.win32 = false := hk.win32.trans hunix
  rw [← hk.patchable_iff hm]
  exact ⟨fun ⟨_, hargs, _, h, _⟩ => patchable_of_runs hunix' hread hargs h,
    debugs_of_patchable hunix' (hk.basename ▸ hpython) hc hread⟩

/-- The child that is a module cannot start a script. -/
theorem test_starts_no_script : ∃ p, Descends (StartsProgram python37) debuggee [testCommand] p ∧
    ¬ ∃ args', p.patchArgs ["/usr/bin/python", "app.py"] = "/usr/bin/python" :: args' ∧
      Debugs python37 p ⟨[], .script "app.py", []⟩ args' := by
  obtain ⟨p, hp⟩ := starts_of_patchable rfl debuggee_isPython (by decide) readCommand_test
    patchable_test
  refine ⟨p, .child .root hp, fun h => ?_⟩
  have hmodule := ((descendant_debugs_iff rfl (.child .root hp) (by decide) (by decide)
    (by decide)).mp h).2
  exact absurd (hmodule (by decide)) (by decide)

end Descendants

end Ptvsd
