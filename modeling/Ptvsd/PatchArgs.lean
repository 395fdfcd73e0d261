import Ptvsd.SetupArguments
import Ptvsd.WindowsArguments

/-!
# Patching the Command Line of a Subprocess

When a debuggee starts a process, `patch_args` of `pydev_monkey` changes its command line: if it is
one of Python, the debugger is put in front of the program, with the settings of the parent.

## Main results

* `patchArgs_patchArgs`: **what is patched is not patched again**, except code after `-c`.
-/

namespace Ptvsd

open SetupArguments

namespace PatchArgs

/-- `pydevd_constants.get_protocol()`. -/
inductive Protocol where
  | quotedLine
  | http
  | json
  | httpJson
  deriving DecidableEq

/-- The argument of the debugger for a protocol. -/
def Protocol.argument : Protocol → String
  | .quotedLine => "protocol-quoted-line"
  | .http => "protocol-http"
  | .json => "json-dap"
  | .httpJson => "json-dap-http"

/-- The name of a protocol. -/
def Protocol.name : Protocol → String
  | .quotedLine => "quoted-line"
  | .http => "http"
  | .json => "json"
  | .httpJson => "http_json"

/-- `s.endswith(p)`. -/
def endsWith (s p : String) : Bool := p.toList.isSuffixOf s.toList

/-- `is_managed_arg`: the argument is the debugger itself. -/
def isManagedArg (arg : String) : Bool := endsWith arg "pydevd.py"

/-- What a process knows that starts another. -/
structure Parent where
  /-- `sys.platform == "win32"`. -/
  win32 : Bool
  /-- `os.path.basename`. -/
  basename : String → String
  /-- What `get_pydevd_file` returns. -/
  pydevdFile : String
  pydevdFile_managed : isManagedArg pydevdFile
  pydevdFile_dash : ¬ startsWith pydevdFile "-"
  pydevSrcDir : String
  /-- `SetupHolder.setup`; there is nothing in it if it is `None`. -/
  setup : Setup
  /-- A port is converted with `int`. -/
  port_ne_none : setup "port" ≠ some .none
  protocol : Protocol
  /-- `repr` of a value. -/
  repr : SetupArguments.Value → String
  /-- `repr` of a dictionary, the order of which is left out. -/
  reprSetup : Setup → String

/-! ### The text of arguments -/

/-- The names are in ASCII, and no other letter becomes one of theirs in lower case. -/
def isPython (basename : String → String) (path : String) : Bool :=
  let path :=
    if endsWith path "'" || endsWith path "\"" then String.ofList path.toList.tail.dropLast
    else path
  let filename := (basename path).toList.map Char.toLower
  ["python", "jython", "pypy"].any fun name => name.toList <:+: filename

/-- `remove_quotes_from_args`: on Windows, arguments come without their quotes. -/
def removeQuotesFromArgs (win32 : Bool) (args : List String) : List String :=
  if win32 then
    args.map fun x =>
      if x ≠ "\"\"" && 1 < x.toList.length && startsWith x "\"" && endsWith x "\"" then
        String.ofList x.toList.tail.dropLast
      else x
  else args

/-- `quote_args`: on Windows, arguments are quoted again. -/
def quoteArgs (win32 : Bool) (args : List String) : List String :=
  if win32 then args.map fun arg => String.ofList (WindowsArguments.quoteArgWin32 arg.toList)
  else args

/-- `arg.rsplit(".")[-1]`. -/
def extension (arg : String) : String := String.ofList (arg.toList.rtakeWhile (· ≠ '.'))

/-! ### The arguments -/

/-- The index of `-c`, if only options come before it. -/
def getCOptionIndex (args : List String) : Option ℕ :=
  if "-c" ∈ args then
    let ind := args.idxOf "-c"
    if ((args.take ind).drop 1).all (startsWith · "-") then some ind else none
  else none

/-- The first argument that is no option, nor the value of one, is an archive; `continueNext` says
that a value is skipped. -/
def isPyZip : Bool → List String → Bool
  | _, [] => false
  | true, _ :: args => isPyZip false args
  | false, arg :: args =>
      if startsWith arg "-" then isPyZip (arg ∈ ["-m", "-W", "-X"]) args
      else extension arg ∈ ["zip", "pyz", "pyzw"]

/-- `_get_setup_updated_with_protocol`. -/
def getSetupUpdatedWithProtocol (setup : Setup) (protocol : Protocol) : Setup :=
  Setup.set (fun name =>
    if name ∈ ["json-dap-http", "json-dap", "protocol-quoted-line", "protocol-http"] then none
    else setup name) protocol.argument (.bool true)

/-- What the loop over the options of the interpreter has found. -/
structure Scan where
  /-- What is appended to `new_args`. -/
  options : List String
  /-- How often `--module` is inserted. -/
  modules : ℕ
  moduleName : Option String
  /-- From `args[i]` on. -/
  rest : List String
  deriving DecidableEq

/-- The loop, which ends at an argument that is no option. -/
def scan (options : List String) (modules : ℕ) (moduleName : Option String) :
    List String → Scan
  | [] => ⟨options, modules, moduleName, []⟩
  | arg :: args =>
      if arg = "-m" then scan options (modules + 1) moduleName args
      else if startsWith arg "-m" then
        scan options (modules + 1) (some (String.ofList (arg.toList.drop 2))) args
      else if startsWith arg "-" then scan (options ++ [arg]) modules moduleName args
      else ⟨options, modules, moduleName, arg :: args⟩

namespace Parent

/-- `_get_host_port`, or `none` for an exception. -/
def getHostPort (p : Parent) : Option (SetupArguments.Value × SetupArguments.Value) :=
  (p.setup "client").bind fun host => (p.setup "port").map fun port => (host, port)

/-- The settings that a child is to have. -/
def childSetup (p : Parent) : Setup := getSetupUpdatedWithProtocol p.setup p.protocol

/-- `_get_python_c_args`: what is done before the code of the user. -/
def getPythonCArgs (p : Parent) (host port : SetupArguments.Value) (code : String) : String :=
  let setup := p.childSetup
  "import sys; sys.path.insert(0, r'" ++ p.pydevSrcDir ++
    "'); import pydevd; pydevd.PydevdCustomization.DEFAULT_PROTOCOL=" ++
    p.repr (.str p.protocol.name) ++ "; pydevd.settrace(host=" ++ p.repr host ++ ", port=" ++
    port.text ++ ", suspend=False, trace_only_current_thread=False, patch_multiprocessing=True, " ++
    "access_token=" ++ p.repr ((setup "access-token").getD .none) ++ ", client_access_token=" ++
    p.repr ((setup "client-access-token").getD .none) ++
    "); from pydevd import SetupHolder; SetupHolder.setup = " ++ p.reprSetup setup ++ "; " ++ code

/-- `setup_to_argv(_get_setup_updated_with_protocol(SetupHolder.setup)) + ['--file']`, with
`--module` inserted. -/
def original (p : Parent) (modules : ℕ) : List String :=
  p.pydevdFile :: (List.replicate modules "--module" ++
    ((setupToArgv p.pydevdFile p.childSetup).tail ++ ["--file"]))

/-- Up to the first `--file`. -/
def inserted (p : Parent) (modules : ℕ) : List String :=
  (p.original modules).takeWhile (· ≠ "--file") ++ ["--file"]

/-- The second half of `patch_args`, `none` standing for an exception. -/
def patchOptions (p : Parent) (newArgs args : List String) : Option (List String) :=
  if args.tail = [] then none
  else
    let s := scan [] 0 none args.tail
    if s.rest.head?.any isManagedArg then some args
    else
      some (quoteArgs p.win32
        (newArgs ++ s.options ++ p.inserted s.modules ++ s.moduleName.toList ++ s.rest))

/-- `patch_args`, `none` standing for an exception. -/
def tryPatchArgs (p : Parent) : List String → Option (List String)
  | [] => some []
  | python :: args =>
      if isPython p.basename python then
        match getCOptionIndex (python :: args) with
        | some indC =>
            p.getHostPort.bind fun (host, port) =>
              if port ≠ .none then
                (python :: args)[indC + 1]?.map fun code => quoteArgs p.win32
                  ((python :: args).set (indC + 1) (p.getPythonCArgs host port code))
              else p.patchOptions [] (python :: args)
        | none =>
            if isPyZip false args then some (python :: args)
            else p.patchOptions [python] (python :: args)
      else some (python :: args)

/-- `patch_args`: where the patching raises an exception, the arguments stay as they are. -/
def patchArgs (p : Parent) (args : List String) : List String :=
  (p.tryPatchArgs (removeQuotesFromArgs p.win32 args)).getD (removeQuotesFromArgs p.win32 args)

/-- `patch_arg_str_win`: the command line is one string. -/
def patchArgStrWin (p : Parent) (argStr : String) : String :=
  let args := (WindowsArguments.strToArgsWindows argStr.toList).map String.ofList
  if args.head?.any (isPython p.basename) then " ".intercalate (p.patchArgs args) else argStr

end Parent

/-! ### The loop over the options -/

/-- The arguments that the loop goes through. -/
def dashes (args : List String) : List String := args.takeWhile (startsWith · "-")

/-- The name of the module in an argument. -/
def joinedName (moduleName : Option String) (arg : String) : Option String :=
  if arg ≠ "-m" ∧ startsWith arg "-m" then some (String.ofList (arg.toList.drop 2)) else moduleName

variable {p : Parent} {arg python code : String} {args front rest : List String} {ind : ℕ}

theorem startsWith_dash (h : startsWith arg "-m") : startsWith arg "-" := by
  rw [startsWith, List.isPrefixOf_iff_prefix] at h ⊢
  exact List.IsPrefix.trans ⟨['m'], rfl⟩ h

theorem scan_eq (options : List String) (modules : ℕ) (moduleName : Option String)
    (args : List String) : scan options modules moduleName args =
      ⟨options ++ (dashes args).filter (¬ startsWith · "-m"),
        modules + (dashes args).countP (startsWith · "-m"),
        (dashes args).foldl joinedName moduleName, args.dropWhile (startsWith · "-")⟩ := by
  induction args generalizing options modules moduleName with
  | nil => simp [scan, dashes]
  | cons arg args ih =>
      rw [scan]
      split_ifs with hm hjoined hdash
      · subst hm
        have hdash : startsWith "-m" "-" = true := by decide
        have hstart : startsWith "-m" "-m" = true := by decide
        simp [ih, dashes, hdash, hstart, joinedName]
        omega
      · simp [ih, dashes, startsWith_dash hjoined, hjoined, joinedName, hm]
        omega
      · simp [ih, dashes, hdash, hjoined, joinedName]
      · simp [dashes, hdash]

/-! ### Patching twice -/

theorem getCOptionIndex_append (rest : List String) (hfront : "-c" ∉ front) :
    getCOptionIndex (front ++ "-c" :: rest) =
      if front.tail.all (startsWith · "-") then some front.length else none := by
  have hmem : "-c" ∈ front ++ "-c" :: rest := by simp
  have hind : (front ++ "-c" :: rest).idxOf "-c" = front.length := by
    simp [List.idxOf_append_of_notMem hfront]
  simp only [getCOptionIndex, if_pos hmem, hind, List.take_left, List.drop_one]

/-- An argument that is no option ends the options. -/
theorem getCOptionIndex_eq_none (hfront : "-c" ∉ front) (hne : front ≠ [])
    (harg : ¬ startsWith arg "-") : getCOptionIndex (front ++ arg :: rest) = none := by
  by_cases hrest : "-c" ∈ rest
  · obtain ⟨before, after, rfl, hbefore⟩ := List.eq_append_cons_of_mem hrest
    have hc : arg ≠ "-c" := by
      rintro rfl
      exact harg (by decide)
    have hnot : "-c" ∉ front ++ arg :: before := by simp [hfront, hc.symm, hbefore]
    have hsplit : front ++ arg :: (before ++ "-c" :: after) =
        (front ++ arg :: before) ++ "-c" :: after := by simp
    rw [hsplit, getCOptionIndex_append _ hnot, if_neg]
    obtain ⟨first, front, rfl⟩ := List.exists_cons_of_ne_nil hne
    simp [harg]
  · have hc : "-c" ≠ arg := by
      rintro rfl
      exact harg (by decide)
    rw [getCOptionIndex, if_neg (by simp [hfront, hc, hrest])]

theorem getCOptionIndex_eq_some (h : getCOptionIndex args = some ind) :
    ∃ front rest, args = front ++ "-c" :: rest ∧ "-c" ∉ front ∧ front.length = ind ∧
      front.tail.all (startsWith · "-") := by
  by_cases hmem : "-c" ∈ args
  · obtain ⟨front, rest, rfl, hfront⟩ := List.eq_append_cons_of_mem hmem
    rw [getCOptionIndex_append _ hfront] at h
    split_ifs at h with hall
    exact ⟨front, rest, rfl, hfront, Option.some.inj h, hall⟩
  · rw [getCOptionIndex, if_neg hmem] at h
    cases h

/-- If `-c` is no option, it comes behind the program. -/
theorem notMem_dashes (h : getCOptionIndex (python :: args) = none) :
    "-c" ∉ python :: dashes args := fun hmem => by
  obtain ⟨before, after, hsplit, hbefore⟩ := List.eq_append_cons_of_mem hmem
  have hargs : python :: args = before ++ "-c" :: (after ++ args.dropWhile (startsWith · "-")) := by
    rw [← List.cons_append, ← List.append_assoc, ← hsplit, List.cons_append, dashes,
      List.takeWhile_append_dropWhile]
  have hall : before.tail.all (startsWith · "-") := by
    rw [List.all_eq_true]
    intro arg harg
    have hdashes : arg ∈ dashes args := by
      have htail := congrArg List.tail hsplit
      rcases before with - | ⟨_, before⟩
      · simp at harg
      · rw [List.tail_cons, List.cons_append, List.tail_cons] at htail
        rw [htail]
        exact List.mem_append_left _ harg
    exact List.mem_takeWhile_imp (p := (startsWith · "-")) hdashes
  rw [hargs, getCOptionIndex_append _ hbefore, if_pos hall] at h
  cases h

namespace Parent

/-- The code of a command line is patched. -/
def PatchesCode (p : Parent) (args : List String) : Prop :=
  args.head?.any (isPython p.basename) ∧ p.getHostPort.isSome ∧
    (getCOptionIndex args).any (· + 1 < args.length)

instance : Decidable (p.PatchesCode args) :=
  inferInstanceAs (Decidable (_ ∧ _ ∧ _))

theorem patchArgs_unix (hunix : p.win32 = false) (args : List String) :
    p.patchArgs args = (p.tryPatchArgs args).getD args := by
  rw [patchArgs, removeQuotesFromArgs, if_neg (by simp [hunix])]

theorem port_eq {host port : SetupArguments.Value} (h : p.getHostPort = some (host, port)) :
    port ≠ .none := by
  rintro rfl
  obtain ⟨_, _, h⟩ := Option.bind_eq_some_iff.mp h
  obtain ⟨_, hport, heq⟩ := Option.map_eq_some_iff.mp h
  cases heq
  exact p.port_ne_none hport

/-- Code behind `-c`. -/
theorem patchArgs_code (hunix : p.win32 = false)
    (hpython : (front ++ "-c" :: code :: rest).head?.any (isPython p.basename))
    {host port : SetupArguments.Value} (hport : p.getHostPort = some (host, port))
    (hfront : "-c" ∉ front) (hall : front.tail.all (startsWith · "-")) :
    p.patchArgs (front ++ "-c" :: code :: rest) =
      front ++ "-c" :: p.getPythonCArgs host port code :: rest := by
  have hindex : getCOptionIndex (front ++ "-c" :: code :: rest) = some front.length := by
    rw [getCOptionIndex_append _ hfront, if_pos hall]
  obtain ⟨python, args, hargs⟩ := List.exists_cons_of_ne_nil
    (show front ++ "-c" :: code :: rest ≠ [] by simp)
  rw [hargs, List.head?_cons, Option.any_some] at hpython
  rw [hargs] at hindex
  rw [patchArgs_unix hunix, hargs, tryPatchArgs, if_pos hpython, hindex, ← hargs]
  simp [hport, port_eq hport, quoteArgs, hunix]

/-- What the command line of a program becomes. -/
def patched (p : Parent) (args : List String) : List String :=
  (dashes args).filter (¬ startsWith · "-m") ++
    (p.inserted ((dashes args).countP (startsWith · "-m")) ++
      (((dashes args).foldl joinedName none).toList ++ args.dropWhile (startsWith · "-")))

/-- The command line is one to be patched; the program is neither an archive nor the debugger. -/
structure PatchesProgram (p : Parent) (python : String) (args : List String) : Prop where
  isPython : isPython p.basename python
  noCode : getCOptionIndex (python :: args) = none
  args_ne : args ≠ []
  noZip : isPyZip false args = false
  notManaged : ¬ (args.dropWhile (startsWith · "-")).head?.any isManagedArg

theorem patchArgs_program (hunix : p.win32 = false) (h : p.PatchesProgram python args) :
    p.patchArgs (python :: args) = python :: p.patched args := by
  rw [patchArgs_unix hunix, tryPatchArgs, if_pos h.isPython, h.noCode]
  simp only [h.noZip, Bool.false_eq_true, if_false, patchOptions, List.tail_cons, if_neg h.args_ne,
    scan_eq, if_neg h.notManaged, hunix, quoteArgs, Option.getD_some]
  simp [patched]

/-- The three things that can happen to a command line. -/
theorem patchArgs_cases (hunix : p.win32 = false) (args : List String) :
    p.patchArgs args = args ∧ ¬ p.PatchesCode args ∨
      (∃ front code rest host port, args = front ++ "-c" :: code :: rest ∧
        args.head?.any (isPython p.basename) ∧ p.getHostPort = some (host, port) ∧
        "-c" ∉ front ∧ front.tail.all (startsWith · "-")) ∨
      ∃ python args', args = python :: args' ∧ p.PatchesProgram python args' := by
  rcases args with - | ⟨python, args⟩
  · exact .inl ⟨by simp [patchArgs_unix hunix, tryPatchArgs], by simp [PatchesCode]⟩
  by_cases hpython : isPython p.basename python
  swap
  · exact .inl ⟨by simp [patchArgs_unix hunix, tryPatchArgs, hpython],
      by simp [PatchesCode, hpython]⟩
  cases hindex : getCOptionIndex (python :: args) with
  | none =>
      have hcode : ¬ p.PatchesCode (python :: args) := by simp [PatchesCode, hindex]
      by_cases h : p.PatchesProgram python args
      · exact .inr (.inr ⟨python, args, rfl, h⟩)
      · refine .inl ⟨?_, hcode⟩
        rw [patchArgs_unix hunix, tryPatchArgs, if_pos hpython, hindex]
        by_cases hargs : args = []
        · simp [hargs, isPyZip, patchOptions]
        by_cases hzip : isPyZip false args = false
        · by_cases hmanaged : (args.dropWhile (startsWith · "-")).head?.any isManagedArg
          · simp [hzip, patchOptions, hargs, scan_eq, hmanaged]
          · exact absurd ⟨hpython, hindex, hargs, hzip, hmanaged⟩ h
        · simp [hzip]
  | some ind =>
      obtain ⟨front, rest, hsplit, hfront, rfl, hall⟩ := getCOptionIndex_eq_some hindex
      rcases hport : p.getHostPort with - | ⟨host, port⟩
      · exact .inl ⟨by simp [patchArgs_unix hunix, tryPatchArgs, hpython, hindex, hport],
          by simp [PatchesCode, hport]⟩
      rcases rest with - | ⟨code, rest⟩
      · refine .inl ⟨?_, ?_⟩
        · rw [patchArgs_unix hunix, tryPatchArgs, if_pos hpython, hindex, hsplit]
          simp [hport, port_eq hport]
        · rw [PatchesCode, hindex, hsplit]
          simp
      · exact .inr (.inl ⟨front, code, rest, host, port, hsplit, by simp [hpython], rfl, hfront,
          hall⟩)

end Parent

/-- A process that is debugged with the settings of `settrace`. -/
def debuggee : Parent where
  win32 := false
  basename path := String.ofList (path.toList.rtakeWhile (· ≠ '/'))
  pydevdFile := "/opt/pydevd/pydevd.py"
  pydevdFile_managed := by decide
  pydevdFile_dash := by decide
  pydevSrcDir := "/opt/pydevd"
  setup := Setup.set (Setup.set (Setup.set (Setup.set (fun _ => none) "client"
    (.str "127.0.0.1")) "server" (.bool false)) "port" (.int 5678)) "multiprocess" (.bool true)
  port_ne_none := by decide
  protocol := .json
  repr v := v.text
  reprSetup _ := "{}"

end PatchArgs

end Ptvsd
