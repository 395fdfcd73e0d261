import Ptvsd.CommandLine
import Ptvsd.Packet
import Ptvsd.PythonSemantics
import Ptvsd.Utf8

/-!
# Attaching to a Process by Its PID

`attach_to_pid` of the command line: the code that is injected into the process. No string may be
quoted in it, so all of them are passed as lists of the bytes of their UTF-8, and decoded by the
code. The code is formatted here, and parsed; `Ptvsd.Injection` runs it.

The strings of the command line are lists of code points here: Python puts a lone surrogate into
them for a byte that it cannot decode, and such a string has no UTF-8.

## Main results

* `attachToPid_eq_ok`: `attach_to_pid` gets as far as the code exactly when there is an access
  token, and when all the strings can be encoded.
* `allowed_codeOf`: **there is no quote and no newline in the code.**
* `parse_codeOf`: **the code is parsed to the script.**
-/

open ByteStream Utf8

namespace Ptvsd

namespace AttachPid

/-! ### The code -/

/-- A piece of a format string. -/
inductive Piece where
  | text (s : String)
  | field (name : String)
  deriving DecidableEq

/-- The pieces of a format string; `field` is set within braces, and `word` has been read. The
braces of a text are doubled. -/
def formatPieces (field : Bool) (word : List Char) : List Char → Option (List Piece)
  | [] => if field then none else some [.text (String.ofList word)]
  | c :: cs =>
      if field then
        if c = '}' then
          (formatPieces false [] cs).map fun ps => .field (String.ofList word) :: ps
        else formatPieces true (word ++ [c]) cs
      else if c = '{' then
        match cs with
        | '{' :: cs => formatPieces false (word ++ ['{']) cs
        | cs => (formatPieces true [] cs).map fun ps => .text (String.ofList word) :: ps
      else if c = '}' then
        match cs with
        | '}' :: cs => formatPieces false (word ++ ['}']) cs
        | _ => none
      else formatPieces false (word ++ [c]) cs

/-- `text.format(**setup)`, for fields that are names; `none` stands for an exception. -/
def format (text : String) (setup : List (String × String)) : Option String := do
  let pieces ← formatPieces false [] text.toList
  let parts ← pieces.mapM fun
    | .text s => some s
    | .field name => setup.lookup name
  return parts.foldr (fun s t => s ++ t) ""

/-- The strings of Python on the command line; U+FFFD is in place of the code points that are no
characters. -/
instance : CommandLine.ArgText Text :=
  ⟨fun text => String.ofList (text.map fun c => (character c).getD '\uFFFD')⟩

/-- The options before the command line is parsed. -/
def defaults (logDir : Option Text) : CommandLine.OptionsOf Text :=
  .defaults (codePoints "127.0.0.1") logDir

/-- `s.replace("\\", "/")`. -/
def replaceBackslashes (text : Text) : Text :=
  text.map fun c => if c = '\\'.toNat then '/'.toNat else c

/-- `python_code`, line by line. -/
def pythonLines : List String :=
  ["",
    "import sys;",
    "import codecs;",
    "decode = lambda s: codecs.utf_8_decode(bytearray(s))[0];",
    "script_path = decode(\x7bscript\x7d);",
    "sys.path.insert(0, script_path);",
    "import attach_pid_injected;",
    "sys.path.remove(script_path);",
    "host = decode(\x7bhost\x7d);",
    "log_dir = decode(\x7blog_dir\x7d) or None;",
    "client_access_token = decode(\x7bclient_access_token\x7d) or None;",
    "attach_pid_injected.attach(",
    "    port=\x7bport\x7d,",
    "    host=host,",
    "    client=\x7bclient\x7d,",
    "    log_dir=log_dir,",
    "    client_access_token=client_access_token,",
    ")"]

/-- `python_code`. -/
def pythonCode : String := String.join (pythonLines.map fun line => line ++ "\n")

/-- `s.replace("\r", "").replace("\n", "")`. -/
def removeNewlines (s : String) : String :=
  String.ofList (s.toList.filter fun c => c != '\r' && c != '\n')

/-- The characters that the injected code should not contain. -/
def forbidden : List Char := ['"', '\'', '\r', '\n']

/-- The exceptions of `attach_to_pid`. -/
inductive Error where
  /-- `UnicodeEncodeError`. -/
  | unicodeEncode
  /-- `AttributeError`, of `None.encode`. -/
  | attribute
  /-- `KeyError` or `ValueError`, of `format`. -/
  | format
  /-- `AssertionError`. -/
  | assertion
  deriving DecidableEq

/-- The bytes of a string in UTF-8, as integers. -/
def bytesOf (s : String) : List ℕ := (encodeUtf8 s).map UInt8.toNat

/-- `encode(s)`. -/
def encode (text : Text) : Except Error (List ℕ) :=
  match characters text with
  | some s => .ok (bytesOf s)
  | none => .error .unicodeEncode

/-- `encode(options.client_access_token)`. -/
def encodeToken : Option Text → Except Error (List ℕ)
  | some token => encode token
  | none => .error .attribute

/-- The code is formatted, and does not contain the forbidden characters. -/
def checkCode : Option String → Except Error String
  | none => .error .format
  | some code => if code.toList.any (· ∈ forbidden) then .error .assertion else .ok code

/-- `setup`; `str.format` formats the values. -/
def setup (dirname : Text) (options : CommandLine.OptionsOf Text) :
    Except Error (List (String × String)) := do
  let script ← encode dirname
  let host ← encode options.host
  let logDir ← encode (replaceBackslashes (options.logDir.getD []))
  let clientAccessToken ← encodeToken options.clientAccessToken
  return [("script", Python.reprList script),
    ("host", Python.reprList host),
    ("port", toString options.port),
    ("client", if options.client then "True" else "False"),
    ("log_dir", Python.reprList logDir),
    ("client_access_token", Python.reprList clientAccessToken)]

/-- `attach_to_pid()`, up to the injection of the code, which it returns; the script is in
`dirname`. -/
def attachToPid (dirname : Text) (options : CommandLine.OptionsOf Text) :
    Except Error String := do
  let setup ← setup dirname options
  checkCode (format (removeNewlines pythonCode) setup)

/-! ### The text of the code -/

/-- The code in front of `{script}`. -/
def text₀ : String :=
  "import sys;import codecs;decode = lambda s: codecs.utf_8_decode(bytearray(s))[0];" ++
    "script_path = decode("

/-- The code between `{script}` and `{host}`. -/
def text₁ : String :=
  ");sys.path.insert(0, script_path);import attach_pid_injected;" ++
    "sys.path.remove(script_path);host = decode("

/-- The code between `{host}` and `{log_dir}`. -/
def text₂ : String := ");log_dir = decode("

/-- The code between `{log_dir}` and `{client_access_token}`. -/
def text₃ : String := ") or None;client_access_token = decode("

/-- The code between `{client_access_token}` and `{port}`. -/
def text₄ : String := ") or None;attach_pid_injected.attach(    port="

/-- The code between `{port}` and `{client}`. -/
def text₅ : String := ",    host=host,    client="

/-- The code behind `{client}`. -/
def text₆ : String := ",    log_dir=log_dir,    client_access_token=client_access_token,)"

/-- The characters of the code without its newlines. -/
theorem toList_pythonCode :
    (removeNewlines pythonCode).toList =
      pythonLines.flatMap fun line => line.toList.filter fun c => c != '\r' && c != '\n' := by
  rw [removeNewlines, String.toList_ofList, pythonCode, String.toList_join, List.flatMap_map,
    List.filter_flatMap]
  refine List.flatMap_congr fun line _ => ?_
  rw [String.toList_append, List.filter_append]
  exact List.append_nil _

theorem formatPieces_pythonCode :
    formatPieces false [] (removeNewlines pythonCode).toList =
      some [.text text₀, .field "script", .text text₁, .field "host", .text text₂,
        .field "log_dir", .text text₃, .field "client_access_token", .text text₄, .field "port",
        .text text₅, .field "client", .text text₆] := by
  rw [toList_pythonCode]
  decide +kernel

/-- The code, for the bytes of the strings in it. -/
def codeOf (script host logDir token : List ℕ) (port : ℤ) (client : Bool) : String :=
  text₀ ++ (Python.reprList script ++ (text₁ ++ (Python.reprList host ++ (text₂ ++
    (Python.reprList logDir ++ (text₃ ++ (Python.reprList token ++ (text₄ ++ (toString port ++
      (text₅ ++ ((if client then "True" else "False") ++ text₆)))))))))))

theorem format_pythonCode (script host logDir token : List ℕ) (port : ℤ) (client : Bool) :
    format (removeNewlines pythonCode)
        [("script", Python.reprList script), ("host", Python.reprList host),
          ("port", toString port), ("client", if client then "True" else "False"),
          ("log_dir", Python.reprList logDir), ("client_access_token", Python.reprList token)] =
      some (codeOf script host logDir token port client) := by
  rw [format, formatPieces_pythonCode, codeOf, ← @String.append_empty text₆]
  rfl

/-- Some text has none of the forbidden characters. -/
def Allowed (s : String) : Prop := ∀ c ∈ s.toList, c ∉ forbidden

theorem allowed_of_all {s : String} (h : (s.toList.all fun c => c ∉ forbidden) = true) :
    Allowed s :=
  fun c hc => of_decide_eq_true (List.all_eq_true.1 h c hc)

theorem Allowed.append {s t : String} (hs : Allowed s) (ht : Allowed t) : Allowed (s ++ t) := by
  intro c hc
  rw [String.toList_append, List.mem_append] at hc
  exact hc.elim (hs c) (ht c)

theorem not_forbidden_of_isDigit {c : Char} (h : c.isDigit = true) : c ∉ forbidden := by
  have hall : (forbidden.all fun c => !c.isDigit) = true := by decide
  intro hc
  have hnot := List.all_eq_true.1 hall c hc
  rw [h] at hnot
  cases hnot

theorem allowed_reprList (bs : List ℕ) : Allowed (Python.reprList bs) := by
  intro c hc
  rcases Python.mem_reprList hc with h | h
  · exact not_forbidden_of_isDigit h
  · have hall : (['[', ']', ',', ' '].all fun c => c ∉ forbidden) = true := by decide
    exact of_decide_eq_true (List.all_eq_true.1 hall c h)

/-- **There is no quote and no newline in the code.** -/
theorem allowed_codeOf (script host logDir token : List ℕ) (port : ℕ) (client : Bool) :
    Allowed (codeOf script host logDir token port client) := by
  have hport : Allowed (toString (port : ℤ)) := fun c hc =>
    not_forbidden_of_isDigit (Python.isDigit_of_mem hc)
  have hclient : Allowed (if client then "True" else "False") := by
    cases client <;> exact allowed_of_all (by decide)
  have h₀ : Allowed text₀ := allowed_of_all (by decide +kernel)
  have h₁ : Allowed text₁ := allowed_of_all (by decide +kernel)
  have h₂ : Allowed text₂ := allowed_of_all (by decide +kernel)
  have h₃ : Allowed text₃ := allowed_of_all (by decide +kernel)
  have h₄ : Allowed text₄ := allowed_of_all (by decide +kernel)
  have h₅ : Allowed text₅ := allowed_of_all (by decide +kernel)
  have h₆ : Allowed text₆ := allowed_of_all (by decide +kernel)
  exact h₀.append ((allowed_reprList script).append (h₁.append ((allowed_reprList host).append
    (h₂.append ((allowed_reprList logDir).append (h₃.append ((allowed_reprList token).append
      (h₄.append (hport.append (h₅.append (hclient.append h₆)))))))))))

/-! ### The script -/

section Script

open Python

variable {stmts : List Stmt} {frames : List Frame} {rest : List Char}

/-- The call of `decode` for some bytes. -/
def decodeExpr (bs : List ℕ) : Expr := .call (.name "decode") [(none, .list (bs.map .int))]

/-- `sys.path` -/
def sysPath : Expr := .attr (.name "sys") "path"

/-- The call of `attach`. -/
def attachExpr (port : ℕ) (client : Bool) : Expr :=
  .call (.attr (.name "attach_pid_injected") "attach")
    [(some "port", .int port), (some "host", .name "host"),
      (some "client", .const (if client then .true else .false)),
      (some "log_dir", .name "log_dir"),
      (some "client_access_token", .name "client_access_token")]

/-- The script that the code is parsed to. -/
def scriptOf (script host logDir token : List ℕ) (port : ℕ) (client : Bool) : List Stmt :=
  [.load "sys",
    .load "codecs",
    .assign "decode" (.lambda "s" (.index
      (.call (.attr (.name "codecs") "utf_8_decode")
        [(none, .call (.name "bytearray") [(none, .name "s")])]) (.int 0))),
    .assign "script_path" (decodeExpr script),
    .expr (.call (.attr sysPath "insert") [(none, .int 0), (none, .name "script_path")]),
    .load "attach_pid_injected",
    .expr (.call (.attr sysPath "remove") [(none, .name "script_path")]),
    .assign "host" (decodeExpr host),
    .assign "log_dir" (.or (decodeExpr logDir) (.const .none)),
    .assign "client_access_token" (.or (decodeExpr token) (.const .none)),
    .expr (attachExpr port client)]

/-- Where the parser is in the call of `decode` whose value is assigned to `x`. -/
def decodeFrames (x : String) : List Frame := [.argument (.name "decode") [] none, .assign x]

/-- Where the parser is in the call of `attach`. -/
def attachFrame (args : List (Option String × Expr)) (keyword : String) : List Frame :=
  [.argument (.attr (.name "attach_pid_injected") "attach") args (some keyword)]

theorem run_text₀ (script host logDir token : List ℕ) (port : ℕ) (client : Bool) :
    run ⟨.operand, [], []⟩ (lex [] text₀.toList) =
      some ⟨.operand, decodeFrames "script_path",
        (scriptOf script host logDir token port client).take 3⟩ := by
  rfl

theorem run_text₁ (script host logDir token : List ℕ) (port : ℕ) (client : Bool) :
    run ⟨.value (.list (script.map .int)), decodeFrames "script_path",
        (scriptOf script host logDir token port client).take 3⟩ (lex [] text₁.toList) =
      some ⟨.operand, decodeFrames "host",
        (scriptOf script host logDir token port client).take 7⟩ := by
  rfl

theorem run_text₂ (script host logDir token : List ℕ) (port : ℕ) (client : Bool) :
    run ⟨.value (.list (host.map .int)), decodeFrames "host",
        (scriptOf script host logDir token port client).take 7⟩ (lex [] text₂.toList) =
      some ⟨.operand, decodeFrames "log_dir",
        (scriptOf script host logDir token port client).take 8⟩ := by
  rfl

theorem run_text₃ (script host logDir token : List ℕ) (port : ℕ) (client : Bool) :
    run ⟨.value (.list (logDir.map .int)), decodeFrames "log_dir",
        (scriptOf script host logDir token port client).take 8⟩ (lex [] text₃.toList) =
      some ⟨.operand, decodeFrames "client_access_token",
        (scriptOf script host logDir token port client).take 9⟩ := by
  rfl

theorem run_text₄ (script host logDir token : List ℕ) (port : ℕ) (client : Bool) :
    run ⟨.value (.list (token.map .int)), decodeFrames "client_access_token",
        (scriptOf script host logDir token port client).take 9⟩ (lex [] text₄.toList) =
      some ⟨.operand, attachFrame [] "port",
        (scriptOf script host logDir token port client).take 10⟩ := by
  rfl

theorem run_text₅ (n : ℕ) :
    run ⟨.value (.int n), attachFrame [] "port", stmts⟩ (lex [] text₅.toList) =
      some ⟨.operand, attachFrame [(some "port", .int n), (some "host", .name "host")] "client",
        stmts⟩ := by
  rfl

theorem run_text₆ (n : ℕ) (client : Bool) :
    run ⟨.operand, attachFrame [(some "port", .int n), (some "host", .name "host")] "client",
        stmts⟩ (lex [] ((if client then "True" else "False").toList ++ text₆.toList)) =
      some ⟨.value (attachExpr n client), [], stmts⟩ := by
  cases client <;> rfl

/-- A list of bytes behind a part of the code. -/
theorem run_bytes {s : ParseState} {text : String} (bs : List ℕ)
    (hrun : run s (lex [] text.toList) = some ⟨.operand, frames, stmts⟩)
    (hlast : text.toList.getLast? = some '(') :
    run s (lex [] (text.toList ++ ((reprList bs).toList ++ rest))) =
      run ⟨.value (.list (bs.map .int)), frames, stmts⟩ (lex [] rest) := by
  rw [lex_append_of_getLast hlast rfl, run_append, hrun, lex_reprList]
  exact run_reprList bs

/-- **The code is parsed to the script.** -/
theorem parse_codeOf (script host logDir token : List ℕ) (port : ℕ) (client : Bool) :
    parse (codeOf script host logDir token port client) =
      some (scriptOf script host logDir token port client) := by
  have hrun : run ⟨.operand, [], []⟩ (lex [] (codeOf script host logDir token port client).toList) =
      some ⟨.value (attachExpr port client), [],
        (scriptOf script host logDir token port client).take 10⟩ := by
    simp only [codeOf, String.toList_append]
    rw [run_bytes script (run_text₀ script host logDir token port client) (by rfl),
      run_bytes host (run_text₁ script host logDir token port client) (by rfl),
      run_bytes logDir (run_text₂ script host logDir token port client) (by rfl),
      run_bytes token (run_text₃ script host logDir token port client) (by rfl),
      lex_append_of_getLast (c := '=') (by rfl) (by rfl), run_append,
      run_text₄ script host logDir token port client]
    have hport : lex [] ((toString (port : ℤ)).toList ++ (text₅.toList ++
        ((if client then "True" else "False").toList ++ text₆.toList))) =
          .word (toString port) :: (lex [] text₅.toList ++
            lex [] ((if client then "True" else "False").toList ++ text₆.toList)) := by
      rw [← lex_append_of_getLast (c := '=') (by rfl) (by rfl)]
      exact lex_toString (c := ',') (by rfl) (by rfl)
    rw [hport, Option.bind_some, run_toString, run_append, run_text₅]
    exact run_text₆ port client
  have hhead : (codeOf script host logDir token port client).toList.head? ≠ some ' ' := by
    rw [codeOf, String.toList_append, List.head?_append]
    have htext : text₀.toList.head? = some 'i' := by rfl
    rw [htext]
    exact nofun
  rw [parse, if_neg hhead, hrun]
  rfl

end Script

/-! ### The function -/

section AttachToPid

variable {dirname text : Text} {options : CommandLine.OptionsOf Text}

theorem bind_eq_ok {α β ε : Type} {x : Except ε α} {f : α → Except ε β} {b : β} :
    (x >>= f) = .ok b ↔ ∃ a, x = .ok a ∧ f a = .ok b := by
  cases x with
  | error e => exact iff_of_false nofun nofun
  | ok a =>
      constructor
      · intro h
        exact ⟨a, rfl, h⟩
      · rintro ⟨a', ha, h⟩
        cases ha
        exact h

/-- A string can be encoded when all of its code points are characters. -/
theorem encode_eq_ok {bs : List ℕ} :
    encode text = .ok bs ↔ ∃ s, codePoints s = text ∧ bytesOf s = bs := by
  rw [encode]
  cases h : characters text with
  | none =>
      refine iff_of_false nofun ?_
      rintro ⟨s, hs, -⟩
      rw [characters_eq_some.2 hs] at h
      cases h
  | some s =>
      rw [Except.ok.injEq]
      constructor
      · intro hbs
        exact ⟨s, characters_eq_some.1 h, hbs⟩
      · rintro ⟨s', hs', hbs⟩
        cases (characters_eq_some.2 hs').symm.trans h
        exact hbs

theorem encodeToken_eq_ok {token : Option Text} {bs : List ℕ} :
    encodeToken token = .ok bs ↔ ∃ s, token = some (codePoints s) ∧ bytesOf s = bs := by
  cases token with
  | none =>
      refine iff_of_false nofun ?_
      rintro ⟨s, h, -⟩
      cases h
  | some token =>
      rw [encodeToken, encode_eq_ok]
      simp only [Option.some.injEq, eq_comm]

/-- **The code is formatted, and it is allowed**, when there is an access token and the strings can
be encoded. -/
theorem attachToPid_eq_ok {port : ℕ} {code : String} (hport : options.port = port) :
    attachToPid dirname options = .ok code ↔
      ∃ script host logDir token, codePoints script = dirname ∧ codePoints host = options.host ∧
        codePoints logDir = replaceBackslashes (options.logDir.getD []) ∧
        options.clientAccessToken = some (codePoints token) ∧
        codeOf (bytesOf script) (bytesOf host) (bytesOf logDir) (bytesOf token) port
          options.client = code := by
  have hcheck (script host logDir token : List ℕ) :
      checkCode (format (removeNewlines pythonCode)
        [("script", Python.reprList script), ("host", Python.reprList host),
          ("port", toString (port : ℤ)), ("client", if options.client then "True" else "False"),
          ("log_dir", Python.reprList logDir), ("client_access_token", Python.reprList token)]) =
        .ok (codeOf script host logDir token port options.client) := by
    rw [format_pythonCode, checkCode, if_neg]
    intro hany
    obtain ⟨c, hc, hforbidden⟩ := List.any_eq_true.1 hany
    exact allowed_codeOf _ _ _ _ _ _ c hc (of_decide_eq_true hforbidden)
  constructor
  · intro h
    obtain ⟨fields, hsetup, h⟩ := bind_eq_ok.1 h
    obtain ⟨_, hscript, hsetup⟩ := bind_eq_ok.1 hsetup
    obtain ⟨_, hhost, hsetup⟩ := bind_eq_ok.1 hsetup
    obtain ⟨_, hlogDir, hsetup⟩ := bind_eq_ok.1 hsetup
    obtain ⟨_, htoken, hsetup⟩ := bind_eq_ok.1 hsetup
    obtain ⟨script, hscript', rfl⟩ := encode_eq_ok.1 hscript
    obtain ⟨host, hhost', rfl⟩ := encode_eq_ok.1 hhost
    obtain ⟨logDir, hlogDir', rfl⟩ := encode_eq_ok.1 hlogDir
    obtain ⟨token, htoken', rfl⟩ := encodeToken_eq_ok.1 htoken
    cases hsetup
    rw [hport, hcheck] at h
    exact ⟨script, host, logDir, token, hscript', hhost', hlogDir', htoken', Except.ok.inj h⟩
  · rintro ⟨script, host, logDir, token, hscript, hhost, hlogDir, htoken, rfl⟩
    refine bind_eq_ok.2 ⟨_, ?_, hcheck (bytesOf script) (bytesOf host) (bytesOf logDir)
      (bytesOf token)⟩
    rw [setup, encode_eq_ok.2 ⟨script, hscript, rfl⟩, encode_eq_ok.2 ⟨host, hhost, rfl⟩,
      encode_eq_ok.2 ⟨logDir, hlogDir, rfl⟩, encodeToken_eq_ok.2 ⟨token, htoken, rfl⟩, hport]
    rfl

end AttachToPid

end AttachPid

end Ptvsd
