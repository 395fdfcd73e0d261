import Ptvsd.AttachPid

/-!
# The Injected Code

The code of `attach_to_pid` in the process that it is injected into. It runs in `__main__`, with the
`sys.path` and the modules of that process; a module is a file in a directory, unless it is one of
those that are always loaded.

## Main results

* `injects_iff`: **the code calls `attach` with the options of the command line**, if and only if
  these have an access token, neither the token nor the log directory is empty, and the strings that
  are passed can be encoded.
-/

open ByteStream Python Utf8

namespace Ptvsd

namespace AttachPid

/-! ### The debuggee -/

/-- The objects that the code can get. -/
inductive Object where
  /-- `sys` -/
  | sys
  /-- `sys.path` -/
  | path
  /-- `sys.path.insert` -/
  | insert
  /-- `sys.path.remove` -/
  | remove
  /-- `codecs` -/
  | codecs
  /-- `codecs.utf_8_decode` -/
  | utf8Decode
  /-- `bytearray` -/
  | bytearray
  /-- A module that has been imported from a directory. -/
  | file (dir name : String)
  /-- `attach_pid_injected.attach`, of the module in a directory. -/
  | attach (dir : String)

/-- A call of `attach`. -/
structure AttachCall where
  dir : String
  host : Python.Value Object
  port : Python.Value Object
  client : Python.Value Object
  logDir : Python.Value Object
  clientAccessToken : Python.Value Object

/-- The process that the code is injected into. -/
structure Debuggee where
  /-- `sys.path` -/
  path : List String
  /-- `sys.modules`, with the directory of each. -/
  modules : List (String × String)
  /-- A directory has a module. -/
  files : String → String → Bool
  calls : List AttachCall

/-- The attributes of the objects. -/
def attrOf : Object → String → Option Object
  | .sys, "path" => some .path
  | .path, "insert" => some .insert
  | .path, "remove" => some .remove
  | .codecs, "utf_8_decode" => some .utf8Decode
  | .file dir "attach_pid_injected", "attach" => some (.attach dir)
  | _, _ => none

/-- An item of the list that a `bytearray` is made of. -/
def byteOf : Python.Value Object → Except Exception UInt8
  | .int n => if 0 ≤ n ∧ n < 256 then .ok n.toNat.toUInt8 else .error .value
  | .bool b => .ok (if b then 1 else 0)
  | _ => .error .type

/-- `codecs.utf_8_decode(bs)`: the bytes of an unfinished character at the end are not consumed.
`none` stands for `UnicodeDecodeError`. -/
def utf8Decode (bs : Bytes) : Option (String × ℕ) :=
  match decodeUtf8 bs with
  | some s => some (s, bs.length)
  | none =>
      let n := bs.length - (Utf8.decode false bs).2.length
      (decodeUtf8 (bs.take n)).map fun s => (s, n)

/-- The parameters of `attach`. -/
def attachParams : List (String × Option (Python.Value Object)) :=
  [("host", none), ("port", none), ("client", none), ("log_dir", some .none),
    ("client_access_token", some .none)]

/-- The index at which `insert` inserts into a list of `length` items. -/
def insertIndex (length : ℕ) (i : ℤ) : ℕ :=
  if i < 0 then (length + i).toNat else min length i.toNat

/-- `import name`: of the modules that are loaded already, else from the first directory of
`sys.path` that has it. -/
def load (name : String) : Program Debuggee Exception (Python.Value Object) :=
  if name = "sys" then pure (.object .sys)
  else if name = "codecs" then pure (.object .codecs)
  else do
    let ω ← get
    match ω.modules.lookup name with
    | some dir => pure (.object (.file dir name))
    | none =>
        match ω.path.find? fun dir => ω.files dir name with
        | some dir =>
            set { ω with modules := (name, dir) :: ω.modules }
            pure (.object (.file dir name))
        | none => throw .load

/-- `getattr(v, name)`. -/
def getattr (v : Python.Value Object) (name : String) :
    Program Debuggee Exception (Python.Value Object) :=
  match v with
  | .object o =>
      match attrOf o name with
      | some o => pure (.object o)
      | none => throw .attribute
  | _ => throw .attribute

/-- The functions. -/
def call (o : Object) (args : Arguments Object) :
    Program Debuggee Exception (Python.Value Object) :=
  match o, args with
  | .insert, [(none, .int i), (none, .str s)] => do
      modify fun ω =>
        { ω with path := ω.path.insertIdx (insertIndex ω.path.length i) s }
      pure .none
  | .remove, [(none, .str s)] => do
      let ω ← get
      if s ∈ ω.path then
        set { ω with path := ω.path.erase s }
        pure .none
      else throw .value
  | .bytearray, [(none, .list items)] => do
      let bs ← Program.ofOutcome (items.mapM byteOf)
      pure (.bytes bs)
  | .utf8Decode, [(none, .bytes bs)] =>
      match utf8Decode bs with
      | some (s, n) => pure (.tuple [.str s, .int n])
      | none => throw .unicodeDecode
  | .attach dir, args =>
      match bindArguments attachParams args with
      | .ok [host, port, client, logDir, token] => do
          modify fun ω => { ω with calls := ω.calls ++ [⟨dir, host, port, client, logDir, token⟩] }
          pure .none
      | .ok _ => throw .type
      | .error e => throw e
  | _, _ => throw .type

/-- What is outside of the code. -/
def outside : Host Object Debuggee where
  builtin := fun name => if name = "bytearray" then some (.object .bytearray) else none
  load := load
  getattr := getattr
  call := call

theorem outside_call (o : Object) (args : Arguments Object) :
    outside.call o args = call o args := rfl

/-- The memory of `__main__` when the code is run: the directory has the module to import, and
`bytearray` is not redefined. -/
structure Ready (dirname : String) (σ : Memory Object Debuggee) : Prop where
  files : σ.world.files dirname "attach_pid_injected" = true
  bytearray : σ.globals.lookup "bytearray" = none

/-! ### The objects of the code -/

/-- What `decode` is. -/
def decodeFunction : Python.Value Object :=
  .function "s" (.index (.call (.attr (.name "codecs") "utf_8_decode")
    [(none, .call (.name "bytearray") [(none, .name "s")])]) (.int 0)) []

section Objects

open Program

variable {σ σ' : Memory Object Debuggee} {ω : Debuggee} {x y : String} {v : Python.Value Object}
  {limit : ℕ}

theorem mapM_byteOf (bs : Bytes) :
    (bs.map fun b => (.int b.toNat : Python.Value Object)).mapM byteOf = .ok bs := by
  induction bs with
  | nil => rfl
  | cons b bs ih =>
      have hb : byteOf (.int b.toNat) = .ok b := by
        have hlt := b.toNat_lt
        rw [byteOf, if_pos (by omega), Int.toNat_natCast]
        exact congrArg Except.ok (Utf8.toUInt8_eq rfl)
      rw [List.map_cons, List.mapM_cons, hb, ih]
      rfl

theorem exec_bytearray (bs : Bytes) :
    Program.exec (outside.call .bytearray [(none, .list (bs.map fun b => .int b.toNat))]) ω =
      (.ok (.bytes bs), ω) := by
  change Program.exec (ofOutcome _ >>= _) ω = _
  rw [mapM_byteOf]
  rfl

theorem exec_utf8Decode (s : String) :
    Program.exec (outside.call .utf8Decode [(none, .bytes (encodeUtf8 s))]) ω =
      (.ok (.tuple [.str s, .int (encodeUtf8 s).length]), ω) := by
  have hdecode : utf8Decode (encodeUtf8 s) = some (s, (encodeUtf8 s).length) := by
    rw [utf8Decode, decodeUtf8_encodeUtf8]
  rw [outside_call, call, hdecode]
  rfl

/-- An attribute of an object. -/
theorem exec_getattr {o o' : Object} (h : attrOf o x = some o') :
    Program.exec (outside.getattr (.object o) x) ω = (.ok (.object o'), ω) := by
  change Program.exec (getattr (.object o) x) ω = _
  rw [getattr, h]
  rfl

theorem lookup_assign : (σ.assign x v).globals.lookup x = some v := by
  rw [Memory.assign, List.lookup_cons_self]

theorem lookup_assign_of_ne (h : (y == x) = false) :
    (σ.assign x v).globals.lookup y = σ.globals.lookup y := by
  rw [Memory.assign, List.lookup_cons, h]

/-- A global variable. -/
theorem evaluates_global (h : σ.globals.lookup x = some v) :
    Evaluates outside (limit + 1) [] (.name x) σ v σ :=
  evaluates_name (by rw [List.lookup_nil, h]; rfl)

/-- The first statements of the code have been run. -/
structure Loaded (σ : Memory Object Debuggee) : Prop where
  sys : σ.globals.lookup "sys" = some (.object .sys)
  codecs : σ.globals.lookup "codecs" = some (.object .codecs)
  decode : σ.globals.lookup "decode" = some decodeFunction
  bytearray : σ.globals.lookup "bytearray" = none

/-- The code does not assign to these variables again. -/
theorem Loaded.assign (h : Loaded σ)
    (hx : ∀ y ∈ ["sys", "codecs", "decode", "bytearray"], (y == x) = false) :
    Loaded (σ.assign x v) where
  sys := (lookup_assign_of_ne (hx _ (by decide))).trans h.sys
  codecs := (lookup_assign_of_ne (hx _ (by decide))).trans h.codecs
  decode := (lookup_assign_of_ne (hx _ (by decide))).trans h.decode
  bytearray := (lookup_assign_of_ne (hx _ (by decide))).trans h.bytearray

/-- **`decode` undoes `encode`.** -/
theorem Loaded.decodeExpr (h : Loaded σ) (s : String) :
    Evaluates outside (limit + 6) [] (decodeExpr (bytesOf s)) σ (.str s) σ := by
  have hints : Evaluates outside (limit + 5) [] (.list ((bytesOf s).map .int)) σ
      (.list ((encodeUtf8 s).map fun b => .int b.toNat)) σ := by
    have hlist := @evaluates_ints _ _ outside (limit + 3) [] σ (bytesOf s)
    rw [bytesOf, List.map_map, List.map_map] at hlist
    rw [bytesOf, List.map_map]
    exact hlist
  -- the body of the function, where `s` is the list
  have hname : Evaluates outside (limit + 2)
      [("s", .list ((encodeUtf8 s).map fun b => .int b.toNat))]
      (.name "codecs") σ (.object .codecs) σ := evaluates_name (by rw [h.codecs]; rfl)
  have harray : Evaluates outside (limit + 2)
      [("s", .list ((encodeUtf8 s).map fun b => .int b.toNat))]
      (.name "bytearray") σ (.object .bytearray) σ := evaluates_name (by rw [h.bytearray]; rfl)
  have hfunction : Evaluates outside (limit + 3)
      [("s", .list ((encodeUtf8 s).map fun b => .int b.toNat))]
      (.attr (.name "codecs") "utf_8_decode") σ (.object .utf8Decode) σ :=
    hname.attr (exec_getattr (by simp [attrOf]))
  have hlist : Evaluates outside (limit + 2)
      [("s", .list ((encodeUtf8 s).map fun b => .int b.toNat))]
      (.name "s") σ (.list ((encodeUtf8 s).map fun b => .int b.toNat)) σ :=
    evaluates_name (by rw [List.lookup_cons_self]; rfl)
  have hbytes := harray.call (hlist.cons evaluatesAll_nil) (exec_bytearray (encodeUtf8 s))
  have hpair := hfunction.call (hbytes.cons evaluatesAll_nil) (exec_utf8Decode s)
  have hitem : getItem (.tuple [.str s, .int (encodeUtf8 s).length]) (.int (0 : ℕ)) =
      .ok (.str s : Python.Value Object) := rfl
  exact (evaluates_global h.decode).apply hints (hpair.index evaluates_int hitem)

end Objects

/-! ### The run of the code -/

section Run

open Program

variable {σ : Memory Object Debuggee} {ω : Debuggee} {x dirname : String} {v : Python.Value Object}
  {limit : ℕ}

/-- The directory that `attach_pid_injected` is imported from: it may be loaded already. -/
def importDir (dirname : String) (ω : Debuggee) : String :=
  (ω.modules.lookup "attach_pid_injected").getD dirname

/-- `s or None`. -/
def orNone (s : String) : Python.Value Object :=
  if (Python.Value.str s : Python.Value Object).truth then .str s else .none

theorem evaluates_sysPath (h : Loaded σ) :
    Evaluates outside (limit + 2) [] sysPath σ (.object .path) σ :=
  (evaluates_global h.sys).attr (exec_getattr (by simp [attrOf]))

/-- `sys.path.insert(0, script_path)`. -/
theorem evaluates_insert (h : Loaded σ)
    (hx : σ.globals.lookup "script_path" = some (.str dirname)) :
    Evaluates outside (limit + 4) []
      (.call (.attr sysPath "insert") [(none, .int 0), (none, .name "script_path")]) σ .none
      { σ with world := { σ.world with path := dirname :: σ.world.path } } := by
  have hinsert : Evaluates outside (limit + 3) [] (.attr sysPath "insert") σ (.object .insert) σ :=
    (evaluates_sysPath h).attr (exec_getattr (by simp [attrOf]))
  have hcall : Program.exec (outside.call .insert [(none, .int (0 : ℕ)), (none, .str dirname)])
      σ.world = (.ok .none, { σ.world with path := dirname :: σ.world.path }) := by
    have hindex : insertIndex σ.world.path.length (0 : ℕ) = 0 := by simp [insertIndex]
    rw [outside_call, call, exec_bind_ok exec_modify, hindex]
    rfl
  exact hinsert.call (evaluates_int.cons ((evaluates_global hx).cons evaluatesAll_nil)) hcall

/-- `sys.path.remove(script_path)`, after that. -/
theorem evaluates_remove {path : List String} (h : Loaded σ)
    (hx : σ.globals.lookup "script_path" = some (.str dirname))
    (hpath : σ.world.path = dirname :: path) :
    Evaluates outside (limit + 4) []
      (.call (.attr sysPath "remove") [(none, .name "script_path")]) σ .none
      { σ with world := { σ.world with path := path } } := by
  have hremove : Evaluates outside (limit + 3) [] (.attr sysPath "remove") σ (.object .remove) σ :=
    (evaluates_sysPath h).attr (exec_getattr (by simp [attrOf]))
  have hcall : Program.exec (outside.call .remove [(none, .str dirname)]) σ.world =
      (.ok .none, { σ.world with path := path }) := by
    rw [outside_call, call, exec_bind_ok exec_get, hpath, if_pos List.mem_cons_self,
      exec_bind_ok exec_set, List.erase_cons_head]
    rfl
  exact hremove.call ((evaluates_global hx).cons evaluatesAll_nil) hcall

/-- `import attach_pid_injected`, when the directory is the first one of `sys.path`. -/
theorem exec_load_injected {path : List String} (hpath : ω.path = dirname :: path)
    (hfiles : ω.files dirname "attach_pid_injected" = true) :
    ∃ modules, Program.exec (outside.load "attach_pid_injected") ω =
      (.ok (.object (.file (importDir dirname ω) "attach_pid_injected")),
        { ω with modules := modules }) := by
  change ∃ modules, Program.exec (load "attach_pid_injected") ω = _
  rw [load, if_neg (by decide), if_neg (by decide), exec_bind_ok exec_get, importDir]
  cases ω.modules.lookup "attach_pid_injected" with
  | some dir => exact ⟨ω.modules, rfl⟩
  | none =>
      have hfind : (ω.path.find? fun dir => ω.files dir "attach_pid_injected") = some dirname := by
        rw [hpath]
        exact List.find?_cons_of_pos (p := fun dir => ω.files dir "attach_pid_injected") hfiles
      rw [hfind]
      exact ⟨_, rfl⟩

/-- The expression `decode(…) or None`. -/
theorem Loaded.orNone (h : Loaded σ) (s : String) :
    Evaluates outside (limit + 7) [] (.or (AttachPid.decodeExpr (bytesOf s)) (.const .none)) σ
      (orNone s) σ :=
  (h.decodeExpr s).or evaluates_const

/-- The call of `attach`. -/
theorem evaluates_attach {dir host : String} {port : ℕ} {client : Bool}
    {logDir token : Python.Value Object}
    (hmodule : σ.globals.lookup "attach_pid_injected" =
      some (.object (.file dir "attach_pid_injected")))
    (hhost : σ.globals.lookup "host" = some (.str host))
    (hlogDir : σ.globals.lookup "log_dir" = some logDir)
    (htoken : σ.globals.lookup "client_access_token" = some token) :
    Evaluates outside (limit + 3) [] (attachExpr port client) σ .none
      { σ with world := { σ.world with calls := σ.world.calls ++
        [⟨dir, .str host, .int port, .bool client, logDir, token⟩] } } := by
  have hattach : Evaluates outside (limit + 2) [] (.attr (.name "attach_pid_injected") "attach") σ
      (.object (.attach dir)) σ :=
    (evaluates_global hmodule).attr (exec_getattr (by simp [attrOf]))
  have hclient : Evaluates outside (limit + 2) [] (.const (if client then .true else .false)) σ
      (.bool client) σ := by
    cases client <;> rfl
  have hbind : bindArguments attachParams
      [(some "port", .int port), (some "host", .str host), (some "client", .bool client),
        (some "log_dir", logDir), (some "client_access_token", token)] =
      .ok [.str host, .int port, .bool client, logDir, token] := rfl
  refine hattach.call (evaluates_int.cons ((evaluates_global hhost).cons (hclient.cons
    ((evaluates_global hlogDir).cons ((evaluates_global htoken).cons evaluatesAll_nil))))) ?_
  rw [outside_call, call, hbind]
  rfl

/-- **The script calls `attach`** with what it has decoded. -/
theorem exec_script (dirname host logDir token : String) (port : ℕ) (client : Bool)
    (hready : Ready dirname σ) :
    ∃ σ', Program.exec (execAll outside (limit + 10) (scriptOf (bytesOf dirname) (bytesOf host)
        (bytesOf logDir) (bytesOf token) port client)) σ = (.ok ⟨⟩, σ') ∧
      σ'.world.path = σ.world.path ∧
      σ'.world.calls = σ.world.calls ++ [⟨importDir dirname σ.world, .str host, .int port,
        .bool client, orNone logDir, orNone token⟩] := by
  -- `decode` is defined
  let σ₁ : Memory Object Debuggee := ((σ.assign "sys" (.object .sys)).assign "codecs"
    (.object .codecs)).assign "decode" decodeFunction
  have h₁ : Loaded σ₁ :=
    { sys := by
        rw [lookup_assign_of_ne (by decide), lookup_assign_of_ne (by decide), lookup_assign]
      codecs := by rw [lookup_assign_of_ne (by decide), lookup_assign]
      decode := lookup_assign
      bytearray := by
        rw [lookup_assign_of_ne (by decide), lookup_assign_of_ne (by decide),
          lookup_assign_of_ne (by decide), hready.bytearray] }
  -- the module is imported from the directory of the script
  let σ₂ : Memory Object Debuggee := σ₁.assign "script_path" (.str dirname)
  have h₂ : Loaded σ₂ := h₁.assign (by decide)
  let σ₃ : Memory Object Debuggee :=
    { σ₂ with world := { σ.world with path := dirname :: σ.world.path } }
  have h₃ : Loaded σ₃ := ⟨h₂.sys, h₂.codecs, h₂.decode, h₂.bytearray⟩
  obtain ⟨modules, hload⟩ := exec_load_injected (ω := σ₃.world) rfl hready.files
  let σ₄ : Memory Object Debuggee :=
    Memory.assign "attach_pid_injected"
      (.object (.file (importDir dirname σ.world) "attach_pid_injected"))
      { σ₃ with world := { σ₃.world with modules := modules } }
  have h₄ : Loaded σ₄ :=
    Loaded.assign (σ := { σ₃ with world := { σ₃.world with modules := modules } })
      ⟨h₃.sys, h₃.codecs, h₃.decode, h₃.bytearray⟩ (by decide)
  have hpath : σ₄.globals.lookup "script_path" = some (.str dirname) :=
    (lookup_assign_of_ne (by decide)).trans lookup_assign
  let σ₅ : Memory Object Debuggee :=
    { σ₄ with world := { σ₄.world with path := σ.world.path } }
  have h₅ : Loaded σ₅ := ⟨h₄.sys, h₄.codecs, h₄.decode, h₄.bytearray⟩
  -- the options are decoded
  have h₆ : Loaded (σ₅.assign "host" (.str host)) := h₅.assign (by decide)
  have h₇ : Loaded ((σ₅.assign "host" (.str host)).assign "log_dir" (orNone logDir)) :=
    h₆.assign (by decide)
  let σ₆ : Memory Object Debuggee :=
    ((σ₅.assign "host" (.str host)).assign "log_dir" (orNone logDir)).assign
      "client_access_token" (orNone token)
  have hattach := @evaluates_attach σ₆ (limit + 7) (importDir dirname σ.world) host port client
    (orNone logDir) (orNone token)
    (by
      rw [lookup_assign_of_ne (by decide), lookup_assign_of_ne (by decide),
        lookup_assign_of_ne (by decide)]
      exact lookup_assign)
    (by rw [lookup_assign_of_ne (by decide), lookup_assign_of_ne (by decide), lookup_assign])
    (by rw [lookup_assign_of_ne (by decide), lookup_assign])
    lookup_assign
  refine ⟨{ σ₆ with world := { σ₆.world with calls := σ₆.world.calls ++ [⟨importDir dirname σ.world,
    .str host, .int port, .bool client, orNone logDir, orNone token⟩] } }, ?_, rfl, rfl⟩
  refine execAll_load (v := .object .sys) rfl (execAll_load (v := .object .codecs) rfl ?_)
  refine Evaluates.assign evaluates_lambda ((h₁.decodeExpr dirname).assign ?_)
  refine (evaluates_insert h₂ lookup_assign).expr (execAll_load hload ?_)
  refine (evaluates_remove h₄ hpath rfl).expr ((h₅.decodeExpr host).assign ?_)
  refine (h₆.orNone logDir).assign ((h₇.orNone token).assign (hattach.expr ?_))
  rfl

end Run

/-! ### The options of the command line -/

/-- A value of the process is the string with these code points. -/
def IsText (v : Python.Value Object) (text : Text) : Prop :=
  ∃ s, codePoints s = text ∧ v = .str s

/-- A value is that of an option that may not be given. -/
def IsOptional (v : Python.Value Object) : Option Text → Prop
  | some text => IsText v text
  | none => v = .none

/-- A call is one of the `attach` that is imported with the help of `dirname`, with the options. -/
structure AttachCall.Passes (call : AttachCall) (dirname : Text)
    (options : CommandLine.OptionsOf Text) (ω : Debuggee) : Prop where
  dir : ∃ dir, codePoints dir = dirname ∧ call.dir = importDir dir ω
  host : IsText call.host options.host
  port : call.port = .int options.port
  client : call.client = .bool options.client
  logDir : IsOptional call.logDir (options.logDir.map replaceBackslashes)
  clientAccessToken : IsOptional call.clientAccessToken options.clientAccessToken

/-- `attach_to_pid` makes code without quotes and newlines, and the code, when it is run, calls
`attach` once, with the options. -/
def Injects (dirname : Text) (options : CommandLine.OptionsOf Text) (σ : Memory Object Debuggee) :
    Prop :=
  ∃ code, attachToPid dirname options = .ok code ∧ Allowed code ∧
    ∀ limit, ∃ σ' call, Program.exec (execCode outside (limit + 10) code) σ = (.ok ⟨⟩, σ') ∧
      σ'.world.calls = σ.world.calls ++ [call] ∧ call.Passes dirname options σ.world

section Injects

variable {dirname : Text} {options : CommandLine.OptionsOf Text} {σ : Memory Object Debuggee}
  {s : String}

theorem isText_str {text : Text} : IsText (.str s) text ↔ codePoints s = text := by
  constructor
  · rintro ⟨s', hs', hs⟩
    cases hs
    exact hs'
  · intro hs
    exact ⟨s, hs, rfl⟩

/-- `s or None` is the string, unless that is empty. -/
theorem isText_orNone : IsText (orNone s) (codePoints s) ↔ s ≠ "" := by
  by_cases hs : s = ""
  · subst hs
    refine iff_of_false ?_ fun h => h rfl
    rintro ⟨s', -, hs'⟩
    cases hs'
  · refine iff_of_true ?_ hs
    have htruth : (Python.Value.str s : Python.Value Object).truth = true := bne_iff_ne.2 hs
    rw [orNone, if_pos htruth]
    exact isText_str.2 rfl

theorem replaceBackslashes_eq_nil {text : Text} : replaceBackslashes text = [] ↔ text = [] :=
  List.map_eq_nil_iff

/-- A backslash and a slash are characters, so that it does not matter which it is. -/
theorem encodesStrictly_replaceBackslashes {text : Text} :
    EncodesStrictly (replaceBackslashes text) ↔ EncodesStrictly text := by
  have hvalid (c : ℕ) : (if c = '\\'.toNat then '/'.toNat else c).isValidChar ↔
      c.isValidChar := by
    split_ifs with hc
    · subst hc
      exact iff_of_true (by decide) (by decide)
    · exact Iff.rfl
  simp only [EncodesStrictly, replaceBackslashes, List.forall_mem_map, hvalid]

/-- The log directory arrives unless it is empty. -/
theorem isOptional_logDir {logDir : Option Text}
    (hs : codePoints s = replaceBackslashes (logDir.getD [])) :
    IsOptional (orNone s) (logDir.map replaceBackslashes) ↔ logDir ≠ some [] := by
  cases logDir with
  | none =>
      cases codePoints_eq_nil.1 hs
      exact iff_of_true rfl nofun
  | some text =>
      rw [Option.getD_some] at hs
      rw [Option.map_some, IsOptional, ← hs, isText_orNone, Ne, ← codePoints_eq_nil, hs,
        replaceBackslashes_eq_nil, Ne, Option.some.injEq]

/-- When the code can be made, what counts is what arrives. -/
theorem injects_of_ok {port : ℕ} {script host logDir token : String}
    (hport : options.port = port) (hscript : codePoints script = dirname)
    (hhost : codePoints host = options.host)
    (hlogDir : codePoints logDir = replaceBackslashes (options.logDir.getD []))
    (htoken : options.clientAccessToken = some (codePoints token)) (hready : Ready script σ) :
    Injects dirname options σ ↔ token ≠ "" ∧ options.logDir ≠ some [] := by
  have hcode := (attachToPid_eq_ok hport).2
    ⟨script, host, logDir, token, hscript, hhost, hlogDir, htoken, rfl⟩
  have hrun (limit : ℕ) : ∃ σ', Program.exec (execCode outside (limit + 10)
      (codeOf (bytesOf script) (bytesOf host) (bytesOf logDir) (bytesOf token) port
        options.client)) σ = (.ok ⟨⟩, σ') ∧
      σ'.world.path = σ.world.path ∧
      σ'.world.calls = σ.world.calls ++ [⟨importDir script σ.world, .str host, .int port,
        .bool options.client, orNone logDir, orNone token⟩] := by
    rw [execCode, parse_codeOf]
    exact exec_script _ _ _ _ _ _ hready
  rw [← isText_orNone, ← isOptional_logDir hlogDir]
  constructor
  · rintro ⟨code, hcode', -, hcalls⟩
    obtain rfl := Except.ok.inj (hcode.symm.trans hcode')
    obtain ⟨σ', call, hexec, hcalls, hpasses⟩ := hcalls 0
    obtain ⟨σ'', hexec', -, hcalls'⟩ := hrun 0
    obtain rfl : σ'' = σ' := (Prod.mk.inj (hexec'.symm.trans hexec)).2
    rw [hcalls', List.append_cancel_left_eq] at hcalls
    obtain rfl := (List.cons.inj hcalls).1
    have hpassed := hpasses.clientAccessToken
    rw [htoken] at hpassed
    exact ⟨hpassed, hpasses.logDir⟩
  · rintro ⟨htoken', hlogDir'⟩
    refine ⟨_, hcode, allowed_codeOf _ _ _ _ _ _, fun limit => ?_⟩
    obtain ⟨σ', hexec, -, hcalls⟩ := hrun limit
    refine ⟨σ', _, hexec, hcalls, ?_⟩
    exact { dir := ⟨script, hscript, rfl⟩
            host := isText_str.2 hhost
            port := by rw [hport]
            client := rfl
            logDir := hlogDir'
            clientAccessToken := by rw [htoken]; exact htoken' }

/-- **The injected code calls `attach` with the options of the command line**, if and only if these
have an access token, neither the token nor the log directory is empty, and the strings that are
passed can be encoded. -/
theorem injects_iff (dirname : Text) (logDir : Option Text) (args : List Text)
    (options : CommandLine.OptionsOf Text) (rest : List Text) (σ : Memory Object Debuggee)
    (hparse : CommandLine.parse args (defaults logDir) = .ok (options, rest))
    (hready : ∀ dir, codePoints dir = dirname → Ready dir σ) :
    Injects dirname options σ ↔
      EncodesStrictly dirname ∧ EncodesStrictly options.host ∧
        (∃ token, options.clientAccessToken = some token ∧ token ≠ [] ∧ EncodesStrictly token) ∧
        ∀ dir, options.logDir = some dir → dir ≠ [] ∧ EncodesStrictly dir := by
  obtain ⟨port, hport⟩ := Int.eq_ofNat_of_zero_le (CommandLine.port_of_parse hparse)
  constructor
  · intro hinjects
    have ⟨code, hcode, _⟩ := hinjects
    obtain ⟨script, host, log, token, hscript, hhost, hlog, htoken, -⟩ :=
      (attachToPid_eq_ok hport).1 hcode
    obtain ⟨htoken', hlogDir⟩ := (injects_of_ok hport hscript hhost hlog htoken
      (hready _ hscript)).1 hinjects
    refine ⟨encodesStrictly_iff.2 ⟨script, hscript⟩, encodesStrictly_iff.2 ⟨host, hhost⟩,
      ⟨_, htoken, mt codePoints_eq_nil.1 htoken', encodesStrictly_codePoints token⟩, ?_⟩
    intro dir hdir
    rw [hdir] at hlogDir hlog
    refine ⟨fun h => hlogDir (congrArg some h), ?_⟩
    exact encodesStrictly_replaceBackslashes.1 (encodesStrictly_iff.2 ⟨log, hlog⟩)
  · rintro ⟨hscript, hhost, ⟨token, htoken, hne, hencodable⟩, hlogDir⟩
    obtain ⟨script, hscript⟩ := encodesStrictly_iff.1 hscript
    obtain ⟨host, hhost⟩ := encodesStrictly_iff.1 hhost
    obtain ⟨token, rfl⟩ := encodesStrictly_iff.1 hencodable
    have hlog : EncodesStrictly (replaceBackslashes (options.logDir.getD [])) := by
      cases h : options.logDir with
      | none => exact nofun
      | some dir => exact encodesStrictly_replaceBackslashes.2 (hlogDir dir h).2
    obtain ⟨log, hlog⟩ := encodesStrictly_iff.1 hlog
    refine (injects_of_ok hport hscript hhost hlog htoken (hready _ hscript)).2
      ⟨mt codePoints_eq_nil.2 hne, ?_⟩
    intro h
    exact (hlogDir [] h).1 rfl

/-- A process that has imported nothing. -/
def freshProcess : Memory Object Debuggee where
  globals := []
  world := ⟨[], [], fun _ _ => true, []⟩

/-- `--client-access-token secret --host 127.0.0.1 --pid 42` -/
def tokenOptions : CommandLine.OptionsOf Text :=
  { defaults none with
    targetKind := some .pid
    target := some (.pid 42)
    clientAccessToken := some (codePoints "secret") }

theorem parse_tokenOptions :
    CommandLine.parse
        (["--client-access-token", "secret", "--host", "127.0.0.1", "--pid", "42"].map codePoints)
        (defaults none) = .ok (tokenOptions, []) := by
  decide +kernel

theorem injects_token : Injects (codePoints "/ptvsd/server") tokenOptions freshProcess :=
  (injects_iff (codePoints "/ptvsd/server") none _ tokenOptions [] freshProcess parse_tokenOptions
    fun _ _ => ⟨rfl, rfl⟩).2
    ⟨encodesStrictly_codePoints _, encodesStrictly_codePoints _,
      ⟨_, rfl, mt codePoints_eq_nil.1 (by decide), encodesStrictly_codePoints _⟩, nofun⟩

/-- `--host 127.0.0.1 --pid 42` -/
def pidOptions : CommandLine.OptionsOf Text :=
  { defaults none with
    targetKind := some .pid
    target := some (.pid 42) }

theorem not_injects_pid :
    CommandLine.parse (["--host", "127.0.0.1", "--pid", "42"].map codePoints) (defaults none) =
        .ok (pidOptions, []) ∧
      pidOptions.targetKind = some .pid ∧
      (∀ dir, codePoints dir = codePoints "/ptvsd/server" → Ready dir freshProcess) ∧
      ¬ Injects (codePoints "/ptvsd/server") pidOptions freshProcess := by
  refine ⟨by decide +kernel, rfl, fun _ _ => ⟨rfl, rfl⟩, ?_⟩
  rintro ⟨code, hcode, -⟩
  have hport : pidOptions.port = (5678 : ℕ) := rfl
  obtain ⟨_, _, _, token, -, -, -, htoken, -⟩ := (attachToPid_eq_ok hport).1 hcode
  cases htoken

end Injects

end AttachPid

end Ptvsd
