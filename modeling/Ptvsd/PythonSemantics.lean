import Mathlib.Data.Int.Notation
import Ptvsd.ByteStream
import Ptvsd.Program
import Ptvsd.PythonSyntax

/-!
# Running One Line of Python

The evaluation of the scripts of `Ptvsd.PythonSyntax`. What they import, and what the objects do
that they get from there, is up to a host; the values that the host hands out as objects have type
`ι`, and its own state has type `ω`.

Evaluation is limited in depth. The rules say what each kind of expression does, for expressions
that return; a script is run by applying them one after another.

## Main results

* `Evaluates.attr`, `Evaluates.call`, `Evaluates.apply`, `Evaluates.index`, `Evaluates.or`: **the
  rules for expressions** that return.
* `execAll_load`, `Evaluates.assign`, `Evaluates.expr`: the rules for statements.
-/

open ByteStream

namespace Python

/-- A value. -/
inductive Value (ι : Type) where
  | none
  | bool (b : Bool)
  | int (n : ℤ)
  | str (s : String)
  | bytes (bs : Bytes)
  | list (items : List (Value ι))
  | tuple (items : List (Value ι))
  /-- A lambda expression, with the local variables around it. -/
  | function (x : String) (body : Expr) (locals : List (String × Value ι))
  | object (o : ι)

/-- The exceptions of the language. -/
inductive Exception where
  | syntaxError
  | name
  | type
  | value
  | attribute
  | index
  | load
  | unicodeDecode
  | recursion
  deriving DecidableEq

variable {ι ω : Type}

/-- `bool(v)`. -/
def Value.truth : Value ι → Bool
  | .none => false
  | .bool b => b
  | .int n => n != 0
  | .str s => s != ""
  | .bytes bs => !bs.isEmpty
  | .list items => !items.isEmpty
  | .tuple items => !items.isEmpty
  | .function _ _ _ => true
  | .object _ => true

/-- The arguments of a call: the keyword of each, if it has one, and the value. -/
abbrev Arguments (ι : Type) := List (Option String × Value ι)

/-- What is outside of a script. -/
structure Host (ι ω : Type) where
  builtin : String → Option (Value ι)
  /-- `import x`. -/
  load : String → Program ω Exception (Value ι)
  getattr : Value ι → String → Program ω Exception (Value ι)
  call : ι → Arguments ι → Program ω Exception (Value ι)

/-- The global variables of a script, and the state of the host. -/
structure Memory (ι ω : Type) where
  globals : List (String × Value ι)
  world : ω

/-- What the host does, as a part of a script. -/
def liftHost {α : Type} (x : Program ω Exception α) : Program (Memory ι ω) Exception α :=
  ExceptT.mk fun σ => ((Program.exec x σ.world).1, { σ with world := (Program.exec x σ.world).2 })

/-- The item at an index; negative ones count from the end. -/
def itemAt (items : List (Value ι)) (i : ℤ) : Except Exception (Value ι) :=
  let i := if i < 0 then items.length + i else i
  match if i < 0 then none else items[i.toNat]? with
  | some v => .ok v
  | none => .error .index

/-- `v[i]`, of lists and tuples. -/
def getItem : Value ι → Value ι → Except Exception (Value ι)
  | .list items, .int i => itemAt items i
  | .tuple items, .int i => itemAt items i
  | _, _ => .error .type

/-- The value of a constant. -/
def Constant.toValue : Constant → Value ι
  | .none => .none
  | .true => .bool Bool.true
  | .false => .bool Bool.false

/-- Evaluates an expression, with the given local variables, to a depth of `limit`. -/
def eval (host : Host ι ω) :
    ℕ → List (String × Value ι) → Expr → Program (Memory ι ω) Exception (Value ι)
  | 0, _, _ => throw .recursion
  | limit + 1, locals, e =>
      match e with
      | .name x => do
          let σ ← get
          match locals.lookup x <|> (σ.globals.lookup x <|> host.builtin x) with
          | some v => pure v
          | none => throw .name
      | .const c => pure c.toValue
      | .int n => pure (.int n)
      | .list items => do
          let vs ← items.mapM fun e => eval host limit locals e
          pure (.list vs)
      | .attr e x => do
          let v ← eval host limit locals e
          liftHost (host.getattr v x)
      | .call f args => do
          let f ← eval host limit locals f
          let vs ← args.mapM fun a => do
            let v ← eval host limit locals a.2
            pure (a.1, v)
          match f, vs with
          | .function x body outer, [(keyword, v)] =>
              if keyword = none ∨ keyword = some x then
                eval host limit ((x, v) :: outer) body
              else throw .type
          | .object o, vs => liftHost (host.call o vs)
          | _, _ => throw .type
      | .index e i => do
          let v ← eval host limit locals e
          let i ← eval host limit locals i
          Program.ofOutcome (getItem v i)
      | .or a b => do
          let v ← eval host limit locals a
          if v.truth then pure v else eval host limit locals b
      | .lambda x body => pure (.function x body locals)

/-- `globals()[x] = v`. -/
def Memory.assign (x : String) (v : Value ι) (σ : Memory ι ω) : Memory ι ω :=
  { σ with globals := (x, v) :: σ.globals }

/-- Executes a statement. -/
def exec (host : Host ι ω) (limit : ℕ) : Stmt → Program (Memory ι ω) Exception PUnit
  | .load x => do
      let v ← liftHost (host.load x)
      modify (Memory.assign x v)
  | .assign x e => do
      let v ← eval host limit [] e
      modify (Memory.assign x v)
  | .expr e => do
      let _ ← eval host limit [] e
      pure ⟨⟩

/-- Executes one statement after another. -/
def execAll (host : Host ι ω) (limit : ℕ) : List Stmt → Program (Memory ι ω) Exception PUnit
  | [] => pure ⟨⟩
  | s :: ss => do
      exec host limit s
      execAll host limit ss

/-- `exec(code)`. -/
def execCode (host : Host ι ω) (limit : ℕ) (code : String) :
    Program (Memory ι ω) Exception PUnit :=
  match parse code with
  | some stmts => execAll host limit stmts
  | none => throw .syntaxError

/-- How the arguments of a call are bound to the parameters of a function: first the positional
ones, then those with a keyword, then the defaults. -/
def bindArguments (params : List (String × Option (Value ι))) (args : Arguments ι) :
    Except Exception (List (Value ι)) :=
  let positional := args.filterMap fun a => if a.1.isNone then some a.2 else none
  let keywords := args.filterMap fun a => a.1.map fun k => (k, a.2)
  if positional.length ≤ params.length ∧ (keywords.map Prod.fst).Nodup ∧
      ∀ a ∈ keywords, a.1 ∈ (params.drop positional.length).map Prod.fst then
    match (params.drop positional.length).mapM fun p => keywords.lookup p.1 <|> p.2 with
    | some rest => .ok (positional ++ rest)
    | none => .error .type
  else .error .type

/-! ### Rules -/

/-- An expression returns a value, and leaves a memory. -/
def Evaluates (host : Host ι ω) (limit : ℕ) (locals : List (String × Value ι)) (e : Expr)
    (σ : Memory ι ω) (v : Value ι) (σ' : Memory ι ω) : Prop :=
  Program.exec (eval host limit locals e) σ = (.ok v, σ')

/-- The arguments of a call return values. -/
def EvaluatesAll (host : Host ι ω) (limit : ℕ) (locals : List (String × Value ι))
    (args : List (Option String × Expr)) (σ : Memory ι ω) (vs : Arguments ι)
    (σ' : Memory ι ω) : Prop :=
  Program.exec (args.mapM fun a => do
    let v ← eval host limit locals a.2
    pure (a.1, v)) σ = (.ok vs, σ')

section Rules

open Program

variable {host : Host ι ω} {limit : ℕ} {locals outer : List (String × Value ι)}
  {e i a b f body : Expr} {args : List (Option String × Expr)} {keyword : Option String}
  {σ σ' σ'' σ₃ : Memory ι ω} {ω' : ω} {v v' w : Value ι} {vs : Arguments ι} {x : String} {o : ι}

theorem exec_liftHost {α : Type} {y : Program ω Exception α} {r : Except Exception α}
    (h : Program.exec y σ.world = (r, ω')) :
    Program.exec (liftHost y) σ = (r, { σ with world := ω' }) := by
  change ((Program.exec y σ.world).1, { σ with world := (Program.exec y σ.world).2 }) = _
  rw [h]

theorem evaluates_name
    (h : (locals.lookup x <|> (σ.globals.lookup x <|> host.builtin x)) = some v) :
    Evaluates host (limit + 1) locals (.name x) σ v σ := by
  refine (exec_bind_ok exec_get).trans ?_
  rw [h]
  rfl

theorem evaluates_const {c : Constant} :
    Evaluates host (limit + 1) locals (.const c) σ c.toValue σ := rfl

theorem evaluates_int {n : ℕ} : Evaluates host (limit + 1) locals (.int n) σ (.int n) σ := rfl

/-- A list of numbers. -/
theorem evaluates_ints (ns : List ℕ) :
    Evaluates host (limit + 2) locals (.list (ns.map .int)) σ
      (.list (ns.map fun n : ℕ => .int n)) σ := by
  have hitems : Program.exec ((ns.map Expr.int).mapM fun e => eval host (limit + 1) locals e) σ =
      (.ok (ns.map fun n : ℕ => .int n), σ) := by
    induction ns with
    | nil => rfl
    | cons n ns ih => exact exec_mapM_cons rfl ih
  exact exec_bind_ok hitems

theorem Evaluates.attr (h : Evaluates host limit locals e σ v σ')
    (hattr : Program.exec (host.getattr v x) σ'.world = (.ok w, ω')) :
    Evaluates host (limit + 1) locals (.attr e x) σ w { σ' with world := ω' } := by
  refine (exec_bind_ok h).trans ?_
  exact exec_liftHost hattr

theorem evaluatesAll_nil : EvaluatesAll host limit locals [] σ [] σ := rfl

theorem Evaluates.cons (h : Evaluates host limit locals e σ v σ')
    (hargs : EvaluatesAll host limit locals args σ' vs σ'') :
    EvaluatesAll host limit locals ((keyword, e) :: args) σ ((keyword, v) :: vs) σ'' :=
  exec_mapM_cons (exec_bind_ok h) hargs

/-- A call of a host's object. -/
theorem Evaluates.call (h : Evaluates host limit locals f σ (.object o) σ')
    (hargs : EvaluatesAll host limit locals args σ' vs σ'')
    (hcall : Program.exec (host.call o vs) σ''.world = (.ok w, ω')) :
    Evaluates host (limit + 1) locals (.call f args) σ w { σ'' with world := ω' } := by
  refine (exec_bind_ok h).trans ?_
  rw [exec_bind_ok hargs]
  exact exec_liftHost hcall

/-- A call of a lambda expression. -/
theorem Evaluates.apply (h : Evaluates host limit locals f σ (.function x body outer) σ')
    (harg : Evaluates host limit locals e σ' v σ'')
    (hbody : Evaluates host limit ((x, v) :: outer) body σ'' w σ₃) :
    Evaluates host (limit + 1) locals (.call f [(none, e)]) σ w σ₃ := by
  have hargs : EvaluatesAll host limit locals [(none, e)] σ' [(none, v)] σ'' :=
    harg.cons evaluatesAll_nil
  refine (exec_bind_ok h).trans ?_
  rw [exec_bind_ok hargs]
  exact hbody

theorem Evaluates.index (h : Evaluates host limit locals e σ v σ')
    (hi : Evaluates host limit locals i σ' v' σ'') (hitem : getItem v v' = .ok w) :
    Evaluates host (limit + 1) locals (.index e i) σ w σ'' := by
  refine (exec_bind_ok h).trans ?_
  rw [exec_bind_ok hi, hitem]
  rfl

/-- `a or b` is `a` if that is true, and `b` otherwise. -/
theorem Evaluates.or (ha : Evaluates host limit locals a σ v σ')
    (hb : Evaluates host limit locals b σ' w σ') :
    Evaluates host (limit + 1) locals (.or a b) σ (if v.truth then v else w) σ' := by
  refine (exec_bind_ok ha).trans ?_
  split_ifs
  · rfl
  · exact hb

theorem evaluates_lambda :
    Evaluates host (limit + 1) locals (.lambda x body) σ (.function x body locals) σ := rfl

/-! ### Statements -/

variable {ss : List Stmt} {r : Except Exception PUnit × Memory ι ω}

theorem execAll_load (h : Program.exec (host.load x) σ.world = (.ok v, ω'))
    (hrest : Program.exec (execAll host limit ss)
      (Memory.assign x v { σ with world := ω' }) = r) :
    Program.exec (execAll host limit (.load x :: ss)) σ = r := by
  have hstmt : Program.exec (exec host limit (.load x)) σ =
      (.ok ⟨⟩, Memory.assign x v { σ with world := ω' }) :=
    exec_bind_ok (exec_liftHost h)
  rw [execAll, exec_bind_ok hstmt, hrest]

theorem Evaluates.assign (h : Evaluates host limit [] e σ v σ')
    (hrest : Program.exec (execAll host limit ss) (Memory.assign x v σ') = r) :
    Program.exec (execAll host limit (.assign x e :: ss)) σ = r := by
  have hstmt : Program.exec (exec host limit (.assign x e)) σ =
      (.ok ⟨⟩, Memory.assign x v σ') := exec_bind_ok h
  rw [execAll, exec_bind_ok hstmt, hrest]

theorem Evaluates.expr (h : Evaluates host limit [] e σ v σ')
    (hrest : Program.exec (execAll host limit ss) σ' = r) :
    Program.exec (execAll host limit (.expr e :: ss)) σ = r := by
  have hstmt : Program.exec (exec host limit (.expr e)) σ = (.ok ⟨⟩, σ') := exec_bind_ok h
  rw [execAll, exec_bind_ok hstmt, hrest]

end Rules

end Python
