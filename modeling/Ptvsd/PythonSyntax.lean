import Mathlib.Data.List.Basic

/-!
# One Line of Python

The syntax of the scripts that fit on one line without a string in them: imports, assignments and
calls, separated by semicolons. The parser shifts one token after another onto a stack of unfinished
expressions; a string outside of this fragment is not parsed, whether or not it is Python.

## Main results

* `lex_append`, `run_append`: the tokens behind a delimiter, and the steps behind the first ones,
  do not depend on what comes before, but for the state of the parser.
* `run_items`: the items of a list of integers are parsed as these integers.
-/

namespace Python

/-! ### Tokens -/

/-- A name, a keyword or a number; or any other character. -/
inductive Token where
  | word (s : String)
  | op (c : Char)
  deriving DecidableEq

/-- A character of a word. -/
def isWordChar (c : Char) : Bool := c.isAlphanum || c == '_'

/-- The word that has been read. -/
def wordToken (word : List Char) : List Token :=
  if word = [] then [] else [.word (String.ofList word)]

/-- The token of a character that is not part of a word. -/
def opToken (c : Char) : List Token := if c = ' ' then [] else [.op c]

/-- The tokens of a line, when the characters of `word` are in front of it. -/
def lex (word : List Char) : List Char → List Token
  | [] => wordToken word
  | c :: cs =>
      if isWordChar c then lex (word ++ [c]) cs else wordToken word ++ (opToken c ++ lex [] cs)

section Lex

variable {word cs rest : List Char} {c : Char}

/-- What follows a delimiter is read on its own. -/
theorem lex_append (hc : isWordChar c = false) :
    lex word (cs ++ c :: rest) = lex word (cs ++ [c]) ++ lex [] rest := by
  induction cs generalizing word with
  | nil =>
      rw [List.nil_append, List.nil_append, lex, lex, if_neg (by simp [hc]), if_neg (by simp [hc])]
      simp [lex, wordToken]
  | cons d cs ih =>
      rw [List.cons_append, List.cons_append, lex, lex]
      split_ifs
      · exact ih
      · rw [ih, List.append_assoc, List.append_assoc]

theorem lex_append_of_getLast (hlast : cs.getLast? = some c) (hc : isWordChar c = false) :
    lex word (cs ++ rest) = lex word cs ++ lex [] rest := by
  obtain ⟨cs, rfl⟩ := List.getLast?_eq_some_iff.1 hlast
  rw [List.append_assoc, List.singleton_append]
  exact lex_append hc

/-- A word ends at a delimiter. -/
theorem lex_word (hword : ∀ d ∈ cs, isWordChar d = true) (hne : word ++ cs ≠ [])
    (hhead : rest.head? = some c) (hc : isWordChar c = false) :
    lex word (cs ++ rest) = .word (String.ofList (word ++ cs)) :: lex [] rest := by
  induction cs generalizing word with
  | nil =>
      obtain ⟨rest, rfl⟩ := List.head?_eq_some_iff.1 hhead
      rw [List.append_nil] at hne ⊢
      rw [List.nil_append, lex, lex, if_neg (by simp [hc]), if_neg (by simp [hc]), wordToken,
        if_neg hne]
      rfl
  | cons d cs ih =>
      rw [List.cons_append, lex, if_pos (hword d List.mem_cons_self),
        ih (fun d hd => hword d (List.mem_cons_of_mem _ hd)) (by simp),
        List.append_assoc, List.singleton_append]

end Lex

/-! ### Expressions -/

/-- `None`, `True` and `False`. -/
inductive Constant where
  | none
  | true
  | false

/-- An expression; a call has positional arguments and keyword arguments. -/
inductive Expr where
  | name (x : String)
  | const (c : Constant)
  | int (n : ℕ)
  | list (items : List Expr)
  | attr (e : Expr) (x : String)
  | call (f : Expr) (args : List (Option String × Expr))
  | index (e i : Expr)
  | or (a b : Expr)
  | lambda (x : String) (body : Expr)

/-- A statement. -/
inductive Stmt where
  | load (x : String)
  | assign (x : String) (e : Expr)
  | expr (e : Expr)

/-- The keywords of the language. -/
def keywords : List String :=
  ["False", "None", "True", "and", "as", "assert", "async", "await", "break", "class", "continue",
    "def", "del", "elif", "else", "except", "finally", "for", "from", "global", "if", "import",
    "in", "is", "lambda", "nonlocal", "not", "or", "pass", "raise", "return", "try", "while",
    "with", "yield"]

/-- A decimal number, without leading zeros. -/
def numeral (cs : List Char) : Option ℕ :=
  if Nat.toDigits 10 (Nat.ofDigitChars 10 cs 0) = cs then some (Nat.ofDigitChars 10 cs 0) else none

/-- What a word stands for. -/
def atom (w : String) : Option Expr :=
  if w = "None" then some (.const .none)
  else if w = "True" then some (.const .true)
  else if w = "False" then some (.const .false)
  else if w ∈ keywords then none
  else if w.toList.head?.any Char.isDigit then (numeral w.toList).map .int
  else some (.name w)

/-! ### The parser -/

/-- An unfinished expression or statement, with a gap where the parser is. -/
inductive Frame where
  /-- `x = …` -/
  | assign (x : String)
  /-- `f(args, …` or `f(args, keyword=…` -/
  | argument (f : Expr) (args : List (Option String × Expr)) (keyword : Option String)
  /-- `[items, …` -/
  | item (items : List Expr)
  /-- `e[…` -/
  | index (e : Expr)
  /-- `lambda x: …` -/
  | lambda (x : String)
  /-- `a or …` -/
  | or (a : Expr)

/-- What the parser has just read. -/
inductive Mode where
  /-- An expression follows, or the end of a list of them. -/
  | operand
  /-- An expression, which may go on. -/
  | value (e : Expr)
  /-- `e.` -/
  | attribute (e : Expr)
  /-- `lambda` -/
  | lambda
  /-- `lambda x` -/
  | parameter (x : String)
  /-- `import` -/
  | load
  /-- `import x` -/
  | loaded (x : String)

/-- The stack of the parser, and the statements that it has finished. -/
structure ParseState where
  mode : Mode
  frames : List Frame
  stmts : List Stmt

/-- Finishes the operators around an expression that does not go on. -/
def close : List Frame → Expr → List Frame × Expr
  | .or a :: frames, e => close frames (.or a e)
  | .lambda x :: frames, e => close frames (.lambda x e)
  | frames, e => (frames, e)

/-- A call with these arguments may have this one behind them: no positional one follows a keyword,
and no keyword is repeated. -/
def admits (args : List (Option String × Expr)) : Option String → Bool
  | none => args.all fun a => a.1 == none
  | some x => args.all fun a => a.1 != some x

/-- A step where an expression is expected. -/
def stepOperand (frames : List Frame) (stmts : List Stmt) : Token → Option ParseState
  | .word w =>
      if w = "lambda" then
        match frames with
        | .or _ :: _ => none
        | frames => some ⟨.lambda, frames, stmts⟩
      else if w = "import" then
        match frames with
        | [] => some ⟨.load, [], stmts⟩
        | _ => none
      else (atom w).map fun e => ⟨.value e, frames, stmts⟩
  | .op '[' => some ⟨.operand, .item [] :: frames, stmts⟩
  | .op ']' =>
      match frames with
      | .item items :: frames => some ⟨.value (.list items), frames, stmts⟩
      | _ => none
  | .op ')' =>
      match frames with
      | .argument f args none :: frames => some ⟨.value (.call f args), frames, stmts⟩
      | _ => none
  | .op _ => none

/-- A step behind an expression. -/
def stepValue (e : Expr) (frames : List Frame) (stmts : List Stmt) : Token → Option ParseState
  | .word w =>
      if w = "or" then
        match frames with
        | .or a :: frames => some ⟨.operand, .or (.or a e) :: frames, stmts⟩
        | frames => some ⟨.operand, .or e :: frames, stmts⟩
      else none
  | .op '.' =>
      match e with
      | .int _ => none
      | e => some ⟨.attribute e, frames, stmts⟩
  | .op '(' => some ⟨.operand, .argument e [] none :: frames, stmts⟩
  | .op '[' => some ⟨.operand, .index e :: frames, stmts⟩
  | .op '=' =>
      match e, frames with
      | .name x, [] => some ⟨.operand, [.assign x], stmts⟩
      | .name x, .argument f args none :: frames =>
          some ⟨.operand, .argument f args (some x) :: frames, stmts⟩
      | _, _ => none
  | .op ',' =>
      match close frames e with
      | (.argument f args k :: frames, e) =>
          if admits args k then
            some ⟨.operand, .argument f (args ++ [(k, e)]) none :: frames, stmts⟩
          else none
      | (.item items :: frames, e) => some ⟨.operand, .item (items ++ [e]) :: frames, stmts⟩
      | _ => none
  | .op ')' =>
      match close frames e with
      | (.argument f args k :: frames, e) =>
          if admits args k then some ⟨.value (.call f (args ++ [(k, e)])), frames, stmts⟩ else none
      | _ => none
  | .op ']' =>
      match close frames e with
      | (.item items :: frames, e) => some ⟨.value (.list (items ++ [e])), frames, stmts⟩
      | (.index e' :: frames, e) => some ⟨.value (.index e' e), frames, stmts⟩
      | _ => none
  | .op ';' =>
      match close frames e with
      | ([], e) => some ⟨.operand, [], stmts ++ [.expr e]⟩
      | ([.assign x], e) => some ⟨.operand, [], stmts ++ [.assign x e]⟩
      | _ => none
  | .op _ => none

/-- A step of the parser. -/
def step (s : ParseState) (t : Token) : Option ParseState :=
  match s.mode, t with
  | .operand, t => stepOperand s.frames s.stmts t
  | .value e, t => stepValue e s.frames s.stmts t
  | .attribute e, .word x =>
      if x ∈ keywords then none else some { s with mode := .value (.attr e x) }
  | .lambda, .word x => if x ∈ keywords then none else some { s with mode := .parameter x }
  | .parameter x, .op ':' => some { s with mode := .operand, frames := .lambda x :: s.frames }
  | .load, .word x => if x ∈ keywords then none else some { s with mode := .loaded x }
  | .loaded x, .op ';' => some ⟨.operand, s.frames, s.stmts ++ [.load x]⟩
  | _, _ => none

/-- The steps of the parser. -/
def run (s : ParseState) : List Token → Option ParseState
  | [] => some s
  | t :: ts => (step s t).bind fun s => run s ts

/-- The statements of a line. It is not indented, and the last statement may have a semicolon. -/
def parse (code : String) : Option (List Stmt) :=
  if code.toList.head? = some ' ' then none
  else
    match run ⟨.operand, [], []⟩ (lex [] code.toList) with
    | some ⟨.operand, [], stmts⟩ => some stmts
    | some ⟨.operand, _ :: _, _⟩ => none
    | some s => (step s (.op ';')).map ParseState.stmts
    | none => none

theorem run_append (s : ParseState) (ts us : List Token) :
    run s (ts ++ us) = (run s ts).bind fun s => run s us := by
  induction ts generalizing s with
  | nil => rfl
  | cons t ts ih =>
      rw [List.cons_append, run, run]
      cases step s t with
      | none => rfl
      | some s => exact ih s

/-! ### Numbers and lists of them -/

/-- `str(ns)` of a list of natural numbers. -/
def reprList (ns : List ℕ) : String := "[" ++ String.intercalate ", " (ns.map toString) ++ "]"

/-- The tokens between the brackets. -/
def itemTokens : List ℕ → List Token
  | [] => []
  | [n] => [.word (toString n)]
  | n :: ns => .word (toString n) :: .op ',' :: itemTokens ns

section Numbers

variable {n : ℕ} {ns : List ℕ} {frames : List Frame} {stmts : List Stmt} {ts : List Token}
  {cs rest : List Char}

theorem toList_toString (n : ℕ) : (toString n).toList = Nat.toDigits 10 n := Nat.toList_repr

theorem isDigit_of_mem {d : Char} (h : d ∈ (toString n).toList) : d.isDigit = true :=
  Nat.isDigit_of_mem_toDigits (by decide) (by decide) (toList_toString n ▸ h)

theorem isWordChar_of_isDigit {d : Char} (h : d.isDigit = true) : isWordChar d = true := by
  rw [isWordChar, Char.isAlphanum, h, Bool.or_true, Bool.true_or]

/-- A number begins with a digit. -/
theorem head?_toString (n : ℕ) : (toString n).toList.head?.any Char.isDigit = true := by
  cases hn : (toString n).toList with
  | nil => exact absurd (toList_toString n ▸ hn) Nat.toDigits_ne_nil
  | cons d ds => exact isDigit_of_mem (hn ▸ List.mem_cons_self)

/-- A number is not a word that does not begin with a digit. -/
theorem toString_ne {w : String} (hw : w.toList.head?.any Char.isDigit = false) :
    toString n ≠ w := by
  rintro rfl
  rw [head?_toString] at hw
  cases hw

theorem atom_toString (n : ℕ) : atom (toString n) = some (.int n) := by
  have hkeywords : toString n ∉ keywords := by
    intro h
    have hall : ∀ w ∈ keywords, w.toList.head?.any Char.isDigit = false := by decide
    exact toString_ne (hall _ h) rfl
  have hvalue : Nat.ofDigitChars 10 (toString n).toList 0 = n := by
    rw [toList_toString, Nat.ofDigitChars_ten_toDigits]
  rw [atom, if_neg (toString_ne (by decide)), if_neg (toString_ne (by decide)),
    if_neg (toString_ne (by decide)), if_neg hkeywords, if_pos (head?_toString n), numeral, hvalue,
    if_pos (toList_toString n).symm]
  rfl

/-- A number is read as an expression. -/
theorem run_toString (n : ℕ) :
    run ⟨.operand, frames, stmts⟩ (.word (toString n) :: ts) =
      run ⟨.value (.int n), frames, stmts⟩ ts := by
  have hstep : step ⟨.operand, frames, stmts⟩ (.word (toString n)) =
      some ⟨.value (.int n), frames, stmts⟩ := by
    rw [step.eq_def]
    dsimp only
    rw [stepOperand.eq_def]
    dsimp only
    rw [if_neg (toString_ne (by decide)), if_neg (toString_ne (by decide)), atom_toString]
    rfl
  rw [run, hstep]
  rfl

/-- A number is one token. -/
theorem lex_toString {c : Char} (hhead : rest.head? = some c) (hc : isWordChar c = false) :
    lex [] ((toString n).toList ++ rest) = .word (toString n) :: lex [] rest := by
  rw [lex_word (fun d hd => isWordChar_of_isDigit (isDigit_of_mem hd)) _ hhead hc,
    List.nil_append, String.ofList_toList]
  rw [List.nil_append, toList_toString]
  exact Nat.toDigits_ne_nil

theorem lex_items (ns : List ℕ) (rest : List Char) :
    lex [] ((String.intercalate ", " (ns.map toString)).toList ++ ']' :: rest) =
      itemTokens ns ++ .op ']' :: lex [] rest := by
  induction ns with
  | nil => rfl
  | cons n ns ih =>
      cases ns with
      | nil => exact lex_toString rfl rfl
      | cons m ns =>
          rw [List.map_cons, List.map_cons, String.intercalate_cons_cons, ← List.map_cons,
            String.toList_append, String.toList_append, List.append_assoc, List.append_assoc]
          exact (lex_toString rfl rfl).trans (congrArg (fun ts => _ :: _ :: ts) ih)

/-- The tokens of a list of numbers. -/
theorem lex_reprList (ns : List ℕ) (rest : List Char) :
    lex [] ((reprList ns).toList ++ rest) =
      .op '[' :: (itemTokens ns ++ .op ']' :: lex [] rest) := by
  rw [reprList, String.toList_append, String.toList_append, List.append_assoc, List.append_assoc]
  exact congrArg (fun ts => _ :: ts) (lex_items ns rest)

/-- The characters of a list of numbers. -/
theorem mem_reprList {d : Char} (h : d ∈ (reprList ns).toList) :
    d.isDigit = true ∨ d ∈ ['[', ']', ',', ' '] := by
  rw [reprList, String.toList_append, String.toList_append, List.mem_append, List.mem_append] at h
  rcases h with (h | h) | h
  · rw [List.mem_singleton.1 h]
    exact .inr (by decide)
  · induction ns with
    | nil => cases h
    | cons n ns ih =>
        cases ns with
        | nil => exact .inl (isDigit_of_mem h)
        | cons m ns =>
            rw [List.map_cons, List.map_cons, String.intercalate_cons_cons, ← List.map_cons,
              String.toList_append, String.toList_append, List.mem_append, List.mem_append] at h
            rcases h with (h | h) | h
            · exact .inl (isDigit_of_mem h)
            · have hsep : (", ".toList.all fun c => c ∈ ['[', ']', ',', ' ']) = true := by decide
              exact .inr (of_decide_eq_true (List.all_eq_true.1 hsep d h))
            · exact ih h
  · rw [List.mem_singleton.1 h]
    exact .inr (by decide)

/-- The items of a list are parsed one by one. -/
theorem run_items (items : List Expr) (ns : List ℕ) :
    run ⟨.operand, .item items :: frames, stmts⟩ (itemTokens ns ++ .op ']' :: ts) =
      run ⟨.value (.list (items ++ ns.map .int)), frames, stmts⟩ ts := by
  induction ns generalizing items with
  | nil =>
      rw [List.map_nil, List.append_nil]
      rfl
  | cons n ns ih =>
      cases ns with
      | nil =>
          rw [itemTokens, List.singleton_append, run_toString]
          rfl
      | cons m ns =>
          have htail := ih (items ++ [.int n])
          rw [List.append_assoc, List.singleton_append, ← List.map_cons] at htail
          exact (run_toString n).trans htail

/-- **A list of numbers is parsed as these numbers.** -/
theorem run_reprList (ns : List ℕ) :
    run ⟨.operand, frames, stmts⟩ (.op '[' :: (itemTokens ns ++ .op ']' :: ts)) =
      run ⟨.value (.list (ns.map .int)), frames, stmts⟩ ts :=
  run_items [] ns

end Numbers

end Python
