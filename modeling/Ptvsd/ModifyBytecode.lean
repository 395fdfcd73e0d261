import Mathlib.Data.Int.Notation
import Mathlib.Data.List.Basic

/-!
# Inserting Code into a Code Object

To stop at a line without tracing the whole program, `pydevd` changes the bytecode of a function: a
call is inserted in front of the line. `_update_label_offsets` moves the targets of the jumps that
lead across it. Where an argument no longer fits into its byte, another `EXTENDED_ARG` has to be
inserted, and this moves targets again.

The bytecode is that of Python 3.6 to 3.8. An instruction takes two bytes, and offsets are even.

## Main definitions

* `insertCode`: **`_insert_code`**, on the attributes of a code object that it changes or looks at.
* `updateLabelOffsets`: `_update_label_offsets`, whose loop takes a fuel argument.
* `modifyNewLines`, `findlinestarts`: the line table, and how it is read.
* `listing`: the instructions of some code, each with its operand.
-/

namespace Ptvsd

namespace ModifyBytecode

/-- An operation and its argument. -/
structure Word where
  op : ℕ
  arg : ℕ
  deriving DecidableEq

/-- `co_code`. -/
abbrev Code := List Word

/-- The tables of the modules `dis` and `opcode`, which differ from version to version. -/
structure Opcodes where
  /-- `HAVE_ARGUMENT`. -/
  haveArgument : ℕ
  /-- `EXTENDED_ARG`. -/
  extendedArg : ℕ
  hasjrel : List ℕ
  hasjabs : List ℕ
  hasname : List ℕ
  haslocal : List ℕ
  /-- `opmap['LOAD_CONST']`. -/
  loadConst : ℕ
  /-- `opmap['POP_JUMP_IF_TRUE']`. -/
  popJumpIfTrue : ℕ
  haveArgument_le : haveArgument ≤ extendedArg
  jump_le : ∀ op ∈ hasjrel ++ hasjabs, haveArgument ≤ op
  jump_ne : ∀ op ∈ hasjrel ++ hasjabs, op ≠ extendedArg
  refers_le : ∀ op ∈ loadConst :: (hasname ++ haslocal), haveArgument ≤ op
  refers_ne : ∀ op ∈ loadConst :: (hasname ++ haslocal), op ≠ extendedArg
  refers_jump : ∀ op ∈ loadConst :: (hasname ++ haslocal), op ∉ hasjrel ++ hasjabs
  refers_once : loadConst ∉ hasname ∧ loadConst ∉ haslocal ∧ ∀ op ∈ hasname, op ∉ haslocal
  popJump_abs : popJumpIfTrue ∈ hasjabs ∧ popJumpIfTrue ∉ hasjrel

/-- The attributes of a code object that are changed, or that decide whether it is; `K` is the type
of its constants. -/
structure CodeObject (K : Type) where
  coName : String
  coFirstlineno : ℤ
  coCode : Code
  coNames : List String
  coConsts : List K
  coVarnames : List String
  /-- `co_lnotab`, whose bytes come in pairs. -/
  coLnotab : List (ℕ × ℕ)

/-- An entry of `inserted_code`: an offset, and what is to be inserted there. -/
structure Piece where
  offset : ℕ
  code : Code
  deriving DecidableEq

/-- What `_unpack_opargs` yields. -/
structure Entry where
  offset : ℕ
  op : ℕ
  arg : Option ℕ
  deriving DecidableEq

/-- The argument of an instruction. A target is given by the number of instructions in front of it;
it is `straight` if it is not between an instruction and its `EXTENDED_ARG`. -/
inductive Operand where
  | none
  | arg (n : ℕ)
  | target (index : ℕ) (straight : Bool)
  deriving DecidableEq

namespace Opcodes

variable (o : Opcodes)

/-- The `EXTENDED_ARG` for the offset that is yet to be inserted. -/
def pendingArg (inserted : List Piece) (offset : ℕ) : ℕ :=
  inserted.foldl (fun extendedArg piece =>
    match piece.code with
    | [] => extendedArg
    | w :: _ =>
        if piece.offset = offset ∧ w.op = o.extendedArg then w.arg * 256 else extendedArg) 0

/-- `_unpack_opargs`, from an offset on. -/
def unpackOpargs (inserted : List Piece) (offset extendedArg : ℕ) : Code → List Entry
  | [] => []
  | w :: ws =>
      if o.haveArgument ≤ w.op then
        let arg := w.arg |||
          if extendedArg = 0 then o.pendingArg inserted offset else extendedArg
        ⟨offset, w.op, some arg⟩ ::
          unpackOpargs inserted (offset + 2) (if w.op = o.extendedArg then arg * 256 else 0) ws
      else ⟨offset, w.op, none⟩ :: unpackOpargs inserted (offset + 2) extendedArg ws

/-- Where a jump leads to. -/
def label (e : Entry) : Option ℕ :=
  e.arg.bind fun arg =>
    if e.op ∈ o.hasjrel then some (e.offset + 2 + arg)
    else if e.op ∈ o.hasjabs then some arg
    else none

/-- The jump leads across the offset. -/
def crosses (current : ℕ) (e : Entry) : Bool :=
  (o.label e).any fun target =>
    current < target && (e.op ∉ o.hasjrel || e.offset < current)

/-- `offsets_for_modification`. -/
def offsetsForModification (current : ℕ) (entries : List Entry) : List ℕ :=
  (entries.filter (o.crosses current)).map Entry.offset

/-- The body of the loop that changes the arguments; `passed` is what the loop has passed, the last
word first, and `inserted` what it has appended. -/
def modifyArg (offsets : List ℕ) (size offset : ℕ) (passed : Code) (inserted : List Piece)
    (w : Word) : Code × List Piece :=
  if offset ∈ offsets ∧ o.haveArgument ≤ w.op then
    let newArg := w.arg + size
    if newArg ≤ 255 then ({ w with arg := newArg } :: passed, inserted)
    else
      let low := { w with arg := newArg % 256 }
      let appended := (low :: passed, inserted ++ [⟨offset, [⟨o.extendedArg, newArg / 256⟩]⟩])
      match passed with
      | e :: passed' =>
          if 2 < offset ∧ e.op = o.extendedArg ∧ e.arg < 255 then
            (low :: { e with arg := e.arg + 1 } :: passed', inserted)
          else appended
      | [] => appended
  else (w :: passed, inserted)

/-- The loop that changes the arguments, from an offset on. -/
def modifyArgs (offsets : List ℕ) (size offset : ℕ) (passed : Code) (inserted : List Piece) :
    Code → Code × List Piece
  | [] => (passed.reverse, inserted)
  | w :: ws =>
      let modified := o.modifyArg offsets size offset passed inserted w
      modifyArgs offsets size (offset + 2) modified.1 modified.2 ws

/-- A piece that is behind another one which is inserted. -/
def moved (current : Piece) (piece : Piece) : Piece :=
  if current.offset < piece.offset then
    { piece with offset := piece.offset + 2 * current.code.length }
  else piece

/-- The loop of `_update_label_offsets` over the pieces, some of which it has dealt with; `none` if
it takes longer. -/
def updateLoop : ℕ → List Piece → List Piece → Code → Option (Code × List Piece)
  | _, done, [], code => some (code, done)
  | 0, _, _ :: _, _ => none
  | fuel + 1, done, current :: inserted, code =>
      let offsets := o.offsetsForModification current.offset
        (o.unpackOpargs (current :: inserted) 0 0 code)
      let modified := o.modifyArgs offsets (2 * current.code.length) 0 [] inserted code
      updateLoop fuel ((done ++ [current]).map (moved current)) (modified.2.map (moved current))
        (modified.1.take (current.offset / 2) ++
          (current.code ++ modified.1.drop (current.offset / 2)))

/-- `_update_label_offsets`. -/
def updateLabelOffsets (fuel : ℕ) (code : Code) (breakpointOffset : ℕ) (breakpointCode : Code) :
    Option (Code × List Piece) :=
  o.updateLoop fuel [] [⟨breakpointOffset, breakpointCode⟩] code

/-! ### The inserted code -/

/-- `add_jump_instruction`; what it cuts off is `RETURN_VALUE`. -/
def addJumpInstruction (jumpArg : ℕ) (codeToInsert : Code) : Code :=
  codeToInsert.dropLast ++
    ((if 255 < jumpArg then [⟨o.extendedArg, jumpArg / 256⟩] else []) ++
      [⟨o.popJumpIfTrue, jumpArg % 256⟩])

/-- The body of the loop in `_add_attr_values_from_insert_to_original`. -/
def addAttrValue (origLen : ℕ) (opList : List ℕ) (w : Word) : Code :=
  if w.op ∈ opList then
    if 255 < w.arg + origLen then
      [⟨o.extendedArg, (w.arg + origLen) / 256⟩, ⟨w.op, (w.arg + origLen) % 256⟩]
    else [⟨w.op, w.arg + origLen⟩]
  else [w]

/-- `_add_attr_values_from_insert_to_original`. -/
def addAttrValues (origLen : ℕ) (opList : List ℕ) (insertCodeList : Code) : Code :=
  insertCodeList.flatMap (o.addAttrValue origLen opList)

/-! ### What the code means -/

/-- The number of instructions in front of an offset. -/
def index (code : Code) (offset : ℕ) : ℕ :=
  (code.take (offset / 2)).countP (·.op ≠ o.extendedArg)

/-- There is no `EXTENDED_ARG` right in front of an offset. -/
def straight (code : Code) (offset : ℕ) : Bool :=
  (code.take (offset / 2)).getLast?.all (·.op ≠ o.extendedArg)

/-- The operand of an entry, its target counted in instructions. -/
def operand (code : Code) (e : Entry) : Operand :=
  match o.label e, e.arg with
  | some target, _ => .target (o.index code target) (o.straight code target)
  | none, some arg => .arg arg
  | none, none => .none

/-- The instructions of a part of the code, some `EXTENDED_ARG` of which are yet to be inserted. -/
def listingFrom (inserted : List Piece) (code : Code) (offset : ℕ) (part : Code) :
    List (ℕ × Operand) :=
  ((o.unpackOpargs inserted offset 0 part).filter (·.op ≠ o.extendedArg)).map fun e =>
    (e.op, o.operand code e)

/-- The instructions of the code. -/
def listing (code : Code) : List (ℕ × Operand) :=
  o.listingFrom [] code 0 code

end Opcodes

/-! ### Lines -/

/-- A line increment is a signed byte. -/
def addLine (lineno : ℤ) (lineIncr : ℕ) : ℤ :=
  lineno + if 128 ≤ lineIncr then (lineIncr : ℤ) - 256 else lineIncr

/-- `dis.findlinestarts`, from an address on. -/
def findlinestartsFrom (addr : ℕ) (lineno : ℤ) (lastlineno : Option ℤ) :
    List (ℕ × ℕ) → List (ℕ × ℤ)
  | [] => if some lineno = lastlineno then [] else [(addr, lineno)]
  | (byteIncr, lineIncr) :: lnotab =>
      if byteIncr = 0 then findlinestartsFrom addr (addLine lineno lineIncr) lastlineno lnotab
      else if some lineno = lastlineno then
        findlinestartsFrom (addr + byteIncr) (addLine lineno lineIncr) lastlineno lnotab
      else
        (addr, lineno) ::
          findlinestartsFrom (addr + byteIncr) (addLine lineno lineIncr) (some lineno) lnotab

/-- `dis.findlinestarts`. -/
def findlinestarts (firstlineno : ℤ) (lnotab : List (ℕ × ℕ)) : List (ℕ × ℤ) :=
  findlinestartsFrom 0 firstlineno none lnotab

/-- The loop of `_modify_new_lines`, from an address on. -/
def modifyLinesFrom (offset bytecodeDelta addr : ℕ) : List (ℕ × ℕ) → List (ℕ × ℕ)
  | [] => []
  | (byteIncr, lineIncr) :: lnotab =>
      if addr + byteIncr = offset then (byteIncr + bytecodeDelta, lineIncr) :: lnotab
      else (byteIncr, lineIncr) :: modifyLinesFrom offset bytecodeDelta (addr + byteIncr) lnotab

/-- `_modify_new_lines`. -/
def modifyNewLines (lnotab : List (ℕ × ℕ)) (offset bytecodeDelta : ℕ) :
    Option (List (ℕ × ℕ)) :=
  match lnotab with
  | [] => none
  | (byteIncr, lineIncr) :: rest =>
      if offset = 0 then some ((byteIncr + bytecodeDelta, lineIncr) :: rest)
      else some (modifyLinesFrom offset bytecodeDelta 0 lnotab)

/-! ### Inserting -/

/-- The words are made of bytes; otherwise `bytes` raises `ValueError`. -/
def isBytes (code : Code) : Bool := code.all fun w => w.op < 256 && w.arg < 256

namespace Opcodes

variable (o : Opcodes) {K : Type}

/-- What is inserted in front of the instruction at an offset. -/
def codeToInsertList (codeToModify codeToInsert : CodeObject K) (offset : ℕ) : Code :=
  o.addAttrValues codeToModify.coVarnames.length o.haslocal
    (o.addAttrValues codeToModify.coConsts.length [o.loadConst]
      (o.addAttrValues codeToModify.coNames.length o.hasname
        (o.addJumpInstruction offset codeToInsert.coCode)))

/-- `_insert_code`; `none` if it takes longer. -/
def insertCode (fuel : ℕ) (codeToModify codeToInsert : CodeObject K) (beforeLine : ℤ) :
    Option (Bool × CodeObject K) :=
  let linestarts := findlinestarts codeToModify.coFirstlineno codeToModify.coLnotab
  let lines := linestarts.map Prod.snd
  if linestarts = [] then some (false, codeToModify)
  else if codeToModify.coName = "<module>" ∧ lines.min? = some beforeLine then
    some (false, codeToModify)
  else match linestarts.find? (fun start => start.2 = beforeLine) with
    | none => some (false, codeToModify)
    | some (offset, _) =>
        let codeToInsertList := o.codeToInsertList codeToModify codeToInsert offset
        if isBytes codeToInsertList then
          match o.updateLabelOffsets fuel codeToModify.coCode offset codeToInsertList with
          | none => none
          | some (newBytes, _) =>
              match modifyNewLines codeToModify.coLnotab offset (2 * codeToInsertList.length) with
              | none => some (false, codeToModify)
              | some newLnotab =>
                  if isBytes newBytes ∧ newLnotab.all (fun pair => pair.1 < 256) then
                    some (true, { codeToModify with
                      coCode := newBytes
                      coNames := codeToModify.coNames ++ codeToInsert.coNames
                      coConsts := codeToModify.coConsts ++ codeToInsert.coConsts
                      coVarnames := codeToModify.coVarnames ++ codeToInsert.coVarnames
                      coLnotab := newLnotab })
                  else some (false, codeToModify)
        else some (false, codeToModify)

end Opcodes

end ModifyBytecode

end Ptvsd
