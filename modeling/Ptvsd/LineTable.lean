import Ptvsd.CodeObjects

/-!
# The Line Table of a Code Object

`_modify_new_lines` hides the inserted code in the line before that of the breakpoint, so that there
is a line event right behind it.

## Main results

* `insertCode_lines`: each line starts with the instruction that it has started with, unless a jump
  needs another `EXTENDED_ARG`, which the table takes no notice of.
-/

namespace Ptvsd

namespace ModifyBytecode

section Lines

variable {offset delta : ℕ}

/-- A start of a line after the code was inserted. -/
def moveStart (offset delta : ℕ) (start : ℕ × ℤ) : ℕ × ℤ :=
  (Opcodes.moveOffset offset delta start.1, start.2)

theorem moveStart_of_le {start : ℕ × ℤ} (h : offset ≤ start.1) :
    moveStart offset delta start = (start.1 + delta, start.2) := by
  rw [moveStart, Opcodes.moveOffset_of_le h]

theorem moveStart_of_lt {start : ℕ × ℤ} (h : start.1 < offset) :
    moveStart offset delta start = start := by
  rw [moveStart, Opcodes.moveOffset_of_lt h]

theorem findlinestartsFrom_add (addr d : ℕ) (lineno : ℤ) (last : Option ℤ)
    (lnotab : List (ℕ × ℕ)) :
    findlinestartsFrom (addr + d) lineno last lnotab =
      (findlinestartsFrom addr lineno last lnotab).map fun start => (start.1 + d, start.2) := by
  induction lnotab generalizing addr lineno last with
  | nil =>
    rw [findlinestartsFrom, findlinestartsFrom]
    split <;> rfl
  | cons pair lnotab ih =>
    obtain ⟨byteIncr, lineIncr⟩ := pair
    have hadd : addr + d + byteIncr = addr + byteIncr + d := by omega
    simp only [findlinestartsFrom, hadd, ih]
    split
    · rfl
    · split <;> rfl

theorem le_of_mem_findlinestartsFrom {addr : ℕ} {lineno : ℤ} {last : Option ℤ}
    {lnotab : List (ℕ × ℕ)} {start : ℕ × ℤ}
    (h : start ∈ findlinestartsFrom addr lineno last lnotab) : addr ≤ start.1 := by
  induction lnotab generalizing addr lineno last with
  | nil =>
    rw [findlinestartsFrom] at h
    split at h
    · cases h
    · rw [List.mem_singleton.mp h]
  | cons pair lnotab ih =>
    obtain ⟨byteIncr, lineIncr⟩ := pair
    simp only [findlinestartsFrom] at h
    split at h
    · exact ih h
    · split at h
      · exact Nat.le_trans (Nat.le_add_right ..) (ih h)
      · rcases List.mem_cons.mp h with rfl | h
        · exact Nat.le_refl _
        · exact Nat.le_trans (Nat.le_add_right ..) (ih h)

/-- From the address of the breakpoint on, everything is moved. -/
theorem findlinestartsFrom_behind (delta : ℕ) {addr : ℕ} (haddr : offset ≤ addr) (lineno : ℤ)
    (last : Option ℤ) (lnotab : List (ℕ × ℕ)) :
    findlinestartsFrom (addr + delta) lineno last lnotab =
      (findlinestartsFrom addr lineno last lnotab).map (moveStart offset delta) := by
  rw [findlinestartsFrom_add]
  refine List.map_congr_left fun start hstart => ?_
  rw [moveStart_of_le (Nat.le_trans haddr (le_of_mem_findlinestartsFrom hstart))]

/-- The lines start where they have started, the inserted code apart. -/
theorem findlinestartsFrom_modifyLinesFrom {addr : ℕ} (haddr : addr < offset) {lineno : ℤ}
    {last : Option ℤ} {lnotab : List (ℕ × ℕ)}
    (h : ∃ line, (offset, line) ∈ findlinestartsFrom addr lineno last lnotab) :
    findlinestartsFrom addr lineno last (modifyLinesFrom offset delta addr lnotab) =
      (findlinestartsFrom addr lineno last lnotab).map (moveStart offset delta) := by
  induction lnotab generalizing addr lineno last with
  | nil =>
    obtain ⟨line, h⟩ := h
    rw [findlinestartsFrom] at h
    split at h
    · cases h
    · simp only [List.mem_singleton, Prod.mk.injEq] at h
      omega
  | cons pair lnotab ih =>
    obtain ⟨byteIncr, lineIncr⟩ := pair
    obtain ⟨line, h⟩ := h
    simp only [findlinestartsFrom] at h
    rw [modifyLinesFrom]
    by_cases hat : addr + byteIncr = offset
    · -- the increment that leads to the breakpoint
      have hne : byteIncr ≠ 0 := by omega
      have hne' : byteIncr + delta ≠ 0 := by omega
      have hbehind := fun lineno last => findlinestartsFrom_behind delta
        (Nat.le_of_eq hat.symm) lineno last lnotab
      simp only [if_pos hat, findlinestartsFrom, if_neg hne, if_neg hne', ← Nat.add_assoc, hbehind]
      split
      · rfl
      · rw [List.map_cons, moveStart_of_lt haddr]
    · simp only [if_neg hat, findlinestartsFrom]
      by_cases hzero : byteIncr = 0
      · subst hzero
        exact ih haddr ⟨line, by simpa using h⟩
      · simp only [if_neg hzero] at h ⊢
        -- the breakpoint is behind the increment
        have hlater : ∀ {last}, (offset, line) ∈
            findlinestartsFrom (addr + byteIncr) (addLine lineno lineIncr) last lnotab →
              findlinestartsFrom (addr + byteIncr) (addLine lineno lineIncr) last
                  (modifyLinesFrom offset delta (addr + byteIncr) lnotab) =
                (findlinestartsFrom (addr + byteIncr) (addLine lineno lineIncr) last lnotab).map
                  (moveStart offset delta) := by
          intro last hline
          have hle : addr + byteIncr ≤ offset := le_of_mem_findlinestartsFrom hline
          exact ih (by omega) ⟨line, hline⟩
        by_cases hlast : some lineno = last
        · simp only [if_pos hlast] at h ⊢
          exact hlater h
        · simp only [if_neg hlast] at h ⊢
          have hline := (List.mem_cons.mp h).resolve_left fun heq => by
            simp only [Prod.mk.injEq] at heq
            omega
          rw [List.map_cons, moveStart_of_lt haddr, hlater hline]

theorem findlinestarts_modifyNewLines {firstlineno : ℤ} {lnotab lnotab' : List (ℕ × ℕ)}
    (hoffset : 0 < offset) (h : ∃ line, (offset, line) ∈ findlinestarts firstlineno lnotab)
    (hmodify : modifyNewLines lnotab offset delta = some lnotab') :
    findlinestarts firstlineno lnotab' =
      (findlinestarts firstlineno lnotab).map (moveStart offset delta) := by
  cases lnotab with
  | nil => cases hmodify
  | cons pair rest =>
    rw [modifyNewLines, if_neg (Nat.pos_iff_ne_zero.mp hoffset), Option.some.injEq] at hmodify
    rw [← hmodify]
    exact findlinestartsFrom_modifyLinesFrom hoffset h

/-- As long as no line starts with the first one of the code object, it makes no difference that
this was the last line. -/
theorem findlinestartsFrom_last {addr : ℕ} {line lineno first : ℤ} (hne : line ≠ first)
    {lnotab : List (ℕ × ℕ)} (h : (addr, line) ∈ findlinestartsFrom addr lineno none lnotab) :
    findlinestartsFrom addr lineno (some first) lnotab =
      findlinestartsFrom addr lineno none lnotab := by
  induction lnotab generalizing lineno with
  | nil =>
    simp only [findlinestartsFrom, reduceCtorEq, if_false, List.mem_singleton,
      Prod.mk.injEq, true_and] at h ⊢
    rw [if_neg (by simpa [← h] using hne)]
  | cons pair lnotab ih =>
    obtain ⟨byteIncr, lineIncr⟩ := pair
    simp only [findlinestartsFrom, reduceCtorEq, if_false] at h ⊢
    split
    · next hzero =>
      rw [if_pos hzero] at h
      exact ih h
    · next hzero =>
      rw [if_neg hzero] at h
      have hline : line = lineno := by
        rcases List.mem_cons.mp h with heq | hlater
        · exact (Prod.mk.inj heq).2
        · have := le_of_mem_findlinestartsFrom hlater
          simp only at this
          omega
      rw [if_neg (by simpa [← hline] using hne)]

/-- In front of the first line, the inserted code is on the line of the code object itself. -/
theorem findlinestarts_modifyNewLines_zero {firstlineno line : ℤ} {lnotab lnotab' : List (ℕ × ℕ)}
    (hdelta : 0 < delta) (hne : line ≠ firstlineno)
    (h : (0, line) ∈ findlinestarts firstlineno lnotab)
    (hmodify : modifyNewLines lnotab 0 delta = some lnotab') :
    findlinestarts firstlineno lnotab' =
      (0, firstlineno) :: (findlinestarts firstlineno lnotab).map (moveStart 0 delta) := by
  cases lnotab with
  | nil => cases hmodify
  | cons pair rest =>
    obtain ⟨byteIncr, lineIncr⟩ := pair
    rw [modifyNewLines, if_pos rfl, Option.some.injEq] at hmodify
    subst hmodify
    simp only [findlinestarts, findlinestartsFrom, reduceCtorEq, if_false] at h ⊢
    have hzero : byteIncr = 0 := by
      by_contra hpos
      rw [if_neg hpos] at h
      rcases List.mem_cons.mp h with heq | hlater
      · exact hne (Prod.mk.inj heq).2
      · have := le_of_mem_findlinestartsFrom hlater
        simp only at this
        omega
    subst hzero
    rw [if_pos rfl] at h ⊢
    rw [Nat.zero_add, if_neg (Nat.pos_iff_ne_zero.mp hdelta),
      findlinestartsFrom_behind delta (Nat.le_refl 0), findlinestartsFrom_last hne h]

end Lines

namespace Opcodes

variable (o : Opcodes) {K : Type}

/-- The instructions that the lines of a code object start with. -/
def lines (c : CodeObject K) : List (ℕ × ℤ) :=
  (findlinestarts c.coFirstlineno c.coLnotab).map fun start =>
    (o.index c.coCode start.1, start.2)

variable {o} {codeToModify codeToInsert newCode : CodeObject K} {before after : List Instr}

/-- The instruction that a line starts with, after the code was inserted. -/
theorem index_moveOffset {front back added : List Instr} (hsplit : before ++ after = front ++ back)
    (hw : ∀ i ∈ before ++ after, o.WellFormed i) (hadded : ∀ i ∈ added, o.WellFormed i) :
    o.index (o.encode (o.inserted before added after))
        (moveOffset (size before) (size added) (size front)) =
      if before.length ≤ front.length then front.length + added.length else front.length := by
  have hindex : o.index (o.encode (before ++ after)) (size front) = front.length :=
    index_size hsplit hw
  have hbefore : 2 * ((o.encode before).map Word.op).length = size before := length_ops before
  have hlt := size_lt_iff hsplit.symm
  by_cases hle : size before ≤ size front
  · rw [moveOffset_of_le hle, if_pos (by omega), ← length_ops (o := o) added,
      index_inserted_of_le (ops_append before after) ops_inserted (by rwa [hbefore]), hindex,
      countP_ops hadded]
  · rw [moveOffset_of_lt (Nat.lt_of_not_le hle), if_neg (by omega),
      index_inserted_of_ge (ops_append before after) ops_inserted (by rw [hbefore]; omega), hindex]

/-- **The inserted code belongs to the line before.** When no jump needs another `EXTENDED_ARG`,
each line starts with the instruction that it has started with. So the line of the breakpoint starts
right behind the inserted code; in front of the first line, this is on the line of the code object
itself. -/
theorem insertCode_lines {beforeLine : ℤ} {fuel : ℕ} (hfuel : 0 < fuel)
    (hcode : codeToModify.coCode = o.encode (before ++ after))
    (hstart : (findlinestarts codeToModify.coFirstlineno codeToModify.coLnotab).find?
      (fun start => start.2 = beforeLine) = some (size before, beforeLine))
    (h : o.Stoppable before (o.added codeToModify codeToInsert (size before)) after)
    (hplain : o.Plain codeToInsert)
    (hlines : ∀ start ∈ findlinestarts codeToModify.coFirstlineno codeToModify.coLnotab,
      ∃ front back, before ++ after = front ++ back ∧ start.1 = size front)
    (hnone : ∀ p ∈ placed 0 (before ++ after), o.crosses (size before) (o.entry p) = true →
      p.2.exts = [] →
        p.2.low + size (o.added codeToModify codeToInsert (size before)) ≤ 255)
    (hfirst : before = [] → beforeLine ≠ codeToModify.coFirstlineno)
    (hok : o.insertCode fuel codeToModify codeToInsert beforeLine = some (true, newCode)) :
    o.lines newCode =
      (if before.length = 0 then [(0, codeToModify.coFirstlineno)] else []) ++
        (o.lines codeToModify).map fun start =>
          (if before.length ≤ start.1 then start.1 + codeToInsert.coCode.length else start.1,
            start.2) := by
  obtain ⟨hbytes, code, inserted, lnotab, hrun, hlnotab, rfl⟩ := insertCode_true hstart hok
  rw [codeToInsertList_eq hplain] at hbytes hrun hlnotab
  obtain ⟨inserted', hrun'⟩ :=
    updateLabelOffsets_eq (h.insertable hplain hbytes) hfuel hnone
  rw [hcode, hrun', Option.some.injEq, Prod.mk.injEq] at hrun
  obtain ⟨rfl, rfl⟩ := hrun
  rw [length_encode] at hlnotab
  have hmem := List.mem_of_find?_eq_some hstart
  have hmoved : ∀ start ∈ findlinestarts codeToModify.coFirstlineno codeToModify.coLnotab,
      (o.index (o.encode (o.inserted before
          (o.added codeToModify codeToInsert (size before)) after))
        (moveStart (size before) (size (o.added codeToModify codeToInsert (size before)))
          start).1, start.2) =
        (if before.length ≤ o.index codeToModify.coCode start.1 then
          o.index codeToModify.coCode start.1 + codeToInsert.coCode.length
        else o.index codeToModify.coCode start.1, start.2) := by
    intro start hin
    obtain ⟨front, back, hsplit, hoffset⟩ := hlines start hin
    have hindex : o.index codeToModify.coCode (size front) = front.length := by
      rw [hcode]
      exact index_size hsplit h.wellFormed
    rw [moveStart, hoffset, hindex, index_moveOffset hsplit h.wellFormed
      (fun i hi => hplain.added_wellFormed hbytes hi), length_added hplain]
  rw [lines, lines, List.map_map]
  change (findlinestarts codeToModify.coFirstlineno lnotab).map _ = _
  have hpos : 0 < size (o.added codeToModify codeToInsert (size before)) :=
    size_pos (h.insertable hplain hbytes).added_ne
  by_cases hzero : before = []
  · subst hzero
    rw [findlinestarts_modifyNewLines_zero hpos (hfirst rfl) hmem hlnotab, List.map_cons,
      List.map_map, List.length_nil, if_pos rfl, List.singleton_append]
    refine congrArg₂ _ ?_ (List.map_congr_left hmoved)
    simp [index]
  · rw [findlinestarts_modifyNewLines (size_pos hzero) ⟨_, hmem⟩ hlnotab, List.map_map,
      if_neg (by simpa using hzero), List.nil_append]
    exact List.map_congr_left hmoved

/-- Three assignments, as in the test of the line table. -/
def assignments : List Instr :=
  [⟨[], 0, 100, 1⟩, ⟨[], 0, 125, 0⟩, ⟨[], 0, 100, 2⟩, ⟨[], 0, 125, 1⟩, ⟨[], 0, 100, 2⟩,
    ⟨[], 0, 125, 2⟩, ⟨[], 0, 100, 0⟩, ⟨[], 0, 83, 0⟩]

/-- The code object of the assignments. -/
def method : CodeObject String where
  coName := "method"
  coFirstlineno := 97
  coCode := python37.encode (assignments.take 2 ++ assignments.drop 2)
  coNames := []
  coConsts := ["None", "10", "20"]
  coVarnames := ["a", "b", "c"]
  coLnotab := [(0, 1), (4, 1), (4, 1)]

/-- The code object that is inserted in the test. -/
def foo : CodeObject String where
  coName := "foo"
  coFirstlineno := 93
  coCode := [⟨116, 0⟩, ⟨131, 0⟩, ⟨1, 0⟩, ⟨100, 0⟩, ⟨83, 0⟩]
  coNames := ["global_loaded"]
  coConsts := ["None"]
  coVarnames := []
  coLnotab := [(0, 2)]

theorem foo_plain : python37.Plain foo where
  code_ne := by decide
  op_ne := by decide
  no_jump := by decide
  arg_lt := by decide

theorem assignments_no_jump {p : ℕ × Instr}
    (hp : p ∈ placed 0 (assignments.take 2 ++ assignments.drop 2)) :
    p.2.op ∉ python37.hasjrel ++ python37.hasjabs := by
  have hno : ∀ i ∈ assignments.take 2 ++ assignments.drop 2,
      i.op ∉ python37.hasjrel ++ python37.hasjabs := by decide
  exact hno _ (mem_of_placed hp)

theorem assignments_stoppable :
    python37.Stoppable (assignments.take 2) (python37.added method foo 4)
      (assignments.drop 2) where
  wellFormed i hi := by
    have hall : ∀ i ∈ assignments.take 2 ++ assignments.drop 2, i.op ≠ python37.extendedArg ∧
        i.exts = [] ∧ i.pending = 0 ∧ i.low < 256 := by decide
    obtain ⟨hop, hexts, hpending, hlow⟩ := hall i hi
    exact ⟨hop, fun _ => ⟨hexts, hpending⟩, hlow, by simp [hexts], by simp [hpending],
      fun _ => hpending⟩
  pending_eq := by decide
  even := by decide
  leads p hp target htarget := absurd (jump_of_label htarget) (assignments_no_jump hp)
  fits p hp hjump := absurd hjump (assignments_no_jump hp)
  size_lt := by decide
  size_le := by decide
  after_ne := by decide
  first := by decide

theorem method_lines :
    python37.lines (appendAttrs method foo
        [⟨100, 1⟩, ⟨125, 0⟩, ⟨116, 0⟩, ⟨131, 0⟩, ⟨1, 0⟩, ⟨100, 3⟩, ⟨115, 4⟩, ⟨100, 2⟩, ⟨125, 1⟩,
          ⟨100, 2⟩, ⟨125, 2⟩, ⟨100, 0⟩, ⟨83, 0⟩] [(0, 1), (14, 1), (4, 1)]) =
      (if (assignments.take 2).length = 0 then [(0, 97)] else []) ++
        (python37.lines method).map fun start =>
          (if (assignments.take 2).length ≤ start.1 then start.1 + foo.coCode.length
            else start.1, start.2) :=
  insertCode_lines (show 0 < 10 by decide) rfl (by decide +kernel) assignments_stoppable foo_plain
    (by
      have hstarts : findlinestarts method.coFirstlineno method.coLnotab =
          [(0, 98), (4, 99), (8, 100)] := by decide +kernel
      intro start hstart
      rw [hstarts] at hstart
      simp only [List.mem_cons, List.not_mem_nil, or_false] at hstart
      rcases hstart with rfl | rfl | rfl
      · exact ⟨[], assignments, rfl, rfl⟩
      · exact ⟨assignments.take 2, assignments.drop 2, rfl, rfl⟩
      · exact ⟨assignments.take 4, assignments.drop 4, rfl, rfl⟩)
    (fun p hp hc => absurd (jump_of_crosses hc) (assignments_no_jump hp))
    (show assignments.take 2 = [] → (99 : ℤ) ≠ method.coFirstlineno by decide) rfl

end Opcodes

end ModifyBytecode

end Ptvsd
