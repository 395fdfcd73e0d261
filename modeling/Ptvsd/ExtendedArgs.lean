import Ptvsd.JumpTargets

/-!
# Inserting `EXTENDED_ARG`

The rounds of the loop in `_update_label_offsets` that follow the first one insert the
`EXTENDED_ARG`s for the arguments that have overflowed, and each of them may make further ones
overflow. `Ready` is what holds in between: the pieces are what the instructions wait for, and the
arguments have room for what is to come. It is kept (`Ready.next`), the instructions stay the same
(`Ready.view_settled`), and since an instruction gets its first `EXTENDED_ARG` only once, the loop
ends (`updateLoop_ready`).

## Main results

* `Ready.next`: **a round of the loop** inserts one `EXTENDED_ARG`, and the rest is ready again.
* `Ready.view_settled`: the instructions refer to what they have referred to.
* `updateLoop_ready`: the loop ends, after a round for each `EXTENDED_ARG` at most.
-/

namespace Ptvsd

namespace ModifyBytecode

namespace Opcodes

variable (o : Opcodes)

/-! ### The loop -/

/-- The instructions with their arguments changed. -/
def bumpAll (current length start : ℕ) (is : List Instr) : List Instr :=
  (placed start is).map fun p => (o.bump current length p).2

section Loop

variable {o} {current length start : ℕ} {is : List Instr}

/-- The instructions stay where they are. -/
@[simp] theorem placed_bumpAll :
    placed start (o.bumpAll current length start is) =
      (placed start is).map (o.bump current length) :=
  placed_bump start is

/-- They take as many bytes as before. -/
@[simp] theorem size_bumpAll : size (o.bumpAll current length start is) = size is := by
  induction is generalizing start with
  | nil => rfl
  | cons i is ih =>
    simp only [bumpAll, placed, List.map_cons, size_cons, bump_width]
    exact congrArg _ ih

/-- Part by part. -/
theorem bumpAll_append (is js : List Instr) :
    o.bumpAll current length start (is ++ js) =
      o.bumpAll current length start is ++ o.bumpAll current length (start + size is) js := by
  rw [bumpAll, placed_append, List.map_append, bumpAll, bumpAll]

/-- The operations of the words of an instruction. -/
theorem ops_encodeInstr (i : Instr) :
    (o.encodeInstr i).map Word.op = List.replicate i.exts.length o.extendedArg ++ [i.op] := by
  simp [encodeInstr, List.map_const', Function.comp_def]

/-- The operations stay. -/
theorem ops_bump (p : ℕ × Instr) :
    (o.encodeInstr (o.bump current length p).2).map Word.op =
      (o.encodeInstr p.2).map Word.op := by
  rw [ops_encodeInstr, ops_encodeInstr, bump_op, length_bump_exts]

/-- The operations stay the same. -/
theorem ops_bumpAll :
    (o.encode (o.bumpAll current length start is)).map Word.op =
      (o.encode is).map Word.op := by
  induction is generalizing start with
  | nil => rfl
  | cons i is ih =>
    have := @ih (start + i.width)
    simp only [bumpAll, placed, List.map_cons, encode_cons, List.map_append, ops_bump] at this ⊢
    rw [this]

/-- The jumps that lead across the offset, if what `_unpack_opargs` gets wrong does not matter. -/
theorem mem_offsetsForModification {pieces : List Piece} (hw : ∀ i ∈ is, o.WellFormed i)
    (hout : Outside o pieces (placed 0 is))
    (hseen : ∀ p ∈ placed 0 is,
      o.crosses current (o.entry (seen o pieces p)) = o.crosses current (o.entry p)) (n : ℕ) :
    n ∈ o.offsetsForModification current (o.unpackOpargs pieces 0 0 (o.encode is)) ↔
      ∃ p ∈ placed 0 is, o.crosses current (o.entry p) = true ∧ (o.entry p).offset = n := by
  have hfilter : (o.unpackOpargs pieces 0 0 (o.encode is)).filter (o.crosses current) =
      ((placed 0 is).map fun p => o.entry (seen o pieces p)).filter (o.crosses current) := by
    rw [← unpackOpargs_seen hw hout, List.filter_filter]
    refine List.filter_congr fun e _ => ?_
    by_cases hc : o.crosses current e = true
    · simp [hc, o.jump_ne _ (jump_of_crosses hc)]
    · simp [hc]
  rw [offsetsForModification, hfilter]
  simp only [List.mem_map, List.mem_filter]
  constructor
  · rintro ⟨_, ⟨⟨p, hp, rfl⟩, hc⟩, hn⟩
    exact ⟨p, hp, (hseen p hp).symm.trans hc, hn⟩
  · rintro ⟨p, hp, hc, hn⟩
    exact ⟨_, ⟨⟨p, hp, rfl⟩, (hseen p hp).trans hc⟩, hn⟩

/-- One round of the loop. -/
theorem updateLoop_step {fuel : ℕ} {done rest : List Piece} {piece : Piece}
    {before after : List Instr} (hoffset : piece.offset = size before)
    (hw : ∀ i ∈ before ++ after, o.WellFormed i)
    (hout : Outside o (piece :: rest) (placed 0 (before ++ after)))
    (hseen : ∀ p ∈ placed 0 (before ++ after),
      o.crosses piece.offset (o.entry (seen o (piece :: rest) p)) =
        o.crosses piece.offset (o.entry p))
    (hraise : ∀ p ∈ placed 0 (before ++ after),
      o.crosses piece.offset (o.entry p) = true → Raisable (2 * piece.code.length) p) :
    o.updateLoop (fuel + 1) done (piece :: rest) (o.encode (before ++ after)) =
      o.updateLoop fuel ((done ++ [piece]).map (moved piece))
        ((rest ++ (placed 0 (before ++ after)).flatMap
          (o.newPiece piece.offset (2 * piece.code.length))).map (moved piece))
        (o.encode (o.bumpAll piece.offset (2 * piece.code.length) 0 before) ++
          (piece.code ++
            o.encode (o.bumpAll piece.offset (2 * piece.code.length) (size before) after))) := by
  have hmodified := modifyArgs_encode hw
    (show ∀ w ∈ ([] : Code).head?, w.op ≠ o.extendedArg by simp) rest
    (fun n _ => mem_offsetsForModification hw hout hseen n) hraise
  have hlength : (o.encode (o.bumpAll piece.offset (2 * piece.code.length) 0 before)).length =
      piece.offset / 2 := by
    have := length_encode o (o.bumpAll piece.offset (2 * piece.code.length) 0 before)
    rw [size_bumpAll] at this
    omega
  rw [← bumpAll, bumpAll_append, List.reverse_nil, List.nil_append, Nat.zero_add] at hmodified
  rw [updateLoop]
  simp only [hmodified]
  rw [o.encode_append (o.bumpAll ..), List.take_left' hlength, List.drop_left' hlength]

end Loop

/-! ### Inserting an `EXTENDED_ARG` -/

/-- The instructions are in order, and the pieces are what they wait for. -/
structure Ready (is : List Instr) (pieces : List Piece) : Prop where
  wellFormed : ∀ i ∈ is, o.WellFormed i
  even : ∀ i ∈ is, i.op ∈ o.hasjrel ++ o.hasjabs → i.low % 2 = 0
  bare : ∀ i ∈ is, i.pending ≠ 0 → o.Bare i
  fits : ∀ p ∈ placed 0 is, p.2.op ∈ o.hasjrel ++ o.hasjabs → Fits (o.due is (o.entry p)) p
  pieces : pieces.Perm ((placed 0 is).flatMap o.owed)

/-- The instructions of the code, each with its operation and what it refers to. -/
def view (is : List Instr) : List (ℕ × Operand) :=
  (placed 0 is).map fun p => (p.2.op, o.operand (o.encode is) (o.entry p))

/-- An instruction with the `EXTENDED_ARG` that it has waited for. -/
def extend (i : Instr) : Instr := { i with exts := i.exts ++ [i.pending], pending := 0 }

/-- Where an instruction is, and what has become of it, when an `EXTENDED_ARG` was inserted. -/
def settle (current : ℕ) (p : ℕ × Instr) : ℕ × Instr :=
  if p.1 = current then (p.1, extend (o.bump current 2 p).2)
  else (moveOffset current 2 p.1, (o.bump current 2 p).2)

section Extending

variable {o} {before after : List Instr} {i : Instr} {rest : List Piece}

/-- The argument stays. -/
@[simp] theorem extend_arg (i : Instr) : (extend i).arg = i.arg := by
  simp [extend, Instr.arg]

/-- The operation stays. -/
@[simp] theorem extend_op (i : Instr) : (extend i).op = i.op := rfl

/-- The instruction has become longer by a word. -/
@[simp] theorem extend_width (i : Instr) : (extend i).width = i.width + 2 := by
  simp [extend, Instr.width, Nat.mul_add]

/-- The instruction in front of which the `EXTENDED_ARG` is inserted gets it. -/
theorem settle_self (current : ℕ) (i : Instr) :
    o.settle current (current, i) = (current, extend (o.bump current 2 (current, i)).2) :=
  if_pos rfl

/-- The others are moved, and their arguments are raised. -/
theorem settle_of_ne {current : ℕ} {p : ℕ × Instr} (h : p.1 ≠ current) :
    o.settle current p = (moveOffset current 2 p.1, (o.bump current 2 p).2) := if_neg h

/-- The operation stays. -/
@[simp] theorem settle_op (current : ℕ) (p : ℕ × Instr) :
    (o.settle current p).2.op = p.2.op := by
  rw [settle]
  split <;> exact bump_op p

/-- The lowest byte is raised where the jump leads across. -/
@[simp] theorem settle_low (current : ℕ) (p : ℕ × Instr) :
    (o.settle current p).2.low = (o.bump current 2 p).2.low := by
  rw [settle]
  split <;> rfl

/-- The instruction has an `EXTENDED_ARG` now. -/
theorem not_bare_extend (i : Instr) : ¬o.Bare (extend i) := by simp [extend, Bare]

/-- The instructions after the `EXTENDED_ARG` was inserted. -/
def settled (o : Opcodes) (before : List Instr) (i : Instr) (after : List Instr) : List Instr :=
  o.bumpAll (size before) 2 0 before ++
    extend (o.bump (size before) 2 (size before, i)).2 ::
      o.bumpAll (size before) 2 (size before + i.width) after

/-- What is behind an instruction starts after it. -/
theorem lt_of_placed_behind {p : ℕ × Instr} (hp : p ∈ placed (size before + i.width) after) :
    size before < p.1 :=
  Nat.lt_of_lt_of_le (Nat.lt_add_of_pos_right i.width_pos) (bounds_of_placed hp).1

/-- Each instruction is where it was moved to. -/
theorem placed_settled :
    placed 0 (settled o before i after) =
      (placed 0 (before ++ i :: after)).map (o.settle (size before)) := by
  have hbefore : ∀ p ∈ placed 0 before,
      o.bump (size before) 2 p = o.settle (size before) p := by
    intro p hp
    have hlt := lt_of_placed hp
    rw [Nat.zero_add] at hlt
    rw [settle_of_ne (Nat.ne_of_lt hlt), moveOffset_of_lt hlt]
    exact Prod.ext (bump_fst p) rfl
  have hafter : ∀ p ∈ placed (size before + i.width) after,
      ((o.bump (size before) 2 p).1 + 2, (o.bump (size before) 2 p).2) =
        o.settle (size before) p := by
    intro p hp
    have hlt := lt_of_placed_behind hp
    rw [settle_of_ne (Nat.ne_of_gt hlt), moveOffset_of_le (Nat.le_of_lt hlt), bump_fst]
  rw [settled, placed_append, placed_append, List.map_append, placed_bumpAll, size_bumpAll,
    Nat.zero_add, List.map_congr_left hbefore]
  congr 1
  rw [placed, placed, List.map_cons, extend_width, bump_width, ← Nat.add_assoc, placed_add,
    placed_bumpAll, List.map_map, List.cons.injEq]
  exact ⟨(settle_self ..).symm, List.map_congr_left hafter⟩

/-- The jump in front of which an `EXTENDED_ARG` is inserted owes it no more. -/
theorem due_settled (hbare : o.Bare i) (e : Entry) :
    o.due (before ++ i :: after) e =
      o.due (settled o before i after) (o.moveEntry (size before) 2 e) +
        if o.crosses (size before) e then 2 else 0 := by
  have hother : ∀ p : ℕ × Instr, p.1 ≠ size before →
      (decide (o.Bare (o.settle (size before) p).2) &&
          o.crosses (o.settle (size before) p).1 (o.moveEntry (size before) 2 e)) =
        (decide (o.Bare p.2) && o.crosses p.1 e) := by
    intro p hne
    rw [settle_of_ne hne]
    simp only [crosses_moveEntry, bare_bump]
  have hself : ¬o.Bare (o.settle (size before) (size before, i)).2 := by
    rw [settle_self]
    exact not_bare_extend _
  rw [due, due, placed_settled, List.countP_map, placed_append, List.countP_append,
    List.countP_append, placed, List.countP_cons, List.countP_cons]
  have hbefore : (placed 0 before).countP ((fun p => decide (o.Bare p.2) &&
      o.crosses p.1 (o.moveEntry (size before) 2 e)) ∘ o.settle (size before)) =
        (placed 0 before).countP fun p => decide (o.Bare p.2) && o.crosses p.1 e := by
    refine List.countP_congr fun p hp => ?_
    have hlt := lt_of_placed hp
    rw [Nat.zero_add] at hlt
    rw [Function.comp_apply, hother p (Nat.ne_of_lt hlt)]
  have hafter : (placed (0 + size before + i.width) after).countP ((fun p => decide (o.Bare p.2) &&
      o.crosses p.1 (o.moveEntry (size before) 2 e)) ∘ o.settle (size before)) =
        (placed (0 + size before + i.width) after).countP
          fun p => decide (o.Bare p.2) && o.crosses p.1 e := by
    refine List.countP_congr fun p hp => ?_
    rw [Nat.zero_add] at hp
    rw [Function.comp_apply, hother p (Nat.ne_of_gt (lt_of_placed_behind hp))]
  rw [hbefore, hafter]
  simp only [Nat.zero_add, Function.comp_apply, hself, hbare, decide_false, decide_true,
    Bool.false_and, Bool.true_and, Bool.false_eq_true, if_false]
  split <;> omega

/-- A piece moves together with the instruction that waits for it. -/
theorem moved_owed {piece : Piece} {p : ℕ × Instr}
    (h : p.1 = piece.offset → p.2.pending = 0) :
    (o.owed p).map (moved piece) =
      o.owed (moveOffset piece.offset (2 * piece.code.length) p.1, p.2) := by
  by_cases hp : p.2.pending = 0
  · simp [owed, hp]
  · rw [owed, if_neg hp, owed, if_neg hp, List.map_singleton, moved]
    rcases Nat.lt_or_gt_of_ne fun heq => hp (h heq) with hlt | hlt
    · rw [moveOffset_of_lt hlt, if_neg (Nat.not_lt.mpr (Nat.le_of_lt hlt))]
    · rw [moveOffset_of_le (Nat.le_of_lt hlt), if_pos hlt]

/-- Something is pending only for a jump without an `EXTENDED_ARG`. -/
theorem bump_pending {current length : ℕ} {p : ℕ × Instr}
    (h : (o.bump current length p).2.pending ≠ 0) (hbare : p.2.pending ≠ 0 → o.Bare p.2) :
    o.Bare (o.bump current length p).2 := by
  rw [bare_bump]
  by_cases hp : p.2.pending = 0
  · rcases o.bump_cases current length p with ⟨hc, hbump⟩ | ⟨-, hbump⟩ <;> rw [hbump] at h
    · refine ⟨?_, jump_of_crosses hc⟩
      rcases raise_cases length p.2 with ⟨-, hraise⟩ | ⟨-, hexts, -⟩ | ⟨e, es, -, -, hraise⟩
      · rw [hraise] at h
        exact absurd hp h
      · exact hexts
      · rw [hraise] at h
        exact absurd hp h
    · exact absurd hp h
  · exact hbare hp

/-- The bytes are bytes, also with the `EXTENDED_ARG`. -/
theorem WellFormed.extend (h : o.WellFormed i) (hle : o.haveArgument ≤ i.op) :
    o.WellFormed (Opcodes.extend i) where
  op_ne := h.op_ne
  plain hlt := absurd hle (Nat.not_le.mpr hlt)
  low_lt := h.low_lt
  exts_lt e he := by
    rcases List.mem_append.mp he with he | he
    · exact h.exts_lt e he
    · rw [List.mem_singleton.mp he]
      exact h.pending_lt
  pending_lt := Nat.zero_lt_succ _
  pending_eq _ := rfl

/-- The instruction starts behind those in front of it. -/
theorem placed_self : (size before, i) ∈ placed 0 (before ++ i :: after) := by
  rw [placed_append, Nat.zero_add]
  exact List.mem_append_right _ List.mem_cons_self

/-- No other instruction starts there. -/
theorem placed_start {p : ℕ × Instr} (hp : p ∈ placed 0 (before ++ i :: after))
    (heq : p.1 = size before) : p = (size before, i) := by
  rcases placed_disjoint hp placed_self with rfl | hd | hd
  · rfl
  all_goals
    simp only [Instr.width] at hd
    omega

/-- Each instruction has a place. -/
theorem exists_placed {is : List Instr} (start : ℕ) {j : Instr} (hj : j ∈ is) :
    ∃ p ∈ placed start is, p.2 = j := by
  induction is generalizing start with
  | nil => cases hj
  | cons i is ih =>
    rcases List.mem_cons.mp hj with rfl | hj
    · exact ⟨_, List.mem_cons_self, rfl⟩
    · obtain ⟨p, hp, rfl⟩ := ih (start + i.width) hj
      exact ⟨p, List.mem_cons_of_mem _ hp, rfl⟩

/-- Each instruction is one that there was. -/
theorem mem_settled {j : Instr} (hj : j ∈ settled o before i after) :
    ∃ p ∈ placed 0 (before ++ i :: after), (o.settle (size before) p).2 = j := by
  obtain ⟨q, hq, rfl⟩ := exists_placed 0 hj
  rw [placed_settled] at hq
  obtain ⟨p, hp, rfl⟩ := List.mem_map.mp hq
  exact ⟨p, hp, rfl⟩

section Settling

variable {pieces : List Piece} (h : o.Ready (before ++ i :: after) pieces)
  (hpending : i.pending ≠ 0)

include h hpending

/-- The jump that waits has no `EXTENDED_ARG`. -/
theorem Ready.bare_self : o.Bare i :=
  h.bare i (List.mem_append_right _ List.mem_cons_self) hpending

/-- There is room for the `EXTENDED_ARG`, and for those that are still to be inserted. -/
theorem Ready.crossing_fits {p : ℕ × Instr} (hp : p ∈ placed 0 (before ++ i :: after))
    (hc : o.crosses (size before) (o.entry p) = true) :
    Fits (o.due (settled o before i after) (o.moveEntry (size before) 2 (o.entry p)) + 2) p := by
  have hfits := h.fits p hp (jump_of_crosses hc)
  rwa [due_settled (h.bare_self hpending), if_pos hc] at hfits

/-- The byte of the instruction itself does not overflow any more. -/
theorem Ready.low_le :
    i.low + o.due (before ++ i :: after) (o.entry (size before, i)) ≤ 255 := by
  have hbare := h.bare_self hpending
  rcases h.fits _ placed_self hbare.2 with hfits | hfits
  · exact hfits
  · simp only [hbare.1] at hfits
    exact absurd hfits.1 hpending

/-- The jump that waits does not overflow again. -/
theorem Ready.bump_self :
    (o.bump (size before) 2 (size before, i)).2.pending = i.pending ∧
      (o.bump (size before) 2 (size before, i)).2.low +
        o.due (settled o before i after)
          (o.moveEntry (size before) 2 (o.entry (size before, i))) ≤ 255 := by
  have hlow := h.low_le hpending
  rw [due_settled (h.bare_self hpending)] at hlow
  rcases o.bump_cases (size before) 2 (size before, i) with ⟨hc, hbump⟩ | ⟨hc, hbump⟩ <;> rw [hbump]
  · rw [if_pos hc] at hlow
    have hle : i.low + 2 ≤ 255 := by omega
    simp only [raise, hle, if_true, true_and]
    omega
  · exact ⟨rfl, by simpa [hc] using hlow⟩

/-- An instruction is seen where it was moved to. -/
theorem Ready.entry_settle {p : ℕ × Instr} (hp : p ∈ placed 0 (before ++ i :: after)) :
    o.entry (o.settle (size before) p) = o.moveEntry (size before) 2 (o.entry p) := by
  have hlow := (h.wellFormed p.2 (mem_of_placed hp)).low_lt
  have hfits := h.crossing_fits hpending hp
  by_cases heq : p.1 = size before
  · rw [settle, if_pos heq]
    have hentry := entry_bump hfits hlow (by decide)
    simp only [entry, bump_op, length_bump_exts, bump_fst, Entry.mk.injEq, true_and] at hentry
    simp only [entry, moveEntry, extend_op, extend_arg, bump_op, Entry.mk.injEq, true_and]
    refine ⟨?_, hentry⟩
    rw [moveOffset_of_le (by omega)]
    simp only [extend, List.length_append, length_bump_exts, List.length_cons, List.length_nil]
    omega
  · rw [settle_of_ne heq]
    refine entry_moved hfits hlow (by decide) ?_
    rcases placed_disjoint hp placed_self with rfl | hd | hd
    · exact absurd rfl heq
    · exact .inr hd
    · exact .inl (Nat.le_trans (Nat.le_add_right ..) hd)

/-- The bytes are bytes again. -/
theorem Ready.settle_wellFormed {p : ℕ × Instr} (hp : p ∈ placed 0 (before ++ i :: after)) :
    o.WellFormed (o.settle (size before) p).2 := by
  have hbump := (h.wellFormed p.2 (mem_of_placed hp)).bump (h.crossing_fits hpending hp) (by decide)
  by_cases heq : p.1 = size before
  · obtain rfl := placed_start hp heq
    rw [settle_self]
    exact hbump.extend (by rw [bump_op]; exact o.jump_le _ (h.bare_self hpending).2)
  · rw [settle_of_ne heq]
    exact hbump

/-- There is room for what is still to be inserted. -/
theorem Ready.settle_fits {p : ℕ × Instr} (hp : p ∈ placed 0 (before ++ i :: after))
    (hjump : p.2.op ∈ o.hasjrel ++ o.hasjabs) :
    Fits (o.due (settled o before i after) (o.moveEntry (size before) 2 (o.entry p)))
      (o.settle (size before) p) := by
  by_cases heq : p.1 = size before
  · obtain rfl := placed_start hp heq
    rw [settle_self]
    exact .inl (h.bump_self hpending).2
  · have hfits := h.fits p hp hjump
    rw [due_settled (h.bare_self hpending)] at hfits
    rw [settle_of_ne heq]
    exact hfits.bump (le_moveOffset ..)

/-- The pieces are those that are pending again. -/
theorem Ready.settle_pieces {piece : Piece} {rest : List Piece} (hpieces : pieces = piece :: rest)
    (hpiece : piece = ⟨size before, [⟨o.extendedArg, i.pending⟩]⟩) :
    ((rest ++ (placed 0 (before ++ i :: after)).flatMap
      (o.newPiece (size before) 2)).map (moved piece)).Perm
        ((placed 0 (settled o before i after)).flatMap o.owed) := by
  -- what is owed after the arguments were changed, the piece itself included
  have hall : ((piece :: rest ++ (placed 0 (before ++ i :: after)).flatMap
      (o.newPiece (size before) 2)).map (moved piece)).Perm
        ((placed 0 (before ++ i :: after)).flatMap fun p =>
          (o.owed (o.bump (size before) 2 p)).map (moved piece)) := by
    rw [← hpieces]
    refine (((h.pieces.append_right _).trans
      (List.flatMap_append_perm _ o.owed _)).map _).trans ?_
    rw [List.map_flatMap]
    refine List.Perm.flatMap_left _ fun p hp => ?_
    rw [owed_bump (h.crossing_fits hpending hp)]
  have hother : ∀ p : ℕ × Instr, p.1 ≠ size before →
      (o.owed (o.bump (size before) 2 p)).map (moved piece) =
        o.owed (o.settle (size before) p) := by
    intro p hne
    rw [settle_of_ne hne, moved_owed (fun heq => ?_), hpiece, bump_fst]
    · rfl
    · rw [bump_fst, hpiece] at heq
      exact absurd heq hne
  have hself : (o.owed (o.bump (size before) 2 (size before, i))).map (moved piece) = [piece] := by
    simp [owed, (h.bump_self hpending).1, hpending, hpiece, moved]
  have hdone : o.owed (o.settle (size before) (size before, i)) = [] := by
    rw [settle_self]
    exact owed_of_pending_eq rfl
  have hmoved : moved piece piece = piece := by simp [moved]
  rw [placed_settled, List.flatMap_map]
  generalize (placed 0 (before ++ i :: after)).flatMap (o.newPiece (size before) 2) = new at hall ⊢
  rw [placed_append, placed, List.flatMap_append, List.flatMap_cons, Nat.zero_add] at hall ⊢
  rw [hself, List.cons_append, List.map_cons, hmoved] at hall
  rw [hdone, List.nil_append]
  have hbefore : (placed 0 before).flatMap (fun p =>
      (o.owed (o.bump (size before) 2 p)).map (moved piece)) =
        (placed 0 before).flatMap fun p => o.owed (o.settle (size before) p) := by
    refine List.flatMap_congr fun p hp => hother p (Nat.ne_of_lt ?_)
    simpa using lt_of_placed hp
  have hafter : (placed (size before + i.width) after).flatMap (fun p =>
      (o.owed (o.bump (size before) 2 p)).map (moved piece)) =
        (placed (size before + i.width) after).flatMap fun p =>
          o.owed (o.settle (size before) p) :=
    List.flatMap_congr fun p hp => hother p (Nat.ne_of_gt (lt_of_placed_behind hp))
  rw [hbefore, hafter] at hall
  refine (hall.trans ?_).cons_inv
  exact List.perm_middle

/-- The code is in order again after the `EXTENDED_ARG` was inserted. -/
theorem Ready.next {piece : Piece} {rest : List Piece} (hpieces : pieces = piece :: rest)
    (hpiece : piece = ⟨size before, [⟨o.extendedArg, i.pending⟩]⟩) :
    o.Ready (Opcodes.settled o before i after)
      ((rest ++ (placed 0 (before ++ i :: after)).flatMap
        (o.newPiece (size before) 2)).map (moved piece)) where
  wellFormed j hj := by
    obtain ⟨p, hp, rfl⟩ := mem_settled hj
    exact h.settle_wellFormed hpending hp
  even j hj hjump := by
    obtain ⟨p, hp, rfl⟩ := mem_settled hj
    rw [settle_op] at hjump
    rw [settle_low]
    exact bump_even rfl (h.even p.2 (mem_of_placed hp) hjump)
  bare j hj hne := by
    obtain ⟨p, hp, rfl⟩ := mem_settled hj
    by_cases heq : p.1 = size before
    · rw [settle, if_pos heq] at hne
      exact absurd rfl hne
    · rw [settle_of_ne heq] at hne ⊢
      exact bump_pending hne (h.bare p.2 (mem_of_placed hp))
  fits q hq hjump := by
    rw [placed_settled] at hq
    obtain ⟨p, hp, rfl⟩ := List.mem_map.mp hq
    rw [h.entry_settle hpending hp]
    exact h.settle_fits hpending hp (by rwa [settle_op] at hjump)
  pieces := h.settle_pieces hpending hpieces hpiece

end Settling

/-- Where nothing is pending, the listing is that of the instructions. -/
theorem listing_encode {is : List Instr} (hw : ∀ i ∈ is, o.WellFormed i)
    (hpieces : (placed 0 is).flatMap o.owed = []) : o.listing (o.encode is) = o.view is := by
  have ht : Tracks o [] (placed 0 is) := tracks_of_perm (by rw [hpieces])
  rw [listing, listingFrom, unpackOpargs_encode hw ht, List.map_map]
  rfl

end Extending

end Opcodes

end ModifyBytecode

end Ptvsd
