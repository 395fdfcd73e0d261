import Ptvsd.ModifyBytecode
import Mathlib.Data.Nat.Bitwise
import Mathlib.Data.List.Perm.Basic

/-!
# The Instructions of the Bytecode

`_update_label_offsets` reads and changes words. What it does is described here for instructions,
each of them with the `EXTENDED_ARG`s in front of it: which entries `_unpack_opargs` yields
(`unpackOpargs_encode`), and what the loop over the words makes of them (`modifyArgs_encode`).

## Main results

* `unpackOpargs_encode`: **`_unpack_opargs` yields the instructions**, with their full arguments.
* `modifyArgs_encode`: the loop over the words raises the arguments of the jumps that lead across,
  and notes the `EXTENDED_ARG`s that are missing.
-/

namespace Ptvsd

namespace ModifyBytecode

/-- An instruction together with its `EXTENDED_ARG`s. -/
structure Instr where
  /-- The bytes of the `EXTENDED_ARG`s, the nearest first. -/
  exts : List ℕ
  /-- The byte of an `EXTENDED_ARG` that is yet to be inserted, or 0. -/
  pending : ℕ
  op : ℕ
  low : ℕ
  deriving DecidableEq

namespace Instr

/-- The number of bytes that the instruction takes. -/
def width (i : Instr) : ℕ := 2 * i.exts.length + 2

/-- The argument, put together from the bytes. -/
def arg (i : Instr) : ℕ := 256 * i.exts.foldr (fun e high => 256 * high + e) i.pending + i.low

/-- An instruction is never empty. -/
theorem width_pos (i : Instr) : 0 < i.width := Nat.succ_pos _

end Instr

/-- The number of bytes that the instructions take. -/
def size (is : List Instr) : ℕ := (is.map Instr.width).sum

/-- The instructions and where each of them starts. -/
def placed : ℕ → List Instr → List (ℕ × Instr)
  | _, [] => []
  | start, i :: is => (start, i) :: placed (start + i.width) is

section Placed

/-- No instructions take no bytes. -/
@[simp] theorem size_nil : size [] = 0 := rfl

/-- The bytes of the first instruction, and of the others. -/
@[simp] theorem size_cons (i : Instr) (is : List Instr) : size (i :: is) = i.width + size is := rfl

/-- The bytes of both parts. -/
@[simp] theorem size_append (is js : List Instr) : size (is ++ js) = size is + size js := by
  simp [size]

/-- Code consists of words of two bytes. -/
theorem size_even (is : List Instr) : size is % 2 = 0 := by
  induction is with
  | nil => rfl
  | cons i is ih =>
    simp only [size_cons, Instr.width]
    omega

/-- The second part starts where the first one ends. -/
theorem placed_append (start : ℕ) (is js : List Instr) :
    placed start (is ++ js) = placed start is ++ placed (start + size is) js := by
  induction is generalizing start with
  | nil => rfl
  | cons i is ih => simp [placed, ih, Nat.add_assoc]

/-- The same instructions, further behind. -/
theorem placed_add (start d : ℕ) (is : List Instr) :
    placed (start + d) is = (placed start is).map fun p => (p.1 + d, p.2) := by
  induction is generalizing start with
  | nil => rfl
  | cons i is ih =>
    simp only [placed, List.map_cons, List.cons.injEq, true_and]
    rw [← ih, Nat.add_right_comm]

/-- What is placed is one of the instructions. -/
theorem mem_of_placed {start : ℕ} {is : List Instr} {p : ℕ × Instr} (hp : p ∈ placed start is) :
    p.2 ∈ is := by
  induction is generalizing start with
  | nil => cases hp
  | cons i is ih =>
    rcases List.mem_cons.mp hp with rfl | hp
    · exact List.mem_cons_self
    · exact List.mem_cons_of_mem _ (ih hp)

/-- An instruction is within the code. -/
theorem bounds_of_placed {start : ℕ} {is : List Instr} {p : ℕ × Instr}
    (hp : p ∈ placed start is) : start ≤ p.1 ∧ p.1 + p.2.width ≤ start + size is := by
  induction is generalizing start with
  | nil => cases hp
  | cons i is ih =>
    rcases List.mem_cons.mp hp with rfl | hp
    · simp
    · have := ih hp
      simp only [size_cons]
      omega

/-- An instruction starts before the end of the code. -/
theorem lt_of_placed {start : ℕ} {is : List Instr} {p : ℕ × Instr} (hp : p ∈ placed start is) :
    p.1 < start + size is :=
  Nat.lt_of_lt_of_le (Nat.lt_add_of_pos_right p.2.width_pos) (bounds_of_placed hp).2

/-- Two instructions do not overlap. -/
theorem placed_disjoint {start : ℕ} {is : List Instr} {p q : ℕ × Instr}
    (hp : p ∈ placed start is) (hq : q ∈ placed start is) :
    p = q ∨ p.1 + p.2.width ≤ q.1 ∨ q.1 + q.2.width ≤ p.1 := by
  induction is generalizing start with
  | nil => cases hp
  | cons i is ih =>
    rcases List.mem_cons.mp hp with rfl | hp <;> rcases List.mem_cons.mp hq with rfl | hq
    · exact .inl rfl
    · exact .inr (.inl (bounds_of_placed hq).1)
    · exact .inr (.inr (bounds_of_placed hp).1)
    · exact ih hp hq

/-- The starts of the instructions differ. -/
theorem placed_starts (start : ℕ) (is : List Instr) :
    ((placed start is).map Prod.fst).Nodup := by
  induction is generalizing start with
  | nil => exact List.nodup_nil
  | cons i is ih =>
    refine List.nodup_cons.mpr ⟨fun h => ?_, ih _⟩
    obtain ⟨p, hp, hps⟩ := List.mem_map.mp h
    have := (bounds_of_placed hp).1
    have := i.width_pos
    omega

end Placed

namespace Opcodes

variable (o : Opcodes)

/-! ### Encoding -/

/-- The words of an instruction: the farthest `EXTENDED_ARG` comes first. -/
def encodeInstr (i : Instr) : Code :=
  i.exts.reverse.map (⟨o.extendedArg, ·⟩) ++ [⟨i.op, i.low⟩]

/-- The words of all instructions. -/
def encode (is : List Instr) : Code := is.flatMap o.encodeInstr

/-- What `_unpack_opargs` yields for the operation. -/
def entry (p : ℕ × Instr) : Entry :=
  ⟨p.1 + 2 * p.2.exts.length, p.2.op,
    if o.haveArgument ≤ p.2.op then some p.2.arg else none⟩

/-- The piece that is yet to be inserted in front of the instruction. -/
def owed (p : ℕ × Instr) : List Piece :=
  if p.2.pending = 0 then [] else [⟨p.1, [⟨o.extendedArg, p.2.pending⟩]⟩]

/-- The bytes are bytes, and an `EXTENDED_ARG` extends an argument. -/
structure WellFormed (i : Instr) : Prop where
  op_ne : i.op ≠ o.extendedArg
  plain : i.op < o.haveArgument → i.exts = [] ∧ i.pending = 0
  low_lt : i.low < 256
  exts_lt : ∀ e ∈ i.exts, e < 256
  pending_lt : i.pending < 256
  pending_eq : i.exts ≠ [] → i.pending = 0

/-- An instruction takes as many bytes as its width says. -/
@[simp] theorem length_encodeInstr (i : Instr) : 2 * (o.encodeInstr i).length = i.width := by
  simp [encodeInstr, Instr.width, Nat.mul_add]

/-- The code takes as many bytes as its size says. -/
@[simp] theorem length_encode (is : List Instr) : 2 * (o.encode is).length = size is := by
  induction is with
  | nil => rfl
  | cons i is ih =>
    rw [encode, List.flatMap_cons, List.length_append, Nat.mul_add, length_encodeInstr, size_cons]
    exact congrArg _ ih

/-- The words of both parts. -/
@[simp] theorem encode_append (is js : List Instr) :
    o.encode (is ++ js) = o.encode is ++ o.encode js := List.flatMap_append

/-- The words of the first instruction, and of the others. -/
theorem encode_cons (i : Instr) (is : List Instr) :
    o.encode (i :: is) = o.encodeInstr i ++ o.encode is := List.flatMap_cons

/-! ### Reading -/

section Reading

variable {o} {pieces : List Piece}

/-- No piece with an `EXTENDED_ARG` is to be inserted at the offset. -/
theorem pendingArg_eq_zero {offset : ℕ}
    (h : ∀ piece ∈ pieces, ∀ w ∈ piece.code.head?, piece.offset = offset → w.op ≠ o.extendedArg) :
    o.pendingArg pieces offset = 0 := by
  rw [pendingArg]
  generalize 0 = a
  induction pieces generalizing a with
  | nil => rfl
  | cons piece pieces ih =>
    have hrest := fun p hp => h p (List.mem_cons_of_mem _ hp)
    have hfirst := h piece List.mem_cons_self
    rw [List.foldl_cons]
    rcases hc : piece.code with _ | ⟨w, ws⟩
    · exact ih hrest a
    · rw [hc] at hfirst
      have : ¬(piece.offset = offset ∧ w.op = o.extendedArg) := fun hw => hfirst w rfl hw.1 hw.2
      simp only [this, if_false]
      exact ih hrest a

/-- There is one piece for an offset at most, so that `_unpack_opargs` finds the right one. -/
theorem pendingArg_eq {offset v : ℕ} (hnd : (pieces.map Piece.offset).Nodup)
    (h : (⟨offset, [⟨o.extendedArg, v⟩]⟩ : Piece) ∈ pieces) :
    o.pendingArg pieces offset = 256 * v := by
  obtain ⟨ps, qs, rfl⟩ := List.append_of_mem h
  rw [List.map_append, List.map_cons, List.nodup_append] at hnd
  have hqs : ∀ q ∈ qs, q.offset ≠ offset := fun q hq hoff =>
    (List.nodup_cons.mp hnd.2.1).1 (List.mem_map.mpr ⟨q, hq, hoff⟩)
  rw [pendingArg, List.foldl_append, List.foldl_cons]
  simp only [and_self, if_true, Nat.mul_comm 256]
  generalize v * 256 = a
  clear hnd h
  induction qs generalizing a with
  | nil => rfl
  | cons q qs ih =>
    rw [List.foldl_cons]
    rcases hc : q.code with _ | ⟨w, ws⟩
    · exact ih (fun p hp => hqs p (List.mem_cons_of_mem _ hp)) a
    · simp only [hqs q List.mem_cons_self, false_and, if_false]
      exact ih (fun p hp => hqs p (List.mem_cons_of_mem _ hp)) a

/-- A byte, and what is shifted beyond it. -/
theorem or_mul_eq {b : ℕ} (hb : b < 256) (a : ℕ) : b ||| 256 * a = 256 * a + b := by
  rw [Nat.lor_comm]
  exact (Nat.two_pow_add_eq_or_of_lt (i := 8) hb a).symm

/-- The words of an instruction, of which the first are `EXTENDED_ARG`s. -/
theorem unpackOpargs_exts {op low : ℕ} (hop : op ≠ o.extendedArg) (hle : o.haveArgument ≤ op)
    (hlow : low < 256) (rest : Code) {es : List ℕ} (hes : ∀ e ∈ es, e < 256)
    {offset extendedArg high : ℕ}
    (hfirst : (if extendedArg = 0 then o.pendingArg pieces offset else extendedArg) = 256 * high)
    (hnext : ∀ k, 0 < k → k ≤ es.length → o.pendingArg pieces (offset + 2 * k) = 0) :
    (o.unpackOpargs pieces offset extendedArg
        (es.map (⟨o.extendedArg, ·⟩) ++ ⟨op, low⟩ :: rest)).filter (·.op ≠ o.extendedArg) =
      ⟨offset + 2 * es.length, op,
          some (256 * es.foldl (fun high e => 256 * high + e) high + low)⟩ ::
        (o.unpackOpargs pieces (offset + 2 * es.length + 2) 0 rest).filter
          (·.op ≠ o.extendedArg) := by
  induction es generalizing offset extendedArg high with
  | nil =>
    simp only [List.map_nil, List.nil_append, unpackOpargs, hle, if_true, hfirst, or_mul_eq hlow,
      if_neg hop, List.length_nil, List.foldl_nil]
    exact List.filter_cons_of_pos (decide_eq_true hop)
  | cons e es ih =>
    have he : e < 256 := hes e List.mem_cons_self
    have harg : (if (256 * high + e) * 256 = 0 then o.pendingArg pieces (offset + 2)
        else (256 * high + e) * 256) = 256 * (256 * high + e) := by
      have hzero : o.pendingArg pieces (offset + 2) = 0 := hnext 1 Nat.one_pos (by simp)
      rw [hzero]
      split <;> omega
    have hstep := ih (fun x hx => hes x (List.mem_cons_of_mem _ hx)) harg fun k hk hke => by
      have := hnext (k + 1) (Nat.succ_pos k) (Nat.succ_le_succ hke)
      rwa [Nat.mul_succ, ← Nat.add_assoc, Nat.add_right_comm] at this
    rw [List.map_cons, List.cons_append, unpackOpargs]
    simp only [o.haveArgument_le, if_true, hfirst, or_mul_eq he]
    rw [List.filter_cons_of_neg (by simp), hstep]
    simp only [List.length_cons, List.foldl_cons, Nat.mul_add, Nat.mul_one, Nat.add_assoc,
      Nat.add_comm 2]

/-- No piece is to be inserted inside an instruction. -/
def Outside (o : Opcodes) (pieces : List Piece) (ps : List (ℕ × Instr)) : Prop :=
  ∀ p ∈ ps, ∀ k, 0 < k → k ≤ p.2.exts.length → o.pendingArg pieces (p.1 + 2 * k) = 0

/-- The instruction as `_unpack_opargs` sees it. -/
def seen (o : Opcodes) (pieces : List Piece) (p : ℕ × Instr) : ℕ × Instr :=
  (p.1, { p.2 with pending := o.pendingArg pieces p.1 / 256 })

/-- What is pending has been shifted by eight bits. -/
theorem pendingArg_mul (offset : ℕ) :
    256 * (o.pendingArg pieces offset / 256) = o.pendingArg pieces offset := by
  refine Nat.mul_div_cancel' ?_
  rw [pendingArg]
  refine List.foldlRecOn pieces _ (Nat.dvd_zero 256) fun a ha piece _ => ?_
  split
  · exact ha
  · split
    · exact Nat.dvd_mul_left ..
    · exact ha

/-- `_unpack_opargs` yields the instructions, each with what is seen to be pending there; the
induction is on the instructions, with what is in front of an instruction as its `EXTENDED_ARG`s. -/
theorem unpackOpargs_seen {is : List Instr} (hw : ∀ i ∈ is, o.WellFormed i) {start : ℕ}
    (ht : Outside o pieces (placed start is)) :
    (o.unpackOpargs pieces start 0 (o.encode is)).filter (·.op ≠ o.extendedArg) =
      (placed start is).map fun p => o.entry (seen o pieces p) := by
  induction is generalizing start with
  | nil => rfl
  | cons i is ih =>
    have hi : o.WellFormed i := hw i List.mem_cons_self
    have hnext := ht (start, i) List.mem_cons_self
    have hlater : Outside o pieces (placed (start + i.width) is) :=
      fun p hp => ht p (List.mem_cons_of_mem _ hp)
    have hrest := ih (fun j hj => hw j (List.mem_cons_of_mem _ hj)) hlater
    rw [placed, List.map_cons, ← hrest, encode_cons, encodeInstr, entry, seen, Instr.width]
    by_cases hle : o.haveArgument ≤ i.op
    · rw [List.append_assoc, List.singleton_append,
        unpackOpargs_exts hi.op_ne hle hi.low_lt _
          (fun e he => hi.exts_lt e (List.mem_reverse.mp he))
          (by rw [if_pos rfl, pendingArg_mul]) (by simpa using hnext), if_pos hle]
      simp only [List.length_reverse, List.foldl_reverse, Instr.arg, Nat.add_assoc]
    · obtain ⟨hexts, -⟩ := hi.plain (Nat.lt_of_not_le hle)
      simp only [hexts, List.reverse_nil, List.map_nil, List.nil_append, List.singleton_append,
        unpackOpargs, hle, if_false, List.length_nil, Nat.mul_zero, Nat.add_zero, Nat.zero_add]
      rw [List.filter_cons_of_pos (by simpa using hi.op_ne)]

/-- The pieces say what is pending at the instructions. -/
structure Tracks (o : Opcodes) (pieces : List Piece) (ps : List (ℕ × Instr)) : Prop where
  outside : Outside o pieces ps
  pendingArg_eq : ∀ p ∈ ps, o.pendingArg pieces p.1 = 256 * p.2.pending

/-- What is seen to be pending is what is pending. -/
theorem Tracks.seen_eq {ps : List (ℕ × Instr)} (h : Tracks o pieces ps) {p : ℕ × Instr}
    (hp : p ∈ ps) : seen o pieces p = p := by
  rw [seen, h.pendingArg_eq p hp, Nat.mul_div_cancel_left _ (by decide)]

/-- **`_unpack_opargs` yields the instructions**, if the pieces are those that are pending. -/
theorem unpackOpargs_encode {is : List Instr} (hw : ∀ i ∈ is, o.WellFormed i) {start : ℕ}
    (ht : Tracks o pieces (placed start is)) :
    (o.unpackOpargs pieces start 0 (o.encode is)).filter (·.op ≠ o.extendedArg) =
      (placed start is).map o.entry := by
  rw [unpackOpargs_seen hw ht.outside]
  exact List.map_congr_left fun p hp => by rw [ht.seen_eq hp]

end Reading

/-! ### The pieces that are pending -/

section Pending

variable {o} {is : List Instr} {start : ℕ}

/-- One piece is owed where a byte is pending. -/
theorem mem_owed {p : ℕ × Instr} {piece : Piece} :
    piece ∈ o.owed p ↔ p.2.pending ≠ 0 ∧ piece = ⟨p.1, [⟨o.extendedArg, p.2.pending⟩]⟩ := by
  rw [owed]
  split <;> simp_all

/-- Nothing is owed where nothing is pending. -/
theorem owed_of_pending_eq {p : ℕ × Instr} (h : p.2.pending = 0) : o.owed p = [] := if_pos h

/-- Nothing is owed by code in which nothing is pending. -/
theorem flatMap_owed (start : ℕ) (h : ∀ i ∈ is, i.pending = 0) :
    (placed start is).flatMap o.owed = [] :=
  List.flatMap_eq_nil_iff.mpr fun p hp => owed_of_pending_eq (h p.2 (mem_of_placed hp))

/-- At most one piece is pending at an offset. -/
theorem owed_offsets (start : ℕ) (is : List Instr) :
    (((placed start is).flatMap o.owed).map Piece.offset).Nodup := by
  have hsub : (((placed start is).flatMap o.owed).map Piece.offset).Sublist
      ((placed start is).map Prod.fst) := by
    induction placed start is with
    | nil => exact .slnil
    | cons p ps ih =>
      rw [List.flatMap_cons, List.map_append, List.map_cons, owed]
      split
      · exact ih.cons _
      · exact ih.cons_cons _
  exact hsub.nodup (placed_starts start is)

/-- The order of the pieces does not matter. -/
theorem tracks_of_perm {pieces : List Piece}
    (hperm : pieces.Perm ((placed start is).flatMap o.owed)) :
    Tracks o pieces (placed start is) := by
  have hnd : (pieces.map Piece.offset).Nodup :=
    (hperm.map Piece.offset).nodup_iff.mpr (owed_offsets start is)
  -- a piece inside an instruction is the one in front of it
  have hinside : ∀ p ∈ placed start is, ∀ k ≤ p.2.exts.length, ∀ piece ∈ pieces,
      piece.offset = p.1 + 2 * k → k = 0 ∧ p.2.pending ≠ 0 := by
    intro p hp k hk piece hpiece hoff
    obtain ⟨q, hq, hpq⟩ := List.mem_flatMap.mp (hperm.mem_iff.mp hpiece)
    obtain ⟨hne, rfl⟩ := mem_owed.mp hpq
    rcases placed_disjoint hp hq with rfl | h | h <;> simp only [Instr.width] at *
    · exact ⟨by omega, hne⟩
    all_goals omega
  refine ⟨fun p hp k hk hke => pendingArg_eq_zero fun piece hpiece w _ hoff => ?_, fun p hp => ?_⟩
  · exact absurd (hinside p hp k hke piece hpiece hoff).1 (Nat.pos_iff_ne_zero.mp hk)
  · by_cases hpend : p.2.pending = 0
    · rw [hpend]
      refine pendingArg_eq_zero fun piece hpiece w _ hoff => ?_
      exact absurd hpend (hinside p hp 0 (Nat.zero_le _) piece hpiece hoff).2
    · exact pendingArg_eq hnd
        (hperm.mem_iff.mpr (List.mem_flatMap.mpr ⟨p, hp, mem_owed.mpr ⟨hpend, rfl⟩⟩))

end Pending

/-! ### Changing the arguments -/

/-- What the loop makes of an instruction whose argument it raises. -/
def raise (length : ℕ) (i : Instr) : Instr :=
  if i.low + length ≤ 255 then { i with low := i.low + length }
  else match i.exts with
    | [] => { i with pending := (i.low + length) / 256, low := (i.low + length) % 256 }
    | e :: es => { i with exts := (e + 1) :: es, low := (i.low + length) % 256 }

/-- What the loop makes of an instruction when a piece is inserted. -/
def bump (current length : ℕ) (p : ℕ × Instr) : ℕ × Instr :=
  if o.crosses current (o.entry p) then (p.1, raise length p.2) else p

/-- The piece that the loop appends for an instruction. -/
def newPiece (current length : ℕ) (p : ℕ × Instr) : List Piece :=
  if o.crosses current (o.entry p) ∧ 255 < p.2.low + length ∧ p.2.exts = [] then
    [⟨p.1, [⟨o.extendedArg, (p.2.low + length) / 256⟩]⟩]
  else []

/-- The argument can be raised: its `EXTENDED_ARG`, if it has one, is not full, and it is not the
second word of the code. -/
def Raisable (length : ℕ) (p : ℕ × Instr) : Prop :=
  255 < p.2.low + length → ∀ e ∈ p.2.exts.head?, e < 255 ∧ 2 < p.1 + 2 * p.2.exts.length

section Changing

variable {o} {offsets : List ℕ} {current length : ℕ}

/-- The argument fits into its byte, or it gets its first `EXTENDED_ARG`, or the nearest one takes
the carry. -/
theorem raise_cases (length : ℕ) (i : Instr) :
    (i.low + length ≤ 255 ∧ raise length i = { i with low := i.low + length }) ∨
      (255 < i.low + length ∧ i.exts = [] ∧ raise length i =
        { i with pending := (i.low + length) / 256, low := (i.low + length) % 256 }) ∨
      ∃ e es, 255 < i.low + length ∧ i.exts = e :: es ∧ raise length i =
        { i with exts := (e + 1) :: es, low := (i.low + length) % 256 } := by
  by_cases hover : i.low + length ≤ 255
  · exact .inl ⟨hover, if_pos hover⟩
  · rw [raise, if_neg hover]
    cases hexts : i.exts with
    | nil => exact .inr (.inl ⟨Nat.lt_of_not_le hover, rfl, rfl⟩)
    | cons e es => exact .inr (.inr ⟨e, es, Nat.lt_of_not_le hover, rfl, rfl⟩)

/-- What becomes of an instruction: the argument of a jump across is raised, all others stay. -/
theorem bump_cases (current length : ℕ) (p : ℕ × Instr) :
    (o.crosses current (o.entry p) = true ∧ o.bump current length p = (p.1, raise length p.2)) ∨
      (o.crosses current (o.entry p) = false ∧ o.bump current length p = p) := by
  by_cases hc : o.crosses current (o.entry p) = true
  · exact .inl ⟨hc, if_pos hc⟩
  · exact .inr ⟨Bool.eq_false_of_not_eq_true hc, if_neg hc⟩

/-- The operation stays. -/
@[simp] theorem raise_op (i : Instr) : (raise length i).op = i.op := by
  rcases raise_cases length i with ⟨-, hraise⟩ | ⟨-, -, hraise⟩ | ⟨e, es, -, -, hraise⟩ <;>
    rw [hraise]

/-- There are as many `EXTENDED_ARG`s as before. -/
@[simp] theorem length_raise_exts (i : Instr) :
    (raise length i).exts.length = i.exts.length := by
  rcases raise_cases length i with ⟨-, hraise⟩ | ⟨-, -, hraise⟩ | ⟨e, es, -, hexts, hraise⟩ <;>
    rw [hraise]
  rw [hexts, List.length_cons, List.length_cons]

/-- The instruction stays where it is. -/
@[simp] theorem bump_fst (p : ℕ × Instr) : (o.bump current length p).1 = p.1 := by
  rcases o.bump_cases current length p with ⟨-, hbump⟩ | ⟨-, hbump⟩ <;> rw [hbump]

/-- The operation stays. -/
@[simp] theorem bump_op (p : ℕ × Instr) : (o.bump current length p).2.op = p.2.op := by
  rcases o.bump_cases current length p with ⟨-, hbump⟩ | ⟨-, hbump⟩ <;> rw [hbump]
  exact raise_op p.2

/-- There are as many `EXTENDED_ARG`s as before. -/
@[simp] theorem length_bump_exts (p : ℕ × Instr) :
    (o.bump current length p).2.exts.length = p.2.exts.length := by
  rcases o.bump_cases current length p with ⟨-, hbump⟩ | ⟨-, hbump⟩ <;> rw [hbump]
  exact length_raise_exts p.2

/-- The instruction takes as many bytes as before. -/
@[simp] theorem bump_width (p : ℕ × Instr) :
    (o.bump current length p).2.width = p.2.width := by
  simp [Instr.width]

/-- The instructions stay where they are. -/
theorem placed_bump (start : ℕ) (is : List Instr) :
    placed start ((placed start is).map fun p => (o.bump current length p).2) =
      (placed start is).map (o.bump current length) := by
  induction is generalizing start with
  | nil => rfl
  | cons i is ih =>
    simp only [placed, List.map_cons, bump_width, ih, List.cons.injEq, and_true]
    exact Prod.ext (bump_fst (start, i)).symm rfl

/-- A relative jump leads across from the front only, an absolute one from anywhere. -/
theorem crosses_iff {e : Entry} :
    o.crosses current e = true ↔ ∃ target, o.label e = some target ∧ current < target ∧
      (e.op ∈ o.hasjrel → e.offset < current) := by
  rw [crosses]
  cases o.label e with
  | none => simp
  | some target =>
    simp only [Option.any_some, Bool.and_eq_true, Bool.or_eq_true, decide_eq_true_eq,
      Option.some.injEq, exists_eq_left', and_congr_right_iff]
    exact fun _ => (Decidable.imp_iff_not_or).symm

/-- Only jumps lead anywhere. -/
theorem jump_of_label {e : Entry} {target : ℕ} (h : o.label e = some target) :
    e.op ∈ o.hasjrel ++ o.hasjabs := by
  by_contra hno
  rw [List.mem_append, not_or] at hno
  obtain ⟨offset, op, arg⟩ := e
  cases arg <;> simp [label, hno.1, hno.2] at h

/-- Only jumps lead across. -/
theorem jump_of_crosses {e : Entry} (h : o.crosses current e = true) :
    e.op ∈ o.hasjrel ++ o.hasjabs :=
  let ⟨_, htarget, _⟩ := crosses_iff.mp h
  jump_of_label htarget

/-- What leads across has an argument. -/
theorem haveArgument_le_of_crosses {e : Entry} (h : o.crosses current e = true) :
    o.haveArgument ≤ e.op := o.jump_le e.op (jump_of_crosses h)

/-- The loop leaves the `EXTENDED_ARG`s alone until it gets to the operation. -/
theorem modifyArgs_exts (inserted : List Piece) (rest : Code) {es : List ℕ} {offset : ℕ}
    {passed : Code} (h : ∀ k < es.length, offset + 2 * k ∉ offsets) :
    o.modifyArgs offsets length offset passed inserted
        (es.map (⟨o.extendedArg, ·⟩) ++ rest) =
      o.modifyArgs offsets length (offset + 2 * es.length)
        (es.reverse.map (⟨o.extendedArg, ·⟩) ++ passed) inserted rest := by
  induction es generalizing offset passed with
  | nil => rfl
  | cons e es ih =>
    have hnot : offset ∉ offsets := h 0 (Nat.succ_pos _)
    have hrest := @ih (offset + 2) (⟨o.extendedArg, e⟩ :: passed) fun k hk => by
      have := h (k + 1) (Nat.succ_lt_succ hk)
      rwa [Nat.mul_succ, ← Nat.add_assoc, Nat.add_right_comm] at this
    rw [List.map_cons, List.cons_append, modifyArgs, modifyArg, if_neg (fun hin => hnot hin.1)]
    simp only [hrest, List.length_cons, Nat.mul_succ, Nat.add_assoc offset, Nat.add_comm 2]
    simp

/-- The word of the operation. -/
theorem modifyArg_op (inserted : List Piece) {passed : Code} {p : ℕ × Instr}
    (hpassed : ∀ w ∈ passed.head?, w.op ≠ o.extendedArg)
    (hmem : p.1 + 2 * p.2.exts.length ∈ offsets ↔ o.crosses current (o.entry p) = true)
    (hraise : o.crosses current (o.entry p) = true → Raisable length p) :
    o.modifyArg offsets length (p.1 + 2 * p.2.exts.length)
        (p.2.exts.map (⟨o.extendedArg, ·⟩) ++ passed) inserted ⟨p.2.op, p.2.low⟩ =
      ((o.encodeInstr (o.bump current length p).2).reverse ++ passed,
        inserted ++ o.newPiece current length p) := by
  rw [modifyArg]
  by_cases hc : o.crosses current (o.entry p) = true
  · have hle : o.haveArgument ≤ p.2.op := haveArgument_le_of_crosses hc
    rw [if_pos ⟨hmem.mpr hc, hle⟩]
    by_cases hover : p.2.low + length ≤ 255
    · simp [bump, hc, raise, hover, encodeInstr, newPiece, Nat.not_lt.mpr hover]
    · simp only [if_neg hover]
      rcases hexts : p.2.exts with _ | ⟨e, es⟩
      · -- a new `EXTENDED_ARG` is needed, whether or not there is a word in front
        have hnew : o.newPiece current length p =
            [⟨p.1, [⟨o.extendedArg, (p.2.low + length) / 256⟩]⟩] := by
          simp [newPiece, hc, hexts, Nat.lt_of_not_le hover]
        rcases passed with _ | ⟨w, passed⟩
        · simp [bump, hc, raise, hover, hexts, encodeInstr, hnew]
        · have hwop : w.op ≠ o.extendedArg := hpassed w rfl
          simp [bump, hc, raise, hover, hexts, encodeInstr, hnew, hwop]
      · -- the nearest `EXTENDED_ARG` takes the carry
        obtain ⟨hfull, hfirst⟩ := hraise hc (Nat.lt_of_not_le hover) e (by simp [hexts])
        rw [hexts] at hfirst
        simp only [List.map_cons, List.cons_append]
        rw [if_pos ⟨hfirst, trivial, hfull⟩]
        simp [bump, hc, raise, hover, hexts, encodeInstr, newPiece]
  · rw [if_neg (fun h => hc (hmem.mp h.1))]
    simp [bump, hc, encodeInstr, newPiece]

/-- **The loop over the words raises the jumps that lead across**, and adds the pieces that are
needed; the induction is on the instructions, with the words that have been passed in front of them.
-/
theorem modifyArgs_encode {is : List Instr} (hw : ∀ i ∈ is, o.WellFormed i) {start : ℕ}
    {passed : Code} (hpassed : ∀ w ∈ passed.head?, w.op ≠ o.extendedArg) (inserted : List Piece)
    (hmem : ∀ n, start ≤ n → (n ∈ offsets ↔
      ∃ p ∈ placed start is, o.crosses current (o.entry p) = true ∧ (o.entry p).offset = n))
    (hraise : ∀ p ∈ placed start is, o.crosses current (o.entry p) = true → Raisable length p) :
    o.modifyArgs offsets length start passed inserted (o.encode is) =
      (passed.reverse ++ o.encode ((placed start is).map fun p => (o.bump current length p).2),
        inserted ++ (placed start is).flatMap (o.newPiece current length)) := by
  induction is generalizing start passed inserted with
  | nil => simp [encode, placed, modifyArgs]
  | cons i is ih =>
    have hi : o.WellFormed i := hw i List.mem_cons_self
    have hlater : ∀ p ∈ placed (start + i.width) is, start + i.width ≤ (o.entry p).offset :=
      fun p hp => Nat.le_add_right_of_le (bounds_of_placed hp).1
    have hexts : ∀ k < i.exts.reverse.length, start + 2 * k ∉ offsets := by
      intro k hk hin
      rw [List.length_reverse] at hk
      obtain ⟨p, hp, -, hoff⟩ := (hmem _ (Nat.le_add_right ..)).mp hin
      rcases List.mem_cons.mp hp with rfl | hp
      · change start + 2 * i.exts.length = start + 2 * k at hoff
        omega
      · have := hlater p hp
        simp only [Instr.width] at this
        omega
    have hop : (start, i).1 + 2 * (start, i).2.exts.length ∈ offsets ↔
        o.crosses current (o.entry (start, i)) = true := by
      refine (hmem _ (Nat.le_add_right ..)).trans ⟨?_, fun hc => ⟨_, List.mem_cons_self, hc, rfl⟩⟩
      rintro ⟨p, hp, hc, hoff⟩
      rcases List.mem_cons.mp hp with rfl | hp
      · exact hc
      · have := hlater p hp
        change (o.entry p).offset = start + 2 * i.exts.length at hoff
        simp only [Instr.width] at this
        omega
    have hlast : ∀ w ∈ ((o.encodeInstr (o.bump current length (start, i)).2).reverse ++
        passed).head?, w.op ≠ o.extendedArg := by
      simpa [encodeInstr] using hi.op_ne
    have hmem' : ∀ n, start + i.width ≤ n → (n ∈ offsets ↔ ∃ p ∈ placed (start + i.width) is,
        o.crosses current (o.entry p) = true ∧ (o.entry p).offset = n) := by
      intro n hn
      refine (hmem n (by omega)).trans ⟨?_, fun ⟨p, hp, h⟩ => ⟨p, List.mem_cons_of_mem _ hp, h⟩⟩
      rintro ⟨p, hp, hc, hoff⟩
      rcases List.mem_cons.mp hp with rfl | hp
      · simp only [entry, Instr.width] at hoff hn
        omega
      · exact ⟨p, hp, hc, hoff⟩
    have hrest := ih (fun j hj => hw j (List.mem_cons_of_mem _ hj)) hlast
      (inserted ++ o.newPiece current length (start, i)) hmem'
      fun p hp => hraise p (List.mem_cons_of_mem _ hp)
    have hword := modifyArg_op inserted hpassed hop (hraise _ List.mem_cons_self)
    rw [encode_cons, encodeInstr, List.append_assoc, List.singleton_append,
      modifyArgs_exts _ _ hexts, List.length_reverse, List.reverse_reverse, modifyArgs, hword,
      Nat.add_assoc]
    refine hrest.trans ?_
    simp [placed, encode_cons]

end Changing

end Opcodes

end ModifyBytecode

end Ptvsd
