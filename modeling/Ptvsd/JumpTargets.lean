import Ptvsd.Instructions
import Mathlib.Data.List.Count

/-!
# Where Jumps Lead

A piece that is inserted moves what is behind it. `_update_label_offsets` adds the length of the
piece to the arguments of the jumps that lead across its place, and so a jump leads to the
instruction that it has led to (`label_moveEntry`, `operand_moveEntry`), and across the same ones
(`crosses_moveEntry`).

An argument grows by all that is inserted where its jump leads across. `Fits` says that the code can
cope with that: an argument of one byte may overflow once, since the `EXTENDED_ARG` that is inserted
then is a new one each time, and the `EXTENDED_ARG` of a longer one has to have room for the carry.

## Main results

* `label_moveEntry`, `operand_moveEntry`: **a jump leads to the instruction that it has led to**.
* `crosses_moveEntry`: it leads across the same ones.
* `entry_moved`: an instruction and everything behind it are moved, if there is room.
-/

namespace Ptvsd

namespace ModifyBytecode

namespace Opcodes

variable (o : Opcodes)

/-! ### What moves -/

/-- Where an instruction is after something was inserted. -/
def moveOffset (current length offset : ℕ) : ℕ :=
  if current ≤ offset then offset + length else offset

/-- What a jump leads to after something was inserted. -/
def moveTarget (current length target : ℕ) : ℕ :=
  if current < target then target + length else target

/-- An entry after something was inserted. -/
def moveEntry (current length : ℕ) (e : Entry) : Entry :=
  ⟨moveOffset current length e.offset, e.op,
    e.arg.map fun arg => if o.crosses current e then arg + length else arg⟩

section Moving

variable {o} {current length : ℕ}

/-- An offset behind the place of the code is moved. -/
theorem moveOffset_of_le {offset : ℕ} (h : current ≤ offset) :
    moveOffset current length offset = offset + length := if_pos h

/-- An offset in front of it stays. -/
theorem moveOffset_of_lt {offset : ℕ} (h : offset < current) :
    moveOffset current length offset = offset := if_neg (Nat.not_le.mpr h)

/-- No offset is moved to the front. -/
theorem le_moveOffset (current length offset : ℕ) : offset ≤ moveOffset current length offset := by
  rcases Nat.lt_or_ge offset current with h | h
  · rw [moveOffset_of_lt h]
  · rw [moveOffset_of_le h]
    exact Nat.le_add_right ..

/-- The arguments are changed in such a way that jumps lead to where they led. -/
theorem label_moveEntry (e : Entry) :
    o.label (o.moveEntry current length e) = (o.label e).map (moveTarget current length) := by
  obtain ⟨offset, op, arg⟩ := e
  cases arg with
  | none => rfl
  | some arg =>
    simp only [label, moveEntry, Option.map_some, Option.bind_some, moveOffset]
    by_cases hr : op ∈ o.hasjrel
    · have hc : o.crosses current ⟨offset, op, some arg⟩ = true ↔
          current < offset + 2 + arg ∧ offset < current := by
        simp [crosses_iff, label, hr]
      simp only [hr, if_true, Option.map_some, Option.some.injEq, hc, moveTarget]
      split <;> split <;> split <;> omega
    · by_cases ha : op ∈ o.hasjabs
      · have hc : o.crosses current ⟨offset, op, some arg⟩ = true ↔ current < arg := by
          simp [crosses_iff, label, hr, ha]
        simp only [hr, ha, if_true, if_false, Option.map_some, hc, moveTarget]
      · simp [hr, ha]

/-- A jump leads across the same instructions. -/
theorem crosses_moveEntry (offset : ℕ) (e : Entry) :
    o.crosses (moveOffset current length offset) (o.moveEntry current length e) =
      o.crosses offset e := by
  rw [Bool.eq_iff_iff, crosses_iff, crosses_iff, label_moveEntry]
  cases o.label e with
  | none => simp
  | some target =>
    simp only [Option.map_some, Option.some.injEq, exists_eq_left', moveEntry]
    refine and_congr ?_ (imp_congr Iff.rfl ?_)
    · rw [moveOffset, moveTarget]
      split <;> split <;> omega
    · rw [moveOffset, moveOffset]
      split <;> split <;> omega

/-- A jump leads across what is inserted if it leads across the place. -/
theorem crosses_inserted {d : ℕ} (hd : d < length) (e : Entry) :
    o.crosses (current + d) (o.moveEntry current length e) = o.crosses current e := by
  rw [Bool.eq_iff_iff, crosses_iff, crosses_iff, label_moveEntry]
  cases o.label e with
  | none => simp
  | some target =>
    simp only [Option.map_some, Option.some.injEq, exists_eq_left', moveEntry, moveOffset,
      moveTarget]
    refine and_congr ?_ (imp_congr Iff.rfl ?_)
    · split <;> omega
    · split <;> omega

/-! ### What the code is made of -/

/-- The number of instructions in front of an offset, by the operations of the words. -/
theorem index_eq (code : Code) (offset : ℕ) :
    o.index code offset =
      ((code.map Word.op).take (offset / 2)).countP (· ≠ o.extendedArg) := by
  rw [index, ← List.map_take, List.countP_map]
  rfl

variable {code code' : Code} {front added back : List ℕ}

/-- What is behind the place comes after what was inserted. -/
theorem index_inserted_of_le (hcode : code.map Word.op = front ++ back)
    (hcode' : code'.map Word.op = front ++ (added ++ back)) {offset : ℕ}
    (hle : 2 * front.length ≤ offset) :
    o.index code' (offset + 2 * added.length) =
      o.index code offset + added.countP (· ≠ o.extendedArg) := by
  obtain ⟨n, hn⟩ : ∃ n, offset / 2 = front.length + n := ⟨offset / 2 - front.length, by omega⟩
  have hn' : (offset + 2 * added.length) / 2 = front.length + (added.length + n) := by omega
  rw [index_eq, index_eq, hcode, hcode', hn, hn', List.take_length_add_append,
    List.take_length_add_append, List.take_length_add_append, List.countP_append,
    List.countP_append, List.countP_append]
  omega

/-- In front of the inserted code, the instructions are counted as before. -/
theorem index_inserted_of_ge (hcode : code.map Word.op = front ++ back)
    (hcode' : code'.map Word.op = front ++ (added ++ back)) {offset : ℕ}
    (hle : offset ≤ 2 * front.length) : o.index code' offset = o.index code offset := by
  rw [index_eq, index_eq, hcode, hcode', List.take_append_of_le_length (by omega),
    List.take_append_of_le_length (by omega)]

end Moving

/-! ### How much an argument may grow -/

/-- A jump without an `EXTENDED_ARG`, so that one may have to be inserted. -/
def Bare (i : Instr) : Prop := i.exts = [] ∧ i.op ∈ o.hasjrel ++ o.hasjabs

instance (i : Instr) : Decidable (o.Bare i) := inferInstanceAs (Decidable (_ ∧ _))

/-- The number of bytes that may be inserted where the jump leads across. -/
def due (is : List Instr) (e : Entry) : ℕ :=
  2 * (placed 0 is).countP fun p => o.Bare p.2 && o.crosses p.1 e

/-- The argument of a jump may grow by so much: either its byte has room for that, or the first time
that it overflows it gets its first `EXTENDED_ARG`, or the nearest one has room for the carries. -/
def Fits (room : ℕ) (p : ℕ × Instr) : Prop :=
  p.2.low + room ≤ 255 ∨ match p.2.exts with
    | [] => p.2.pending = 0 ∧ p.2.low + room < 512
    | e :: _ => 2 < p.1 + 2 * p.2.exts.length ∧ 256 * e + p.2.low + room < 65536

section Growing

variable {o} {current length room : ℕ} {p : ℕ × Instr}

/-- Where there is room, the argument can be raised. -/
theorem Fits.raisable (h : Fits (room + length) p) : Raisable length p := by
  intro hover e he
  rcases h with h | h
  · omega
  · cases hexts : p.2.exts with
    | nil => simp [hexts] at he
    | cons e' es =>
      simp only [hexts, List.head?_cons, Option.mem_some_iff] at h he
      subst he
      exact ⟨by omega, h.1⟩

/-- A jump that has to get an `EXTENDED_ARG` does not wait for one already. -/
theorem Fits.pending_eq (h : Fits (room + length) p) (hover : 255 < p.2.low + length)
    (hexts : p.2.exts = []) : p.2.pending = 0 := by
  rcases h with h | h
  · omega
  · rw [hexts] at h
    exact h.1

/-- What has been raised has used up some of the room. -/
theorem Fits.raise (h : Fits (room + length) p) {start : ℕ} (hstart : p.1 ≤ start) :
    Fits room (start, Opcodes.raise length p.2) := by
  rcases raise_cases length p.2 with ⟨hle, hraise⟩ | ⟨hover, hexts, hraise⟩ |
    ⟨e, es, hover, hexts, hraise⟩ <;> rw [hraise]
  · rcases h with h | h
    · exact .inl (by simp only; omega)
    · refine .inr ?_
      cases hexts : p.2.exts with
      | nil =>
        rw [hexts] at h
        exact ⟨h.1, by simp only; omega⟩
      | cons e es =>
        rw [hexts] at h
        exact ⟨Nat.lt_of_lt_of_le h.1 (Nat.add_le_add_right hstart _), by simp only; omega⟩
  · rcases h with h | h
    · omega
    · rw [hexts] at h
      exact .inl (by simp only; omega)
  · rcases h with h | h
    · omega
    · rw [hexts] at h
      exact .inr ⟨Nat.lt_of_lt_of_le h.1 (Nat.add_le_add_right hstart _), by simp only; omega⟩

/-- An instruction that is moved to the back has the room that it had. -/
theorem Fits.mono (h : Fits room p) {start : ℕ} (hstart : p.1 ≤ start) :
    Fits room (start, p.2) := by
  obtain ⟨_, ⟨exts, pending, op, low⟩⟩ := p
  rcases h with h | h
  · exact .inl h
  · cases exts with
    | nil => exact .inr h
    | cons e es => exact .inr ⟨Nat.lt_of_lt_of_le h.1 (Nat.add_le_add_right hstart _), h.2⟩

/-- What inserting uses up of the room. -/
theorem Fits.bump
    (h : Fits (room + if o.crosses current (o.entry p) then length else 0) p) {start : ℕ}
    (hstart : p.1 ≤ start) :
    Fits room (start, (o.bump current length p).2) := by
  rcases o.bump_cases current length p with ⟨hc, hbump⟩ | ⟨hc, hbump⟩ <;> rw [hbump]
  · rw [if_pos hc] at h
    exact h.raise hstart
  · rw [hc, if_neg Bool.false_ne_true] at h
    exact h.mono hstart

/-- The argument has grown, over all of its bytes. -/
theorem arg_raise {i : Instr} (hlow : i.low < 256) (hlength : length ≤ 256)
    (hpending : 255 < i.low + length → i.exts = [] → i.pending = 0) :
    (raise length i).arg = i.arg + length := by
  rcases raise_cases length i with ⟨-, hraise⟩ | ⟨hover, hexts, hraise⟩ |
    ⟨e, es, hover, hexts, hraise⟩ <;> rw [hraise, Instr.arg, Instr.arg]
  · simp only [Nat.add_assoc]
  · simp only [hexts, hpending hover hexts, List.foldr_nil]
    omega
  · simp only [hexts, List.foldr_cons]
    omega

/-- The entry of an instruction whose argument was changed. -/
theorem entry_bump
    (h : o.crosses current (o.entry p) = true → Fits (room + length) p)
    (hlow : p.2.low < 256) (hlength : length ≤ 256) :
    o.entry (o.bump current length p) = { o.entry p with
      arg := (o.entry p).arg.map fun arg =>
        if o.crosses current (o.entry p) then arg + length else arg } := by
  by_cases hc : o.crosses current (o.entry p) = true
  · have harg := arg_raise hlow hlength (h hc).pending_eq
    rw [bump, if_pos hc]
    simp only [hc, if_true]
    simp only [entry, raise_op, length_raise_exts, harg]
    split <;> rfl
  · simp [bump, hc]

/-- Whether an instruction is bare depends on its operation and its `EXTENDED_ARG`s only. -/
theorem bare_congr {i j : Instr} (hexts : j.exts.length = i.exts.length) (hop : j.op = i.op) :
    o.Bare j ↔ o.Bare i := by
  simp only [Bare, hop, ← List.length_eq_zero_iff, hexts]

/-- A jump does not get its `EXTENDED_ARG` at once. -/
theorem bare_bump : o.Bare (o.bump current length p).2 ↔ o.Bare p.2 :=
  bare_congr (length_bump_exts p) (bump_op p)

/-! ### Well-formed instructions -/

/-- The bytes of an instruction are bytes, also after the carry. -/
theorem WellFormed.raise {i : Instr} (h : o.WellFormed i) {start : ℕ}
    (hraise : Raisable length (start, i)) (hle : o.haveArgument ≤ i.op) (hlength : length ≤ 256) :
    o.WellFormed (Opcodes.raise length i) where
  op_ne := by
    rw [raise_op]
    exact h.op_ne
  plain := by
    rw [raise_op]
    exact fun hlt => absurd hle (Nat.not_le.mpr hlt)
  low_lt := by
    rcases raise_cases length i with ⟨hle, hr⟩ | ⟨-, -, hr⟩ | ⟨e, es, -, -, hr⟩ <;> rw [hr]
    · exact Nat.lt_succ_of_le hle
    all_goals exact Nat.mod_lt _ (by decide)
  exts_lt := by
    rcases raise_cases length i with ⟨-, hr⟩ | ⟨-, -, hr⟩ | ⟨e, es, hover, hexts, hr⟩ <;> rw [hr]
    · exact h.exts_lt
    · exact h.exts_lt
    · have hfull := (hraise hover e (by simp [hexts])).1
      intro x hx
      rcases List.mem_cons.mp hx with rfl | hx
      · exact Nat.succ_lt_succ hfull
      · exact h.exts_lt x (by simp [hexts, hx])
  pending_lt := by
    rcases raise_cases length i with ⟨-, hr⟩ | ⟨-, -, hr⟩ | ⟨e, es, -, -, hr⟩ <;> rw [hr]
    · exact h.pending_lt
    · have := h.low_lt
      simp only
      omega
    · exact h.pending_lt
  pending_eq := by
    rcases raise_cases length i with ⟨-, hr⟩ | ⟨-, hexts, hr⟩ | ⟨e, es, -, hexts, hr⟩ <;> rw [hr]
    · exact h.pending_eq
    · exact fun hne => absurd hexts hne
    · exact fun _ => h.pending_eq (by simp [hexts])

/-- The bytes of every instruction are bytes. -/
theorem WellFormed.bump (h : o.WellFormed p.2)
    (hfits : o.crosses current (o.entry p) = true → Fits (room + length) p)
    (hlength : length ≤ 256) : o.WellFormed (o.bump current length p).2 := by
  rcases o.bump_cases current length p with ⟨hc, hbump⟩ | ⟨-, hbump⟩ <;> rw [hbump]
  · exact h.raise (hfits hc).raisable (haveArgument_le_of_crosses hc) hlength
  · exact h

/-- What is pending after the arguments were changed. -/
theorem owed_bump
    (hfits : o.crosses current (o.entry p) = true → Fits (room + length) p) :
    o.owed (o.bump current length p) = o.owed p ++ o.newPiece current length p := by
  rcases o.bump_cases current length p with ⟨hc, hbump⟩ | ⟨hc, hbump⟩ <;> rw [hbump, newPiece]
  · rw [hc]
    rcases raise_cases length p.2 with ⟨hle, hraise⟩ | ⟨hover, hexts, hraise⟩ |
      ⟨e, es, -, hexts, hraise⟩ <;> rw [hraise]
    · simp [owed, Nat.not_lt.mpr hle]
    · have hzero := (hfits hc).pending_eq hover hexts
      have hne : (p.2.low + length) / 256 ≠ 0 := by omega
      simp [owed, hzero, hne, hover, hexts]
    · simp [owed, hexts]
  · simp [hc]

/-- The lowest byte stays even when it is raised. -/
theorem raise_even {i : Instr} (hlength : length % 2 = 0) (h : i.low % 2 = 0) :
    (raise length i).low % 2 = 0 := by
  rcases raise_cases length i with ⟨-, hraise⟩ | ⟨-, -, hraise⟩ | ⟨e, es, -, -, hraise⟩ <;>
    rw [hraise] <;> simp only <;> omega

/-- The lowest byte of every instruction stays even. -/
theorem bump_even (hlength : length % 2 = 0) (h : p.2.low % 2 = 0) :
    (o.bump current length p).2.low % 2 = 0 := by
  rcases o.bump_cases current length p with ⟨-, hbump⟩ | ⟨-, hbump⟩ <;> rw [hbump]
  · exact raise_even hlength h
  · exact h

/-- An instruction and everything behind it are moved. -/
theorem entry_moved (hfits : o.crosses current (o.entry p) = true → Fits (room + length) p)
    (hlow : p.2.low < 256) (hlength : length ≤ 256)
    (hp : current ≤ p.1 ∨ p.1 + p.2.width ≤ current) :
    o.entry (moveOffset current length p.1, (o.bump current length p).2) =
      o.moveEntry current length (o.entry p) := by
  have hoffset : moveOffset current length p.1 + 2 * p.2.exts.length =
      moveOffset current length (p.1 + 2 * p.2.exts.length) := by
    simp only [Instr.width] at hp
    rcases hp with hp | hp
    · rw [moveOffset_of_le hp, moveOffset_of_le (by omega), Nat.add_right_comm]
    · rw [moveOffset_of_lt (by omega), moveOffset_of_lt (by omega)]
  have := entry_bump hfits hlow hlength
  simp only [entry, bump_op, length_bump_exts, bump_fst, Entry.mk.injEq, true_and] at this
  simp only [entry, moveEntry, bump_op, length_bump_exts, hoffset, Entry.mk.injEq, true_and]
  exact this

end Growing

end Opcodes

end ModifyBytecode

end Ptvsd
