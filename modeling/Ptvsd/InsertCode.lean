import Ptvsd.ExtendedArgs

/-!
# Inserting Code

The first round of the loop in `_update_label_offsets` inserts the code, and the others the
`EXTENDED_ARG`s that are needed then. `Insertable` is what the code relies on.

## Main results

* `updateLabelOffsets_listing`: the loop ends, and the instructions are those there were, with the
  inserted ones between them; each jump leads to the instruction that it led to.
-/

namespace Ptvsd

namespace ModifyBytecode

/-- An operand after `count` instructions were inserted behind `first` others. -/
def Operand.shift (first count : ℕ) : Operand → Operand
  | .target index straight => .target (if first < index then index + count else index) straight
  | operand => operand

/-- An instruction after `count` instructions were inserted behind `first` others. -/
def shift (first count : ℕ) (i : ℕ × Operand) : ℕ × Operand :=
  (i.1, i.2.shift first count)

namespace Opcodes

variable (o : Opcodes)

/-! ### Inserting the code -/

/-- Where an instruction is, and what has become of it, when the code was inserted. -/
def place (current length : ℕ) (p : ℕ × Instr) : ℕ × Instr :=
  (moveOffset current length p.1, (o.bump current length p).2)

/-- The instructions after the code was inserted. -/
def inserted (before added after : List Instr) : List Instr :=
  o.bumpAll (size before) (size added) 0 before ++
    (added ++ o.bumpAll (size before) (size added) (size before) after)

/-- The number of bytes that inserting the code may add where a jump leads across its place: the
code itself, and the `EXTENDED_ARG`s of its jumps. -/
def addedRoom (before added : List Instr) (e : Entry) : ℕ :=
  if o.crosses (size before) e then size added + 2 * added.countP (fun i => o.Bare i) else 0

/-- The code can be inserted between the instructions. -/
structure Insertable (before added after : List Instr) : Prop where
  wellFormed : ∀ i ∈ before ++ (added ++ after), o.WellFormed i
  pending_eq : ∀ i ∈ before ++ (added ++ after), i.pending = 0
  even : ∀ i ∈ before ++ (added ++ after), i.op ∈ o.hasjrel ++ o.hasjabs → i.low % 2 = 0
  /-- Jumps lead to instructions. -/
  leads : ∀ p ∈ placed 0 (before ++ after), ∀ target, o.label (o.entry p) = some target →
    ∃ front back, before ++ after = front ++ back ∧ target = size front
  /-- The jumps of the inserted code do not lead behind its beginning. -/
  leads_added : ∀ p ∈ placed (size before) added, ∀ target, o.label (o.entry p) = some target →
    target ≤ size before
  fits : ∀ p ∈ placed 0 (before ++ after), p.2.op ∈ o.hasjrel ++ o.hasjabs →
    Fits (o.due (before ++ after) (o.entry p) + o.addedRoom before added (o.entry p)) p
  fits_added : ∀ p ∈ placed (size before) added, p.2.op ∈ o.hasjrel ++ o.hasjabs →
    Fits (o.due (before ++ after) (o.entry p)) p
  added_ne : added ≠ []
  after_ne : after ≠ []
  size_le : size added ≤ 256
  /-- If the instruction that the code is inserted in front of is an absolute jump, it is not taken
  for one with an `EXTENDED_ARG`, and needs none. -/
  first : ∀ i ∈ after.head?, i.op ∈ o.hasjabs → (∀ j ∈ added.head?, j.exts = []) ∧
    (o.crosses (size before) (o.entry (size before, i)) = true → i.exts = [] →
      i.low + size added ≤ 255)

section Inserting

variable {o} {before added after : List Instr}

/-- Each instruction is one operation. -/
theorem countP_ops {is : List Instr} (hw : ∀ i ∈ is, o.WellFormed i) :
    ((o.encode is).map Word.op).countP (· ≠ o.extendedArg) = is.length := by
  induction is with
  | nil => rfl
  | cons i is ih =>
    have hi := (hw i List.mem_cons_self).op_ne
    rw [encode_cons, List.map_append, List.countP_append, ops_encodeInstr, List.countP_append,
      ih fun j hj => hw j (List.mem_cons_of_mem _ hj)]
    simp [List.countP_replicate, hi, Nat.add_comm]

/-- The operations of both parts. -/
theorem ops_append (is js : List Instr) :
    (o.encode (is ++ js)).map Word.op =
      (o.encode is).map Word.op ++ (o.encode js).map Word.op := by
  rw [encode_append, List.map_append]

/-- There is one operation for each word. -/
theorem length_ops (is : List Instr) : 2 * ((o.encode is).map Word.op).length = size is := by
  rw [List.length_map, length_encode]

/-- The operations of the first part. -/
theorem take_ops (front back : List Instr) :
    ((o.encode (front ++ back)).map Word.op).take (size front / 2) =
      (o.encode front).map Word.op := by
  rw [ops_append, List.take_left']
  rw [← length_ops (o := o), Nat.mul_div_cancel_left _ (by decide)]

/-- The number of instructions in front of another one. -/
theorem index_size {is front back : List Instr} (hsplit : is = front ++ back)
    (hw : ∀ i ∈ is, o.WellFormed i) : o.index (o.encode is) (size front) = front.length := by
  subst hsplit
  rw [index_eq, take_ops, countP_ops fun i hi => hw i (List.mem_append_left _ hi)]

/-- Instructions are never empty. -/
theorem size_pos {is : List Instr} (hne : is ≠ []) : 0 < size is := by
  obtain ⟨i, is, rfl⟩ := List.exists_cons_of_ne_nil hne
  exact Nat.lt_of_lt_of_le i.width_pos (Nat.le_add_right ..)

/-- What is longer in bytes has more instructions. -/
theorem size_lt_iff {front back : List Instr} (h : before ++ after = front ++ back) :
    size before < size front ↔ before.length < front.length := by
  rcases List.append_eq_append_iff.mp h with ⟨middle, rfl, -⟩ | ⟨middle, rfl, -⟩
  · rw [size_append, List.length_append]
    cases middle with
    | nil => simp
    | cons i is =>
      have := size_pos (List.cons_ne_nil i is)
      simp only [List.length_cons]
      omega
  · rw [size_append, List.length_append]
    omega

/-- Where the instructions are after the code was inserted. -/
theorem placed_inserted :
    placed 0 (o.inserted before added after) =
      (placed 0 before).map (o.place (size before) (size added)) ++
        (placed (size before) added ++
          (placed (size before) after).map (o.place (size before) (size added))) := by
  have hbefore : ∀ p ∈ placed 0 before,
      o.bump (size before) (size added) p = o.place (size before) (size added) p := by
    intro p hp
    have hlt := lt_of_placed hp
    rw [Nat.zero_add] at hlt
    rw [place, moveOffset_of_lt hlt]
    exact Prod.ext (bump_fst p) rfl
  have hafter : ∀ p ∈ placed (size before) after,
      ((o.bump (size before) (size added) p).1 + size added,
        (o.bump (size before) (size added) p).2) =
          o.place (size before) (size added) p := by
    intro p hp
    rw [place, moveOffset_of_le (bounds_of_placed hp).1, bump_fst]
  rw [inserted, placed_append, placed_append, placed_bumpAll, size_bumpAll, Nat.zero_add,
    placed_add, placed_bumpAll, List.map_map, List.map_congr_left hbefore]
  exact congrArg _ (congrArg _ (List.map_congr_left hafter))

/-- An inserted instruction starts within the inserted code. -/
theorem size_added_lt {p : ℕ × Instr} (hp : p ∈ placed (size before) added) :
    ∃ d < size added, p.1 = size before + d := by
  have hle := (bounds_of_placed hp).1
  have hlt := lt_of_placed hp
  exact ⟨p.1 - size before, by omega, by omega⟩

/-- The instructions without their places. -/
theorem countP_placed (start : ℕ) (is : List Instr) :
    (placed start is).countP (fun p => o.Bare p.2) = is.countP fun i => o.Bare i := by
  induction is generalizing start with
  | nil => rfl
  | cons i is ih => simp only [placed, List.countP_cons, ih]

/-- The jumps of the inserted code come on top. -/
theorem due_inserted (e : Entry) :
    o.due (o.inserted before added after) (o.moveEntry (size before) (size added) e) =
      o.due (before ++ after) e +
        if o.crosses (size before) e then 2 * added.countP (fun i => o.Bare i) else 0 := by
  have hplace : ∀ p : ℕ × Instr,
      (decide (o.Bare (o.place (size before) (size added) p).2) &&
          o.crosses (o.place (size before) (size added) p).1
            (o.moveEntry (size before) (size added) e)) =
        (decide (o.Bare p.2) && o.crosses p.1 e) := by
    intro p
    rw [place]
    simp only [crosses_moveEntry, bare_bump]
  have hadded : (placed (size before) added).countP (fun p => decide (o.Bare p.2) &&
      o.crosses p.1 (o.moveEntry (size before) (size added) e)) =
        if o.crosses (size before) e then added.countP (fun i => o.Bare i) else 0 := by
    rw [← countP_placed (size before) added]
    split
    · next hc =>
      refine List.countP_congr fun p hp => ?_
      obtain ⟨d, hd, hp⟩ := size_added_lt hp
      rw [hp, crosses_inserted hd, hc, Bool.and_true]
    · next hc =>
      refine List.countP_eq_zero.mpr fun p hp => ?_
      obtain ⟨d, hd, hp⟩ := size_added_lt hp
      rw [hp, crosses_inserted hd]
      simp [hc]
  rw [due, due, placed_inserted, placed_append, List.countP_append, List.countP_append,
    List.countP_append, List.countP_map, List.countP_map, hadded]
  simp only [Function.comp_def, hplace, Nat.zero_add]
  split <;> omega

/-- The inserted code makes no difference to its own jumps. -/
theorem due_added {e : Entry}
    (he : ∀ target, o.label e = some target → target ≤ size before) :
    o.due (o.inserted before added after) e = o.due (before ++ after) e := by
  have hnot : ∀ n, size before ≤ n → o.crosses n e = false := by
    intro n hn
    rw [← Bool.not_eq_true, crosses_iff]
    rintro ⟨target, htarget, hlt, -⟩
    have := he target htarget
    omega
  have hzero : ∀ ps : List (ℕ × Instr), (∀ p ∈ ps, size before ≤ p.1) →
      ps.countP (fun p => decide (o.Bare p.2) && o.crosses p.1 e) = 0 :=
    fun ps hps => List.countP_eq_zero.mpr fun p hp => by simp [hnot p.1 (hps p hp)]
  rw [due, due, placed_inserted, placed_append, List.countP_append, List.countP_append,
    List.countP_append, Nat.zero_add]
  rw [hzero (placed (size before) added) (fun p hp => (bounds_of_placed hp).1),
    hzero (placed (size before) after) (fun p hp => (bounds_of_placed hp).1),
    hzero (List.map _ (placed (size before) after)) (fun q hq => by
      obtain ⟨p, hp, rfl⟩ := List.mem_map.mp hq
      exact Nat.le_trans (bounds_of_placed hp).1 (le_moveOffset ..))]
  rw [List.countP_map]
  congr 2
  refine List.countP_congr fun p hp => ?_
  have hlt := lt_of_placed hp
  rw [Nat.zero_add] at hlt
  simp only [Function.comp_apply, place, moveOffset_of_lt hlt, bare_bump]

/-- The instructions that there were are still there. -/
theorem mem_inserted_of_mem {i : Instr} (hi : i ∈ before ++ after) :
    i ∈ before ++ (added ++ after) := by
  rcases List.mem_append.mp hi with hi | hi
  · exact List.mem_append_left _ hi
  · exact List.mem_append_right _ (List.mem_append_right _ hi)

/-- The inserted instructions are there. -/
theorem mem_inserted_of_added {i : Instr} (hi : i ∈ added) : i ∈ before ++ (added ++ after) :=
  List.mem_append_right _ (List.mem_append_left _ hi)

/-- What is there was there, or has been inserted. -/
theorem mem_placed_inserted {p : ℕ × Instr} :
    p ∈ placed 0 (o.inserted before added after) ↔
      (∃ q ∈ placed 0 (before ++ after), o.place (size before) (size added) q = p) ∨
        p ∈ placed (size before) added := by
  rw [placed_inserted, placed_append, Nat.zero_add]
  simp only [List.mem_append, List.mem_map]
  constructor
  · rintro (⟨q, hq, rfl⟩ | hp | ⟨q, hq, rfl⟩)
    · exact .inl ⟨q, .inl hq, rfl⟩
    · exact .inr hp
    · exact .inl ⟨q, .inr hq, rfl⟩
  · rintro (⟨q, hq | hq, rfl⟩ | hp)
    · exact .inl ⟨q, hq, rfl⟩
    · exact .inr (.inr ⟨q, hq, rfl⟩)
    · exact .inr (.inl hp)

section Inserted

variable (h : o.Insertable before added after)

include h

/-- There is room for the inserted code, and for what is still to be inserted. -/
theorem Insertable.crossing_fits {p : ℕ × Instr} (hp : p ∈ placed 0 (before ++ after))
    (hc : o.crosses (size before) (o.entry p) = true) :
    Fits (o.due (o.inserted before added after)
      (o.moveEntry (size before) (size added) (o.entry p)) + size added) p := by
  have hfits := h.fits p hp (jump_of_crosses hc)
  rw [addedRoom, if_pos hc] at hfits
  rw [due_inserted, if_pos hc]
  rwa [Nat.add_assoc, Nat.add_comm _ (size added)]

/-- There is room for what is still to be inserted. -/
theorem Insertable.place_fits {p : ℕ × Instr} (hp : p ∈ placed 0 (before ++ after))
    (hjump : p.2.op ∈ o.hasjrel ++ o.hasjabs) :
    Fits (o.due (o.inserted before added after)
      (o.moveEntry (size before) (size added) (o.entry p)))
        (o.place (size before) (size added) p) := by
  have hfits := h.fits p hp hjump
  rw [place]
  refine Fits.bump ?_ (le_moveOffset ..)
  · rw [due_inserted]
    rw [addedRoom] at hfits
    split at hfits
    · next hc =>
      rw [if_pos hc, if_pos hc]
      rwa [Nat.add_assoc, Nat.add_comm _ (size added)]
    · next hc =>
      rw [if_neg hc, if_neg hc]
      exact hfits

/-- An instruction is seen where it was moved to. -/
theorem Insertable.entry_place {p : ℕ × Instr} (hp : p ∈ placed 0 (before ++ after)) :
    o.entry (o.place (size before) (size added) p) =
      o.moveEntry (size before) (size added) (o.entry p) := by
  have hw := h.wellFormed _ (mem_inserted_of_mem (mem_of_placed hp))
  refine entry_moved (h.crossing_fits hp) hw.low_lt h.size_le ?_
  rw [placed_append] at hp
  rcases List.mem_append.mp hp with hp | hp
  · exact .inr (by simpa using (bounds_of_placed hp).2)
  · exact .inl (by simpa using (bounds_of_placed hp).1)

/-- Nothing is pending before. -/
theorem Insertable.owed_eq {p : ℕ × Instr} (hp : p ∈ placed 0 (before ++ after)) :
    o.owed p = [] :=
  owed_of_pending_eq (h.pending_eq _ (mem_inserted_of_mem (mem_of_placed hp)))

/-- An `EXTENDED_ARG` for a jump that the code is inserted in front of would come to stand in front
of the inserted code. -/
theorem Insertable.first_pending {p : ℕ × Instr} (hp : p ∈ placed 0 (before ++ after))
    (heq : p.1 = size before) : (o.bump (size before) (size added) p).2.pending = 0 := by
  have hpending := h.pending_eq _ (mem_inserted_of_mem (mem_of_placed hp))
  obtain ⟨i, is, hafter⟩ := List.exists_cons_of_ne_nil h.after_ne
  subst hafter
  obtain rfl := placed_start hp heq
  rcases o.bump_cases (size before) (size added) (size before, i) with ⟨hc, hbump⟩ | ⟨-, hbump⟩ <;>
    rw [hbump]
  · obtain ⟨target, htarget, -, hr⟩ := crosses_iff.mp hc
    have habs : i.op ∈ o.hasjabs := by
      refine (List.mem_append.mp (jump_of_crosses hc)).resolve_left fun hrel => ?_
      have := hr hrel
      simp only [entry] at this
      omega
    rcases raise_cases (size added) i with ⟨-, hraise⟩ | ⟨hover, hexts, -⟩ | ⟨e, es, -, -, hraise⟩
    · rw [hraise]
      exact hpending
    · exact absurd ((h.first i rfl habs).2 hc hexts) (Nat.not_le.mpr hover)
    · rw [hraise]
      exact hpending
  · exact hpending

/-- The pieces are those that are pending. -/
theorem Insertable.pieces (piece : Piece) (hoffset : piece.offset = size before)
    (hcode : 2 * piece.code.length = size added) :
    (([] ++ (placed 0 (before ++ after)).flatMap
      (o.newPiece (size before) (size added))).map (moved piece)).Perm
        ((placed 0 (o.inserted before added after)).flatMap o.owed) := by
  have hplace : ∀ p ∈ placed 0 (before ++ after),
      (o.newPiece (size before) (size added) p).map (moved piece) =
        o.owed (o.place (size before) (size added) p) := by
    intro p hp
    have hbump := owed_bump (h.crossing_fits hp)
    rw [h.owed_eq hp, List.nil_append] at hbump
    rw [← hbump, moved_owed (fun heq => ?_), hoffset, hcode, bump_fst, place]
    rw [bump_fst, hoffset] at heq
    exact h.first_pending hp heq
  have hadded : (placed (size before) added).flatMap o.owed = [] :=
    flatMap_owed _ fun i hi => h.pending_eq i (mem_inserted_of_added hi)
  rw [List.nil_append, List.map_flatMap, List.flatMap_congr hplace, placed_inserted,
    placed_append, Nat.zero_add, List.flatMap_append, List.flatMap_append, List.flatMap_append,
    hadded, List.flatMap_map, List.flatMap_map, List.nil_append]

/-- The code is in order after the code was inserted. -/
theorem Insertable.ready {pieces : List Piece}
    (hpieces : pieces.Perm ((placed 0 (o.inserted before added after)).flatMap o.owed)) :
    o.Ready (o.inserted before added after) pieces where
  wellFormed i hi := by
    obtain ⟨p, hp, rfl⟩ := exists_placed 0 hi
    rcases mem_placed_inserted.mp hp with ⟨q, hq, rfl⟩ | hp
    · have hw := h.wellFormed _ (mem_inserted_of_mem (mem_of_placed hq))
      exact hw.bump (h.crossing_fits hq) h.size_le
    · exact h.wellFormed _ (mem_inserted_of_added (mem_of_placed hp))
  even i hi hjump := by
    obtain ⟨p, hp, rfl⟩ := exists_placed 0 hi
    rcases mem_placed_inserted.mp hp with ⟨q, hq, rfl⟩ | hp
    · have heven := h.even _ (mem_inserted_of_mem (mem_of_placed hq))
      exact bump_even (size_even added) (heven (by simpa [place] using hjump))
    · exact h.even _ (mem_inserted_of_added (mem_of_placed hp)) hjump
  bare i hi hne := by
    obtain ⟨p, hp, rfl⟩ := exists_placed 0 hi
    rcases mem_placed_inserted.mp hp with ⟨q, hq, rfl⟩ | hp
    · exact bump_pending hne fun hq' =>
        absurd (h.pending_eq _ (mem_inserted_of_mem (mem_of_placed hq))) hq'
    · exact absurd (h.pending_eq _ (mem_inserted_of_added (mem_of_placed hp))) hne
  fits p hp hjump := by
    rcases mem_placed_inserted.mp hp with ⟨q, hq, rfl⟩ | hp
    · rw [h.entry_place hq]
      exact h.place_fits hq (by simpa [place] using hjump)
    · rw [due_added (h.leads_added p hp)]
      exact h.fits_added p hp hjump
  pieces := hpieces

omit h in
/-- The code is inserted in front of an instruction, and not within one. -/
theorem outside_boundary {piece : Piece} (hoffset : piece.offset = size before) :
    Outside o [piece] (placed 0 (before ++ after)) := by
  intro p hp k hk hke
  refine pendingArg_eq_zero fun q hq w _ heq => absurd heq ?_
  rw [List.mem_singleton.mp hq, hoffset]
  rw [placed_append, Nat.zero_add] at hp
  rcases List.mem_append.mp hp with hp | hp
  · have := (bounds_of_placed hp).2
    simp only [Instr.width] at this
    omega
  · have := (bounds_of_placed hp).1
    omega

/-- Even if the inserted code begins with an `EXTENDED_ARG`, this is not taken for a part of a jump
that leads across the place. -/
theorem Insertable.seen_crosses {piece : Piece} (hoffset : piece.offset = size before)
    (hcode : piece.code = o.encode added) {p : ℕ × Instr} (hp : p ∈ placed 0 (before ++ after)) :
    o.crosses (size before) (o.entry (seen o [piece] p)) =
      o.crosses (size before) (o.entry p) := by
  have hsame : o.pendingArg [piece] p.1 = 0 → seen o [piece] p = p := by
    intro hzero
    have hpending := h.pending_eq _ (mem_inserted_of_mem (mem_of_placed hp))
    rw [seen, hzero, Nat.zero_div, ← hpending]
  by_cases heq : p.1 = size before
  · obtain ⟨i, is, hafter⟩ := List.exists_cons_of_ne_nil h.after_ne
    obtain rfl : p = (size before, i) := by
      subst hafter
      exact placed_start hp heq
    by_cases habs : i.op ∈ o.hasjabs
    · rw [hsame]
      refine pendingArg_eq_zero fun q hq w hw _ => ?_
      obtain ⟨j, js, hadded⟩ := List.exists_cons_of_ne_nil h.added_ne
      have hj : j.exts = [] := (h.first i (by simp [hafter]) habs).1 j (by simp [hadded])
      have hwj := h.wellFormed j (by simp [hadded])
      rw [List.mem_singleton.mp hq, hcode, hadded, encode_cons, encodeInstr, hj] at hw
      obtain rfl : _ = w := by simpa using hw
      exact hwj.op_ne
    · -- a relative jump that starts here does not lead across its own start
      have hno : ∀ e : Entry, e.op = i.op → size before ≤ e.offset →
          o.crosses (size before) e = false := by
        intro e hop hle
        rw [← Bool.not_eq_true, crosses_iff]
        rintro ⟨target, htarget, -, hr⟩
        have hrel := (List.mem_append.mp (jump_of_label htarget)).resolve_right (hop ▸ habs)
        have := hr hrel
        omega
      rw [hno _ rfl (Nat.le_add_right ..), hno _ rfl (Nat.le_add_right ..)]
  · rw [hsame]
    refine pendingArg_eq_zero fun q hq w _ hq' => absurd hq'.symm ?_
    rw [List.mem_singleton.mp hq, hoffset]
    exact heq

omit h in
/-- The operations of the words, with the inserted ones between them. -/
theorem ops_inserted :
    (o.encode (o.inserted before added after)).map Word.op =
      (o.encode before).map Word.op ++
        ((o.encode added).map Word.op ++ (o.encode after).map Word.op) := by
  rw [inserted, ops_append, ops_append, ops_bumpAll, ops_bumpAll]

/-- The round that inserts the code. -/
theorem Insertable.first_round (fuel : ℕ) :
    o.updateLabelOffsets (fuel + 1) (o.encode (before ++ after)) (size before) (o.encode added) =
      o.updateLoop fuel [moved ⟨size before, o.encode added⟩ ⟨size before, o.encode added⟩]
        (((placed 0 (before ++ after)).flatMap
          (o.newPiece (size before) (size added))).map (moved ⟨size before, o.encode added⟩))
        (o.encode (o.inserted before added after)) := by
  have hsize : 2 * (o.encode added).length = size added := length_encode o added
  have hstep : o.updateLoop (fuel + 1) [] [⟨size before, o.encode added⟩]
      (o.encode (before ++ after)) = _ := updateLoop_step rfl
    (fun i hi => h.wellFormed i (mem_inserted_of_mem hi)) (outside_boundary rfl)
    (fun p hp => h.seen_crosses rfl rfl hp)
    (fun p hp hc => by simpa only [hsize] using (h.crossing_fits hp hc).raisable)
  rw [hsize] at hstep
  rw [updateLabelOffsets, hstep, inserted, encode_append, encode_append]
  rfl

end Inserted

/-- If no jump needs an `EXTENDED_ARG`, then there is only the one round. -/
theorem updateLabelOffsets_eq (h : o.Insertable before added after) {fuel : ℕ} (hfuel : 0 < fuel)
    (hnone : ∀ p ∈ placed 0 (before ++ after), o.crosses (size before) (o.entry p) = true →
      p.2.exts = [] → p.2.low + size added ≤ 255) :
    ∃ inserted, o.updateLabelOffsets fuel (o.encode (before ++ after)) (size before)
      (o.encode added) = some (o.encode (o.inserted before added after), inserted) := by
  have hnew :
      (placed 0 (before ++ after)).flatMap (o.newPiece (size before) (size added)) = [] := by
    refine List.flatMap_eq_nil_iff.mpr fun p hp => if_neg ?_
    rintro ⟨hc, hover, hexts⟩
    exact Nat.not_lt.mpr (hnone p hp hc hexts) hover
  obtain ⟨n, rfl⟩ : ∃ n, fuel = n + 1 := ⟨fuel - 1, by omega⟩
  rw [h.first_round, hnew]
  cases n <;> exact ⟨_, rfl⟩

end Inserting

end Opcodes

end ModifyBytecode

end Ptvsd
