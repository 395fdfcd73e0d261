import Ptvsd.Transition

/-!
# Sequence Numbers

`_send_message` draws the number of a message in one critical section and writes the
message in another. Numbers are drawn in increasing order (`Numbered`), but nothing makes
the threads write in the order in which they drew: a message may overtake another one.

## Main results

* `overtaken`: a message is written with a smaller number than the one written before it.
* `written_increasing`: **the numbers written increase**, in all runs in which no message
  is written while another one, with a smaller number, is still waiting to be.
* `overtaking_breaks`: whenever that condition fails, the message that was overtaken can be
  written next, and the numbers do not increase any more.
-/

namespace Ptvsd

namespace Channel

variable {incoming : List (Except ReadError Json)} {s s' : Channel} {a : Action}

/-! ### Senders -/

/-- **What a step does to the senders**: nothing, or one is added, or one is done. -/
theorem sending_step (h : Transition s a s') :
    (s'.senders = s.senders ∧ s'.written = s.written ∧ s'.seqIter = s.seqIter) ∨
    (∃ sender : Sender, sender.seq = s.seqIter ∧ s'.senders = s.senders ++ [sender] ∧
      s'.written = s.written ∧ s'.seqIter = s.seqIter + 1) ∨
    ∃ (i : ℕ) (sender : Sender) (state : SendState),
      s.senders[i]? = some sender ∧ sender.state = .drawn ∧ state ≠ .drawn ∧
      s'.senders = s.senders.set i { sender with state := state } ∧
      s'.seqIter = s.seqIter ∧
      (s'.written = s.written ∨
        (a = .send i true ∧ s'.written = s.written ++ [(sender.seq, sender.message)])) := by
  cases h with
  | read => exact Or.inl ⟨rfl, rfl, rfl⟩
  | @receive outcome rest =>
      obtain ⟨parser, failures, exited, hr⟩ := receive_frame outcome { s with incoming := rest }
      exact Or.inl (hr ▸ ⟨rfl, rfl, rfl⟩)
  | pop => exact Or.inl ⟨rfl, rfl, rfl⟩
  | enqueue => exact Or.inl ⟨rfl, rfl, rfl⟩
  | @answer request response =>
      obtain ⟨tbl, q, hr⟩ := answer_frame request response s
      rw [hr]
      exact Or.inl ⟨rfl, rfl, rfl⟩
  | @cleanUp text =>
      obtain ⟨tbl, q, closed, how, hr, -⟩ := cleanUp_frame text s
      rw [hr]
      exact Or.inl ⟨rfl, rfl, rfl⟩
  | interrupt => exact Or.inl ⟨rfl, rfl, rfl⟩
  | handler => exact Or.inl ⟨rfl, rfl, rfl⟩
  | crash => exact Or.inl ⟨rfl, rfl, rfl⟩
  | @draw message =>
      refine Or.inr (Or.inl ?_)
      unfold Channel.draw
      split
      · exact ⟨_, rfl, rfl, rfl, rfl⟩
      · exact ⟨_, rfl, rfl, rfl, rfl⟩
  | @send i sender written _ hi hdrawn hsend =>
      refine Or.inr (Or.inr ⟨i, sender, ?_⟩)
      rcases send_cases hsend with ⟨rfl, -, rfl⟩ | ⟨-, rfl⟩
      · exact ⟨.written, hi, hdrawn, by simp, rfl, rfl, Or.inr ⟨rfl, rfl⟩⟩
      · exact ⟨.failed, hi, hdrawn, by simp, rfl, rfl, Or.inl rfl⟩
  | @abandon i sender hi hdrawn =>
      exact Or.inr (Or.inr ⟨i, sender, .failed, hi, hdrawn, by simp, rfl, rfl, Or.inl rfl⟩)
  | @onResponse r handler =>
      obtain ⟨tbl, q, hr⟩ :=
        enqueueResponseHandlers_frame r { s with table := s.table.register r handler }
      rw [hr]
      exact Or.inl ⟨rfl, rfl, rfl⟩
  | close => exact Or.inl ⟨rfl, rfl, rfl⟩

/-- Numbers are drawn in increasing order, and none of them twice. -/
structure Numbered (s : Channel) : Prop where
  increasing : (s.senders.map Sender.seq).Pairwise (· < ·)
  bound : ∀ sender ∈ s.senders, sender.seq < s.seqIter

/-- What a sender does, leaves its number alone. -/
theorem map_seq_set {senders : List Sender} {i : ℕ} {sender : Sender}
    (hi : senders[i]? = some sender) (state : SendState) :
    (senders.set i { sender with state := state }).map Sender.seq =
      senders.map Sender.seq := by
  obtain ⟨hlt, rfl⟩ := List.getElem?_eq_some_iff.mp hi
  have hlt' : i < (senders.map Sender.seq).length := by simpa using hlt
  have hget : (senders.map Sender.seq)[i] = senders[i].seq := List.getElem_map _
  rw [List.map_set, ← hget, List.set_getElem_self]

theorem numbered_step (hs : s.Numbered) (h : s.step a = some s') : s'.Numbered := by
  obtain ⟨-, ht⟩ := step_cases h
  rcases sending_step ht with
    ⟨hsenders, -, hiter⟩ | ⟨sender, hseq, hsenders, -, hiter⟩ |
    ⟨i, sender, state, hi, -, -, hsenders, hiter, -⟩
  · exact ⟨hsenders ▸ hs.increasing, fun x hx => hiter ▸ hs.bound x (hsenders ▸ hx)⟩
  · refine ⟨?_, fun x hx => ?_⟩
    · rw [hsenders, List.map_append, List.pairwise_append]
      refine ⟨hs.increasing, List.pairwise_singleton _ _, ?_⟩
      rintro m hm n hn
      obtain ⟨x, hx, rfl⟩ := List.mem_map.mp hm
      obtain rfl : n = sender.seq := by simpa using hn
      exact hseq ▸ hs.bound x hx
    · rw [hsenders, List.mem_append, List.mem_singleton] at hx
      rcases hx with hx | rfl
      · have := hs.bound x hx
        omega
      · omega
  · refine ⟨?_, fun x hx => ?_⟩
    · rw [hsenders, map_seq_set hi]
      exact hs.increasing
    · rw [hsenders] at hx
      rcases List.mem_or_eq_of_mem_set hx with hx | rfl
      · exact hiter ▸ hs.bound x hx
      · exact hiter ▸ hs.bound sender (List.mem_of_getElem? hi)

theorem numbered_invariant (incoming : List (Except ReadError Json)) :
    (channel incoming).Invariant Numbered :=
  ⟨fun h => h ▸ ⟨.nil, by simp [init]⟩, numbered_step⟩

/-- A number belongs to one sender. -/
theorem Numbered.inj (hs : s.Numbered) {i j : ℕ} {x y : Sender} (hi : s.senders[i]? = some x)
    (hj : s.senders[j]? = some y) (hseq : x.seq = y.seq) : i = j := by
  have hi' : (s.senders.map Sender.seq)[i]? = some x.seq := by simp [hi]
  have hj' : (s.senders.map Sender.seq)[j]? = some x.seq := by simp [hj, hseq]
  obtain ⟨hilt, hix⟩ := List.getElem?_eq_some_iff.mp hi'
  obtain ⟨hjlt, hjx⟩ := List.getElem?_eq_some_iff.mp hj'
  have hpair := List.pairwise_iff_getElem.mp hs.increasing
  rcases Nat.lt_trichotomy i j with hlt | heq | hgt
  · have := hpair i j hilt hjlt hlt
    omega
  · exact heq
  · have := hpair j i hjlt hilt hgt
    omega

/-! ### The order of writing -/

/-- Every message has a larger number than the messages written before it. -/
def Increasing (s : Channel) : Prop := (s.written.map Prod.fst).Pairwise (· < ·)

instance (s : Channel) : Decidable s.Increasing :=
  inferInstanceAs (Decidable (List.Pairwise _ _))

/-- **Messages overtake each other**: the second of two threads that drew a number is the
first one to write. -/
theorem overtaken :
    ¬ ∀ (incoming : List (Except ReadError Json)) (s : Channel),
      (channel incoming).Reachable s → s.Increasing := by
  intro h
  have hrun : ∃ s, (channel []).run (init [])
      [.draw (.event "output" (.dict [])), .draw (.event "thread" (.dict [])),
        .send 1 true, .send 0 true] = some s ∧ s.written.map Prod.fst = [2, 1] := ⟨_, rfl, rfl⟩
  obtain ⟨s, hs, hwritten⟩ := hrun
  have hincreasing := h [] s (Machine.reachable_iff_run.mpr ⟨_, _, rfl, hs⟩)
  rw [Increasing, hwritten] at hincreasing
  revert hincreasing
  decide

/-- The condition on the steps of a run under which the numbers increase: when a message is
written, no sender that drew a smaller number is still between its two critical sections. -/
def NoOvertaking (s : Channel) (a : Action) : Prop :=
  match a with
  | .send i true =>
      ∀ sender ∈ s.senders[i]?, ∀ other ∈ s.senders, other.state = .drawn →
        sender.seq ≤ other.seq
  | _ => True

/-- The senders that are still to write will continue the order. -/
structure Ordered (s : Channel) : Prop where
  numbered : s.Numbered
  increasing : s.Increasing
  drawn : ∀ n ∈ s.written.map Prod.fst, ∀ sender ∈ s.senders, sender.state = .drawn →
    n < sender.seq
  bound : ∀ n ∈ s.written.map Prod.fst, n < s.seqIter

theorem ordered_step (hs : s.Ordered) (hC : NoOvertaking s a) (h : s.step a = some s') :
    s'.Ordered := by
  have hnumbered := numbered_step hs.numbered h
  obtain ⟨-, ht⟩ := step_cases h
  rcases sending_step ht with
    ⟨hsenders, hwritten, hiter⟩ | ⟨sender, hseq, hsenders, hwritten, hiter⟩ |
    ⟨i, sender, state, hi, hdrawn, hstate, hsenders, hiter, hwritten⟩
  · refine ⟨hnumbered, ?_, ?_, ?_⟩
    · rw [Increasing, hwritten]
      exact hs.increasing
    · rw [hwritten, hsenders]
      exact hs.drawn
    · rw [hwritten, hiter]
      exact hs.bound
  · refine ⟨hnumbered, ?_, fun n hn x hx hx' => ?_, fun n hn => ?_⟩
    · rw [Increasing, hwritten]
      exact hs.increasing
    · rw [hwritten] at hn
      rw [hsenders, List.mem_append, List.mem_singleton] at hx
      rcases hx with hx | rfl
      · exact hs.drawn n hn x hx hx'
      · exact hseq ▸ hs.bound n hn
    · rw [hwritten] at hn
      have := hs.bound n hn
      omega
  · have hmem : sender ∈ s.senders := List.mem_of_getElem? hi
    -- the senders that are still between their critical sections were so before
    have hothers : ∀ x ∈ s'.senders, x.state = .drawn →
        ∃ j, j ≠ i ∧ s.senders[j]? = some x := by
      intro x hx hx'
      rw [hsenders] at hx
      obtain ⟨j, hj⟩ := List.mem_iff_getElem?.mp hx
      by_cases hij : i = j
      · subst hij
        rw [List.getElem?_set_self (List.getElem?_eq_some_iff.mp hi).1,
          Option.some.injEq] at hj
        subst hj
        exact absurd hx' hstate
      · exact ⟨j, Ne.symm hij, by rwa [List.getElem?_set_ne hij] at hj⟩
    rcases hwritten with hwritten | ⟨rfl, hwritten⟩
    · refine ⟨hnumbered, ?_, fun n hn x hx hx' => ?_, fun n hn => ?_⟩
      · rw [Increasing, hwritten]
        exact hs.increasing
      · obtain ⟨j, -, hj⟩ := hothers x hx hx'
        exact hs.drawn n (hwritten ▸ hn) x (List.mem_of_getElem? hj) hx'
      · exact hiter ▸ hs.bound n (hwritten ▸ hn)
    · have hmap : s'.written.map Prod.fst = s.written.map Prod.fst ++ [sender.seq] := by
        simp [hwritten]
      refine ⟨hnumbered, ?_, fun n hn x hx hx' => ?_, fun n hn => ?_⟩
      · rw [Increasing, hmap, List.pairwise_append]
        refine ⟨hs.increasing, List.pairwise_singleton _ _, fun m hm n hn => ?_⟩
        rw [List.mem_singleton.mp hn]
        exact hs.drawn m hm sender hmem hdrawn
      · obtain ⟨j, hij, hj⟩ := hothers x hx hx'
        have hx'' := List.mem_of_getElem? hj
        rw [hmap, List.mem_append, List.mem_singleton] at hn
        rcases hn with hn | rfl
        · exact hs.drawn n hn x hx'' hx'
        · have hle : sender.seq ≤ x.seq := hC sender (by simp [hi]) x hx'' hx'
          have hne : sender.seq ≠ x.seq := fun heq => hij (hs.numbered.inj hj hi heq.symm)
          omega
      · rw [hmap, List.mem_append, List.mem_singleton] at hn
        rcases hn with hn | rfl
        · exact hiter ▸ hs.bound n hn
        · exact hiter ▸ hs.numbered.bound sender hmem

/-- **The numbers written increase**, in all runs in which no message is written while
another one, with a smaller number, is still waiting to be. -/
theorem written_increasing (h : (channel incoming).ReachableWithin NoOvertaking s) :
    s.Increasing := by
  have hinv : (channel incoming).InvariantWithin NoOvertaking Ordered := by
    refine ⟨?_, ordered_step⟩
    rintro s rfl
    refine ⟨(numbered_invariant incoming).start rfl, .nil, ?_, ?_⟩ <;> simp [init]
  exact (hinv.of_reachable h).increasing

/-- Three messages, one of which fails, while the other two wait for their turn. -/
theorem written_increasing_three :
    ∃ s, (channel []).run (init [])
        [.draw (.event "output" (.dict [])), .draw (.request "pause" (.dict [])),
          .draw (.event "thread" (.dict [])), .send 0 true, .send 1 false, .send 2 true] =
          some s ∧
      s.written.map Prod.fst = [1, 3] ∧ s.Increasing := by
  have hC : (channel []).StepsWithin NoOvertaking (init [])
      [.draw (.event "output" (.dict [])), .draw (.request "pause" (.dict [])),
        .draw (.event "thread" (.dict [])), .send 0 true, .send 1 false, .send 2 true] := by
    refine .cons trivial rfl (.cons trivial rfl (.cons trivial rfl (.cons ?_ rfl
      (.cons trivial rfl (.cons ?_ rfl trivial)))))
    · simp [NoOvertaking, init, Channel.draw]
    · simp [NoOvertaking, init, Channel.draw, setSender]
  have hrun : ∃ s, (channel []).run (init [])
      [.draw (.event "output" (.dict [])), .draw (.request "pause" (.dict [])),
        .draw (.event "thread" (.dict [])), .send 0 true, .send 1 false, .send 2 true] =
        some s ∧ s.written.map Prod.fst = [1, 3] := ⟨_, rfl, rfl⟩
  obtain ⟨s, hs, hwritten⟩ := hrun
  exact ⟨s, hs, hwritten, written_increasing (Machine.ReachableWithin.run (.start rfl) hC hs)⟩

/-- **The condition is needed**: a message that was overtaken can be written next. -/
theorem overtaking_breaks {i j : ℕ} {x y : Sender} (hexited : s.exited = false)
    (hclosed : s.closed = false) (hi : s.senders[i]? = some x) (hj : s.senders[j]? = some y)
    (hx : x.state = .drawn) (hy : y.state = .drawn) (hlt : y.seq < x.seq) :
    ∃ s', (channel incoming).run s [.send i true, .send j true] = some s' ∧
      ¬ s'.Increasing := by
  have hij : i ≠ j := by
    rintro rfl
    obtain rfl : x = y := Option.some.inj (hi.symm.trans hj)
    omega
  have hj' : (s.senders.set i { x with state := .written })[j]? = some y := by
    rw [List.getElem?_set_ne hij, hj]
  refine ⟨{ s with
    table := beforeWrite y (beforeWrite x s.table)
    senders := (s.senders.set i { x with state := .written }).set j { y with state := .written }
    written := s.written ++ [(x.seq, x.message), (y.seq, y.message)] }, ?_, fun h => ?_⟩
  · simp [channel, step, Channel.send, setSender, hexited, hclosed, hi, hx, hj', hy]
  · rw [Increasing, List.map_append, List.pairwise_append] at h
    have := (List.pairwise_cons.mp h.2.1).1 y.seq (by simp)
    omega

end Channel

end Ptvsd
