import Ptvsd.Handlers

/-!
# Pending Handlers Get Run

No handler is ever skipped, and no handler is stuck: the thread that is going to run it is
not waiting, and the parser thread, for which the handler threads wait once the channel is
closed, can always be brought to its end.

This is what makes the condition of `no_late_start` necessary: what is pending on a closed
channel, some continuation of the run starts there.

## Main results

* `all_started`: **no handler is ever skipped**.
* `pending_starts`: a handler that is pending on a closed channel can still be started.
* `late_start_of_pending`: so `close()` breaks its promise whenever an event or a request is
  pending.
-/

namespace Ptvsd

namespace HandlerQueue

variable {q q' : HandlerQueue} {closed parserEnded : Bool} {t : ThreadId} {st : HandlerState}

/-! ### What is never skipped -/

/-- A thread waits only while the queue is empty. -/
def Awake (q : HandlerQueue) : Prop :=
  ∀ t : ThreadId, q.threads[t]? = some .waiting → q.handlerQueue = []

/-- Nobody waits while there is something to do; no handler enqueued is one of the plain
functions that would be skipped; and none was skipped. -/
structure Attended (q : HandlerQueue) : Prop where
  awake : q.Awake
  enqueued : ∀ x ∈ q.enqueued, x.handler.isMessageHandle = false
  taken : ∀ x ∈ q.taken, x.started = true

theorem empty_attended : empty.Attended :=
  ⟨fun _ _ => rfl, fun x hx => by simp [empty] at hx, fun x hx => by simp [empty] at hx⟩

/-- Whoever was waiting is notified. -/
theorem enqueue_awake (items : List Item) (q : HandlerQueue) : (q.enqueue items).Awake := by
  intro t ht
  have hwoken : (q.threads.map HandlerState.wake)[t]? ≠ some HandlerState.waiting := by
    rw [List.getElem?_map]
    cases q.threads[t]? with
    | none => simp
    | some st => cases st <;> simp [HandlerState.wake]
  rw [enqueue] at ht
  dsimp only at ht
  split at ht
  · rw [List.getElem?_append] at ht
    split at ht
    · exact absurd ht hwoken
    · simp [List.getElem?_singleton] at ht
  · exact absurd ht hwoken

theorem enqueue_attended (hq : q.Attended) {item : Item}
    (hitem : item.handler.isMessageHandle = false) : (q.enqueue [item]).Attended := by
  refine ⟨enqueue_awake _ q, fun x hx => ?_, ?_⟩
  · rw [enqueue_enqueued, List.mem_append, List.mem_singleton] at hx
    rcases hx with hx | rfl
    · exact hq.enqueued x hx
    · exact hitem
  · rw [enqueue_taken]
    exact hq.taken

theorem goto_awake (hq : q.Awake) (hst : st = .waiting → q.handlerQueue = []) :
    (q.goto t st).Awake := by
  intro u hu
  simp only [goto, List.getElem?_set] at hu
  split_ifs at hu
  · exact hst (Option.some.inj hu)
  · exact hq u hu

theorem snapshot_handlerQueue (q : HandlerQueue) (t : ThreadId) (closed : Bool) :
    (q.snapshot t closed).handlerQueue = [] := by
  rw [snapshot]
  cases hq : q.handlerQueue with
  | nil => cases closed <;> simpa [goto] using hq
  | cons item items => rfl

theorem advance_awake (hq : q.Awake) (h : q.advance closed parserEnded t = some q') :
    q'.Awake := by
  rw [advance] at h
  split at h
  case h_1 =>
    obtain rfl := Option.some.inj h
    exact goto_awake hq (by split <;> simp)
  case h_2 =>
    split at h
    · obtain rfl := Option.some.inj h
      exact goto_awake hq (by simp)
    · simp at h
  case h_3 wasClosed _ =>
    split at h
    · next hwait =>
      -- the one step after which a thread waits
      obtain rfl := Option.some.inj h
      refine goto_awake hq fun _ => List.isEmpty_iff.mp ?_
      exact (Bool.and_eq_true _ _ ▸ hwait).2
    · obtain rfl := Option.some.inj h
      exact fun _ _ => snapshot_handlerQueue q t wasClosed
  case h_4 => simp at h
  case h_5 =>
    obtain rfl := Option.some.inj h
    exact fun _ _ => snapshot_handlerQueue q t false
  case h_6 =>
    obtain rfl := Option.some.inj h
    exact goto_awake hq (by simp)
  case h_7 wasClosed item rest _ =>
    split at h
    · obtain rfl := Option.some.inj h
      exact goto_awake (q := q) hq (by simp)
    · obtain rfl := Option.some.inj h
      exact goto_awake (q := q) hq (by simp)
  case h_8 =>
    obtain rfl := Option.some.inj h
    exact goto_awake hq (by simp)
  case h_9 => simp at h
  case h_10 => simp at h

theorem advance_attended (hinv : q.Invariant) (hq : q.Attended)
    (h : q.advance closed parserEnded t = some q') : q'.Attended := by
  have horder := (advance_invariant hinv h).order
  obtain ⟨henqueued, htaken⟩ := advance_taken h
  refine ⟨advance_awake hq.awake h, henqueued ▸ hq.enqueued, ?_⟩
  rcases htaken with heq | ⟨item, started, heq, hskipped⟩
  · exact heq ▸ hq.taken
  · have hmem : item ∈ q.enqueued := by
      rw [← henqueued, ← horder, heq]
      simp
    intro x hx
    rw [heq, List.mem_append, List.mem_singleton] at hx
    rcases hx with hx | rfl
    · exact hq.taken x hx
    · cases hstarted : started with
      | true => rfl
      | false => simpa [hq.enqueued item hmem] using hskipped hstarted

/-! ### Threads that go on -/

end HandlerQueue

/-- How far a thread is from taking a handler, if there is one to take and the parser thread
has ended. -/
def HandlerState.distance : HandlerState → ℕ
  | batch _ (_ :: _) => 0
  | running _ (_ :: _) => 1
  | ready _ => 1
  | woken => 1
  | joining => 2
  | top => 3
  | batch _ [] => 4
  | running _ [] => 5
  | waiting => 0
  | exited => 0

/-- How far the parser thread of a closed channel is from its end. -/
def ParserState.distance : ParserState → ℕ
  | ended _ => 0
  | disconnecting _ => 1
  | reading => 2
  | looping => 2
  | answering _ _ => 3
  | parsed _ => 4

namespace HandlerQueue

variable {q q' : HandlerQueue} {t : ThreadId} {st : HandlerState} {x : Item}

/-- The distance of `_handler_thread`. -/
def distance (q : HandlerQueue) : ℕ :=
  match q.handlerThread with
  | none => 0
  | some t => (q.threads[t]?.map HandlerState.distance).getD 0

theorem distance_eq (ht : q.handlerThread = some t) (hst : q.threads[t]? = some st) :
    q.distance = st.distance := by
  simp only [distance, ht, hst, Option.map_some, Option.getD_some]

theorem distance_le (q : HandlerQueue) : q.distance ≤ 5 := by
  rw [distance]
  split
  · simp
  · next t _ =>
    cases q.threads[t]? with
    | none => simp
    | some st =>
        simp only [Option.map_some, Option.getD_some]
        unfold HandlerState.distance
        split <;> omega

/-- **While something is pending, `_handler_thread` can go on**, once the parser thread has
ended: it takes a handler, or gets closer to that. -/
theorem advance_exists (hinv : q.Invariant) (hq : q.Awake) (hpending : q.pending ≠ []) :
    ∃ t q', q.advance true true t = some q' ∧
      (q'.taken = q.taken → q'.distance < q.distance) := by
  obtain ⟨t, ht⟩ : ∃ t, q.handlerThread = some t := by
    refine Option.ne_none_iff_exists'.mp fun hnone => ?_
    refine hinv.served (fun hempty => hpending ?_) hnone
    simp [pending, rest, hnone, hempty]
  obtain ⟨st, hst, hne⟩ := (hinv.active t).mpr ht
  have hrest := (hinv.rest_eq hst hne).2
  have hlt : t < q.threads.length := (List.getElem?_eq_some_iff.mp hst).1
  have hgoto : ∀ st', (q.goto t st').distance = st'.distance := fun st' =>
    distance_eq (q := q.goto t st') ht (List.getElem?_set_self hlt)
  -- a thread that takes a snapshot finds the queue nonempty
  have hsnapshot : st.rest = [] → ∀ c, (q.snapshot t c).distance = 0 := by
    intro hnil c
    have hqueue : q.handlerQueue ≠ [] := by
      simpa [pending, hrest, hnil] using hpending
    rw [snapshot]
    split
    · next hempty => exact absurd hempty hqueue
    · obtain ⟨item, items, hcons⟩ := List.exists_cons_of_ne_nil hqueue
      have hbatch := distance_eq (q := { q.goto t (.batch c q.handlerQueue) with
        handlerQueue := [] }) ht (List.getElem?_set_self hlt)
      rw [hbatch, hcons]
      rfl
  rw [distance_eq ht hst]
  cases st with
  | top =>
      refine ⟨t, q.goto t .joining, by simp [advance, hst], fun _ => ?_⟩
      simp [hgoto, HandlerState.distance]
  | joining =>
      refine ⟨t, q.goto t (.ready true), by simp [advance, hst], fun _ => ?_⟩
      simp [hgoto, HandlerState.distance]
  | ready c =>
      have hqueue : q.handlerQueue.isEmpty = false := by
        simpa [pending, hrest, HandlerState.rest] using hpending
      refine ⟨t, q.snapshot t c, by simp [advance, hst, hqueue], fun _ => ?_⟩
      simp [hsnapshot rfl, HandlerState.distance]
  | waiting => simp [pending, hrest, HandlerState.rest, hq t hst] at hpending
  | woken =>
      refine ⟨t, q.snapshot t false, by simp [advance, hst], fun _ => ?_⟩
      simp [hsnapshot rfl, HandlerState.distance]
  | batch c items =>
      cases items with
      | nil =>
          refine ⟨t, q.goto t .top, by simp [advance, hst], fun _ => ?_⟩
          simp [hgoto, HandlerState.distance]
      | cons item items =>
          -- the handler is taken, one way or the other
          by_cases hskip : (c && item.handler.isMessageHandle) = true
          · refine ⟨t, q.take t item false true (.batch c items), ?_, fun h => ?_⟩
            · simp only [advance, hst, hskip, if_true]
            · simp [take] at h
          · refine ⟨t, q.take t item true true (.running c items), ?_, fun h => ?_⟩
            · simp only [advance, hst, hskip, if_false, Bool.false_eq_true]
            · simp [take] at h
  | running c items =>
      refine ⟨t, q.goto t (.batch c items), by simp [advance, hst], fun _ => ?_⟩
      rw [hgoto]
      cases items <;> simp [HandlerState.distance]
  | exited => exact absurd rfl hne

/-- The handler is pending, or was started on the closed channel. -/
def Holds (x : Item) (q : HandlerQueue) : Prop :=
  q.Invariant ∧ (x ∈ q.pending ∨ ⟨x, true, true⟩ ∈ q.taken)

theorem enqueue_holds (hq : q.Holds x) (items : List Item) : (q.enqueue items).Holds x := by
  obtain ⟨hinv, hx⟩ := hq
  refine ⟨enqueue_invariant hinv items, ?_⟩
  rw [enqueue_pending hinv, enqueue_taken, List.mem_append]
  exact hx.imp_left Or.inl

/-- How many steps `_handler_thread` needs at most to take everything that is pending. -/
def toGo (q : HandlerQueue) : ℕ := 6 * q.pending.length + q.distance

/-- **A pending handler comes closer**: on a closed channel whose parser thread has ended,
`_handler_thread` starts it, or has one step less to go. -/
theorem Holds.advance (hq : q.Holds x) (hatt : q.Attended)
    (hx : ⟨x, true, true⟩ ∉ q.taken) :
    ∃ t q', q.advance true true t = some q' ∧ q'.Holds x ∧ q'.toGo < q.toGo := by
  obtain ⟨hinv, hpending⟩ := hq
  replace hpending : x ∈ q.pending := hpending.resolve_right hx
  obtain ⟨t, q', hadv, hcloser⟩ := advance_exists hinv hatt.awake (List.ne_nil_of_mem hpending)
  refine ⟨t, q', hadv, ?_⟩
  rcases advance_pending hinv hadv with ⟨htaken, heq⟩ | ⟨item, started, htaken, heq⟩
  · refine ⟨⟨advance_invariant hinv hadv, Or.inl (heq ▸ hpending)⟩, ?_⟩
    rw [toGo, toGo, heq]
    exact Nat.add_lt_add_left (hcloser htaken) _
  · have hstarted : started = true :=
      (advance_attended hinv hatt hadv).taken ⟨item, started, true⟩ (by simp [htaken])
    refine ⟨⟨advance_invariant hinv hadv, ?_⟩, ?_⟩
    · rw [heq, List.mem_cons] at hpending
      rcases hpending with rfl | hlater
      · exact Or.inr (by simp [htaken, hstarted])
      · exact Or.inl hlater
    · have := q'.distance_le
      rw [toGo, toGo, heq, List.length_cons]
      omega

end HandlerQueue

namespace Channel

variable {incoming : List (Except ReadError Json)} {s s' : Channel} {a : Action} {x : Item}

/-! ### What is never skipped, in a channel -/

/-- Every step keeps the queue attended. -/
theorem attended_step (hs : s.Orderly ∧ s.queue.Attended) (h : s.step a = some s') :
    s'.Orderly ∧ s'.queue.Attended := by
  refine ⟨orderly_step hs.1 h, ?_⟩
  rcases queue_step (P := HandlerQueue.Attended)
    (fun _ _ _ hq => HandlerQueue.enqueue_attended hq rfl) (step_cases h).2 hs.2 with
    ⟨hq, -⟩ | ⟨t, q, hadv, rfl⟩ | ⟨m, -, -, -, rfl⟩ | ⟨q, text, -, -, -, hq, hqueue, -⟩
  · exact hq
  · exact HandlerQueue.advance_attended hs.1.queue hs.2 hadv
  · exact HandlerQueue.enqueue_attended hs.2 (Item.isMessageHandle_ofMessage m)
  · rw [hqueue]
    exact HandlerQueue.enqueue_attended hq rfl

theorem attended_invariant (incoming : List (Except ReadError Json)) :
    (channel incoming).Invariant fun s => s.Orderly ∧ s.queue.Attended := by
  refine ⟨?_, attended_step⟩
  rintro s rfl
  exact ⟨init_orderly incoming, HandlerQueue.empty_attended⟩

/-- **No handler is ever skipped**, whether the channel is closed or not. -/
theorem all_started (h : (channel incoming).Reachable s) : ∀ x ∈ s.queue.taken, x.started = true :=
  ((attended_invariant incoming).of_reachable h).2.taken

/-! ### Handlers that are pending on a closed channel -/

/-- The process is running, the channel is closed, and the handler is pending or was started
since. -/
structure Late (incoming : List (Except ReadError Json)) (x : Item) (s : Channel) : Prop where
  reachable : (channel incoming).Reachable s
  exited : s.exited = false
  closed : s.closed = true
  queue : s.queue.Holds x

/-- **The parser thread of a closed channel can come to its end**, and enqueues more handlers
at most. -/
theorem Late.parserStep (hs : s.Late incoming x) (hended : ¬ s.parser.isEnded = true) :
    ∃ a s', (channel incoming).step s a = some s' ∧ s'.Late incoming x ∧
      s'.parser.distance < s.parser.distance := by
  obtain ⟨hreach, hexited, hclosed, hqueue⟩ := hs
  have hparser : ∀ s', s.parserStep = some s' →
      (channel incoming).step s .parser = some s' := fun s' h => by
    simp [channel, step, hexited, h]
  have hinterrupt : s.parser = .looping ∨ s.parser = .reading →
      (channel incoming).step s (.interrupt "") =
        some { s with parser := .disconnecting "" } := by
    rintro (hp | hp) <;> simp [channel, step, hexited, hp, hclosed]
  cases hp : s.parser with
  | looping =>
      have hstep := hinterrupt (Or.inl hp)
      exact ⟨_, _, hstep, ⟨hreach.step hstep, hexited, hclosed, hqueue⟩, by
        simp [ParserState.distance]⟩
  | reading =>
      have hstep := hinterrupt (Or.inr hp)
      exact ⟨_, _, hstep, ⟨hreach.step hstep, hexited, hclosed, hqueue⟩, by
        simp [ParserState.distance]⟩
  | parsed m =>
      by_cases hm : ∃ response, m = .response response
      · obtain ⟨response, rfl⟩ := hm
        have hstep := hparser (s.pop response) (by simp [Channel.parserStep, hp])
        exact ⟨_, _, hstep, ⟨hreach.step hstep, hexited, hclosed, hqueue⟩, by
          simp [Channel.pop, ParserState.distance]⟩
      · have hstep := hparser { s.enqueue [.ofMessage m] with parser := .looping } (by
          cases m with
          | response response => exact absurd ⟨response, rfl⟩ hm
          | event | request | disconnect => simp [Channel.parserStep, hp])
        exact ⟨_, _, hstep, ⟨hreach.step hstep, hexited, hclosed,
          HandlerQueue.enqueue_holds hqueue _⟩, by simp [ParserState.distance]⟩
  | answering request response =>
      have hstep := hparser _ (by rw [Channel.parserStep, hp])
      obtain ⟨tbl, q, hr⟩ := answer_frame request response s
      have hqueue' := answer_queue (P := HandlerQueue.Holds x)
        (fun _ _ _ hq => HandlerQueue.enqueue_holds hq _) request response hqueue
      refine ⟨_, _, hstep, ⟨hreach.step hstep, ?_, ?_, hqueue'⟩, by
        simp [ParserState.distance]⟩
      · rw [hr]
        exact hexited
      · rw [hr]
        exact hclosed
  | disconnecting text =>
      have hstep := hparser (s.cleanUp text) (by rw [Channel.parserStep, hp])
      obtain ⟨tbl, q, closed, how, hr, hc⟩ := cleanUp_frame text s
      have hqueue' : (s.cleanUp text).queue.Holds x := by
        rcases cleanUp_queue (P := HandlerQueue.Holds x)
          (fun _ _ _ hq => HandlerQueue.enqueue_holds hq _) text hqueue with
          ⟨hq, -⟩ | ⟨q, hq, heq, -⟩
        · exact hq
        · rw [heq]
          exact HandlerQueue.enqueue_holds hq _
      refine ⟨_, _, hstep, ⟨hreach.step hstep, ?_, ?_, hqueue'⟩, ?_⟩
      · rw [hr]
        exact hexited
      · rw [hr]
        rcases hc with heq | ⟨heq, -⟩
        · exact heq.trans hclosed
        · exact heq
      · simp [hr, ParserState.distance]
  | ended how => simp [hp, ParserState.isEnded] at hended

/-- **Then the handler thread comes to the handler.** -/
theorem Late.handlerStep (hs : s.Late incoming x) (hended : s.parser.isEnded = true)
    (hx : ⟨x, true, true⟩ ∉ s.queue.taken) :
    ∃ a s', (channel incoming).step s a = some s' ∧
      (s'.Late incoming x ∧ s'.parser.isEnded = true) ∧
      s'.queue.toGo < s.queue.toGo := by
  obtain ⟨hreach, hexited, hclosed, hqueue⟩ := hs
  have hatt := ((attended_invariant incoming).of_reachable hreach).2
  obtain ⟨t, q', hadv, hholds, hcloser⟩ := hqueue.advance hatt hx
  have hstep : (channel incoming).step s (.handler t) = some { s with queue := q' } := by
    simp [channel, step, hexited, hclosed, hended, hadv]
  exact ⟨_, _, hstep, ⟨⟨hreach.step hstep, hexited, hclosed, hholds⟩, hended⟩, hcloser⟩

/-- **A handler that is pending on a closed channel can still be started**, whatever the
state of the threads. -/
theorem pending_starts (h : (channel incoming).Reachable s) (hexited : s.exited = false)
    (hclosed : s.closed = true) (hx : x ∈ s.queue.pending) :
    ∃ as s', (channel incoming).run s as = some s' ∧ ⟨x, true, true⟩ ∈ s'.queue.taken := by
  have hlate : s.Late incoming x :=
    ⟨h, hexited, hclosed, ((orderly_invariant incoming).of_reachable h).queue, Or.inl hx⟩
  obtain ⟨as, s₁, hrun, hlate₁, hended⟩ :=
    (channel incoming).exists_run_of_rank (P := Late incoming x)
      (Q := fun s => s.parser.isEnded = true) (fun s => s.parser.distance)
      (fun _ hs hno => hs.parserStep hno) hlate
  obtain ⟨bs, s₂, hrun', -, htaken⟩ :=
    (channel incoming).exists_run_of_rank
      (P := fun s => s.Late incoming x ∧ s.parser.isEnded = true)
      (Q := fun s => ⟨x, true, true⟩ ∈ s.queue.taken) (fun s => s.queue.toGo)
      (fun _ hs hno => hs.1.handlerStep hs.2 hno) ⟨hlate₁, hended⟩
  exact ⟨as ++ bs, s₂, Machine.run_trans _ hrun hrun', htaken⟩

/-- **`close()` breaks its promise whenever an event or a request is pending**: some
continuation of the run starts its handler on the closed channel. -/
theorem late_start_of_pending (h : (channel incoming).Reachable s) (hexited : s.exited = false)
    (hclosed : s.closed = true) (hx : x ∈ s.queue.pending) (hitem : x.isEventOrRequest = true) :
    ∃ as s', (channel incoming).run s as = some s' ∧ ¬ s'.NoLateStart := by
  obtain ⟨as, s', hrun, htaken⟩ := pending_starts h hexited hclosed hx
  refine ⟨as, s', hrun, fun hno => ?_⟩
  simpa [hitem] using hno _ htaken rfl rfl

end Channel

end Ptvsd
