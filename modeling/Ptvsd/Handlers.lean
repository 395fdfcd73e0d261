import Ptvsd.Transition

/-!
# Handlers Run in Order

What holds of the handlers of a channel over all interleavings of its threads.

The queue of a channel changes in four ways only (`queue_step`): handlers of responses are
enqueued, an event or a request is, the disconnect is, or a handler thread makes a step.
The invariant of the queue survives each of them, so it holds of every reachable state.

`close()` promises that no event or request handler starts afterwards. The loop of
`_run_handlers` compares the handlers in its batch, which are bound methods, with the plain
functions `Event._handle` and `Request._handle`; the comparison never succeeds, and no
handler is ever skipped. The promise holds in those runs in which nothing is left to skip.

## Main results

* `handlers_in_order`: **nothing is lost, duplicated or reordered**, one thread at most
  runs handlers, and the disconnect is the last message.
* `late_start`: a handler of an event starts on a closed channel.
* `no_late_start`: none does, if no event or request is waiting when the channel is closed,
  and none is enqueued afterwards.
-/

namespace Ptvsd

namespace HandlerQueue

variable {q q' : HandlerQueue} {closed parserEnded : Bool} {t : ThreadId}

@[simp] theorem enqueue_enqueued (items : List Item) (q : HandlerQueue) :
    (q.enqueue items).enqueued = q.enqueued ++ items := by
  rw [enqueue]
  dsimp only
  split <;> rfl

@[simp] theorem enqueue_taken (items : List Item) (q : HandlerQueue) :
    (q.enqueue items).taken = q.taken := by
  rw [enqueue]
  dsimp only
  split <;> rfl

theorem snapshot_enqueued (q : HandlerQueue) (t : ThreadId) (closed : Bool) :
    (q.snapshot t closed).enqueued = q.enqueued ∧ (q.snapshot t closed).taken = q.taken := by
  rw [snapshot]
  split
  · split <;> exact ⟨rfl, rfl⟩
  · exact ⟨rfl, rfl⟩

/-- **What a step of a handler thread does**: nothing is enqueued, and either no handler is
taken, or one is, with the state of the channel at that moment on record. -/
theorem advance_taken (h : q.advance closed parserEnded t = some q') :
    q'.enqueued = q.enqueued ∧
      (q'.taken = q.taken ∨
        ∃ item started, q'.taken = q.taken ++ [⟨item, started, closed⟩] ∧
          (started = false → item.handler.isMessageHandle = true)) := by
  rw [advance] at h
  split at h
  case h_1 =>
    obtain rfl := Option.some.inj h
    exact ⟨rfl, Or.inl rfl⟩
  case h_2 =>
    split at h
    · obtain rfl := Option.some.inj h
      exact ⟨rfl, Or.inl rfl⟩
    · simp at h
  case h_3 wasClosed _ =>
    split at h
    · obtain rfl := Option.some.inj h
      exact ⟨rfl, Or.inl rfl⟩
    · obtain rfl := Option.some.inj h
      exact ⟨(snapshot_enqueued q t wasClosed).1, Or.inl (snapshot_enqueued q t wasClosed).2⟩
  case h_4 => simp at h
  case h_5 =>
    obtain rfl := Option.some.inj h
    exact ⟨(snapshot_enqueued q t false).1, Or.inl (snapshot_enqueued q t false).2⟩
  case h_6 =>
    obtain rfl := Option.some.inj h
    exact ⟨rfl, Or.inl rfl⟩
  case h_7 wasClosed item rest _ =>
    split at h
    · next hskip =>
      obtain rfl := Option.some.inj h
      refine ⟨rfl, Or.inr ⟨item, false, rfl, fun _ => ?_⟩⟩
      simpa using (Bool.and_eq_true _ _ ▸ hskip).2
    · obtain rfl := Option.some.inj h
      exact ⟨rfl, Or.inr ⟨item, true, rfl, by simp⟩⟩
  case h_8 =>
    obtain rfl := Option.some.inj h
    exact ⟨rfl, Or.inl rfl⟩
  case h_9 => simp at h
  case h_10 => simp at h

/-- The handlers that were enqueued and not taken yet. -/
def pending (q : HandlerQueue) : List Item := q.rest ++ q.handlerQueue

/-- What a step of a handler thread takes, is first among the pending handlers. -/
theorem advance_pending (hq : q.Invariant) (h : q.advance closed parserEnded t = some q') :
    (q'.taken = q.taken ∧ q'.pending = q.pending) ∨
      ∃ item started, q'.taken = q.taken ++ [⟨item, started, closed⟩] ∧
        q.pending = item :: q'.pending := by
  have horder := hq.order
  have horder' := (advance_invariant hq h).order
  obtain ⟨henqueued, htaken | ⟨item, started, htaken, -⟩⟩ := advance_taken h
  · refine Or.inl ⟨htaken, ?_⟩
    rw [htaken, henqueued, ← horder, List.append_assoc, List.append_assoc] at horder'
    exact List.append_cancel_left horder'
  · refine Or.inr ⟨item, started, htaken, ?_⟩
    rw [htaken, henqueued, ← horder, List.map_append, List.append_assoc, List.append_assoc,
      List.append_assoc] at horder'
    exact (List.append_cancel_left horder').symm

theorem enqueue_pending (hq : q.Invariant) (items : List Item) :
    (q.enqueue items).pending = q.pending ++ items := by
  have horder := hq.order
  have horder' := (enqueue_invariant hq items).order
  rw [enqueue_taken, enqueue_enqueued, ← horder, List.append_assoc, List.append_assoc,
    List.append_assoc] at horder'
  rw [pending, pending, List.append_cancel_left horder', List.append_assoc]

end HandlerQueue

namespace Channel

variable {incoming : List (Except ReadError Json)} {s s' : Channel} {a : Action}

/-! ### What happens to the queue -/

/-- **The four ways in which the queue changes**, for a property `P` of queues that
survives the enqueueing of handlers of responses. -/
theorem queue_step {P : HandlerQueue → Prop}
    (hP : ∀ {q : HandlerQueue} (response : Response) (request : Option RequestId)
      (handlers : List ResponseHandler),
      P q → P (q.enqueue [.ofResponse response request handlers]))
    (h : Transition s a s') (hs : P s.queue) :
    (P s'.queue ∧ (s'.closed = s.closed ∨ a = .close ∨ s'.exited = true)) ∨
    (∃ t q, s.queue.advance s.closed s.parser.isEnded t = some q ∧
      s' = { s with queue := q }) ∨
    (∃ m, a = .parser ∧ s.parser = .parsed m ∧ (∀ r, m ≠ .response r) ∧
      s' = { s.enqueue [.ofMessage m] with parser := .looping }) ∨
    ∃ q text, a = .parser ∧ s.parser = .disconnecting text ∧ s' = s.cleanUp text ∧ P q ∧
      s'.queue = q.enqueue [.disconnect] ∧ s'.parser = .ended .cleanedUp := by
  cases h with
  | read => exact Or.inl ⟨hs, Or.inl rfl⟩
  | @receive outcome rest =>
      obtain ⟨parser, failures, exited, hr⟩ := receive_frame outcome { s with incoming := rest }
      exact Or.inl (hr ▸ ⟨hs, Or.inl rfl⟩)
  | pop => exact Or.inl ⟨hs, Or.inl rfl⟩
  | enqueue hp hm => exact Or.inr (Or.inr (Or.inl ⟨_, rfl, hp, hm, rfl⟩))
  | @answer request response =>
      obtain ⟨tbl, q, hr⟩ := answer_frame request response s
      exact Or.inl ⟨answer_queue hP request response hs, Or.inl (by rw [hr])⟩
  | @cleanUp text hp =>
      rcases cleanUp_queue hP text hs with ⟨hq, hparser⟩ | ⟨q, hq, hqueue, hparser⟩
      · obtain ⟨tbl, q, closed, how, hr, hclosed | ⟨-, rfl⟩⟩ := cleanUp_frame text s
        · exact Or.inl ⟨hq, Or.inl (by rw [hr, hclosed])⟩
        · exact absurd (by rw [hr]) hparser
      · exact Or.inr (Or.inr (Or.inr ⟨q, text, rfl, hp, rfl, hq, hqueue, hparser⟩))
  | interrupt => exact Or.inl ⟨hs, Or.inl rfl⟩
  | handler hq => exact Or.inr (Or.inl ⟨_, _, hq, rfl⟩)
  | crash => exact Or.inl ⟨hs, Or.inr (Or.inr rfl)⟩
  | @draw message =>
      refine Or.inl ?_
      unfold Channel.draw
      split <;> exact ⟨hs, Or.inl rfl⟩
  | send _ _ hsend =>
      rcases send_cases hsend with ⟨-, -, rfl⟩ | ⟨-, rfl⟩
      · exact Or.inl ⟨hs, Or.inl rfl⟩
      · exact Or.inl ⟨hs, Or.inl rfl⟩
  | abandon => exact Or.inl ⟨hs, Or.inl rfl⟩
  | @onResponse r handler =>
      obtain ⟨tbl, q, hr⟩ :=
        enqueueResponseHandlers_frame r { s with table := s.table.register r handler }
      exact Or.inl ⟨enqueueResponseHandlers_queue hP r hs, Or.inl (by rw [hr])⟩
  | close => exact Or.inl ⟨hs, Or.inr (Or.inl rfl)⟩

/-! ### The parser thread -/

/-- Messages that are parsed are not disconnects. -/
theorem parseIncoming_ne_disconnect {value : Json} {m : Message}
    (h : parseIncoming value = .message m) : m ≠ .disconnect := by
  rintro rfl
  unfold parseIncoming at h
  split at h
  · next items =>
    dsimp only at h
    split at h
    · simp at h
    · next type _ =>
      split at h
      · next m' hm =>
        obtain rfl : m' = .disconnect := by simpa using h
        by_cases hwf : MessageDict.WellFormedAs ⟨items, none⟩ type.toText
        · rw [parse_of_wellFormed hwf] at hm
          rw [MessageDict.toMessage] at hm
          split_ifs at hm <;> simp at hm
        · rw [parse_of_not_wellFormed rfl hwf] at hm
          simp at hm
      · simp at h
      · simp at h
  · simp at h

/-- **What a step does to the parser thread**: nothing, or the thread is not at its end and
moves on. -/
theorem parser_step (h : Transition s a s') :
    s'.parser = s.parser ∨
      (s.parser.isEnded = false ∧ ∀ m, s'.parser = .parsed m → m ≠ .disconnect) := by
  cases h with
  | read hp => exact Or.inr ⟨by simp [hp, ParserState.isEnded], by simp⟩
  | @receive outcome rest hp =>
      refine Or.inr ⟨by simp [hp, ParserState.isEnded], fun m hm => ?_⟩
      unfold Channel.receive at hm
      split at hm
      · simp at hm
      · simp at hm
      · split at hm
        · next hv => exact (ParserState.parsed.inj hm) ▸ parseIncoming_ne_disconnect hv
        · simp at hm
        · simp at hm
        · simp [hp] at hm
  | pop hp => exact Or.inr ⟨by simp [hp, ParserState.isEnded], by simp [Channel.pop]⟩
  | enqueue hp => exact Or.inr ⟨by simp [hp, ParserState.isEnded], by simp⟩
  | answer hp => exact Or.inr ⟨by simp [hp, ParserState.isEnded], by simp⟩
  | @cleanUp text hp =>
      obtain ⟨tbl, q, closed, how, hr, -⟩ := cleanUp_frame text s
      exact Or.inr ⟨by simp [hp, ParserState.isEnded], fun m hm => by simp [hr] at hm⟩
  | interrupt _ hp =>
      refine Or.inr ⟨?_, by simp⟩
      obtain hp | hp := hp <;> simp [hp, ParserState.isEnded]
  | handler => exact Or.inl rfl
  | crash => exact Or.inl rfl
  | draw =>
      unfold Channel.draw
      split <;> exact Or.inl rfl
  | send _ _ hsend => obtain ⟨-, -, rfl⟩ | ⟨-, rfl⟩ := send_cases hsend <;> exact Or.inl rfl
  | abandon => exact Or.inl rfl
  | @onResponse r handler =>
      obtain ⟨tbl, q, hr⟩ :=
        enqueueResponseHandlers_frame r { s with table := s.table.register r handler }
      exact Or.inl (by rw [hr])
  | close => exact Or.inl rfl

/-- The parser thread does not come back from its end. -/
theorem ended_step (h : Transition s a s') (hs : s.parser.isEnded = true) :
    s'.parser.isEnded = true := by
  rcases parser_step h with heq | ⟨hno, -⟩
  · rwa [heq]
  · simp [hs] at hno

/-! ### The order of handlers -/

/-- What holds of the handlers of a channel at any time. -/
structure Orderly (s : Channel) : Prop where
  queue : s.queue.Invariant
  /-- No event and no request comes behind the disconnect. -/
  disconnectLast : s.queue.enqueued.Pairwise fun x y =>
    x.isDisconnect = true → y.isEventOrRequest = false
  /-- The parser thread enqueues the disconnect with its last step. -/
  disconnected : ∀ x ∈ s.queue.enqueued, x.isDisconnect = true → s.parser.isEnded = true
  parsed : s.parser ≠ .parsed .disconnect

theorem init_orderly (incoming : List (Except ReadError Json)) : (init incoming).Orderly :=
  ⟨HandlerQueue.empty_invariant, .nil, fun x hx => by simp [init, HandlerQueue.empty] at hx,
    by simp [init]⟩

/-- The part of `Orderly` that is about the queue alone. -/
def OrderlyQueue (ended : Bool) (q : HandlerQueue) : Prop :=
  q.Invariant ∧
  (q.enqueued.Pairwise fun x y => x.isDisconnect = true → y.isEventOrRequest = false) ∧
  ∀ x ∈ q.enqueued, x.isDisconnect = true → ended = true

/-- Anything may be enqueued that is not a disconnect, and that is no event and no request
either once the disconnect is. -/
theorem orderlyQueue_enqueue {q : HandlerQueue} {ended : Bool} {item : Item}
    (hq : OrderlyQueue ended q) (hitem : item.isDisconnect = false)
    (hmessage : item.isEventOrRequest = true → ended = false) :
    OrderlyQueue ended (q.enqueue [item]) := by
  obtain ⟨hinv, hpair, hended⟩ := hq
  refine ⟨HandlerQueue.enqueue_invariant hinv _, ?_, ?_⟩
  · rw [HandlerQueue.enqueue_enqueued, List.pairwise_append]
    refine ⟨hpair, List.pairwise_singleton _ _, fun x hx y hy hdisc => ?_⟩
    obtain rfl := List.mem_singleton.mp hy
    by_contra hy'
    have := hmessage (by simpa using hy')
    simp [hended x hx hdisc] at this
  · intro x hx hdisc
    rw [HandlerQueue.enqueue_enqueued, List.mem_append, List.mem_singleton] at hx
    rcases hx with hx | rfl
    · exact hended x hx hdisc
    · simp [hitem] at hdisc

/-- **Every step keeps the handlers in order.** -/
theorem orderly_step (hs : s.Orderly) (h : s.step a = some s') : s'.Orderly := by
  obtain ⟨-, ht⟩ := step_cases h
  have hparsed : s'.parser ≠ .parsed .disconnect := by
    intro hm
    rcases parser_step ht with heq | ⟨-, hno⟩
    · exact hs.parsed (heq ▸ hm)
    · exact hno _ hm rfl
  have hq : OrderlyQueue s.parser.isEnded s.queue :=
    ⟨hs.queue, hs.disconnectLast, hs.disconnected⟩
  rcases queue_step (fun _ _ _ hq => orderlyQueue_enqueue hq rfl (by simp)) ht hq with
    ⟨hq', -⟩ | ⟨t, q, hadv, rfl⟩ | ⟨m, -, hp, hm, rfl⟩ | ⟨q, text, -, -, -, hq', hqueue, hended⟩
  · obtain ⟨hinv, hpair, hdisc⟩ := hq'
    exact ⟨hinv, hpair, fun x hx hx' => ended_step ht (hdisc x hx hx'), hparsed⟩
  · obtain ⟨henqueued, -⟩ := HandlerQueue.advance_taken hadv
    refine ⟨HandlerQueue.advance_invariant hs.queue hadv, ?_, ?_, hparsed⟩
    · exact henqueued ▸ hs.disconnectLast
    · exact fun x hx => hs.disconnected x (henqueued ▸ hx)
  · -- the parser thread is still running, so the disconnect is not enqueued yet
    have hrunning : s.parser.isEnded = false := by simp [hp, ParserState.isEnded]
    have hitem : (Item.ofMessage m).isDisconnect = false := by
      cases m with
      | event | request => rfl
      | response r => exact absurd rfl (hm r)
      | disconnect => exact absurd hp hs.parsed
    obtain ⟨hinv, hpair, hdisc⟩ := orderlyQueue_enqueue hq hitem fun _ => hrunning
    refine ⟨hinv, hpair, fun x hx hx' => ?_, hparsed⟩
    simp [hdisc x hx hx'] at hrunning
  · obtain ⟨hinv, hpair, hdisc⟩ := hq'
    refine ⟨?_, ?_, fun _ _ _ => by simp [hended, ParserState.isEnded], hparsed⟩
    · rw [hqueue]
      exact HandlerQueue.enqueue_invariant hinv _
    · rw [hqueue, HandlerQueue.enqueue_enqueued, List.pairwise_append]
      refine ⟨hpair, List.pairwise_singleton _ _, fun x _ y hy _ => ?_⟩
      rw [List.mem_singleton.mp hy, Item.isEventOrRequest_disconnect]

theorem orderly_invariant (incoming : List (Except ReadError Json)) :
    (channel incoming).Invariant Orderly :=
  ⟨fun h => h ▸ init_orderly incoming, orderly_step⟩

/-- **Handlers run in order**, in every state that any interleaving of the threads of a
channel reaches: the handlers taken, the rest of the batch, and the queue make up the
handlers enqueued; at most one thread is executing `_run_handlers`; a nonempty queue has
such a thread; and no event and no request is enqueued behind the disconnect. -/
theorem handlers_in_order (h : (channel incoming).Reachable s) :
    s.queue.taken.map Taken.item ++ s.queue.rest ++ s.queue.handlerQueue = s.queue.enqueued ∧
    (∀ t u, s.queue.Active t → s.queue.Active u → t = u) ∧
    (s.queue.handlerQueue ≠ [] →
      ∃ t, s.queue.handlerThread = some t ∧ s.queue.Active t) ∧
    s.queue.enqueued.Pairwise fun x y =>
      x.isDisconnect = true → y.isEventOrRequest = false := by
  have hs := (orderly_invariant incoming).of_reachable h
  refine ⟨hs.queue.order, fun t u ht hu => ?_, fun hne => ?_, hs.disconnectLast⟩
  · have ht' := (hs.queue.active t).mp ht
    have hu' := (hs.queue.active u).mp hu
    exact Option.some.inj (ht'.symm.trans hu')
  · obtain ⟨t, ht⟩ := Option.ne_none_iff_exists'.mp (hs.queue.served hne)
    exact ⟨t, ht, (hs.queue.active t).mpr ht⟩

/-- An event as it is received. -/
def stoppedEvent : Json :=
  .dict [("seq", .int 1), ("type", .str "event"), ("event", .str "stopped")]

/-- A received event waits in the queue, and a thread was started for it. -/
theorem handlers_in_order_stopped :
    ∃ s, (channel [.ok stoppedEvent]).run (init [.ok stoppedEvent])
        [.parser, .parser, .parser] = some s ∧
      (s.queue.taken.map Taken.item ++ s.queue.rest ++ s.queue.handlerQueue =
        s.queue.enqueued ∧
      (∀ t u, s.queue.Active t → s.queue.Active u → t = u) ∧
      (s.queue.handlerQueue ≠ [] →
        ∃ t, s.queue.handlerThread = some t ∧ s.queue.Active t) ∧
      s.queue.enqueued.Pairwise fun x y =>
        x.isDisconnect = true → y.isEventOrRequest = false) ∧
      s.queue.handlerQueue ≠ [] := by
  refine ⟨_, rfl, @handlers_in_order [.ok stoppedEvent] _ ?_, List.cons_ne_nil _ _⟩
  exact Machine.reachable_iff_run.mpr ⟨_, [.parser, .parser, .parser], rfl, rfl⟩

/-! ### Handlers on a closed channel -/

/-- No event handler and no request handler was started after `close()`. -/
def NoLateStart (s : Channel) : Prop :=
  ∀ x ∈ s.queue.taken, x.started = true → x.closed = true → x.item.isEventOrRequest = false

/-- **The handler of an event starts on a closed channel**: the event is received, the
channel is closed, and only then does the handler thread get to run. -/
theorem late_start :
    ¬ ∀ (incoming : List (Except ReadError Json)) (s : Channel),
      (channel incoming).Reachable s → s.NoLateStart := by
  intro h
  have hrun : ∃ s, (channel [.ok stoppedEvent]).run (init [.ok stoppedEvent])
      [.parser, .parser, .parser, .close, .handler 0, .interrupt "", .parser, .handler 0,
        .handler 0, .handler 0] = some s ∧
      ∃ x ∈ s.queue.taken, x.started = true ∧ x.closed = true ∧
        x.item.isEventOrRequest = true :=
    ⟨_, rfl, _, List.mem_singleton.mpr rfl, rfl, rfl, rfl⟩
  obtain ⟨s, hs, x, hx, hstarted, hclosed, hitem⟩ := hrun
  have hreach := Machine.reachable_iff_run.mpr ⟨_, _, rfl, hs⟩
  simpa [hitem] using h _ s hreach x hx hstarted hclosed

/-- The condition on the steps of a run under which `close()` keeps its promise: when the
channel is closed, by whichever thread, no event and no request is waiting, in the queue or
in the rest of a batch; and the parser thread enqueues no event and no request while the
channel is closed. -/
def QuietClose (s : Channel) (a : Action) : Prop :=
  match a, s.parser with
  | .close, _ => ∀ x ∈ s.queue.pending, x.isEventOrRequest = false
  | .parser, .disconnecting _ => ∀ x ∈ s.queue.pending, x.isEventOrRequest = false
  | .parser, .parsed (.event ..) => s.closed = false
  | .parser, .parsed (.request ..) => s.closed = false
  | _, _ => True

/-- A closed channel has no events and requests waiting. -/
structure Quiet (s : Channel) : Prop where
  orderly : s.Orderly
  noLateStart : s.NoLateStart
  pending : s.closed = true → s.exited = false →
    ∀ x ∈ s.queue.pending, x.isEventOrRequest = false

/-- The part of `Quiet` that is about the queue alone. -/
def QuietQueue (closed : Bool) (q : HandlerQueue) : Prop :=
  q.Invariant ∧
  (∀ x ∈ q.taken, x.started = true → x.closed = true → x.item.isEventOrRequest = false) ∧
  (closed = true → ∀ x ∈ q.pending, x.isEventOrRequest = false)

theorem quietQueue_enqueue {q : HandlerQueue} {closed : Bool} {item : Item}
    (hq : QuietQueue closed q) (hitem : closed = true → item.isEventOrRequest = false) :
    QuietQueue closed (q.enqueue [item]) := by
  obtain ⟨hinv, htaken, hpending⟩ := hq
  refine ⟨HandlerQueue.enqueue_invariant hinv _, ?_, fun hclosed x hx => ?_⟩
  · rwa [HandlerQueue.enqueue_taken]
  · rw [HandlerQueue.enqueue_pending hinv, List.mem_append, List.mem_singleton] at hx
    rcases hx with hx | rfl
    · exact hpending hclosed x hx
    · exact hitem hclosed

/-- A handler thread takes what is pending, so it starts nothing late. -/
theorem quietQueue_advance {q q' : HandlerQueue} {closed parserEnded : Bool} {t : ThreadId}
    (hq : QuietQueue closed q) (h : q.advance closed parserEnded t = some q') :
    QuietQueue closed q' := by
  obtain ⟨hinv, htaken, hpending⟩ := hq
  refine ⟨HandlerQueue.advance_invariant hinv h, ?_, ?_⟩
  · rcases HandlerQueue.advance_pending hinv h with ⟨heq, -⟩ | ⟨item, started, heq, hpend⟩
    · rwa [heq]
    · intro x hx hstarted hclosed
      rw [heq, List.mem_append, List.mem_singleton] at hx
      rcases hx with hx | rfl
      · exact htaken x hx hstarted hclosed
      · exact hpending hclosed item (by simp [hpend])
  · intro hclosed x hx
    rcases HandlerQueue.advance_pending hinv h with ⟨-, heq⟩ | ⟨item, started, -, hpend⟩
    · exact hpending hclosed x (heq ▸ hx)
    · exact hpending hclosed x (by simp [hpend, hx])

theorem quiet_step (hs : s.Quiet) (hC : QuietClose s a) (h : s.step a = some s') :
    s'.Quiet := by
  have horderly := orderly_step hs.orderly h
  obtain ⟨hexited, ht⟩ := step_cases h
  have hq : QuietQueue s.closed s.queue :=
    ⟨hs.orderly.queue, hs.noLateStart, fun hc => hs.pending hc hexited⟩
  obtain ⟨⟨-, htaken, hpending⟩, hclosed⟩ | ⟨t, q, hadv, rfl⟩ | ⟨m, rfl, hp, hm, rfl⟩ |
    ⟨-, text, rfl, hp, rfl, -, -, hended⟩ :=
    queue_step (fun _ _ _ hq => quietQueue_enqueue hq fun _ => rfl) ht hq
  · refine ⟨horderly, htaken, fun hc hexited' => ?_⟩
    rcases hclosed with heq | rfl | hexit
    · exact hpending (heq ▸ hc)
    · cases ht with
      | close => exact hC
    · simp [hexit] at hexited'
  · obtain ⟨-, htaken, hpending⟩ := quietQueue_advance hq hadv
    exact ⟨horderly, htaken, fun hc _ => hpending hc⟩
  · have hitem : s.closed = true → (Item.ofMessage m).isEventOrRequest = false := by
      intro hc
      cases m with
      | event | request => simp [QuietClose, hp, hc] at hC
      | response r => exact absurd rfl (hm r)
      | disconnect => rfl
    obtain ⟨-, htaken, hpending⟩ := quietQueue_enqueue hq hitem
    exact ⟨horderly, htaken, fun hc _ => hpending hc⟩
  · -- the clean-up closes the channel: nothing may be waiting already before it
    have hquiet : QuietQueue true s.queue := by
      refine ⟨hs.orderly.queue, hs.noLateStart, fun _ => ?_⟩
      simpa [QuietClose, hp] using hC
    obtain ⟨-, hno⟩ | ⟨q, hq', hqueue, -⟩ :=
      cleanUp_queue (fun _ _ _ hq => quietQueue_enqueue hq fun _ => rfl) text hquiet
    · exact absurd hended hno
    · obtain ⟨-, htaken, hpending⟩ := quietQueue_enqueue hq' fun _ =>
        Item.isEventOrRequest_disconnect
      rw [← hqueue] at htaken hpending
      exact ⟨horderly, htaken, fun _ _ => hpending rfl⟩

/-- **No event handler and no request handler starts on a closed channel**, in all runs in
which none is waiting when the channel is closed, and none is enqueued afterwards. -/
theorem no_late_start (h : (channel incoming).ReachableWithin QuietClose s) :
    s.NoLateStart := by
  have hinv : (channel incoming).InvariantWithin QuietClose Quiet := by
    refine ⟨?_, quiet_step⟩
    rintro s rfl
    refine ⟨init_orderly incoming, fun x hx => ?_, fun hc => ?_⟩
    · simp [init, HandlerQueue.empty] at hx
    · simp [init] at hc
  exact (hinv.of_reachable h).noLateStart

/-- An event is handled, and the channel is closed while its handler is running. -/
theorem no_late_start_stopped :
    ∃ s, (channel [.ok stoppedEvent]).run (init [.ok stoppedEvent])
        [.parser, .parser, .parser, .handler 0, .handler 0, .handler 0, .close] = some s ∧
      s.queue.taken ≠ [] ∧ s.closed = true ∧ s.NoLateStart := by
  have hC : (channel [.ok stoppedEvent]).StepsWithin QuietClose (init [.ok stoppedEvent])
      [.parser, .parser, .parser, .handler 0, .handler 0, .handler 0, .close] :=
    .cons trivial rfl (.cons trivial rfl (.cons rfl rfl (.cons trivial rfl (.cons trivial rfl
      (.cons trivial rfl (.cons (fun x hx => absurd hx List.not_mem_nil) rfl trivial))))))
  have hrun : ∃ s, (channel [.ok stoppedEvent]).run (init [.ok stoppedEvent])
      [.parser, .parser, .parser, .handler 0, .handler 0, .handler 0, .close] = some s ∧
      s.queue.taken ≠ [] ∧ s.closed = true := ⟨_, rfl, List.cons_ne_nil _ _, rfl⟩
  obtain ⟨s, hs, htaken, hclosed⟩ := hrun
  exact ⟨s, hs, htaken, hclosed, no_late_start (Machine.ReachableWithin.run (.start rfl) hC hs)⟩

end Channel

end Ptvsd
