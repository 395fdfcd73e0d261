import Ptvsd.Channel

/-!
# The Transitions of a Channel

What one step of a channel can do, said once: `Transition` has a constructor for each kind
of step, with everything that the step may rely on and the state that it leads to.
Invariants are proved by cases on it.

The operations behind the steps touch the queue and the table of requests only, and the
queue only by enqueueing handlers of responses; `answer_frame` and `answer_queue` say so,
and likewise for the clean-up.

## Main results

* `step_cases`: every step is one of the transitions.
* `cleanUp_queue`: **what the clean-up does to the queue**, in terms of enqueueing.
-/

namespace Ptvsd

namespace Channel

variable {s s' : Channel} {a : Action}

/-- The steps of a channel. -/
inductive Transition (s : Channel) : Action → Channel → Prop
  | read : s.parser = .looping → s.closed = false →
      Transition s .parser { s with parser := .reading }
  | receive {outcome : Except ReadError Json} {rest : List (Except ReadError Json)} :
      s.parser = .reading → s.incoming = outcome :: rest →
      Transition s .parser (receive outcome { s with incoming := rest })
  | pop {response : Response} : s.parser = .parsed (.response response) →
      Transition s .parser (s.pop response)
  | enqueue {m : Message} : s.parser = .parsed m → (∀ r, m ≠ .response r) →
      Transition s .parser { s.enqueue [.ofMessage m] with parser := .looping }
  | answer {request : Option RequestId} {response : Response} :
      s.parser = .answering request response →
      Transition s .parser { s.answer request response with
        parser := .looping
        failures := s.failures ++ unknownRequest request response }
  | cleanUp {text : String} : s.parser = .disconnecting text →
      Transition s .parser (s.cleanUp text)
  | interrupt {text : String} : s.closed = true →
      s.parser = .looping ∨ s.parser = .reading →
      Transition s (.interrupt text) { s with parser := .disconnecting text }
  | handler {t : ThreadId} {q : HandlerQueue} :
      s.queue.advance s.closed s.parser.isEnded t = some q →
      Transition s (.handler t) { s with queue := q }
  | crash {t : ThreadId} {wasClosed : Bool} {rest : List Item} :
      s.queue.threads[t]? = some (.running wasClosed rest) →
      Transition s (.crash t) { s with closed := true, exited := true }
  | draw {message : Outgoing} : Transition s (.draw message) (s.draw message)
  | send {i : ℕ} {sender : Sender} {written : Bool} {s' : Channel} :
      s.senders[i]? = some sender → sender.state = .drawn →
      s.send i sender written = some s' → Transition s (.send i written) s'
  | abandon {i : ℕ} {sender : Sender} : s.senders[i]? = some sender →
      sender.state = .drawn → Transition s (.abandon i) (s.setSender i sender .failed)
  | onResponse {r : RequestId} {handler : ResponseHandler} {req : OutgoingRequest} :
      s.table.requests[r]? = some req →
      Transition s (.onResponse r handler)
        (enqueueResponseHandlers r { s with table := s.table.register r handler })
  | close : Transition s .close { s with closed := true }

theorem parserStep_cases (h : s.parserStep = some s') : Transition s .parser s' := by
  rw [parserStep] at h
  split at h
  case h_1 hp =>
    split at h
    · simp at h
    · next hc =>
      obtain rfl := Option.some.inj h
      exact .read hp (by simpa using hc)
  case h_2 hp =>
    split at h
    · simp at h
    · next hi =>
      obtain rfl := Option.some.inj h
      exact .receive hp hi
  case h_3 hp =>
    obtain rfl := Option.some.inj h
    exact .pop hp
  case h_4 m hno hp =>
    obtain rfl := Option.some.inj h
    exact .enqueue hp hno
  case h_5 hp =>
    obtain rfl := Option.some.inj h
    exact .answer hp
  case h_6 hp =>
    obtain rfl := Option.some.inj h
    exact .cleanUp hp
  case h_7 => simp at h

/-- **Every step is one of the transitions**, and none is taken once the process has
exited. -/
theorem step_cases (h : s.step a = some s') : s.exited = false ∧ Transition s a s' := by
  unfold step at h
  split at h
  · simp at h
  · next hexited =>
    refine ⟨by simpa using hexited, ?_⟩
    cases a with
    | parser => exact parserStep_cases h
    | interrupt text =>
        dsimp only at h
        split at h <;> try split at h
        all_goals simp only [reduceCtorEq, Option.some.injEq] at h
        · next hp hc => exact h ▸ .interrupt hc (Or.inl hp)
        · next hp hc => exact h ▸ .interrupt hc (Or.inr hp)
    | handler t =>
        obtain ⟨q, hq, rfl⟩ := Option.map_eq_some_iff.mp h
        exact .handler hq
    | crash t =>
        dsimp only at h
        split at h
        · next ht => exact Option.some.inj h ▸ .crash ht
        · simp at h
    | draw message => exact Option.some.inj h ▸ .draw
    | send i written =>
        dsimp only at h
        split at h
        · next hi =>
          split at h
          · next hd => exact .send hi hd h
          · simp at h
        · simp at h
    | abandon i =>
        dsimp only at h
        split at h
        · next hi =>
          split at h
          · next hd => exact Option.some.inj h ▸ .abandon hi hd.1
          · simp at h
        · simp at h
    | onResponse r handler =>
        dsimp only at h
        split at h
        · next hr => exact Option.some.inj h ▸ .onResponse hr
        · simp at h
    | close => exact Option.some.inj h ▸ .close

/-! ### Frames -/

theorem enqueueResponseHandlers_frame (r : RequestId) (s : Channel) :
    ∃ tbl q, enqueueResponseHandlers r s = { s with table := tbl, queue := q } := by
  rw [enqueueResponseHandlers]
  split
  · exact ⟨_, _, rfl⟩
  · exact ⟨s.table, s.queue, rfl⟩

/-- The second section of `Response._parse` touches the table and the queue only. -/
theorem answer_frame (request : Option RequestId) (response : Response) (s : Channel) :
    ∃ tbl q, s.answer request response = { s with table := tbl, queue := q } := by
  unfold answer
  split
  · exact enqueueResponseHandlers_frame _ _
  · exact ⟨s.table, _, rfl⟩

theorem synthesize_frame (text : String) (s : Channel) (r : RequestId) :
    ∃ tbl q, synthesize text s r = { s with table := tbl, queue := q } := by
  rw [synthesize]
  split
  · exact ⟨s.table, s.queue, rfl⟩
  · split
    · exact ⟨s.table, s.queue, rfl⟩
    · exact answer_frame _ _ _

/-- The loop that synthesizes responses touches the table and the queue only. -/
theorem foldl_synthesize_frame (text : String) (rs : List RequestId) (s : Channel) :
    ∃ tbl q, rs.foldl (synthesize text) s = { s with table := tbl, queue := q } := by
  induction rs generalizing s with
  | nil => exact ⟨s.table, s.queue, rfl⟩
  | cons r rs ih =>
      obtain ⟨tbl, q, h⟩ := synthesize_frame text s r
      obtain ⟨tbl', q', h'⟩ := ih (synthesize text s r)
      exact ⟨tbl', q', by rw [List.foldl_cons, h', h]⟩

/-- The clean-up ends the parser thread, and closes the channel if it gets that far. -/
theorem cleanUp_frame (text : String) (s : Channel) :
    ∃ tbl q closed how, s.cleanUp text =
        { s with table := tbl, queue := q, closed := closed, parser := .ended how } ∧
      (closed = s.closed ∨ (closed = true ∧ how = .cleanedUp)) := by
  obtain ⟨tbl, q, h⟩ := foldl_synthesize_frame text (s.table.sentRequests.map Prod.snd) s
  rw [cleanUp]
  dsimp only
  rw [h]
  split
  · exact ⟨_, _, _, _, rfl, Or.inr ⟨rfl, rfl⟩⟩
  · exact ⟨_, _, _, _, rfl, Or.inl rfl⟩

/-- What the outcome of `read_json` decides. -/
theorem receive_frame (outcome : Except ReadError Json) (s : Channel) :
    ∃ parser failures exited, receive outcome s =
      { s with parser := parser, failures := failures, exited := exited } := by
  unfold receive
  split
  · exact ⟨_, s.failures, s.exited, rfl⟩
  · exact ⟨_, s.failures, s.exited, rfl⟩
  · split
    · exact ⟨_, s.failures, s.exited, rfl⟩
    · exact ⟨_, _, s.exited, rfl⟩
    · exact ⟨_, s.failures, s.exited, rfl⟩
    · exact ⟨s.parser, s.failures, _, rfl⟩

/-- Sending either writes the message, unless the channel is closed, or fails. -/
theorem send_cases {i : ℕ} {sender : Sender} {written : Bool}
    (h : s.send i sender written = some s') :
    (written = true ∧ s.closed = false ∧
      s' = { s with
        table := beforeWrite sender s.table
        senders := s.senders.set i { sender with state := .written }
        written := s.written ++ [(sender.seq, sender.message)] }) ∨
    (written = false ∧
      s' = { s with
        table := beforeWrite sender s.table
        senders := s.senders.set i { sender with state := .failed } }) := by
  rw [send] at h
  dsimp only at h
  split_ifs at h with hw hc
  · exact Or.inl ⟨hw, by simpa using hc, (Option.some.inj h).symm⟩
  · exact Or.inr ⟨by simpa using hw, (Option.some.inj h).symm⟩

/-! ### The queue -/

section Queue

variable {P : HandlerQueue → Prop}
  (hP : ∀ {q : HandlerQueue} (response : Response) (request : Option RequestId)
    (handlers : List ResponseHandler), P q → P (q.enqueue [.ofResponse response request handlers]))

include hP

/-- What survives the enqueueing of handlers of responses survives
`_enqueue_response_handlers`. -/
theorem enqueueResponseHandlers_queue (r : RequestId) (h : P s.queue) :
    P (enqueueResponseHandlers r s).queue := by
  rw [enqueueResponseHandlers]
  split
  · exact hP _ _ _ h
  · exact h

theorem answer_queue (request : Option RequestId) (response : Response) (h : P s.queue) :
    P (s.answer request response).queue := by
  unfold answer
  split
  · exact enqueueResponseHandlers_queue hP _ h
  · exact hP _ _ _ h

theorem synthesize_queue (text : String) (r : RequestId) (h : P s.queue) :
    P (synthesize text s r).queue := by
  rw [synthesize]
  split
  · exact h
  · split
    · exact h
    · exact answer_queue hP _ _ h

theorem foldl_synthesize_queue (text : String) (rs : List RequestId) (h : P s.queue) :
    P (rs.foldl (synthesize text) s).queue := by
  induction rs generalizing s with
  | nil => exact h
  | cons r rs ih => exact ih (synthesize_queue hP text r h)

/-- **The clean-up enqueues handlers of responses, and then the disconnect**, if it gets
that far. -/
theorem cleanUp_queue (text : String) (h : P s.queue) :
    (P (s.cleanUp text).queue ∧ (s.cleanUp text).parser ≠ .ended .cleanedUp) ∨
      ∃ q, P q ∧ (s.cleanUp text).queue = q.enqueue [.disconnect] ∧
        (s.cleanUp text).parser = .ended .cleanedUp := by
  have hq := foldl_synthesize_queue hP text (s.table.sentRequests.map Prod.snd) h
  rw [cleanUp]
  dsimp only
  split
  · exact Or.inr ⟨_, hq, rfl, rfl⟩
  · exact Or.inl ⟨hq, by simp⟩

end Queue

end Channel

end Ptvsd
