import Ptvsd.Handlers
import Ptvsd.Requests

/-!
# Waiting for a Response

Threads that are blocked in `wait_for_response()`, on top of the machine of
`Ptvsd.Channel`. Such a thread checks `request.response` under the lock and waits for
`_handlers_enqueued`, which `_enqueue_handlers` notifies; it may be a handler thread, in a
handler that it is running, and then that handler does not go on before the wait is over.

The response is assigned on the parser thread, which in the same critical section enqueues the
handlers that were registered so far. A handler thread runs them later. Nothing makes the thread
that waits wait for that, although the documentation of `Response` promises it.

What was registered when the response arrived, and what had been executed when a thread
returned, is recorded; no step depends on that.

## Main results

* `promise_kept_iff`: in any run, all returns keep the promise, if and only if none of them happens
  while more handlers of the request are to be executed, or being executed, than were
  registered after its response had arrived.
* `promise_not_kept`: a thread returns before the handler thread has woken up.
-/

namespace Ptvsd

/-! ### Handlers that have been executed -/

/-- The thread is executing a handler. -/
def HandlerState.isRunning : HandlerState → Bool
  | .running _ _ => true
  | _ => false

namespace HandlerQueue

/-- Some thread is executing a handler: the one that was taken last. -/
def isRunning (q : HandlerQueue) : Bool := q.threads.any HandlerState.isRunning

/-- The handlers that have finished executing. -/
def finished (q : HandlerQueue) : List Item :=
  (if q.isRunning then q.taken.dropLast else q.taken).map Taken.item

/-- The handlers that have not: one that is being executed, and those that are to be. -/
def unfinished (q : HandlerQueue) : List Item :=
  (if q.isRunning then q.taken.getLast?.toList else []).map Taken.item ++ q.rest ++
    q.handlerQueue

/-- Every handler has finished executing, or has not. -/
theorem finished_append_unfinished {q : HandlerQueue} (h : q.Invariant) :
    q.finished ++ q.unfinished = q.enqueued := by
  rw [← h.order, finished, unfinished]
  cases q.isRunning with
  | false => simp
  | true =>
      simp only [if_true, ← List.append_assoc, ← List.map_append]
      congr 3
      rcases List.eq_nil_or_concat q.taken with hnil | ⟨taken, last, hlast⟩
      · simp [hnil]
      · simp [hlast]

end HandlerQueue

/-! ### Threads that wait -/

/-- Where a thread is in `wait_for_response()`. -/
inductive ResponseWait where
  /-- About to look at `self.response`. -/
  | checking
  /-- In `_handlers_enqueued.wait()`. -/
  | waiting
  /-- Returned, or raised the body of the response. When the response arrived, the first
  handlers were registered; by now, the second ones have been executed. -/
  | returned (promised finished : List ResponseHandler)

/-- The effect of `_handlers_enqueued.notify_all()`. -/
def ResponseWait.wake : ResponseWait → ResponseWait
  | .waiting => .checking
  | state => state

/-- The call is over. -/
def ResponseWait.isReturned : ResponseWait → Bool
  | .returned _ _ => true
  | _ => false

/-- A call of `wait_for_response()`. -/
structure WaitCall where
  request : RequestId
  /-- The handler thread that made the call, if it is one. -/
  thread : Option ThreadId
  state : ResponseWait

/-- A channel with threads that wait for responses. -/
structure WaitingChannel where
  channel : Channel
  calls : List WaitCall
  /-- What was registered with `on_response()` on a request when its response arrived. -/
  promised : RequestId → List ResponseHandler

namespace Channel

/-- `request.response`. -/
def response (r : RequestId) (s : Channel) : Option Response :=
  s.table.requests[r]?.bind OutgoingRequest.response

/-- What was registered with `on_response()` on a request so far. -/
def registered (r : RequestId) (s : Channel) : List ResponseHandler :=
  (s.table.requests[r]?.map OutgoingRequest.registered).getD []

end Channel

namespace WaitingChannel

/-- What can happen. -/
inductive Action where
  /-- A thread of the channel makes a step. -/
  | channel (a : Channel.Action)
  /-- `wait_for_response()` is called on a request, on a handler thread or another one. -/
  | call (r : RequestId) (thread : Option ThreadId)
  /-- A thread that is in `wait_for_response()` goes on. -/
  | check (w : ℕ)

/-- The handler thread is in a call that is not over. -/
def blocked (t : ThreadId) (s : WaitingChannel) : Bool :=
  s.calls.any fun call => call.thread == some t && !call.state.isReturned

/-- The thread that makes a step is in a call of `wait_for_response()`. -/
def blocks (s : WaitingChannel) : Channel.Action → Bool
  | .handler t => s.blocked t
  | .crash t => s.blocked t
  | _ => false

/-- A thread may make the call if it is not a handler thread, or executes a handler. -/
def mayCall (thread : Option ThreadId) (s : WaitingChannel) : Bool :=
  match thread with
  | none => true
  | some t => (s.channel.queue.threads[t]?.map HandlerState.isRunning).getD false && !s.blocked t

/-- What was registered on a request when its response arrived, after a step from `s` to `s'`. -/
def arrive (s s' : Channel) (promised : RequestId → List ResponseHandler) (r : RequestId) :
    List ResponseHandler :=
  if (s.response r).isNone && (s'.response r).isSome then s'.registered r else promised r

/-- The channel has gone on to `c`; if handlers were enqueued, all threads were notified. -/
def advance (c : Channel) (s : WaitingChannel) : WaitingChannel where
  channel := c
  calls :=
    if s.channel.queue.enqueued.length < c.queue.enqueued.length then
      s.calls.map fun call => { call with state := call.state.wake }
    else s.calls
  promised := arrive s.channel c s.promised

/-- The step under an action. -/
def step (s : WaitingChannel) : Action → Option WaitingChannel
  | .channel a => if s.blocks a then none else (s.channel.step a).map s.advance
  | .call r thread =>
      if !s.channel.exited && s.mayCall thread && s.channel.table.requests[r]?.isSome then
        some { s with calls := s.calls ++ [⟨r, thread, .checking⟩] }
      else none
  | .check w =>
      match s.calls[w]? with
      | some ⟨r, thread, .checking⟩ =>
          if s.channel.exited then none
          else if (s.channel.response r).isNone then
            some { s with calls := s.calls.set w ⟨r, thread, .waiting⟩ }
          else
            some { s with calls := s.calls.set w ⟨r, thread,
              .returned (s.promised r) (enqueuedFor r s.channel.queue.finished)⟩ }
      | _ => none

/-! ### The promise -/

/-- **The promise of `wait_for_response()`**: whenever a call has returned, the handlers that
were registered before the response arrived had been executed by then. -/
def Kept (s : WaitingChannel) : Prop :=
  ∀ call ∈ s.calls, ∀ promised finished, call.state = .returned promised finished →
    promised <+: finished

/-- The condition on a step: if a call is about to return, then no more handlers of its request
are to be executed, or being executed, than were registered after the response had arrived. -/
def HandlersDone (s : WaitingChannel) : Action → Prop
  | .check w => ∀ r thread, s.calls[w]? = some ⟨r, thread, .checking⟩ →
      (s.channel.response r).isSome → (enqueuedFor r s.channel.queue.unfinished).length +
        (s.promised r).length ≤ (s.channel.registered r).length
  | _ => True

end WaitingChannel

/-- A channel whose stream yields the given values, with threads that wait. -/
def waiting (incoming : List (Except ReadError Json)) :
    Machine WaitingChannel WaitingChannel.Action where
  start s := s = ⟨.init incoming, [], fun _ => []⟩
  step := WaitingChannel.step

variable {incoming : List (Except ReadError Json)}

namespace Channel

variable {s s' : Channel} {a : Action} {r : RequestId}

/-- What was enqueued stays enqueued. -/
theorem enqueued_prefix (h : Transition s a s') : s.queue.enqueued <+: s'.queue.enqueued := by
  rcases @queue_step s s' a (fun q => s.queue.enqueued <+: q.enqueued)
      (fun _ _ _ hq => by
        rw [HandlerQueue.enqueue_enqueued]
        exact hq.trans (List.prefix_append _ _)) h (List.prefix_refl _) with
    ⟨hq, -⟩ | ⟨t, q, hadvance, rfl⟩ | ⟨m, -, -, -, rfl⟩ | ⟨q, text, -, -, -, hq, hqueue, -⟩
  · exact hq
  · exact (HandlerQueue.advance_taken hadvance).1 ▸ List.prefix_refl _
  · exact HandlerQueue.enqueue_enqueued _ _ ▸ List.prefix_append _ _
  · rw [hqueue, HandlerQueue.enqueue_enqueued]
    exact hq.trans (List.prefix_append _ _)

theorem enqueuedFor_prefix {xs ys : List Item} (h : xs <+: ys) (r : RequestId) :
    enqueuedFor r xs <+: enqueuedFor r ys := by
  obtain ⟨zs, rfl⟩ := h
  rw [enqueuedFor_append]
  exact List.prefix_append _ _

/-- Once there is a response, all handlers registered are enqueued. -/
theorem registered_eq (hs : s.TrackedChannel) (h : (s.response r).isSome) :
    enqueuedFor r s.queue.enqueued = s.registered r := by
  obtain ⟨response, hresponse⟩ := Option.isSome_iff_exists.mp h
  obtain ⟨req, hr, hreq⟩ := Option.bind_eq_some_iff.mp hresponse
  have hok := hs.tracked.ok r req hr
  have hhandlers := hok.handlers
  rw [hok.after (by simp [hreq]), List.append_nil] at hhandlers
  simp [registered, hr, hhandlers]

end Channel

namespace WaitingChannel

variable {s s' : WaitingChannel} {a : Action}

/-- What holds of a channel with threads that wait. -/
structure Promising (s : WaitingChannel) : Prop where
  tracked : s.channel.TrackedChannel
  orderly : s.channel.Orderly
  /-- What was promised is among the handlers enqueued. -/
  promised : ∀ r, (s.channel.response r).isSome →
    s.promised r <+: enqueuedFor r s.channel.queue.enqueued

theorem promising_advance (hs : s.Promising) {b : Channel.Action} {c : Channel}
    (h : s.channel.step b = some c) : (s.advance c).Promising := by
  obtain ⟨-, ht⟩ := Channel.step_cases h
  have htracked := Channel.tracked_step hs.tracked h
  refine ⟨htracked, Channel.orderly_step hs.orderly h, fun r hr => ?_⟩
  replace hr : (c.response r).isSome := hr
  change arrive s.channel c s.promised r <+: enqueuedFor r c.queue.enqueued
  rw [arrive]
  by_cases hbefore : (s.channel.response r).isSome
  · rw [if_neg (by simp [Option.isNone_iff_eq_none, Option.isSome_iff_ne_none.mp hbefore])]
    exact (hs.promised r hbefore).trans
      (Channel.enqueuedFor_prefix (Channel.enqueued_prefix ht) r)
  · -- the response arrives with this step
    rw [if_pos (by simpa [hr] using hbefore)]
    exact (Channel.registered_eq htracked hr) ▸ List.prefix_refl _

theorem promising_step (hs : s.Promising) (h : s.step a = some s') : s'.Promising := by
  cases a with
  | channel b =>
      simp only [step] at h
      split at h
      · simp at h
      · obtain ⟨c, hc, rfl⟩ := Option.map_eq_some_iff.mp h
        exact promising_advance hs hc
  | call r thread =>
      simp only [step] at h
      split at h
      · obtain rfl := Option.some.inj h
        exact ⟨hs.tracked, hs.orderly, hs.promised⟩
      · simp at h
  | check w =>
      simp only [step] at h
      split at h
      · split_ifs at h
        · obtain rfl := Option.some.inj h
          exact ⟨hs.tracked, hs.orderly, hs.promised⟩
        · obtain rfl := Option.some.inj h
          exact ⟨hs.tracked, hs.orderly, hs.promised⟩
      · simp at h

theorem promising_invariant (incoming : List (Except ReadError Json)) :
    (waiting incoming).Invariant Promising := by
  refine ⟨?_, promising_step⟩
  rintro s rfl
  exact ⟨Channel.init_tracked incoming, Channel.init_orderly incoming, fun r hr => List.nil_prefix⟩

/-! ### Returning -/

/-- **The order of the handlers decides**: those that were promised have been executed, if and
only if few enough are left. -/
theorem promised_prefix_iff (hs : s.Promising) {r : RequestId}
    (hr : (s.channel.response r).isSome) :
    s.promised r <+: enqueuedFor r s.channel.queue.finished ↔
      (enqueuedFor r s.channel.queue.unfinished).length + (s.promised r).length ≤
        (s.channel.registered r).length := by
  have hregistered := Channel.registered_eq hs.tracked hr
  have happend := congrArg (enqueuedFor r)
    (HandlerQueue.finished_append_unfinished hs.orderly.queue)
  rw [enqueuedFor_append] at happend
  have hlength := congrArg List.length happend
  rw [List.length_append, hregistered] at hlength
  have hfinished : enqueuedFor r s.channel.queue.finished <+:
      enqueuedFor r s.channel.queue.enqueued := happend ▸ List.prefix_append _ _
  constructor
  · intro h
    have := h.length_le
    omega
  · intro h
    exact List.prefix_of_prefix_length_le (hs.promised r hr) hfinished (by omega)

/-- What a call that has returned has on record, it keeps. -/
theorem kept_map {calls : List WaitCall} {f : WaitCall → WaitCall}
    (hf : ∀ call promised finished,
      (f call).state = .returned promised finished ↔ call.state = .returned promised finished) :
    (∀ call ∈ calls.map f, ∀ promised finished, call.state = .returned promised finished →
      promised <+: finished) ↔
    ∀ call ∈ calls, ∀ promised finished, call.state = .returned promised finished →
      promised <+: finished := by
  simp only [List.forall_mem_map, hf]

/-- Replacing a call that has not returned. -/
theorem kept_set {calls : List WaitCall} {w : ℕ} {r : RequestId} {thread : Option ThreadId}
    {state : ResponseWait} (hw : calls[w]? = some ⟨r, thread, .checking⟩) :
    (∀ call ∈ calls.set w ⟨r, thread, state⟩, ∀ promised finished,
      call.state = .returned promised finished → promised <+: finished) ↔
    (∀ call ∈ calls, ∀ promised finished, call.state = .returned promised finished →
      promised <+: finished) ∧
    ∀ promised finished, state = .returned promised finished → promised <+: finished := by
  obtain ⟨hlt, hget⟩ := List.getElem?_eq_some_iff.mp hw
  constructor
  · intro h
    refine ⟨fun call hcall promised finished hstate => ?_, fun promised finished hstate =>
      h ⟨r, thread, state⟩ (List.mem_set hlt _) promised finished hstate⟩
    obtain ⟨i, hi⟩ := List.mem_iff_getElem?.mp hcall
    by_cases hiw : w = i
    · subst hiw
      obtain rfl : ⟨r, thread, .checking⟩ = call := Option.some.inj (hw.symm.trans hi)
      simp at hstate
    · refine h call ?_ promised finished hstate
      exact List.mem_of_getElem? ((List.getElem?_set_ne hiw).trans hi)
  · rintro ⟨hold, hnew⟩ call hcall promised finished hstate
    rcases List.mem_or_eq_of_mem_set hcall with hcall | rfl
    · exact hold call hcall promised finished hstate
    · exact hnew promised finished hstate

/-- **A step keeps the promise just when the handlers are done.** -/
theorem kept_step (hs : s.Promising) (h : s.step a = some s') :
    s'.Kept ↔ s.Kept ∧ s.HandlersDone a := by
  cases a with
  | channel b =>
      refine Iff.trans ?_ (and_iff_left trivial).symm
      simp only [step] at h
      split at h
      · simp at h
      · obtain ⟨c, -, rfl⟩ := Option.map_eq_some_iff.mp h
        rw [Kept, Kept, advance]
        dsimp only
        split
        · refine kept_map fun call promised finished => ?_
          cases call.state <;> simp [ResponseWait.wake]
        · rfl
  | call r thread =>
      refine Iff.trans ?_ (and_iff_left trivial).symm
      simp only [step] at h
      split at h
      · obtain rfl := Option.some.inj h
        simp [Kept, or_imp, forall_and]
      · simp at h
  | check w =>
      simp only [step] at h
      split at h
      case h_2 => simp at h
      case h_1 r thread hw =>
        have hdone : s.HandlersDone (.check w) ↔ ((s.channel.response r).isSome →
            (enqueuedFor r s.channel.queue.unfinished).length + (s.promised r).length ≤
              (s.channel.registered r).length) := by
          constructor
          · exact fun hdone => hdone r thread hw
          · intro hdone r' thread' hw'
            obtain ⟨rfl, rfl⟩ : r = r' ∧ thread = thread' := by simpa using hw.symm.trans hw'
            exact hdone
        split_ifs at h with hexited hnone
        · obtain rfl := Option.some.inj h
          rw [Kept, kept_set hw, hdone]
          have hresponse : s.channel.response r = none := by simpa using hnone
          simp [Kept, hresponse]
        · obtain rfl := Option.some.inj h
          rw [Kept, kept_set hw, hdone]
          have hr : (s.channel.response r).isSome := by
            simpa [Option.isSome_iff_ne_none] using hnone
          rw [← promised_prefix_iff hs hr]
          simp [Kept, hr]

/-- **In any run, all returns keep the promise if and only if each of them finds the handlers
done.** -/
theorem promise_kept_iff {as : List Action}
    (hrun : (waiting incoming).run ⟨.init incoming, [], fun _ => []⟩ as = some s) :
    s.Kept ↔ (waiting incoming).StepsWithin HandlersDone ⟨.init incoming, [], fun _ => []⟩ as := by
  have hinv := promising_invariant incoming
  rw [Machine.run_iff_stepsWithin hinv kept_step (hinv.start rfl) hrun]
  exact and_iff_right fun call hcall => by simp at hcall

/-- A request is sent, a handler is registered, and the response is received. -/
def answered : List Action :=
  [.channel (.draw (.request "pause" (.dict []))), .channel (.send 0 true),
    .channel (.onResponse 0 7), .channel .parser, .channel .parser, .channel .parser,
    .channel .parser]

/-- A channel that is about to receive that response. -/
def start : WaitingChannel := ⟨.init [.ok Channel.pauseResponse], [], fun _ => []⟩

/-- The handler thread executes the handler. -/
def executed : List Action :=
  answered ++ [.channel (.handler 0), .channel (.handler 0), .channel (.handler 0),
    .channel (.handler 0)]

/-- A call that is made once the handler has been executed. -/
theorem promise_kept_iff_executed :
    ∃ s, (waiting [.ok Channel.pauseResponse]).run start
        (executed ++ [.call 0 none, .check 0]) = some s ∧
      s.calls = [⟨0, none, .returned [7] [7]⟩] ∧
      (waiting [.ok Channel.pauseResponse]).StepsWithin HandlersDone start
        (executed ++ [.call 0 none, .check 0]) := by
  have hmap : ((waiting [.ok Channel.pauseResponse]).run start
      (executed ++ [.call 0 none, .check 0])).map calls =
        some [⟨0, none, .returned [7] [7]⟩] := rfl
  obtain ⟨s, hrun, hcalls⟩ := Option.map_eq_some_iff.mp hmap
  refine ⟨s, hrun, hcalls, (promise_kept_iff hrun).mp fun call hcall promised finished hstate => ?_⟩
  rw [hcalls, List.mem_singleton] at hcall
  subst hcall
  obtain ⟨rfl, rfl⟩ : [7] = promised ∧ [7] = finished := by simpa using hstate
  exact List.prefix_refl _

/-- **A call returns before the handler thread has woken up**: nothing was executed. -/
theorem promise_not_kept :
    ∃ s, (waiting [.ok Channel.pauseResponse]).run start
        (answered ++ [.call 0 none, .check 0]) = some s ∧
      s.calls = [⟨0, none, .returned [7] []⟩] ∧ ¬ s.Kept := by
  have hmap : ((waiting [.ok Channel.pauseResponse]).run start
      (answered ++ [.call 0 none, .check 0])).map calls =
        some [⟨0, none, .returned [7] []⟩] := rfl
  obtain ⟨s, hrun, hcalls⟩ := Option.map_eq_some_iff.mp hmap
  refine ⟨s, hrun, hcalls, fun hkept => ?_⟩
  have hinitial := hkept _ (hcalls ▸ List.mem_singleton_self _) [7] [] rfl
  simp at hinitial

end WaitingChannel

end Ptvsd
