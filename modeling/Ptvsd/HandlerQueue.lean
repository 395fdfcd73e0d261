import Ptvsd.Message

/-!
# The Handler Queue and Its Threads

The part of `JsonMessageChannel` that runs handlers: `_handler_queue`, `_handler_thread`,
`_enqueue_handlers` and the loop of `_run_handlers`. One step of a handler thread is one
of its critical sections, the start of a handler, or its end. What a step depends on
besides the queue — whether the channel is closed, whether the parser thread has ended —
is a parameter.

All handler threads that were ever started are kept, so that it is a statement about the
model that at most one of them is alive.

## Main results

* `HandlerQueue.Invariant`: handlers taken, the rest of the batch, and the queue make up
  the handlers enqueued, in order; the one thread that has not exited is `_handler_thread`;
  a nonempty queue has such a thread.
* `enqueue_invariant`, `advance_invariant`: the two operations keep the invariant.
-/

namespace Ptvsd

/-- The identity of an `OutgoingRequest` object. -/
abbrev RequestId := ℕ

/-- The identity of a handler thread. -/
abbrev ThreadId := ℕ

/-- A function registered with `on_response()`. -/
abbrev ResponseHandler := ℕ

/-! ### Queue items -/

/-- The plain functions that `_run_handlers` compares handlers to. -/
inductive PlainFunction where
  /-- `Event._handle`. -/
  | eventHandle
  /-- `Request._handle`. -/
  | requestHandle
  deriving DecidableEq

/-- The callables that can be enqueued. -/
inductive Callable where
  /-- A plain function of a class, not bound to an instance. -/
  | function (f : PlainFunction)
  /-- `message._handle`, bound to the message. -/
  | bound (f : PlainFunction) (message : Message)
  /-- The closure `run_handlers` made for a request; `none` is the synthetic request of a
  response that matches no request sent. -/
  | runHandlers (request : Option RequestId) (handlers : List ResponseHandler)
  /-- `channel._handle_disconnect`. -/
  | handleDisconnect

/-- `handler == f` for a plain function `f`: a bound method never equals the function that
it is bound from. -/
def Callable.equalsFunction : Callable → PlainFunction → Bool
  | .function g, f => g = f
  | _, _ => false

/-- `handler in (Event._handle, Request._handle)`. -/
def Callable.isMessageHandle (handler : Callable) : Bool :=
  handler.equalsFunction .eventHandle || handler.equalsFunction .requestHandle

/-- An element of `_handler_queue`. -/
structure Item where
  what : Message
  handler : Callable

/-- The handler of an event or of a request. -/
def Item.isEventOrRequest (item : Item) : Bool :=
  match item.what with
  | .event .. => true
  | .request .. => true
  | _ => false

/-- The handler of the disconnect. -/
def Item.isDisconnect (item : Item) : Bool :=
  match item.what with
  | .disconnect => true
  | _ => false

/-- `(message, message._handle)` for an event or a request. -/
def Item.ofMessage : Message → Item
  | .event seq event body => ⟨.event seq event body, .bound .eventHandle (.event seq event body)⟩
  | m => ⟨m, .bound .requestHandle m⟩

/-- The handlers of a response, wrapped into one. -/
def Item.ofResponse (response : Response) (request : Option RequestId)
    (handlers : List ResponseHandler) : Item :=
  ⟨.response response, .runHandlers request handlers⟩

/-- `(Disconnect(channel), channel._handle_disconnect)`. -/
def Item.disconnect : Item := ⟨.disconnect, .handleDisconnect⟩

@[simp] theorem Item.isMessageHandle_ofMessage (m : Message) :
    (Item.ofMessage m).handler.isMessageHandle = false := by
  cases m <;> rfl

@[simp] theorem Item.isEventOrRequest_ofResponse (r : Response) (request : Option RequestId)
    (handlers : List ResponseHandler) :
    (Item.ofResponse r request handlers).isEventOrRequest = false := rfl

@[simp] theorem Item.isEventOrRequest_disconnect : Item.disconnect.isEventOrRequest = false :=
  rfl

@[simp] theorem Item.isDisconnect_disconnect : Item.disconnect.isDisconnect = true := rfl

@[simp] theorem Item.isDisconnect_ofResponse (r : Response) (request : Option RequestId)
    (handlers : List ResponseHandler) :
    (Item.ofResponse r request handlers).isDisconnect = false := rfl

/-! ### Threads -/

/-- Where a thread is in `_run_handlers`. -/
inductive HandlerState where
  /-- At the top of the loop, about to read `_closed`. -/
  | top
  /-- `_closed` was set; waiting for the parser thread to end. -/
  | joining
  /-- About to take a snapshot of the queue; `closed` is what was read at the top. -/
  | ready (closed : Bool)
  /-- In `_handlers_enqueued.wait()`; `_closed` was not set. -/
  | waiting
  /-- Notified in `_handlers_enqueued.wait()`. -/
  | woken
  /-- About to take the next handler of the batch. -/
  | batch (closed : Bool) (rest : List Item)
  /-- Running a handler of the batch, with these still to come. -/
  | running (closed : Bool) (rest : List Item)
  /-- Returned. -/
  | exited

namespace HandlerState

/-- The handlers of the batch that are still to come. -/
def rest : HandlerState → List Item
  | batch _ rest => rest
  | running _ rest => rest
  | _ => []

/-- The effect of `_handlers_enqueued.notify_all()`. -/
def wake : HandlerState → HandlerState
  | waiting => woken
  | st => st

@[simp] theorem rest_batch (closed : Bool) (items : List Item) :
    (batch closed items).rest = items := rfl

@[simp] theorem rest_running (closed : Bool) (items : List Item) :
    (running closed items).rest = items := rfl

@[simp] theorem rest_wake (st : HandlerState) : st.wake.rest = st.rest := by
  cases st <;> rfl

@[simp] theorem wake_eq_exited {st : HandlerState} : st.wake = exited ↔ st = exited := by
  cases st <;> simp [wake]

end HandlerState

/-- A handler that was taken from a batch. -/
structure Taken where
  item : Item
  /-- Whether it was started, as opposed to skipped because the channel is closed. -/
  started : Bool
  /-- Whether `close()` had been called by then. -/
  closed : Bool

/-- The handler queue of a channel, with its threads. -/
structure HandlerQueue where
  /-- `_handler_queue`. -/
  handlerQueue : List Item
  /-- `_handler_thread`. -/
  handlerThread : Option ThreadId
  /-- All handler threads that were started. -/
  threads : List HandlerState
  /-- All handlers that were passed to `_enqueue_handlers`. -/
  enqueued : List Item
  /-- All handlers that were started or skipped. -/
  taken : List Taken

namespace HandlerQueue

/-- No handlers and no threads. -/
def empty : HandlerQueue := ⟨[], none, [], [], []⟩

/-- `_enqueue_handlers(what, *handlers)`. -/
def enqueue (items : List Item) (q : HandlerQueue) : HandlerQueue :=
  let q := { q with
    handlerQueue := q.handlerQueue ++ items
    enqueued := q.enqueued ++ items
    threads := q.threads.map HandlerState.wake }
  if q.handlerQueue ≠ [] ∧ q.handlerThread = none then
    { q with
      handlerThread := some q.threads.length
      threads := q.threads ++ [.top] }
  else q

/-- Moves a thread to another state. -/
def goto (q : HandlerQueue) (t : ThreadId) (st : HandlerState) : HandlerQueue :=
  { q with threads := q.threads.set t st }

/-- The critical section of `_run_handlers` that takes a snapshot of the queue. -/
def snapshot (q : HandlerQueue) (t : ThreadId) (closed : Bool) : HandlerQueue :=
  match q.handlerQueue with
  | [] =>
      if closed then { q.goto t .exited with handlerThread := none }
      else q.goto t (.batch closed [])
  | items => { q.goto t (.batch closed items) with handlerQueue := [] }

/-- Takes the next handler of the batch, to be started or skipped. -/
def take (q : HandlerQueue) (t : ThreadId) (item : Item) (started closed : Bool)
    (st : HandlerState) : HandlerQueue :=
  { q.goto t st with taken := q.taken ++ [⟨item, started, closed⟩] }

/-- The next step of a handler thread, if it is not blocked. `closed` says whether the
channel is closed, `parserEnded` whether the parser thread has ended. -/
def advance (closed parserEnded : Bool) (t : ThreadId) (q : HandlerQueue) :
    Option HandlerQueue :=
  match q.threads[t]? with
  | some .top => some (q.goto t (if closed then .joining else .ready false))
  | some .joining => if parserEnded then some (q.goto t (.ready true)) else none
  | some (.ready wasClosed) =>
      if !wasClosed && q.handlerQueue.isEmpty then some (q.goto t .waiting)
      else some (q.snapshot t wasClosed)
  | some .waiting => none
  | some .woken => some (q.snapshot t false)
  | some (.batch _ []) => some (q.goto t .top)
  | some (.batch wasClosed (item :: rest)) =>
      if wasClosed && item.handler.isMessageHandle then
        some (q.take t item false closed (.batch wasClosed rest))
      else some (q.take t item true closed (.running wasClosed rest))
  | some (.running wasClosed rest) => some (q.goto t (.batch wasClosed rest))
  | some .exited => none
  | none => none

/-! ### The invariant -/

/-- The rest of the batch being run. -/
def rest (q : HandlerQueue) : List Item :=
  match q.handlerThread with
  | none => []
  | some t => (q.threads[t]?.map HandlerState.rest).getD []

/-- The thread is executing `_run_handlers`, and has not decided to exit. -/
def Active (q : HandlerQueue) (t : ThreadId) : Prop :=
  ∃ st, q.threads[t]? = some st ∧ st ≠ .exited

/-- What holds of the queue outside of critical sections. -/
structure Invariant (q : HandlerQueue) : Prop where
  /-- Nothing is lost, duplicated or reordered. -/
  order : q.taken.map Taken.item ++ q.rest ++ q.handlerQueue = q.enqueued
  /-- `_handler_thread` is the one active thread. -/
  active : ∀ t, q.Active t ↔ q.handlerThread = some t
  /-- What is in the queue, an active thread is going to take. -/
  served : q.handlerQueue ≠ [] → q.handlerThread ≠ none

theorem empty_invariant : empty.Invariant :=
  ⟨rfl, fun t => by simp [Active, empty], fun h => absurd rfl h⟩

/-- The state of the active thread. -/
theorem Invariant.rest_eq {q : HandlerQueue} (h : q.Invariant) {t : ThreadId}
    {st : HandlerState} (ht : q.threads[t]? = some st) (hst : st ≠ .exited) :
    q.handlerThread = some t ∧ q.rest = st.rest := by
  have hthread : q.handlerThread = some t := (h.active t).mp ⟨st, ht, hst⟩
  refine ⟨hthread, ?_⟩
  rw [rest, hthread]
  simp only [ht, Option.map_some, Option.getD_some]

/-- **One step of a thread that goes on**: the handlers that it moves from the queue to its
batch, and from its batch to those taken, stay in order. -/
theorem Invariant.update {q : HandlerQueue} (h : q.Invariant) {t : ThreadId}
    {st st' : HandlerState} (ht : q.threads[t]? = some st) (hst : st ≠ .exited)
    (hst' : st' ≠ .exited) {taken : List Taken} {handlerQueue : List Item}
    (horder : taken.map Taken.item ++ st'.rest ++ handlerQueue =
      q.taken.map Taken.item ++ st.rest ++ q.handlerQueue) :
    Invariant { q with
      threads := q.threads.set t st', taken := taken, handlerQueue := handlerQueue } := by
  obtain ⟨hthread, hrest⟩ := h.rest_eq ht hst
  have hlt : t < q.threads.length := (List.getElem?_eq_some_iff.mp ht).1
  refine ⟨?_, ?_, ?_⟩
  · have hset : (q.threads.set t st')[t]? = some st' := List.getElem?_set_self hlt
    simp only [rest, hthread, hset, Option.map_some, Option.getD_some]
    rw [horder, ← hrest, h.order]
  · intro u
    rw [← h.active u]
    by_cases hu : t = u
    · subst hu
      simp only [Active, List.getElem?_set_self hlt, ht, Option.some.injEq, exists_eq_left']
      exact ⟨fun _ => hst, fun _ => hst'⟩
    · simp only [Active, List.getElem?_set_ne hu]
  · intro _
    simp [hthread]

theorem goto_invariant {q : HandlerQueue} (h : q.Invariant) {t : ThreadId}
    {st st' : HandlerState} (ht : q.threads[t]? = some st) (hst : st ≠ .exited)
    (hst' : st' ≠ .exited) (hrest : st'.rest = st.rest) : (q.goto t st').Invariant :=
  h.update ht hst hst' (by rw [hrest])

theorem snapshot_invariant {q : HandlerQueue} (h : q.Invariant) {t : ThreadId}
    {st : HandlerState} (ht : q.threads[t]? = some st) (hst : st ≠ .exited)
    (hrest : st.rest = []) (closed : Bool) : (q.snapshot t closed).Invariant := by
  rw [snapshot]
  cases hq : q.handlerQueue with
  | cons item items =>
      refine h.update ht hst (by simp) ?_
      simp [hrest, hq, goto]
  | nil =>
      cases closed with
      | false =>
          simp only [Bool.false_eq_true, if_false]
          exact goto_invariant h ht hst (by simp) (by simp [hrest])
      | true =>
          -- the thread decides to exit: nothing is left for it to take
          obtain ⟨hthread, hrest'⟩ := h.rest_eq ht hst
          have hlt : t < q.threads.length := (List.getElem?_eq_some_iff.mp ht).1
          refine ⟨?_, ?_, ?_⟩
          · have horder := h.order
            rw [hrest', hrest, hq] at horder
            simpa [rest, goto, hq] using horder
          · intro u
            simp only [if_true, reduceCtorEq, iff_false]
            rintro ⟨st', hu, hst'⟩
            by_cases htu : t = u
            · subst htu
              simp only [goto, List.getElem?_set_self hlt, Option.some.injEq] at hu
              exact hst' hu.symm
            · simp only [goto, List.getElem?_set_ne htu] at hu
              have hu' := (h.active u).mp ⟨st', hu, hst'⟩
              rw [hthread, Option.some.injEq] at hu'
              exact htu hu'
          · intro hne
            simp [goto, hq] at hne

theorem take_invariant {q : HandlerQueue} (h : q.Invariant) {t : ThreadId} {c : Bool}
    {item : Item} {items : List Item} (ht : q.threads[t]? = some (.batch c (item :: items)))
    {st' : HandlerState} (hst' : st' ≠ .exited) (hrest : st'.rest = items)
    (started closed : Bool) : (q.take t item started closed st').Invariant := by
  refine h.update ht (by simp) hst' ?_
  simp [hrest, goto]

/-- **A step of a handler thread keeps the invariant.** -/
theorem advance_invariant {q q' : HandlerQueue} (h : q.Invariant) {closed parserEnded : Bool}
    {t : ThreadId} (hstep : q.advance closed parserEnded t = some q') : q'.Invariant := by
  rw [advance] at hstep
  split at hstep
  case h_1 ht =>
    obtain rfl := Option.some.inj hstep
    refine goto_invariant h ht (by simp) ?_ ?_ <;> split <;> simp [HandlerState.rest]
  case h_2 ht =>
    split at hstep
    · obtain rfl := Option.some.inj hstep
      exact goto_invariant h ht (by simp) (by simp) rfl
    · simp at hstep
  case h_3 ht =>
    split at hstep
    · obtain rfl := Option.some.inj hstep
      exact goto_invariant h ht (by simp) (by simp) rfl
    · obtain rfl := Option.some.inj hstep
      exact snapshot_invariant h ht (by simp) rfl _
  case h_4 => simp at hstep
  case h_5 ht =>
    obtain rfl := Option.some.inj hstep
    exact snapshot_invariant h ht (by simp) rfl _
  case h_6 ht =>
    obtain rfl := Option.some.inj hstep
    exact goto_invariant h ht (by simp) (by simp) rfl
  case h_7 ht =>
    split at hstep
    · obtain rfl := Option.some.inj hstep
      exact take_invariant h ht (by simp) rfl _ _
    · obtain rfl := Option.some.inj hstep
      exact take_invariant h ht (by simp) rfl _ _
  case h_8 ht =>
    obtain rfl := Option.some.inj hstep
    exact goto_invariant h ht (by simp) (by simp) rfl
  case h_9 => simp at hstep
  case h_10 => simp at hstep

theorem rest_wake (q : HandlerQueue) :
    ({ q with threads := q.threads.map HandlerState.wake }).rest = q.rest := by
  unfold rest
  cases q.handlerThread with
  | none => rfl
  | some t =>
      simp only [List.getElem?_map]
      cases q.threads[t]? with
      | none => rfl
      | some st => simp

theorem active_wake (q : HandlerQueue) (t : ThreadId) :
    ({ q with threads := q.threads.map HandlerState.wake }).Active t ↔ q.Active t := by
  simp [Active, List.getElem?_map]

/-- A thread that is started is active. -/
theorem active_append (q : HandlerQueue) (t : ThreadId) :
    ({ q with threads := q.threads ++ [HandlerState.top] }).Active t ↔
      q.Active t ∨ t = q.threads.length := by
  simp only [Active]
  rcases Nat.lt_trichotomy t q.threads.length with hlt | rfl | hgt
  · simp only [List.getElem?_append_left hlt, hlt.ne, or_false]
  · simp
  · have hlen : (q.threads ++ [HandlerState.top]).length ≤ t := by
      rw [List.length_append, List.length_singleton]
      omega
    simp only [List.getElem?_eq_none hlen, List.getElem?_eq_none hgt.le, reduceCtorEq,
      false_and, exists_false, false_or, hgt.ne']

/-- **Enqueueing keeps the invariant**: a thread is started if there is none. -/
theorem enqueue_invariant {q : HandlerQueue} (h : q.Invariant) (items : List Item) :
    (q.enqueue items).Invariant := by
  rw [enqueue]
  dsimp only
  split_ifs with hspawn
  · obtain ⟨hne, hthread⟩ := hspawn
    have hempty : q.handlerQueue = [] := by
      by_contra hq
      exact h.served hq hthread
    refine ⟨?_, ?_, fun _ => by simp⟩
    · have horder := h.order
      simp only [rest, hthread, hempty, List.append_nil] at horder
      simp [rest, hempty, horder, HandlerState.rest]
    · intro t
      have hno : ¬ q.Active t := by simp [h.active t, hthread]
      have happend := active_append { q with threads := q.threads.map HandlerState.wake } t
      rw [active_wake, or_iff_right hno] at happend
      refine happend.trans ?_
      rw [List.length_map, Option.some.injEq, eq_comm]
  · refine ⟨?_, ?_, ?_⟩
    · have hrest := rest_wake q
      simp only [rest] at hrest ⊢
      rw [hrest, ← List.append_assoc]
      exact congrArg (· ++ items) h.order
    · intro t
      exact (active_wake q t).trans (h.active t)
    · intro hne hthread
      exact hspawn ⟨hne, hthread⟩

end HandlerQueue

end Ptvsd
