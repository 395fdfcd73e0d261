import Ptvsd.Handlers
import Ptvsd.Sequence

/-!
# Requests and Their Responses

What becomes of the requests that a channel sends, over all interleavings of the threads
that send them, register handlers for their responses, parse incoming messages, and clean
up after the disconnect.

A request that was put into `_sent_requests` stays there until a response with its number
is received, or until the clean-up. Between the critical section that takes it out and the
one that assigns its response, it is *in limbo*; the invariant `Tracked` has the request in
limbo as a parameter, so that the clean-up, which takes both steps at once for each
outstanding request, can be treated like the parser, which takes them separately.

## Main results

* `tracked_step`: the invariant survives every step.
* `responses`: **each request gets one response**, the first one that was received for it
  or the synthesized one, and its handlers are enqueued once.
-/

namespace Ptvsd

/-- The first response received with the number `seq`, behind the first `k` responses. -/
def RequestTable.firstAnswer (tbl : RequestTable) (k seq : ℕ) : Option Response :=
  (tbl.received.drop k).find? fun m => m.requestSeq = (seq : ℤ)

/-- The handlers in an item that are handlers of the response to a request. -/
def Item.handlersFor (r : RequestId) (item : Item) : List ResponseHandler :=
  match item.handler with
  | .runHandlers (some r') handlers => if r' = r then handlers else []
  | _ => []

/-- The handlers of the response to a request, among enqueued items. -/
def enqueuedFor (r : RequestId) (items : List Item) : List ResponseHandler :=
  items.flatMap (Item.handlersFor r)

@[simp] theorem enqueuedFor_append (r : RequestId) (xs ys : List Item) :
    enqueuedFor r (xs ++ ys) = enqueuedFor r xs ++ enqueuedFor r ys := by
  simp [enqueuedFor]

@[simp] theorem enqueuedFor_nil (r : RequestId) : enqueuedFor r [] = [] := rfl

@[simp] theorem enqueuedFor_ofMessage (r : RequestId) (m : Message) :
    enqueuedFor r [Item.ofMessage m] = [] := by
  cases m <;> rfl

@[simp] theorem enqueuedFor_disconnect (r : RequestId) : enqueuedFor r [Item.disconnect] = [] :=
  rfl

@[simp] theorem enqueuedFor_ofResponse (r : RequestId) (response : Response)
    (request : Option RequestId) (handlers : List ResponseHandler) :
    enqueuedFor r [Item.ofResponse response request handlers] =
      if request = some r then handlers else [] := by
  cases request <;> simp [enqueuedFor, Item.handlersFor, Item.ofResponse]

/-- The response that is synthesized for a request on disconnect. -/
def OutgoingRequest.synthesized (req : OutgoingRequest) (text : String) : Response :=
  ⟨none, req.seq, req.command, .noMoreMessages text⟩

/-- The parser thread will not look up another response. -/
def ParserState.isOver : ParserState → Bool
  | .disconnecting _ => true
  | .ended _ => true
  | _ => false

/-- The request that the parser thread has taken out of `_sent_requests` and not answered
yet. -/
def ParserState.limbo : ParserState → Option RequestId
  | .answering request _ => request
  | _ => none

namespace Channel

variable {incoming : List (Except ReadError Json)} {s s' : Channel} {a : Action}

/-! ### Effects on one request -/

/-- The step replaces the request `r` by `req` and enqueues the handlers `hs` of its
response; other requests are left alone. -/
structure Effect (s s' : Channel) (r : RequestId) (req : OutgoingRequest)
    (hs : List ResponseHandler) : Prop where
  requests : ∀ j, s'.table.requests[j]? = if r = j then some req else s.table.requests[j]?
  sentRequests : s'.table.sentRequests = s.table.sentRequests
  received : s'.table.received = s.table.received
  handlers : ∀ j, enqueuedFor j s'.queue.enqueued =
    enqueuedFor j s.queue.enqueued ++ if r = j then hs else []
  senders : s'.senders = s.senders
  seqIter : s'.seqIter = s.seqIter

/-- Modifying a request that is there. -/
theorem getElem?_modify_eq_some {requests : List OutgoingRequest} {r : RequestId}
    {req : OutgoingRequest} (hr : requests[r]? = some req)
    (f : OutgoingRequest → OutgoingRequest) (j : RequestId) :
    (requests.modify r f)[j]? = if r = j then some (f req) else requests[j]? := by
  rw [List.getElem?_modify]
  by_cases hj : r = j
  · subst hj
    simp [hr]
  · simp [hj]

/-- `_enqueue_response_handlers()` when there is a response. -/
theorem enqueueResponseHandlers_effect {r : RequestId} {req : OutgoingRequest}
    {response : Response} (hr : s.table.requests[r]? = some req)
    (hresponse : req.response = some response) :
    Effect s (enqueueResponseHandlers r s) r { req with responseHandlers := [] }
      req.responseHandlers := by
  obtain ⟨seq, command, resp, handlers, assigned, registered, sentAt⟩ := req
  obtain rfl : resp = some response := hresponse
  have heq : enqueueResponseHandlers r s =
      { s.enqueue [.ofResponse response (some r) handlers] with
        table := s.table.clearHandlers r } := by
    simp only [enqueueResponseHandlers, hr]
  rw [heq]
  exact ⟨getElem?_modify_eq_some hr _, rfl, rfl, fun j => by simp [enqueue], rfl, rfl⟩

/-- `_enqueue_response_handlers()` when there is none. -/
theorem enqueueResponseHandlers_none {r : RequestId} {req : OutgoingRequest}
    (hr : s.table.requests[r]? = some req) (hresponse : req.response = none) :
    enqueueResponseHandlers r s = s := by
  obtain ⟨seq, command, resp, handlers, assigned, registered, sentAt⟩ := req
  obtain rfl : resp = none := hresponse
  simp only [enqueueResponseHandlers, hr]

/-- **The response of a request is assigned**, and its handlers are enqueued. -/
theorem answer_effect {r : RequestId} {req : OutgoingRequest}
    (hr : s.table.requests[r]? = some req) (response : Response) :
    Effect s (s.answer (some r) response) r
      { req with
        response := some response
        assigned := req.assigned ++ [response]
        responseHandlers := [] }
      req.responseHandlers := by
  set s₁ : Channel := { s with table := s.table.setResponse r response } with hs₁
  have hr₁ : s₁.table.requests[r]? =
      some { req with response := some response, assigned := req.assigned ++ [response] } :=
    (getElem?_modify_eq_some hr _ r).trans (if_pos rfl)
  have he := enqueueResponseHandlers_effect hr₁ rfl
  refine ⟨fun j => ?_, he.sentRequests, he.received, he.handlers, he.senders, he.seqIter⟩
  refine (he.requests j).trans ?_
  by_cases hj : r = j
  · simp [hj]
  · simp only [if_neg hj]
    exact (getElem?_modify_eq_some hr _ j).trans (by simp [hj])

/-- **A handler is registered**: it is enqueued at once if there is a response, and kept
otherwise. -/
theorem onResponse_effect {r : RequestId} {req : OutgoingRequest}
    (hr : s.table.requests[r]? = some req) (handler : ResponseHandler) :
    Effect s (enqueueResponseHandlers r { s with table := s.table.register r handler }) r
      { req with
        responseHandlers := if req.response = none then req.responseHandlers ++ [handler] else []
        registered := req.registered ++ [handler] }
      (if req.response = none then [] else req.responseHandlers ++ [handler]) := by
  set s₁ : Channel := { s with table := s.table.register r handler } with hs₁
  have hreq : ∀ j, s₁.table.requests[j]? = if r = j then
      some { req with
        responseHandlers := req.responseHandlers ++ [handler]
        registered := req.registered ++ [handler] } else s.table.requests[j]? :=
    getElem?_modify_eq_some hr _
  have hr₁ := hreq r
  rw [if_pos rfl] at hr₁
  cases hresponse : req.response with
  | none =>
      rw [enqueueResponseHandlers_none hr₁ hresponse]
      exact ⟨fun j => by simpa [hresponse] using hreq j, rfl, rfl, fun j => by simp [hs₁], rfl,
        rfl⟩
  | some response =>
      have he := enqueueResponseHandlers_effect hr₁ hresponse
      refine ⟨fun j => ?_, he.sentRequests, he.received, ?_, he.senders, he.seqIter⟩
      · refine (he.requests j).trans ?_
        by_cases hj : r = j
        · simp [hj, hresponse]
        · simp only [if_neg hj]
          exact (hreq j).trans (if_neg hj)
      · simpa [hresponse] using he.handlers

/-! ### The invariant -/

/-- Where the response of a request comes from. -/
def AnsweredBy (tbl : RequestTable) (req : OutgoingRequest) (response : Response) : Prop :=
  ∃ k, req.sentAt = some k ∧
    (tbl.firstAnswer k req.seq = some response ∨
      (tbl.firstAnswer k req.seq = none ∧ ∃ text, response = req.synthesized text))

/-- What holds of one request; `enqueued` are the handlers of its response that were
enqueued. -/
structure RequestOk (tbl : RequestTable) (enqueued : List ResponseHandler)
    (req : OutgoingRequest) : Prop where
  /-- The response is assigned once. -/
  assigned : req.assigned = req.response.toList
  answered : ∀ response, req.response = some response → AnsweredBy tbl req response
  sentAt : ∀ k, req.sentAt = some k → k ≤ tbl.received.length
  /-- Every handler is kept or enqueued. -/
  handlers : enqueued ++ req.responseHandlers = req.registered
  /-- None is enqueued before there is a response. -/
  before : req.response = none → enqueued = []
  /-- None is kept once there is. -/
  after : req.response ≠ none → req.responseHandlers = []

/-- What holds of the requests of a channel, one of which may be in limbo. -/
structure Tracked (s : Channel) (limbo : Option RequestId) : Prop where
  numbered : s.Numbered
  /-- A number belongs to one request. -/
  seqs : ∀ (r r' : RequestId) (req req' : OutgoingRequest), s.table.requests[r]? = some req →
    s.table.requests[r']? = some req' → req.seq = req'.seq → r = r'
  seqBound : ∀ req ∈ s.table.requests, req.seq < s.seqIter
  senders : ∀ sender ∈ s.senders, ∀ r, sender.request = some r →
    ∃ req, s.table.requests[r]? = some req ∧ req.seq = sender.seq ∧
      (sender.state = .drawn → req.sentAt = none) ∧
      (sender.state = .written → req.sentAt ≠ none)
  ok : ∀ r req, s.table.requests[r]? = some req →
    RequestOk s.table (enqueuedFor r s.queue.enqueued) req
  /-- No handlers are enqueued for requests that are not made yet. -/
  fresh : ∀ r : RequestId, s.table.requests[r]? = none → enqueuedFor r s.queue.enqueued = []
  nodup : (s.table.sentRequests.map Prod.snd).Nodup
  /-- What is in `_sent_requests` has no response, and none was received for it. -/
  sent : ∀ p ∈ s.table.sentRequests, limbo ≠ some p.2 ∧
    ∃ req k, s.table.requests[p.2]? = some req ∧ req.seq = p.1 ∧ req.response = none ∧
      req.sentAt = some k ∧ s.table.firstAnswer k req.seq = none
  /-- What is in limbo has no response yet. -/
  inLimbo : ∀ r, limbo = some r → ∃ req k, s.table.requests[r]? = some req ∧
    req.response = none ∧ req.sentAt = some k
  /-- No request is forgotten. -/
  waiting : ∀ (r : RequestId) (req : OutgoingRequest), s.table.requests[r]? = some req →
    req.sentAt ≠ none → req.response = none →
      (req.seq, r) ∈ s.table.sentRequests ∨ limbo = some r
  /-- Responses are synthesized at the end. -/
  settled : ∀ (r : RequestId) (req : OutgoingRequest) (k : ℕ),
    s.table.requests[r]? = some req → req.response ≠ none → req.sentAt = some k →
      s.table.firstAnswer k req.seq = none → s.parser.isOver = true

/-- `Tracked`, for the request that the parser thread has in its hands. -/
structure TrackedChannel (s : Channel) : Prop where
  tracked : s.Tracked s.parser.limbo
  /-- The response in its hands is the first one received for the request. -/
  answering : ∀ (r : RequestId) (response : Response) (req : OutgoingRequest) (k : ℕ),
    s.parser = .answering (some r) response → s.table.requests[r]? = some req →
      req.sentAt = some k → s.table.firstAnswer k req.seq = some response

/-- Steps that leave the requests alone. -/
theorem Tracked.frame {limbo : Option RequestId} (hs : s.Tracked limbo)
    (htable : s'.table = s.table) (hsenders : s'.senders = s.senders)
    (hiter : s'.seqIter = s.seqIter)
    (hhandlers : ∀ r, enqueuedFor r s'.queue.enqueued = enqueuedFor r s.queue.enqueued)
    (hover : s.parser.isOver = true → s'.parser.isOver = true) : s'.Tracked limbo where
  numbered := ⟨hsenders ▸ hs.numbered.increasing, by rw [hsenders, hiter]; exact hs.numbered.bound⟩
  seqs := by rw [htable]; exact hs.seqs
  seqBound := by rw [htable, hiter]; exact hs.seqBound
  senders := by rw [htable, hsenders]; exact hs.senders
  ok := by
    intro r req hr
    rw [hhandlers r, htable]
    rw [htable] at hr
    exact hs.ok r req hr
  fresh := by
    intro r hr
    rw [hhandlers r]
    exact hs.fresh r (htable ▸ hr)
  nodup := by rw [htable]; exact hs.nodup
  sent := by rw [htable]; exact hs.sent
  inLimbo := by rw [htable]; exact hs.inLimbo
  waiting := by rw [htable]; exact hs.waiting
  settled := by
    intro r req k hr hresponse hk hnone
    rw [htable] at hr hnone
    exact hover (hs.settled r req k hr hresponse hk hnone)

/-- What holds of a request does not depend on the requests outstanding. -/
theorem RequestOk.transfer {tbl tbl' : RequestTable} {enqueued : List ResponseHandler}
    {req : OutgoingRequest} (h : RequestOk tbl enqueued req)
    (hreceived : tbl'.received = tbl.received) : RequestOk tbl' enqueued req := by
  refine ⟨h.assigned, fun response hresponse => ?_, ?_, h.handlers, h.before, h.after⟩
  · obtain ⟨k, hk, hanswer⟩ := h.answered response hresponse
    refine ⟨k, hk, ?_⟩
    simpa only [RequestTable.firstAnswer, hreceived] using hanswer
  · rw [hreceived]
    exact h.sentAt

/-- The request `r` is replaced by another one with the same number; no response is received.
-/
structure Replaces (tbl tbl' : RequestTable) (r : RequestId) (req req' : OutgoingRequest) :
    Prop where
  before : tbl.requests[r]? = some req
  requests : ∀ j, tbl'.requests[j]? = if r = j then some req' else tbl.requests[j]?
  received : tbl'.received = tbl.received
  seq : req'.seq = req.seq

section Replaces

variable {tbl tbl' : RequestTable} {r j : RequestId} {req req' x : OutgoingRequest}

theorem Replaces.self (h : Replaces tbl tbl' r req req') : tbl'.requests[r]? = some req' :=
  (h.requests r).trans (if_pos rfl)

theorem Replaces.other (h : Replaces tbl tbl' r req req') (hj : r ≠ j) :
    tbl'.requests[j]? = tbl.requests[j]? :=
  (h.requests j).trans (if_neg hj)

/-- A request that is there after the step is the new one, or was there before. -/
theorem Replaces.cases (h : Replaces tbl tbl' r req req') (hj : tbl'.requests[j]? = some x) :
    r = j ∧ req' = x ∨ r ≠ j ∧ tbl.requests[j]? = some x := by
  by_cases hrj : r = j
  · subst hrj
    exact Or.inl ⟨rfl, Option.some.inj (h.self.symm.trans hj)⟩
  · exact Or.inr ⟨hrj, (h.other hrj).symm.trans hj⟩

/-- A request that was there before the step is the old one, or is there after it. -/
theorem Replaces.cases' (h : Replaces tbl tbl' r req req') (hj : tbl.requests[j]? = some x) :
    r = j ∧ req = x ∨ r ≠ j ∧ tbl'.requests[j]? = some x := by
  by_cases hrj : r = j
  · subst hrj
    exact Or.inl ⟨rfl, Option.some.inj (h.before.symm.trans hj)⟩
  · exact Or.inr ⟨hrj, (h.other hrj).trans hj⟩

theorem Replaces.firstAnswer (h : Replaces tbl tbl' r req req') (k seq : ℕ) :
    tbl'.firstAnswer k seq = tbl.firstAnswer k seq := by
  rw [RequestTable.firstAnswer, h.received]
  rfl

/-- Its number was there before the step. -/
theorem Replaces.back (h : Replaces tbl tbl' r req req') (hj : tbl'.requests[j]? = some x) :
    ∃ y, tbl.requests[j]? = some y ∧ x.seq = y.seq := by
  rcases h.cases hj with ⟨rfl, rfl⟩ | ⟨-, hj⟩
  · exact ⟨req, h.before, h.seq⟩
  · exact ⟨x, hj, rfl⟩

/-- Numbers stay unique. -/
theorem Replaces.seqs (h : Replaces tbl tbl' r req req')
    (hs : ∀ (r r' : RequestId) (req req' : OutgoingRequest), tbl.requests[r]? = some req →
      tbl.requests[r']? = some req' → req.seq = req'.seq → r = r')
    (j j' : RequestId) (x x' : OutgoingRequest) (hj : tbl'.requests[j]? = some x)
    (hj' : tbl'.requests[j']? = some x') (heq : x.seq = x'.seq) : j = j' := by
  obtain ⟨y, hy, hyseq⟩ := h.back hj
  obtain ⟨y', hy', hyseq'⟩ := h.back hj'
  exact hs j j' y y' hy hy' (by rw [← hyseq, ← hyseq', heq])

/-- Numbers stay below a bound. -/
theorem Replaces.seqBound (h : Replaces tbl tbl' r req req') {n : ℕ}
    (hs : ∀ req ∈ tbl.requests, req.seq < n) : ∀ req ∈ tbl'.requests, req.seq < n := by
  intro x hx
  obtain ⟨j, hj⟩ := List.mem_iff_getElem?.mp hx
  obtain ⟨y, hy, hyseq⟩ := h.back hj
  rw [hyseq]
  exact hs y (List.mem_of_getElem? hy)

end Replaces

/-- **A step with an effect on one request** keeps the invariant, if the request is all
right afterwards, and got a response only if it was in limbo. -/
theorem Tracked.update {limbo limbo' : Option RequestId} (hs : s.Tracked limbo)
    {r : RequestId} {req req' : OutgoingRequest} {handlers : List ResponseHandler}
    (hr : s.table.requests[r]? = some req) (he : Effect s s' r req' handlers)
    (hseq : req'.seq = req.seq) (hsentAt : req'.sentAt = req.sentAt)
    (hok : RequestOk s'.table (enqueuedFor r s'.queue.enqueued) req')
    (hresponse : (req'.response = req.response ∧ limbo' = limbo) ∨
      (limbo = some r ∧ limbo' = none ∧ req'.response ≠ none))
    (hover : s.parser.isOver = true → s'.parser.isOver = true)
    (hover' : ∀ k, req'.response ≠ none → req'.sentAt = some k →
      s'.table.firstAnswer k req'.seq = none → s'.parser.isOver = true) :
    s'.Tracked limbo' := by
  have hrep : Replaces s.table s'.table r req req' := ⟨hr, he.requests, he.received, hseq⟩
  have hsame : ∀ {j}, r ≠ j →
      enqueuedFor j s'.queue.enqueued = enqueuedFor j s.queue.enqueued := by
    intro j hrj
    rw [he.handlers, if_neg hrj, List.append_nil]
  refine ⟨⟨?_, ?_⟩, hrep.seqs hs.seqs, ?_, ?_, ?_, ?_, ?_, ?_, ?_, ?_, ?_⟩
  · exact he.senders ▸ hs.numbered.increasing
  · rw [he.senders, he.seqIter]
    exact hs.numbered.bound
  · rw [he.seqIter]
    exact hrep.seqBound hs.seqBound
  · intro sender hsender j hj
    rw [he.senders] at hsender
    obtain ⟨x, hx, hxseq, hdrawn, hwritten⟩ := hs.senders sender hsender j hj
    rcases hrep.cases' hx with ⟨rfl, rfl⟩ | ⟨-, hx⟩
    · exact ⟨req', hrep.self, hseq.trans hxseq, hsentAt ▸ hdrawn, hsentAt ▸ hwritten⟩
    · exact ⟨x, hx, hxseq, hdrawn, hwritten⟩
  · intro j x hj
    rcases hrep.cases hj with ⟨rfl, rfl⟩ | ⟨hrj, hj⟩
    · exact hok
    · rw [hsame hrj]
      exact (hs.ok j x hj).transfer he.received
  · intro j hj
    have hrj : r ≠ j := by
      rintro rfl
      simp [hrep.self] at hj
    rw [hsame hrj]
    exact hs.fresh j ((hrep.other hrj).symm.trans hj)
  · rw [he.sentRequests]
    exact hs.nodup
  · intro p hp
    rw [he.sentRequests] at hp
    obtain ⟨hlimbo, x, k, hx, hxseq, hnone, hk, hfirst⟩ := hs.sent p hp
    rcases hrep.cases' hx with ⟨hrp, rfl⟩ | ⟨hrp, hx⟩
    · rcases hresponse with ⟨hkept, rfl⟩ | ⟨hlimbo', -⟩
      · exact ⟨hlimbo, req', k, hrp ▸ hrep.self, hseq.trans hxseq, hkept.trans hnone,
          hsentAt.trans hk, by rw [hrep.firstAnswer, hseq, hfirst]⟩
      · exact absurd (hrp ▸ hlimbo') hlimbo
    · refine ⟨?_, x, k, hx, hxseq, hnone, hk, by rw [hrep.firstAnswer, hfirst]⟩
      rcases hresponse with ⟨-, rfl⟩ | ⟨-, rfl, -⟩
      · exact hlimbo
      · simp
  · intro j hj
    rcases hresponse with ⟨hkept, rfl⟩ | ⟨-, rfl, -⟩
    · obtain ⟨x, k, hx, hnone, hk⟩ := hs.inLimbo j hj
      rcases hrep.cases' hx with ⟨rfl, rfl⟩ | ⟨-, hx⟩
      · exact ⟨req', k, hrep.self, hkept.trans hnone, hsentAt.trans hk⟩
      · exact ⟨x, k, hx, hnone, hk⟩
    · simp at hj
  · intro j x hj hsent hnone
    rw [he.sentRequests]
    rcases hrep.cases hj with ⟨rfl, rfl⟩ | ⟨hrj, hj⟩
    · rcases hresponse with ⟨hkept, rfl⟩ | ⟨-, -, hno⟩
      · rw [hseq]
        exact hs.waiting r req hr (hsentAt ▸ hsent) (hkept.symm.trans hnone)
      · exact absurd hnone hno
    · rcases hs.waiting j x hj hsent hnone with hmem | hlimbo
      · exact Or.inl hmem
      · rcases hresponse with ⟨-, rfl⟩ | ⟨hlimbo', -⟩
        · exact Or.inr hlimbo
        · exact absurd (Option.some.inj (hlimbo'.symm.trans hlimbo)) hrj
  · intro j x k hj hsome hk hnone
    rcases hrep.cases hj with ⟨rfl, rfl⟩ | ⟨hrj, hj⟩
    · exact hover' k hsome hk hnone
    · rw [hrep.firstAnswer] at hnone
      exact hover (hs.settled j x k hj hsome hk hnone)

/-- Registering a handler. -/
theorem Tracked.onResponse {limbo : Option RequestId} (hs : s.Tracked limbo) {r : RequestId}
    {req : OutgoingRequest} (hr : s.table.requests[r]? = some req) (handler : ResponseHandler) :
    (enqueueResponseHandlers r { s with table := s.table.register r handler }).Tracked limbo := by
  have he := onResponse_effect hr handler
  obtain ⟨tbl, q, hframe⟩ :=
    enqueueResponseHandlers_frame r { s with table := s.table.register r handler }
  have hparser : (enqueueResponseHandlers r
      { s with table := s.table.register r handler }).parser = s.parser := by
    rw [hframe]
  have hok := hs.ok r req hr
  have hfirst : ∀ k seq, (enqueueResponseHandlers r
      { s with table := s.table.register r handler }).table.firstAnswer k seq =
        s.table.firstAnswer k seq := by
    intro k seq
    rw [RequestTable.firstAnswer, he.received]
    rfl
  refine hs.update hr he rfl rfl ⟨hok.assigned, ?_, ?_, ?_, ?_, ?_⟩ (Or.inl ⟨rfl, rfl⟩)
    (fun h => by rwa [hparser]) ?_
  · intro response hresponse
    obtain ⟨k, hk, hanswer⟩ := hok.answered response hresponse
    exact ⟨k, hk, by rwa [hfirst]⟩
  · rw [he.received]
    exact hok.sentAt
  · rw [he.handlers, if_pos rfl]
    cases hresponse : req.response with
    | none =>
        simp only [if_true, List.append_nil]
        rw [← List.append_assoc, hok.handlers]
    | some response =>
        simp only [reduceCtorEq, if_false, List.append_nil]
        rw [← List.append_assoc, hok.handlers]
  · intro hnone
    replace hnone : req.response = none := hnone
    rw [he.handlers, if_pos rfl, if_pos hnone, hok.before hnone]
    rfl
  · intro hsome
    exact if_neg hsome
  · intro k hsome hk hnone
    rw [hfirst] at hnone
    rw [hparser]
    exact hs.settled r req k hr hsome hk hnone

/-- **Answering the request in limbo**, with the first response received for it or, if
there is none, with the synthesized one. -/
theorem Tracked.answer {r : RequestId} (hs : s.Tracked (some r)) {req : OutgoingRequest}
    (hr : s.table.requests[r]? = some req) {response : Response}
    (hanswer : AnsweredBy s.table req response)
    (hover : ∀ k, req.sentAt = some k → s.table.firstAnswer k req.seq = none →
      s.parser.isOver = true) :
    (s.answer (some r) response).Tracked none := by
  have he := answer_effect hr response
  obtain ⟨tbl, q, hframe⟩ := answer_frame (some r) response s
  have hparser : (s.answer (some r) response).parser = s.parser := by rw [hframe]
  have hok := hs.ok r req hr
  have hnone : req.response = none := by
    obtain ⟨x, k, hx, hnone, -⟩ := hs.inLimbo r rfl
    obtain rfl : req = x := Option.some.inj (hr.symm.trans hx)
    exact hnone
  have hfirst : ∀ k seq, (s.answer (some r) response).table.firstAnswer k seq =
      s.table.firstAnswer k seq := by
    intro k seq
    rw [RequestTable.firstAnswer, he.received]
    rfl
  refine hs.update hr he rfl rfl ⟨?_, ?_, ?_, ?_, ?_, fun _ => rfl⟩
    (Or.inr ⟨rfl, rfl, by simp⟩) (fun h => by rwa [hparser]) ?_
  · rw [hok.assigned, hnone]
    rfl
  · intro response' hresponse
    obtain rfl : response = response' := Option.some.inj hresponse
    obtain ⟨k, hk, horigin⟩ := hanswer
    exact ⟨k, hk, by rwa [hfirst]⟩
  · rw [he.received]
    exact hok.sentAt
  · rw [he.handlers, if_pos rfl, List.append_nil, hok.handlers]
  · simp
  · intro k _ hk hno
    rw [hfirst] at hno
    rw [hparser]
    exact hover k hk hno

/-! ### Looking up a response -/

theorem lookup_eq_some {tbl : RequestTable} {n : ℤ} {r : RequestId}
    (h : tbl.lookup n = some r) : ∃ q : ℕ, (q, r) ∈ tbl.sentRequests ∧ (q : ℤ) = n := by
  obtain ⟨⟨q, r'⟩, hfind, rfl⟩ := Option.map_eq_some_iff.mp h
  exact ⟨q, List.mem_of_find?_eq_some hfind, by simpa using List.find?_some hfind⟩

theorem lookup_eq_none {tbl : RequestTable} {n : ℤ} (h : tbl.lookup n = none)
    {p : ℕ × RequestId} (hp : p ∈ tbl.sentRequests) : (p.1 : ℤ) ≠ n := by
  have hfind := List.find?_eq_none.mp (Option.map_eq_none_iff.mp h) p hp
  simpa using hfind

/-- **Taking a request out of `_sent_requests`** puts it in limbo. -/
theorem Tracked.remove (hs : s.Tracked none) (n : ℤ) :
    ({ s with table := s.table.remove n }).Tracked (s.table.lookup n) := by
  have hmem : ∀ {p}, p ∈ (s.table.remove n).sentRequests →
      p ∈ s.table.sentRequests ∧ (p.1 : ℤ) ≠ n := by
    intro p hp
    simpa [RequestTable.remove] using hp
  refine ⟨⟨hs.numbered.increasing, hs.numbered.bound⟩, hs.seqs, hs.seqBound, hs.senders, ?_,
    hs.fresh, ?_, ?_, ?_, ?_, hs.settled⟩
  · intro r req hr
    have hok := hs.ok r req hr
    exact ⟨hok.assigned, hok.answered, hok.sentAt, hok.handlers, hok.before, hok.after⟩
  · exact hs.nodup.sublist (List.filter_sublist.map _)
  · intro p hp
    obtain ⟨hp', hne⟩ := hmem hp
    obtain ⟨-, req, k, hreq, hseq, hrest⟩ := hs.sent p hp'
    refine ⟨fun hlookup => ?_, req, k, hreq, hseq, hrest⟩
    obtain ⟨q, hq, hqn⟩ := lookup_eq_some hlookup
    obtain ⟨-, req', -, hreq', hseq', -⟩ := hs.sent _ hq
    obtain rfl : req = req' := Option.some.inj (hreq.symm.trans hreq')
    exact hne (by rw [← hseq, hseq', hqn])
  · intro r hr
    obtain ⟨q, hq, -⟩ := lookup_eq_some hr
    obtain ⟨-, req, k, hreq, -, hnone, hk, -⟩ := hs.sent _ hq
    exact ⟨req, k, hreq, hnone, hk⟩
  · intro r req hr hsent hnone
    rcases hs.waiting r req hr hsent hnone with hin | hno
    · by_cases hn : (req.seq : ℤ) = n
      · refine Or.inr ?_
        cases hlookup : s.table.lookup n with
        | none => exact absurd hn (lookup_eq_none hlookup hin)
        | some r' =>
            obtain ⟨q, hq, hqn⟩ := lookup_eq_some hlookup
            obtain ⟨-, req', -, hreq', hseq', -⟩ := hs.sent _ hq
            have hsame : req'.seq = req.seq := by
              rw [hseq']
              omega
            rw [hs.seqs r' r req' req hreq' hr hsame]
      · exact Or.inl (by simpa [RequestTable.remove] using ⟨hin, hn⟩)
    · simp at hno

/-- The first response received stays the first one. -/
theorem firstAnswer_append {tbl : RequestTable} {k seq : ℕ} (hk : k ≤ tbl.received.length)
    (m : Response) :
    ({ tbl with received := tbl.received ++ [m] }).firstAnswer k seq =
      (tbl.firstAnswer k seq).or (if m.requestSeq = (seq : ℤ) then some m else none) := by
  unfold RequestTable.firstAnswer
  rw [List.drop_append_of_le_length hk, List.find?_append]
  by_cases hm : m.requestSeq = (seq : ℤ)
  · simp [hm]
  · simp [hm]

/-- **Receiving a response** to none of the outstanding requests. -/
theorem Tracked.received {limbo : Option RequestId} (hs : s.Tracked limbo) {m : Response}
    (hm : ∀ p ∈ s.table.sentRequests, (p.1 : ℤ) ≠ m.requestSeq)
    (hover : s.parser.isOver = false) :
    ({ s with table := { s.table with received := s.table.received ++ [m] } }).Tracked limbo := by
  refine ⟨⟨hs.numbered.increasing, hs.numbered.bound⟩, hs.seqs, hs.seqBound, hs.senders, ?_,
    hs.fresh, hs.nodup, ?_, hs.inLimbo, hs.waiting, ?_⟩
  · intro r req hr
    have hok := hs.ok r req hr
    refine ⟨hok.assigned, fun response hresponse => ?_, fun k hk => ?_, hok.handlers, hok.before,
      hok.after⟩
    · obtain ⟨k, hk, horigin | ⟨hnone, -⟩⟩ := hok.answered response hresponse
      · refine ⟨k, hk, Or.inl ?_⟩
        rw [firstAnswer_append (hok.sentAt k hk), horigin]
        rfl
      · have := hs.settled r req k hr (by simp [hresponse]) hk hnone
        simp [hover] at this
    · have := hok.sentAt k hk
      simp only [List.length_append]
      omega
  · intro p hp
    obtain ⟨hlimbo, req, k, hreq, hseq, hnone, hk, hfirst⟩ := hs.sent p hp
    refine ⟨hlimbo, req, k, hreq, hseq, hnone, hk, ?_⟩
    have hne : ¬ m.requestSeq = (req.seq : ℤ) := fun heq => hm p hp (by rw [← hseq, heq])
    rw [firstAnswer_append ((hs.ok _ _ hreq).sentAt k hk), hfirst, if_neg hne]
    rfl
  · intro r req k hr hsome hk hnone
    rw [firstAnswer_append ((hs.ok _ _ hr).sentAt k hk), Option.or_eq_none_iff] at hnone
    exact hs.settled r req k hr hsome hk hnone.1

/-! ### Sending -/

/-- The requests after another one was made. -/
theorem make_cases {tbl : RequestTable} {seq : ℕ} {command : String} {j : RequestId}
    {req : OutgoingRequest} (h : (tbl.make seq command).requests[j]? = some req) :
    tbl.requests[j]? = some req ∨ (j = tbl.requests.length ∧ req = .new seq command) := by
  simp only [RequestTable.make, List.getElem?_append] at h
  split at h
  · exact Or.inl h
  · next hlt =>
    obtain ⟨hj, hreq⟩ := List.getElem?_eq_some_iff.mp h
    simp only [List.length_singleton] at hj
    have hle : tbl.requests.length ≤ j := Nat.not_lt.mp hlt
    have hlast : j = tbl.requests.length :=
      Nat.le_antisymm (Nat.sub_eq_zero_iff_le.mp (by omega)) hle
    exact Or.inr ⟨hlast, by simpa using hreq.symm⟩

theorem make_keeps {tbl : RequestTable} {seq : ℕ} {command : String} {j : RequestId}
    {req : OutgoingRequest} (h : tbl.requests[j]? = some req) :
    (tbl.make seq command).requests[j]? = some req := by
  rw [RequestTable.make, List.getElem?_append_left (List.getElem?_eq_some_iff.mp h).1, h]

/-- A new request is neither sent nor answered. -/
theorem Tracked.draw {limbo : Option RequestId} (hs : s.Tracked limbo) (message : Outgoing)
    (hnumbered : (s.draw message).Numbered) : (s.draw message).Tracked limbo := by
  cases message with
  | event | response =>
      refine ⟨hnumbered, hs.seqs, fun req hreq => ?_, fun sender hsender r hr => ?_, hs.ok,
        hs.fresh, hs.nodup, hs.sent, hs.inLimbo, hs.waiting, hs.settled⟩
      · exact Nat.lt_succ_of_lt (hs.seqBound req hreq)
      · rcases List.mem_append.mp hsender |>.imp_right List.mem_singleton.mp with hold | rfl
        · exact hs.senders sender hold r hr
        · simp at hr
  | request command arguments =>
      have hbound : ∀ {j : RequestId} {req : OutgoingRequest},
          s.table.requests[j]? = some req → req.seq < s.seqIter := fun hj =>
        hs.seqBound _ (List.mem_of_getElem? hj)
      refine ⟨hnumbered, ?_, ?_, ?_, ?_, ?_, hs.nodup, ?_, ?_, ?_, ?_⟩
      · intro j j' req req' hj hj' heq
        obtain hj | ⟨rfl, rfl⟩ := make_cases hj <;> obtain hj' | ⟨rfl, rfl⟩ := make_cases hj'
        · exact hs.seqs j j' req req' hj hj' heq
        · have := hbound hj
          simp only [OutgoingRequest.new] at heq
          omega
        · have := hbound hj'
          simp only [OutgoingRequest.new] at heq
          omega
        · rfl
      · intro req hreq
        rcases List.mem_append.mp hreq |>.imp_right List.mem_singleton.mp with hold | rfl
        · exact Nat.lt_succ_of_lt (hs.seqBound req hold)
        · exact Nat.lt_succ_self _
      · intro sender hsender r hr
        rcases List.mem_append.mp hsender |>.imp_right List.mem_singleton.mp with hold | rfl
        · obtain ⟨req, hreq, hrest⟩ := hs.senders sender hold r hr
          exact ⟨req, make_keeps hreq, hrest⟩
        · obtain rfl : s.table.requests.length = r := Option.some.inj hr
          exact ⟨.new s.seqIter command, List.getElem?_concat_length, rfl, fun _ => rfl, by simp⟩
      · intro r req hr
        rcases make_cases hr with hr | ⟨rfl, rfl⟩
        · have hok := hs.ok r req hr
          exact ⟨hok.assigned, hok.answered, hok.sentAt, hok.handlers, hok.before, hok.after⟩
        · have hnone : enqueuedFor s.table.requests.length s.queue.enqueued = [] :=
            hs.fresh _ (List.getElem?_eq_none le_rfl)
          exact ⟨rfl, by simp [OutgoingRequest.new], by simp [OutgoingRequest.new],
            (List.append_nil _).trans hnone,
            fun _ => hnone, fun h => absurd rfl h⟩
      · intro r hr
        refine hs.fresh r (List.getElem?_eq_none ?_)
        have hlen : (s.table.requests ++ [OutgoingRequest.new s.seqIter command]).length ≤ r :=
          List.getElem?_eq_none_iff.mp hr
        exact (Nat.le_of_lt (by simp)).trans hlen
      · intro p hp
        obtain ⟨hlimbo, req, k, hreq, hrest⟩ := hs.sent p hp
        exact ⟨hlimbo, req, k, make_keeps hreq, hrest⟩
      · intro r hr
        obtain ⟨req, k, hreq, hrest⟩ := hs.inLimbo r hr
        exact ⟨req, k, make_keeps hreq, hrest⟩
      · intro r req hr hsent hnone
        rcases make_cases hr with hr | ⟨rfl, rfl⟩
        · exact hs.waiting r req hr hsent hnone
        · simp [OutgoingRequest.new] at hsent
      · intro r req k hr hsome hk hnone
        rcases make_cases hr with hr | ⟨rfl, rfl⟩
        · exact hs.settled r req k hr hsome hk hnone
        · simp [OutgoingRequest.new] at hsome

/-- The senders after one of them is done: the others, and that one. -/
theorem mem_set_senders {senders : List Sender} {i : ℕ} {x y : Sender}
    (h : y ∈ senders.set i x) : y = x ∨ ∃ j, j ≠ i ∧ senders[j]? = some y := by
  obtain ⟨j, hj⟩ := List.mem_iff_getElem?.mp h
  by_cases hij : i = j
  · subst hij
    have hlt : i < senders.length := by
      simpa using (List.getElem?_eq_some_iff.mp hj).1
    rw [List.getElem?_set_self hlt, Option.some.injEq] at hj
    exact Or.inl hj.symm
  · rw [List.getElem?_set_ne hij] at hj
    exact Or.inr ⟨j, Ne.symm hij, hj⟩

/-- A sender that is done without registering a request. -/
theorem Tracked.setSender {limbo : Option RequestId} (hs : s.Tracked limbo) {i : ℕ}
    {sender : Sender} {state : SendState} (hi : s.senders[i]? = some sender)
    (hstate : state = .failed ∨ sender.request = none) (htable : s'.table = s.table)
    (hsenders : s'.senders = s.senders.set i { sender with state := state })
    (hiter : s'.seqIter = s.seqIter) (hqueue : s'.queue = s.queue)
    (hparser : s'.parser = s.parser) (hnumbered : s'.Numbered) : s'.Tracked limbo := by
  refine ⟨hnumbered, ?_, ?_, ?_, ?_, ?_, ?_, ?_, ?_, ?_, ?_⟩
  · rw [htable]
    exact hs.seqs
  · rw [htable, hiter]
    exact hs.seqBound
  · intro x hx r hr
    rw [htable]
    rw [hsenders] at hx
    rcases mem_set_senders hx with rfl | ⟨j, -, hj⟩
    · rcases hstate with rfl | hno
      · obtain ⟨req, hreq, hseq, -⟩ := hs.senders sender (List.mem_of_getElem? hi) r hr
        exact ⟨req, hreq, hseq, by simp, by simp⟩
      · simp [hno] at hr
    · exact hs.senders x (List.mem_of_getElem? hj) r hr
  · rw [htable, hqueue]
    exact hs.ok
  · rw [htable, hqueue]
    exact hs.fresh
  · rw [htable]
    exact hs.nodup
  · rw [htable]
    exact hs.sent
  · rw [htable]
    exact hs.inLimbo
  · rw [htable]
    exact hs.waiting
  · rw [htable, hparser]
    exact hs.settled

/-- **A request is put into `_sent_requests`**, and then written or not. -/
theorem Tracked.send {limbo : Option RequestId} (hs : s.Tracked limbo) {i : ℕ}
    {sender : Sender} {r : RequestId} {state : SendState} (hi : s.senders[i]? = some sender)
    (hdrawn : sender.state = .drawn) (hstate : state ≠ .drawn) (hr : sender.request = some r)
    (hlimbo : limbo ≠ some r) (htable : s'.table = s.table.insert sender.seq r)
    (hsenders : s'.senders = s.senders.set i { sender with state := state })
    (hiter : s'.seqIter = s.seqIter) (hqueue : s'.queue = s.queue)
    (hparser : s'.parser = s.parser) (hnumbered : s'.Numbered) : s'.Tracked limbo := by
  obtain ⟨req, hreq, hseq, hnot, -⟩ := hs.senders sender (List.mem_of_getElem? hi) r hr
  have hsentAt := hnot hdrawn
  have hok := hs.ok r req hreq
  have hnone : req.response = none := by
    cases hresponse : req.response with
    | none => rfl
    | some response =>
        obtain ⟨k, hk, -⟩ := hok.answered response hresponse
        simp [hsentAt] at hk
  set req' : OutgoingRequest := { req with sentAt := some s.table.received.length } with hreq'
  have hreceived : s'.table.received = s.table.received := by
    rw [htable]
    rfl
  have hrep : Replaces s.table s'.table r req req' := by
    refine ⟨hreq, ?_, hreceived, rfl⟩
    rw [htable]
    exact getElem?_modify_eq_some hreq _
  have hsent : s'.table.sentRequests = s.table.sentRequests ++ [(sender.seq, r)] := by
    rw [htable]
    rfl
  -- what was outstanding before is another request
  have hnew : ∀ p ∈ s.table.sentRequests, r ≠ p.2 := by
    rintro p hp rfl
    obtain ⟨-, x, k, hx, -, -, hk, -⟩ := hs.sent p hp
    obtain rfl : req = x := Option.some.inj (hreq.symm.trans hx)
    simp [hsentAt] at hk
  refine ⟨hnumbered, hrep.seqs hs.seqs, ?_, ?_, ?_, ?_, ?_, ?_, ?_, ?_, ?_⟩
  · rw [hiter]
    exact hrep.seqBound hs.seqBound
  · intro x hx j hj
    rw [hsenders] at hx
    rcases mem_set_senders hx with rfl | ⟨i', hi', hx'⟩
    · obtain rfl : r = j := Option.some.inj (hr.symm.trans hj)
      exact ⟨req', hrep.self, hseq, fun h => absurd h hstate, by simp [hreq']⟩
    · obtain ⟨y, hy, hyseq, hrest⟩ := hs.senders x (List.mem_of_getElem? hx') j hj
      rcases hrep.cases' hy with ⟨rfl, rfl⟩ | ⟨-, hy⟩
      · exact absurd (hs.numbered.inj hx' hi (hyseq.symm.trans hseq)) hi'
      · exact ⟨y, hy, hyseq, hrest⟩
  · intro j x hj
    rw [hqueue]
    rcases hrep.cases hj with ⟨rfl, rfl⟩ | ⟨-, hj⟩
    · refine ⟨hok.assigned, fun response hresponse => ?_, fun k hk => ?_, hok.handlers, hok.before,
        hok.after⟩
      · simp [hreq', hnone] at hresponse
      · rw [hreceived]
        exact (Option.some.inj hk).symm.le
    · exact (hs.ok j x hj).transfer hreceived
  · intro j hj
    have hrj : r ≠ j := by
      rintro rfl
      simp [hrep.self] at hj
    rw [hqueue]
    exact hs.fresh j ((hrep.other hrj).symm.trans hj)
  · rw [hsent, List.map_append, List.nodup_append]
    refine ⟨hs.nodup, by simp, fun x hx y hy => ?_⟩
    obtain ⟨p, hp, rfl⟩ := List.mem_map.mp hx
    obtain rfl : y = r := by simpa using hy
    exact (hnew p hp).symm
  · intro p hp
    rw [hsent, List.mem_append, List.mem_singleton] at hp
    rcases hp with hp | rfl
    · obtain ⟨hp', x, k, hx, hxseq, hxnone, hk, hxfirst⟩ := hs.sent p hp
      exact ⟨hp', x, k, (hrep.other (hnew p hp)).trans hx, hxseq, hxnone, hk,
        by rw [hrep.firstAnswer, hxfirst]⟩
    · refine ⟨hlimbo, req', s.table.received.length, hrep.self, hseq, hnone, rfl, ?_⟩
      rw [hrep.firstAnswer, RequestTable.firstAnswer, List.drop_length]
      rfl
  · intro j hj
    obtain ⟨x, k, hx, hxnone, hk⟩ := hs.inLimbo j hj
    have hrj : r ≠ j := by
      rintro rfl
      exact hlimbo hj
    exact ⟨x, k, (hrep.other hrj).trans hx, hxnone, hk⟩
  · intro j x hj hxsent hxnone
    rw [hsent, List.mem_append, List.mem_singleton]
    rcases hrep.cases hj with ⟨rfl, rfl⟩ | ⟨-, hj⟩
    · exact Or.inl (Or.inr (by rw [hreq', hseq]))
    · rcases hs.waiting j x hj hxsent hxnone with hmem | hlim
      · exact Or.inl (Or.inl hmem)
      · exact Or.inr hlim
  · intro j x k hj hsome hk hxnone
    rw [hparser]
    rcases hrep.cases hj with ⟨rfl, rfl⟩ | ⟨-, hj⟩
    · exact absurd hnone hsome
    · rw [hrep.firstAnswer] at hxnone
      exact hs.settled j x k hj hsome hk hxnone

/-! ### Cleaning up -/

/-- The requests after a step are those from before it, and no response was received. -/
structure Keeps (s s' : Channel) : Prop where
  received : s'.table.received = s.table.received
  requests : ∀ (r : RequestId) (req : OutgoingRequest), s.table.requests[r]? = some req →
    ∃ req', s'.table.requests[r]? = some req' ∧ req'.seq = req.seq ∧
      req'.command = req.command ∧ req'.sentAt = req.sentAt ∧ req'.registered = req.registered

theorem Keeps.refl (s : Channel) : s.Keeps s :=
  ⟨rfl, fun _ req hr => ⟨req, hr, rfl, rfl, rfl, rfl⟩⟩

theorem Keeps.trans {s₁ s₂ s₃ : Channel} (h₁ : s₁.Keeps s₂) (h₂ : s₂.Keeps s₃) :
    s₁.Keeps s₃ := by
  refine ⟨h₂.received.trans h₁.received, fun r req hr => ?_⟩
  obtain ⟨req₂, hr₂, hseq₂, hcommand₂, hsentAt₂, hregistered₂⟩ := h₁.requests r req hr
  obtain ⟨req₃, hr₃, hseq₃, hcommand₃, hsentAt₃, hregistered₃⟩ := h₂.requests r req₂ hr₂
  exact ⟨req₃, hr₃, hseq₃.trans hseq₂, hcommand₃.trans hcommand₂, hsentAt₃.trans hsentAt₂,
    hregistered₃.trans hregistered₂⟩

theorem Effect.keeps {r : RequestId} {req req' : OutgoingRequest} {hs : List ResponseHandler}
    (he : Effect s s' r req' hs) (hr : s.table.requests[r]? = some req)
    (hseq : req'.seq = req.seq) (hcommand : req'.command = req.command)
    (hsentAt : req'.sentAt = req.sentAt) (hregistered : req'.registered = req.registered) :
    s.Keeps s' := by
  refine ⟨he.received, fun j x hj => ?_⟩
  by_cases hrj : r = j
  · subst hrj
    obtain rfl : req = x := Option.some.inj (hr.symm.trans hj)
    exact ⟨req', (he.requests r).trans (if_pos rfl), hseq, hcommand, hsentAt, hregistered⟩
  · exact ⟨x, (he.requests j).trans ((if_neg hrj).trans hj), rfl, rfl, rfl, rfl⟩

/-- The JSON of a synthesized response is in order. -/
theorem parse_synthesizedJson (seq : ℕ) (command text : String) :
    parseResponse (synthesizedJson seq command text) (some (.noMoreMessages text)) =
      .ok ⟨none, seq, command, .noMoreMessages text⟩ := by
  rw [parseResponse_synthesized]
  · rfl
  · rfl
  · rfl
  · rfl

/-- **One outstanding request is answered** on disconnect. -/
theorem Tracked.synthesize (hs : s.Tracked none) (hover : s.parser.isOver = true) {q : ℕ}
    {r : RequestId} {rest : List (ℕ × RequestId)} (hsent : s.table.sentRequests = (q, r) :: rest)
    (text : String) :
    (synthesize text s r).Tracked none ∧ (synthesize text s r).table.sentRequests = rest ∧
      s.Keeps (synthesize text s r) := by
  obtain ⟨-, req, k, hreq, hseq, -, hk, hfirst⟩ := hs.sent (q, r) (by simp [hsent])
  replace hreq : s.table.requests[r]? = some req := hreq
  replace hseq : req.seq = q := hseq
  have hlookup : s.table.lookup (q : ℤ) = some r := by
    simp [RequestTable.lookup, hsent]
  have hremove : s.Tracked none → ({ s with table := s.table.remove q }).Tracked (some r) :=
    fun hs => hlookup ▸ hs.remove q
  have heq : Channel.synthesize text s r =
      Channel.answer (some r) (req.synthesized text) { s with table := s.table.remove q } := by
    simp only [Channel.synthesize, hreq, parse_synthesizedJson]
    rw [hseq, hlookup]
    simp [OutgoingRequest.synthesized, hseq]
  have he := answer_effect (s := { s with table := s.table.remove q }) hreq
    (req.synthesized text)
  have hothers : ∀ p ∈ rest, p.1 ≠ q := by
    rintro p hp rfl
    obtain ⟨-, x, -, hx, hxseq, -⟩ := hs.sent p (by simp [hsent, hp])
    have hr : r = p.2 := hs.seqs r p.2 req x hreq hx (by rw [hseq, hxseq])
    have hnodup := hs.nodup
    rw [hsent, List.map_cons, List.nodup_cons] at hnodup
    exact hnodup.1 (hr ▸ List.mem_map_of_mem hp)
  rw [heq]
  refine ⟨(hremove hs).answer hreq ⟨k, hk, Or.inr ⟨hfirst, text, rfl⟩⟩ fun _ _ _ => hover, ?_, ?_⟩
  · rw [he.sentRequests]
    simp only [RequestTable.remove, hsent]
    rw [List.filter_cons_of_neg (by simp), List.filter_eq_self]
    intro p hp
    simpa using fun h : (p.1 : ℤ) = q => hothers p hp (Int.ofNat_inj.mp h)
  · exact (⟨rfl, fun r req hr => ⟨req, hr, rfl, rfl, rfl, rfl⟩⟩ : s.Keeps
      { s with table := s.table.remove q }).trans (he.keeps hreq rfl rfl rfl rfl)

/-- **All outstanding requests are answered** on disconnect. -/
theorem Tracked.foldl_synthesize (hs : s.Tracked none) (hover : s.parser.isOver = true)
    (text : String) :
    ∃ s', (s.table.sentRequests.map Prod.snd).foldl (Channel.synthesize text) s = s' ∧
      s'.Tracked none ∧ s'.table.sentRequests = [] ∧ s.Keeps s' := by
  refine ⟨_, rfl, ?_⟩
  induction hsent : s.table.sentRequests generalizing s with
  | nil => exact ⟨hs, hsent, Keeps.refl s⟩
  | cons p rest ih =>
      obtain ⟨q, r⟩ := p
      obtain ⟨htracked, hrest, hkeeps⟩ := hs.synthesize hover hsent text
      obtain ⟨tbl, qu, hframe⟩ := synthesize_frame text s r
      have hover' : (Channel.synthesize text s r).parser.isOver = true := by rwa [hframe]
      obtain ⟨htracked', hempty, hkeeps'⟩ := ih htracked hover' hrest
      exact ⟨htracked', hempty, hkeeps.trans hkeeps'⟩

/-- **The clean-up succeeds**: its assertion holds, the disconnect is enqueued, and the
channel is closed. -/
theorem Tracked.cleanUp (hs : s.Tracked none) (hover : s.parser.isOver = true) (text : String) :
    (s.cleanUp text).Tracked none ∧ (s.cleanUp text).table.sentRequests = [] ∧
      s.Keeps (s.cleanUp text) ∧ (s.cleanUp text).closed = true ∧
      (s.cleanUp text).parser = .ended .cleanedUp := by
  obtain ⟨s', heq, htracked, hempty, hkeeps⟩ := hs.foldl_synthesize hover text
  rw [Channel.cleanUp]
  dsimp only
  rw [heq, if_pos hempty]
  refine ⟨htracked.frame rfl rfl rfl ?_ fun _ => rfl, hempty, ⟨hkeeps.received, hkeeps.requests⟩,
    rfl, rfl⟩
  intro r
  simp [enqueue]

/-! ### Every step -/

/-- Nothing is in the hands of the parser thread. -/
theorem TrackedChannel.of_limbo (hs : s.Tracked none) (hlimbo : s.parser.limbo = none) :
    s.TrackedChannel := by
  refine ⟨hlimbo ▸ hs, fun r response req k hp => ?_⟩
  rw [hp] at hlimbo
  simp [ParserState.limbo] at hlimbo

/-- The parser thread keeps what it has in its hands. -/
theorem TrackedChannel.keep (hs : s.TrackedChannel) (ht : s'.Tracked s.parser.limbo)
    (hparser : s'.parser = s.parser) (hreceived : s'.table.received = s.table.received)
    (hback : ∀ (r : RequestId) (req' : OutgoingRequest), s'.table.requests[r]? = some req' →
      s.table.requests[r]? ≠ none → ∃ req, s.table.requests[r]? = some req ∧
        req'.seq = req.seq ∧ (req.sentAt ≠ none → req'.sentAt = req.sentAt)) :
    s'.TrackedChannel := by
  refine ⟨hparser ▸ ht, fun r response req' k hp hr hk => ?_⟩
  rw [hparser] at hp
  obtain ⟨x, kx, hx, -, hkx⟩ := hs.tracked.inLimbo r (by rw [hp]; rfl)
  obtain ⟨req, hreq, hseq, hsentAt⟩ := hback r req' hr (by simp [hx])
  obtain rfl : x = req := Option.some.inj (hx.symm.trans hreq)
  rw [hsentAt (by simp [hkx]), hkx, Option.some.injEq] at hk
  subst hk
  have := hs.answering r response x kx hp hx hkx
  rwa [RequestTable.firstAnswer, hreceived, hseq]

theorem receive_limbo (outcome : Except ReadError Json) (s : Channel)
    (hs : s.parser.limbo = none) : (receive outcome s).parser.limbo = none := by
  unfold receive
  split
  · rfl
  · rfl
  · split
    · rfl
    · rfl
    · rfl
    · exact hs

/-- A sender is done. -/
theorem TrackedChannel.send (hs : s.TrackedChannel) {i : ℕ} {sender : Sender}
    {state : SendState} (hi : s.senders[i]? = some sender) (hdrawn : sender.state = .drawn)
    (hstate : state ≠ .drawn) (htable : s'.table = beforeWrite sender s.table)
    (hsenders : s'.senders = s.senders.set i { sender with state := state })
    (hiter : s'.seqIter = s.seqIter) (hqueue : s'.queue = s.queue)
    (hparser : s'.parser = s.parser) (hnumbered : s'.Numbered) : s'.TrackedChannel := by
  cases hrequest : sender.request with
  | none =>
      rw [beforeWrite, hrequest] at htable
      refine hs.keep (hs.tracked.setSender hi (Or.inr hrequest) htable hsenders hiter hqueue
        hparser hnumbered) hparser (by rw [htable]) ?_
      rw [htable]
      exact fun r req hr _ => ⟨req, hr, rfl, fun _ => rfl⟩
  | some r =>
      rw [beforeWrite, hrequest] at htable
      obtain ⟨req, hreq, -, hnot, -⟩ :=
        hs.tracked.senders sender (List.mem_of_getElem? hi) r hrequest
      have hlimbo : s.parser.limbo ≠ some r := by
        intro hlimbo
        obtain ⟨x, k, hx, -, hk⟩ := hs.tracked.inLimbo r hlimbo
        obtain rfl : req = x := Option.some.inj (hreq.symm.trans hx)
        simp [hnot hdrawn] at hk
      refine hs.keep (hs.tracked.send hi hdrawn hstate hrequest hlimbo htable hsenders hiter
        hqueue hparser hnumbered) hparser (by rw [htable]; rfl) ?_
      intro j req' hj hold
      rw [htable] at hj
      replace hj := (getElem?_modify_eq_some hreq _ j).symm.trans hj
      by_cases hrj : r = j
      · subst hrj
        rw [if_pos rfl, Option.some.injEq] at hj
        subst hj
        exact ⟨req, hreq, rfl, fun h => absurd (hnot hdrawn) h⟩
      · rw [if_neg hrj] at hj
        exact ⟨req', hj, rfl, fun _ => rfl⟩

/-- **Every step keeps track of the requests.** -/
theorem tracked_step (hs : s.TrackedChannel) (h : s.step a = some s') : s'.TrackedChannel := by
  have hnumbered := numbered_step hs.tracked.numbered h
  obtain ⟨-, ht⟩ := step_cases h
  have htracked := hs.tracked
  cases ht with
  | read hp =>
      rw [hp] at htracked
      exact .of_limbo (htracked.frame rfl rfl rfl (fun _ => rfl) (by simp [hp, ParserState.isOver]))
        rfl
  | @receive outcome rest hp hi =>
      rw [hp] at htracked
      have hlimbo := receive_limbo outcome { s with incoming := rest } (by rw [hp]; rfl)
      obtain ⟨parser, failures, exited, hr⟩ := receive_frame outcome { s with incoming := rest }
      rw [hr] at hlimbo ⊢
      exact .of_limbo (htracked.frame rfl rfl rfl (fun _ => rfl) (by simp [hp, ParserState.isOver]))
        hlimbo
  | @pop response hp =>
      rw [hp] at htracked
      have hover : s.parser.isOver = false := by rw [hp]; rfl
      have hremove := htracked.remove response.requestSeq
      have hno : ∀ p ∈ (s.table.remove response.requestSeq).sentRequests,
          (p.1 : ℤ) ≠ response.requestSeq := by
        intro p hp
        exact (by simpa [RequestTable.remove] using hp : _ ∧ _).2
      have hreceived := Tracked.received hremove (m := response) hno hover
      refine ⟨hreceived.frame rfl rfl rfl (fun _ => rfl) (by simp [hover]), ?_⟩
      intro r response' req k hparser hr hk
      simp only [pop, ParserState.answering.injEq] at hparser
      obtain ⟨hlookup, rfl⟩ := hparser
      obtain ⟨q, hq, hqn⟩ := lookup_eq_some hlookup
      obtain ⟨-, req', k', hreq', hseq', -, hk', hfirst⟩ := htracked.sent _ hq
      obtain rfl : req = req' := Option.some.inj (hr.symm.trans hreq')
      obtain rfl : k = k' := Option.some.inj (hk.symm.trans hk')
      refine (firstAnswer_append ((htracked.ok r req hr).sentAt k hk) response).trans ?_
      rw [hfirst, hseq', if_pos hqn.symm]
      rfl
  | @enqueue m hp =>
      rw [hp] at htracked
      exact .of_limbo (htracked.frame rfl rfl rfl (fun r => by simp [Channel.enqueue])
        (by simp [hp, ParserState.isOver])) rfl
  | @answer request response hp =>
      rw [hp] at htracked
      have hnotOver : s.parser.isOver = false := by rw [hp]; rfl
      cases request with
      | none =>
          refine .of_limbo (htracked.frame rfl rfl rfl (fun r => ?_) (by simp [hnotOver])) rfl
          simp [Channel.answer, Channel.enqueue]
      | some r =>
          obtain ⟨req, k, hreq, hnone, hk⟩ := htracked.inLimbo r rfl
          have hfirst := hs.answering r response req k hp hreq hk
          have hanswer := Tracked.answer htracked hreq ⟨k, hk, Or.inl hfirst⟩ fun k' hk' hno => by
            obtain rfl : k = k' := Option.some.inj (hk.symm.trans hk')
            simp [hfirst] at hno
          obtain ⟨tbl, q, hframe⟩ := answer_frame (some r) response s
          refine .of_limbo (hanswer.frame rfl rfl rfl (fun _ => rfl) ?_) rfl
          rw [hframe]
          simp [hnotOver]
  | @cleanUp text hp =>
      rw [hp] at htracked
      obtain ⟨hcleaned, -, -, -, hparser⟩ := htracked.cleanUp (by rw [hp]; rfl) text
      exact .of_limbo hcleaned (by rw [hparser]; rfl)
  | interrupt _ hp =>
      have hlimbo : s.parser.limbo = none := by
        obtain hp | hp := hp <;> rw [hp] <;> rfl
      rw [hlimbo] at htracked
      exact .of_limbo (htracked.frame rfl rfl rfl (fun _ => rfl) fun _ => rfl) rfl
  | handler hq =>
      have henqueued := (HandlerQueue.advance_taken hq).1
      refine hs.keep (htracked.frame rfl rfl rfl (fun r => by rw [henqueued]) id) rfl rfl ?_
      exact fun r req hr _ => ⟨req, hr, rfl, fun _ => rfl⟩
  | crash =>
      refine hs.keep (htracked.frame rfl rfl rfl (fun _ => rfl) id) rfl rfl ?_
      exact fun r req hr _ => ⟨req, hr, rfl, fun _ => rfl⟩
  | @draw message =>
      refine hs.keep (htracked.draw message hnumbered) ?_ ?_ ?_
      · cases message <;> rfl
      · cases message <;> rfl
      · intro r req' hr hold
        obtain ⟨req, hreq⟩ := Option.ne_none_iff_exists'.mp hold
        refine ⟨req, hreq, ?_⟩
        have hsame : (s.draw message).table.requests[r]? = s.table.requests[r]? := by
          cases message with
          | request command arguments =>
              exact List.getElem?_append_left (List.getElem?_eq_some_iff.mp hreq).1
          | event | response => rfl
        obtain rfl : req' = req := Option.some.inj (hr.symm.trans (hsame.trans hreq))
        exact ⟨rfl, fun _ => rfl⟩
  | @send i sender written _ hi hdrawn hsend =>
      rcases send_cases hsend with ⟨-, -, rfl⟩ | ⟨-, rfl⟩
      · exact hs.send hi hdrawn (by simp) rfl rfl rfl rfl rfl hnumbered
      · exact hs.send hi hdrawn (by simp) rfl rfl rfl rfl rfl hnumbered
  | @abandon i sender hi hdrawn =>
      refine hs.keep (htracked.setSender hi (Or.inl rfl) rfl rfl rfl rfl rfl hnumbered) rfl rfl ?_
      exact fun r req hr _ => ⟨req, hr, rfl, fun _ => rfl⟩
  | @onResponse r handler req hr =>
      obtain ⟨tbl, q, hframe⟩ :=
        enqueueResponseHandlers_frame r { s with table := s.table.register r handler }
      have he := onResponse_effect hr handler
      refine hs.keep (htracked.onResponse hr handler) (by rw [hframe]) he.received ?_
      intro j req' hj hold
      rw [he.requests j] at hj
      by_cases hrj : r = j
      · subst hrj
        rw [if_pos rfl, Option.some.injEq] at hj
        subst hj
        exact ⟨req, hr, rfl, fun _ => rfl⟩
      · rw [if_neg hrj] at hj
        exact ⟨req', hj, rfl, fun _ => rfl⟩
  | close =>
      refine hs.keep (htracked.frame rfl rfl rfl (fun _ => rfl) id) rfl rfl ?_
      exact fun r req hr _ => ⟨req, hr, rfl, fun _ => rfl⟩

theorem init_tracked (incoming : List (Except ReadError Json)) :
    (init incoming).TrackedChannel := by
  refine .of_limbo ⟨(numbered_invariant incoming).start rfl, ?_, ?_, ?_, ?_, ?_, ?_, ?_, ?_, ?_, ?_⟩
    rfl <;> simp [init, HandlerQueue.empty]

/-! ### Well-formed streams -/

/-- What is read is a well-formed message, or the end of the messages. -/
def WellFormedOutcome : Except ReadError Json → Prop
  | .ok (.dict items) => MessageDict.WellFormed ⟨items, none⟩
  | .error (.noMoreMessages _) => True
  | _ => False

/-- A well-formed message is handed on to its parser. -/
theorem parseIncoming_of_wellFormed {items : List (String × Json)}
    (h : MessageDict.WellFormed ⟨items, none⟩) :
    ∃ m, parseIncoming (.dict items) = .message m := by
  obtain ⟨type, htype, hget, hwf⟩ := h
  refine ⟨MessageDict.toMessage ⟨items, none⟩ type, ?_⟩
  have henum : enum messageTypes false (some (.str type)) = .ok (some (.str type)) :=
    enum_eq_ok_iff.mpr ⟨type, htype, rfl, rfl⟩
  simp only [parseIncoming, MessageDict.call, hget, henum, Property.toText,
    parse_of_wellFormed hwf]

/-- With well-formed messages, the parser thread ends by cleaning up: from then on the
channel is closed, and no outstanding request was written. -/
structure EndsClean (s : Channel) : Prop where
  tracked : s.TrackedChannel
  incoming : ∀ outcome ∈ s.incoming, WellFormedOutcome outcome
  cleaned : s.parser.isEnded = true → s.closed = true ∧
    ∀ p ∈ s.table.sentRequests, ∀ sender ∈ s.senders, sender.request = some p.2 →
      sender.state ≠ .written

/-- A well-formed outcome does not end the parser thread. -/
theorem receive_wellFormed {outcome : Except ReadError Json} (h : WellFormedOutcome outcome)
    (s : Channel) : (receive outcome s).parser.isEnded = false := by
  match outcome, h with
  | .error (.noMoreMessages text), _ => rfl
  | .ok (.dict items), h =>
      obtain ⟨m, hm⟩ := parseIncoming_of_wellFormed h
      simp only [receive, hm]
      rfl

/-- On a closed channel, senders fail. -/
theorem EndsClean.send (hs : s.EndsClean) (hended : s.parser.isEnded = true) {i : ℕ}
    {sender : Sender} (hi : s.senders[i]? = some sender)
    {x : Sender} (hx : x ∈ s.senders.set i { sender with state := .failed })
    {p : ℕ × RequestId} (hp : p ∈ (beforeWrite sender s.table).sentRequests)
    (hrequest : x.request = some p.2) : x.state ≠ .written := by
  rcases mem_set_senders hx with rfl | ⟨j, hj, hx'⟩
  · simp
  · have hmem := List.mem_of_getElem? hx'
    have hold : p ∈ s.table.sentRequests → x.state ≠ .written := fun hp =>
      (hs.cleaned hended).2 p hp x hmem hrequest
    cases hr : sender.request with
    | none =>
        rw [beforeWrite, hr] at hp
        exact hold hp
    | some r =>
        rw [beforeWrite, hr] at hp
        rcases List.mem_append.mp hp |>.imp_right List.mem_singleton.mp with hp | rfl
        · exact hold hp
        · -- the number of a request belongs to one sender
          obtain ⟨req, hreq, hseq, -⟩ :=
            hs.tracked.tracked.senders sender (List.mem_of_getElem? hi) r hr
          obtain ⟨req', hreq', hseq', -⟩ := hs.tracked.tracked.senders x hmem r hrequest
          obtain rfl : req = req' := Option.some.inj (hreq.symm.trans hreq')
          exact absurd (hs.tracked.tracked.numbered.inj hx' hi (hseq'.symm.trans hseq)) hj

theorem endsClean_step (hs : s.EndsClean) (h : s.step a = some s') : s'.EndsClean := by
  have htracked := tracked_step hs.tracked h
  obtain ⟨-, ht⟩ := step_cases h
  cases ht with
  | read => exact ⟨htracked, hs.incoming, by simp [ParserState.isEnded]⟩
  | @receive outcome rest hp hi =>
      have hin := hs.incoming
      rw [hi] at hin
      obtain ⟨hwf, hrest⟩ := List.forall_mem_cons.mp hin
      have hended := receive_wellFormed hwf { s with incoming := rest }
      obtain ⟨parser, failures, exited, hr⟩ := receive_frame outcome { s with incoming := rest }
      refine ⟨htracked, ?_, by simp [hended]⟩
      rw [hr]
      exact hrest
  | pop => exact ⟨htracked, hs.incoming, by simp [pop, ParserState.isEnded]⟩
  | enqueue => exact ⟨htracked, hs.incoming, by simp [ParserState.isEnded]⟩
  | @answer request response =>
      refine ⟨htracked, ?_, by simp [ParserState.isEnded]⟩
      obtain ⟨tbl, q, hr⟩ := answer_frame request response s
      rw [hr]
      exact hs.incoming
  | @cleanUp text hp =>
      have ht' := hs.tracked.tracked
      rw [hp] at ht'
      obtain ⟨-, hempty, -, hclosed, -⟩ := ht'.cleanUp (by rw [hp]; rfl) text
      refine ⟨htracked, ?_, fun _ => ⟨hclosed, ?_⟩⟩
      · obtain ⟨tbl, q, closed, how, hr, -⟩ := cleanUp_frame text s
        rw [hr]
        exact hs.incoming
      · simp [hempty]
  | interrupt => exact ⟨htracked, hs.incoming, by simp [ParserState.isEnded]⟩
  | handler => exact ⟨htracked, hs.incoming, hs.cleaned⟩
  | crash => exact ⟨htracked, hs.incoming, fun h => ⟨rfl, (hs.cleaned h).2⟩⟩
  | @draw message =>
      refine ⟨htracked, ?_, fun hended => ?_⟩
      · cases message <;> exact hs.incoming
      · have hended' : s.parser.isEnded = true := by cases message <;> exact hended
        obtain ⟨hclosed, hsent⟩ := hs.cleaned hended'
        refine ⟨by cases message <;> exact hclosed, fun p hp x hx hr => ?_⟩
        have hp' : p ∈ s.table.sentRequests := by cases message <;> exact hp
        have hx' : x ∈ s.senders ∨ x.state = .drawn := by
          cases message <;>
            exact (List.mem_append.mp hx).imp_right fun h => by simp [List.mem_singleton.mp h]
        rcases hx' with hx' | hdrawn
        · exact hsent p hp' x hx' hr
        · simp [hdrawn]
  | @send i sender written _ hi hdrawn hsend =>
      rcases send_cases hsend with ⟨-, hopen, rfl⟩ | ⟨-, rfl⟩
      · exact ⟨htracked, hs.incoming, fun h => by simp [(hs.cleaned h).1] at hopen⟩
      · exact ⟨htracked, hs.incoming, fun h => ⟨(hs.cleaned h).1, fun p hp x hx =>
          hs.send h hi hx hp⟩⟩
  | @abandon i sender hi hdrawn =>
      refine ⟨htracked, hs.incoming, fun h => ⟨(hs.cleaned h).1, fun p hp x hx hr => ?_⟩⟩
      rcases mem_set_senders hx with rfl | ⟨j, -, hj⟩
      · simp
      · exact (hs.cleaned h).2 p hp x (List.mem_of_getElem? hj) hr
  | @onResponse r handler req hr =>
      obtain ⟨tbl, q, hframe⟩ :=
        enqueueResponseHandlers_frame r { s with table := s.table.register r handler }
      have he := onResponse_effect hr handler
      refine ⟨htracked, by rw [hframe]; exact hs.incoming, fun h => ?_⟩
      have hended : s.parser.isEnded = true := by rwa [hframe] at h
      rw [he.sentRequests, he.senders]
      refine ⟨?_, (hs.cleaned hended).2⟩
      rw [hframe]
      exact (hs.cleaned hended).1
  | close => exact ⟨htracked, hs.incoming, fun h => ⟨rfl, (hs.cleaned h).2⟩⟩

theorem endsClean_invariant (hincoming : ∀ outcome ∈ incoming, WellFormedOutcome outcome) :
    (channel incoming).Invariant EndsClean :=
  ⟨fun h => h ▸ ⟨init_tracked incoming, hincoming, by simp [init, ParserState.isEnded]⟩,
    endsClean_step⟩

/-- **Each request gets one response.** On a stream of well-formed messages that ends with
`NoMoreMessages`, in every state that any interleaving reaches, and for every request:

* its response is assigned at most once;
* it is the first response with the number of the request that was received since the
  request was put into `_sent_requests`, or the synthesized one if there is none;
* once the parser thread has ended, the request has a response if it was written;
* the handlers registered are enqueued once, in order, and not before there is a response. -/
theorem responses (hincoming : ∀ outcome ∈ incoming, WellFormedOutcome outcome)
    (h : (channel incoming).Reachable s) (r : RequestId) (req : OutgoingRequest)
    (hr : s.table.requests[r]? = some req) :
    (req.assigned.length ≤ 1 ∧ req.assigned = req.response.toList) ∧
    (∀ response, req.response = some response → AnsweredBy s.table req response) ∧
    (s.parser.isEnded = true →
      (∃ sender ∈ s.senders, sender.request = some r ∧ sender.state = .written) →
        req.response ≠ none) ∧
    (req.response = none → enqueuedFor r s.queue.enqueued = []) ∧
    (req.response ≠ none → enqueuedFor r s.queue.enqueued = req.registered) := by
  have hs := (endsClean_invariant hincoming).of_reachable h
  have hok := hs.tracked.tracked.ok r req hr
  refine ⟨⟨?_, hok.assigned⟩, hok.answered, ?_, hok.before, fun hsome => ?_⟩
  · rw [hok.assigned]
    cases req.response <;> simp
  · rintro hended ⟨sender, hsender, hrequest, hwritten⟩ hnone
    obtain ⟨x, hx, -, -, hsentAt⟩ := hs.tracked.tracked.senders sender hsender r hrequest
    obtain rfl : req = x := Option.some.inj (hr.symm.trans hx)
    rcases hs.tracked.tracked.waiting r req hr (hsentAt hwritten) hnone with hsent | hlimbo
    · exact (hs.cleaned hended).2 _ hsent sender hsender hrequest hwritten
    · cases hp : s.parser <;> simp [hp, ParserState.isEnded, ParserState.limbo] at hended hlimbo
  · have hhandlers := hok.handlers
    rwa [hok.after hsome, List.append_nil] at hhandlers

/-- A response to the first request of a channel. -/
def pauseResponse : Json :=
  .dict [("seq", .int 5), ("type", .str "response"), ("request_seq", .int 1),
    ("command", .str "pause"), ("success", .bool true)]

/-- The response is received twice, before a handler is registered for it, and then the
messages end. -/
theorem responses_pause :
    ∃ s req, (channel [.ok pauseResponse, .ok pauseResponse, .error (.noMoreMessages "")]).run
        (init [.ok pauseResponse, .ok pauseResponse, .error (.noMoreMessages "")])
        [.draw (.request "pause" (.dict [])), .send 0 true, .parser, .parser, .parser, .parser,
          .parser, .parser, .parser, .parser, .onResponse 0 7, .parser, .parser, .parser] =
          some s ∧
      s.table.requests[0]? = some req ∧ req.registered = [7] ∧
      enqueuedFor 0 s.queue.enqueued = req.registered := by
  have hwf : ∀ outcome ∈ [Except.ok pauseResponse, .ok pauseResponse,
      .error (.noMoreMessages "")], WellFormedOutcome outcome := by
    have hpause : WellFormedOutcome (.ok pauseResponse) := by
      refine ⟨"response", by decide, rfl, ?_⟩
      decide
    simp only [List.forall_mem_cons]
    exact ⟨hpause, hpause, trivial, by simp⟩
  have hrun : ∃ s req response, (channel [.ok pauseResponse, .ok pauseResponse,
        .error (.noMoreMessages "")]).run
        (init [.ok pauseResponse, .ok pauseResponse, .error (.noMoreMessages "")])
        [.draw (.request "pause" (.dict [])), .send 0 true, .parser, .parser, .parser, .parser,
          .parser, .parser, .parser, .parser, .onResponse 0 7, .parser, .parser, .parser] =
          some s ∧
      s.table.requests[0]? = some req ∧ req.registered = [7] ∧ req.response = some response :=
    ⟨_, _, _, rfl, rfl, rfl, rfl⟩
  obtain ⟨s, req, response, hs, hreq, hregistered, hresponse⟩ := hrun
  have hreach := Machine.reachable_iff_run.mpr ⟨_, _, rfl, hs⟩
  exact ⟨s, req, hs, hreq, hregistered,
    (responses hwf hreach 0 req hreq).2.2.2.2 (by simp [hresponse])⟩

end Channel

end Ptvsd
