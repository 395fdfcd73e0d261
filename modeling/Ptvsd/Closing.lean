import Ptvsd.Component

/-!
# Requests Whose Channel Gets Closed

The other party may disconnect while a request from it is being handled. The channel is then
closed, and responses can no longer be sent. `Request._handle` expects that of the response
that it sends itself; but a response is also sent by `respond()`, and by `isnt_valid()` and
`cant_handle()`, within the handler or within the wrapper of `Ptvsd.Component`.

A handler is arbitrary here, and so is what happens to its channel in the meantime: as a
program it comprises what the other threads do while it runs. What matters is how it deals with
its request, and whether the channel was closed by the time that it, or the wrapper, responded.

## Main results

* `completes_iff`: `Request._handle` completes, the process goes on, and the response is sent
  unless the channel is closed, if and only if the channel was still open whenever anything but
  `Request._handle` responded, and the wrapper got no exception that the handler had responded
  with.
-/

namespace Ptvsd

/-! ### Handlers -/

/-- Time passes: objects are made, other messages are written, and the channel may get
closed. -/
structure World.Later (w w' : World) (request : IncomingRequest) : Prop where
  objects : w.objects <+: w'.objects
  response : w'.response = w.response
  responses : w'.responses request = w.responses request
  closed : w.closed = true → w'.closed = true
  exited : w'.exited = w.exited

/-- How a handler deals with its request. If the handler or its wrapper responds, then
`closed` says whether the channel was closed by that time. -/
inductive Reply where
  /-- It returns a body, or an instance of `MessageHandlingError`. -/
  | returns
  /-- It returns `NO_RESPONSE`. -/
  | noResponse
  /-- It raises a `MessageHandlingError` that it has not responded with. -/
  | raises
  /-- It calls `respond()`, and returns `None`. -/
  | responds (closed : Bool)
  /-- It returns what `isnt_valid()` or `cant_handle()` makes for its request. -/
  | returnsOwn (closed : Bool)
  /-- It raises that, or has the validation of a `MessageDict` raise it. -/
  | raisesOwn (closed : Bool)
  /-- It raises what only the wrapper can handle. -/
  | unavailable (closed : Bool)
  deriving DecidableEq

/-- A handler that is run in `w`, to be wrapped or not, deals with its request in this way and
has this outcome. -/
inductive Deals (wrapped : Bool) (request : IncomingRequest) (w : World) :
    Reply → Except ObjectId Value × World → Prop
  | returns {w' : World} {id : ObjectId} : w.Later w' request →
      Deals wrapped request w .returns (.ok (.object id), w')
  | noResponse {w' : World} : w.Later w' request →
      Deals wrapped request w .noResponse (.ok .noResponse, w')
  /-- An error that does not apply to the request is for the wrapper to propagate. -/
  | raises {w' : World} {exc : ObjectId} {type : ErrorType} {reason : String}
      {cause : Option MessageId} : w.Later w' request →
      w'.exception? exc = some (.handlingError type reason cause) →
      (cause = none ∨ cause = some request.id ∨ wrapped = true) →
      Deals wrapped request w .raises (.error exc, w')
  | responds {w₁ w₂ w' : World} {body : Value} {r : Except ObjectId PUnit} :
      w.Later w₁ request → (respond request body).exec w₁ = (r, w₂) → w₂.Later w' request →
      Deals wrapped request w (.responds w₁.closed) (r.map fun _ => .none, w')
  | returnsOwn {w₁ w₂ w' : World} {type : ErrorType} {reason : String}
      {r : Except ObjectId ObjectId} : w.Later w₁ request →
      (error request type reason).exec w₁ = (r, w₂) → w₂.Later w' request →
      Deals wrapped request w (.returnsOwn w₁.closed) (r.map .object, w')
  | raisesOwn {w₁ w₂ w' : World} {type : ErrorType} {reason : String}
      {r : Except ObjectId ObjectId} : w.Later w₁ request →
      (error request type reason).exec w₁ = (r, w₂) → w₂.Later w' request →
      Deals wrapped request w (.raisesOwn w₁.closed) (r.bind .error, w')
  | unavailable {w' : World} {exc : ObjectId} {e : PyException} : w.Later w' request →
      wrapped = true → w'.exception? exc = some e →
      ((∃ type, e = .componentNotAvailable type) ∨
        (∃ text streamName, e = .jsonIOError text streamName) ∨
        ∃ text streamName, e = .noMoreMessages text streamName) →
      Deals wrapped request w (.unavailable w'.closed) (.error exc, w')

/-- The handler, as the channel gets to see it: a handler of the adapter is wrapped. -/
def wrap (wrapped : Bool) (request : IncomingRequest) (f : Python Value) : Python Value :=
  if wrapped then messageHandler request f else f

/-- The world at the end of `_run_handlers`. -/
def World.after (w : World) (request : IncomingRequest) (handler : Python Value) : World :=
  runHandler (handle request handler) w

/-- **The disconnect is tolerated**: `Request._handle` does not raise, the process goes on, and
one response is sent, or none, and then because the channel is closed or none was wanted. -/
structure Completes (request : IncomingRequest) (handler : Python Value) (reply : Reply)
    (w : World) : Prop where
  returns : ∃ w', (handle request handler).exec w = (.ok ⟨⟩, w')
  running : (w.after request handler).exited = false
  sent : ((w.after request handler).responses request).length = 1 ∨
    (w.after request handler).responses request = [] ∧
      ((w.after request handler).closed = true ∨ reply = .noResponse)

/-- The condition: the channel is open whenever anything but `Request._handle` responds, and the
wrapper is not to propagate what the handler has responded with. -/
def Reply.Tolerated (wrapped : Bool) : Reply → Prop
  | .returns | .noResponse | .raises => True
  | .responds closed | .returnsOwn closed | .unavailable closed => closed = false
  | .raisesOwn closed => closed = false ∧ wrapped = false

instance (wrapped : Bool) (reply : Reply) : Decidable (reply.Tolerated wrapped) :=
  match reply with
  | .returns | .noResponse | .raises => inferInstanceAs (Decidable True)
  | .responds closed | .returnsOwn closed | .unavailable closed =>
      inferInstanceAs (Decidable (closed = false))
  | .raisesOwn closed => inferInstanceAs (Decidable (closed = false ∧ wrapped = false))

/-- A request that was just received; its channel may be closed already. -/
structure World.Received (w : World) (request : IncomingRequest) : Prop where
  response : w.response = none
  responses : w.responses request = []
  exited : w.exited = false

/-! ### Responding on a closed channel -/

section Closing

variable {wrapped : Bool} {request : IncomingRequest} {w w₁ w₂ w' : World}
  {f handler : Python Value} {body result : Value} {id : ObjectId} {reply : Reply}

/-- The world after a response that could not be sent: its number is drawn. -/
def World.unsent (w : World) (request : IncomingRequest) : World :=
  ({ w with seqIter := w.seqIter + 1 }).alloc
    (.exception (.noMoreMessages "No more messages" request.streamName))

/-- The exception that is raised if a response could not be sent. -/
def IsNoMoreMessages (w : World) (id : ObjectId) : Prop :=
  ∃ text streamName, w.exception? id = some (.noMoreMessages text streamName)

theorem isNoMoreMessages_unsent (w : World) (request : IncomingRequest) :
    IsNoMoreMessages (w.unsent request) w.objects.length :=
  ⟨_, _, @World.exception?_alloc { w with seqIter := w.seqIter + 1 } _⟩

theorem exec_respond_closed (hclosed : w.closed = true) (hresponse : w.response = none) :
    (respond request body).exec w = (.error w.objects.length, w.unsent request) := by
  simp only [respond, pyAssert, sendResponse, Program.exec_bind, Program.exec_get, hresponse,
    Option.isNone_none, if_true, Program.exec_pure, Program.exec_set, hclosed, exec_raise,
    World.unsent]

theorem exec_error_closed (hclosed : w.closed = true) (hresponse : w.response = none)
    (type : ErrorType) (reason : String) :
    ∃ exc w', (error request type reason).exec w = (.error exc, w') ∧ IsNoMoreMessages w' exc ∧
      w'.closed = true ∧ w'.response = none := by
  set w₁ := w.alloc (.exception (.handlingError type reason request.id)) with hw₁
  refine ⟨w₁.objects.length, w₁.unsent request, ?_, isNoMoreMessages_unsent w₁ request, hclosed,
    hresponse⟩
  rw [error, Program.exec_bind_ok (exec_new _), Program.exec_bind, ← hw₁,
    @exec_respond_closed request w₁ _ hclosed hresponse]

/-- **`Request._handle` tolerates that its own response cannot be sent.** -/
theorem handleResult_unsent (hclosed : w.closed = true) (hresponse : w.response = none) :
    (handleResult request (.object id)).exec w = (.ok ⟨⟩, w.unsent request) := by
  obtain ⟨text, streamName, hexc⟩ := isNoMoreMessages_unsent w request
  rw [handleResult, Program.exec_bind_ok Program.exec_get, hresponse]
  simp only [pyAssert, ne_eq, reduceCtorEq, not_false_eq_true, decide_true, if_true]
  rw [Program.exec_bind_ok Program.exec_pure,
    Program.exec_tryCatch_error (exec_respond_closed hclosed hresponse),
    Program.exec_bind_ok Program.exec_get, hexc]
  rfl

/-- **It does not tolerate that of another response**: `NoMoreMessages` is no
`MessageHandlingError`. -/
theorem handle_escapes (h : handler.exec w = (.error id, w')) (hid : IsNoMoreMessages w' id) :
    (handle request handler).exec w = (.error id, w') := by
  obtain ⟨text, streamName, hexc⟩ := hid
  have hresult : (handlerResult request handler).exec w = (.error id, w') := by
    rw [handlerResult, Program.exec_tryCatch_error h, Program.exec_bind_ok Program.exec_get, hexc]
    rfl
  rw [handle, Program.exec_bind, hresult]

/-- The wrapper takes it for the disconnect of a component, and responds once more. -/
theorem messageHandler_escapes (h : f.exec w = (.error id, w')) (hclosed : w'.closed = true)
    (hresponse : w'.response = none) {e : PyException} (hid : w'.exception? id = some e)
    (he : (∃ type, e = .componentNotAvailable type) ∨
      (∃ text streamName, e = .jsonIOError text streamName) ∨
      ∃ text streamName, e = .noMoreMessages text streamName) :
    ∃ exc w'', (messageHandler request f).exec w = (.error exc, w'') ∧
      IsNoMoreMessages w'' exc := by
  have hcant : ∀ reason, ∃ exc w'', (do throw (← cantHandle request reason) : Python Value).exec
      w' = (.error exc, w'') ∧ IsNoMoreMessages w'' exc := by
    intro reason
    obtain ⟨exc, w'', herror, hexc, -⟩ :=
      @exec_error_closed request w' hclosed hresponse .messageHandlingError reason
    refine ⟨exc, w'', ?_, hexc⟩
    rw [cantHandle, Program.exec_bind, herror]
  rcases he with ⟨type, rfl⟩ | ⟨text, streamName, rfl⟩ | ⟨text, streamName, rfl⟩
  all_goals
    rw [messageHandler, Program.exec_tryCatch_error h, Program.exec_bind_ok Program.exec_get, hid]
    exact hcant _

/-! ### What becomes of a request -/

theorem World.Later.exception? {exc : ObjectId} {e : PyException} (h : w.Later w' request)
    (hexc : w.exception? exc = some e) : w'.exception? exc = some e :=
  World.exception?_of_prefix h.objects hexc

theorem World.Later.isNoMoreMessages (h : w.Later w' request) (hid : IsNoMoreMessages w id) :
    IsNoMoreMessages w' id := by
  obtain ⟨text, streamName, hexc⟩ := hid
  exact ⟨text, streamName, h.exception? hexc⟩

theorem World.Received.later (hw : w.Received request) (h : w.Later w' request) :
    w'.Received request :=
  ⟨h.response.trans hw.response, h.responses.trans hw.responses, h.exited.trans hw.exited⟩

/-- The request was responded to with this body. -/
structure World.Replied (w : World) (request : IncomingRequest) (body : Value) : Prop where
  response : ∃ seq, w.response = some (seq, body)
  responses : (w.responses request).length = 1
  exited : w.exited = false

theorem World.Received.replied (hw : w.Received request) (body : Value) :
    (w.answered request body).Replied request body := by
  refine ⟨⟨_, rfl⟩, ?_, hw.exited⟩
  have hnone := hw.responses
  simp only [World.responses] at hnone
  simp [World.responses, World.answered, hnone, responseJson]

theorem World.Replied.later (hw : w.Replied request body) (h : w.Later w' request) :
    w'.Replied request body := by
  obtain ⟨seq, hresponse⟩ := hw.response
  exact ⟨⟨seq, h.response.trans hresponse⟩, h.responses ▸ hw.responses,
    h.exited.trans hw.exited⟩

/-- `Request._handle` returns. -/
theorem completes_of_ok (h : (handle request handler).exec w = (.ok ⟨⟩, w'))
    (hexited : w'.exited = false) (hsent : (w'.responses request).length = 1 ∨
      w'.responses request = [] ∧ (w'.closed = true ∨ reply = .noResponse)) :
    Completes request handler reply w := by
  have hafter : w.after request handler = w' := by rw [World.after, runHandler, h]
  exact ⟨⟨w', h⟩, hafter ▸ hexited, hafter ▸ hsent⟩

/-- `Request._handle` raises. -/
theorem not_completes (h : ∃ exc w', (handle request handler).exec w = (.error exc, w')) :
    ¬ Completes request handler reply w := by
  obtain ⟨exc, w', hraises⟩ := h
  rintro ⟨⟨w'', hreturns⟩, -, -⟩
  simp [hraises] at hreturns

/-- **A result that `Request._handle` is to respond with is never a problem.** -/
theorem completes_of_result (hw : w'.Received request)
    (h : (handle request handler).exec w = (handleResult request (.object id)).exec w') :
    Completes request handler reply w := by
  cases hclosed : w'.closed with
  | false =>
      rw [handleResult_responds request ⟨hclosed, hw.response⟩ (by simp) (by simp)] at h
      have hreplied := hw.replied (.object id)
      exact completes_of_ok h hreplied.exited (Or.inl hreplied.responses)
  | true =>
      rw [handleResult_unsent hclosed hw.response] at h
      exact completes_of_ok h hw.exited (Or.inr ⟨hw.responses, Or.inl hclosed⟩)

/-- Nor is a request that was responded to, if the handler adds nothing. -/
theorem completes_of_replied (hw : w'.Replied request body)
    (hresult : result = .none ∨ result = body) (hno : result ≠ .noResponse)
    (h : (handle request handler).exec w = (handleResult request result).exec w') :
    Completes request handler reply w := by
  obtain ⟨seq, hresponse⟩ := hw.response
  rw [handleResult_answered request hresponse hno hresult] at h
  exact completes_of_ok h hw.exited (Or.inl hw.responses)

/-- **A response that the handler could not send ends the process**, with the wrapper or
without it. -/
theorem not_completes_of_unsent (h : f.exec w = (.error id, w')) (hid : IsNoMoreMessages w' id)
    (hclosed : w'.closed = true) (hresponse : w'.response = none) :
    ¬ Completes request (wrap wrapped request f) reply w := by
  refine not_completes ?_
  cases wrapped with
  | false => exact ⟨id, w', handle_escapes h hid⟩
  | true =>
      obtain ⟨text, streamName, hexc⟩ := hid
      obtain ⟨exc, w'', hraises, hexc'⟩ := @messageHandler_escapes request _ _ _ _ h hclosed
        hresponse _ hexc (Or.inr (Or.inr ⟨text, streamName, rfl⟩))
      exact ⟨exc, w'', handle_escapes hraises hexc'⟩

/-- The wrapper adds nothing to a handler that returns. -/
theorem wrap_returns (h : f.exec w = (.ok result, w')) :
    (wrap wrapped request f).exec w = (.ok result, w') := by
  cases wrapped with
  | false => exact h
  | true => exact messageHandler_returns request h

theorem World.later_alloc (obj : PyObject) : w.Later (w.alloc obj) request :=
  ⟨List.prefix_append _ _, rfl, rfl, id, rfl⟩

/-- The failure was sent, with the exception that is returned. -/
theorem replied_error {type : ErrorType} {reason : String} {r : Except ObjectId ObjectId}
    (hw : w₁.Received request) (hclosed : w₁.closed = false)
    (h : (error request type reason).exec w₁ = (r, w₂)) :
    r = .ok w₁.objects.length ∧ w₂.Replied request (.object w₁.objects.length) ∧
      w₂.exception? w₁.objects.length = some (.handlingError type reason request.id) ∧
      w₁.objects.length < w₂.objects.length := by
  rw [exec_error ⟨hclosed, hw.response⟩] at h
  obtain ⟨rfl, rfl⟩ := Prod.mk.inj h
  refine ⟨rfl, (hw.later (w₁.later_alloc _)).replied _, World.exception?_alloc _, ?_⟩
  simp [World.answered, World.alloc]

/-- The failure could not be sent. -/
theorem unsent_error {type : ErrorType} {reason : String} {r : Except ObjectId ObjectId}
    (hw : w₁.Received request) (hclosed : w₁.closed = true)
    (h : (error request type reason).exec w₁ = (r, w₂)) :
    ∃ exc, r = .error exc ∧ IsNoMoreMessages w₂ exc ∧ w₂.closed = true ∧ w₂.response = none := by
  obtain ⟨exc, w', herror, hexc, hclosed', hresponse⟩ :=
    exec_error_closed hclosed hw.response type reason
  obtain ⟨rfl, rfl⟩ := Prod.mk.inj (herror.symm.trans h)
  exact ⟨exc, rfl, hexc, hclosed', hresponse⟩

/-- An error that applies to the request, or is propagated by the wrapper. -/
theorem completes_raises {exc : ObjectId} {type : ErrorType} {reason : String}
    {cause : Option MessageId} (hw : w'.Received request) (h : f.exec w = (.error exc, w'))
    (hexc : w'.exception? exc = some (.handlingError type reason cause))
    (hcause : cause = none ∨ cause = some request.id ∨ wrapped = true) :
    Completes request (wrap wrapped request f) reply w := by
  cases wrapped with
  | true =>
      have hcatches := handle_catches request (messageHandler_propagates request h hexc)
        (World.exception?_alloc _)
      exact completes_of_result (hw.later (w'.later_alloc _)) hcatches
  | false =>
      have hcause' : cause = none ∨ cause = some request.id := by simpa using hcause
      have hresult : (handlerResult request f).exec w = (.ok (.object exc), w') := by
        rw [handlerResult, Program.exec_tryCatch_error h, Program.exec_bind_ok Program.exec_get,
          hexc]
        simp [hcause']
      exact completes_of_result hw (Program.exec_bind_ok hresult)

/-- **What the handler has responded with completes without the wrapper only**: the wrapper raises
another exception, which `Request._handle` does not expect. -/
theorem completes_raisesOwn_iff {type : ErrorType} {reason : String}
    (hw : w'.Replied request (.object id)) (h : f.exec w = (.error id, w'))
    (hexc : w'.exception? id = some (.handlingError type reason request.id))
    (hlt : id < w'.objects.length) :
    Completes request (wrap wrapped request f) reply w ↔ wrapped = false := by
  cases wrapped with
  | false =>
      simp only [iff_true]
      exact completes_of_replied hw (Or.inr rfl) (by simp) (handle_catches request h hexc)
  | true =>
      simp only [Bool.true_eq_false, iff_false]
      refine not_completes ?_
      obtain ⟨seq, hresponse⟩ := hw.response
      have hne : Value.object w'.objects.length ≠ .object id := by simpa using hlt.ne'
      have hcatches := handle_catches request (messageHandler_propagates request h hexc)
        (World.exception?_alloc _)
      obtain ⟨e, w'', hraises⟩ := @handleResult_raises request
        (w'.alloc (.exception (.handlingError type reason request.id))) _ _ _ hresponse hne
      exact ⟨e, w'', hcatches.trans hraises⟩

/-- **`Request._handle` completes if and only if the disconnect comes at a time when only it
responds.** -/
theorem completes_iff (hw : w.Received request)
    (h : Deals wrapped request w reply (f.exec w)) :
    Completes request (wrap wrapped request f) reply w ↔ reply.Tolerated wrapped := by
  generalize hend : f.exec w = outcome at h
  cases h with
  | @returns w' id hlater =>
      simp only [Reply.Tolerated, iff_true]
      exact completes_of_result (hw.later hlater) (handle_returns request (wrap_returns hend))
  | @noResponse w' hlater =>
      simp only [Reply.Tolerated, iff_true]
      have hw' := hw.later hlater
      have hexec := handle_returns request (@wrap_returns wrapped request w w' f .noResponse hend)
      rw [handleResult, Program.exec_bind_ok Program.exec_get] at hexec
      simp only [hw'.response, pyAssert, Option.isNone_none, if_true, Program.exec_pure] at hexec
      exact completes_of_ok hexec hw'.exited (Or.inr ⟨hw'.responses, Or.inr rfl⟩)
  | raises hlater hexc hcause =>
      simp only [Reply.Tolerated, iff_true]
      exact completes_raises (hw.later hlater) hend hexc hcause
  | @responds w₁ w₂ w' body r hlater hrespond hlater' =>
      have hw₁ := hw.later hlater
      cases hclosed : w₁.closed with
      | false =>
          rw [exec_respond ⟨hclosed, hw₁.response⟩] at hrespond
          obtain ⟨rfl, rfl⟩ := Prod.mk.inj hrespond
          simp only [Reply.Tolerated, iff_true]
          exact completes_of_replied ((hw₁.replied body).later hlater') (Or.inl rfl) (by simp)
            (handle_returns request (wrap_returns hend))
      | true =>
          rw [exec_respond_closed hclosed hw₁.response] at hrespond
          obtain ⟨rfl, rfl⟩ := Prod.mk.inj hrespond
          simp only [Reply.Tolerated, Bool.true_eq_false, iff_false]
          exact not_completes_of_unsent hend
            (hlater'.isNoMoreMessages (isNoMoreMessages_unsent w₁ request))
            (hlater'.closed hclosed) (hlater'.response.trans hw₁.response)
  | @returnsOwn w₁ w₂ w' type reason r hlater herror hlater' =>
      have hw₁ := hw.later hlater
      cases hclosed : w₁.closed with
      | false =>
          obtain ⟨rfl, hreplied, -, -⟩ := replied_error hw₁ hclosed herror
          simp only [Reply.Tolerated, iff_true]
          exact completes_of_replied (hreplied.later hlater') (Or.inr rfl) (by simp)
            (handle_returns request (wrap_returns hend))
      | true =>
          obtain ⟨exc, rfl, hexc, hclosed', hresponse⟩ := unsent_error hw₁ hclosed herror
          simp only [Reply.Tolerated, Bool.true_eq_false, iff_false]
          exact not_completes_of_unsent hend (hlater'.isNoMoreMessages hexc)
            (hlater'.closed hclosed') (hlater'.response.trans hresponse)
  | @raisesOwn w₁ w₂ w' type reason r hlater herror hlater' =>
      have hw₁ := hw.later hlater
      cases hclosed : w₁.closed with
      | false =>
          obtain ⟨rfl, hreplied, hexc, hlt⟩ := replied_error hw₁ hclosed herror
          simp only [Reply.Tolerated, true_and]
          exact completes_raisesOwn_iff (hreplied.later hlater') hend (hlater'.exception? hexc)
            (hlt.trans_le hlater'.objects.length_le)
      | true =>
          obtain ⟨exc, rfl, hexc, hclosed', hresponse⟩ := unsent_error hw₁ hclosed herror
          simp only [Reply.Tolerated, Bool.true_eq_false, false_and, iff_false]
          exact not_completes_of_unsent hend (hlater'.isNoMoreMessages hexc)
            (hlater'.closed hclosed') (hlater'.response.trans hresponse)
  | @unavailable w' exc e hlater hwrapped hexc he =>
      subst hwrapped
      have hw' := hw.later hlater
      cases hclosed : w'.closed with
      | false =>
          obtain ⟨reason, hwrapper⟩ :=
            messageHandler_converts request hend ⟨hclosed, hw'.response⟩ hexc he
          have hreplied := (hw'.later (w'.later_alloc (.exception (.handlingError
            .messageHandlingError reason request.id)))).replied (.object w'.objects.length)
          simp only [Reply.Tolerated, iff_true]
          exact completes_of_replied hreplied (Or.inr rfl) (by simp)
            (handle_catches request hwrapper (World.exception?_alloc _))
      | true =>
          obtain ⟨exc', w'', hraises, hexc'⟩ :=
            @messageHandler_escapes request _ _ _ _ hend hclosed hw'.response _ hexc he
          simp only [Reply.Tolerated, Bool.true_eq_false, iff_false]
          exact not_completes ⟨exc', w'', handle_escapes hraises hexc'⟩

end Closing

/-- A channel that gets closed, and then the result of the handler is to be sent. -/
theorem completes_iff_returns :
    ∃ f, Deals true initializeRequest .idle .returns (Program.exec f .idle) ∧
      (World.idle.after initializeRequest (wrap true initializeRequest f)).closed = true ∧
      Completes initializeRequest (wrap true initializeRequest f) .returns .idle := by
  set f : Python Value := do
    let id ← new (.payload (.dict []))
    modify fun w => { w with closed := true }
    return .object id with hf
  have hdeals : Deals true initializeRequest .idle .returns (Program.exec f .idle) :=
    .returns ⟨List.nil_prefix, rfl, rfl, fun _ => rfl, rfl⟩
  exact ⟨f, hdeals, rfl, (completes_iff ⟨rfl, rfl, rfl⟩ hdeals).mpr trivial⟩

/-- **A request that is not valid ends the process if its channel is closed**, without the
wrapper, too: `isnt_valid()` raises `NoMoreMessages`. -/
theorem not_completes_raisesOwn :
    ∃ f, Deals false initializeRequest { World.idle with closed := true } (.raisesOwn true)
        (Program.exec f { World.idle with closed := true }) ∧
      ¬ Completes initializeRequest (wrap false initializeRequest f) (.raisesOwn true)
        { World.idle with closed := true } := by
  set f : Python Value := do
    throw (← isntValid initializeRequest "Session is already initialized") with hf
  set w : World := { World.idle with closed := true } with hw
  have hdeals : Deals false initializeRequest w (.raisesOwn true) (Program.exec f w) :=
    .raisesOwn ⟨List.prefix_rfl, rfl, rfl, id, rfl⟩ rfl ⟨List.prefix_rfl, rfl, rfl, id, rfl⟩
  exact ⟨f, hdeals, @not_completes_of_unsent false initializeRequest w _ f 1 (.raisesOwn true) rfl
    ⟨_, _, rfl⟩ rfl rfl⟩

end Ptvsd
