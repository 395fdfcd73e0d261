import Ptvsd.Starts

/-!
# The End of the Configuration

What `configurationDone_request` does. Two requests are responded to here, the request itself
and the start request that is pending, on paths that meet in a `finally` clause.

## Main results

* `configurationDone_outOfOrder`: a request that is out of order gets the failure that
  `cant_handle()` sends, but then the handler goes on, and **the process ends**.
* `configurationDone_success`: with a success of the debug server, both requests succeed.
* `configurationDone_failure`: with a failure of the debug server, the start request gets a
  second response, and **the process ends**.
* `configurationDone_disconnect`: if the debug server disconnects, **the start request
  succeeds**, and the other one fails.
-/

namespace Ptvsd

namespace IDE

open Program

variable {request start : Request} {s s' s'' : State}

/-! ### States after a response -/

/-- The response is written. -/
@[simp] theorem State.written_answered (s : State) (request : Request) (body : Value) :
    (s.answered request body).written = s.written ++
      [(s.seqIter, responseJson request.toIncomingRequest (s.view request.id) body)] := rfl

/-- The request has been responded to. -/
theorem State.responses_answered_self (s : State) (request : Request) (body : Value) :
    ((s.answered request body).responses request.id).isSome = true := by
  simp [answered, update, World.answered]

/-- The other requests have the responses that they had. -/
theorem State.responses_answered (s : State) {request : Request} (body : Value) {id : MessageId}
    (h : id ≠ request.id) : (s.answered request body).responses id = s.responses id :=
  s.responses_update _ h

/-- A body that was just made is no exception. -/
theorem World.failure_alloc_payload (w : World) (body : Json) :
    (w.alloc (.payload body)).failure (.object w.objects.length) = none := by
  simp [World.failure, World.exception?, World.alloc]

/-- The state after a request to another process was sent. -/
def State.sends (s : State) (m : Outgoing) : State := { s with sent := s.sent ++ [m] }

/-- A request to the server is sent, and its answer is returned or raised. -/
theorem exec_channelRequest {command : String} {arguments : Json} {answer : Answer}
    (hserver : s.server.isSome = true) :
    (channelRequest request .server command arguments answer).exec s =
      (match answer with
      | .success body => return body
      | .failure type reason cause => raise request (.handlingError type reason cause)
      | .disconnect text streamName => raise request (.noMoreMessages text streamName)
      | .ioError text streamName => raise request (.jsonIOError text streamName) :
        Handler Json).exec (s.sends ⟨request, .server, command, arguments⟩) := by
  have hsome : ¬ (Receiver.server = .server ∧ s.server = none) :=
    fun h => Option.isSome_iff_ne_none.mp hserver h.2
  unfold channelRequest
  rw [exec_bind_ok exec_get, if_neg hsome, if_neg (by simp), exec_bind_ok exec_modify]
  rfl

/-! ### A request that is out of order -/

/-- The start request and the responses that were sent stay. -/
structure State.Stays (s s' : State) : Prop where
  startRequest : s'.startRequest = s.startRequest
  responses : ∀ id, (s.responses id).isSome = true → (s'.responses id).isSome = true

instance : IsPreorder State State.Stays where
  refl _ := ⟨rfl, fun _ h => h⟩
  trans _ _ _ h h' := ⟨h'.startRequest.trans h.startRequest,
    fun id hid => h'.responses id (h.responses id hid)⟩

/-- What a part of a start request does keeps the start request and the responses. -/
theorem State.Keeps.stays (h : s.Keeps request s') : s.Stays s' := by
  refine ⟨h.startRequest, fun id hid => ?_⟩
  by_cases heq : id = request.id
  · subst heq
    exact (congrArg Option.isSome (h.view.answered hid).1).trans hid
  · rw [h.others id heq]
    exact hid

/-- A program that does no more than a part of a start request keeps them, too. -/
theorem stays_of_keeps {α : Type} {x : Handler α} (hx : Within (State.Keeps request) x) :
    Within State.Stays x :=
  fun s => (hx s).mono fun _ _ => State.Keeps.stays

/-- A request that comes too early keeps the start request and the responses. -/
theorem stays_rejectEarly : Within State.Stays (rejectEarly request) := by
  refine within_get.bind fun s => ?_
  split_ifs
  · exact (stays_of_keeps (keeps_on (keeps_error _ _))).bind fun _ => within_pure
  · exact within_pure

/-- A start that fails keeps the start request and the responses. -/
theorem stays_failStart (reason : String) : Within State.Stays (failStart request reason) := by
  refine within_get.bind fun s => ?_
  split
  · exact stays_of_keeps (keeps_ideRaise _)
  · split
    · exact stays_of_keeps (keeps_ideRaise _)
    · exact (stays_of_keeps (keeps_on (keeps_error _ _))).bind fun _ => within_pure

/-- The configuration keeps the start request and the responses. -/
theorem stays_configure (answer : Answer) : Within State.Stays (configure request answer) := by
  refine Within.tryCatch ?_ fun id => within_get.bind fun s => ?_
  · refine (within_modify fun s => ⟨rfl, fun _ h => h⟩).bind fun _ =>
      (stays_of_keeps (keeps_delegate _ _)).bind fun body =>
        (stays_of_keeps (keeps_on (keeps_new _))).bind fun body => ?_
    exact stays_of_keeps (keeps_on (keeps_respond _))
  · split
    · exact stays_failStart _
    · exact within_throw

/-- The end of the process: the exception is none that is provided for. -/
def Fatal (request : Request) (r : Except ObjectId Value) (s : State) : Prop :=
  ∃ e exc, r = .error e ∧ (s.view request.id).exception? e = some exc ∧ ¬ exc.Convertible

/-- `start_request` cannot be responded to: there is none, or it has a response. -/
theorem respondToStart_fails
    (h : ∀ start, s.startRequest = some start → (s.responses start.id).isSome = true) :
    (respondToStart request).Ends s fun r s' => ∃ e exc, r = .error e ∧
      (s'.view request.id).exception? e = some exc ∧ ¬ exc.Convertible := by
  refine Ends.bind_ok exec_get ?_
  cases hstart : s.startRequest with
  | none =>
      refine Ends.of_exec (exec_ideRaise _) ⟨_, _, rfl, exception?_alloc, not_false⟩
  | some start =>
      refine Ends.bind_ok (exec_on_new request.id _) ?_
      set s₁ := s.update request.id ((s.view request.id).alloc (.payload (.dict []))) with hs₁
      have hsome : (s₁.responses start.id).isSome = true := by
        by_cases heq : start.id = request.id
        · rw [hs₁, heq]
          simpa [State.update, World.alloc, State.view, heq] using h start hstart
        · rw [hs₁, State.responses_update _ _ heq]
          exact h start hstart
      obtain ⟨p, hp⟩ := Option.isSome_iff_exists.mp hsome
      refine Ends.of_exec (@exec_respond_answered start _ _ p hp)
        ⟨_, .assertionError "", rfl, ?_, not_false⟩
      exact @exception?_alloc start s₁ (.assertionError "")

/-- The state after `isnt_valid()` or `cant_handle()` has sent the failure response. -/
def State.failed (s : State) (request : Request) (type : ErrorType) (reason : String) : State :=
  s.update request.id (((s.view request.id).alloc
    (.exception (.handlingError type reason request.id))).answered request.toIncomingRequest
      (.object s.objects.length))

/-- A failure response is sent to a request that has none. -/
theorem exec_on_error {type : ErrorType} {reason : String} (hclosed : s.closed = false)
    (hnone : s.responses request.id = none) :
    (on request.id (error request.toIncomingRequest type reason)).exec s =
      (.ok s.objects.length, s.failed request type reason) :=
  exec_on (exec_error ⟨hclosed, hnone⟩ type reason)

/-- A failure response is sent by `cant_handle()`, too. -/
theorem exec_on_cantHandle {reason : String} (hclosed : s.closed = false)
    (hnone : s.responses request.id = none) :
    (on request.id (cantHandle request.toIncomingRequest reason)).exec s =
      (.ok s.objects.length, s.failed request .messageHandlingError reason) :=
  exec_on_error hclosed hnone

/-- The `finally` clause fails, whatever the `try` block does. -/
theorem tryFinally_fails (answer : Answer)
    (h : ∀ start, s.startRequest = some start → (s.responses start.id).isSome = true) :
    (Program.tryFinally (configure request answer) (finishConfiguration request)).Ends s
      fun r s' => ∃ e exc, r = .error e ∧
        (s'.view request.id).exception? e = some exc ∧ ¬ exc.Convertible := by
  refine Ends.tryFinally (stays_configure answer s) fun r s₁ hs₁ => ?_
  have hfails := @respondToStart_fails request s₁ fun start hstart =>
    hs₁.responses start.id (h start (hs₁.startRequest.symm.trans hstart))
  refine hfails.bind ?_ ?_
  · rintro _ s₂ ⟨e, exc, hr, -⟩
    cases hr
  · rintro _ s₂ ⟨e, exc, hr, hexc⟩
    obtain rfl := Except.error.inj hr
    exact ⟨_, exc, rfl, hexc⟩

/-- **A request that is out of order ends the process**: the handler goes on after
`cant_handle()`, and fails at the start request. -/
theorem configurationDone_outOfOrder (setup : Setup) (answer : Answer)
    (hclosed : s.closed = false) (hnone : s.responses request.id = none)
    (horder : (s.startRequest.isNone || s.hasStarted) = true)
    (h : ∀ start, s.startRequest = some start → (s.responses start.id).isSome = true) :
    (configurationDoneRequest setup request answer).Ends s (Fatal request) := by
  have hreject : (rejectEarly request).exec s = (.ok ⟨⟩, s.failed request .messageHandlingError
      ("\"configurationDone\" is only allowed during handling of a \"launch\" or an " ++
        "\"attach\" request")) := by
    rw [rejectEarly, exec_bind_ok exec_get, if_pos horder,
      exec_bind_ok (exec_on_cantHandle hclosed hnone)]
    rfl
  have hstays := @stays_rejectEarly request s
  rw [Ends, hreject] at hstays
  refine Ends.bind_ok hreject ?_
  refine (tryFinally_fails answer fun start hstart => hstays.responses start.id
    (h start (hstays.startRequest.symm.trans hstart))).bind ?_ ?_
  · rintro _ s₁ ⟨e, exc, hr, -⟩
    cases hr
  · rintro _ s₁ ⟨e, exc, hr, hexc⟩
    obtain rfl := Except.error.inj hr
    exact ⟨_, exc, rfl, hexc⟩

/-! ### A request in order -/

/-- A start request is pending: it is to be responded to, and the debug server is there. -/
structure State.Configuring (s : State) (start : Request) : Prop where
  startRequest : s.startRequest = some start
  hasStarted : s.hasStarted = false
  response : s.responses start.id = none
  server : s.server.isSome = true
  deferred : s.deferredEvents.isSome = true
  closed : s.closed = false

/-- The state after the `finally` clause. -/
def State.finished (s : State) (request start : Request) : State :=
  { (s.deferredEvents.getD []).foldl State.sentEvent
      ((s.update request.id ((s.view request.id).alloc (.payload (.dict [])))).answered start
        (.object s.objects.length)) with
    deferredEvents := none }

/-- **The `finally` clause** succeeds, if the start request is pending. -/
theorem exec_finishConfiguration (hstart : s.startRequest = some start)
    (hnone : s.responses start.id = none) (hne : start.id ≠ request.id)
    (hclosed : s.closed = false) (hdeferred : s.deferredEvents.isSome = true) :
    (finishConfiguration request).exec s = (.ok ⟨⟩, s.finished request start) := by
  obtain ⟨events, hevents⟩ := Option.isSome_iff_exists.mp hdeferred
  set s₁ := s.update request.id ((s.view request.id).alloc (.payload (.dict []))) with hs₁
  have hrespond : (respondToStart request).exec s =
      (.ok ⟨⟩, s₁.answered start (.object s.objects.length)) := by
    rw [respondToStart, exec_bind_ok exec_get, hstart, exec_bind_ok (exec_on_new request.id _)]
    exact exec_respond_open hclosed ((s.responses_update _ hne).trans hnone)
  have hpropagate := @exec_propagateDeferredEvents request
    (s₁.answered start (.object s.objects.length)) events hclosed hevents
  rw [finishConfiguration, exec_bind_ok hrespond, hpropagate, State.finished, hevents,
    Option.getD_some]

section Finished

variable (s) (request) (start)

/-- What the end of a start has changed. -/
theorem State.core_finished : (s.finished request start).core =
    { ((s.update request.id ((s.view request.id).alloc (.payload (.dict [])))).answered start
        (.object s.objects.length)).core with deferredEvents := none } := by
  have hcore := core_sentEvents (s.deferredEvents.getD [])
    ((s.update request.id ((s.view request.id).alloc (.payload (.dict [])))).answered start
      (.object s.objects.length))
  rw [← hcore]
  rfl

/-- The start request is responded to, with a success. -/
theorem State.written_finished : ∃ p : ℕ × SentResponse,
    (s.finished request start).written = s.written ++ [p] ∧ p.2.request = start.id ∧
      p.2.command = start.command ∧ p.2.success = true := by
  have hcore := congrArg State.written (s.core_finished request start)
  refine ⟨_, hcore, rfl, rfl, ?_⟩
  have hfailure : ((s.update request.id ((s.view request.id).alloc (.payload (.dict [])))).view
      start.id).failure (.object s.objects.length) = none :=
    World.failure_alloc_payload (s.view request.id) (.dict [])
  simp [responseJson, hfailure]

/-- Exceptions that were raised before are still there. -/
theorem State.exception?_finished {e : ObjectId} {exc : PyException}
    (h : (s.view request.id).exception? e = some exc) :
    ((s.finished request start).view request.id).exception? e = some exc := by
  have hobjects : (s.finished request start).objects = s.objects ++ [.payload (.dict [])] :=
    congrArg State.objects (s.core_finished request start)
  have hlt : e < s.objects.length := by
    by_contra hge
    simp [World.exception?, State.view, List.getElem?_eq_none (Nat.not_lt.mp hge)] at h
  rw [World.exception?, show ((s.finished request start).view request.id).objects = _ from
    hobjects, List.getElem?_append_left hlt]
  exact h

/-- The other requests have the responses that they had. -/
theorem State.responses_finished {id : MessageId} (hid : id ≠ start.id)
    (hid' : id ≠ request.id) : (s.finished request start).responses id = s.responses id := by
  have hcore := congrFun (congrArg State.responses (s.core_finished request start)) id
  refine hcore.trans ?_
  change ((s.update request.id _).answered start _).responses id = _
  rw [State.responses_answered _ _ hid, State.responses_update _ _ hid']

/-- The request itself keeps the response that it had, if any. -/
theorem State.response_finished (hne : request.id ≠ start.id) :
    (s.finished request start).responses request.id = s.responses request.id := by
  have hcore := congrFun (congrArg State.responses (s.core_finished request start)) request.id
  refine hcore.trans ?_
  change ((s.update request.id _).answered start _).responses request.id = _
  rw [State.responses_answered _ _ hne]
  exact if_pos rfl

/-- The start request has been responded to. -/
theorem State.start_finished : ((s.finished request start).responses start.id).isSome = true := by
  have hcore := congrFun (congrArg State.responses (s.core_finished request start)) start.id
  rw [show (s.finished request start).responses start.id = _ from hcore]
  exact State.responses_answered_self _ start _

end Finished

/-- The state without the subprocesses that the IDE knows about. -/
def State.rest (s : State) : State := { s.core with knownSubprocesses := [] }

/-- The loop at the end only sends events. -/
theorem notifyOfSubprocesses_ends (setup : Setup) (conns : List Connection)
    (hclosed : s.closed = false) : (notifyOfSubprocesses setup request conns).Ends s
      fun r s' => r = .ok ⟨⟩ ∧ s'.rest = s.rest := by
  induction conns generalizing s with
  | nil => exact ⟨rfl, rfl⟩
  | cons conn conns ih =>
      have hnotify : (notifyOfSubprocess setup request conn).Ends s fun r s' => r = .ok ⟨⟩ ∧
          s'.closed = false ∧ s'.rest = s.rest := by
        refine Ends.bind_ok exec_get ?_
        cases hstart : s.startRequest with
        | none => exact ⟨rfl, hclosed, rfl⟩
        | some start =>
            simp only []
            split_ifs
            · exact ⟨rfl, hclosed, rfl⟩
            · refine Ends.bind_ok exec_modify ?_
              exact Ends.of_exec (exec_sendEvent hclosed) ⟨rfl, hclosed, rfl⟩
      have hrest : ∀ s', s'.closed = false → s'.rest = s.rest →
          (notifyOfSubprocesses setup request conns).Ends s' fun r s'' => r = .ok ⟨⟩ ∧
            s''.rest = s.rest := fun s' hclosed' hs' =>
        (@ih s' hclosed').mono fun r s'' hs'' => ⟨hs''.1, hs''.2.trans hs'⟩
      refine Ends.bind_ok exec_get ?_
      split_ifs
      · refine hnotify.bind ?_ fun e s' hs' => by cases hs'.1
        exact fun _ s' hs' => hrest s' hs'.2.1 hs'.2.2
      · exact hrest s hclosed rfl

/-! ### What the debug server answers -/

/-- The state after "configurationDone" was sent to the debug server. -/
def State.delegated (s : State) (request : Request) : State :=
  { s with hasStarted := true }.sends ⟨request, .server, request.command, request.arguments⟩

/-- A request that is in order is not rejected. -/
theorem exec_rejectEarly (h : s.Configuring start) :
    (rejectEarly request).exec s = (.ok ⟨⟩, s) := by
  have horder : ¬ (s.startRequest.isNone || s.hasStarted) = true := by
    simp [h.startRequest, h.hasStarted]
  rw [rejectEarly, exec_bind_ok exec_get, if_neg horder]
  rfl

/-- The server has accepted the configuration, and the request is responded to with its answer. -/
theorem exec_configure_success {body : Json} (h : s.Configuring start)
    (hnone : s.responses request.id = none) :
    (configure request (.success body)).exec s = (.ok ⟨⟩,
      ((s.delegated request).update request.id
        (((s.delegated request).view request.id).alloc (.payload body))).answered request
          (.object s.objects.length)) := by
  have hserver : ({ s with hasStarted := true } : State).server.isSome = true := h.server
  have hdelegate : (delegate request .server (.success body)).exec
      { s with hasStarted := true } = (.ok body, s.delegated request) := by
    refine exec_tryCatch_ok ?_
    rw [exec_channelRequest hserver]
    rfl
  refine exec_tryCatch_ok ?_
  rw [exec_bind_ok exec_modify, exec_bind_ok hdelegate, exec_bind_ok (exec_on_new request.id _)]
  refine exec_respond_open h.closed ?_
  exact Eq.trans (if_pos rfl) hnone

/-- What is raised after the first statement of a block. -/
theorem exec_bind_error_of_modify {g : State → State} {x : Handler Json}
    {f : Json → Handler PUnit} {e : ObjectId} (h : x.exec (g s) = (.error e, s')) :
    (do
      modify g
      let body ← x
      f body : Handler PUnit).exec s = (.error e, s') := by
  rw [exec_bind_ok exec_modify, exec_bind, h]

/-- What is raised when the debug server has disconnected. -/
theorem exec_configure_disconnect {text streamName : String} {answer : Answer}
    {exc : PyException} (h : s.Configuring start)
    (hanswer : answer = .disconnect text streamName ∧ exc = .noMoreMessages text streamName ∨
      answer = .ioError text streamName ∧ exc = .jsonIOError text streamName) :
    (configure request answer).exec s = (.error s.objects.length,
      (s.delegated request).update request.id
        (((s.delegated request).view request.id).alloc (.exception exc))) := by
  have hserver : ({ s with hasStarted := true } : State).server.isSome = true := h.server
  have hraise : (delegate request .server answer).exec { s with hasStarted := true } =
      (.error s.objects.length, (s.delegated request).update request.id
        (((s.delegated request).view request.id).alloc (.exception exc))) := by
    have hrequest : (channelRequest request .server request.command request.arguments
        answer).exec { s with hasStarted := true } = (.error s.objects.length,
          (s.delegated request).update request.id
            (((s.delegated request).view request.id).alloc (.exception exc))) := by
      rw [exec_channelRequest hserver]
      rcases hanswer with ⟨rfl, rfl⟩ | ⟨rfl, rfl⟩
      · exact exec_ideRaise _
      · exact exec_ideRaise _
    rw [delegate, propagating, exec_tryCatch_error hrequest, exec_bind_ok exec_get,
      show (((s.delegated request).update request.id (((s.delegated request).view
        request.id).alloc (.exception exc))).view request.id).exception? s.objects.length =
          some exc from exception?_alloc]
    rcases hanswer with ⟨-, rfl⟩ | ⟨-, rfl⟩
    · rfl
    · rfl
  rw [configure, exec_tryCatch_error (exec_bind_error_of_modify hraise), exec_bind_ok exec_get,
    show (((s.delegated request).update request.id (((s.delegated request).view
      request.id).alloc (.exception exc))).view request.id).exception? s.objects.length =
        some exc from exception?_alloc]
  rcases hanswer with ⟨-, rfl⟩ | ⟨-, rfl⟩
  · rfl
  · rfl

/-! ### The three outcomes -/

/-- The start request stays pending while something else is done. -/
theorem State.Configuring.of_eq (h : s.Configuring start)
    (hstart : s'.startRequest = s.startRequest)
    (hresponse : s'.responses start.id = s.responses start.id)
    (hdeferred : s'.deferredEvents = s.deferredEvents) (hclosed : s'.closed = s.closed) :
    s'.startRequest = some start ∧ s'.responses start.id = none ∧
      s'.deferredEvents.isSome = true ∧ s'.closed = false :=
  ⟨hstart.trans h.startRequest, hresponse.trans h.response, by rw [hdeferred]; exact h.deferred,
    hclosed.trans h.closed⟩

/-- **What both requests come to** when the session has started. -/
structure State.Configured (request start : Request) (s s' : State) : Prop where
  startRequest : s'.startRequest = some start
  hasStarted : s'.hasStarted = true
  response : (s'.responses start.id).isSome = true
  others : ∀ id, id ≠ start.id → id ≠ request.id → s'.responses id = s.responses id
  closed : s'.closed = false
  exited : s'.exited = s.exited
  received : s'.received = s.received
  server : s'.server = s.server
  launcher : s'.launcher = s.launcher
  pid : s'.pid = s.pid
  initializeRequest : s'.initializeRequest = s.initializeRequest
  sent : s'.sent = s.sent ++ [⟨request, .server, request.command, request.arguments⟩]

/-- The `finally` clause after the request was sent to the debug server. -/
theorem State.configured_of_rest (h : s.Configuring start) {w : World}
    (hclosed : w.closed = s.closed) (hexited : w.exited = s.exited)
    (hrest : s''.rest = (((s.delegated request).update request.id w).finished request start).rest) :
    State.Configured request start s s'' := by
  set s₁ := (s.delegated request).update request.id w with hs₁
  have hall := hrest.trans (congrArg State.rest (s₁.core_finished request start) :)
  have hresponses : s''.responses = (s₁.finished request start).responses :=
    (congrArg State.responses hrest :)
  refine ⟨(congrArg State.startRequest hall :).trans h.startRequest,
    (congrArg State.hasStarted hall :), ?_, ?_, ?_, ?_, (congrArg State.received hall :),
    (congrArg State.server hall :), (congrArg State.launcher hall :),
    (congrArg State.pid hall :), (congrArg State.initializeRequest hall :),
    (congrArg State.sent hall :)⟩
  · rw [hresponses]
    exact s₁.start_finished request start
  · intro id hid hid'
    rw [hresponses, s₁.responses_finished request start hid hid']
    exact State.responses_update _ _ hid'
  · exact ((congrArg State.closed hall :).trans hclosed).trans h.closed
  · exact (congrArg State.exited hall :).trans hexited

/-- What a `try … finally` does when its last part returns. -/
theorem exec_tryFinally {x : Handler PUnit} {y : Handler PUnit} {r : Except ObjectId PUnit}
    (hx : x.exec s = (r, s')) (hy : y.exec s' = (.ok ⟨⟩, s'')) :
    (Program.tryFinally x y).exec s = (r, s'') := by
  have hattempt : (attempt x).exec s = (.ok r, s') := by
    have heq : (attempt x).exec s = (.ok (x.exec s).1, (x.exec s).2) := rfl
    rw [heq, hx]
  rw [Program.tryFinally, exec_bind_ok hattempt, exec_bind_ok hy]
  cases r with
  | ok a => rfl
  | error e => rfl

/-- **With a success of the debug server**, both requests succeed. -/
theorem configurationDone_success (setup : Setup) {body : Json} (h : s.Configuring start)
    (hnone : s.responses request.id = none) (hne : start.id ≠ request.id) :
    (configurationDoneRequest setup request (.success body)).Ends s fun r s' => r = .ok .none ∧
      State.Configured request start s s' ∧ (s'.responses request.id).isSome = true ∧
      ∃ p q : ℕ × SentResponse, s'.written = s.written ++ [p, q] ∧
        p.2.request = request.id ∧ p.2.success = true ∧
        q.2.request = start.id ∧ q.2.success = true := by
  set w := ((s.delegated request).view request.id).alloc (.payload body) with hw
  set s₁ := ((s.delegated request).update request.id w).answered request
    (.object s.objects.length) with hs₁
  have hconfigure : (configure request (.success body)).exec s = (.ok ⟨⟩, s₁) :=
    exec_configure_success h hnone
  have hupdate : s₁ = (s.delegated request).update request.id
      (w.answered request.toIncomingRequest (.object s.objects.length)) := by
    rw [hs₁, State.answered, State.view_update]
    simp only [State.update]
    congr 1
    funext id
    by_cases hid : id = request.id
    · rw [if_pos hid, if_pos hid]
    · rw [if_neg hid, if_neg hid, if_neg hid]
  have hpending : s₁.startRequest = some start ∧ s₁.responses start.id = none ∧
      s₁.deferredEvents.isSome = true ∧ s₁.closed = false := by
    refine h.of_eq rfl ?_ rfl rfl
    rw [hs₁, State.responses_answered _ _ hne]
    exact State.responses_update _ _ hne
  obtain ⟨hstart, hresponse, hdeferred, hclosed⟩ := hpending
  have hfinish := exec_tryFinally hconfigure
    (exec_finishConfiguration hstart hresponse hne hclosed hdeferred)
  refine Ends.bind_ok (exec_rejectEarly h) (Ends.bind_ok hfinish (Ends.bind_ok exec_get ?_))
  have hclosed' : (s₁.finished request start).closed = false :=
    (congrArg State.closed (s₁.core_finished request start) :).trans hclosed
  refine (notifyOfSubprocesses_ends setup _ hclosed').bind ?_ fun e s' hs' => by cases hs'.1
  rintro _ s' ⟨-, hrest⟩
  refine ends_pure ⟨rfl, State.configured_of_rest h rfl rfl (hupdate ▸ hrest), ?_, ?_⟩
  · have hself : s'.responses request.id = s₁.responses request.id :=
      (congrFun (congrArg State.responses hrest) request.id :).trans
        (s₁.response_finished request start hne.symm)
    rw [hself]
    exact State.responses_answered_self _ request _
  · obtain ⟨q, hq, hrequest, -, hsuccess⟩ := s₁.written_finished request start
    refine ⟨((s.delegated request).seqIter, responseJson request.toIncomingRequest
      (((s.delegated request).update request.id w).view request.id) (.object s.objects.length)),
      q, ?_, rfl, ?_, hrequest, hsuccess⟩
    · have hwritten : s'.written = (s₁.finished request start).written :=
        (congrArg State.written hrest :)
      rw [hwritten, hq, hs₁, State.written_answered, List.append_assoc]
      rfl
    · have hfailure : w.failure (.object s.objects.length) = none :=
        World.failure_alloc_payload ((s.delegated request).view request.id) body
      simp [responseJson, hfailure]

/-- **If the debug server disconnects**, the start request succeeds, and the exception is left
to the wrapper. -/
theorem configurationDone_disconnect (setup : Setup) {text streamName : String}
    {answer : Answer} {exc : PyException} (h : s.Configuring start)
    (hnone : s.responses request.id = none) (hne : start.id ≠ request.id)
    (hanswer : answer = .disconnect text streamName ∧ exc = .noMoreMessages text streamName ∨
      answer = .ioError text streamName ∧ exc = .jsonIOError text streamName) :
    (configurationDoneRequest setup request answer).Ends s fun r s' =>
      (∃ e, r = .error e ∧ (s'.view request.id).exception? e = some exc) ∧
      State.Configured request start s s' ∧ s'.responses request.id = none ∧
      ∃ q : ℕ × SentResponse, s'.written = s.written ++ [q] ∧
        q.2.request = start.id ∧ q.2.success = true := by
  set s₁ := (s.delegated request).update request.id
    (((s.delegated request).view request.id).alloc (.exception exc)) with hs₁
  have hresponse₁ : s₁.responses start.id = none :=
    (State.responses_update _ _ hne).trans h.response
  have hfinish := exec_tryFinally (exec_configure_disconnect h hanswer)
    (@exec_finishConfiguration request start s₁ h.startRequest hresponse₁ hne h.closed
      h.deferred)
  refine Ends.bind_ok (exec_rejectEarly h) (Ends.bind_error hfinish ⟨⟨_, rfl, ?_⟩,
    State.configured_of_rest h rfl rfl rfl, ?_, ?_⟩)
  · exact s₁.exception?_finished request start exception?_alloc
  · rw [s₁.response_finished request start hne.symm]
    exact Eq.trans (if_pos rfl) hnone
  · obtain ⟨q, hq, hrequest, -, hsuccess⟩ := s₁.written_finished request start
    exact ⟨q, hq, hrequest, hsuccess⟩

/-- The `except` clause responds to the start request, unless the text of the failure is no
format string. -/
theorem configure_failure {type : ErrorType} {reason : String} {cause : MessageId}
    (h : s.Configuring start) (hne : start.id ≠ request.id) :
    (configure request (.failure type reason cause)).Ends s fun r s' =>
      s'.startRequest = some start ∧ s'.deferredEvents.isSome = true ∧ s'.closed = false ∧
        ((s'.responses start.id).isSome = true ∨ s'.responses start.id = none ∧
          ∃ e text, r = .error e ∧ (s'.view request.id).exception? e = some (.other text)) := by
  have hserver : ({ s with hasStarted := true } : State).server.isSome = true := h.server
  -- what `delegate` raises
  set s₁ := (s.delegated request).update request.id (((s.delegated request).view
    request.id).alloc (.exception (.handlingError type reason cause))) with hs₁
  set s₂ := s₁.update request.id ((s₁.view request.id).alloc
    (.exception (.handlingError type reason request.id))) with hs₂
  have hdelegate : (delegate request .server (.failure type reason cause)).exec
      { s with hasStarted := true } = (.error s₁.objects.length, s₂) := by
    have hraise : (channelRequest request .server request.command request.arguments
        (.failure type reason cause)).exec { s with hasStarted := true } =
          (.error s.objects.length, s₁) := by
      rw [exec_channelRequest hserver]
      exact exec_ideRaise _
    have hexc : (s₁.view request.id).exception? s.objects.length =
        some (.handlingError type reason cause) := exception?_alloc
    rw [delegate, propagating, exec_tryCatch_error hraise, exec_bind_ok exec_get, hexc]
    exact exec_ideRaise _
  have hexc : (s₂.view request.id).exception? s₁.objects.length =
      some (.handlingError type reason request.id) := exception?_alloc
  have hnone : s₂.responses start.id = none :=
    (State.responses_update _ _ hne).trans ((State.responses_update _ _ hne).trans h.response)
  unfold configure
  rw [Ends, exec_tryCatch_error (exec_bind_error_of_modify hdelegate), exec_bind_ok exec_get,
    hexc]
  -- the `except` clause
  have hfail : (failStart request (PyException.handlingError type reason request.id).str).Ends
      s₂ fun r s' => s'.startRequest = some start ∧ s'.deferredEvents.isSome = true ∧
        s'.closed = false ∧ ((s'.responses start.id).isSome = true ∨
          s'.responses start.id = none ∧ ∃ e text, r = .error e ∧
            (s'.view request.id).exception? e = some (.other text)) := by
    have hstart₂ : s₂.startRequest = some start := h.startRequest
    refine Ends.bind_ok exec_get ?_
    rw [hstart₂]
    simp only []
    split
    · refine Ends.of_exec (exec_ideRaise _) ⟨h.startRequest, h.deferred, h.closed, Or.inr ⟨?_, _,
        _, rfl, exception?_alloc⟩⟩
      exact (State.responses_update _ _ hne).trans hnone
    · refine Ends.bind_ok (@exec_on_cantHandle start s₂ _ h.closed hnone) ?_
      refine ends_pure ⟨h.startRequest, h.deferred, h.closed, Or.inl ?_⟩
      simp [State.failed, State.update, World.answered]
  exact hfail

/-- **With a failure of the debug server**, the process ends: the `finally` clause responds to
the start request once more. -/
theorem configurationDone_failure (setup : Setup) {type : ErrorType} {reason : String}
    {cause : MessageId} (h : s.Configuring start) (hne : start.id ≠ request.id) :
    (configurationDoneRequest setup request (.failure type reason cause)).Ends s
      (Fatal request) := by
  refine Ends.bind_ok (exec_rejectEarly h) ?_
  have hfatal : (Program.tryFinally (configure request (.failure type reason cause))
      (finishConfiguration request)).Ends s fun r s' => ∃ e exc, r = .error e ∧
        (s'.view request.id).exception? e = some exc ∧ ¬ exc.Convertible := by
    refine (configure_failure h hne).tryFinally ?_
    rintro r s₁ ⟨hstart, hdeferred, hclosed, hsome | ⟨hnone, e, text, rfl, hexc⟩⟩
    · -- the start request has its failure response
      refine (@respondToStart_fails request s₁ fun start' hstart' => ?_).bind
        ?_ ?_
      · obtain rfl : start = start' := Option.some.inj (hstart.symm.trans hstart')
        exact hsome
      · rintro _ s₂ ⟨e, exc, hr, -⟩
        cases hr
      · rintro _ s₂ ⟨e, exc, hr, hexc⟩
        obtain rfl := Except.error.inj hr
        exact ⟨_, exc, rfl, hexc⟩
    · -- the text of the failure could not be formatted
      refine Ends.of_exec (exec_finishConfiguration hstart hnone hne hclosed hdeferred) ?_
      exact ⟨e, .other text, rfl, s₁.exception?_finished request start hexc, not_false⟩
  refine hfatal.bind ?_ ?_
  · rintro _ s₁ ⟨e, exc, hr, -⟩
    cases hr
  · rintro _ s₁ ⟨e, exc, hr, hexc⟩
    obtain rfl := Except.error.inj hr
    exact ⟨_, exc, rfl, hexc⟩

end IDE

end Ptvsd
