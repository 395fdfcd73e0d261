import Ptvsd.Frames

/-!
# Start Requests

What the common code of `launch_request` and `attach_request` does to the session: how it can
end, and what it leaves behind in each of these cases.

## Main results

* `startMessageHandler_ends`: a start request either raises and leaves the session as it was,
  except that the "initialize" request is forgotten once the debug server has got it; or it
  becomes the `start_request`, to be responded to by "configurationDone"; or, with "noDebug",
  it is responded to at once.
-/

namespace Ptvsd

namespace IDE

variable {request : Request} {s s' s'' : State}

/-- What a start request changes before its end: the "initialize" request is forgotten, if
there is a debug server. -/
structure State.Advances (request : Request) (s s' : State) : Prop
    extends State.Serves request s s' where
  initializeRequest : s'.initializeRequest = s.initializeRequest ∨
    s'.initializeRequest = none ∧ s'.server.isSome = true
  startRequest : s'.startRequest = s.startRequest
  hasStarted : s'.hasStarted = s.hasStarted
  deferredEvents : s'.deferredEvents = s.deferredEvents
  noDebug : s'.noDebug = s.noDebug

namespace State

theorem Keeps.advances (h : s.Keeps request s') : s.Advances request s' :=
  ⟨h.toServes, Or.inl h.initializeRequest, h.startRequest, h.hasStarted, h.deferredEvents,
    h.noDebug⟩

theorem Advances.trans (h : s.Advances request s') (h' : s'.Advances request s'') :
    s.Advances request s'' where
  toServes := h.toServes.trans h'.toServes
  initializeRequest := by
    rcases h'.initializeRequest with heq | hnone
    · rcases h.initializeRequest with heq' | ⟨hnone, hserver⟩
      · exact Or.inl (heq.trans heq')
      · exact Or.inr ⟨heq.trans hnone, by rw [h'.server hserver]; exact hserver⟩
    · exact Or.inr hnone
  startRequest := h'.startRequest.trans h.startRequest
  hasStarted := h'.hasStarted.trans h.hasStarted
  deferredEvents := h'.deferredEvents.trans h.deferredEvents
  noDebug := h'.noDebug.trans h.noDebug

instance : IsPreorder State (State.Advances request) where
  refl s := (Keeps.refl request s).advances
  trans _ _ _ := .trans

/-- The same, from a state in which "noDebug" is not set yet. -/
theorem Advances.ofNoDebug {b : Bool}
    (h : State.Advances request { s with noDebug := b } s') : s.Serves request s' ∧
      (s'.initializeRequest = s.initializeRequest ∨
        s'.initializeRequest = none ∧ s'.server.isSome = true) ∧
      s'.startRequest = s.startRequest ∧ s'.hasStarted = s.hasStarted ∧
      s'.deferredEvents = s.deferredEvents :=
  ⟨⟨h.view, h.others, h.received, h.launcher, h.server, h.pid, h.sent⟩, h.initializeRequest,
    h.startRequest, h.hasStarted, h.deferredEvents⟩

end State

/-- **How a start request ends.** -/
inductive StartEnd (request : Request) (s : State) : Except ObjectId Value → State → Prop
  /-- It raises, and is not started. -/
  | fails {e : ObjectId} {s' : State} : s'.startRequest = s.startRequest →
      s'.hasStarted = s.hasStarted → s'.deferredEvents = s.deferredEvents →
      StartEnd request s (.error e) s'
  /-- It raises something that ends the process. -/
  | fatal {e : ObjectId} {s' : State} {exc : PyException} :
      (s'.view request.id).exception? e = some exc → ¬ exc.Convertible →
      StartEnd request s (.error e) s'
  /-- It is left to "configurationDone". -/
  | pending {s' : State} : s'.startRequest = some request → s'.hasStarted = s.hasStarted →
      s'.deferredEvents = s.deferredEvents → s'.server.isSome = true →
      StartEnd request s (.ok .noResponse) s'
  /-- It is responded to. -/
  | finished {s' : State} : s'.startRequest = some request → s'.hasStarted = true →
      (s'.responses request.id).isSome = true → s'.Started →
      StartEnd request s (.ok .none) s'

section

open Program

variable (setup : Setup) (outcomes : Outcomes)

/-- The "initialize" request is forgotten after the debug server has got it. -/
theorem advances_startServer (initRequest : Request) (debugOptions : List String)
    (cause : MessageId) : Within (State.Advances request)
      (startServer setup request outcomes initRequest debugOptions cause) := by
  refine within_get_bind fun s => ?_
  split_ifs with hserver
  · refine (keeps_serverInitialize setup outcomes initRequest cause s).bind ?_
      fun e s' hs' => hs'.advances
    intro _ s₁ hs₁
    have hcleared : s.Advances request { s₁ with initializeRequest := none } := by
      have hsome : s₁.server.isSome = true := by rw [hs₁.server hserver]; exact hserver
      exact ⟨⟨hs₁.view, hs₁.others, hs₁.received, hs₁.launcher, hs₁.server, hs₁.pid, hs₁.sent⟩,
        Or.inr ⟨rfl, hsome⟩, hs₁.startRequest, hs₁.hasStarted, hs₁.deferredEvents, hs₁.noDebug⟩
    refine Ends.bind (R := fun _ s' => s.Advances request s') (ends_modify hcleared) ?_
      fun e s' hs' => hs'
    intro _ s₂ hs₂
    have hstart : Within (State.Keeps request) (do
        let s ← get
        let arguments := serverArguments s.launcher debugOptions (startItems request)
        let _ ← propagating request
          (channelRequest request .server request.command (.dict arguments) outcomes.start)
        pure ⟨⟩ : Handler PUnit) :=
      within_get.bind fun _ => (keeps_propagating (keeps_channelRequest _ _ _ _)).bind
        fun _ => within_pure
    exact (hstart s₂).mono fun _ s₃ hs₃ => hs₂.trans hs₃.advances
  · exact (State.Keeps.refl request s).advances

/-- The debug server is there if a request to it gets a response. -/
theorem channelRequest_server {command : String} {arguments : Json} {answer : Answer}
    (s : State) : (channelRequest request .server command arguments answer).Ends s
      fun r s' => ∀ body, r = .ok body → s'.server.isSome = true := by
  unfold channelRequest
  rw [Ends, exec_bind_ok exec_get]
  split_ifs with hserver hlauncher
  · intro body hr
    cases hr
  · simp at hlauncher
  · have hsome : s.server.isSome = true :=
      Option.isSome_iff_ne_none.mpr fun h => hserver ⟨rfl, h⟩
    rw [exec_bind_ok exec_modify]
    intro body hr
    cases answer with
    | success body' => exact hsome
    | failure | disconnect | ioError => cases hr

/-! ### Responses and events -/

/-- The state after a response was sent. -/
def State.answered (s : State) (request : Request) (body : Value) : State :=
  s.update request.id ((s.view request.id).answered request.toIncomingRequest body)

/-- The state after an event was sent. -/
def State.sentEvent (s : State) (event : Event) : State :=
  { s with seqIter := s.seqIter + 1, events := s.events ++ [(s.seqIter, event)] }

theorem exec_on {α : Type} {id : MessageId} {x : Python α} {r : Except ObjectId α} {w : World}
    (h : x.exec (s.view id) = (r, w)) : (on id x).exec s = (r, s.update id w) := by
  have heq : (on id x).exec s =
      ((x.exec (s.view id)).1, s.update id (x.exec (s.view id)).2) := rfl
  rw [heq, h]

/-- What a handler does to look up a property is what a `MessageDict` does, if the validator raises
nothing but `TypeError` and `ValueError`. -/
theorem exec_parse_call {items : List (String × Json)} {key : String} {validate : Validator}
    (harguments : request.arguments = .dict items)
    (hlawful : Lawful (validate (items.lookup key))) :
    (parse request (request.call key validate)).exec s =
      (on request.id
        ((DictOwner.request request.toIncomingRequest).call items key validate)).exec s := by
  have hget : MessageDict.get ⟨items, some request.id⟩ key = items.lookup key := rfl
  cases hvalue : validate (items.lookup key) with
  | ok value =>
      have hcall : request.call key validate = .ok value := by
        rw [Request.call, harguments]
        simp only [MessageDict.call, hget, hvalue]
      rw [hcall, exec_on (DictOwner.call_ok hvalue), State.update_view]
      rfl
  | error e =>
      obtain ⟨text, he⟩ : ∃ text, e = .typeError text ∨ e = .valueError text := by
        rcases hlawful e hvalue with ⟨text, he⟩ | ⟨text, he⟩
        · exact ⟨text, Or.inl he⟩
        · exact ⟨text, Or.inr he⟩
      have hcall : request.call key validate =
          .error (.invalidMessage (MessageDict.describeInvalid key text) (some request.id)) := by
        rw [Request.call, harguments]
        rcases he with rfl | rfl <;> simp only [MessageDict.call, hget, hvalue] <;> rfl
      rw [hcall, DictOwner.call_rejected hvalue he, parse, raiseIsntValid, exec_bind]
      rcases hexec : (isntValid request.toIncomingRequest
        (MessageDict.describeInvalid key text)).exec (s.view request.id) with ⟨id | id, w⟩
      · rw [exec_on hexec]
        refine (exec_on ?_).symm
        rw [exec_bind, DictOwner.isntValid, hexec]
      · rw [exec_on hexec]
        refine (exec_on ?_).symm
        rw [exec_bind, DictOwner.isntValid, hexec]
        rfl

/-- A new object changes nothing but the objects. -/
theorem exec_on_new (id : MessageId) (obj : PyObject) :
    (on id (new obj)).exec s =
      (.ok s.objects.length, s.update id ((s.view id).alloc obj)) :=
  exec_on (exec_new obj)

theorem exec_ideRaise {α : Type} (exc : PyException) :
    (raise request exc : Handler α).exec s =
      (.error s.objects.length, s.update request.id ((s.view request.id).alloc (.exception exc))) :=
  exec_on (exec_raise exc)

theorem exec_respond_open {body : Value} (hclosed : s.closed = false)
    (hnone : s.responses request.id = none) :
    (on request.id (respond request.toIncomingRequest body)).exec s =
      (.ok ⟨⟩, s.answered request body) :=
  exec_on (exec_respond ⟨hclosed, hnone⟩)

/-- A second response fails an assertion. -/
theorem exec_respond_answered {body : Value} {p : ℕ × Value}
    (h : s.responses request.id = some p) :
    (on request.id (respond request.toIncomingRequest body)).exec s =
      (.error s.objects.length, s.update request.id
        ((s.view request.id).alloc (.exception (.assertionError "")))) := by
  refine exec_on ?_
  rw [respond, exec_bind_ok exec_get, show (s.view request.id).response = some p from h]
  rfl

theorem exec_sendEvent {event : Event} (hclosed : s.closed = false) :
    (sendEvent request event).exec s = (.ok ⟨⟩, s.sentEvent event) := by
  have hopen : ¬ s.closed = true := by simp [hclosed]
  rw [sendEvent, exec_bind_ok exec_get, exec_bind_ok exec_modify, if_neg hopen]
  rfl

/-- The channel is open, and so all the events are sent. -/
theorem exec_sendEvents (events : List Event) (hclosed : s.closed = false) :
    (sendEvents request events).exec s = (.ok ⟨⟩, events.foldl State.sentEvent s) := by
  induction events generalizing s with
  | nil => rfl
  | cons event events ih =>
      rw [sendEvents, exec_bind_ok (exec_sendEvent hclosed)]
      exact @ih (s.sentEvent event) hclosed

theorem core_sentEvents (events : List Event) (s : State) :
    (events.foldl State.sentEvent s).core = s.core := by
  induction events generalizing s with
  | nil => rfl
  | cons event events ih => exact ih (s.sentEvent event)

theorem exec_propagateDeferredEvents {events : List Event} (hclosed : s.closed = false)
    (hdeferred : s.deferredEvents = some events) :
    (propagateDeferredEvents request).exec s =
      (.ok ⟨⟩, { events.foldl State.sentEvent s with deferredEvents := none }) := by
  rw [propagateDeferredEvents, exec_bind_ok exec_get, hdeferred]
  exact exec_bind_ok (exec_sendEvents events hclosed)

/-- Without deferred events, there is nothing to go through. -/
theorem exec_propagateDeferredEvents_none (hdeferred : s.deferredEvents = none) :
    (propagateDeferredEvents request).exec s = (.error s.objects.length, s.update request.id
      ((s.view request.id).alloc
        (.exception (.other "'NoneType' object is not iterable")))) := by
  rw [propagateDeferredEvents, exec_bind_ok exec_get, hdeferred]
  exact exec_ideRaise _

/-- The exception that was just raised. -/
theorem exception?_alloc {exc : PyException} :
    ((s.update request.id ((s.view request.id).alloc (.exception exc))).view
      request.id).exception? s.objects.length = some exc := by
  rw [State.view_update]
  exact World.exception?_alloc exc

/-! ### The end of a start request -/

/-- The fields that a start request sets at its end. -/
theorem State.Serves.set (h : s.Serves request s') (start : Option Request) (hasStarted : Bool)
    (deferred : Option (List Event)) : s.Serves request
      { s' with startRequest := start, hasStarted := hasStarted, deferredEvents := deferred } :=
  ⟨h.view, h.others, h.received, h.launcher, h.server, h.pid, h.sent⟩

/-- With "noDebug", the start request is responded to, unless that has been done: then the
process ends. -/
theorem finishStart_noDebug (debugOptions : List String) (hclosed : s.closed = false)
    (hnoDebug : s.noDebug = true) (hstarted : s.Started) :
    (finishStart setup request outcomes debugOptions).Ends s fun r s' =>
      s.Serves request s' ∧ s'.initializeRequest = s.initializeRequest ∧
        StartEnd request s r s' := by
  set s₁ : State := { s with startRequest := some request, hasStarted := true } with hs₁
  set s₂ := s₁.update request.id ((s₁.view request.id).alloc (.payload (.dict []))) with hs₂
  have hserves₁ : s.Serves request s₁ := (State.Serves.refl request s).set _ _ _
  have hserves₂ : s.Serves request s₂ :=
    hserves₁.trans (State.keeps_update (keeps_new _ (s₁.view request.id))).toServes
  unfold finishStart
  refine Ends.bind_ok exec_get ?_
  rw [if_pos hnoDebug]
  refine Ends.bind_ok exec_modify (Ends.bind_ok (exec_on_new request.id _) ?_)
  have hresponses : s₂.responses request.id = s.responses request.id := if_pos rfl
  have hkeeps₃ := @keeps_on request _ _ (keeps_respond (.object s₁.objects.length)) s₂
  cases hresponse : s.responses request.id with
  | some p =>
      have hraise := @exec_respond_answered request s₂ (.object s₁.objects.length) p
        (hresponses.trans hresponse)
      rw [Ends, hraise] at hkeeps₃
      exact Ends.bind_error hraise ⟨hserves₂.trans hkeeps₃.toServes, rfl,
        .fatal exception?_alloc not_false⟩
  | none =>
      have hrespond := @exec_respond_open request s₂ (.object s₁.objects.length) hclosed
        (hresponses.trans hresponse)
      rw [Ends, hrespond] at hkeeps₃
      refine Ends.bind_ok hrespond ?_
      set s₃ := s₂.answered request (.object s₁.objects.length) with hs₃
      have hserves₃ : s.Serves request s₃ := hserves₂.trans hkeeps₃.toServes
      cases hdeferred : s.deferredEvents with
      | none =>
          have hkeeps₄ := @keeps_ideRaise request PUnit
            (.other "'NoneType' object is not iterable") s₃
          rw [Ends, exec_ideRaise] at hkeeps₄
          refine Ends.bind_error (exec_propagateDeferredEvents_none hdeferred)
            ⟨hserves₃.trans hkeeps₄.toServes, rfl, .fatal exception?_alloc not_false⟩
      | some events =>
          refine Ends.bind_ok (exec_propagateDeferredEvents (s := s₃) hclosed hdeferred) ?_
          set s₄ := events.foldl State.sentEvent s₃ with hs₄
          have hkeeps₄ : s₃.Keeps request s₄ := State.keeps_of_core (core_sentEvents events s₃)
          have hserves₄ := hserves₃.trans hkeeps₄.toServes
          refine ⟨hserves₄.set s₄.startRequest s₄.hasStarted none, hkeeps₄.initializeRequest,
            .finished hkeeps₄.startRequest hkeeps₄.hasStarted ?_ (hserves₄.started hstarted)⟩
          have hsome : (s₃.view request.id).response.isSome = true := by
            rw [hs₃, State.answered, State.view_update]
            rfl
          exact (congrArg Option.isSome (hkeeps₄.view.answered hsome).1).trans hsome

/-- Otherwise, "configurationDone" is to respond to it. -/
theorem finishStart_debug (debugOptions : List String) (hnoDebug : s.noDebug = false) :
    (finishStart setup request outcomes debugOptions).Ends s fun r s' =>
      s.Serves request s' ∧ s'.initializeRequest = s.initializeRequest ∧
        StartEnd request s r s' := by
  have hno : ¬ s.noDebug = true := by simp [hnoDebug]
  unfold finishStart
  refine Ends.bind_ok exec_get ?_
  rw [if_neg hno]
  refine ((@keeps_channelRequest request .server "setDebuggerProperty"
    (debuggerProperties setup debugOptions) outcomes.setDebuggerProperty s).and
      (channelRequest_server s)).bind ?_ fun e s₁ hs₁ => ⟨hs₁.1.toServes,
        hs₁.1.initializeRequest, .fails hs₁.1.startRequest hs₁.1.hasStarted hs₁.1.deferredEvents⟩
  rintro _ s₁ ⟨hs₁, hserver⟩
  refine (@keeps_sendEvent request _ s₁).bind ?_ fun e s₂ hs₂ => ?_
  · intro _ s₂ hs₂
    have hs := hs₁.trans hs₂
    refine ⟨hs.toServes.set _ _ _, hs.initializeRequest, .pending rfl hs.hasStarted
      hs.deferredEvents ?_⟩
    change s₂.server.isSome = true
    rw [hs₂.server (hserver _ rfl)]
    exact hserver _ rfl
  · have hs := hs₁.trans hs₂
    exact ⟨hs.toServes, hs.initializeRequest, .fails hs.startRequest hs.hasStarted
      hs.deferredEvents⟩

/-- The end only depends on the fields that a start request sets. -/
theorem StartEnd.of_advances {b : Bool} {r : Except ObjectId Value}
    (h : State.Advances request { s with noDebug := b } s') (hend : StartEnd request s' r s'') :
    StartEnd request s r s'' := by
  cases hend with
  | fails hstart hstarted hdeferred =>
      exact .fails (hstart.trans h.startRequest) (hstarted.trans h.hasStarted)
        (hdeferred.trans h.deferredEvents)
  | fatal hid hexc => exact .fatal hid hexc
  | pending hstart hstarted hdeferred hserver =>
      exact .pending hstart (hstarted.trans h.hasStarted) (hdeferred.trans h.deferredEvents)
        hserver
  | finished hstart hstarted hresponse hs => exact .finished hstart hstarted hresponse hs

/-- **How a start request ends**, for a body that starts something before it returns. -/
theorem startMessageHandler_ends {f : List String → Handler PUnit} (cause : MessageId)
    (hf : ∀ o, Within (State.Keeps request) (f o))
    (hstarts : ∀ o s, (f o).Ends s fun r s' => r = .ok ⟨⟩ → s.noDebug = true → s'.Started)
    (hclosed : s.closed = false) :
    (startMessageHandler setup request outcomes f cause).Ends s fun r s' =>
      s.Serves request s' ∧ (s'.initializeRequest = s.initializeRequest ∨
        s'.initializeRequest = none ∧ s'.server.isSome = true) ∧ StartEnd request s r s' := by
  have hfails : ∀ (e : ObjectId) (s' : State) (b : Bool),
      State.Advances request { s with noDebug := b } s' →
      s.Serves request s' ∧ (s'.initializeRequest = s.initializeRequest ∨
        s'.initializeRequest = none ∧ s'.server.isSome = true) ∧
        StartEnd request s (.error e) s' := by
    intro e s' b h
    obtain ⟨hserves, hinit, hstart, hstarted, hdeferred⟩ := h.ofNoDebug
    exact ⟨hserves, hinit, .fails hstart hstarted hdeferred⟩
  have hsame : ∀ s', s.Keeps request s' →
      State.Advances request { s with noDebug := s.noDebug } s' := fun s' h => h.advances
  -- the state check
  refine (keeps_checkState s).bind ?_ fun e s₁ hs₁ => hfails e s₁ _ (hsame s₁ hs₁)
  intro initRequest s₁ hs₁
  -- the options, of which "noDebug" matters for the rest
  refine (keeps_readOptions s₁).bind ?_ ?_
  rotate_left
  · rintro e s₂ ⟨b, hs₂⟩
    exact hfails e s₂ b ((hs₁.setNoDebug b).trans hs₂).advances
  rintro debugOptions s₂ ⟨b, hs₂⟩
  have hkeeps₂ := (hs₁.setNoDebug b).trans hs₂
  -- the body of the handler
  refine ((hf debugOptions s₂).and (hstarts debugOptions s₂)).bind ?_
    fun e s₃ hs₃ => hfails e s₃ b (hkeeps₂.trans hs₃.1).advances
  rintro _ s₃ ⟨hs₃, hstarted⟩
  have hkeeps₃ := hkeeps₂.trans hs₃
  -- the debug server
  refine (advances_startServer setup outcomes initRequest debugOptions cause s₃).bind ?_
    fun e s₄ hs₄ => hfails e s₄ b (hkeeps₃.advances.trans hs₄)
  intro _ s₄ hs₄
  have hadvances := hkeeps₃.advances.trans hs₄
  have hend : (finishStart setup request outcomes debugOptions).Ends s₄ fun r s' =>
      s₄.Serves request s' ∧ s'.initializeRequest = s₄.initializeRequest ∧
        StartEnd request s₄ r s' := by
    cases hnoDebug : s₄.noDebug with
    | true =>
        refine finishStart_noDebug setup outcomes debugOptions
          (hadvances.view.closed.trans hclosed) hnoDebug ?_
        exact hs₄.started (hstarted rfl (by rw [← hnoDebug, hs₄.noDebug, hs₃.noDebug]))
    | false => exact finishStart_debug setup outcomes debugOptions hnoDebug
  refine hend.mono fun r s' hs' => ?_
  obtain ⟨hserves', hinit', hend'⟩ := hs'
  obtain ⟨hserves, hinit, -⟩ := hadvances.ofNoDebug
  refine ⟨hserves.trans hserves', ?_, hend'.of_advances hadvances⟩
  rcases hinit with heq | ⟨hnone, hserver⟩
  · exact Or.inl (hinit'.trans heq)
  · exact Or.inr ⟨hinit'.trans hnone, by rw [hserves'.server hserver]; exact hserver⟩

/-- What is raised does nothing but to one request. -/
theorem on_error_ends {α : Type} {x : Python ObjectId} (s : State) :
    (do throw (← on request.id x) : Handler α).Ends s fun r s' =>
      ∃ e w, r = .error e ∧ s' = s.update request.id w := by
  have hon : (on request.id x).Ends s fun _ s' => ∃ w, s' = s.update request.id w := ⟨_, rfl⟩
  refine hon.bind ?_ ?_
  · rintro e s' ⟨w, rfl⟩
    exact ends_throw ⟨e, w, rfl, rfl⟩
  · rintro e s' ⟨w, rfl⟩
    exact ⟨e, w, rfl, rfl⟩

/-- **The state check**: a start request does something only in a session that was initialized
and is not started. -/
theorem startMessageHandler_checks {f : List String → Handler PUnit} (cause : MessageId)
    (s : State) : (startMessageHandler setup request outcomes f cause).Ends s fun r s' =>
      (s.initializeRequest.isSome = true ∧ ¬ s.Started) ∨
        ∃ e w, r = .error e ∧ s' = s.update request.id w := by
  have hassert : (pyAssert request (request.command = "launch" ∨
      request.command = "attach")).Ends s fun r s' => r = .ok ⟨⟩ ∧ s' = s ∨
        ∃ e w, r = .error e ∧ s' = s.update request.id w := by
    rw [pyAssert, Ptvsd.pyAssert]
    split_ifs
    · exact Or.inl ⟨rfl, State.update_view s request.id⟩
    · exact Or.inr ⟨_, _, rfl, rfl⟩
  have hcheck : (checkState request).Ends s fun r s' =>
      (s.initializeRequest.isSome = true ∧ ¬ s.Started) ∨
        ∃ e w, r = .error e ∧ s' = s.update request.id w := by
    refine hassert.bind ?_ ?_
    · rintro _ s' (⟨-, rfl⟩ | ⟨e, w, hr, -⟩)
      · refine Ends.bind_ok exec_get ?_
        cases hinit : s'.initializeRequest with
        | none => exact (on_error_ends s').mono fun r s₁ hs₁ => Or.inr hs₁
        | some initRequest =>
            simp only []
            split_ifs with hstarted
            · exact (on_error_ends s').mono fun r s₁ hs₁ => Or.inr hs₁
            · exact ends_pure (Or.inl ⟨rfl, by simpa [State.Started] using hstarted⟩)
      · cases hr
    · rintro e s' (⟨hr, -⟩ | ⟨e', w, -, hs'⟩)
      · cases hr
      · exact Or.inr ⟨e, w, rfl, hs'⟩
  by_cases hchecked : s.initializeRequest.isSome = true ∧ ¬ s.Started
  · exact Or.inl hchecked
  · refine hcheck.bind ?_ ?_
    · rintro initRequest s₁ (hok | ⟨e, w, hr, -⟩)
      · exact absurd hok hchecked
      · cases hr
    · rintro e s₁ (hok | ⟨e', w, -, hs₁⟩)
      · exact absurd hok hchecked
      · exact Or.inr ⟨e, w, rfl, hs₁⟩

/-! ### The two handlers -/

theorem raiseIsntValid_raises {α : Type} (reason : String) (s : State) :
    (raiseIsntValid request reason : Handler α).Ends s fun r _ => ∃ e, r = .error e :=
  ends_bind_of_forall (fun e _ => ends_throw ⟨e, rfl⟩) fun e _ => ⟨e, rfl⟩

theorem raiseCantHandle_raises {α : Type} (reason : String) (s : State) :
    (raiseCantHandle request reason : Handler α).Ends s fun r _ => ∃ e, r = .error e :=
  ends_bind_of_forall (fun e _ => ends_throw ⟨e, rfl⟩) fun e _ => ⟨e, rfl⟩

/-- The launcher has connected when `spawn_launcher` returns. -/
theorem spawnLauncher_starts (cmdline : List String) (console title : String) (s : State) :
    (spawnLauncher request outcomes cmdline console title).Ends s fun r s' =>
      r = .ok ⟨⟩ → s'.launcher = true := by
  have hconnect : ∀ s, (do
      attemptCall request outcomes.accept
      pyAssert request (!(← get).launcher)
      modify fun s => { s with launcher := true } : Handler PUnit).Ends s fun r s' =>
        r = .ok ⟨⟩ → s'.launcher = true := by
    intro s
    refine ends_bind_of_forall (fun _ s₁ => Ends.bind_ok exec_get ?_) fun _ _ => by simp
    exact ends_bind_of_forall (fun _ s₂ => ends_modify fun _ => rfl) fun _ _ => by simp
  refine ends_bind_of_forall (fun _ s₁ => ?_) fun _ _ => by simp
  split_ifs
  · exact ends_bind_of_forall (fun _ s₂ => hconnect s₂) fun _ _ => by simp
  · exact ends_bind_of_forall (fun _ s₂ => ends_bind_of_forall (fun _ s₃ => hconnect s₃)
      fun _ _ => by simp) fun _ _ => by simp

/-- A launcher is there when `launch_request` goes on. -/
theorem launch_starts (debugOptions : List String) (s : State) :
    (launch setup request outcomes debugOptions).Ends s fun r s' =>
      r = .ok ⟨⟩ → s.noDebug = true → s'.Started := by
  have hspawn : ∀ useSudo args console title s,
      (spawnDebuggee setup request outcomes useSudo args console title).Ends s fun r s' =>
        r = .ok ⟨⟩ → s'.Started := by
    intro useSudo args console title s
    refine Ends.bind_ok exec_get ?_
    refine (spawnLauncher_starts outcomes _ console title s).bind ?_ fun e s' _ => by simp
    intro _ s₁ hs₁
    refine @Within.ends _ _ _ _ _ (State.Keeps request) _ ?_
      fun r s' hs' _ => Or.inl (hs'.launcher (hs₁ rfl))
    refine (keeps_propagating (keeps_channelRequest _ _ _ _)).bind fun _ => ?_
    split_ifs
    · exact within_pure
    · exact keeps_raiseCantHandle _
    · refine (keeps_waitForConnection _ _ _).bind fun conn => ?_
      split
      · exact keeps_raiseCantHandle _
      · exact keeps_attachToSession setup _
  refine Ends.bind_ok exec_get ?_
  split_ifs
  · refine (raiseCantHandle_raises _ s).mono ?_
    rintro r s' ⟨e, rfl⟩ hr
    cases hr
  · refine ends_bind_of_forall (fun useSudo s₁ => ?_) fun _ _ => by simp
    refine ends_bind_of_forall (fun args s₂ => ?_) fun _ _ => by simp
    refine ends_bind_of_forall (fun console s₃ => ?_) fun _ _ => by simp
    refine ends_bind_of_forall (fun title s₄ => ?_) fun _ _ => by simp
    exact (hspawn _ _ _ _ s₄).mono fun r s' hs' hr _ => hs' hr

/-- `attach_request` does not go on with "noDebug". -/
theorem attach_starts (s : State) : (attach setup request outcomes).Ends s fun r s' =>
    r = .ok ⟨⟩ → s.noDebug = true → s'.Started := by
  unfold attach
  refine Ends.bind_ok exec_get ?_
  by_cases hnoDebug : s.noDebug = true
  · rw [if_pos hnoDebug]
    refine (raiseIsntValid_raises _ s).mono ?_
    rintro r s' ⟨e, rfl⟩ hr
    cases hr
  · rw [if_neg hnoDebug]
    exact fun _ h => absurd h hnoDebug

end

end IDE

end Ptvsd
