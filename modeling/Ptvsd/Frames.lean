import Ptvsd.Dispatch

/-!
# What a Handler Leaves Alone

While a request of the IDE is handled, only that request is responded to; the responses that
were sent stay as they are, and so do, until the very end of a start request, the fields that
`initialize_request` and `configurationDone_request` look at. Both levels of a handler have
such a frame: `World.Keeps` for what is done to the request, and `State.Keeps` for the session.

## Main results

* `keeps_settle`: the wrapper and the message loop respond to the request that is handled, at
  most once, and do nothing else.
-/

namespace Ptvsd

/-! ### One request -/

/-- **A request has one response, once it is set**, and none before. -/
def World.Once (w : World) (request : IncomingRequest) : Prop :=
  (w.responses request).length = if w.response.isSome then 1 else 0

/-- What is done to a request leaves the other ones alone, and keeps its response. -/
structure World.Keeps (request : IncomingRequest) (w w' : World) : Prop where
  objects : w.objects <+: w'.objects
  written : ∃ l, w'.written = w.written ++ l ∧
    ∀ p ∈ l, p.2.request = request.id ∧ p.2.command = request.command
  once : w.Once request → w'.Once request
  answered : w.response.isSome → w'.response = w.response ∧ w'.written = w.written
  closed : w'.closed = w.closed
  exited : w'.exited = w.exited

namespace World.Keeps

variable {request : IncomingRequest} {w w' w'' : World}

/-- Nothing happens. -/
theorem refl (request : IncomingRequest) (w : World) : w.Keeps request w where
  objects := List.prefix_rfl
  written := ⟨[], by simp, by simp⟩
  once := id
  answered _ := ⟨rfl, rfl⟩
  closed := rfl
  exited := rfl

/-- One thing happens after the other. -/
theorem trans (h : w.Keeps request w') (h' : w'.Keeps request w'') : w.Keeps request w'' where
  objects := h.objects.trans h'.objects
  written := by
    obtain ⟨l, hl, hmem⟩ := h.written
    obtain ⟨l', hl', hmem'⟩ := h'.written
    refine ⟨l ++ l', by rw [hl', hl, List.append_assoc], fun p hp => ?_⟩
    rcases List.mem_append.mp hp with hp | hp
    · exact hmem p hp
    · exact hmem' p hp
  once hw := h'.once (h.once hw)
  answered hw := by
    obtain ⟨hresponse, hwritten⟩ := h.answered hw
    obtain ⟨hresponse', hwritten'⟩ := h'.answered (by rw [hresponse]; exact hw)
    exact ⟨hresponse'.trans hresponse, hwritten'.trans hwritten⟩
  closed := h'.closed.trans h.closed
  exited := h'.exited.trans h.exited

instance : IsPreorder World (World.Keeps request) where
  refl := refl request
  trans _ _ _ := trans

end World.Keeps

section Python

open Program

variable {request : IncomingRequest}

/-- A new object changes none of the others. -/
theorem keeps_new (obj : PyObject) : Within (World.Keeps request) (new obj) := by
  intro w
  exact ⟨List.prefix_append _ _, ⟨[], by simp [exec_new, World.alloc]⟩, id, fun _ => ⟨rfl, rfl⟩,
    rfl, rfl⟩

/-- An exception is a new object. -/
theorem keeps_raise {α : Type} (exc : PyException) :
    Within (World.Keeps request) (Ptvsd.raise exc : Python α) :=
  (keeps_new _).bind fun _ => within_throw

/-- An assertion raises, or does nothing. -/
theorem keeps_pyAssert (condition : Bool) (text : String) :
    Within (World.Keeps request) (Ptvsd.pyAssert condition text) := by
  rw [Ptvsd.pyAssert]
  split
  · exact within_pure
  · exact keeps_raise _

/-- A response is written if none was, and then it is the response of the request. -/
theorem keeps_respond (body : Value) :
    Within (World.Keeps request) (respond request body) := by
  intro w
  cases hresponse : w.response with
  | some p =>
      have hexec : (respond request body).exec w =
          (.error w.objects.length, w.alloc (.exception (.assertionError ""))) := by
        rw [respond, exec_bind_ok exec_get, hresponse]
        rfl
      exact Ends.of_exec hexec (keeps_raise (α := PUnit) _ w)
  | none =>
      cases hclosed : w.closed with
      | true =>
          have hexec : (respond request body).exec w = (.error w.objects.length,
              { w with seqIter := w.seqIter + 1 }.alloc
                (.exception (.noMoreMessages "No more messages" request.streamName))) := by
            rw [respond, exec_bind_ok exec_get, hresponse]
            simp only [Ptvsd.pyAssert, sendResponse, exec_bind, exec_get, exec_set, hclosed,
              Option.isNone_none, if_true, exec_pure, exec_raise, hresponse]
          refine Ends.of_exec hexec ⟨List.prefix_append _ _, ⟨[], by simp [World.alloc]⟩, id,
            fun _ => ⟨rfl, rfl⟩, rfl, rfl⟩
      | false =>
          refine Ends.of_exec (exec_respond ⟨hclosed, hresponse⟩) ⟨List.prefix_rfl,
            ⟨_, rfl, by simp [responseJson]⟩, fun h => ?_, by simp [hresponse], rfl, rfl⟩
          have hnone : w.responses request = [] := by
            rw [World.Once, hresponse] at h
            exact List.length_eq_zero_iff.mp h
          have hmem : w.written.filter (fun p => p.2.request = request.id) = [] := hnone
          simp [World.Once, World.responses, World.answered, hmem, responseJson]

/-- `error` makes an exception and responds with it. -/
theorem keeps_error (type : ErrorType) (reason : String) :
    Within (World.Keeps request) (error request type reason) :=
  (keeps_new _).bind fun _ => (keeps_respond _).bind fun _ => within_pure

/-- The wrapper of a handler makes another exception at most. -/
theorem keeps_messageHandler {f : Python Value} (hf : Within (World.Keeps request) f) :
    Within (World.Keeps request) (messageHandler request f) := by
  refine hf.tryCatch fun id => within_get.bind fun w => ?_
  split
  · exact (keeps_error _ _).bind fun _ => within_throw
  · exact keeps_raise _
  · exact (keeps_error _ _).bind fun _ => within_throw
  · exact (keeps_error _ _).bind fun _ => within_throw
  · exact within_throw

/-- `_handle` responds with what the handler has returned. -/
theorem keeps_handleResult (result : Value) :
    Within (World.Keeps request) (handleResult request result) := by
  refine within_get.bind fun w => ?_
  split
  · exact keeps_pyAssert _ _
  · exact keeps_pyAssert _ _
  · refine (keeps_pyAssert _ _).bind fun _ => (keeps_respond _).tryCatch fun id =>
      within_get.bind fun w => ?_
    split
    · exact within_pure
    · exact within_throw

/-- To handle a request changes what its handler changes, and responds to it. -/
theorem keeps_handle {f : Python Value} (hf : Within (World.Keeps request) f) :
    Within (World.Keeps request) (handle request f) := by
  refine Within.bind (hf.tryCatch fun id => within_get.bind fun w => ?_) fun result =>
    keeps_handleResult result
  split
  · split
    · exact within_pure
    · exact within_throw
  · exact within_throw

/-- The process ends: the channel is closed, and nothing else changes. -/
def World.exit (w : World) : World := { w with closed := true, exited := true }

/-- **The wrapper and the message loop** respond at most once, to the request at hand, and
then may end the process. -/
theorem IDE.keeps_settle (outcome : Except ObjectId Value) (w : World) :
    ∃ w', w.Keeps request w' ∧
      (IDE.settle request outcome w = w' ∨ IDE.settle request outcome w = w'.exit) := by
  have hkeeps : (handle request (messageHandler request (ofOutcome outcome))).Ends w
      fun _ w' => w.Keeps request w' :=
    keeps_handle (keeps_messageHandler within_ofOutcome) w
  rw [IDE.settle, runHandler]
  rw [Ends] at hkeeps
  rcases hexec : (handle request (messageHandler request (ofOutcome outcome))).exec w with
    ⟨r, w'⟩
  rw [hexec] at hkeeps
  cases r with
  | ok a => exact ⟨w', hkeeps, Or.inl rfl⟩
  | error e => exact ⟨w', hkeeps, Or.inr rfl⟩

end Python

/-! ### The session -/

namespace IDE

/-- **What a handler does to the session** while it serves a request. -/
structure State.Serves (request : Request) (s s' : State) : Prop where
  view : (s.view request.id).Keeps request.toIncomingRequest (s'.view request.id)
  others : ∀ id, id ≠ request.id → s'.responses id = s.responses id
  received : s'.received = s.received
  launcher : s.launcher = true → s'.launcher = true
  server : s.server.isSome = true → s'.server = s.server
  pid : s'.server = none → s'.pid = s.pid
  /-- Nothing is sent to a launcher or a debug server that is not there. -/
  sent : ∃ l, s'.sent = s.sent ++ l ∧
    ∀ m ∈ l, m.origin = request ∧ (m.receiver ≠ .ide → s'.Started)

/-- What a part of a start request leaves alone, before the very end. -/
structure State.Keeps (request : Request) (s s' : State) : Prop
    extends State.Serves request s s' where
  initializeRequest : s'.initializeRequest = s.initializeRequest
  startRequest : s'.startRequest = s.startRequest
  hasStarted : s'.hasStarted = s.hasStarted
  deferredEvents : s'.deferredEvents = s.deferredEvents
  knownSubprocesses : s'.knownSubprocesses = s.knownSubprocesses
  noDebug : s'.noDebug = s.noDebug

namespace State

variable {request : Request} {s s' s'' : State}

/-- A session that has started stays so. -/
theorem Serves.started (h : s.Serves request s') (hs : s.Started) : s'.Started := by
  rcases hs with hlauncher | hserver
  · exact Or.inl (h.launcher hlauncher)
  · exact Or.inr (by rw [h.server hserver]; exact hserver)

/-- A server does not go away. -/
theorem Serves.server_none (h : s.Serves request s') (hs : s'.server = none) :
    s.server = none := by
  by_contra hne
  have hsome : s.server.isSome = true := Option.isSome_iff_ne_none.mpr hne
  rw [h.server hsome] at hs
  exact hne hs

/-- Nothing happens. -/
theorem Serves.refl (request : Request) (s : State) : s.Serves request s where
  view := .refl _ _
  others _ _ := rfl
  received := rfl
  launcher := id
  server _ := rfl
  pid _ := rfl
  sent := ⟨[], by simp, by simp⟩

/-- One thing happens after the other. -/
theorem Serves.trans (h : s.Serves request s') (h' : s'.Serves request s'') :
    s.Serves request s'' where
  view := h.view.trans h'.view
  others id hid := (h'.others id hid).trans (h.others id hid)
  received := h'.received.trans h.received
  launcher hs := h'.launcher (h.launcher hs)
  server hs := (h'.server (by rw [h.server hs]; exact hs)).trans (h.server hs)
  pid hs := (h'.pid hs).trans (h.pid (h'.server_none hs))
  sent := by
    obtain ⟨l, hl, hmem⟩ := h.sent
    obtain ⟨l', hl', hmem'⟩ := h'.sent
    refine ⟨l ++ l', by rw [hl', hl, List.append_assoc], fun m hm => ?_⟩
    rcases List.mem_append.mp hm with hm | hm
    · exact ⟨(hmem m hm).1, fun hide => h'.started ((hmem m hm).2 hide)⟩
    · exact hmem' m hm

/-- Nothing happens. -/
theorem Keeps.refl (request : Request) (s : State) : s.Keeps request s :=
  ⟨.refl _ _, rfl, rfl, rfl, rfl, rfl, rfl⟩

/-- One thing happens after the other. -/
theorem Keeps.trans (h : s.Keeps request s') (h' : s'.Keeps request s'') :
    s.Keeps request s'' where
  toServes := h.toServes.trans h'.toServes
  initializeRequest := h'.initializeRequest.trans h.initializeRequest
  startRequest := h'.startRequest.trans h.startRequest
  hasStarted := h'.hasStarted.trans h.hasStarted
  deferredEvents := h'.deferredEvents.trans h.deferredEvents
  knownSubprocesses := h'.knownSubprocesses.trans h.knownSubprocesses
  noDebug := h'.noDebug.trans h.noDebug

/-- "noDebug" is set before the rest of a start request. -/
theorem Keeps.setNoDebug (h : s.Keeps request s') (b : Bool) :
    State.Keeps request { s with noDebug := b } { s' with noDebug := b } :=
  ⟨⟨h.view, h.others, h.received, h.launcher, h.server, h.pid, h.sent⟩, h.initializeRequest,
    h.startRequest, h.hasStarted, h.deferredEvents, h.knownSubprocesses, rfl⟩

instance : IsPreorder State (State.Serves request) where
  refl := .refl request
  trans _ _ _ := .trans

instance : IsPreorder State (State.Keeps request) where
  refl := .refl request
  trans _ _ _ := .trans

/-- What was written is read. -/
@[simp] theorem view_update (s : State) (id : MessageId) (w : World) :
    (s.update id w).view id = w := by
  simp [view, update]

/-- What was read is written. -/
@[simp] theorem update_view (s : State) (id : MessageId) : s.update id (s.view id) = s := by
  cases s
  simp only [update, view, State.mk.injEq, true_and, and_true]
  funext id'
  split_ifs with hid
  · rw [hid]
  · rfl

/-- The other requests have the responses that they had. -/
theorem responses_update (s : State) {id id' : MessageId} (w : World) (h : id' ≠ id) :
    (s.update id w).responses id' = s.responses id' := if_neg h

/-- What is done to the request that is handled. -/
theorem keeps_update {w : World}
    (h : (s.view request.id).Keeps request.toIncomingRequest w) :
    s.Keeps request (s.update request.id w) where
  view := by rw [view_update]; exact h
  others _ hid := s.responses_update w hid
  received := rfl
  launcher := id
  server _ := rfl
  pid _ := rfl
  sent := ⟨[], by simp [update], by simp⟩
  initializeRequest := rfl
  startRequest := rfl
  hasStarted := rfl
  deferredEvents := rfl
  knownSubprocesses := rfl
  noDebug := rfl

/-- The state without the fields that no frame mentions. -/
def core (s : State) : State :=
  { s with
    seqIter := 0, events := [], clientId := none, capabilities := [], expectations := [],
    debugOptions := [], connections := [] }

/-- Setting one of these fields. -/
theorem keeps_of_core (h : s'.core = s.core) : s.Keeps request s' := by
  obtain ⟨⟩ := s
  obtain ⟨⟩ := s'
  simp only [core, State.mk.injEq, true_and] at h
  obtain ⟨rfl, rfl, rfl, rfl, rfl, rfl, rfl, rfl, rfl, rfl, rfl, rfl, rfl, rfl, rfl, rfl⟩ := h
  exact ⟨⟨⟨List.prefix_rfl, ⟨[], by simp [view], by simp⟩, id, fun _ => ⟨rfl, rfl⟩, rfl, rfl⟩,
    fun _ _ => rfl, rfl, id, fun _ => rfl, fun _ => rfl, ⟨[], by simp, by simp⟩⟩,
    rfl, rfl, rfl, rfl, rfl, rfl⟩

end State

/-! ### Pieces of handlers -/

section Pieces

open Program

variable {request : Request} {α : Type}

/-- What is done to the request is done within the session. -/
theorem keeps_on {x : Python α} (hx : Within (World.Keeps request.toIncomingRequest) x) :
    Within (State.Keeps request) (on request.id x) :=
  fun s => State.keeps_update (hx (s.view request.id))

/-- Fields that no frame mentions may be set. -/
theorem keeps_modify {g : State → State} (hg : ∀ s, (g s).core = s.core) :
    Within (State.Keeps request) (modify g : Handler PUnit) :=
  within_modify fun s => State.keeps_of_core (hg s)

/-- An exception is a new object. -/
theorem keeps_ideRaise (exc : PyException) :
    Within (State.Keeps request) (raise request exc : Handler α) :=
  keeps_on (keeps_raise exc)

/-- An assertion raises, or does nothing. -/
theorem keeps_idePyAssert (condition : Bool) :
    Within (State.Keeps request) (pyAssert request condition) :=
  keeps_on (keeps_pyAssert condition "")

/-- `isnt_valid()` responds to the request that is handled. -/
theorem keeps_raiseIsntValid (reason : String) :
    Within (State.Keeps request) (raiseIsntValid request reason : Handler α) :=
  (keeps_on (keeps_error _ _)).bind fun _ => within_throw

/-- So does `cant_handle()`. -/
theorem keeps_raiseCantHandle (reason : String) :
    Within (State.Keeps request) (raiseCantHandle request reason : Handler α) :=
  (keeps_on (keeps_error _ _)).bind fun _ => within_throw

/-- To look up a property changes nothing, unless `isnt_valid()` responds. -/
theorem keeps_parse (x : Except PyError α) : Within (State.Keeps request) (parse request x) := by
  unfold parse
  split
  · exact within_pure
  · exact keeps_raiseIsntValid _
  · exact keeps_ideRaise _

/-- An error that is propagated is raised again as another one. -/
theorem keeps_propagating {x : Handler α} (hx : Within (State.Keeps request) x) :
    Within (State.Keeps request) (propagating request x) := by
  refine hx.tryCatch fun id => within_get.bind fun s => ?_
  split
  · exact keeps_ideRaise _
  · exact within_throw

/-- The response of another component is returned or raised. -/
theorem keeps_answer (answer : Answer) :
    Within (State.Keeps request) (match answer with
      | .success body => return body
      | .failure type reason cause => raise request (.handlingError type reason cause)
      | .disconnect text streamName => raise request (.noMoreMessages text streamName)
      | .ioError text streamName => raise request (.jsonIOError text streamName) :
        Handler Json) := by
  cases answer with
  | success body => exact within_pure
  | failure | disconnect | ioError => exact keeps_ideRaise _

/-- A request is sent only to a component that is there. -/
theorem keeps_channelRequest (receiver : Receiver) (command : String) (arguments : Json)
    (answer : Answer) :
    Within (State.Keeps request) (channelRequest request receiver command arguments answer) := by
  refine within_get_bind fun s => ?_
  split_ifs with hserver hlauncher
  · exact keeps_ideRaise _ s
  · exact keeps_ideRaise _ s
  · have hsent : s.Keeps request
        { s with sent := s.sent ++ [⟨request, receiver, command, arguments⟩] } := by
      refine ⟨⟨.refl _ _, fun _ _ => rfl, rfl, id, fun _ => rfl, fun _ => rfl,
        ⟨_, rfl, fun m hm => ?_⟩⟩, rfl, rfl, rfl, rfl, rfl, rfl⟩
      obtain rfl := List.mem_singleton.mp hm
      refine ⟨rfl, fun hide => ?_⟩
      cases receiver with
      | launcher => exact Or.inl (by simpa using hlauncher)
      | server => exact Or.inr (Option.isSome_iff_ne_none.mpr (by simpa using hserver))
      | ide => exact absurd rfl hide
    refine Ends.bind (R := fun r s' => r = .ok ⟨⟩ ∧ s.Keeps request s') ⟨rfl, hsent⟩ ?_ ?_
    · rintro _ s' ⟨-, hs'⟩
      exact (keeps_answer answer s').mono fun _ s'' hs'' => hs'.trans hs''
    · rintro e s' ⟨hr, -⟩
      cases hr

/-- To delegate a request changes nothing but what is sent. -/
theorem keeps_delegate (receiver : Receiver) (answer : Answer) :
    Within (State.Keeps request) (delegate request receiver answer) :=
  keeps_propagating (keeps_channelRequest _ _ _ _)

/-- A call may raise. -/
theorem keeps_attemptCall (exc : Option String) :
    Within (State.Keeps request) (attemptCall request exc) := by
  unfold attemptCall
  split
  · exact keeps_ideRaise _
  · exact within_pure

/-- To wait changes no field that a frame mentions. -/
theorem keeps_waitForConnection (outcomes : Outcomes) (pred : Connection → Bool)
    (timeout : Option ℕ) :
    Within (State.Keeps request) (waitForConnection outcomes pred timeout) :=
  within_get.bind fun _ => (keeps_modify fun _ => by rfl).bind fun _ => within_pure

/-- An event for the IDE is no response. -/
theorem keeps_sendEvent (event : Event) :
    Within (State.Keeps request) (sendEvent request event) := by
  refine within_get.bind fun s => (keeps_modify fun _ => by rfl).bind fun _ => ?_
  split
  · exact keeps_ideRaise _
  · exact keeps_modify fun _ => by rfl

/-- Neither are several of them. -/
theorem keeps_sendEvents (events : List Event) :
    Within (State.Keeps request) (sendEvents request events) := by
  induction events with
  | nil => exact within_pure
  | cons event events ih => exact (keeps_sendEvent event).bind fun _ => ih

/-! ### The parts of a start request -/

variable (setup : Setup) (outcomes : Outcomes)

/-- The check in front of a start request raises, or does nothing. -/
theorem keeps_checkState : Within (State.Keeps request) (checkState request) := by
  refine (keeps_idePyAssert _).bind fun _ => within_get.bind fun s => ?_
  split
  · exact keeps_raiseIsntValid _
  · split
    · exact keeps_raiseIsntValid _
    · exact within_pure

/-- The common options only set `no_debug`. -/
theorem keeps_readOptions (s : State) : (readOptions request).Ends s fun _ s' =>
    ∃ b, State.Keeps request { s with noDebug := b } s' := by
  refine ((keeps_parse _) s).bind ?_ fun e s' hs' => ⟨s.noDebug, hs'⟩
  intro noDebug s₁ hs₁
  refine Ends.bind (R := fun _ s' => State.Keeps request { s with noDebug := noDebug.toBool } s')
    (ends_modify (hs₁.setNoDebug _)) ?_ fun e s' hs' => ⟨_, hs'⟩
  intro _ s₂ hs₂
  have hrest : Within (State.Keeps request) (do
      let debugOptions ← parse request (request.call "debugOptions" .texts)
      modify fun s => { s with debugOptions := debugOptions.toTexts.dedup }
      return debugOptions.toTexts.dedup : Handler (List String)) :=
    (keeps_parse _).bind fun _ => (keeps_modify fun _ => by rfl).bind fun _ => within_pure
  exact (hrest s₂).mono fun _ s₃ hs₃ => ⟨_, hs₂.trans hs₃⟩

/-- A session has one debug server: `Server.__init__` makes sure of it. -/
theorem keeps_attachToSession (conn : Connection) :
    Within (State.Keeps request) (attachToSession setup request conn) := by
  unfold attachToSession
  split_ifs with howned
  · exact keeps_ideRaise _
  · refine within_get_bind fun s => ?_
    have hfirst : ∀ condition : Bool, (pyAssert request condition).Ends s fun r s' =>
        s.Keeps request s' ∧ (r = .ok ⟨⟩ → condition = true ∧ s' = s) := by
      intro condition
      refine ⟨keeps_idePyAssert condition s, ?_⟩
      cases condition with
      | true => exact fun _ => ⟨rfl, State.update_view s request.id⟩
      | false => exact fun h => by cases h
    refine (hfirst _).bind ?_ fun e s' hs' => hs'.1
    rintro _ s₁ ⟨-, hs₁⟩
    obtain ⟨hserver, rfl⟩ := hs₁ rfl
    refine (hfirst _).bind ?_ fun e s' hs' => hs'.1
    rintro _ s₂ ⟨-, hs₂⟩
    obtain ⟨hpid, rfl⟩ := hs₂ rfl
    have hnone : s₂.server = none := Option.isNone_iff_eq_none.mp hserver
    exact ⟨⟨.refl _ _, fun _ _ => rfl, rfl, id, fun h => by simp [hnone] at h,
      fun h => by simp at h, ⟨[], by simp, by simp⟩⟩, rfl, rfl, rfl, rfl, rfl, rfl⟩

/-- To authenticate changes nothing but what is sent. -/
theorem keeps_authenticate (cause : MessageId) :
    Within (State.Keeps request) (authenticate setup request outcomes cause) := by
  unfold authenticate
  split_ifs
  · refine (keeps_channelRequest _ _ _ _).bind fun auth => ?_
    split
    · split
      · exact keeps_ideRaise _
      · split_ifs
        · exact within_pure
        · exact keeps_ideRaise _
    · exact keeps_ideRaise _
  · exact within_pure

/-- Neither does it to initialize the server. -/
theorem keeps_serverInitialize (initRequest : Request) (cause : MessageId) :
    Within (State.Keeps request)
      (serverInitialize setup request outcomes initRequest cause) := by
  refine (keeps_idePyAssert _).bind fun _ => (keeps_authenticate setup outcomes cause).bind
    fun _ => (keeps_channelRequest _ _ _ _).bind fun body => ?_
  split
  · split
    · exact within_pure
    · exact keeps_ideRaise _
  · exact keeps_ideRaise _

/-! ### `launch_request` -/

/-- To read whether to use `sudo` changes nothing. -/
theorem keeps_readSudo (debugOptions : List String) :
    Within (State.Keeps request) (readSudo setup request debugOptions) := by
  refine (keeps_parse _).bind fun useSudo => ?_
  split_ifs
  · exact keeps_raiseCantHandle _
  · exact within_pure
  · exact keeps_raiseIsntValid _
  · exact within_pure

/-- Neither does it to read the target and its arguments. -/
theorem keeps_readArgs : Within (State.Keeps request) (readArgs request) := by
  have htarget : Within (State.Keeps request) (readTarget request) := by
    unfold readTarget
    split_ifs
    · exact (keeps_parse _).bind fun _ => within_pure
    · exact (keeps_parse _).bind fun _ => within_pure
    · exact (keeps_parse _).bind fun _ => within_pure
    · exact within_pure
  exact htarget.bind fun target => (keeps_parse _).bind fun args => within_pure

/-- The session has a launcher once that has connected. -/
theorem keeps_spawnLauncher (cmdline : List String) (console title : String) :
    Within (State.Keeps request) (spawnLauncher request outcomes cmdline console title) := by
  have hconnect : Within (State.Keeps request) (do
      attemptCall request outcomes.accept
      pyAssert request (!(← get).launcher)
      modify fun s => { s with launcher := true } : Handler PUnit) := by
    refine (keeps_attemptCall _).bind fun _ => within_get.bind fun s =>
      (keeps_idePyAssert _).bind fun _ => within_modify fun s' => ?_
    exact ⟨⟨.refl _ _, fun _ _ => rfl, rfl, fun _ => rfl, fun _ => rfl, fun _ => rfl,
      ⟨[], by simp, by simp⟩⟩, rfl, rfl, rfl, rfl, rfl, rfl⟩
  refine (keeps_attemptCall _).bind fun _ => ?_
  split_ifs
  · exact (keeps_attemptCall _).bind fun _ => hconnect
  · have hrequire : Within (State.Keeps request) (requireRunInTerminal request) := by
      refine within_get.bind fun s => ?_
      split_ifs
      · exact within_pure
      · exact keeps_ideRaise _
    exact hrequire.bind fun _ => (keeps_channelRequest _ _ _ _).bind fun _ => hconnect

/-- The session gets a launcher, and maybe a server. -/
theorem keeps_spawnDebuggee (useSudo : Bool) (args : List String) (console title : String) :
    Within (State.Keeps request)
      (spawnDebuggee setup request outcomes useSudo args console title) := by
  refine within_get.bind fun s => (keeps_spawnLauncher outcomes _ _ _).bind fun _ =>
    (keeps_propagating (keeps_channelRequest _ _ _ _)).bind fun _ => ?_
  split_ifs
  · exact within_pure
  · exact keeps_raiseCantHandle _
  · refine (keeps_waitForConnection _ _ _).bind fun conn => ?_
    split
    · exact keeps_raiseCantHandle _
    · exact keeps_attachToSession setup _

/-- What `launch_request` does between the common parts of the start requests. -/
theorem keeps_launch (debugOptions : List String) :
    Within (State.Keeps request) (launch setup request outcomes debugOptions) := by
  refine within_get.bind fun s => ?_
  split_ifs
  · exact keeps_raiseCantHandle _
  · exact (keeps_readSudo setup _).bind fun useSudo => keeps_readArgs.bind fun args =>
      (keeps_parse _).bind fun console => (keeps_parse _).bind fun title =>
        keeps_spawnDebuggee setup outcomes _ _ _ _

/-! ### `attach_request` -/

/-- To inject the debug server changes nothing in the session. -/
theorem keeps_injectServer (target : Target) :
    Within (State.Keeps request) (injectServer request outcomes target) := by
  unfold injectServer
  split
  · exact keeps_ideRaise _
  · exact within_pure

/-- The session gets a server, or responds that the connection is taken. -/
theorem keeps_tryAttach (conn : Connection) :
    Within (State.Keeps request) (tryAttach setup request conn) := by
  refine (keeps_attachToSession setup conn).tryCatch fun id => within_get.bind fun s => ?_
  split
  · exact (keeps_on (keeps_error _ _)).bind fun _ => within_pure
  · exact within_throw

/-- What `attach_request` does between the common parts of the start requests. -/
theorem keeps_attach : Within (State.Keeps request) (attach setup request outcomes) := by
  refine within_get.bind fun s => ?_
  split_ifs
  · exact keeps_raiseIsntValid _
  · refine (keeps_parse _).bind fun target => (keeps_injectServer outcomes _).bind fun _ =>
      (keeps_waitForConnection _ _ _).bind fun conn => ?_
    split
    · exact keeps_raiseCantHandle _
    · exact keeps_tryAttach setup _

end Pieces

end IDE

end Ptvsd
