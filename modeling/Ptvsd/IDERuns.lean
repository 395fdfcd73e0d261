import Mathlib.Data.List.Nodup
import Ptvsd.Configuration

/-!
# Runs of the IDE Component

What holds in every state that an IDE component reaches, as long as the process runs: the
responses that were written are those of the requests received, one for each; the start
request is pending, or it was responded to; the events are deferred until then.

## Main results

* `live_of_reachable`: this holds in every reachable state of a running process.
-/

namespace Ptvsd

namespace IDE

open Program

variable {request start : Request} {s s' s'' : State}

/-! ### The invariant -/

/-- **The responses are those of the requests received**, one for each that has one. -/
structure State.Answers (s : State) : Prop where
  once : ∀ id, (s.responsesTo id).length = if (s.responses id).isSome then 1 else 0
  fresh : ∀ id, s.received ≤ id → s.responses id = none

/-- **The states of a running process.** -/
structure State.Live (s : State) : Prop where
  answers : s.Answers
  closed : s.closed = false
  start : ∀ start, s.startRequest = some start → start.id < s.received ∧ s.Started ∧
    (start.command = "launch" ∨ start.command = "attach")
  started : s.hasStarted = true →
    ∃ start, s.startRequest = some start ∧ (s.responses start.id).isSome = true
  pending : ∀ start, s.startRequest = some start → s.hasStarted = false →
    s.responses start.id = none ∧ s.server.isSome = true
  deferred : s.hasStarted = false → s.deferredEvents.isSome = true
  pid : s.server = none → s.pid = none

/-- A request was just received. -/
structure State.Receiving (request : Request) (s : State) : Prop extends State.Live s where
  response : s.responses request.id = none
  start_ne : ∀ start, s.startRequest = some start → start.id ≠ request.id
  id_lt : request.id < s.received

/-- The next request is received in a state that is alive. -/
theorem State.Live.receiving (h : s.Live) (hid : request.id = s.received) :
    State.Receiving request { s with received := s.received + 1 } where
  answers := ⟨h.answers.once, fun id hle => h.answers.fresh id (Nat.le_of_succ_le hle)⟩
  closed := h.closed
  start start hstart := by
    obtain ⟨hlt, hrest⟩ := h.start start hstart
    exact ⟨Nat.lt_succ_of_lt hlt, hrest⟩
  started := h.started
  pending := h.pending
  deferred := h.deferred
  pid := h.pid
  response := h.answers.fresh _ hid.ge
  start_ne start hstart := by
    rw [hid]
    exact (h.start start hstart).1.ne
  id_lt := by
    rw [hid]
    exact Nat.lt_succ_self _

/-! ### Steps -/

/-- The responses to a request, after more was written. -/
theorem State.responsesTo_of_written {l : List (ℕ × SentResponse)}
    (hl : s'.written = s.written ++ l) (id : MessageId) :
    s'.responsesTo id = s.responsesTo id ++ l.filter fun p => p.2.request = id := by
  rw [responsesTo, hl, List.filter_append]
  rfl

/-- A request that has no response is not responded to. -/
theorem responsesTo_nil (h : s.Answers) {id : MessageId} (hnone : s.responses id = none) :
    s.responsesTo id = [] := by
  have honce := h.once id
  rw [hnone] at honce
  exact List.length_eq_zero_iff.mp honce

/-- Serving one request keeps the others as they are. -/
theorem State.Answers.serves (h : s.Answers) (hs : s.Serves request s')
    (hid : request.id < s.received) : s'.Answers where
  once id := by
    by_cases heq : id = request.id
    · subst heq
      exact hs.view.once (h.once request.id)
    · obtain ⟨l, hl, hmem⟩ := hs.view.written
      have hnone : (l.filter fun p => p.2.request = id) = [] := by
        refine List.filter_eq_nil_iff.mpr fun p hp => ?_
        simp only [decide_eq_true_eq]
        exact fun hreq => heq (hreq.symm.trans (hmem p hp).1)
      rw [responsesTo_of_written hl, hnone, List.append_nil, hs.others id heq]
      exact h.once id
  fresh id hle := by
    rw [hs.received] at hle
    have hne : id ≠ request.id := (hid.trans_le hle).ne'
    rw [hs.others id hne]
    exact h.fresh id hle

/-- The fields of the start request stay as well. -/
theorem State.Receiving.live (h : State.Receiving request s) (hs : s.Serves request s')
    (hstart : s'.startRequest = s.startRequest) (hstarted : s'.hasStarted = s.hasStarted)
    (hdeferred : s'.deferredEvents = s.deferredEvents) : s'.Live where
  answers := h.answers.serves hs h.id_lt
  closed := hs.view.closed.trans h.closed
  start start hsome := by
    rw [hstart] at hsome
    obtain ⟨hlt, hstart', hcommand⟩ := h.start start hsome
    exact ⟨hs.received ▸ hlt, hs.started hstart', hcommand⟩
  started hs' := by
    obtain ⟨start, hsome, hresponse⟩ := h.started (hstarted ▸ hs')
    refine ⟨start, hstart.trans hsome, ?_⟩
    rw [hs.others _ (h.start_ne start hsome)]
    exact hresponse
  pending start hsome hs' := by
    rw [hstart] at hsome
    obtain ⟨hresponse, hserver⟩ := h.pending start hsome (hstarted ▸ hs')
    rw [hs.others _ (h.start_ne start hsome), hs.server hserver]
    exact ⟨hresponse, hserver⟩
  deferred hs' := by
    rw [hdeferred]
    exact h.deferred (hstarted ▸ hs')
  pid hnone := (hs.pid hnone).trans (h.pid (hs.server_none hnone))

/-- A start request that is left pending. -/
theorem State.Receiving.live_pending (h : State.Receiving request s)
    (hs : s.Serves request s') (hunstarted : ¬ s.Started)
    (hcommand : request.command = "launch" ∨ request.command = "attach")
    (hresponse : s'.responses request.id = none) (hstart : s'.startRequest = some request)
    (hstarted : s'.hasStarted = s.hasStarted) (hdeferred : s'.deferredEvents = s.deferredEvents)
    (hserver : s'.server.isSome = true) : s'.Live where
  answers := h.answers.serves hs h.id_lt
  closed := hs.view.closed.trans h.closed
  start start hsome := by
    obtain rfl : request = start := Option.some.inj (hstart.symm.trans hsome)
    exact ⟨hs.received ▸ h.id_lt, Or.inr hserver, hcommand⟩
  started hs' := by
    obtain ⟨start, hsome, -⟩ := h.started (hstarted ▸ hs')
    exact absurd (h.start start hsome).2.1 hunstarted
  pending start hsome _ := by
    obtain rfl : request = start := Option.some.inj (hstart.symm.trans hsome)
    exact ⟨hresponse, hserver⟩
  deferred hs' := by
    rw [hdeferred]
    exact h.deferred (hstarted ▸ hs')
  pid hnone := (hs.pid hnone).trans (h.pid (hs.server_none hnone))

/-- A start request that was responded to. -/
theorem State.Receiving.live_finished (h : State.Receiving request s)
    (hs : s.Serves request s') (hcommand : request.command = "launch" ∨
      request.command = "attach") (hresponse : (s'.responses request.id).isSome = true)
    (hstart : s'.startRequest = some request) (hstarted : s'.hasStarted = true)
    (hs' : s'.Started) : s'.Live where
  answers := h.answers.serves hs h.id_lt
  closed := hs.view.closed.trans h.closed
  start start hsome := by
    obtain rfl : request = start := Option.some.inj (hstart.symm.trans hsome)
    exact ⟨hs.received ▸ h.id_lt, hs', hcommand⟩
  started _ := ⟨request, hstart, hresponse⟩
  pending start hsome hs' := by simp [hstarted] at hs'
  deferred hs' := by simp [hstarted] at hs'
  pid hnone := (hs.pid hnone).trans (h.pid (hs.server_none hnone))

/-! ### Handlers -/

/-- The process ends: the channel is closed, and nothing else changes. -/
def State.exit (s : State) : State := { s with closed := true, exited := true }

/-- **What the message loop does with the outcome of a handler.** -/
theorem dispatch_cases {f : Handler Value} {Q : Except ObjectId Value → State → Prop}
    (hf : f.Ends s Q) : ∃ r s', Q r s' ∧ dispatch request f s =
      s'.update request.id (settle request.toIncomingRequest r (s'.view request.id)) :=
  ⟨_, _, hf, rfl⟩

/-- The message loop responds, or ends the process. -/
theorem keeps_settleState (r : Except ObjectId Value) (s : State) :
    ∃ t, s.Keeps request t ∧
      (s.update request.id (settle request.toIncomingRequest r (s.view request.id)) = t ∨
        s.update request.id (settle request.toIncomingRequest r (s.view request.id)) =
          t.exit) := by
  obtain ⟨w, hw, heq | heq⟩ := @keeps_settle request.toIncomingRequest r
    (s.view request.id)
  · exact ⟨_, State.keeps_update hw, Or.inl (by rw [heq])⟩
  · exact ⟨_, State.keeps_update hw, Or.inr (by rw [heq]; rfl)⟩

/-- An exception that is not provided for ends the process. -/
theorem exited_of_fatal {e : ObjectId} {exc : PyException}
    (hid : (s.view request.id).exception? e = some exc) (hexc : ¬ exc.Convertible) :
    (s.update request.id (settle request.toIncomingRequest (.error e)
      (s.view request.id))).exited = true :=
  (settle_fatal hid hexc).1

/-- A handler that leaves the fields of the start request alone. -/
theorem live_dispatch {f : Handler Value} (h : State.Receiving request s)
    (hf : f.Ends s fun _ s' => s.Serves request s' ∧ s'.startRequest = s.startRequest ∧
      s'.hasStarted = s.hasStarted ∧ s'.deferredEvents = s.deferredEvents)
    (hrunning : (dispatch request f s).exited = false) : (dispatch request f s).Live := by
  obtain ⟨r, s', ⟨hserves, hstart, hstarted, hdeferred⟩, hdispatch⟩ :=
    @dispatch_cases request s f _ hf
  rw [hdispatch] at hrunning ⊢
  obtain ⟨t, ht, heq | heq⟩ := @keeps_settleState request r s'
  · rw [heq]
    exact h.live (hserves.trans ht.toServes) (ht.startRequest.trans hstart)
      (ht.hasStarted.trans hstarted) (ht.deferredEvents.trans hdeferred)
  · rw [heq] at hrunning
    cases hrunning

/-- **Start requests** keep the invariant. -/
theorem live_start {f : List String → Handler PUnit} (setup : Setup) (outcomes : Outcomes)
    (cause : MessageId) (h : State.Receiving request s)
    (hcommand : request.command = "launch" ∨ request.command = "attach")
    (hf : ∀ o, Within (State.Keeps request) (f o))
    (hstarts : ∀ o s, (f o).Ends s fun r s' => r = .ok ⟨⟩ → s.noDebug = true → s'.Started)
    (hrunning : (dispatch request (startMessageHandler setup request outcomes f cause)
      s).exited = false) :
    (dispatch request (startMessageHandler setup request outcomes f cause) s).Live := by
  obtain ⟨r, s', ⟨⟨hserves, -, hend⟩, hchecks⟩, hdispatch⟩ :=
    @dispatch_cases request s _ _ ((startMessageHandler_ends setup outcomes cause hf hstarts
      h.closed).and (startMessageHandler_checks setup outcomes cause s))
  rw [hdispatch] at hrunning ⊢
  cases hend with
  | fails hstart hstarted hdeferred =>
      obtain ⟨t, ht, heq | heq⟩ := @keeps_settleState request (.error _) s'
      · rw [heq]
        exact h.live (hserves.trans ht.toServes) (ht.startRequest.trans hstart)
          (ht.hasStarted.trans hstarted) (ht.deferredEvents.trans hdeferred)
      · rw [heq] at hrunning
        cases hrunning
  | fatal hid hexc =>
      rw [exited_of_fatal hid hexc] at hrunning
      cases hrunning
  | pending hstart hstarted hdeferred hserver =>
      have hunstarted : ¬ s.Started := by
        rcases hchecks with hchecks | ⟨e, w, hr, -⟩
        · exact hchecks.2
        · cases hr
      cases hresponse : s'.responses request.id with
      | none =>
          rw [settle_noResponse hresponse, State.update_view]
          exact h.live_pending hserves hunstarted hcommand hresponse hstart hstarted hdeferred
            hserver
      | some p =>
          have hexited := @settle_noResponse_answered request.toIncomingRequest
            (s'.view request.id) p hresponse
          cases hexited.symm.trans hrunning
  | finished hstart hstarted hresponse hs' =>
      obtain ⟨p, hp⟩ := Option.isSome_iff_exists.mp hresponse
      rw [@settle_none request.toIncomingRequest (s'.view request.id) p hp, State.update_view]
      exact h.live_finished hserves hcommand hresponse hstart hstarted hs'

/-! ### "configurationDone" -/

/-- An exception that nobody provides for ends the process. -/
theorem dispatch_fatal {f : Handler Value} (hf : f.Ends s (Fatal request)) :
    (dispatch request f s).exited = true := by
  obtain ⟨r, s', ⟨e, exc, rfl, hid, hexc⟩, hdispatch⟩ := @dispatch_cases request s f _ hf
  rw [hdispatch]
  exact exited_of_fatal hid hexc

/-- A request is in order if there is a start request that is pending. -/
theorem State.Receiving.configuring (h : State.Receiving request s)
    (hstart : s.startRequest = some start) (hstarted : s.hasStarted = false) :
    s.Configuring start := by
  obtain ⟨hresponse, hserver⟩ := h.pending start hstart hstarted
  exact ⟨hstart, hstarted, hresponse, hserver, h.deferred hstarted, h.closed⟩

/-- Responses to requests that had none. -/
theorem State.Answers.written {l : List (ℕ × SentResponse)} (h : s.Answers)
    (hl : s'.written = s.written ++ l) (hreceived : s'.received = s.received)
    (hnodup : (l.map fun p => p.2.request).Nodup)
    (hnew : ∀ p ∈ l, s.responses p.2.request = none ∧ p.2.request < s.received ∧
      (s'.responses p.2.request).isSome = true)
    (hothers : ∀ id, (∀ p ∈ l, p.2.request ≠ id) → s'.responses id = s.responses id) :
    s'.Answers where
  once id := by
    rw [responsesTo_of_written hl, List.length_append, h.once id]
    by_cases hid : ∃ p ∈ l, p.2.request = id
    · obtain ⟨p, hp, rfl⟩ := hid
      obtain ⟨hnone, -, hsome⟩ := hnew p hp
      have hone : (l.filter fun q => q.2.request = p.2.request).length = 1 := by
        have hcount : (l.map fun q => q.2.request).count p.2.request = 1 :=
          List.count_eq_one_of_mem hnodup (List.mem_map_of_mem hp)
        rw [List.count, List.countP_map, List.countP_eq_length_filter] at hcount
        simpa [Function.comp_def, beq_eq_decide] using hcount
      rw [hone, hnone, hsome]
      rfl
    · have hne : ∀ p ∈ l, p.2.request ≠ id := fun p hp heq => hid ⟨p, hp, heq⟩
      have hnil : (l.filter fun q => q.2.request = id) = [] :=
        List.filter_eq_nil_iff.mpr fun p hp => by simpa using hne p hp
      rw [hnil, hothers id hne, List.length_nil, Nat.add_zero]
  fresh id hle := by
    rw [hreceived] at hle
    rw [hothers id fun p hp heq => by
      obtain ⟨-, hlt, -⟩ := hnew p hp
      exact absurd (heq ▸ hlt) (Nat.not_lt.mpr hle)]
    exact h.fresh id hle

/-- The session has started. -/
theorem State.Configured.live (h : State.Receiving request s)
    (hc : State.Configured request start s s') (hstart : s.startRequest = some start)
    (hanswers : s'.Answers) : s'.Live where
  answers := hanswers
  closed := hc.closed
  start start' hsome := by
    obtain rfl : start = start' := Option.some.inj (hc.startRequest.symm.trans hsome)
    obtain ⟨hlt, hstarted, hcommand⟩ := h.start start hstart
    refine ⟨hc.received ▸ hlt, ?_, hcommand⟩
    rw [Started, hc.launcher, hc.server]
    exact hstarted
  started _ := ⟨start, hc.startRequest, hc.response⟩
  pending start' _ hs' := by simp [hc.hasStarted] at hs'
  deferred hs' := by simp [hc.hasStarted] at hs'
  pid hnone := by
    rw [hc.pid]
    exact h.pid (hc.server ▸ hnone)

/-- **"configurationDone" keeps the invariant**, if the process goes on. -/
theorem live_configurationDone (setup : Setup) (answer : Answer)
    (h : State.Receiving request s) (hrunning : (dispatch request
      (configurationDoneRequest setup request answer) s).exited = false) :
    (dispatch request (configurationDoneRequest setup request answer) s).Live := by
  have hfatal : ¬ (configurationDoneRequest setup request answer).Ends s (Fatal request) :=
    fun hf => by simp [dispatch_fatal hf] at hrunning
  cases horder : (s.startRequest.isNone || s.hasStarted) with
  | true =>
      refine absurd (configurationDone_outOfOrder setup answer h.closed h.response horder ?_)
        hfatal
      intro start hstart
      cases hstarted : s.hasStarted with
      | true =>
          obtain ⟨start', hstart', hresponse⟩ := h.started hstarted
          obtain rfl : start = start' := Option.some.inj (hstart.symm.trans hstart')
          exact hresponse
      | false => simp [hstart, hstarted] at horder
  | false =>
      simp only [Bool.or_eq_false_iff, Option.isNone_eq_false_iff] at horder
      obtain ⟨start, hstart⟩ := Option.isSome_iff_exists.mp horder.1
      have hconfiguring := h.configuring hstart horder.2
      have hne := h.start_ne start hstart
      have hlt := (h.start start hstart).1
      have hdisconnect : ∀ (text streamName : String) (exc : PyException),
          answer = .disconnect text streamName ∧ exc = .noMoreMessages text streamName ∨
            answer = .ioError text streamName ∧ exc = .jsonIOError text streamName →
          (dispatch request (configurationDoneRequest setup request answer) s).Live := by
        intro text streamName exc hanswer
        obtain ⟨r, s', ⟨⟨e, rfl, hid⟩, hc, hnone, q, hq, hrequest, -⟩, hdispatch⟩ :=
          @dispatch_cases request s _ _
            (configurationDone_disconnect setup hconfiguring h.response hne hanswer)
        have hanswers : s'.Answers := by
          refine h.answers.written hq hc.received (List.nodup_singleton _) ?_ ?_
          · intro p hp
            obtain rfl := List.mem_singleton.mp hp
            rw [hrequest]
            exact ⟨hconfiguring.response, hlt, hc.response⟩
          · intro id hid'
            by_cases heq : id = request.id
            · rw [heq, hnone, h.response]
            · exact hc.others id (fun hs => hid' q List.mem_cons_self (hrequest.trans hs.symm)) heq
        have hreceiving : State.Receiving request s' :=
          ⟨hc.live h hstart hanswers, hnone, fun start' hs' => by
            obtain rfl : start = start' := Option.some.inj (hc.startRequest.symm.trans hs')
            exact hne, hc.received ▸ h.id_lt⟩
        rw [hdispatch] at hrunning ⊢
        obtain ⟨t, ht, heq | heq⟩ := @keeps_settleState request (.error e) s'
        · rw [heq]
          exact hreceiving.live ht.toServes ht.startRequest ht.hasStarted ht.deferredEvents
        · rw [heq] at hrunning
          cases hrunning
      cases answer with
      | success body =>
          obtain ⟨r, s', ⟨rfl, hc, hsome, p, q, hpq, hp, -, hq, -⟩, hdispatch⟩ :=
            @dispatch_cases request s _ _
              (@configurationDone_success request start s setup body hconfiguring h.response hne)
          have hanswers : s'.Answers := by
            refine h.answers.written hpq hc.received ?_ ?_ ?_
            · simpa [hp, hq] using hne.symm
            · intro x hx
              rcases List.mem_cons.mp hx with rfl | hx
              · rw [hp]
                exact ⟨h.response, h.id_lt, hsome⟩
              · obtain rfl := List.mem_singleton.mp hx
                rw [hq]
                exact ⟨hconfiguring.response, hlt, hc.response⟩
            · intro id hid
              refine hc.others id (fun hs => ?_) fun hs => ?_
              · exact hid q (List.mem_cons_of_mem _ List.mem_cons_self) (hq.trans hs.symm)
              · exact hid p List.mem_cons_self (hp.trans hs.symm)
          obtain ⟨x, hx⟩ := Option.isSome_iff_exists.mp hsome
          rw [hdispatch, @settle_none request.toIncomingRequest (s'.view request.id) x hx,
            State.update_view]
          exact hc.live h hstart hanswers
      | failure type reason cause =>
          exact absurd (configurationDone_failure setup hconfiguring hne) hfatal
      | disconnect text streamName => exact hdisconnect _ _ _ (Or.inl ⟨rfl, rfl⟩)
      | ioError text streamName => exact hdisconnect _ _ _ (Or.inr ⟨rfl, rfl⟩)

/-! ### Runs -/

/-- A part of a handler that sends nothing to other processes. -/
structure State.Reads (request : Request) (s s' : State) : Prop
    extends State.Keeps request s s' where
  sent_eq : s'.sent = s.sent
  launcher_eq : s'.launcher = s.launcher
  server_eq : s'.server = s.server

instance : IsPreorder State (State.Reads request) where
  refl s := ⟨.refl request s, rfl, rfl, rfl⟩
  trans _ _ _ h h' := ⟨h.toKeeps.trans h'.toKeeps, h'.sent_eq.trans h.sent_eq,
    h'.launcher_eq.trans h.launcher_eq, h'.server_eq.trans h.server_eq⟩

section Reads

variable {α : Type}

/-- What is done to the request is no change of the session. -/
theorem reads_on {x : Python α} (hx : Within (World.Keeps request.toIncomingRequest) x) :
    Within (State.Reads request) (on request.id x) :=
  fun s => ⟨keeps_on hx s, rfl, rfl, rfl⟩

/-- Fields that no frame mentions may be set. -/
theorem reads_modify {g : State → State} (hg : ∀ s, (g s).core = s.core) :
    Within (State.Reads request) (modify g : Handler PUnit) :=
  within_modify fun s => ⟨State.keeps_of_core (hg s), (congrArg State.sent (hg s) :),
    (congrArg State.launcher (hg s) :), (congrArg State.server (hg s) :)⟩

/-- To look up a property is no change of the session. -/
theorem reads_parse (x : Except PyError α) : Within (State.Reads request) (parse request x) := by
  unfold parse
  split
  · exact within_pure
  · exact (reads_on (keeps_error _ _)).bind fun _ => within_throw
  · exact reads_on (keeps_raise _)

end Reads

/-- What `initialize_request` does, up to the very end. -/
structure Initialized (request : Request) (s : State) (r : Except ObjectId Value)
    (s' : State) : Prop where
  serves : s.Serves request s'
  startRequest : s'.startRequest = s.startRequest
  hasStarted : s'.hasStarted = s.hasStarted
  deferredEvents : s'.deferredEvents = s.deferredEvents
  sent : s'.sent = s.sent
  launcher : s'.launcher = s.launcher
  server : s'.server = s.server
  /-- The request is kept, or an exception is raised. -/
  result : s'.initializeRequest = s.initializeRequest ∧ (∃ e, r = .error e) ∨
    s.initializeRequest = none ∧ s'.initializeRequest = some request

/-- A request that is rejected leaves the session uninitialized. -/
theorem State.Reads.initialized {r : Except ObjectId Value} (h : s.Reads request s')
    (hr : ∃ e, r = .error e) : Initialized request s r s' :=
  ⟨h.toServes, h.startRequest, h.hasStarted, h.deferredEvents, h.sent_eq, h.launcher_eq,
    h.server_eq, Or.inl ⟨h.initializeRequest, hr⟩⟩

/-- `initialize_request` keeps the request, unless it raises. -/
theorem initializeRequest_ends (s : State) :
    (initializeRequest request).Ends s (Initialized request s) := by
  refine Ends.bind_ok exec_get ?_
  split_ifs with hsome
  · have hraise : Within (State.Reads request)
        (raiseIsntValid request "Session is already initialized" : Handler Value) :=
      (reads_on (keeps_error _ _)).bind fun _ => within_throw
    exact ((hraise s).and (raiseIsntValid_raises _ s)).mono fun r s' hs' =>
      hs'.1.initialized hs'.2
  · have hread : Within (State.Reads request) (readInitialize request) :=
      (reads_parse _).bind fun _ => (reads_modify fun _ => by rfl).bind fun _ =>
        (reads_parse _).bind fun _ => (reads_modify fun _ => by rfl).bind fun _ =>
          reads_parse _
    refine (hread s).bind ?_ fun e s' hs' => hs'.initialized ⟨e, rfl⟩
    intro expectations s₁ hs₁
    refine Ends.bind_ok exec_modify (Ends.bind_ok (exec_on_new request.id _) (ends_pure ?_))
    have hserves : s.Serves request { s₁ with
        expectations := expectations, initializeRequest := some request } :=
      ⟨hs₁.view, hs₁.others, hs₁.received, hs₁.launcher, hs₁.server, hs₁.pid, hs₁.sent⟩
    have hnew := @keeps_on request _ _ (keeps_new (.payload adapterCapabilities)) { s₁ with
        expectations := expectations, initializeRequest := some request }
    rw [Ends, exec_on_new] at hnew
    exact ⟨hserves.trans hnew.toServes, hs₁.startRequest, hs₁.hasStarted, hs₁.deferredEvents,
      hs₁.sent_eq, hs₁.launcher_eq, hs₁.server_eq,
      Or.inr ⟨Option.not_isSome_iff_eq_none.mp hsome, rfl⟩⟩

/-! ### Runs -/

/-- An event changes nothing but the events. -/
theorem propagateAfterStart_ends (event : Event) (s : State) (hclosed : s.closed = false) :
    (propagateAfterStart request event).Ends s fun _ s' =>
      { s'.core with deferredEvents := none } = { s.core with deferredEvents := none } ∧
      (s'.deferredEvents.isSome = s.deferredEvents.isSome) := by
  refine Ends.bind_ok exec_get ?_
  cases hdeferred : s.deferredEvents with
  | some events => exact ⟨rfl, rfl⟩
  | none => exact Ends.of_exec (exec_sendEvent hclosed) ⟨rfl, by rw [← hdeferred]; rfl⟩

/-- The other fields do not matter. -/
theorem State.Live.of_core (h : s.Live)
    (hcore : { s'.core with deferredEvents := none } = { s.core with deferredEvents := none })
    (hdeferred : s'.deferredEvents.isSome = s.deferredEvents.isSome) : s'.Live := by
  have hwritten : s'.written = s.written := (congrArg State.written hcore :)
  have hresponses : s'.responses = s.responses := (congrArg State.responses hcore :)
  have hreceived : s'.received = s.received := (congrArg State.received hcore :)
  have hstart : s'.startRequest = s.startRequest := (congrArg State.startRequest hcore :)
  have hstarted : s'.hasStarted = s.hasStarted := (congrArg State.hasStarted hcore :)
  have hlauncher : s'.launcher = s.launcher := (congrArg State.launcher hcore :)
  have hserver : s'.server = s.server := (congrArg State.server hcore :)
  have hpid : s'.pid = s.pid := (congrArg State.pid hcore :)
  refine ⟨⟨?_, ?_⟩, (congrArg State.closed hcore :).trans h.closed, ?_, ?_, ?_, ?_, ?_⟩
  · rw [hresponses]
    simpa only [State.responsesTo, hwritten] using h.answers.once
  · rw [hresponses, hreceived]
    exact h.answers.fresh
  · rw [hstart, hreceived, State.Started, hlauncher, hserver]
    exact h.start
  · rw [hstart, hstarted, hresponses]
    exact h.started
  · rw [hstart, hstarted, hresponses, hserver]
    exact h.pending
  · rw [hstarted, hdeferred]
    exact h.deferred
  · rw [hserver, hpid]
    exact h.pid

/-- **Every step of a running process keeps the invariant.** -/
theorem live_next (setup : Setup) {a : Action} (h : s.Live) (henabled : enabled s a = true)
    (hrunning : (next setup s a).exited = false) : (next setup s a).Live := by
  cases a with
  | request request answer outcomes cause =>
      simp only [enabled, Bool.and_eq_true, decide_eq_true_eq] at henabled
      have hreceiving := h.receiving henabled.1.2
      simp only [next, handler] at hrunning ⊢
      split_ifs at hrunning ⊢ with hinit hlaunch hattach hconfigured
      · exact live_dispatch hreceiving ((initializeRequest_ends _).mono fun r s' hs' =>
          ⟨hs'.serves, hs'.startRequest, hs'.hasStarted, hs'.deferredEvents⟩) hrunning
      · exact live_start setup outcomes cause hreceiving (Or.inl hlaunch)
          (keeps_launch setup outcomes) (launch_starts setup outcomes) hrunning
      · exact live_start setup outcomes cause hreceiving (Or.inr hattach)
          (fun _ => keeps_attach setup outcomes) (fun _ => attach_starts setup outcomes) hrunning
      · exact live_configurationDone setup answer hreceiving hrunning
      · have hgeneric : Within (State.Keeps request) (genericRequest request answer) :=
          (keeps_delegate _ _).bind fun _ => (keeps_on (keeps_new _)).bind fun _ => within_pure
        exact live_dispatch hreceiving ((hgeneric _).mono fun r s' hs' =>
          ⟨hs'.toServes, hs'.startRequest, hs'.hasStarted, hs'.deferredEvents⟩) hrunning
  | event request event =>
      obtain ⟨hcore, hdeferred⟩ := @propagateAfterStart_ends request event s h.closed
      exact h.of_core hcore hdeferred
  | connections connections =>
      exact ⟨⟨h.answers.once, h.answers.fresh⟩, h.closed, h.start, h.started, h.pending,
        h.deferred, h.pid⟩

/-- **What a step is**: the action is possible, and `next` is the state that it leads to. -/
theorem step_eq_some {setup : Setup} {a : Action} (h : (ide setup).step s a = some s') :
    enabled s a = true ∧ s' = next setup s a := by
  simp only [ide] at h
  split_ifs at h with henabled
  exact ⟨henabled, (Option.some.inj h).symm⟩

/-- Only a running process takes steps. -/
theorem running_of_enabled {a : Action} (h : enabled s a = true) : s.exited = false := by
  cases a with
  | request | event | connections => simp_all [enabled]

/-- **The component is alive in every run**, until the process has ended. -/
theorem invariant_live (setup : Setup) :
    (ide setup).Invariant fun s => s.exited = false → s.Live where
  start := by
    rintro s rfl _
    exact ⟨⟨fun _ => rfl, fun _ _ => rfl⟩, rfl, by simp [initial], by simp [initial],
      by simp [initial], fun _ => rfl, fun _ => rfl⟩
  step := by
    intro s s' a hlive hstep hrunning
    obtain ⟨henabled, rfl⟩ := step_eq_some hstep
    exact live_next setup (hlive (running_of_enabled henabled)) henabled hrunning

/-- **The invariant of the runs**, as long as the process runs. -/
theorem live_of_reachable {setup : Setup} (hs : (ide setup).Reachable s)
    (hrunning : s.exited = false) : s.Live :=
  (invariant_live setup).of_reachable hs hrunning

/-! ### The "initialize" request -/

/-- A handler that is not for "initialize", "launch" or "attach": it responds to its request
and to the start request. -/
structure State.Acts (request : Request) (s s' : State) : Prop where
  initializeRequest : s'.initializeRequest = s.initializeRequest
  startRequest : s'.startRequest = s.startRequest
  started : s.Started → s'.Started
  server : s.server.isSome = true → s'.server.isSome = true
  sent : ∃ l, s'.sent = s.sent ++ l ∧ ∀ m ∈ l, m.origin = request
  written : ∃ l, s'.written = s.written ++ l ∧ ∀ p ∈ l, p.2.command = request.command ∨
    ∃ start, s.startRequest = some start ∧ p.2.command = start.command

namespace State.Acts

/-- It is an act of a handler to do nothing. -/
theorem refl (request : Request) (s : State) : s.Acts request s :=
  ⟨rfl, rfl, id, id, ⟨[], by simp, by simp⟩, [], by simp, by simp⟩

/-- Two acts, one after the other, are an act of a handler. -/
theorem trans (h : s.Acts request s') (h' : s'.Acts request s'') : s.Acts request s'' where
  initializeRequest := h'.initializeRequest.trans h.initializeRequest
  startRequest := h'.startRequest.trans h.startRequest
  started := h'.started ∘ h.started
  server := h'.server ∘ h.server
  sent := by
    obtain ⟨l, hl, hmem⟩ := h.sent
    obtain ⟨l', hl', hmem'⟩ := h'.sent
    refine ⟨l ++ l', by rw [hl', hl, List.append_assoc], fun m hm => ?_⟩
    rcases List.mem_append.mp hm with hm | hm
    · exact hmem m hm
    · exact hmem' m hm
  written := by
    obtain ⟨l, hl, hmem⟩ := h.written
    obtain ⟨l', hl', hmem'⟩ := h'.written
    refine ⟨l ++ l', by rw [hl', hl, List.append_assoc], fun p hp => ?_⟩
    rcases List.mem_append.mp hp with hp | hp
    · exact hmem p hp
    · rw [← h.startRequest]
      exact hmem' p hp

end State.Acts

instance : IsPreorder State (State.Acts request) where
  refl := .refl request
  trans _ _ _ := .trans

/-- What a part of a start request does is an act of a handler. -/
theorem State.Keeps.acts (h : s.Keeps request s') : s.Acts request s' := by
  obtain ⟨l, hl, hmem⟩ := h.sent
  obtain ⟨l', hl', hmem'⟩ := h.view.written
  refine ⟨h.initializeRequest, h.startRequest, h.toServes.started, fun hsome => ?_,
    ⟨l, hl, fun m hm => (hmem m hm).1⟩, l', hl', fun p hp => Or.inl (hmem' p hp).2⟩
  rw [h.server hsome]
  exact hsome

section Acts

variable {α : Type}

/-- A program that does no more than a part of a start request is an act of a handler. -/
theorem acts_of_keeps {x : Handler α} (hx : Within (State.Keeps request) x) :
    Within (State.Acts request) x :=
  fun s => (hx s).mono fun _ _ => State.Keeps.acts

/-- What is done to the request is an act of a handler. -/
theorem acts_on {x : Python α} (hx : Within (World.Keeps request.toIncomingRequest) x) :
    Within (State.Acts request) (on request.id x) := acts_of_keeps (keeps_on hx)

/-- What is done to the start request. -/
theorem acts_on_start {x : Python α} (hstart : s.startRequest = some start)
    (hx : Within (World.Keeps start.toIncomingRequest) x) :
    (on start.id x).Ends s fun _ s' => s.Acts request s' := by
  have hkeeps := State.Keeps.acts (keeps_on hx s)
  obtain ⟨l, hl, hmem⟩ := hkeeps.written
  refine ⟨rfl, rfl, hkeeps.started, hkeeps.server, ⟨[], (List.append_nil _).symm, by simp⟩, l, hl,
    fun p hp => Or.inr ⟨start, hstart, ?_⟩⟩
  rcases hmem p hp with hcommand | ⟨start', hstart', hcommand⟩
  · exact hcommand
  · obtain rfl := Option.some.inj (hstart.symm.trans hstart')
    exact hcommand

/-- Setting other fields. -/
theorem acts_modify {g : State → State} (hg : ∀ s, ((g s).initializeRequest,
    (g s).startRequest, (g s).launcher, (g s).server, (g s).sent, (g s).written) =
      (s.initializeRequest, s.startRequest, s.launcher, s.server, s.sent, s.written)) :
    Within (State.Acts request) (modify g : Handler PUnit) := by
  refine within_modify fun s => ?_
  obtain ⟨hinit, hstart, hlauncher, hserver, hsent, hwritten⟩ := by
    simpa only [Prod.mk.injEq] using hg s
  refine ⟨hinit, hstart, ?_, ?_, ⟨[], by simp [hsent], by simp⟩, [], by simp [hwritten], by simp⟩
  · rw [State.Started, State.Started, hlauncher, hserver]
    exact id
  · rw [hserver]
    exact id

/-- To announce subprocesses is an act of a handler. -/
theorem acts_notifyOfSubprocesses (setup : Setup) (conns : List Connection) :
    Within (State.Acts request) (notifyOfSubprocesses setup request conns) := by
  induction conns with
  | nil => exact within_pure
  | cons conn conns ih =>
      have hnotify : Within (State.Acts request) (notifyOfSubprocess setup request conn) := by
        refine within_get.bind fun s => ?_
        split
        · exact within_pure
        · split_ifs
          · exact within_pure
          · exact (acts_modify fun _ => by rfl).bind fun _ => acts_of_keeps (keeps_sendEvent _)
      refine within_get.bind fun s => ?_
      split_ifs
      · exact hnotify.bind fun _ => ih
      · exact ih

/-- To let a start request fail is an act of a handler. -/
theorem acts_failStart (reason : String) :
    Within (State.Acts request) (failStart request reason) := by
  refine within_get_bind fun s => ?_
  split
  · exact acts_on (keeps_raise _) s
  · next start hstart =>
      split
      · exact acts_on (keeps_raise _) s
      · exact (acts_on_start hstart (keeps_error _ _)).bind (fun _ _ hs' => ends_pure hs')
          fun _ _ hs' => hs'

/-- To respond to the start request is an act of a handler. -/
theorem acts_respondToStart : Within (State.Acts request) (respondToStart request) := by
  refine within_get_bind fun s => ?_
  split
  · exact acts_on (keeps_raise _) s
  · next start hstart =>
      refine (acts_on (keeps_new _) s).bind (fun body s₁ hs₁ => ?_) fun _ _ hs' => hs'
      exact (acts_on_start (hs₁.startRequest.trans hstart) (keeps_respond _)).mono
        fun _ _ hs₂ => hs₁.trans hs₂

/-- "configurationDone" leaves the "initialize" request alone. -/
theorem acts_configurationDone (setup : Setup) (answer : Answer) :
    Within (State.Acts request) (configurationDoneRequest setup request answer) := by
  have hreject : Within (State.Acts request) (rejectEarly request) := by
    refine within_get.bind fun s => ?_
    split_ifs
    · exact (acts_on (keeps_error _ _)).bind fun _ => within_pure
    · exact within_pure
  have hconfigure : Within (State.Acts request) (configure request answer) := by
    refine Within.tryCatch ?_ fun id => within_get.bind fun s => ?_
    · exact (acts_modify fun _ => by rfl).bind fun _ =>
        (acts_of_keeps (keeps_delegate _ _)).bind fun _ =>
          (acts_on (keeps_new _)).bind fun _ => acts_on (keeps_respond _)
    · split
      · exact acts_failStart _
      · exact within_throw
  have hfinish : Within (State.Acts request) (finishConfiguration request) := by
    refine acts_respondToStart.bind fun _ => within_get.bind fun s => ?_
    split
    · exact (acts_of_keeps (keeps_sendEvents _)).bind fun _ => acts_modify fun _ => by rfl
    · exact acts_on (keeps_raise _)
  exact hreject.bind fun _ => (hconfigure.tryFinally hfinish).bind fun _ =>
    within_get.bind fun s => (acts_notifyOfSubprocesses setup _).bind fun _ => within_pure

/-- To pass on any other request to the server is an act of a handler. -/
theorem acts_genericRequest (answer : Answer) :
    Within (State.Acts request) (genericRequest request answer) :=
  (acts_of_keeps (keeps_delegate _ _)).bind fun _ =>
    (acts_on (keeps_new _)).bind fun _ => within_pure

end Acts

/-- **What a step does to the "initialize" request**: it is set by an "initialize" request
if there is none, and forgotten by a start request that has reached a debug server. -/
inductive InitializeStep (s : State) : Action → State → Prop
  | same {a : Action} {s' : State} : s'.initializeRequest = s.initializeRequest →
      InitializeStep s a s'
  | set {request : Request} {answer : Answer} {outcomes : Outcomes} {cause : MessageId}
      {s' : State} : request.command = "initialize" → s.initializeRequest = none →
      s'.initializeRequest = some request →
      InitializeStep s (.request request answer outcomes cause) s'
  | forgotten {request : Request} {answer : Answer} {outcomes : Outcomes} {cause : MessageId}
      {s' : State} : request.command = "launch" ∨ request.command = "attach" →
      s'.initializeRequest = none → s'.server.isSome = true →
      InitializeStep s (.request request answer outcomes cause) s'

/-- **What a step does to the initialize request.** -/
theorem initializeStep_next (setup : Setup) {a : Action} (h : s.Live)
    (henabled : enabled s a = true) : InitializeStep s a (next setup s a) := by
  cases a with
  | request request answer outcomes cause =>
      have hclosed : ({ s with received := s.received + 1 } : State).closed = false := h.closed
      have hstart : ∀ {f : List String → Handler PUnit},
          (request.command = "launch" ∨ request.command = "attach") →
          (∀ o, Within (State.Keeps request) (f o)) →
          (∀ o s, (f o).Ends s fun r s' => r = .ok ⟨⟩ → s.noDebug = true → s'.Started) →
          InitializeStep s (.request request answer outcomes cause)
            (dispatch request (startMessageHandler setup request outcomes f cause)
              { s with received := s.received + 1 }) := by
        intro f hcommand hf hstarts
        rcases (startMessageHandler_ends setup outcomes cause hf hstarts hclosed).2.1 with
          hsame | ⟨hnone, hserver⟩
        · exact .same hsame
        · exact .forgotten hcommand hnone hserver
      simp only [next, handler]
      split_ifs with hinit hlaunch hattach hconfigured
      · rcases (@initializeRequest_ends request { s with received := s.received + 1 }).result with
          ⟨hsame, -⟩ | ⟨hnone, hset⟩
        · exact .same hsame
        · exact .set hinit hnone hset
      · exact hstart (Or.inl hlaunch) (keeps_launch setup outcomes) (launch_starts setup outcomes)
      · exact hstart (Or.inr hattach) (fun _ => keeps_attach setup outcomes)
          fun _ => attach_starts setup outcomes
      · exact .same (acts_configurationDone setup answer _).initializeRequest
      · exact .same (acts_genericRequest answer _).initializeRequest
  | event request event =>
      obtain ⟨hcore, -⟩ := @propagateAfterStart_ends request event s h.closed
      exact .same (congrArg State.initializeRequest hcore :)
  | connections connections => exact .same rfl

/-- The "initialize" request is one. -/
theorem command_of_reachable {setup : Setup} (hs : (ide setup).Reachable s)
    (hrunning : s.exited = false) {initRequest : Request}
    (hinit : s.initializeRequest = some initRequest) : initRequest.command = "initialize" := by
  have hinvariant : (ide setup).Invariant fun s => s.exited = false → s.Live ∧
      ∀ r, s.initializeRequest = some r → r.command = "initialize" := by
    refine ⟨?_, fun {s s' a} hI hstep hrunning => ?_⟩
    · rintro s rfl _
      exact ⟨(invariant_live setup).start rfl rfl, by simp [initial]⟩
    · obtain ⟨henabled, rfl⟩ := step_eq_some hstep
      obtain ⟨hlive, hcommand⟩ := hI (running_of_enabled henabled)
      refine ⟨live_next setup hlive henabled hrunning, fun r hr => ?_⟩
      cases initializeStep_next setup hlive henabled with
      | same hsame => exact hcommand r (hsame.symm.trans hr)
      | set hinit _ hset =>
          obtain rfl := Option.some.inj (hset.symm.trans hr)
          exact hinit
      | forgotten _ hnone _ => cases hnone.symm.trans hr
  exact (hinvariant.of_reachable hs hrunning).2 initRequest hinit

/-! ### A session -/

/-- An adapter on the local machine. -/
def localSetup : Setup where
  sessionId := 1
  win32 := false
  tokens := ⟨none, none⟩
  serverPort := 5678
  idePort := 5679
  executable := "python"
  launcherDir := "launcher"
  int _ := none

/-- Every call succeeds, and a debug server arrives in time. -/
def quickOutcomes : Outcomes where
  createServer := none
  popen := none
  accept := none
  env := .dict []
  runInTerminal := .success (.dict [])
  launcher := .success (.dict [])
  process := true
  inject := none
  arriving := ⟨0, 100, none, none⟩
  inTime := true
  authorize := .success (.dict [])
  initialization := .success (.dict [])
  start := .success (.dict [])
  setDebuggerProperty := .success (.dict [])

/-- A request of the IDE. -/
def ideRequest (id : MessageId) (command : String) (arguments : List (String × Json)) :
    Request :=
  ⟨⟨id, id + 1, command, command, "IDE-1", command ++ "_request"⟩, .dict arguments⟩

/-- Nothing fails while the request is handled. -/
def served (request : Request) : Action := .request request (.success (.dict [])) quickOutcomes 0

/-- The session has been initialized. -/
def initializing : List Action := [served (ideRequest 0 "initialize" [("pathFormat", .str "path")])]

/-- The IDE attaches to the debug server. -/
def attaching : List Action := initializing ++ [served (ideRequest 1 "attach" [])]

/-- The state that a list of actions leads to. -/
def after (actions : List Action) : State :=
  ((ide localSetup).run initial actions).getD initial

/-- A run that succeeds reaches a state. -/
theorem reachable_after {actions : List Action}
    (h : ((ide localSetup).run initial actions).isSome = true) :
    (ide localSetup).Reachable (after actions) := by
  obtain ⟨s, hs⟩ := Option.isSome_iff_exists.mp h
  rw [after, hs]
  exact (Machine.Reachable.of_start rfl).run hs

end IDE

end Ptvsd
