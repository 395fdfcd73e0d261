import Ptvsd.IDERuns

/-!
# What "configurationDone" Promises

In a running process, a "configurationDone" request is to get one response, and so is the start
request that is pending: a failure if the other one fails. If there is none, the request is to
be rejected without any effect.

The handler does not raise what `cant_handle()` returns, neither for a request that is out of
order nor for the start request, whose response in the `finally` clause is then a second one.

## Main results

* `configurationDone_iff`: all this holds **if and only if** the request is in order and the
  debug server answers with a success.
-/

namespace Ptvsd

namespace IDE

open Program

variable {request start : Request} {s s' : State}

/-- A start request is pending. -/
def State.InOrder (s : State) : Prop := s.startRequest.isSome = true ∧ s.hasStarted = false

instance (s : State) : Decidable s.InOrder := inferInstanceAs (Decidable (_ ∧ _))

/-- A request has a failure response. -/
def State.Fails (s : State) (id : MessageId) : Prop :=
  ∃ p ∈ s.responsesTo id, p.2.success = false

/-- **The contract of "configurationDone"**, between the states before and after it. -/
structure MeetsConfigurationDone (request : Request) (s s' : State) : Prop where
  /-- It gets one response. -/
  response : (s'.responsesTo request.id).length = 1
  /-- The pending start request gets one response, a failure if this one fails. -/
  start : ∀ start, s.startRequest = some start → s.hasStarted = false →
    (s'.responsesTo start.id).length = 1 ∧ (s'.Fails request.id → s'.Fails start.id)
  /-- Out of order, it is rejected without any effect. -/
  outOfOrder : ¬ s.InOrder → s'.Fails request.id ∧ s'.sent = s.sent ∧
    ∀ start, s.startRequest = some start → s'.responsesTo start.id = s.responsesTo start.id
  /-- No assertion fails: the process goes on. -/
  running : s'.exited = false

/-- The debug server answers with a success. -/
def Answer.Succeeds (answer : Answer) : Prop := ∃ body, answer = .success body

/-- With a success of the debug server, the contract is met. -/
theorem meets_of_success (setup : Setup) {body : Json} (h : State.Receiving request s)
    (hrunning : s.exited = false) (horder : s.InOrder) : MeetsConfigurationDone request s
      (dispatch request (configurationDoneRequest setup request (.success body)) s) := by
  obtain ⟨start, hstart⟩ := Option.isSome_iff_exists.mp horder.1
  have hconfiguring := h.configuring hstart horder.2
  have hne := h.start_ne start hstart
  obtain ⟨r, s', ⟨rfl, hc, hsome, p, q, hpq, hp, hpsuccess, hq, hqsuccess⟩, hdispatch⟩ :=
    @dispatch_cases request s _ _
      (@configurationDone_success request start s setup body hconfiguring h.response hne)
  obtain ⟨x, hx⟩ := Option.isSome_iff_exists.mp hsome
  rw [hdispatch, @settle_none request.toIncomingRequest (s'.view request.id) x hx,
    State.update_view]
  have hrequest : s'.responsesTo request.id = [p] := by
    rw [State.responsesTo_of_written hpq, responsesTo_nil h.answers h.response]
    simp [hp, hq, hne]
  have hresponses : s'.responsesTo start.id = [q] := by
    rw [State.responsesTo_of_written hpq, responsesTo_nil h.answers hconfiguring.response]
    simp [hp, hq, hne.symm]
  refine ⟨by rw [hrequest]; rfl, ?_, fun hno => absurd horder hno, ?_⟩
  · intro start' hstart' _
    obtain rfl : start = start' := Option.some.inj (hstart.symm.trans hstart')
    refine ⟨by rw [hresponses]; rfl, ?_⟩
    rintro ⟨p', hp', hfails⟩
    rw [hrequest, List.mem_singleton] at hp'
    simp [hp', hpsuccess] at hfails
  · exact hc.exited.trans hrunning

/-- If the debug server disconnects, the start request succeeds and this one fails. -/
theorem not_meets_of_disconnect (setup : Setup) {text streamName : String} {answer : Answer}
    {exc : PyException} (h : State.Receiving request s) (horder : s.InOrder)
    (hanswer : answer = .disconnect text streamName ∧ exc = .noMoreMessages text streamName ∨
      answer = .ioError text streamName ∧ exc = .jsonIOError text streamName) :
    ¬ MeetsConfigurationDone request s
      (dispatch request (configurationDoneRequest setup request answer) s) := by
  intro hmeets
  obtain ⟨start, hstart⟩ := Option.isSome_iff_exists.mp horder.1
  have hconfiguring := h.configuring hstart horder.2
  have hne := h.start_ne start hstart
  obtain ⟨r, s', ⟨⟨e, rfl, hid⟩, hc, hnone, q, hq, hrequest, hsuccess⟩, hdispatch⟩ :=
    @dispatch_cases request s _ _
      (configurationDone_disconnect setup hconfiguring h.response hne hanswer)
  have hconvertible : exc.Convertible := by
    rcases hanswer with ⟨-, rfl⟩ | ⟨-, rfl⟩
    · trivial
    · trivial
  obtain ⟨type, reason, hsettle⟩ := @settle_convertible request.toIncomingRequest
    (s'.view request.id) e exc ⟨hc.closed, hnone⟩ hid hconvertible
  set p : ℕ × SentResponse := (s'.seqIter, responseJson request.toIncomingRequest
    ((s'.view request.id).alloc (.exception (.handlingError type reason request.id)))
      (.object s'.objects.length)) with hp
  have hwritten : (dispatch request (configurationDoneRequest setup request answer)
      s).written = s.written ++ [q, p] := by
    rw [hdispatch, hsettle]
    change s'.written ++ [p] = _
    rw [hq, List.append_assoc]
    rfl
  have hfailure : p.2.success = false := by
    simp [hp, responseJson, World.failure, World.exception?, World.alloc, State.view]
  have hrequestId : p.2.request = request.id := rfl
  have hfails : (dispatch request (configurationDoneRequest setup request answer)
      s).Fails request.id := by
    refine ⟨p, ?_, hfailure⟩
    rw [State.responsesTo_of_written hwritten]
    simp [hrequest, hrequestId, hne]
  obtain ⟨-, hboth⟩ := hmeets.start start hstart horder.2
  obtain ⟨q', hq', hfails'⟩ := hboth hfails
  rw [State.responsesTo_of_written hwritten, responsesTo_nil h.answers hconfiguring.response]
    at hq'
  simp only [hrequest, hrequestId, hne.symm, List.nil_append, decide_true, decide_false,
    List.filter_cons_of_pos, Bool.false_eq_true, not_false_eq_true, List.filter_cons_of_neg,
    List.filter_nil, List.mem_singleton] at hq'
  simp [hq', hsuccess] at hfails'

/-- A request that is out of order ends the process. -/
theorem exited_of_outOfOrder (setup : Setup) (answer : Answer) (h : State.Receiving request s)
    (horder : ¬ s.InOrder) :
    (dispatch request (configurationDoneRequest setup request answer) s).exited = true := by
  have hearly : (s.startRequest.isNone || s.hasStarted) = true := by
    by_contra hno
    simp only [Bool.not_eq_true, Bool.or_eq_false_iff, Option.isNone_eq_false_iff] at hno
    exact horder hno
  refine dispatch_fatal (configurationDone_outOfOrder setup answer h.closed h.response hearly ?_)
  intro start hstart
  cases hstarted : s.hasStarted with
  | true =>
      obtain ⟨start', hstart', hresponse⟩ := h.started hstarted
      obtain rfl : start = start' := Option.some.inj (hstart.symm.trans hstart')
      exact hresponse
  | false => exact absurd ⟨Option.isSome_iff_exists.mpr ⟨start, hstart⟩, hstarted⟩ horder

/-- A failure of the debug server ends the process. -/
theorem exited_of_failure (setup : Setup) {type : ErrorType} {reason : String}
    {cause : MessageId} (h : State.Receiving request s) (horder : s.InOrder) :
    (dispatch request (configurationDoneRequest setup request (.failure type reason cause))
      s).exited = true := by
  obtain ⟨start, hstart⟩ := Option.isSome_iff_exists.mp horder.1
  exact dispatch_fatal (configurationDone_failure setup (h.configuring hstart horder.2)
    (h.start_ne start hstart))

/-- The contract, for a request that was just received. -/
theorem dispatch_configurationDone_iff (setup : Setup) (answer : Answer)
    (h : State.Receiving request s) (hrunning : s.exited = false) :
    MeetsConfigurationDone request s
        (dispatch request (configurationDoneRequest setup request answer) s) ↔
      s.InOrder ∧ answer.Succeeds := by
  constructor
  · intro hmeets
    have horder : s.InOrder := by
      by_contra hno
      cases (exited_of_outOfOrder setup answer h hno).symm.trans hmeets.running
    refine ⟨horder, ?_⟩
    cases answer with
    | success body => exact ⟨body, rfl⟩
    | failure type reason cause =>
        cases (exited_of_failure setup h horder).symm.trans hmeets.running
    | disconnect text streamName =>
        exact absurd hmeets
          (not_meets_of_disconnect setup h horder (Or.inl ⟨rfl, rfl⟩))
    | ioError text streamName =>
        exact absurd hmeets
          (not_meets_of_disconnect setup h horder (Or.inr ⟨rfl, rfl⟩))
  · rintro ⟨horder, body, rfl⟩
    exact meets_of_success setup h hrunning horder

/-- **The contract is met if and only if** the request is in order, and the debug server answers
with a success. -/
theorem configurationDone_iff {setup : Setup} {answer : Answer} {outcomes : Outcomes}
    {cause : MessageId} (hs : (ide setup).Reachable s)
    (henabled : enabled s (.request request answer outcomes cause) = true)
    (hcommand : request.command = "configurationDone") :
    MeetsConfigurationDone request s (next setup s (.request request answer outcomes cause)) ↔
      s.InOrder ∧ answer.Succeeds := by
  have hrunning : s.exited = false := running_of_enabled henabled
  have hid : request.id = s.received := by
    simp only [enabled, Bool.and_eq_true, decide_eq_true_eq] at henabled
    exact henabled.1.2
  have hreceiving := (live_of_reachable hs hrunning).receiving hid
  have hdispatch := dispatch_configurationDone_iff setup answer hreceiving hrunning
  have hnext : next setup s (.request request answer outcomes cause) =
      dispatch request (configurationDoneRequest setup request answer)
        { s with received := s.received + 1 } := by
    simp [next, handler, hcommand]
  rw [hnext]
  -- the number of requests received does not matter
  constructor
  · intro h
    exact hdispatch.mp ⟨h.response, h.start, h.outOfOrder, h.running⟩
  · intro h
    obtain ⟨hresponse, hstart, houtOfOrder, hend⟩ := hdispatch.mpr h
    exact ⟨hresponse, hstart, houtOfOrder, hend⟩

/-- When the IDE has attached to the debug server, the configuration can be finished. -/
theorem configurationDone_attached :
    MeetsConfigurationDone (ideRequest 2 "configurationDone" []) (after attaching)
      (next localSetup (after attaching) (served (ideRequest 2 "configurationDone" []))) :=
  (configurationDone_iff (reachable_after (by decide)) (by decide) rfl).mpr
    ⟨by decide, .dict [], rfl⟩

/-- The first request of a session may be "configurationDone"; the process does not survive
it. -/
theorem not_meetsConfigurationDone :
    ¬ ∀ (setup : Setup) (s : State) (request : Request) (answer : Answer) (outcomes : Outcomes)
        (cause : MessageId), (ide setup).Reachable s →
        enabled s (.request request answer outcomes cause) = true →
        request.command = "configurationDone" →
        MeetsConfigurationDone request s
          (next setup s (.request request answer outcomes cause)) := by
  intro hall
  have hmeets := hall localSetup initial (ideRequest 0 "configurationDone" [])
    (.success (.dict [])) quickOutcomes 0 (Machine.Reachable.of_start rfl) (by decide) rfl
  have hexited : (next localSetup initial
      (served (ideRequest 0 "configurationDone" []))).exited = true := by decide
  cases hexited.symm.trans hmeets.running

end IDE

end Ptvsd
