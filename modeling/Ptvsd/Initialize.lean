import Ptvsd.IDERuns

/-!
# One Initialization, One Start

A session is to be initialized once and started once: one "initialize" request succeeds, and
the ones after it are rejected; one "launch" or "attach" request is carried out, after that.

What says whether the session is initialized is `_initialize_request`, which a start request
forgets when the debug server has got it. From then on, "initialize" succeeds once more.

## Main results

* `initialize_within`: in a run without an "initialize" request that arrives after that,
  **one "initialize" request succeeds and one start request is carried out**, in this order, and
  every "initialize" request after the first one is rejected.
-/

namespace Ptvsd

namespace IDE

open Program

variable {request : Request} {s s' : State}

/-! ### The contract -/

/-- The "initialize" requests that succeeded. -/
def State.initialized (s : State) : List (ℕ × SentResponse) :=
  s.written.filter fun p => p.2.command = "initialize" ∧ p.2.success = true

/-- A request that starts the session. -/
def IsStart (request : Request) : Prop :=
  request.command = "launch" ∨ request.command = "attach"

/-- Something was sent to the launcher or to the debug server for a start request. -/
structure State.CarriesOut (s : State) (start : Request) (m : Outgoing) : Prop where
  sent : m ∈ s.sent
  origin : m.origin = start
  isStart : IsStart start
  receiver : m.receiver ≠ .ide

/-- **One initialization, and then one start.** -/
structure State.Orderly (s : State) : Prop where
  initialized : s.initialized.length ≤ 1
  /-- A start request is carried out after the session was initialized. -/
  after : ∀ start m, s.CarriesOut start m → ∃ p ∈ s.initialized, p.2.request < start.id
  once : ∀ start start' m m', s.CarriesOut start m → s.CarriesOut start' m' → start = start'

/-- The response to an "initialize" request that is not the first one. -/
structure Rejected (request : Request) (s : State) : Prop where
  response : ∃ p, s.responsesTo request.id = [p] ∧ p.2.success = false ∧
    p.2.message = some (invalidMessagePrefix ++ "Session is already initialized")

/-- **The condition of a run**: an "initialize" request arrives before the debug server has
got the first one. -/
def Remembers (s : State) : Action → Prop
  | .request request _ _ _ => request.command = "initialize" →
      s.initializeRequest.isSome = true ∨ s.server = none
  | _ => True

/-! ### `initialize_request` -/

/-- The failure response of `isnt_valid()` or `cant_handle()`. -/
theorem State.written_failed (s : State) (request : Request) (type : ErrorType)
    (reason : String) : ∃ p : ℕ × SentResponse,
      (s.failed request type reason).written = s.written ++ [p] ∧
      p.2.request = request.id ∧ p.2.success = false ∧
      p.2.message = some (PyException.handlingError type reason request.id).str := by
  have hfailure : ((s.view request.id).alloc (.exception (.handlingError type reason
      request.id))).failure (.object s.objects.length) =
        some (.handlingError type reason request.id) := World.exception?_alloc _
  exact ⟨_, rfl, rfl, by simp [responseJson, hfailure], by simp [responseJson, hfailure]⟩

/-- **How `initialize_request` ends.** -/
inductive InitializeEnd (request : Request) (s : State) : Except ObjectId Value → State → Prop
  /-- It is responded to, with the failure for this reason. -/
  | rejected {e : ObjectId} {s' : State} {p : ℕ × SentResponse} (reason : String) :
      s'.initializeRequest = s.initializeRequest → s'.written = s.written ++ [p] →
      p.2.request = request.id → p.2.success = false →
      p.2.message = some (invalidMessagePrefix ++ reason) →
      (s'.responses request.id).isSome = true →
      (s.initializeRequest.isSome = true → reason = "Session is already initialized") →
      InitializeEnd request s (.error e) s'
  /-- It raises an exception that nobody provides for. -/
  | fatal {e : ObjectId} {s' : State} {exc : PyException} : s.initializeRequest = none →
      s'.initializeRequest = none → s'.written = s.written →
      (s'.view request.id).exception? e = some exc → ¬ exc.Convertible →
      InitializeEnd request s (.error e) s'
  | accepted {id : ObjectId} {s' : State} : s.initializeRequest = none →
      s'.initializeRequest = some request → s'.written = s.written → s'.closed = false →
      s'.responses request.id = none → (s'.view request.id).failure (.object id) = none →
      InitializeEnd request s (.ok (.object id)) s'

theorem exec_raiseIsntValid {α : Type} {reason : String} (hclosed : s.closed = false)
    (hnone : s.responses request.id = none) :
    (raiseIsntValid request reason : Handler α).exec s =
      (.error s.objects.length, s.failed request .invalidMessageError reason) :=
  exec_bind_ok (exec_on_error hclosed hnone)

/-- A part that reads the arguments changes nothing, or makes `initialize_request` end. -/
theorem initializeEnd_parse {α : Type} {y : Except PyError α} {f : α → Handler Value}
    {t : State} (hinit : t.initializeRequest = none) (hinit' : s.initializeRequest = none)
    (hwritten : t.written = s.written) (hclosed : t.closed = false)
    (hnone : t.responses request.id = none)
    (hf : ∀ a, y = .ok a → (f a).Ends t (InitializeEnd request s)) :
    (parse request y >>= f).Ends t (InitializeEnd request s) := by
  cases y with
  | ok a => exact Ends.bind_ok rfl (hf a rfl)
  | error e =>
      have hfatal : ∀ exc, ¬ exc.Convertible →
          (raise request exc >>= f : Handler Value).Ends t (InitializeEnd request s) := by
        intro exc hexc
        exact Ends.bind_error (exec_ideRaise _)
          (.fatal hinit' hinit hwritten exception?_alloc hexc)
      cases e with
      | invalidMessage reason cause =>
          obtain ⟨p, hp, hrequest, hsuccess, hmessage⟩ :=
            t.written_failed request .invalidMessageError reason
          refine Ends.bind_error (exec_raiseIsntValid hclosed hnone)
            (.rejected reason (hinit.trans hinit'.symm) ?_ hrequest hsuccess hmessage ?_ ?_)
          · rw [hp, hwritten]
          · simp [State.failed, State.update, World.answered]
          · simp [hinit']
      | typeError | valueError | attributeError | assertionError | messageHandling =>
          exact hfatal _ not_false

theorem initializeRequest_end (hclosed : s.closed = false)
    (hnone : s.responses request.id = none) :
    (initializeRequest request).Ends s (InitializeEnd request s) := by
  refine Ends.bind_ok exec_get ?_
  by_cases hsome : s.initializeRequest.isSome = true
  · rw [if_pos hsome]
    obtain ⟨p, hp, hrequest, hsuccess, hmessage⟩ :=
      s.written_failed request .invalidMessageError "Session is already initialized"
    refine Ends.of_exec (exec_raiseIsntValid hclosed hnone)
      (.rejected _ rfl hp hrequest hsuccess hmessage ?_ fun _ => rfl)
    simp [State.failed, State.update, World.answered]
  · have hinit : s.initializeRequest = none := Option.not_isSome_iff_eq_none.mp hsome
    rw [if_neg hsome]
    simp only [readInitialize, bind_assoc]
    refine initializeEnd_parse hinit hinit rfl hclosed hnone fun clientId _ =>
      Ends.bind_ok exec_modify ?_
    refine @initializeEnd_parse request s _ _ _ { s with clientId := clientId } hinit hinit rfl
      hclosed hnone fun flags _ => Ends.bind_ok exec_modify ?_
    refine @initializeEnd_parse request s _ _ _
      { s with clientId := clientId, capabilities := flags } hinit hinit rfl hclosed hnone
      fun expectations _ => Ends.bind_ok exec_modify (Ends.bind_ok (exec_on_new _ _) (ends_pure ?_))
    refine .accepted hinit rfl rfl hclosed ((if_pos rfl).trans hnone) ?_
    rw [State.view_update]
    exact World.failure_alloc_payload _ _

/-- **What an "initialize" request comes to**: it is accepted, or nothing but a failure is
written. -/
theorem dispatch_initialize (hclosed : s.closed = false) (hnone : s.responses request.id = none)
    {d : State} (hd : d = dispatch request (initializeRequest request) s) :
    d.initializeRequest = s.initializeRequest ∧ (∃ l, d.written = s.written ++ l ∧
        ∀ p ∈ l, p.2.success = false) ∧ (s.initializeRequest.isSome = true → ∃ p,
          d.written = s.written ++ [p] ∧ p.2.request = request.id ∧ p.2.success = false ∧
          p.2.message = some (invalidMessagePrefix ++ "Session is already initialized")) ∨
      s.initializeRequest = none ∧ d.initializeRequest = some request ∧ ∃ p : ℕ × SentResponse,
        d.written = s.written ++ [p] ∧ p.2.request = request.id ∧
          p.2.command = request.command ∧ p.2.success = true := by
  obtain ⟨r, s', hend, hdispatch⟩ := @dispatch_cases request s _ _
    (initializeRequest_end hclosed hnone)
  rw [hdispatch] at hd
  cases hend with
  | @rejected e s' p reason hinit hwritten hrequest hsuccess hmessage hresponse halready =>
      -- nothing is written after the response
      have hkeeps : d.written = s'.written ∧ d.initializeRequest = s'.initializeRequest := by
        rw [hd]
        obtain ⟨t, ht, heq | heq⟩ := @keeps_settleState request (.error e) s'
        · rw [heq]
          exact ⟨(ht.view.answered hresponse).2, ht.initializeRequest⟩
        · rw [heq]
          exact ⟨(ht.view.answered hresponse).2, ht.initializeRequest⟩
      refine Or.inl ⟨hkeeps.2.trans hinit, ⟨_, hkeeps.1.trans hwritten, ?_⟩, fun hsome => ?_⟩
      · intro p hp
        rw [List.mem_singleton.mp hp]
        exact hsuccess
      · rw [halready hsome] at hmessage
        exact ⟨_, hkeeps.1.trans hwritten, hrequest, hsuccess, hmessage⟩
  | fatal hinit hinit' hwritten hid hexc =>
      have hsettle := @settle_fatal request.toIncomingRequest (s'.view request.id) _ _ hid hexc
      refine Or.inl ⟨?_, ⟨[], ?_, by simp⟩, by simp [hinit]⟩
      · rw [hd, hinit]
        exact hinit'
      · rw [hd, List.append_nil]
        exact hsettle.2.1.trans hwritten
  | @accepted id s' hinit hinit' hwritten hclosed' hnone' hfailure =>
      have hsettle := @settle_object request.toIncomingRequest (s'.view request.id) id
        ⟨hclosed', hnone'⟩
      refine Or.inr ⟨hinit, ?_, (s'.seqIter, responseJson request.toIncomingRequest
        (s'.view request.id) (.object id)), ?_, rfl, rfl, ?_⟩
      · rw [hd]
        exact hinit'
      · rw [hd, ← hwritten]
        exact congrArg World.written hsettle
      · simp [responseJson, hfailure]

/-! ### Other requests -/

theorem State.initialized_of_written {l : List (ℕ × SentResponse)}
    (hl : s'.written = s.written ++ l)
    (hmem : ∀ p ∈ l, p.2.command ≠ "initialize" ∨ p.2.success = false) :
    s'.initialized = s.initialized := by
  rw [initialized, initialized, hl, List.filter_append]
  have hnil : (l.filter fun p => p.2.command = "initialize" ∧ p.2.success = true) = [] := by
    refine List.filter_eq_nil_iff.mpr fun p hp => ?_
    rcases hmem p hp with hne | hfalse
    · simp [hne]
    · simp [hfalse]
  rw [hnil, List.append_nil]

/-- What is written for another request is no response to "initialize". -/
theorem initialized_dispatch {f : Handler Value} (hcommand : request.command ≠ "initialize")
    (hf : f.Ends s fun _ s' => ∃ l, s'.written = s.written ++ l ∧
      ∀ p ∈ l, p.2.command ≠ "initialize") :
    (dispatch request f s).initialized = s.initialized := by
  obtain ⟨r, s', ⟨l, hl, hmem⟩, hdispatch⟩ := @dispatch_cases request s f _ hf
  obtain ⟨t, ht, heq⟩ := @keeps_settleState request r s'
  obtain ⟨l', hl', hmem'⟩ := ht.view.written
  have hwritten : (dispatch request f s).written = s.written ++ (l ++ l') := by
    rw [hdispatch, ← List.append_assoc, ← hl]
    rcases heq with heq | heq
    · rw [heq]
      exact hl'
    · rw [heq]
      exact hl'
  refine State.initialized_of_written hwritten fun p hp => Or.inl ?_
  rcases List.mem_append.mp hp with hp | hp
  · exact hmem p hp
  · rw [(hmem' p hp).2]
    exact hcommand

/-- **The invariant**: the session is orderly, and its fields say how far it is. -/
structure State.Tracked (s : State) : Prop extends State.Orderly s where
  accepted : s.initializeRequest.isSome = true → s.initialized ≠ []
  remembered : s.initialized ≠ [] → s.initializeRequest.isSome = true ∨ s.server.isSome = true
  started : ∀ start m, s.CarriesOut start m → s.Started

/-- A step that carries out no start request, and in which no "initialize" request succeeds. -/
theorem State.Tracked.of_other (h : s.Tracked) (hinitialized : s'.initialized = s.initialized)
    (hinit : s'.initializeRequest.isSome = true → s.initializeRequest.isSome = true)
    (hkept : s.initializeRequest.isSome = true → s'.initializeRequest.isSome = true ∨
      s'.server.isSome = true)
    (hserver : s.server.isSome = true → s'.server.isSome = true) (hstarted : s.Started → s'.Started)
    (hsent : ∀ start m, s'.CarriesOut start m → s.CarriesOut start m) : s'.Tracked where
  initialized := by
    rw [hinitialized]
    exact h.initialized
  after start m hm := by
    rw [hinitialized]
    exact h.after start m (hsent start m hm)
  once start start' m m' hm hm' := h.once start start' m m' (hsent _ _ hm) (hsent _ _ hm')
  accepted hsome := by
    rw [hinitialized]
    exact h.accepted (hinit hsome)
  remembered hne := by
    rw [hinitialized] at hne
    rcases h.remembered hne with hsome | hsome
    · exact hkept hsome
    · exact Or.inr (hserver hsome)
  started start m hm := hstarted (h.started start m (hsent start m hm))

/-- What is sent for another request carries out no start request. -/
theorem CarriesOut.of_sent {l : List Outgoing} (hl : s'.sent = s.sent ++ l)
    (hmem : ∀ m ∈ l, m.origin = request) (hcommand : ¬ IsStart request) {start : Request}
    {m : Outgoing} (h : s'.CarriesOut start m) : s.CarriesOut start m := by
  refine ⟨?_, h.origin, h.isStart, h.receiver⟩
  rcases List.mem_append.mp (hl ▸ h.sent) with hm | hm
  · exact hm
  · exact absurd ((hmem m hm).symm.trans h.origin ▸ h.isStart) hcommand

/-! ### Start requests -/

/-- Responses are written for the requests that were received. -/
theorem request_lt_of_written (h : s.Answers) {p : ℕ × SentResponse} (hp : p ∈ s.written) :
    p.2.request < s.received := by
  by_contra hge
  have hnil := responsesTo_nil h (h.fresh p.2.request (Nat.not_lt.mp hge))
  have hmem : p ∈ s.responsesTo p.2.request := by simp [State.responsesTo, hp]
  rw [hnil] at hmem
  cases hmem

/-- **A start request is carried out** after the initialization, and only once. -/
theorem State.Tracked.dispatch_start {f : List String → Handler PUnit} (setup : Setup)
    (outcomes : Outcomes) (cause : MessageId) (h : s.Tracked) (hlive : State.Receiving request s)
    (hlt : ∀ p ∈ s.written, p.2.request < request.id) (hcommand : IsStart request)
    (hf : ∀ o, Within (State.Keeps request) (f o))
    (hstarts : ∀ o s, (f o).Ends s fun r s' => r = .ok ⟨⟩ → s.noDebug = true → s'.Started) :
    (dispatch request (startMessageHandler setup request outcomes f cause) s).Tracked := by
  have hne : request.command ≠ "initialize" := by
    rcases hcommand with hcommand | hcommand
    · simp [hcommand]
    · simp [hcommand]
  have hends := startMessageHandler_ends setup outcomes cause hf hstarts hlive.closed
  have hinitialized := initialized_dispatch hne (hends.mono fun r s' hs' => by
    obtain ⟨l, hl, hmem⟩ := hs'.1.view.written
    exact ⟨l, hl, fun p hp => (hmem p hp).2 ▸ hne⟩)
  obtain ⟨hserves, hinit, -⟩ := hends
  set d := dispatch request (startMessageHandler setup request outcomes f cause) s with hd
  have hinit' : d.initializeRequest = s.initializeRequest ∨
      d.initializeRequest = none ∧ d.server.isSome = true := hinit
  have hkept : s.initializeRequest.isSome = true → d.initializeRequest.isSome = true ∨
      d.server.isSome = true := by
    intro hsome
    rcases hinit' with hsame | ⟨-, hserver⟩
    · exact Or.inl (hsame ▸ hsome)
    · exact Or.inr hserver
  have hback : d.initializeRequest.isSome = true → s.initializeRequest.isSome = true := by
    intro hsome
    rcases hinit' with hsame | ⟨hnone, -⟩
    · exact hsame ▸ hsome
    · simp [hnone] at hsome
  have hserver : s.server.isSome = true → d.server.isSome = true := by
    intro hsome
    have heq : d.server = s.server := hserves.server hsome
    rw [heq]
    exact hsome
  have hstarted : s.Started → d.Started := hserves.started
  rcases startMessageHandler_checks setup outcomes cause s (f := f) with
    ⟨hsome, hunstarted⟩ | ⟨e, w, -, hs'⟩
  · -- nothing was carried out before
    obtain ⟨l, hl, hmem⟩ := hserves.sent
    have hnew : ∀ start m, d.CarriesOut start m → start = request ∧ d.Started := by
      intro start m hm
      have hsent : m ∈ s.sent ++ l := hl ▸ hm.sent
      rcases List.mem_append.mp hsent with hold | hnew
      · exact absurd (h.started start m ⟨hold, hm.origin, hm.isStart, hm.receiver⟩) hunstarted
      · exact ⟨hm.origin.symm.trans (hmem m hnew).1, (hmem m hnew).2 hm.receiver⟩
    refine ⟨⟨?_, fun start m hm => ?_, fun start start' m m' hm hm' => ?_⟩, fun hsome' => ?_,
      fun hne' => ?_, fun start m hm => (hnew start m hm).2⟩
    · rw [hinitialized]
      exact h.initialized
    · obtain ⟨p, hp⟩ := List.exists_mem_of_ne_nil _ (h.accepted hsome)
      refine ⟨p, hinitialized ▸ hp, ?_⟩
      rw [(hnew start m hm).1]
      exact hlt p (List.mem_of_mem_filter hp)
    · rw [(hnew start m hm).1, (hnew start' m' hm').1]
    · rw [hinitialized]
      exact h.accepted hsome
    · exact hkept hsome
  · -- the request is rejected, and nothing is sent
    have hsent : d.sent = s.sent := (congrArg State.sent hs' :)
    refine h.of_other hinitialized hback hkept hserver hstarted fun start m hm => ?_
    exact ⟨hsent ▸ hm.sent, hm.origin, hm.isStart, hm.receiver⟩

/-- Any other request. -/
theorem State.Tracked.dispatch_acts {f : Handler Value} (h : s.Tracked)
    (hlive : State.Receiving request s) (hstart : ¬ IsStart request)
    (hinit : request.command ≠ "initialize")
    (hf : f.Ends s fun _ s' => s.Acts request s') : (dispatch request f s).Tracked := by
  have hinitialized := initialized_dispatch hinit (hf.mono fun r s' hs' => by
    obtain ⟨l, hl, hmem⟩ := hs'.written
    refine ⟨l, hl, fun p hp => ?_⟩
    rcases hmem p hp with heq | ⟨start, hsome, heq⟩
    · rw [heq]
      exact hinit
    · rcases (hlive.start start hsome).2.2 with hcommand | hcommand
      · simp [heq, hcommand]
      · simp [heq, hcommand])
  have hsame : (dispatch request f s).initializeRequest = s.initializeRequest :=
    hf.initializeRequest
  obtain ⟨l, hl, hmem⟩ := hf.sent
  refine h.of_other hinitialized (fun hsome => hsame ▸ hsome)
    (fun hsome => Or.inl (hsame.symm ▸ hsome)) hf.server hf.started fun start m hm => ?_
  have hsent : (dispatch request f s).sent = s.sent ++ l := hl
  exact CarriesOut.of_sent hsent hmem hstart hm

/-- **An "initialize" request** that comes in time. -/
theorem tracked_initialize (h : s.Tracked) (hlive : State.Receiving request s)
    (hcommand : request.command = "initialize")
    (hremembers : s.initializeRequest.isSome = true ∨ s.server = none) :
    (dispatch request (initializeRequest request) s).Tracked := by
  have hends := @initializeRequest_ends request s
  set d := dispatch request (initializeRequest request) s with hd
  have hresult := dispatch_initialize hlive.closed hlive.response hd
  have hsent : d.sent = s.sent := hends.sent
  have hlauncher : d.launcher = s.launcher := hends.launcher
  have hserver : d.server = s.server := hends.server
  have hstarted : s.Started → d.Started := by
    rw [State.Started, State.Started, hlauncher, hserver]
    exact id
  have hcarries : ∀ start m, d.CarriesOut start m → s.CarriesOut start m :=
    fun start m hm => ⟨hsent ▸ hm.sent, hm.origin, hm.isStart, hm.receiver⟩
  rcases hresult with ⟨hsame, ⟨l, hl, hfails⟩, -⟩ | ⟨hnone, hset, p, hp, -, hpcommand, hsuccess⟩
  · refine h.of_other (State.initialized_of_written hl fun p hp => Or.inr (hfails p hp))
      (fun hsome => hsame ▸ hsome) (fun hsome => Or.inl (hsame.symm ▸ hsome))
      (fun hsome => hserver.symm ▸ hsome) hstarted hcarries
  · -- no "initialize" request has succeeded before
    have hnil : s.initialized = [] := by
      by_contra hne
      rcases h.remembered hne with hsome | hsome
      · simp [hnone] at hsome
      · rcases hremembers with hsome' | hserver'
        · simp [hnone] at hsome'
        · simp [hserver'] at hsome
    have hone : d.initialized = [p] := by
      rw [State.initialized, hp, List.filter_append]
      have hfirst : s.written.filter (fun p => p.2.command = "initialize" ∧ p.2.success = true) =
          [] := hnil
      rw [hfirst]
      simp [hpcommand, hcommand, hsuccess]
    refine ⟨⟨by rw [hone]; rfl, fun start m hm => ?_, fun start start' m m' hm hm' => ?_⟩,
      fun _ => by simp [hone], fun _ => Or.inl (Option.isSome_of_eq_some hset),
      fun start m hm => hstarted (h.started start m (hcarries start m hm))⟩
    · obtain ⟨p, hp, -⟩ := h.after start m (hcarries start m hm)
      simp [hnil] at hp
    · exact h.once start start' m m' (hcarries _ _ hm) (hcarries _ _ hm')

/-- **Every step keeps the invariant**, if no "initialize" request comes too late. -/
theorem tracked_next (setup : Setup) {a : Action} (h : s.Tracked) (hlive : s.Live)
    (henabled : enabled s a = true) (hremembers : Remembers s a) : (next setup s a).Tracked := by
  cases a with
  | request request answer outcomes cause =>
      simp only [enabled, Bool.and_eq_true, decide_eq_true_eq] at henabled
      have hid := henabled.1.2
      have hreceiving := hlive.receiving hid
      have htracked : ({ s with received := s.received + 1 } : State).Tracked :=
        h.of_other rfl id Or.inl id id fun start m hm =>
          ⟨hm.sent, hm.origin, hm.isStart, hm.receiver⟩
      have hlt : ∀ p ∈ s.written, p.2.request < request.id := by
        intro p hp
        rw [hid]
        exact request_lt_of_written hlive.answers hp
      simp only [next, handler]
      split_ifs with hinit hlaunch hattach hconfigured
      · exact tracked_initialize htracked hreceiving hinit (hremembers hinit)
      · exact htracked.dispatch_start setup outcomes cause hreceiving hlt (Or.inl hlaunch)
          (keeps_launch setup outcomes) (launch_starts setup outcomes)
      · exact htracked.dispatch_start setup outcomes cause hreceiving hlt (Or.inr hattach)
          (fun _ => keeps_attach setup outcomes) fun _ => attach_starts setup outcomes
      · exact htracked.dispatch_acts hreceiving (by simp [IsStart, hlaunch, hattach]) hinit
          (acts_configurationDone setup answer _)
      · exact htracked.dispatch_acts hreceiving (by simp [IsStart, hlaunch, hattach]) hinit
          (acts_genericRequest answer _)
  | event request event =>
      obtain ⟨hcore, -⟩ := @propagateAfterStart_ends request event s hlive.closed
      set s' := next setup s (.event request event) with hs'
      have hwritten : s'.written = s.written := (congrArg State.written hcore :)
      have hinit : s'.initializeRequest = s.initializeRequest :=
        (congrArg State.initializeRequest hcore :)
      have hlauncher : s'.launcher = s.launcher := (congrArg State.launcher hcore :)
      have hserver : s'.server = s.server := (congrArg State.server hcore :)
      have hsent : s'.sent = s.sent := (congrArg State.sent hcore :)
      refine h.of_other (congrArg (List.filter _) hwritten) (fun hsome => hinit ▸ hsome)
        (fun hsome => Or.inl (hinit.symm ▸ hsome)) (fun hsome => hserver.symm ▸ hsome) ?_
        fun start m hm => ⟨hsent ▸ hm.sent, hm.origin, hm.isStart, hm.receiver⟩
      rw [State.Started, State.Started, hlauncher, hserver]
      exact id
  | connections connections =>
      exact h.of_other rfl id Or.inl id id fun start m hm =>
        ⟨hm.sent, hm.origin, hm.isStart, hm.receiver⟩

/-! ### Results -/

theorem invariant_tracked (setup : Setup) : (ide setup).InvariantWithin Remembers fun s =>
    s.Tracked ∧ (s.exited = false → s.Live) where
  start := by
    rintro s rfl
    refine ⟨⟨⟨Nat.zero_le _, ?_, ?_⟩, by simp [initial], by simp [State.initialized, initial],
      ?_⟩, (invariant_live setup).start rfl⟩
    · intro start m hm
      cases hm.sent
    · intro start start' m m' hm
      cases hm.sent
    · intro start m hm
      cases hm.sent
  step := by
    rintro s s' a ⟨htracked, hlive⟩ hremembers hstep
    obtain ⟨henabled, rfl⟩ := step_eq_some hstep
    have hlive' := hlive (running_of_enabled henabled)
    exact ⟨tracked_next setup htracked hlive' henabled hremembers, live_next setup hlive' henabled⟩

/-- An "initialize" request after the first one, if it comes in time, is rejected. -/
theorem rejected_of_remembers {setup : Setup} {answer : Answer} {outcomes : Outcomes}
    {cause : MessageId} (h : s.Tracked) (hlive : s.Live)
    (henabled : enabled s (.request request answer outcomes cause) = true)
    (hcommand : request.command = "initialize")
    (hremembers : Remembers s (.request request answer outcomes cause))
    (hne : s.initialized ≠ []) :
    Rejected request (next setup s (.request request answer outcomes cause)) := by
  have hsome : s.initializeRequest.isSome = true := by
    rcases h.remembered hne with hsome | hserver
    · exact hsome
    · refine (hremembers hcommand).resolve_right fun hnone => ?_
      simp [hnone] at hserver
  simp only [enabled, Bool.and_eq_true, decide_eq_true_eq] at henabled
  have hreceiving := hlive.receiving henabled.1.2
  have hnext : next setup s (.request request answer outcomes cause) =
      dispatch request (initializeRequest request) { s with received := s.received + 1 } := by
    simp [next, handler, hcommand]
  rcases dispatch_initialize hreceiving.closed hreceiving.response hnext with
    ⟨-, -, hrejected⟩ | ⟨hnone, -⟩
  · obtain ⟨p, hp, hrequest, hsuccess, hmessage⟩ := hrejected hsome
    have hnil := responsesTo_nil hreceiving.answers hreceiving.response
    refine ⟨p, ?_, hsuccess, hmessage⟩
    rw [State.responsesTo_of_written hp, hnil]
    simp [hrequest]
  · have hnone' : s.initializeRequest = none := hnone
    simp [hnone'] at hsome

/-- **In a run without an "initialize" request that comes too late**, one "initialize" request
succeeds, every other one is rejected, and after it one start request is carried out. -/
theorem initialize_within {setup : Setup} (hs : (ide setup).ReachableWithin Remembers s) :
    s.Orderly ∧ ∀ (request : Request) (answer : Answer) (outcomes : Outcomes)
      (cause : MessageId), enabled s (.request request answer outcomes cause) = true →
      request.command = "initialize" → Remembers s (.request request answer outcomes cause) →
      s.initialized ≠ [] →
      Rejected request (next setup s (.request request answer outcomes cause)) := by
  obtain ⟨htracked, hlive⟩ := (invariant_tracked setup).of_reachable hs
  exact ⟨htracked.toOrderly, fun request answer outcomes cause henabled hcommand hremembers hne =>
    rejected_of_remembers htracked (hlive (running_of_enabled henabled)) henabled hcommand
      hremembers hne⟩

/-- The second of two "initialize" requests in a row is rejected. -/
theorem initialize_within_initializing :
    (after initializing).Orderly ∧ Rejected (ideRequest 1 "initialize" [])
      (next localSetup (after initializing) (served (ideRequest 1 "initialize" []))) := by
  have hremembers : Remembers initial
      (served (ideRequest 0 "initialize" [("pathFormat", .str "path")])) := fun _ => Or.inr rfl
  have hreachable : (ide localSetup).ReachableWithin Remembers (after initializing) :=
    (Machine.ReachableWithin.start rfl).step hremembers rfl
  obtain ⟨horderly, hrejected⟩ := initialize_within hreachable
  exact ⟨horderly, hrejected _ _ _ _ (by decide) rfl (fun _ => Or.inl (by decide)) (by decide)⟩

/-- After "attach", the session can be initialized again. -/
theorem not_orderly : ¬ ∀ (setup : Setup) (s : State), (ide setup).Reachable s → s.Orderly := by
  intro hall
  have hlength := (hall localSetup (after (attaching ++
    [served (ideRequest 2 "initialize" [("pathFormat", .str "path")])]))
    (reachable_after (by decide))).initialized
  exact absurd hlength (by decide)

end IDE

end Ptvsd
