import Ptvsd.ConfigurationDone

/-!
# What "attach" Promises

An "attach" request that the state check lets pass is to get one response, at once or with
"configurationDone". If the connection that it finds is being debugged already, it is to fail,
and neither session is to be affected.

The body of the handler does not raise what `cant_handle()` returns for such a connection, and
the common code that follows it fails once more, as there is no debug server.

## Main results

* `attach_iff`: all this holds **if and only if** the arguments of the request are an object, the
  process ID is of a type that it may have, if it is looked at, the connection that the request
  finds, if any, belongs to no session, and the debug server behind it does not make
  `Server.initialize` raise an exception that nobody provides for.
-/

namespace Ptvsd

namespace IDE

open Program

variable {request : Request} {s s' : State}

/-! ### The connection -/

section Found

variable (setup : Setup) (request : Request) (outcomes : Outcomes)

/-- The options and the target of a request whose arguments are valid. -/
def readAttach : Option (List String × Target) :=
  match request.call "noDebug" (.default (.bool false)), request.call "debugOptions" .texts,
    attachTarget setup request with
  | .ok noDebug, .ok debugOptions, .ok target =>
      if noDebug.toBool then none else some (debugOptions.toTexts.dedup, target)
  | _, _, _ => none

/-- `servers.inject` is called, and raises. -/
def Target.injectFails (target : Target) : Bool := target.inject.isSome && outcomes.inject.isSome

/-- The connection that the request is for: the first one in the list, or the one that
arrives. -/
def State.found (s : State) : Option Connection :=
  match readAttach setup request with
  | some (_, target) =>
      if target.injectFails outcomes then none
      else (s.waitForConnection outcomes target.pred target.timeout).1
  | none => none

/-- `authenticate` raises a `RuntimeError` or a `TypeError`. -/
def Setup.rejects : Bool :=
  setup.tokens.configured && match outcomes.authorize with
    | .success (.dict items) =>
        match items.lookup "clientAccessToken" with
        | some token => !setup.tokens.matches? (some token)
        | none => false
    | .success _ => true
    | _ => false

/-- `authenticate` returns. -/
def Setup.authorizes : Bool :=
  !setup.tokens.configured || match outcomes.authorize with
    | .success (.dict items) =>
        match items.lookup "clientAccessToken" with
        | some token => setup.tokens.matches? (some token)
        | none => false
    | _ => false

/-- If there is a body, it is an object. -/
def Answer.hasObject : Answer → Bool
  | .success (.dict _) => true
  | .success _ => false
  | _ => true

end Found

/-! ### The contract -/

/-- A request is left to "configurationDone", which responds to it if the debug server has no
objections. -/
structure State.Awaits (setup : Setup) (request : Request) (s : State) : Prop where
  running : s.exited = false
  response : s.responsesTo request.id = []
  configured : ∀ done : Request, done.command = "configurationDone" →
    ∀ body outcomes cause, enabled s (.request done (.success body) outcomes cause) = true →
      ((next setup s (.request done (.success body) outcomes cause)).responsesTo
        request.id).length = 1

/-- **The contract of "attach"**, between the states before and after it. -/
structure MeetsAttach (setup : Setup) (request : Request) (outcomes : Outcomes)
    (s s' : State) : Prop where
  /-- It gets one response. -/
  response : (s'.responsesTo request.id).length = 1 ∨ s'.Awaits setup request
  /-- A connection that is being debugged already is left alone, and so is the session. -/
  owned : ∀ conn, s.found setup request outcomes = some conn → conn.server.isSome = true →
    s'.Fails request.id ∧ conn ∈ s'.connections ∧ s'.server = none ∧ s'.launcher = false ∧
      s'.startRequest = none ∧ s'.sent = s.sent ∧ s'.exited = false

/-- "processId" is looked at: what is read before it is valid, and debugging is asked for. -/
def ReadsTarget (request : Request) : Prop :=
  ∃ noDebug debugOptions, request.call "noDebug" (.default (.bool false)) = .ok noDebug ∧
    request.call "debugOptions" .texts = .ok debugOptions ∧ noDebug.toBool = false

/-- **When the contract is met.** -/
structure AttachesCleanly (setup : Setup) (request : Request) (outcomes : Outcomes)
    (s : State) : Prop where
  arguments : request.HasArguments
  processId : ReadsTarget request → ∃ pid, request.call "processId" processIdType = .ok pid
  unowned : ∀ conn, s.found setup request outcomes = some conn → conn.server = none
  server : ∀ conn, s.found setup request outcomes = some conn →
    setup.rejects outcomes = false ∧
      (setup.authorizes outcomes = true → outcomes.initialization.hasObject = true)

/-! ### Exceptions that are provided for -/

/-- The request is still open, or whatever is raised has a response, or will get one. -/
def Provides {α : Type} (request : Request) (r : Except ObjectId α) (s : State) : Prop :=
  match r with
  | .ok _ => s.closed = false ∧ s.responses request.id = none
  | .error e => (s.responses request.id).isSome = true ∨
      s.closed = false ∧ s.responses request.id = none ∧
        ∃ exc, (s.view request.id).exception? e = some exc ∧ exc.Convertible

/-- An exception that nobody provides for, before any response. -/
def Unprovided {α : Type} (request : Request) (r : Except ObjectId α) (s : State) : Prop :=
  s.responses request.id = none ∧
    ∃ e exc, r = .error e ∧ (s.view request.id).exception? e = some exc ∧ ¬ exc.Convertible

section Provides

variable {α β : Type} {x : Handler α} {f : α → Handler β}

theorem provides_bind (hx : x.Ends s (Provides request))
    (hf : ∀ a s', s'.closed = false → s'.responses request.id = none →
      (f a).Ends s' (Provides request)) : (x >>= f).Ends s (Provides request) :=
  hx.bind (fun a s' hs' => hf a s' hs'.1 hs'.2) fun _ _ hs' => hs'

/-- What is raised stays as it is. -/
theorem unprovided_bind (hx : x.Ends s (Unprovided request)) :
    (x >>= f).Ends s (Unprovided request) := by
  refine hx.bind ?_ ?_
  · rintro _ s' ⟨-, e, exc, hr, -⟩
    cases hr
  · rintro e s' ⟨hnone, e', exc, hr, hrest⟩
    obtain rfl := Except.error.inj hr
    exact ⟨hnone, _, exc, rfl, hrest⟩

variable (hclosed : s.closed = false) (hnone : s.responses request.id = none)

include hclosed hnone

theorem provides_pure (a : α) : (pure a : Handler α).Ends s (Provides request) :=
  ends_pure ⟨hclosed, hnone⟩

theorem provides_raise {exc : PyException} (hexc : exc.Convertible) :
    (raise request exc : Handler α).Ends s (Provides request) := by
  refine Ends.of_exec (exec_ideRaise exc) (Or.inr ⟨hclosed, ?_, exc, exception?_alloc, hexc⟩)
  exact (if_pos rfl).trans hnone

theorem provides_raiseError (type : ErrorType) (reason : String) :
    (do throw (← on request.id (error request.toIncomingRequest type reason)) :
      Handler α).Ends s (Provides request) := by
  refine Ends.bind_ok (exec_on_error hclosed hnone) (ends_throw (Or.inl ?_))
  simp [State.failed, State.update, World.answered]

theorem provides_parse {y : Except PyError α}
    (hy : ∀ e, y = .error e → ∃ reason cause, e = .invalidMessage reason cause) :
    (parse request y).Ends s (Provides request) := by
  cases y with
  | ok a => exact provides_pure hclosed hnone a
  | error e =>
      obtain ⟨reason, cause, rfl⟩ := hy e rfl
      exact provides_raiseError hclosed hnone _ _

theorem provides_channelRequest (receiver : Receiver) (command : String) (arguments : Json)
    (answer : Answer) :
    (channelRequest request receiver command arguments answer).Ends s (Provides request) := by
  refine Ends.bind_ok exec_get ?_
  split_ifs
  · exact provides_raise hclosed hnone trivial
  · exact provides_raise hclosed hnone trivial
  · refine Ends.bind_ok exec_modify ?_
    cases answer with
    | success body => exact ends_pure ⟨hclosed, hnone⟩
    | failure | disconnect | ioError => exact provides_raise (s := s.sends _) hclosed hnone trivial

omit hclosed hnone in
theorem provides_propagating (hx : x.Ends s (Provides request)) :
    (propagating request x).Ends s (Provides request) := by
  refine hx.tryCatch (fun a s' hs' => hs') fun e s' hs' => Ends.bind_ok exec_get ?_
  rcases hs' with hsome | ⟨hclosed', hnone', exc, hid, hexc⟩
  · -- the response stays, whatever is raised
    split
    · refine Ends.of_exec (exec_ideRaise _) (Or.inl ?_)
      exact (congrArg Option.isSome (if_pos rfl)).trans hsome
    · exact ends_throw (Or.inl hsome)
  · rw [hid]
    cases exc with
    | handlingError type reason cause => exact provides_raise hclosed' hnone' trivial
    | componentNotAvailable | jsonIOError | noMoreMessages =>
        exact ends_throw (Or.inr ⟨hclosed', hnone', _, hid, trivial⟩)
    | assertionError | other => exact hexc.elim

end Provides

/-! ### The arguments -/

/-- Every exception about a property is made by the request, if there are properties. -/
theorem call_error_invalidMessage {key : String} {validate : Validator} {e : PyError}
    (hargs : request.HasArguments) (hvalidate : validate.Lawful)
    (h : request.call key validate = .error e) :
    ∃ reason cause, e = .invalidMessage reason cause := by
  rcases Request.call_error hvalidate h with ⟨-, reason, rfl⟩ | ⟨hno, -⟩
  · exact ⟨_, _, rfl⟩
  · exact absurd hargs hno

/-- What is raised about a process ID of another type is not made by the request: formatting
the message fails. -/
theorem processId_error {e : PyError} (hargs : request.HasArguments)
    (h : request.call "processId" processIdType = .error e) : ∃ text, e = .attributeError text := by
  obtain ⟨items, hitems⟩ := hargs
  rw [Request.call, hitems] at h
  simp only [MessageDict.call] at h
  cases hvalue : MessageDict.get ⟨items, some request.id⟩ "processId" with
  | none => simp [hvalue, processIdType, Validator.ofClassInfo] at h
  | some value =>
      rw [hvalue, processIdType, Validator.ofClassInfo] at h
      split_ifs at h with haccepted hmissing
      · simp at hmissing
      · exact ⟨_, (Except.error.inj h).symm⟩

theorem attachTarget_error {setup : Setup} {e : PyError} (hargs : request.HasArguments)
    (hpid : ∃ pid, request.call "processId" processIdType = .ok pid)
    (h : attachTarget setup request = .error e) :
    ∃ reason cause, e = .invalidMessage reason cause := by
  have hbind : ∀ {α β : Type} {x : Except PyError α} {f : α → Except PyError β},
      x >>= f = .error e → x = .error e ∨ ∃ a, f a = .error e := by
    intro α β x f hx
    cases x with
    | error e' => exact Or.inl (congrArg Except.error (Except.error.inj hx))
    | ok a => exact Or.inr ⟨a, hx⟩
  unfold attachTarget at h
  rcases hbind h with h | ⟨pid, h⟩
  · obtain ⟨pid, hpid⟩ := hpid
    cases hpid.symm.trans h
  rcases hbind h with h | ⟨subPid, h⟩
  · exact call_error_invalidMessage hargs (ofType_lawful _ _) h
  cases pid with
  | some value =>
      simp only [] at h
      split_ifs at h
      · exact ⟨_, _, (Except.error.inj h).symm⟩
      · split at h
        · exact ⟨_, _, (Except.error.inj h).symm⟩
        · rcases hbind h with h | ⟨args, h⟩
          · exact call_error_invalidMessage hargs
              (Validator.array_lawful (ofType_lawful _ _) _ _) h
          · cases h
  | none =>
      cases subPid with
      | some value => cases h
      | none =>
          rcases hbind h with h | ⟨wait, h⟩
          · exact call_error_invalidMessage hargs (fun _ _ h => by cases h) h
          · cases h

/-- What is read is what the arguments say. -/
theorem parse_ends {α : Type} {y : Except PyError α} (hclosed : s.closed = false)
    (hnone : s.responses request.id = none)
    (hy : ∀ e, y = .error e → ∃ reason cause, e = .invalidMessage reason cause) :
    (parse request y).Ends s fun r s' =>
      Provides request r s' ∧ ∀ a, r = .ok a → y = .ok a ∧ s' = s := by
  refine (provides_parse hclosed hnone hy).and ?_
  cases y with
  | ok a =>
      refine ends_pure ?_
      rintro _ ⟨⟩
      exact ⟨rfl, rfl⟩
  | error e =>
      obtain ⟨reason, cause, rfl⟩ := hy e rfl
      refine (raiseIsntValid_raises reason s).mono ?_
      rintro r s' ⟨e, rfl⟩ a hr
      cases hr

/-- **The options**: what is read, or an exception that is provided for. -/
theorem readOptions_ends (hargs : request.HasArguments) (hclosed : s.closed = false)
    (hnone : s.responses request.id = none) :
    (readOptions request).Ends s fun r s' => Provides request r s' ∧
      ∀ options, r = .ok options → ∃ noDebug debugOptions,
        request.call "noDebug" (.default (.bool false)) = .ok noDebug ∧
        request.call "debugOptions" .texts = .ok debugOptions ∧
        options = debugOptions.toTexts.dedup ∧
        s' = { s with noDebug := noDebug.toBool, debugOptions := options } := by
  refine (parse_ends hclosed hnone fun e he =>
    call_error_invalidMessage hargs (Validator.default_lawful _) he).bind ?_
    fun e s' hs' => ⟨hs'.1, by simp⟩
  rintro noDebug s₁ ⟨-, hs₁⟩
  obtain ⟨hnoDebug, rfl⟩ := hs₁ noDebug rfl
  refine Ends.bind_ok exec_modify ?_
  refine (@parse_ends request { s₁ with noDebug := noDebug.toBool } _ _ hclosed hnone fun e he =>
    call_error_invalidMessage hargs (Validator.array_lawful (ofType_lawful _ _) _ _) he).bind ?_
    fun e s' hs' => ⟨hs'.1, by simp⟩
  rintro debugOptions s₂ ⟨-, hs₂⟩
  obtain ⟨hoptions, rfl⟩ := hs₂ debugOptions rfl
  refine Ends.bind_ok exec_modify (ends_pure ⟨⟨hclosed, hnone⟩, ?_⟩)
  rintro _ ⟨⟩
  exact ⟨noDebug, debugOptions, hnoDebug, hoptions, rfl, rfl⟩

/-! ### The body -/

section Body

variable {setup : Setup} {outcomes : Outcomes} {noDebug debugOptions : Property}

theorem exec_injectServer {target : Target} (h : target.injectFails outcomes = false) :
    (injectServer request outcomes target).exec s = (.ok ⟨⟩, s) := by
  unfold injectServer
  split
  · next hp hexc => simp [Target.injectFails, hp, hexc] at h
  · rfl

/-- The state after the wait for a connection. -/
def State.waiting (s : State) (outcomes : Outcomes) (target : Target) : State :=
  { s with connections := (s.waitForConnection outcomes target.pred target.timeout).2 }

theorem exec_waitForConnection {target : Target} {conn : Option Connection}
    (h : (s.waitForConnection outcomes target.pred target.timeout).1 = conn) :
    (waitForConnection outcomes target.pred target.timeout).exec s =
      (.ok conn, s.waiting outcomes target) := by
  rw [waitForConnection, exec_bind_ok exec_get, exec_bind_ok exec_modify, h]
  rfl

/-- The connection is in the list after the wait. -/
theorem mem_waiting {target : Target} {conn : Connection}
    (h : (s.waitForConnection outcomes target.pred target.timeout).1 = some conn) :
    conn ∈ (s.waiting outcomes target).connections := by
  unfold State.waiting
  revert h
  unfold State.waitForConnection
  split
  · next conn' _ hfind =>
      rintro ⟨⟩
      exact List.mem_of_find?_eq_some hfind
  · rintro ⟨⟩
    exact List.mem_append_right _ (List.mem_singleton_self _)
  · rintro ⟨⟩
  · split_ifs
    · rintro ⟨⟩
      exact List.mem_append_right _ (List.mem_singleton_self _)
    · rintro ⟨⟩

/-- **If there is no connection**, the body raises an exception that is provided for. -/
theorem attach_notFound (hargs : request.HasArguments) (hclosed : s.closed = false)
    (hnone : s.responses request.id = none)
    (hnoDebug : request.call "noDebug" (.default (.bool false)) = .ok noDebug)
    (hoptions : request.call "debugOptions" .texts = .ok debugOptions)
    (hs : s.noDebug = noDebug.toBool)
    (hpid : ReadsTarget request → ∃ pid, request.call "processId" processIdType = .ok pid)
    (hfound : s.found setup request outcomes = none) :
    (attach setup request outcomes).Ends s fun r s' =>
      Provides request r s' ∧ ∃ e, r = .error e := by
  refine Ends.bind_ok exec_get ?_
  cases hno : s.noDebug with
  | true =>
      rw [if_pos rfl]
      exact (provides_raiseError hclosed hnone _ _).and (raiseIsntValid_raises _ s)
  | false =>
      rw [if_neg (by simp)]
      have hreads : ReadsTarget request :=
        ⟨noDebug, debugOptions, hnoDebug, hoptions, hs.symm.trans hno⟩
      refine (parse_ends hclosed hnone fun e he => attachTarget_error hargs (hpid hreads) he).bind
        ?_ fun e s' hs' => ⟨hs'.1, e, rfl⟩
      rintro target s₁ ⟨-, hs₁⟩
      obtain ⟨htarget, rfl⟩ := hs₁ target rfl
      have hread : readAttach setup request = some (debugOptions.toTexts.dedup, target) := by
        simp [readAttach, hnoDebug, hoptions, htarget, ← hs, hno]
      simp only [State.found, hread] at hfound
      cases hinject : target.injectFails outcomes with
      | true =>
          have hraise : (injectServer request outcomes target).Ends s₁ fun r s' =>
              Provides request r s' ∧ ∃ e, r = .error e := by
            simp only [Target.injectFails, Bool.and_eq_true] at hinject
            obtain ⟨p, hp⟩ := Option.isSome_iff_exists.mp hinject.1
            obtain ⟨exc, hexc⟩ := Option.isSome_iff_exists.mp hinject.2
            rw [injectServer, hp, hexc]
            refine (provides_raise hclosed hnone ?_).and ⟨_, rfl⟩
            trivial
          refine hraise.bind ?_ fun e s' hs' => ⟨hs'.1, e, rfl⟩
          rintro _ s' ⟨-, e, hr⟩
          cases hr
      | false =>
          rw [if_neg (by simp [hinject])] at hfound
          refine Ends.bind_ok (exec_injectServer hinject)
            (Ends.bind_ok (exec_waitForConnection hfound) ?_)
          have hraise := @provides_raiseError request (s₁.waiting outcomes target) PUnit hclosed
            hnone .messageHandlingError target.notFound
          exact hraise.and (raiseCantHandle_raises _ _)

/-- **If there is a connection**, the body goes on to attach to it. -/
theorem attach_found {conn : Connection}
    (hnoDebug : request.call "noDebug" (.default (.bool false)) = .ok noDebug)
    (hs : s.noDebug = noDebug.toBool)
    (hfound : s.found setup request outcomes = some conn) :
    s.noDebug = false ∧ ∃ target, conn ∈ (s.waiting outcomes target).connections ∧
      (attach setup request outcomes).exec s =
        (tryAttach setup request conn).exec (s.waiting outcomes target) := by
  rw [State.found] at hfound
  cases hread : readAttach setup request with
  | none => simp [hread] at hfound
  | some p =>
      obtain ⟨options, target⟩ := p
      simp only [hread] at hfound
      have hinject : target.injectFails outcomes = false := by
        by_contra hno
        simp [hno] at hfound
      rw [if_neg (by simp [hinject])] at hfound
      have htarget : attachTarget setup request = .ok target ∧ noDebug.toBool = false := by
        unfold readAttach at hread
        split at hread
        · next hno hoptions htarget =>
            split_ifs at hread with hnoDebug'
            obtain rfl := Except.ok.inj (hnoDebug.symm.trans hno)
            simp only [Option.some.injEq, Prod.mk.injEq] at hread
            exact ⟨hread.2 ▸ htarget, by simpa using hnoDebug'⟩
        · cases hread
      have hdebug : s.noDebug = false := hs.trans htarget.2
      refine ⟨hdebug, target, mem_waiting hfound, ?_⟩
      have hparse : (parse request (attachTarget setup request)).exec s = (.ok target, s) := by
        rw [htarget.1]
        rfl
      rw [attach, exec_bind_ok exec_get, if_neg (by simp [hdebug]), exec_bind_ok hparse,
        exec_bind_ok (exec_injectServer hinject), exec_bind_ok (exec_waitForConnection hfound)]

/-- A connection that belongs to no session. -/
theorem exec_tryAttach {conn : Connection} (hconn : conn.server = none)
    (hserver : s.server = none) (hpid : s.pid = none) :
    (tryAttach setup request conn).exec s = (.ok ⟨⟩, { s with
      pid := some conn.pid
      server := some conn.id
      connections := s.assign conn setup.sessionId }) := by
  have hassert : ∀ condition, condition = true →
      (pyAssert request condition).exec s = (.ok ⟨⟩, s) := by
    rintro condition rfl
    exact congrArg (Prod.mk _) (State.update_view s request.id)
  refine exec_tryCatch_ok ?_
  rw [attachToSession, if_neg (by simp [hconn]), exec_bind_ok exec_get,
    exec_bind_ok (hassert _ (by simp [hserver])), exec_bind_ok (hassert _ (by simp [hpid]))]
  rfl

/-- The state after the request was told that the connection is being debugged. -/
def State.refused (s : State) (request : Request) (conn : Connection) : State :=
  (s.update request.id ((s.view request.id).alloc (.exception valueError))).failed request
    .messageHandlingError (conn.str ++ " is already being debugged.")

/-- **A connection that is being debugged** gets the request a failure response, and then the
handler goes on. -/
theorem tryAttach_owned {conn : Connection} (hconn : conn.server.isSome = true)
    (hclosed : s.closed = false) (hnone : s.responses request.id = none) :
    (tryAttach setup request conn).exec s = (.ok ⟨⟩, s.refused request conn) := by
  have hraise : (attachToSession setup request conn).exec s = (.error s.objects.length,
      s.update request.id ((s.view request.id).alloc (.exception valueError))) := by
    rw [attachToSession, if_pos hconn]
    exact exec_ideRaise _
  set s₁ := s.update request.id ((s.view request.id).alloc (.exception valueError)) with hs₁
  have hnone₁ : s₁.responses request.id = none := (if_pos rfl).trans hnone
  have hexc : (s₁.view request.id).exception? s.objects.length = some valueError :=
    exception?_alloc
  rw [tryAttach, exec_tryCatch_error hraise, exec_bind_ok exec_get, hexc]
  change (do
    let _ ← on request.id (cantHandle request.toIncomingRequest
      (conn.str ++ " is already being debugged."))
    return ⟨⟩ : Handler PUnit).exec s₁ = _
  rw [exec_bind_ok (@exec_on_cantHandle request s₁ _ hclosed hnone₁)]
  rfl

/-- The response is the exception that `cant_handle()` returned. -/
theorem responses_refused (s : State) (request : Request) (conn : Connection) :
    ∃ p : ℕ × Value, (s.refused request conn).responses request.id = some p ∧
      ∃ id, p.2 = .object id ∧ id < (s.refused request conn).objects.length := by
  refine ⟨_, if_pos rfl, _, rfl, ?_⟩
  simp [State.refused, State.failed, State.update, World.answered, World.alloc, State.view]

/-! ### The debug server -/

/-- The debug server answers with a success. -/
theorem ends_channelRequest {α : Type} {command : String} {arguments : Json} {answer : Answer}
    {body : Json} {f : Json → Handler α} {Q : Except ObjectId α → State → Prop}
    (hserver : s.server.isSome = true) (hanswer : answer = .success body)
    (h : (f body).Ends (s.sends ⟨request, .server, command, arguments⟩) Q) :
    (channelRequest request .server command arguments answer >>= f).Ends s Q := by
  refine Ends.bind_ok ?_ h
  rw [exec_channelRequest hserver, hanswer]
  rfl

/-- The debug server does not answer with a success. -/
theorem ends_channelRequest_fails {α : Type} {command : String} {arguments : Json}
    {answer : Answer} {f : Json → Handler α} (hserver : s.server.isSome = true)
    (hclosed : s.closed = false) (hnone : s.responses request.id = none)
    (hanswer : ∀ body, answer ≠ .success body) :
    (channelRequest request .server command arguments answer >>= f).Ends s fun r s' =>
      Provides request r s' ∧ ∃ e, r = .error e := by
  have hraises : (channelRequest request .server command arguments answer).Ends s
      fun r _ => ∃ e, r = .error e := by
    rw [Ends, exec_channelRequest hserver]
    cases answer with
    | success body => exact absurd rfl (hanswer body)
    | failure | disconnect | ioError => exact ⟨_, rfl⟩
  refine ((provides_channelRequest hclosed hnone .server command arguments answer).and
    hraises).bind ?_ fun e s' hs' => ⟨hs'.1, e, rfl⟩
  rintro body s' ⟨-, e, hr⟩
  cases hr

/-- An exception that nobody provides for. -/
theorem unprovided_raise {α : Type} {text : String} (hnone : s.responses request.id = none) :
    (raise request (.other text) : Handler α).Ends s (Unprovided request) :=
  Ends.of_exec (exec_ideRaise _)
    ⟨(if_pos rfl).trans hnone, _, _, rfl, exception?_alloc, not_false⟩

/-- A debug server that `authenticate` does not accept. -/
theorem authenticate_rejects (cause : MessageId) (hrejects : setup.rejects outcomes = true)
    (hserver : s.server.isSome = true) (hnone : s.responses request.id = none) :
    (authenticate setup request outcomes cause).Ends s (Unprovided request) := by
  simp only [Setup.rejects, Bool.and_eq_true] at hrejects
  obtain ⟨hconfigured, hanswer⟩ := hrejects
  unfold authenticate
  rw [if_pos hconfigured]
  split at hanswer
  · next items hauthorize =>
      refine ends_channelRequest hserver hauthorize ?_
      split at hanswer
      · next token htoken =>
          simp only [htoken]
          rw [if_neg (by simpa using hanswer)]
          exact unprovided_raise hnone
      · cases hanswer
  · next body hno hauthorize =>
      refine ends_channelRequest hserver hauthorize ?_
      split
      · next items => exact absurd rfl (hno items)
      · exact unprovided_raise hnone
  · cases hanswer

/-- A debug server that is accepted. -/
theorem authenticate_authorizes (cause : MessageId)
    (hauthorizes : setup.authorizes outcomes = true) (hserver : s.server.isSome = true)
    (hclosed : s.closed = false) (hnone : s.responses request.id = none) :
    (authenticate setup request outcomes cause).Ends s fun r s' => r = .ok ⟨⟩ ∧
      s'.server = s.server ∧ s'.closed = false ∧ s'.responses request.id = none := by
  simp only [Setup.authorizes, Bool.or_eq_true, Bool.not_eq_true'] at hauthorizes
  unfold authenticate
  split_ifs with hconfigured
  · rcases hauthorizes with hno | hanswer
    · simp [hno] at hconfigured
    · split at hanswer
      · next items hauthorize =>
          refine ends_channelRequest hserver hauthorize ?_
          split at hanswer
          · next token htoken =>
              simp only [htoken]
              rw [if_pos hanswer]
              exact ends_pure ⟨rfl, rfl, hclosed, hnone⟩
          · cases hanswer
      · cases hanswer
  · exact ends_pure ⟨rfl, rfl, hclosed, hnone⟩

/-- What `authenticate` does with a debug server that it does not have to reject. -/
theorem authenticate_provides (cause : MessageId) (hrejects : setup.rejects outcomes = false)
    (hclosed : s.closed = false) (hserver : s.server.isSome = true)
    (hnone : s.responses request.id = none) :
    (authenticate setup request outcomes cause).Ends s fun r s' => Provides request r s' ∧
      (r = .ok ⟨⟩ → setup.authorizes outcomes = true) := by
  cases hauthorizes : setup.authorizes outcomes with
  | true =>
      refine (authenticate_authorizes cause hauthorizes hserver hclosed hnone).mono ?_
      rintro r s' ⟨rfl, -, hclosed', hnone'⟩
      exact ⟨⟨hclosed', hnone'⟩, fun _ => rfl⟩
  | false =>
      simp only [Setup.authorizes, Bool.or_eq_false_iff, Bool.not_eq_false'] at hauthorizes
      simp only [Setup.rejects, hauthorizes.1, Bool.true_and] at hrejects
      obtain ⟨hconfigured, hanswer⟩ := hauthorizes
      unfold authenticate
      rw [if_pos hconfigured]
      cases hauthorize : outcomes.authorize with
      | success body =>
          refine ends_channelRequest hserver rfl ?_
          cases body with
          | dict items =>
              simp only [hauthorize] at hrejects hanswer
              cases htoken : items.lookup "clientAccessToken" with
              | none =>
                  simp only [htoken]
                  refine (provides_raise (s := s.sends _) hclosed hnone ?_).and ?_
                  · trivial
                  · intro hr
                    cases hr
              | some token => simp_all
          | null | bool | int | float | str | list => simp [hauthorize] at hrejects
      | failure | disconnect | ioError =>
          refine (ends_channelRequest_fails hserver hclosed hnone (by simp)).mono ?_
          rintro r s' ⟨hs', e, rfl⟩
          exact ⟨hs', by simp⟩

/-- What is raised if the debug server's "initialize" response is not an object. -/
theorem serverInitialize_unprovided {initRequest : Request} (cause : MessageId)
    (hinit : initRequest.command = "initialize") (hserver : s.server.isSome = true)
    (hclosed : s.closed = false) (hnone : s.responses request.id = none)
    (h : setup.rejects outcomes = true ∨ setup.authorizes outcomes = true ∧
      outcomes.initialization.hasObject = false) :
    (serverInitialize setup request outcomes initRequest cause).Ends s (Unprovided request) := by
  have hassert : (pyAssert request (initRequest.command = "initialize")).exec s = (.ok ⟨⟩, s) := by
    rw [hinit]
    exact congrArg (Prod.mk _) (State.update_view s request.id)
  refine Ends.bind_ok hassert ?_
  rcases h with hrejects | ⟨hauthorizes, hobject⟩
  · exact unprovided_bind (authenticate_rejects cause hrejects hserver hnone)
  · refine (authenticate_authorizes cause hauthorizes hserver hclosed hnone).bind ?_ ?_
    · rintro _ s' ⟨-, hserver', -, hnone'⟩
      cases hanswer : outcomes.initialization with
      | success body =>
          refine ends_channelRequest (hserver' ▸ hserver) rfl ?_
          cases body with
          | dict items => simp [hanswer, Answer.hasObject] at hobject
          | null | bool | int | float | str | list => exact unprovided_raise hnone'
      | failure | disconnect | ioError => simp [hanswer, Answer.hasObject] at hobject
    · rintro e s' ⟨hr, -⟩
      cases hr

/-- What `Server.initialize` does otherwise. -/
theorem serverInitialize_provides {initRequest : Request} (cause : MessageId)
    (hinit : initRequest.command = "initialize") (hserver : s.server.isSome = true)
    (hclosed : s.closed = false) (hnone : s.responses request.id = none)
    (hrejects : setup.rejects outcomes = false)
    (hobject : setup.authorizes outcomes = true → outcomes.initialization.hasObject = true) :
    (serverInitialize setup request outcomes initRequest cause).Ends s (Provides request) := by
  have hassert : (pyAssert request (initRequest.command = "initialize")).exec s = (.ok ⟨⟩, s) := by
    rw [hinit]
    exact congrArg (Prod.mk _) (State.update_view s request.id)
  refine Ends.bind_ok hassert ?_
  refine ((authenticate_provides cause hrejects hclosed hserver hnone).and
    (keeps_authenticate setup outcomes cause s)).bind ?_ fun e s' hs' => hs'.1.1
  rintro _ s₁ ⟨⟨⟨hclosed₁, hnone₁⟩, hauthorizes⟩, hs₁⟩
  have hserver₁ : s₁.server.isSome = true := by
    rw [hs₁.server hserver]
    exact hserver
  replace hobject := hobject (hauthorizes rfl)
  cases hanswer : outcomes.initialization with
  | success body =>
      refine ends_channelRequest hserver₁ rfl ?_
      cases body with
      | dict payload =>
          simp only []
          split
          · exact ends_pure ⟨hclosed₁, hnone₁⟩
          · refine provides_raise (s := s₁.sends _) hclosed₁ hnone₁ ?_
            trivial
      | null | bool | int | float | str | list => simp [hanswer, Answer.hasObject] at hobject
  | failure | disconnect | ioError =>
      exact (ends_channelRequest_fails hserver₁ hclosed₁ hnone₁ (by simp)).mono
        fun r s' hs' => hs'.1

/-- **The debug server is told about the request**, if its answers can be dealt with. -/
theorem startServer_provides {initRequest : Request} (options : List String) (cause : MessageId)
    (hinit : initRequest.command = "initialize") (hserver : s.server.isSome = true)
    (hclosed : s.closed = false) (hnone : s.responses request.id = none)
    (hrejects : setup.rejects outcomes = false)
    (hobject : setup.authorizes outcomes = true → outcomes.initialization.hasObject = true) :
    (startServer setup request outcomes initRequest options cause).Ends s
      (Provides request) := by
  refine Ends.bind_ok exec_get ?_
  rw [if_pos hserver]
  refine provides_bind (serverInitialize_provides cause hinit hserver hclosed hnone hrejects
    hobject) fun _ s₁ hclosed₁ hnone₁ => ?_
  refine Ends.bind_ok exec_modify (Ends.bind_ok exec_get ?_)
  refine provides_bind (provides_propagating (provides_channelRequest ?_ ?_ _ _ _ _))
    fun _ s₂ hclosed₂ hnone₂ => provides_pure hclosed₂ hnone₂ _
  · exact hclosed₁
  · exact hnone₁

/-- The end of the request, which is left to "configurationDone". -/
theorem finishStart_provides (options : List String) (hnoDebug : s.noDebug = false)
    (hclosed : s.closed = false) (hnone : s.responses request.id = none) :
    (finishStart setup request outcomes options).Ends s fun r s' =>
      Provides request r s' ∧ ∀ a, r = .ok a → a = .noResponse := by
  unfold finishStart
  refine Ends.bind_ok exec_get ?_
  rw [if_neg (by simp [hnoDebug])]
  refine (provides_channelRequest hclosed hnone _ _ _ _).bind ?_ fun e s' hs' => ⟨hs', by simp⟩
  rintro _ s₁ ⟨hclosed₁, hnone₁⟩
  refine Ends.bind_ok (exec_sendEvent hclosed₁) (Ends.bind_ok exec_modify (ends_pure ?_))
  refine ⟨⟨hclosed₁, hnone₁⟩, ?_⟩
  rintro _ ⟨⟩
  rfl

end Body

/-! ### The whole handler -/

section Whole

variable {setup : Setup} {outcomes : Outcomes} {initRequest : Request}

/-- An "attach" request that the state check lets pass. -/
theorem exec_checkState (hcommand : request.command = "attach")
    (hinit : s.initializeRequest = some initRequest) (hunstarted : ¬ s.Started) :
    (checkState request).exec s = (.ok initRequest, s) := by
  have hassert : (pyAssert request (request.command = "launch" ∨
      request.command = "attach")).exec s = (.ok ⟨⟩, s) := by
    rw [hcommand]
    exact congrArg (Prod.mk _) (State.update_view s request.id)
  have hnot : ¬ (s.launcher || s.server.isSome) = true := by
    simpa [State.Started] using hunstarted
  rw [checkState, exec_bind_ok hassert, exec_bind_ok exec_get, hinit]
  simp only []
  rw [if_neg hnot]
  rfl

/-- Without an object for its arguments, the request ends the process. -/
theorem attach_noArguments (cause : MessageId) (hcommand : request.command = "attach")
    (hinit : s.initializeRequest = some initRequest) (hunstarted : ¬ s.Started)
    (hnone : s.responses request.id = none) (hargs : ¬ request.HasArguments) :
    (attachRequest setup request outcomes cause).Ends s (Unprovided request) := by
  have hcall : ∃ text, request.call "noDebug" (.default (.bool false)) =
      .error (.typeError text) := by
    unfold Request.call
    split
    · next items harguments => exact absurd ⟨items, harguments⟩ hargs
    · exact ⟨_, rfl⟩
  obtain ⟨text, hcall⟩ := hcall
  have hread : (readOptions request).Ends s (Unprovided request) := by
    unfold readOptions
    rw [hcall]
    exact unprovided_bind (unprovided_raise hnone)
  exact Ends.bind_ok (exec_checkState hcommand hinit hunstarted) (unprovided_bind hread)

/-- The options of a request that are valid. -/
theorem exec_readOptions {noDebug debugOptions : Property}
    (hnoDebug : request.call "noDebug" (.default (.bool false)) = .ok noDebug)
    (hoptions : request.call "debugOptions" .texts = .ok debugOptions) :
    (readOptions request).exec s = (.ok debugOptions.toTexts.dedup, { s with
      noDebug := noDebug.toBool, debugOptions := debugOptions.toTexts.dedup }) := by
  unfold readOptions
  rw [hnoDebug, hoptions]
  rfl

/-- With a process ID of another type, the request ends the process. -/
theorem attach_processId (cause : MessageId) (hcommand : request.command = "attach")
    (hinit : s.initializeRequest = some initRequest) (hunstarted : ¬ s.Started)
    (hnone : s.responses request.id = none) (hargs : request.HasArguments)
    (hreads : ReadsTarget request)
    (hpid : ¬ ∃ pid, request.call "processId" processIdType = .ok pid) :
    (attachRequest setup request outcomes cause).Ends s (Unprovided request) := by
  obtain ⟨noDebug, debugOptions, hnoDebug, hoptions, hdebug⟩ := hreads
  have hcall : ∃ text, request.call "processId" processIdType = .error (.attributeError text) := by
    cases hcall : request.call "processId" processIdType with
    | ok pid => exact absurd ⟨pid, hcall⟩ hpid
    | error e =>
        obtain ⟨text, rfl⟩ := processId_error hargs hcall
        exact ⟨text, rfl⟩
  obtain ⟨text, hcall⟩ := hcall
  have htarget : attachTarget setup request = .error (.attributeError text) := by
    unfold attachTarget
    rw [hcall]
    rfl
  refine Ends.bind_ok (exec_checkState hcommand hinit hunstarted) ?_
  refine Ends.bind_ok (exec_readOptions hnoDebug hoptions) (unprovided_bind ?_)
  refine Ends.bind_ok exec_get ?_
  rw [if_neg (by simp [hdebug]), htarget]
  exact unprovided_bind (unprovided_raise hnone)

/-- The options of a request that finds a connection. -/
theorem readOptions_found {conn : Connection}
    (hfound : s.found setup request outcomes = some conn) : ∃ noDebug debugOptions : Property,
      request.call "noDebug" (.default (.bool false)) = .ok noDebug ∧
      (readOptions request).exec s = (.ok debugOptions.toTexts.dedup, { s with
        noDebug := noDebug.toBool, debugOptions := debugOptions.toTexts.dedup }) := by
  rw [State.found] at hfound
  cases hread : readAttach setup request with
  | none => simp [hread] at hfound
  | some p =>
      unfold readAttach at hread
      split at hread
      · next noDebug debugOptions target hnoDebug hoptions htarget =>
          refine ⟨noDebug, debugOptions, hnoDebug, ?_⟩
          rw [readOptions, hnoDebug, hoptions]
          rfl
      · cases hread

/-- **Up to the debug server**, for a request that finds a connection. -/
theorem attach_reaches {conn : Connection} {Q : Except ObjectId Value → State → Prop}
    (cause : MessageId) (hcommand : request.command = "attach")
    (hinit : s.initializeRequest = some initRequest) (hunstarted : ¬ s.Started)
    (hfound : s.found setup request outcomes = some conn)
    (h : ∀ (options : List String) (s' : State), { s' with
        noDebug := s.noDebug, debugOptions := s.debugOptions, connections := s.connections } = s →
      s'.noDebug = false → conn ∈ s'.connections → (do
        tryAttach setup request conn
        startServer setup request outcomes initRequest options cause
        finishStart setup request outcomes options : Handler Value).Ends s' Q) :
    (attachRequest setup request outcomes cause).Ends s Q := by
  obtain ⟨noDebug, debugOptions, hnoDebug, hread⟩ := readOptions_found hfound
  set s₁ : State := { s with
    noDebug := noDebug.toBool, debugOptions := debugOptions.toTexts.dedup } with hs₁
  obtain ⟨hdebug, target, hmem, hattach⟩ := attach_found (s := s₁) hnoDebug rfl hfound
  refine Ends.bind_ok (exec_checkState hcommand hinit hunstarted) (Ends.bind_ok hread ?_)
  rw [Ends, exec_bind, hattach, ← exec_bind]
  exact h _ _ rfl hdebug hmem

/-- **A connection that is being debugged** makes the handler raise once more, after the
response. -/
theorem attach_owned {conn : Connection} (cause : MessageId)
    (hcommand : request.command = "attach") (hinit : s.initializeRequest = some initRequest)
    (hunstarted : ¬ s.Started) (hclosed : s.closed = false)
    (hnone : s.responses request.id = none)
    (hfound : s.found setup request outcomes = some conn) (hconn : conn.server.isSome = true) :
    (attachRequest setup request outcomes cause).Ends s fun r s' => ∃ e exc p, r = .error e ∧
      (s'.view request.id).exception? e = some exc ∧ s'.responses request.id = some p ∧
      p.2 ≠ .object s'.objects.length := by
  refine attach_reaches cause hcommand hinit hunstarted hfound fun options s₁ heq hdebug _ => ?_
  have hclosed₁ : s₁.closed = false := (congrArg State.closed heq :).trans hclosed
  have hnone₁ : s₁.responses request.id = none :=
    (congrFun (congrArg State.responses heq) request.id :).trans hnone
  have hserver₁ : s₁.server = none := by
    refine (congrArg State.server heq :).trans ?_
    by_contra hsome
    exact hunstarted (Or.inr (Option.isSome_iff_ne_none.mpr hsome))
  refine Ends.bind_ok (tryAttach_owned hconn hclosed₁ hnone₁) ?_
  set s₂ := s₁.refused request conn with hs₂
  have hserver₂ : s₂.server = none := hserver₁
  have hstart : (startServer setup request outcomes initRequest options cause).exec s₂ =
      (.ok ⟨⟩, s₂) := by
    rw [startServer, exec_bind_ok exec_get, if_neg (by simp [hserver₂])]
    rfl
  refine Ends.bind_ok hstart ?_
  have hdebug₂ : s₂.noDebug = false := hdebug
  unfold finishStart
  refine Ends.bind_ok exec_get ?_
  rw [if_neg (by simp [hdebug₂])]
  have hraise : (channelRequest request .server "setDebuggerProperty"
      (debuggerProperties setup options) outcomes.setDebuggerProperty).exec s₂ =
        (.error s₂.objects.length, s₂.update request.id ((s₂.view request.id).alloc
          (.exception (.componentNotAvailable "Server")))) := by
    unfold channelRequest
    rw [exec_bind_ok exec_get, if_pos ⟨rfl, hserver₂⟩]
    exact exec_ideRaise _
  obtain ⟨p, hp, id, hid, hlt⟩ := responses_refused s₁ request conn
  refine Ends.bind_error hraise ⟨_, _, p, rfl, exception?_alloc, (if_pos rfl).trans hp, ?_⟩
  rw [hid]
  simp only [State.update, World.alloc, List.length_append, ne_eq, Value.object.injEq]
  exact (hlt.trans (Nat.lt_succ_self _)).ne

/-- The state of a session that is not started. -/
theorem tryAttach_unowned (setup : Setup) (request : Request) {conn : Connection}
    (hconn : conn.server = none) (hunstarted : ¬ s.Started) (hpid : s.pid = none) :
    ∃ s', (tryAttach setup request conn).exec s = (.ok ⟨⟩, s') ∧ s'.server.isSome = true ∧
      s'.closed = s.closed ∧ s'.responses = s.responses ∧ s'.noDebug = s.noDebug := by
  have hserver : s.server = none := by
    by_contra hsome
    exact hunstarted (Or.inr (Option.isSome_iff_ne_none.mpr hsome))
  exact ⟨_, exec_tryAttach hconn hserver hpid, rfl, rfl, rfl, rfl⟩

/-- **A debug server with the wrong answers** makes the handler raise. -/
theorem attach_unprovided {conn : Connection} (cause : MessageId)
    (hcommand : request.command = "attach") (hinit : s.initializeRequest = some initRequest)
    (hcommand' : initRequest.command = "initialize") (hunstarted : ¬ s.Started)
    (hpid : s.pid = none) (hclosed : s.closed = false) (hnone : s.responses request.id = none)
    (hfound : s.found setup request outcomes = some conn) (hconn : conn.server = none)
    (h : setup.rejects outcomes = true ∨ setup.authorizes outcomes = true ∧
      outcomes.initialization.hasObject = false) :
    (attachRequest setup request outcomes cause).Ends s (Unprovided request) := by
  refine attach_reaches cause hcommand hinit hunstarted hfound fun options s₁ heq hdebug _ => ?_
  have hunstarted₁ : ¬ s₁.Started := by
    rw [State.Started, (congrArg State.launcher heq :), (congrArg State.server heq :)]
    exact hunstarted
  obtain ⟨s₂, hattach, hserver₂, hclosed₂, hresponses₂, -⟩ := tryAttach_unowned
    setup request hconn hunstarted₁ ((congrArg State.pid heq :).trans hpid)
  refine Ends.bind_ok hattach (unprovided_bind ?_)
  refine Ends.bind_ok exec_get ?_
  rw [if_pos hserver₂]
  refine unprovided_bind (serverInitialize_unprovided cause hcommand' hserver₂ ?_ ?_ h)
  · exact hclosed₂.trans ((congrArg State.closed heq :).trans hclosed)
  · rw [hresponses₂]
    exact (congrFun (congrArg State.responses heq) request.id :).trans hnone

/-- **In all other cases**, the request is left to "configurationDone", or gets a response. -/
theorem attach_provides (cause : MessageId) (hcommand : request.command = "attach")
    (hinit : s.initializeRequest = some initRequest)
    (hcommand' : initRequest.command = "initialize") (hunstarted : ¬ s.Started)
    (hpid : s.pid = none) (hclosed : s.closed = false) (hnone : s.responses request.id = none)
    (h : AttachesCleanly setup request outcomes s) :
    (attachRequest setup request outcomes cause).Ends s fun r s' =>
      Provides request r s' ∧ ∀ a, r = .ok a → a = .noResponse := by
  cases hfound : s.found setup request outcomes with
  | none =>
      refine Ends.bind_ok (exec_checkState hcommand hinit hunstarted) ?_
      refine (readOptions_ends h.arguments hclosed hnone).bind ?_ fun e s' hs' => ⟨hs'.1, by simp⟩
      rintro options s₁ ⟨⟨hclosed₁, hnone₁⟩, hs₁⟩
      obtain ⟨noDebug, debugOptions, hnoDebug, hoptions, -, rfl⟩ := hs₁ options rfl
      refine (attach_notFound h.arguments hclosed₁ hnone₁ hnoDebug hoptions rfl h.processId
        hfound).bind ?_ fun e s' hs' => ⟨hs'.1, by simp⟩
      rintro _ s' ⟨-, e, hr⟩
      cases hr
  | some conn =>
      refine attach_reaches cause hcommand hinit hunstarted hfound fun options s₁ heq hdebug _ => ?_
      have hunstarted₁ : ¬ s₁.Started := by
        rw [State.Started, (congrArg State.launcher heq :), (congrArg State.server heq :)]
        exact hunstarted
      obtain ⟨s₂, hattach, hserver₂, hclosed₂, hresponses₂, hdebug₂⟩ := tryAttach_unowned
        setup request (h.unowned conn hfound) hunstarted₁
        ((congrArg State.pid heq :).trans hpid)
      have hnone₂ : s₂.responses request.id = none := by
        rw [hresponses₂]
        exact (congrFun (congrArg State.responses heq) request.id :).trans hnone
      refine Ends.bind_ok hattach ?_
      refine ((startServer_provides options cause hcommand' hserver₂
        (hclosed₂.trans ((congrArg State.closed heq :).trans hclosed)) hnone₂
        (h.server conn hfound).1 (h.server conn hfound).2).and
          (advances_startServer setup outcomes initRequest options cause s₂)).bind ?_
            fun e s' hs' => ⟨hs'.1, by simp⟩
      rintro _ s₃ ⟨⟨hclosed₃, hnone₃⟩, hs₃⟩
      exact finishStart_provides options (hs₃.noDebug.trans (hdebug₂.trans hdebug)) hclosed₃ hnone₃

end Whole

/-! ### Results -/

section Results

variable {setup : Setup} {outcomes : Outcomes} {initRequest : Request}

/-- One response, after the process has ended or while it goes on. -/
theorem length_responsesTo (h : s.Answers) (hsome : (s.responses request.id).isSome = true) :
    (s.responsesTo request.id).length = 1 := by
  rw [h.once, hsome]
  rfl

/-- **What becomes of a request that is provided for.** -/
theorem dispatch_provides {f : Handler Value} (h : State.Receiving request s)
    (hf : f.Ends s fun r s' => s.Serves request s' ∧ Provides request r s' ∧
      ∀ a, r = .ok a → a = .noResponse) :
    ((dispatch request f s).responsesTo request.id).length = 1 ∨
      f.exec s = (.ok .noResponse, dispatch request f s) ∧
        (dispatch request f s).exited = s.exited ∧
        (dispatch request f s).responsesTo request.id = [] := by
  have hexec : f.Ends s fun r s' => f.exec s = (r, s') := rfl
  obtain ⟨r, s', ⟨⟨hserves, hprovides, hvalue⟩, hr⟩, hdispatch⟩ :=
    @dispatch_cases request s f _ (hf.and hexec)
  have hone : ∀ t, s.Serves request t → (t.responses request.id).isSome = true →
      (t.responsesTo request.id).length = 1 := fun t ht =>
    length_responsesTo (h.answers.serves ht h.id_lt)
  rw [hdispatch]
  cases r with
  | ok a =>
      obtain rfl := hvalue a rfl
      rw [settle_noResponse hprovides.2, State.update_view]
      refine Or.inr ⟨hr, hserves.view.exited, ?_⟩
      exact responsesTo_nil (h.answers.serves hserves h.id_lt) hprovides.2
  | error e =>
      refine Or.inl ?_
      rcases hprovides with hsome | ⟨hclosed, hnone, exc, hid, hexc⟩
      · obtain ⟨t, ht, heq⟩ := @keeps_settleState request (.error e) s'
        have hsome' : (t.responses request.id).isSome = true :=
          (congrArg Option.isSome (ht.view.answered hsome).1).trans hsome
        rcases heq with heq | heq
        · rw [heq]
          exact hone t (hserves.trans ht.toServes) hsome'
        · rw [heq]
          exact hone t (hserves.trans ht.toServes) hsome'
      · obtain ⟨type, reason, hsettle⟩ := @settle_convertible request.toIncomingRequest
          (s'.view request.id) e exc ⟨hclosed, hnone⟩ hid hexc
        obtain ⟨t, ht, heq⟩ := @keeps_settleState request (.error e) s'
        have hsome : ((s'.update request.id (settle request.toIncomingRequest (.error e)
            (s'.view request.id))).responses request.id).isSome = true := by
          rw [hsettle]
          simp [State.update, World.answered]
        rcases heq with heq | heq
        · rw [heq] at hsome ⊢
          exact hone t (hserves.trans ht.toServes) hsome
        · rw [heq] at hsome ⊢
          exact hone t (hserves.trans ht.toServes) hsome

/-- **A handler that raises what nobody provides for** gets no response. -/
theorem dispatch_unprovided {f : Handler Value} (h : State.Receiving request s)
    (hf : f.Ends s fun r s' => s.Serves request s' ∧ Unprovided request r s') :
    (dispatch request f s).exited = true ∧
      (dispatch request f s).responsesTo request.id = [] := by
  obtain ⟨r, s', ⟨hserves, hnone, e, exc, rfl, hid, hexc⟩, hdispatch⟩ :=
    @dispatch_cases request s f _ hf
  obtain ⟨hexited, hwritten, -⟩ := @settle_fatal request.toIncomingRequest (s'.view request.id) e
    exc hid hexc
  rw [hdispatch]
  refine ⟨hexited, ?_⟩
  have hnil := responsesTo_nil (h.answers.serves hserves h.id_lt) hnone
  rw [State.responsesTo] at hnil ⊢
  rw [← hnil]
  exact congrArg (List.filter _) hwritten

/-- **A pending request** gets its response with "configurationDone". -/
theorem awaits_configured (h : s.Live) (hrunning : s.exited = false)
    (hstart : s.startRequest = some request) (hstarted : s.hasStarted = false) (done : Request)
    (hdone : done.command = "configurationDone") (body : Json) (outcomes : Outcomes)
    (cause : MessageId)
    (henabled : enabled s (.request done (.success body) outcomes cause) = true) :
    ((next setup s (.request done (.success body) outcomes cause)).responsesTo
      request.id).length = 1 := by
  have hid : done.id = s.received := by
    simp only [enabled, Bool.and_eq_true, decide_eq_true_eq] at henabled
    exact henabled.1.2
  have hmeets := @meets_of_success done { s with received := s.received + 1 } setup body
    (h.receiving hid) hrunning ⟨Option.isSome_iff_exists.mpr ⟨request, hstart⟩, hstarted⟩
  have hnext : next setup s (.request done (.success body) outcomes cause) =
      dispatch done (configurationDoneRequest setup done (.success body))
        { s with received := s.received + 1 } := by
    simp [next, handler, hdone]
  rw [hnext]
  exact (hmeets.start request hstart hstarted).1

/-- **The contract**, for a request that was just received. -/
theorem dispatch_attach_iff (cause : MessageId) (h : State.Receiving request s)
    (hrunning : s.exited = false) (hcommand : request.command = "attach")
    (hinit : s.initializeRequest = some initRequest)
    (hcommand' : initRequest.command = "initialize") (hunstarted : ¬ s.Started) :
    MeetsAttach setup request outcomes s
        (dispatch request (attachRequest setup request outcomes cause) s) ↔
      AttachesCleanly setup request outcomes s := by
  have hserver : s.server = none := by
    by_contra hsome
    exact hunstarted (Or.inr (Option.isSome_iff_ne_none.mpr hsome))
  have hends : (attachRequest setup request outcomes cause).Ends s fun r s' =>
      s.Serves request s' ∧ StartEnd request s r s' :=
    (startMessageHandler_ends setup outcomes cause (fun _ => keeps_attach setup outcomes)
      (fun _ => attach_starts setup outcomes) h.closed).mono fun r s' hs' => ⟨hs'.1, hs'.2.2⟩
  constructor
  · intro hmeets
    have hprovided :
        ¬ (attachRequest setup request outcomes cause).Ends s (Unprovided request) := by
      intro hno
      obtain ⟨hexited, hnil⟩ := dispatch_unprovided h ((hends.mono fun _ _ hs' => hs'.1).and hno)
      rcases hmeets.response with hone | hawaits
      · simp [hnil] at hone
      · cases hexited.symm.trans hawaits.running
    have hunowned : ∀ conn, s.found setup request outcomes = some conn → conn.server = none := by
      intro conn hfound
      by_contra hsome
      have hconn := Option.isSome_iff_ne_none.mpr hsome
      obtain ⟨r, s', ⟨e, exc, p, rfl, hid, hp, hne⟩, hdispatch⟩ := @dispatch_cases request s _ _
        (attach_owned cause hcommand hinit hunstarted h.closed h.response hfound hconn)
      have hexited := (@settle_answered_error request.toIncomingRequest (s'.view request.id) e exc p
        hp hne hid).1
      obtain ⟨-, -, -, -, -, -, hrunning'⟩ := hmeets.owned conn hfound hconn
      rw [hdispatch] at hrunning'
      cases hexited.symm.trans hrunning'
    have hargs : request.HasArguments := by
      by_contra hargs
      exact hprovided (attach_noArguments cause hcommand hinit hunstarted h.response hargs)
    refine ⟨hargs, fun hreads => ?_, hunowned, fun conn hfound => ?_⟩
    · by_contra hpid
      exact hprovided (attach_processId cause hcommand hinit hunstarted h.response hargs hreads
        hpid)
    · have hserves : ¬ (setup.rejects outcomes = true ∨ setup.authorizes outcomes = true ∧
          outcomes.initialization.hasObject = false) := fun hno =>
        hprovided (attach_unprovided cause hcommand hinit hcommand' hunstarted (h.pid hserver)
          h.closed h.response hfound (hunowned conn hfound) hno)
      simpa [not_or, not_and] using hserves
  · intro hcleanly
    refine ⟨?_, fun conn hfound hconn => by simp [hcleanly.unowned conn hfound] at hconn⟩
    have hprovides := attach_provides cause hcommand hinit hcommand' hunstarted (h.pid hserver)
      h.closed h.response hcleanly
    refine (dispatch_provides h ((hends.mono fun _ _ hs' => hs'.1).and hprovides)).imp id ?_
    rintro ⟨hexec, hexited, hnil⟩
    set s' := dispatch request (attachRequest setup request outcomes cause) s with hs'
    have hexited' := hexited.trans hrunning
    have hlive : s'.Live := live_start setup outcomes cause h (Or.inr hcommand)
      (fun _ => keeps_attach setup outcomes) (fun _ => attach_starts setup outcomes) hexited'
    have hpending : s'.startRequest = some request ∧ s'.hasStarted = false := by
      rw [Ends, hexec] at hends
      cases hends.2 with
      | pending hstart hstarted _ _ =>
          refine ⟨hstart, hstarted.trans ?_⟩
          by_contra hno
          obtain ⟨start, hsome, -⟩ := h.started (by simpa using hno)
          exact hunstarted (h.start start hsome).2.1
    exact ⟨hexited', hnil, awaits_configured hlive hexited' hpending.1 hpending.2⟩

/-- **The contract is met if and only if** the arguments are an object, the process ID has one of
its types, if it is looked at, the connection that is found belongs to no session, and the debug
server does not make `Server.initialize` raise what nobody provides for. -/
theorem attach_iff {answer : Answer} {cause : MessageId} (hs : (ide setup).Reachable s)
    (henabled : enabled s (.request request answer outcomes cause) = true)
    (hcommand : request.command = "attach") (hinit : s.initializeRequest.isSome = true)
    (hunstarted : ¬ s.Started) :
    MeetsAttach setup request outcomes s
        (next setup s (.request request answer outcomes cause)) ↔
      AttachesCleanly setup request outcomes s := by
  have hrunning : s.exited = false := running_of_enabled henabled
  have hid : request.id = s.received := by
    simp only [enabled, Bool.and_eq_true, decide_eq_true_eq] at henabled
    exact henabled.1.2
  obtain ⟨initRequest, hsome⟩ := Option.isSome_iff_exists.mp hinit
  have hdispatch := @dispatch_attach_iff request { s with received := s.received + 1 } setup
    outcomes initRequest cause ((live_of_reachable hs hrunning).receiving hid) hrunning hcommand
    hsome (command_of_reachable hs hrunning hsome) hunstarted
  have hnext : next setup s (.request request answer outcomes cause) =
      dispatch request (attachRequest setup request outcomes cause)
        { s with received := s.received + 1 } := by
    simp [next, handler, hcommand]
  rw [hnext]
  -- the number of requests received does not matter
  constructor
  · intro h
    obtain ⟨harguments, hpid, hunowned, hserver⟩ := hdispatch.mp ⟨h.response, h.owned⟩
    exact ⟨harguments, hpid, hunowned, hserver⟩
  · rintro ⟨harguments, hpid, hunowned, hserver⟩
    obtain ⟨hresponse, howned⟩ := hdispatch.mpr ⟨harguments, hpid, hunowned, hserver⟩
    exact ⟨hresponse, howned⟩

/-- A debug server that arrives in time is attached to. -/
theorem attach_arriving :
    MeetsAttach localSetup (ideRequest 1 "attach" []) quickOutcomes (after initializing)
      (next localSetup (after initializing) (served (ideRequest 1 "attach" []))) := by
  refine (attach_iff (reachable_after (by decide)) (by decide) rfl (by decide)
    (by simp [State.Started]; decide)).mpr
      ⟨⟨_, rfl⟩, fun _ => ⟨none, rfl⟩, ?_, fun conn _ => ⟨rfl, fun _ => rfl⟩⟩
  intro conn hfound
  have harriving : (after initializing).found localSetup (ideRequest 1 "attach" []) quickOutcomes =
      some quickOutcomes.arriving := rfl
  obtain rfl := Option.some.inj (harriving.symm.trans hfound)
  rfl

/-- If the only debug server is being debugged in another session, the process does not
survive the request. -/
theorem not_meetsAttach :
    ¬ ∀ (setup : Setup) (s : State) (request : Request) (answer : Answer) (outcomes : Outcomes)
        (cause : MessageId), (ide setup).Reachable s →
        enabled s (.request request answer outcomes cause) = true →
        request.command = "attach" → s.initializeRequest.isSome = true → ¬ s.Started →
        MeetsAttach setup request outcomes s
          (next setup s (.request request answer outcomes cause)) := by
  intro hall
  set s := after (initializing ++ [.connections [⟨0, 100, none, some 2⟩]]) with hs
  have hmeets := hall localSetup s (ideRequest 1 "attach" []) (.success (.dict []))
    quickOutcomes 0 (reachable_after (by decide)) (by decide) rfl (by decide)
    (by simp [State.Started]; decide)
  have hfound : s.found localSetup (ideRequest 1 "attach" []) quickOutcomes =
      some ⟨0, 100, none, some 2⟩ := rfl
  have hexited : (next localSetup s (served (ideRequest 1 "attach" []))).exited = true := by decide
  obtain ⟨-, -, -, -, -, -, hrunning⟩ := hmeets.owned _ hfound rfl
  cases hexited.symm.trans hrunning

end Results

end IDE

end Ptvsd
