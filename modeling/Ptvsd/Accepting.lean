import Ptvsd.Adapter
import Ptvsd.Arguments

/-!
# Accepting Connections

The loop of `ClientConnection.listen`, which accepts a connection and constructs an `IDE` or a
`Connection` for it before it accepts the next one. Both constructors start a conversation with
the client: they send, and the latter also waits for responses. The client is given by what it
does in this conversation; it may disconnect at any point of it, which shows as a closed channel,
as a write error, or as a response that is synthesized.

A wait that never ends is kept apart from the exceptions: no `except` clause sees it. Locks are
taken to be released eventually.

## Main results

* `serves_iff`: the worker goes on to accept connections until the listener is closed, if and
  only if `accept()` does not raise while it is open, and every client that is accepted lets its
  constructor return: an IDE has not disconnected when the "output" event is sent to it, and a
  debug server either answers or disconnects, and can be closed if it is to be dropped.
-/

open Program

namespace Ptvsd

/-! ### Conversations -/

/-- The ways in which a constructor does not return. -/
inductive Stop where
  | raised (e : PyException)
  /-- It waits for something that never happens. -/
  | never

/-- A part of a constructor; the state is `_closed` of its channel. -/
abbrev Constructing := Program Bool Stop

/-- Raises an exception. -/
def raises {α : Type} (e : PyException) : Constructing α := throw (.raised e)

/-- `try: x except Exception: handler`. -/
def exceptException {α : Type} (x : Constructing α) (handler : PyException → Constructing α) :
    Constructing α :=
  tryCatch x fun
    | .raised e => handler e
    | .never => throw .never

/-- `try: x except MessageHandlingError: handler`. -/
def exceptHandlingError {α : Type} (x : Constructing α) (handler : Constructing α) :
    Constructing α :=
  tryCatch x fun
    | .raised (.handlingError _ _ _) => handler
    | stop => throw stop

/-- What becomes of a message that is sent. -/
inductive Sending where
  | sent
  /-- The channel is closed. -/
  | closed
  /-- Writing raises an exception with this text. -/
  | fails (text : String)
  deriving DecidableEq

/-- Sends a message to the client with this name. -/
def Sending.perform (name : String) : Sending → Constructing PUnit
  | .sent => pure ⟨⟩
  | .closed => raises (.noMoreMessages "No more messages" name)
  | .fails text => raises (.jsonIOError text name)

/-- A request, and the response to it. -/
structure Exchange where
  request : MessageId
  sending : Sending
  /-- The body of the response, or `none` if there is never going to be one. -/
  answer : Option Body

/-- `channel.request(...)`. -/
def Exchange.perform (name : String) (x : Exchange) : Constructing Json := do
  x.sending.perform name
  match x.answer with
  | none => throw .never
  | some (.payload value) => return value
  | some (.handlingError reason) =>
      raises (.handlingError .messageHandlingError reason x.request)
  | some (.invalidMessage reason) => raises (.handlingError .invalidMessageError reason x.request)
  | some (.noMoreMessages text) => raises (.noMoreMessages text name)

/-! ### The IDE -/

/-- What an IDE does while its `IDE` object is constructed. -/
structure IDEClient where
  name : String
  /-- What making the stream, and starting its message loop, raises. -/
  opening : Option PyException
  /-- What becomes of the "output" event. -/
  output : Sending

/-- Something that may raise an exception. -/
def attempts : Option PyException → Constructing PUnit
  | none => pure ⟨⟩
  | some e => raises e

/-- `IDE.__init__`. -/
def IDEClient.construct (c : IDEClient) : Constructing PUnit := do
  attempts c.opening
  -- the session is made and registered here
  c.output.perform c.name

/-! ### Debug servers -/

/-- What a debug server, and the rest of the adapter, does while its `Connection` is
constructed. -/
structure ServerClient where
  name : String
  opening : Option PyException
  /-- "pydevdAuthorize". -/
  authorize : Exchange
  /-- "pydevdSystemInfo". -/
  systemInfo : Exchange
  /-- "evaluate". -/
  evaluate : Exchange
  /-- What closing the stream raises. -/
  closing : Option String
  /-- `disconnect()` was called by the time that the lock is taken. -/
  disconnected : Bool
  /-- `conn.pid` for all of `_connections` by then. -/
  connections : List ℤ
  /-- `session.pid` for all of `_sessions`. -/
  sessions : List (Option ℤ)
  /-- What `notify_of_subprocess` raises. -/
  notify : Option PyException

/-- `json.object()`. -/
def objectValidator : Validator
  | none => .ok (some (.dict []))
  | some value => ofType [.dict] false (some value)

/-- `pid` and `ppid` of a debug server, from the body of its response. The default that
`json.object()` supplies is a plain `dict`, which cannot be called. -/
def processInfo (response : MessageId) : Json → Except PyException (ℤ × Option ℤ)
  | .dict items =>
      let info : MessageDict := ⟨items, some response⟩
      match info.call "process" objectValidator, info.get "process" with
      | .ok (some (.dict process)), some _ => do
          let processInfo : MessageDict := ⟨process, some response⟩
          let pid ← (processInfo.typed "pid" .int).mapError PyError.toException
          let ppid ← (processInfo.call "ppid" (ofType [.int] true)).mapError PyError.toException
          return (pid.toInt, ppid.map fun value => Property.toInt (some value))
      | .ok _, _ => .error (.other "'dict' object is not callable")
      | .error e, _ => .error e.toException
  | _ => .error (.other "object is not callable")

namespace ServerClient

/-- `self.channel.close()`. -/
def close (c : ServerClient) : Constructing PUnit := do
  if ← get then return ⟨⟩
  set true
  attempts (c.closing.map .other)

/-- `Connection.authenticate`. -/
def authenticate (tokens : Tokens) (c : ServerClient) : Constructing PUnit := do
  if tokens.configured then
    match ← c.authorize.perform c.name with
    | .dict items =>
        match items.lookup "clientAccessToken" with
        | none => raises (.handlingError .invalidMessageError
            "missing property 'clientAccessToken'" c.authorize.request)
        | some token =>
            if tokens.matches? (some token) then return ⟨⟩
            c.close
            raises (.other "Mismatched \"clientAccessToken\"; server not authorized.")
    | _ => raises (.other "indices must be integers")
  else return ⟨⟩

/-- The `pid` and `ppid` that the debug server says its process has. -/
def ask (c : ServerClient) : Constructing (ℤ × Option ℤ) := do
  let info ← c.systemInfo.perform c.name
  ofOutcome ((processInfo c.systemInfo.request info).mapError .raised)

/-- Injects `ptvsd` into the debug server, if it can evaluate that. -/
def inject (c : ServerClient) : Constructing PUnit :=
  exceptHandlingError (do let _ ← c.evaluate.perform c.name) (pure ⟨⟩)

/-- The body of the first `try` statement of `Connection.__init__`: the `ppid`, unless the debug
server has disconnected. -/
def register (tokens : Tokens) (c : ServerClient) : Constructing (Option (Option ℤ)) := do
  c.authenticate tokens
  let (pid, ppid) ← c.ask
  c.inject
  if c.disconnected then return none
  if pid ∈ c.connections then raises (.other (c.name ++ " is already connected to this adapter"))
  else return some ppid

/-- `Connection.__init__`. -/
def construct (tokens : Tokens) (c : ServerClient) : Constructing PUnit := do
  attempts c.opening
  let ppid ← exceptException (c.register tokens) fun _ => do
    c.close
    return none
  match ppid with
  | none => return ⟨⟩
  | some ppid =>
      if ppid ∈ c.sessions then exceptException (attempts c.notify) fun _ => pure ⟨⟩
      else return ⟨⟩

end ServerClient

/-! ### The worker -/

/-- A client of either listener. -/
inductive Client where
  | ide (c : IDEClient)
  | server (c : ServerClient)

/-- `cls(sock)`. -/
def Client.construct (tokens : Tokens) : Client → Constructing PUnit
  | .ide c => c.construct
  | .server c => c.construct tokens

/-- What `accept()` does. -/
inductive Accepting where
  | client (c : Client)
  /-- It raises because the listener is closed. -/
  | listenerClosed
  /-- It raises another `OSError` with this text. -/
  | fails (text : String)

/-- What the worker has come to. -/
inductive AcceptWorker where
  /-- In `accept()`. -/
  | accepting
  /-- In a constructor, for good. -/
  | constructing (client : Client)
  /-- Out of its loop; `listening` says whether the listener is still open. -/
  | finished (listening : Bool)
  /-- Ended by an exception. -/
  | died (e : PyException)

/-- `accept_worker`, by what `accept()` does each time. -/
def acceptWorker (tokens : Tokens) : List Accepting → AcceptWorker
  | [] => .accepting
  | .listenerClosed :: _ => .finished false
  | .fails _ :: _ => .finished true
  | .client client :: rest =>
      match exec (client.construct tokens) false with
      | (.ok _, _) => acceptWorker tokens rest
      | (.error .never, _) => .constructing client
      | (.error (.raised e), _) => .died e

/-! ### Clients that let their constructors return -/

namespace Exchange

/-- The body of a successful response. -/
def body (x : Exchange) : Option Json :=
  match x.sending, x.answer with
  | .sent, some (.payload value) => some value
  | _, _ => none

/-- The request was sent, and is never answered. -/
def Never (x : Exchange) : Prop := x.sending = .sent ∧ x.answer = none

/-- The request was sent, and the response says that it failed. -/
def Refused (x : Exchange) : Prop :=
  x.sending = .sent ∧
    ∃ reason, x.answer = some (.handlingError reason) ∨ x.answer = some (.invalidMessage reason)

end Exchange

/-- The IDE has not disconnected by the time that the event is sent to it. -/
def IDEClient.Contained (c : IDEClient) : Prop := c.opening = none ∧ c.output = .sent

namespace ServerClient

/-- The debug server is authorized. -/
def Authorized (tokens : Tokens) (c : ServerClient) : Prop :=
  tokens.authenticate c.authorize.body = true

/-- What it says about its process. -/
def info (c : ServerClient) : Option (ℤ × Option ℤ) :=
  c.systemInfo.body.bind fun body => (processInfo c.systemInfo.request body).toOption

/-- It has another token than the adapter. -/
def Mismatched (tokens : Tokens) (c : ServerClient) : Prop :=
  tokens.configured = true ∧ ∃ items token, c.authorize.body = some (.dict items) ∧
    items.lookup "clientAccessToken" = some token ∧ tokens.matches? (some token) = false

/-- It neither answers one of the requests nor disconnects. -/
def Silent (tokens : Tokens) (c : ServerClient) : Prop :=
  (tokens.configured = true ∧ c.authorize.Never) ∨
  (c.Authorized tokens ∧ c.systemInfo.Never) ∨
  (c.Authorized tokens ∧ c.info.isSome ∧ c.evaluate.Never)

/-- It is dropped: it is not authorized, does not say what is to be known, disconnects, or
has the `pid` of another one. -/
def Dropped (tokens : Tokens) (c : ServerClient) : Prop :=
  ¬ c.Authorized tokens ∨ c.info = none ∨ ¬ (c.evaluate.body.isSome ∨ c.evaluate.Refused) ∨
    (c.disconnected = false ∧ ∃ info, c.info = some info ∧ info.1 ∈ c.connections)

/-- It does not keep its constructor from returning. -/
def Contained (tokens : Tokens) (c : ServerClient) : Prop :=
  c.opening = none ∧ ¬ c.Silent tokens ∧
    (c.Dropped tokens → c.closing = none ∨ c.Mismatched tokens)

end ServerClient

/-- The client does not keep its constructor from returning. -/
def Client.Contained (tokens : Tokens) : Client → Prop
  | .ide c => c.Contained
  | .server c => c.Contained tokens

/-- `accept()` returns a client that does not keep its constructor from returning. -/
def Accepting.Contained (tokens : Tokens) : Accepting → Prop
  | .client c => c.Contained tokens
  | _ => False

/-- `accept()` raises because the listener is closed. -/
def Accepting.isListenerClosed : Accepting → Bool
  | .listenerClosed => true
  | _ => false

/-- **The worker goes on to accept connections until the listener is closed.** -/
def Serves (tokens : Tokens) (events : List Accepting) : Prop :=
  acceptWorker tokens events = .accepting ∨ acceptWorker tokens events = .finished false

section Conversations

variable {tokens : Tokens} {name : String} {x : Exchange} {closed : Bool}

/-! ### What the parts of a conversation do -/

theorem exec_raises {α : Type} (e : PyException) :
    exec (raises e : Constructing α) closed = (.error (.raised e), closed) := rfl

theorem exec_exceptException_never {α : Type} {x : Constructing α}
    {handler : PyException → Constructing α} {closed' : Bool}
    (h : exec x closed = (.error .never, closed')) :
    exec (exceptException x handler) closed = (.error .never, closed') := by
  rw [exceptException, exec_tryCatch_error h]
  rfl

theorem exec_exceptException_raised {α : Type} {x : Constructing α} {closed' : Bool}
    {e : PyException} (handler : PyException → Constructing α)
    (h : exec x closed = (.error (.raised e), closed')) :
    exec (exceptException x handler) closed = exec (handler e) closed' := by
  rw [exceptException, exec_tryCatch_error h]

theorem Sending.perform_eq (sending : Sending) : (sending = .sent ∧
      exec (sending.perform name) closed = (.ok ⟨⟩, closed)) ∨
    (sending ≠ .sent ∧ ∃ e, (∀ type reason cause, e ≠ .handlingError type reason cause) ∧
      exec (sending.perform name) closed = (.error (.raised e), closed)) := by
  cases sending with
  | sent => exact Or.inl ⟨rfl, rfl⟩
  | closed => exact Or.inr ⟨by simp, _, by simp, rfl⟩
  | fails text => exact Or.inr ⟨by simp, _, by simp, rfl⟩

/-- **How a request ends**: with a body, never, with a failure, or with another exception. -/
theorem Exchange.perform_cases (x : Exchange) (name : String) (closed : Bool) :
    (∃ value, x.body = some value ∧ exec (x.perform name) closed = (.ok value, closed)) ∨
    (x.body = none ∧ x.Never ∧ exec (x.perform name) closed = (.error .never, closed)) ∨
    (x.body = none ∧ ¬ x.Never ∧ ∃ e, exec (x.perform name) closed = (.error (.raised e), closed) ∧
      ((∃ type reason cause, e = .handlingError type reason cause) ↔ x.Refused)) := by
  obtain ⟨request, sending, answer⟩ := x
  rcases @Sending.perform_eq name closed sending with ⟨rfl, hsend⟩ | ⟨hsent, e, he, hsend⟩
  · rw [perform, exec_bind_ok hsend]
    match answer with
    | none => exact Or.inr (Or.inl ⟨rfl, ⟨rfl, rfl⟩, rfl⟩)
    | some (.payload value) => exact Or.inl ⟨value, rfl, rfl⟩
    | some (.handlingError reason) =>
        exact Or.inr (Or.inr ⟨rfl, by simp [Never], _, rfl, by simp [Refused]⟩)
    | some (.invalidMessage reason) =>
        exact Or.inr (Or.inr ⟨rfl, by simp [Never], _, rfl, by simp [Refused]⟩)
    | some (.noMoreMessages text) =>
        exact Or.inr (Or.inr ⟨rfl, by simp [Never], _, rfl, by simp [Refused]⟩)
  · refine Or.inr (Or.inr ⟨?_, by simp [Never, hsent], e, ?_, ?_⟩)
    · cases sending with
      | sent => exact absurd rfl hsent
      | closed => rfl
      | fails text => rfl
    · rw [perform, exec_bind, hsend]
    · simp [Refused, hsent, he]

theorem Exchange.not_never_of_body {value : Json} (h : x.body = some value) : ¬ x.Never := by
  rintro ⟨hsent, hanswer⟩
  simp [Exchange.body, hsent, hanswer] at h

namespace ServerClient

variable {c : ServerClient}

/-- Closing the channel a second time does nothing. -/
theorem exec_close_again : exec c.close true = (.ok ⟨⟩, true) := rfl

theorem exec_close : (c.closing = none ∧ exec c.close false = (.ok ⟨⟩, true)) ∨
    (c.closing ≠ none ∧ ∃ e, exec c.close false = (.error (.raised e), true)) := by
  cases hclosing : c.closing with
  | none =>
      refine Or.inl ⟨rfl, ?_⟩
      simp only [close, exec_bind, exec_get, exec_set, Bool.false_eq_true, if_false, hclosing,
        Option.map_none, attempts, exec_pure]
  | some text =>
      refine Or.inr ⟨by simp, .other text, ?_⟩
      simp only [close, exec_bind, exec_get, exec_set, Bool.false_eq_true, if_false, hclosing,
        Option.map_some, attempts, exec_raises]

/-- **How the authorization ends**: it returns if the debug server is authorized; otherwise it
never returns, or raises, and then the channel is closed if the tokens differ. -/
theorem authenticate_cases (tokens : Tokens) (c : ServerClient) :
    (c.Authorized tokens ∧ exec (c.authenticate tokens) false = (.ok ⟨⟩, false)) ∨
    (¬ c.Authorized tokens ∧ (tokens.configured = true ∧ c.authorize.Never) ∧
      exec (c.authenticate tokens) false = (.error .never, false)) ∨
    (¬ c.Authorized tokens ∧ ¬ (tokens.configured = true ∧ c.authorize.Never) ∧
      ∃ e closed, exec (c.authenticate tokens) false = (.error (.raised e), closed) ∧
        (closed = true ↔ c.Mismatched tokens)) := by
  by_cases hconfigured : tokens.configured = true
  case neg =>
    refine Or.inl ⟨by simp [Authorized, Tokens.authenticate, hconfigured], ?_⟩
    rw [authenticate, if_neg hconfigured, exec_pure]
  case pos =>
    rw [authenticate, if_pos hconfigured]
    rcases c.authorize.perform_cases c.name false with
      ⟨value, hbody, hperform⟩ | ⟨hbody, hnever, hperform⟩ | ⟨hbody, hnever, e, hperform, -⟩
    · rw [exec_bind_ok hperform]
      have hauthorized : c.Authorized tokens ↔ tokens.carriedBy value = true := by
        simp [Authorized, Tokens.authenticate, hconfigured, hbody]
      have hnever := Exchange.not_never_of_body hbody
      split
      · next items =>
        split
        · next hlookup =>
          refine Or.inr (Or.inr ⟨?_, by simp [hnever], _, false, exec_raises _, ?_⟩)
          · simp [hauthorized, Tokens.carriedBy, hlookup, Tokens.matches?]
          · simp [Mismatched, hbody, hlookup]
        · next token hlookup =>
          by_cases hmatches : tokens.matches? (some token) = true
          · refine Or.inl ⟨by simp [hauthorized, Tokens.carriedBy, hlookup, hmatches], ?_⟩
            rw [if_pos hmatches, exec_pure]
          · -- the channel is closed before the error is raised, even if closing it raises
            have hmismatched : c.Mismatched tokens :=
              ⟨hconfigured, items, token, hbody, hlookup, by simpa using hmatches⟩
            refine Or.inr (Or.inr ⟨by simp [hauthorized, Tokens.carriedBy, hlookup, hmatches],
              by simp [hnever], ?_⟩)
            rw [if_neg hmatches]
            rcases c.exec_close with ⟨-, hclose⟩ | ⟨-, e, hclose⟩
            · exact ⟨_, true, by rw [exec_bind_ok hclose, exec_raises], by simp [hmismatched]⟩
            · exact ⟨e, true, by rw [exec_bind, hclose], by simp [hmismatched]⟩
      · next hno =>
        refine Or.inr (Or.inr ⟨?_, by simp [hnever], _, false, exec_raises _, ?_⟩)
        · rw [hauthorized, Tokens.carriedBy]
          · simp
          · exact hno
        · have hitems : ∀ items, value ≠ .dict items := hno
          simp [Mismatched, hbody, hitems]
    · refine Or.inr (Or.inl ⟨?_, ⟨hconfigured, hnever⟩, ?_⟩)
      · simp [Authorized, Tokens.authenticate, hconfigured, hbody]
      · rw [exec_bind, hperform]
    · refine Or.inr (Or.inr ⟨?_, by simp [hnever], e, false, ?_, ?_⟩)
      · simp [Authorized, Tokens.authenticate, hconfigured, hbody]
      · rw [exec_bind, hperform]
      · simp [Mismatched, hbody]

/-- An authorized debug server has answered "pydevdAuthorize", if it was asked. -/
theorem Authorized.not_never (h : c.Authorized tokens) :
    ¬ (tokens.configured = true ∧ c.authorize.Never) := by
  rintro ⟨hconfigured, hnever⟩
  have hbody : c.authorize.body = none := by
    simp [Exchange.body, hnever.1, hnever.2]
  simp [Authorized, Tokens.authenticate, hconfigured, hbody] at h

/-- Nor does its token differ. -/
theorem Authorized.not_mismatched (h : c.Authorized tokens) : ¬ c.Mismatched tokens := by
  rintro ⟨hconfigured, items, token, hbody, hlookup, hmatches⟩
  simp [Authorized, Tokens.authenticate, hconfigured, hbody, Tokens.carriedBy, hlookup,
    hmatches] at h

/-- **How asking for the process ends.** -/
theorem ask_cases (c : ServerClient) (closed : Bool) :
    (¬ c.systemInfo.Never ∧
      ∃ info, c.info = some info ∧ exec c.ask closed = (.ok info, closed)) ∨
    (c.info = none ∧ c.systemInfo.Never ∧ exec c.ask closed = (.error .never, closed)) ∨
    (c.info = none ∧ ¬ c.systemInfo.Never ∧
      ∃ e, exec c.ask closed = (.error (.raised e), closed)) := by
  rw [ask]
  rcases c.systemInfo.perform_cases c.name closed with
    ⟨value, hbody, hperform⟩ | ⟨hbody, hnever, hperform⟩ | ⟨hbody, hnever, e, hperform, -⟩
  · rw [exec_bind_ok hperform]
    cases hinfo : processInfo c.systemInfo.request value with
    | ok about =>
        exact Or.inl ⟨Exchange.not_never_of_body hbody, about,
          by simp [info, hbody, hinfo, Except.toOption], rfl⟩
    | error e =>
        exact Or.inr (Or.inr ⟨by simp [info, hbody, hinfo, Except.toOption],
          Exchange.not_never_of_body hbody, e, rfl⟩)
  · exact Or.inr (Or.inl ⟨by simp [info, hbody], hnever, by rw [exec_bind, hperform]⟩)
  · exact Or.inr (Or.inr ⟨by simp [info, hbody], hnever, e, by rw [exec_bind, hperform]⟩)

/-- **How the injection ends**: that the debug server cannot evaluate it does not matter. -/
theorem inject_cases (c : ServerClient) (closed : Bool) :
    ((c.evaluate.body.isSome ∨ c.evaluate.Refused) ∧ ¬ c.evaluate.Never ∧
      exec c.inject closed = (.ok ⟨⟩, closed)) ∨
    (c.evaluate.Never ∧ exec c.inject closed = (.error .never, closed)) ∨
    (¬ (c.evaluate.body.isSome ∨ c.evaluate.Refused) ∧ ¬ c.evaluate.Never ∧
      ∃ e, exec c.inject closed = (.error (.raised e), closed)) := by
  rw [inject]
  rcases c.evaluate.perform_cases c.name closed with
    ⟨value, hbody, hperform⟩ | ⟨hbody, hnever, hperform⟩ | ⟨hbody, hnever, e, hperform, he⟩
  · refine Or.inl ⟨Or.inl (by simp [hbody]), Exchange.not_never_of_body hbody, ?_⟩
    have hbind : exec (do let _ ← c.evaluate.perform c.name) closed = (.ok ⟨⟩, closed) := by
      rw [exec_bind_ok hperform, exec_pure]
    exact exec_tryCatch_ok hbind
  · refine Or.inr (Or.inl ⟨hnever, ?_⟩)
    have hbind : exec (do let _ ← c.evaluate.perform c.name) closed =
        (.error .never, closed) := by rw [exec_bind, hperform]
    rw [exceptHandlingError, exec_tryCatch_error hbind]
    rfl
  · have hbind : exec (do let _ ← c.evaluate.perform c.name) closed =
        (.error (.raised e), closed) := by rw [exec_bind, hperform]
    by_cases hrefused : c.evaluate.Refused
    · obtain ⟨type, reason, cause, rfl⟩ := he.mpr hrefused
      refine Or.inl ⟨Or.inr hrefused, hnever, ?_⟩
      rw [exceptHandlingError, exec_tryCatch_error hbind]
      rfl
    · refine Or.inr (Or.inr ⟨by simp [hbody, hrefused], hnever, e, ?_⟩)
      rw [exceptHandlingError, exec_tryCatch_error hbind]
      cases e with
      | handlingError type reason cause => exact absurd (he.mp ⟨type, reason, cause, rfl⟩) hrefused
      | _ => rfl

/-- **How the first `try` statement ends**: it waits forever for a silent debug server; it raises
for one that is dropped, and then the channel is closed just if the tokens differ; otherwise it
returns. -/
theorem register_cases (tokens : Tokens) (c : ServerClient) :
    (c.Silent tokens ∧ ∃ closed, exec (c.register tokens) false = (.error .never, closed)) ∨
    (¬ c.Silent tokens ∧ c.Dropped tokens ∧ ∃ e closed,
      exec (c.register tokens) false = (.error (.raised e), closed) ∧
        (closed = true ↔ c.Mismatched tokens)) ∨
    (¬ c.Silent tokens ∧ ¬ c.Dropped tokens ∧ ∃ ppid,
      exec (c.register tokens) false = (.ok ppid, false)) := by
  rcases authenticate_cases tokens c with ⟨hauthorized, hexec⟩ | ⟨hno, hnever, hexec⟩ |
    ⟨hno, hnever, e, closed, hexec, hclosed⟩
  case inr.inl =>
    exact Or.inl ⟨Or.inl hnever, false, by rw [register, exec_bind, hexec]⟩
  case inr.inr =>
    refine Or.inr (Or.inl ⟨?_, Or.inl hno, e, closed, by rw [register, exec_bind, hexec], hclosed⟩)
    rintro (h | ⟨h, -⟩ | ⟨h, -⟩)
    · exact hnever h
    · exact hno h
    · exact hno h
  case inl =>
    have hopen : (false = true) ↔ c.Mismatched tokens := by
      simp [hauthorized.not_mismatched]
    have hasked := hauthorized.not_never
    rw [register, exec_bind_ok hexec]
    rcases c.ask_cases false with ⟨hanswered, about, hinfo, hexec⟩ | ⟨hinfo, hnever, hexec⟩ |
      ⟨hinfo, hnever, e, hexec⟩
    case inr.inl =>
      exact Or.inl ⟨Or.inr (Or.inl ⟨hauthorized, hnever⟩), false, by rw [exec_bind, hexec]⟩
    case inr.inr =>
      refine Or.inr (Or.inl ⟨?_, Or.inr (Or.inl hinfo), e, false, by rw [exec_bind, hexec], hopen⟩)
      simp [Silent, hasked, hnever, hinfo]
    case inl =>
      rw [exec_bind_ok hexec]
      rcases c.inject_cases false with ⟨hinjected, hnever, hexec⟩ | ⟨hnever, hexec⟩ |
        ⟨hinjected, hnever, e, hexec⟩
      case inr.inl =>
        exact Or.inl ⟨Or.inr (Or.inr ⟨hauthorized, by simp [hinfo], hnever⟩), false,
          by rw [exec_bind, hexec]⟩
      case inr.inr =>
        refine Or.inr (Or.inl ⟨?_, Or.inr (Or.inr (Or.inl hinjected)), e, false,
          by rw [exec_bind, hexec], hopen⟩)
        simp [Silent, hasked, hanswered, hnever]
      case inl =>
        have hsilent : ¬ c.Silent tokens := by simp [Silent, hasked, hanswered, hnever]
        rw [exec_bind_ok hexec]
        by_cases hdisconnected : c.disconnected = true
        · refine Or.inr (Or.inr ⟨hsilent, ?_, none, ?_⟩)
          · simp [Dropped, hauthorized, hinfo, hinjected, hdisconnected]
          · rw [if_pos hdisconnected, exec_pure]
        · rw [if_neg hdisconnected]
          by_cases hclash : about.1 ∈ c.connections
          · rw [if_pos hclash]
            exact Or.inr (Or.inl ⟨hsilent, Or.inr (Or.inr (Or.inr ⟨by simpa using hdisconnected,
              about, hinfo, hclash⟩)), _, false, exec_raises _, hopen⟩)
          · refine Or.inr (Or.inr ⟨hsilent, ?_, some about.2, ?_⟩)
            · simp [Dropped, hauthorized, hinfo, hinjected, hclash]
            · rw [if_neg hclash, exec_pure]

end ServerClient

/-! ### The constructors -/

theorem exec_attempts {e : Option PyException} : (e = none ∧
      exec (attempts e) closed = (.ok ⟨⟩, closed)) ∨
    (e ≠ none ∧ ∃ e', exec (attempts e) closed = (.error (.raised e'), closed)) := by
  cases e with
  | none => exact Or.inl ⟨rfl, rfl⟩
  | some e => exact Or.inr ⟨by simp, e, rfl⟩

/-- The constructor returns. -/
def Returns (x : Constructing PUnit) : Prop := ∃ closed, exec x false = (.ok ⟨⟩, closed)

/-- **The constructor of an `IDE` returns** unless its client has disconnected. -/
theorem IDEClient.returns_iff (c : IDEClient) : Returns c.construct ↔ c.Contained := by
  rw [Returns, construct, Contained]
  rcases @exec_attempts false c.opening with ⟨hopening, hexec⟩ | ⟨hopening, e, hexec⟩
  · rw [exec_bind_ok hexec]
    rcases @Sending.perform_eq c.name false c.output with ⟨hsent, hexec⟩ | ⟨hsent, e, -, hexec⟩
    · rw [hexec]
      simp [hopening, hsent]
    · rw [hexec]
      simp [hsent]
  · rw [exec_bind, hexec]
    simp [hopening]

/-- **The constructor of a `Connection` returns** unless its client is silent, or cannot be
closed when it is dropped. -/
theorem ServerClient.returns_iff (tokens : Tokens) (c : ServerClient) :
    Returns (c.construct tokens) ↔ c.Contained tokens := by
  rw [Returns, construct, Contained]
  rcases @exec_attempts false c.opening with ⟨hopening, hexec⟩ | ⟨hopening, e, hexec⟩
  case inr =>
    rw [exec_bind, hexec]
    simp [hopening]
  case inl =>
    rw [exec_bind_ok hexec]
    rcases c.register_cases tokens with ⟨hsilent, closed, hexec⟩ |
      ⟨hsilent, hdropped, e, closed, hexec, hclosed⟩ | ⟨hsilent, hdropped, ppid, hexec⟩
    · rw [exec_bind, exec_exceptException_never hexec]
      simp [hsilent]
    · have hcaught := exec_exceptException_raised (fun _ => do
        c.close
        return none) hexec
      cases closed with
      | true =>
          -- `authenticate` has closed the channel
          rw [exec_bind_ok c.exec_close_again, exec_pure] at hcaught
          rw [exec_bind_ok hcaught, exec_pure]
          simp [hopening, hsilent, hclosed.mp rfl]
      | false =>
          have hno : ¬ c.Mismatched tokens := fun h => by simp [h] at hclosed
          rcases c.exec_close with ⟨hclosing, hclose⟩ | ⟨hclosing, e', hclose⟩
          · rw [exec_bind_ok hclose, exec_pure] at hcaught
            rw [exec_bind_ok hcaught, exec_pure]
            simp [hopening, hsilent, hclosing]
          · rw [exec_bind, hclose] at hcaught
            rw [exec_bind, hcaught]
            simp [hdropped, hclosing, hno]
    · rw [exceptException, exec_bind_ok (exec_tryCatch_ok hexec)]
      cases ppid with
      | none => simp [hopening, hsilent, hdropped]
      | some ppid =>
          by_cases hparent : ppid ∈ c.sessions
          · simp only [if_pos hparent]
            rcases @exec_attempts false c.notify with ⟨-, hexec⟩ | ⟨-, e, hexec⟩
            · rw [exceptException, exec_tryCatch_ok hexec]
              simp [hopening, hsilent, hdropped]
            · rw [exec_exceptException_raised _ hexec, exec_pure]
              simp [hopening, hsilent, hdropped]
          · simp [if_neg hparent, hopening, hsilent, hdropped]

/-- **A constructor returns if and only if its client lets it.** -/
theorem Client.returns_iff (tokens : Tokens) (client : Client) :
    Returns (client.construct tokens) ↔ client.Contained tokens := by
  cases client with
  | ide c => exact c.returns_iff
  | server c => exact c.returns_iff tokens

end Conversations

/-! ### The worker goes on -/

/-- **What becomes of the worker with a client**: it goes on if the constructor returns, and does
not serve any more otherwise. -/
theorem serves_client (tokens : Tokens) (client : Client) (rest : List Accepting) :
    Serves tokens (.client client :: rest) ↔
      Returns (client.construct tokens) ∧ Serves tokens rest := by
  rw [Serves, Serves, acceptWorker, Returns]
  rcases exec (client.construct tokens) false with ⟨(e | _) | _, closed⟩
  · simp
  · simp
  · simp

/-- **The worker goes on to accept connections until the listener is closed, if and only if**
each time before that, `accept()` returns a client that lets its constructor return. -/
theorem serves_iff (tokens : Tokens) (events : List Accepting) :
    Serves tokens events ↔
      ∀ event ∈ events.takeWhile fun event => !event.isListenerClosed, event.Contained tokens := by
  induction events with
  | nil => simp [Serves, acceptWorker]
  | cons event events ih =>
      cases event with
      | client c =>
          rw [serves_client, Client.returns_iff, ih,
            List.takeWhile_cons_of_pos (by rfl), List.forall_mem_cons]
          rfl
      | listenerClosed => simp [Serves, acceptWorker, Accepting.isListenerClosed]
      | fails text =>
          rw [List.takeWhile_cons_of_pos (by rfl), List.forall_mem_cons]
          simp [Serves, acceptWorker, Accepting.Contained]

/-- **An IDE that disconnects at once ends the worker**: the "output" event cannot be sent to
it. -/
theorem not_serves :
    ¬ Serves ⟨none, none⟩ [.client (.ide ⟨"IDE[1]", none, .closed⟩)] := by
  have hworker : acceptWorker ⟨none, none⟩ [.client (.ide ⟨"IDE[1]", none, .closed⟩)] =
      .died (.noMoreMessages "No more messages" "IDE[1]") := rfl
  simp [Serves, hworker]

end Ptvsd
