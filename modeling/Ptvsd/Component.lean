import Ptvsd.Message
import Ptvsd.Program

/-!
# Handlers of the Components

What becomes of a request whose handler is wrapped by `Component.message_handler`: the
handler itself, the wrapper that converts its exceptions, `Request._handle` that turns the
result into a response, and `_run_handlers` that ends the process if an exception is left.

`Request._handle` compares the result of the handler with the body that was sent already by
identity, so that Python objects have one here: those that a handler returns or raises are
kept in a list, in the order in which they were made.

## Main results

* `handled_iff`: a handler that finishes in one of the ways that are provided for gets
  exactly one response sent, and leaves the process running, **if and only if** it does not
  raise the exception that `isnt_valid()` or `cant_handle()` makes for its own request.
-/

namespace Ptvsd

/-! ### Objects -/

/-- `MessageHandlingError` and the class derived from it. -/
inductive ErrorType where
  | messageHandlingError
  | invalidMessageError
  deriving DecidableEq

/-- The exceptions that a handler raises. -/
inductive PyException where
  /-- One of the classes of `ErrorType`, with its `reason` and its `cause`. -/
  | handlingError (type : ErrorType) (reason : String) (cause : Option MessageId)
  /-- `ComponentNotAvailable`, with the name of the type. -/
  | componentNotAvailable (type : String)
  /-- `JsonIOError`, with `stream.name`. -/
  | jsonIOError (text streamName : String)
  /-- `NoMoreMessages`, with `stream.name`. -/
  | noMoreMessages (text streamName : String)
  | assertionError (text : String)
  | other (text : String)
  deriving DecidableEq

/-- `str(exc)`. -/
def PyException.str : PyException → String
  | .handlingError .messageHandlingError reason _ => reason
  | .handlingError .invalidMessageError reason _ => invalidMessagePrefix ++ reason
  | .componentNotAvailable type => type ++ " is not available"
  | .jsonIOError text _ => text
  | .noMoreMessages text _ => text
  | .assertionError text => text
  | .other text => text

/-- A Python object that a handler returns or raises. -/
inductive PyObject where
  | payload (value : Json)
  | exception (exc : PyException)

/-- The identity of an object. -/
abbrev ObjectId := ℕ

/-- What a handler returns: two values are the same object if they are equal. -/
inductive Value where
  /-- `None`. -/
  | none
  /-- `NO_RESPONSE`. -/
  | noResponse
  | object (id : ObjectId)
  deriving DecidableEq

/-! ### Responses -/

/-- An incoming request. -/
structure IncomingRequest where
  id : MessageId
  seq : ℤ
  command : String
  /-- `describe()`. -/
  description : String
  /-- The name of the stream that it came from. -/
  streamName : String
  /-- `srcnameof(handler)` of its handler. -/
  handlerName : String

/-- The JSON of a response, and the request that it was made for. -/
structure SentResponse where
  request : MessageId
  requestSeq : ℤ
  command : String
  success : Bool
  message : Option String
  body : Option Json

/-- What the handler of a request works on. -/
structure World where
  objects : List PyObject
  /-- `request.response`, with its number and its body. -/
  response : Option (ℕ × Value)
  /-- `_closed` of the channel of the request. -/
  closed : Bool
  /-- The next number that `_seq_iter` of the channel yields. -/
  seqIter : ℕ
  /-- The responses written to the channel. -/
  written : List (ℕ × SentResponse)
  /-- `os._exit()` was called. -/
  exited : Bool

/-- A piece of Python that raises objects. -/
abbrev Python := Program World ObjectId

namespace World

/-- The exception that an object is. -/
def exception? (w : World) (id : ObjectId) : Option PyException :=
  match w.objects[id]? with
  | some (.exception exc) => some exc
  | _ => none

/-- `isinstance(body, Exception)`, with the exception. -/
def failure (w : World) : Value → Option PyException
  | .object id => w.exception? id
  | _ => none

/-- The `body` of a successful response: neither `None` nor `{}` is sent. -/
def body (w : World) : Value → Option Json
  | .object id =>
      match w.objects[id]? with
      | some (.payload (.dict [])) => none
      | some (.payload value) => some value
      | _ => none
  | _ => none

/-- The responses to a request that were written. -/
def responses (w : World) (request : IncomingRequest) : List (ℕ × SentResponse) :=
  w.written.filter fun p => p.2.request = request.id

end World

/-- Makes an object. -/
def new (obj : PyObject) : Python ObjectId := do
  let w ← get
  set { w with objects := w.objects ++ [obj] }
  return w.objects.length

/-- Raises a new exception. -/
def raise {α : Type} (exc : PyException) : Python α := do
  throw (← new (.exception exc))

/-- `assert condition, text`. -/
def pyAssert (condition : Bool) (text : String) : Python PUnit :=
  if condition then pure ⟨⟩ else raise (.assertionError text)

variable (request : IncomingRequest)

/-- The JSON that `Request.respond` makes. -/
def responseJson (w : World) (body : Value) : SentResponse where
  request := request.id
  requestSeq := request.seq
  command := request.command
  success := (w.failure body).isNone
  message := (w.failure body).map PyException.str
  body := w.body body

/-- `_send_message` of a response. -/
def sendResponse (d : SentResponse) : Python ℕ := do
  let w ← get
  let seq := w.seqIter
  set { w with seqIter := seq + 1 }
  if w.closed then raise (.noMoreMessages "No more messages" request.streamName)
  else
    modify fun w => { w with written := w.written ++ [(seq, d)] }
    return seq

/-- `Request.respond`. -/
def respond (body : Value) : Python PUnit := do
  let w ← get
  pyAssert w.response.isNone ""
  let seq ← sendResponse request (responseJson request w body)
  modify fun w => { w with response := some (seq, body) }

/-- `Message.error` of a request: the failure response is sent immediately. -/
def error (type : ErrorType) (reason : String) : Python ObjectId := do
  let exc ← new (.exception (.handlingError type reason (some request.id)))
  respond request (.object exc)
  return exc

/-- `Message.isnt_valid` of a request. -/
def isntValid (reason : String) : Python ObjectId := error request .invalidMessageError reason

/-- `Message.cant_handle` of a request. -/
def cantHandle (reason : String) : Python ObjectId :=
  error request .messageHandlingError reason

/-! ### The wrapper and the message loop -/

/-- `Component.message_handler`. -/
def messageHandler (f : Python Value) : Python Value :=
  tryCatch f fun id => do
    match (← get).exception? id with
    | some (.componentNotAvailable type) =>
        throw (← cantHandle request (PyException.componentNotAvailable type).str)
    -- `exc.propagate(message)`: a new instance with another cause
    | some (.handlingError type reason _) => raise (.handlingError type reason request.id)
    | some (.jsonIOError _ streamName) =>
        throw (← cantHandle request (streamName ++ " disconnected unexpectedly"))
    | some (.noMoreMessages _ streamName) =>
        throw (← cantHandle request (streamName ++ " disconnected unexpectedly"))
    | _ => throw id

/-- What `Request._handle` takes for the result of the handler: the exception, if it is a
`MessageHandlingError` that `applies_to()` the request. -/
def handlerResult (handler : Python Value) : Python Value :=
  tryCatch handler fun id => do
    match (← get).exception? id with
    | some (.handlingError _ _ cause) =>
        if cause = none ∨ cause = some request.id then return .object id else throw id
    | _ => throw id

/-- The text of an assertion about the handler. -/
def handlerText (must : String) : String :=
  "Handler " ++ request.handlerName ++ " for " ++ request.description ++ must

/-- The rest of `Request._handle`, which responds to the request unless that was done. -/
def handleResult (result : Value) : Python PUnit := do
  let w ← get
  match result, w.response with
  | .noResponse, response =>
      pyAssert response.isNone (handlerText request
        " must not return NO_RESPONSE if it has already invoked request.respond().")
  | result, some (_, body) =>
      pyAssert (result = .none ∨ result = body) (handlerText request
        " must not return a response body if it has already invoked request.respond().")
  | result, none => do
      pyAssert (result ≠ .none) (handlerText request
        (" must either call request.respond() before it returns, or return the response " ++
          "body, or return NO_RESPONSE."))
      tryCatch (respond request result) fun id => do
        match (← get).exception? id with
        | some (.noMoreMessages _ _) => return ⟨⟩
        | _ => throw id

/-- `Request._handle`; what it raises is logged and raised again. -/
def handle (handler : Python Value) : Python PUnit := do
  let result ← handlerResult request handler
  handleResult request result

/-- How `_run_handlers` runs a handler. -/
def runHandler (handler : Python PUnit) (w : World) : World :=
  match handler.exec w with
  | (.ok _, w) => w
  | (.error _, w) => { w with closed := true, exited := true }

/-! ### What the pieces do -/

section Exec

variable {request : IncomingRequest} {w w' : World} {body result : Value} {id : ObjectId}

/-- The world with one more object. -/
def World.alloc (w : World) (obj : PyObject) : World := { w with objects := w.objects ++ [obj] }

/-- The world after a response was sent. -/
def World.answered (w : World) (request : IncomingRequest) (body : Value) : World :=
  { w with
    seqIter := w.seqIter + 1
    written := w.written ++ [(w.seqIter, responseJson request w body)]
    response := some (w.seqIter, body) }

/-- The request can be responded to. -/
structure World.Open (w : World) : Prop where
  closed : w.closed = false
  response : w.response = none

theorem World.Open.alloc (h : w.Open) (obj : PyObject) : (w.alloc obj).Open :=
  ⟨h.closed, h.response⟩

@[simp] theorem World.exception?_alloc (exc : PyException) :
    (w.alloc (.exception exc)).exception? w.objects.length = some exc := by
  simp [exception?, World.alloc]

theorem exec_new (obj : PyObject) :
    (new obj).exec w = (.ok w.objects.length, w.alloc obj) := rfl

theorem exec_raise {α : Type} (exc : PyException) :
    (raise exc : Python α).exec w = (.error w.objects.length, w.alloc (.exception exc)) := rfl

theorem exec_respond (h : w.Open) :
    (respond request body).exec w = (.ok ⟨⟩, w.answered request body) := by
  obtain ⟨hclosed, hresponse⟩ := h
  simp only [respond, pyAssert, sendResponse, Program.exec_bind, Program.exec_get, hresponse,
    Option.isNone_none, if_true, Program.exec_pure, Program.exec_set, hclosed, if_false,
    Bool.false_eq_true, Program.exec_modify, World.answered]

theorem exec_error (h : w.Open) (type : ErrorType) (reason : String) :
    (error request type reason).exec w = (.ok w.objects.length,
      (w.alloc (.exception (.handlingError type reason request.id))).answered request
        (.object w.objects.length)) := by
  have hopen := h.alloc (.exception (.handlingError type reason request.id))
  rw [error, Program.exec_bind_ok (exec_new _), Program.exec_bind_ok (exec_respond hopen)]
  rfl

variable (request)

/-- The wrapper adds nothing to a handler that returns. -/
theorem messageHandler_returns {f : Python Value} (h : f.exec w = (.ok result, w')) :
    (messageHandler request f).exec w = (.ok result, w') :=
  Program.exec_tryCatch_ok h

/-- **The wrapper makes a new exception** of any `MessageHandlingError`. -/
theorem messageHandler_propagates {f : Python Value} {type : ErrorType} {reason : String}
    {cause : Option MessageId} (h : f.exec w = (.error id, w'))
    (hid : w'.exception? id = some (.handlingError type reason cause)) :
    (messageHandler request f).exec w = (.error w'.objects.length,
      w'.alloc (.exception (.handlingError type reason request.id))) := by
  rw [messageHandler, Program.exec_tryCatch_error h, Program.exec_bind_ok Program.exec_get, hid]
  exact exec_raise _

/-- The wrapper responds to the request if the handler cannot handle it because of `exc`. -/
theorem messageHandler_converts {f : Python Value} {exc : PyException}
    (h : f.exec w = (.error id, w')) (hopen : w'.Open) (hid : w'.exception? id = some exc)
    (hexc : (∃ type, exc = .componentNotAvailable type) ∨
      (∃ text streamName, exc = .jsonIOError text streamName) ∨
      ∃ text streamName, exc = .noMoreMessages text streamName) :
    ∃ reason, (messageHandler request f).exec w = (.error w'.objects.length,
      (w'.alloc (.exception (.handlingError .messageHandlingError reason request.id))).answered
        request (.object w'.objects.length)) := by
  have hcant : ∀ reason, (do throw (← cantHandle request reason) : Python Value).exec w' =
      (.error w'.objects.length,
        (w'.alloc (.exception (.handlingError .messageHandlingError reason request.id))).answered
          request (.object w'.objects.length)) := by
    intro reason
    rw [cantHandle, Program.exec_bind_ok (exec_error hopen .messageHandlingError reason)]
    rfl
  rcases hexc with ⟨type, rfl⟩ | ⟨text, streamName, rfl⟩ | ⟨text, streamName, rfl⟩
  all_goals
    rw [messageHandler, Program.exec_tryCatch_error h, Program.exec_bind_ok Program.exec_get, hid]
    exact ⟨_, hcant _⟩

/-- `Request._handle` goes on with what the handler returns. -/
theorem handle_returns {handler : Python Value} (h : handler.exec w = (.ok result, w')) :
    (handle request handler).exec w = (handleResult request result).exec w' :=
  Program.exec_bind_ok (Program.exec_tryCatch_ok h)

/-- `Request._handle` goes on with an exception that applies to the request. -/
theorem handle_catches {handler : Python Value} {type : ErrorType} {reason : String}
    (h : handler.exec w = (.error id, w'))
    (hid : w'.exception? id = some (.handlingError type reason request.id)) :
    (handle request handler).exec w = (handleResult request (.object id)).exec w' := by
  refine Program.exec_bind_ok ?_
  rw [handlerResult, Program.exec_tryCatch_error h, Program.exec_bind_ok Program.exec_get, hid]
  simp

/-- A result that is no answer gets sent. -/
theorem handleResult_responds (h : w.Open) (hnone : result ≠ .none)
    (hno : result ≠ .noResponse) :
    (handleResult request result).exec w = (.ok ⟨⟩, w.answered request result) := by
  cases result with
  | none => exact absurd rfl hnone
  | noResponse => exact absurd rfl hno
  | object id =>
      rw [handleResult, Program.exec_bind_ok Program.exec_get, h.response]
      simp only [pyAssert, ne_eq, reduceCtorEq, not_false_eq_true, decide_true, if_true]
      rw [Program.exec_bind_ok Program.exec_pure,
        Program.exec_tryCatch_ok (exec_respond h)]

/-- After a response was sent, the result is to be `None`, or its very body. -/
theorem handleResult_answered {seq : ℕ} (h : w.response = some (seq, body))
    (hno : result ≠ .noResponse) (hresult : result = .none ∨ result = body) :
    (handleResult request result).exec w = (.ok ⟨⟩, w) := by
  rw [handleResult, Program.exec_bind_ok Program.exec_get, h]
  cases result with
  | noResponse => exact absurd rfl hno
  | none => simp [pyAssert]
  | object id =>
      obtain rfl : .object id = body := hresult.resolve_left (by simp)
      simp [pyAssert]

/-- An exception that a handler raises is one for the message loop, unless it is a
`MessageHandlingError`. -/
theorem handle_passes {handler : Python Value} {exc : PyException}
    (h : handler.exec w = (.error id, w')) (hid : w'.exception? id = some exc)
    (hexc : ∀ type reason cause, exc ≠ .handlingError type reason cause) :
    (handle request handler).exec w = (.error id, w') := by
  have hresult : (handlerResult request handler).exec w = (.error id, w') := by
    rw [handlerResult, Program.exec_tryCatch_error h, Program.exec_bind_ok Program.exec_get, hid]
    cases exc with
    | handlingError type reason cause => exact absurd rfl (hexc type reason cause)
    | componentNotAvailable | jsonIOError | noMoreMessages | assertionError | other => rfl
  rw [handle, Program.exec_bind, hresult]

/-- What the message loop is left with ends the process. -/
theorem runHandler_error {handler : Python PUnit} (h : handler.exec w = (.error id, w')) :
    (runHandler handler w).exited = true := by
  rw [runHandler, h]

/-- A request that cannot be responded to: it was already, or the channel is closed. -/
theorem respond_raises (h : ¬ w.Open) (body : Value) :
    ∃ id w' exc, (respond request body).exec w = (.error id, w') ∧ ¬ w'.Open ∧
      w'.exception? id = some exc ∧
      ((∃ text, exc = .assertionError text) ∨ ∃ text name, exc = .noMoreMessages text name) := by
  cases hresponse : w.response with
  | some p =>
      have hexec : (respond request body).exec w =
          (.error w.objects.length, w.alloc (.exception (.assertionError ""))) := by
        rw [respond, Program.exec_bind_ok Program.exec_get, hresponse]
        rfl
      exact ⟨_, _, _, hexec, fun h' => h ⟨h'.closed, h'.response⟩, World.exception?_alloc _,
        Or.inl ⟨_, rfl⟩⟩
  | none =>
      have hclosed : w.closed = true := by
        by_contra hno
        exact h ⟨Bool.not_eq_true _ ▸ hno, hresponse⟩
      have hexec : (respond request body).exec w =
          (.error w.objects.length, { w with seqIter := w.seqIter + 1 }.alloc
            (.exception (.noMoreMessages "No more messages" request.streamName))) := by
        rw [respond, Program.exec_bind_ok Program.exec_get, hresponse]
        simp only [pyAssert, Option.isNone_none, if_true, sendResponse, Program.exec_bind,
          Program.exec_pure, Program.exec_get, Program.exec_set, hclosed, exec_raise, hresponse]
      exact ⟨_, _, _, hexec, fun h' => h ⟨h'.closed, h'.response⟩, World.exception?_alloc _,
        Or.inr ⟨_, _, rfl⟩⟩

/-- No exception is made for it then. -/
theorem error_raises (h : ¬ w.Open) (type : ErrorType) (reason : String) :
    ∃ id w' exc, (error request type reason).exec w = (.error id, w') ∧ ¬ w'.Open ∧
      w'.exception? id = some exc ∧
      ((∃ text, exc = .assertionError text) ∨ ∃ text name, exc = .noMoreMessages text name) := by
  obtain ⟨id, w', exc, hrespond, hends⟩ := respond_raises request
    (w := w.alloc (.exception (.handlingError type reason request.id)))
    (fun h' => h ⟨h'.closed, h'.response⟩) (.object w.objects.length)
  refine ⟨id, w', exc, ?_, hends⟩
  rw [error, Program.exec_bind_ok (exec_new _), Program.exec_bind, hrespond]

/-- Another object fails the assertion. -/
theorem handleResult_raises {seq : ℕ} (h : w.response = some (seq, body))
    (hne : .object id ≠ body) :
    ∃ exc w', (handleResult request (.object id)).exec w = (.error exc, w') := by
  rw [handleResult, Program.exec_bind_ok Program.exec_get, h]
  simp only [pyAssert, reduceCtorEq, hne, or_self, decide_false, Bool.false_eq_true, if_false]
  exact ⟨_, _, exec_raise _⟩

end Exec

/-! ### The ways in which a handler finishes -/

/-- What a handler does besides responding to its request: it makes objects, and writes
other messages, but leaves the objects there are, the responses to its request and the
channel alone. -/
structure World.Besides (w w' : World) (request : IncomingRequest) : Prop where
  objects : w.objects <+: w'.objects
  response : w'.response = w.response
  responses : w'.responses request = w.responses request
  closed : w'.closed = w.closed
  exited : w'.exited = w.exited

/-- The ways in which a handler finishes. -/
inductive Way where
  /-- It returns a body. -/
  | returns (success : Bool)
  /-- It calls `respond()` once and returns `None`. -/
  | responds (success : Bool)
  /-- It raises what `isnt_valid()` or `cant_handle()` makes for its own request. -/
  | raisesOwn
  /-- It raises a `MessageHandlingError` without a cause, or caused by another message. -/
  | raisesOther
  /-- It raises `ComponentNotAvailable`. -/
  | notAvailable
  /-- It raises `JsonIOError` for another channel. -/
  | ioError
  deriving DecidableEq

/-- It finishes normally, with a successful body. -/
def Way.success : Way → Bool
  | returns success => success
  | responds success => success
  | _ => false

/-- The body that is an object of the world. -/
def World.IsBody (w : World) (body : Value) (success : Bool) : Prop :=
  (∃ id, body = .object id ∧ id < w.objects.length) ∧ (w.failure body).isNone = success

/-- A handler that is run in `w` finishes in this way, with this outcome. -/
inductive Finishes (request : IncomingRequest) (w : World) :
    Way → Except ObjectId Value × World → Prop
  | returns {w' : World} {body : Value} {success : Bool} : w.Besides w' request →
      w'.IsBody body success → Finishes request w (.returns success) (.ok body, w')
  | responds {w₁ w₂ w' : World} {body : Value} {success : Bool} : w.Besides w₁ request →
      (body = .none ∧ success = true ∨ w₁.IsBody body success) →
      (respond request body).exec w₁ = (.ok ⟨⟩, w₂) → w₂.Besides w' request →
      Finishes request w (.responds success) (.ok .none, w')
  | raisesOwn {w₁ w₂ w' : World} {exc : ObjectId} {type : ErrorType} {reason : String} :
      w.Besides w₁ request → (error request type reason).exec w₁ = (.ok exc, w₂) →
      w₂.Besides w' request → Finishes request w .raisesOwn (.error exc, w')
  | raisesOther {w' : World} {exc : ObjectId} {type : ErrorType} {reason : String}
      {cause : Option MessageId} : w.Besides w' request →
      w'.exception? exc = some (.handlingError type reason cause) → cause ≠ some request.id →
      Finishes request w .raisesOther (.error exc, w')
  | notAvailable {w' : World} {exc : ObjectId} {type : String} : w.Besides w' request →
      w'.exception? exc = some (.componentNotAvailable type) →
      Finishes request w .notAvailable (.error exc, w')
  | ioError {w' : World} {exc : ObjectId} {text streamName : String} : w.Besides w' request →
      w'.exception? exc = some (.jsonIOError text streamName) ∨
        w'.exception? exc = some (.noMoreMessages text streamName) →
      Finishes request w .ioError (.error exc, w')

/-- The request is handled properly: exactly one response to it is written, of success or
not; `Request._handle` does not raise; and the process goes on. -/
structure Handled (request : IncomingRequest) (f : Python Value) (w : World)
    (success : Bool) : Prop where
  returns : ∃ w', (handle request (messageHandler request f)).exec w = (.ok ⟨⟩, w')
  response : ∃ p, World.responses (runHandler (handle request (messageHandler request f)) w)
    request = [p] ∧ p.2.success = success
  running : (runHandler (handle request (messageHandler request f)) w).exited = false

section Handled

variable {request : IncomingRequest} {w w' : World} {f : Python Value} {body : Value}

/-- A request that was just received, on an open channel. -/
structure World.Pending (w : World) (request : IncomingRequest) : Prop where
  isOpen : w.Open
  responses : w.responses request = []
  exited : w.exited = false

theorem World.Pending.besides (h : w.Pending request) (hb : w.Besides w' request) :
    w'.Pending request :=
  ⟨⟨hb.closed.trans h.isOpen.closed, hb.response.trans h.isOpen.response⟩,
    hb.responses.trans h.responses, hb.exited.trans h.exited⟩

theorem World.Pending.alloc (h : w.Pending request) (obj : PyObject) :
    (w.alloc obj).Pending request :=
  ⟨h.isOpen.alloc obj, h.responses, h.exited⟩

/-- **The request was responded to once.** -/
structure World.Answered (w : World) (request : IncomingRequest) (body : Value)
    (success : Bool) : Prop where
  response : ∃ seq, w.response = some (seq, body)
  responses : ∃ p, w.responses request = [p] ∧ p.2.success = success
  exited : w.exited = false

theorem World.Pending.answered (h : w.Pending request) (body : Value) :
    (w.answered request body).Answered request body (w.failure body).isNone := by
  refine ⟨⟨_, rfl⟩, ⟨(w.seqIter, responseJson request w body), ?_, rfl⟩, h.exited⟩
  have hnone := h.responses
  simp only [World.responses] at hnone
  simp [World.responses, World.answered, hnone, responseJson]

theorem World.Answered.besides {success : Bool} (h : w.Answered request body success)
    (hb : w.Besides w' request) : w'.Answered request body success := by
  obtain ⟨⟨seq, hresponse⟩, ⟨p, hp, hsuccess⟩, hexited⟩ := h
  exact ⟨⟨seq, hb.response.trans hresponse⟩, ⟨p, hb.responses.trans hp, hsuccess⟩,
    hb.exited.trans hexited⟩

/-- The request is handled properly if it is answered at the end. -/
theorem handled_of_answered {success : Bool}
    (h : (handle request (messageHandler request f)).exec w = (.ok ⟨⟩, w'))
    (hw : w'.Answered request body success) : Handled request f w success := by
  have hrun : runHandler (handle request (messageHandler request f)) w = w' := by
    rw [runHandler, h]
  exact ⟨⟨w', h⟩, hrun ▸ hw.responses, hrun ▸ hw.exited⟩

/-- A handler that returns a body, which is then sent. -/
theorem handled_returns {success : Bool} (hw : w.Pending request) (hb : w.Besides w' request)
    (hbody : w'.IsBody body success) (h : f.exec w = (.ok body, w')) :
    Handled request f w success := by
  obtain ⟨⟨id, rfl, -⟩, rfl⟩ := hbody
  have hpending := hw.besides hb
  have hexec := handle_returns request (messageHandler_returns request h)
  rw [handleResult_responds request hpending.isOpen (by simp) (by simp)] at hexec
  exact handled_of_answered hexec (hpending.answered _)

/-- A handler that responds, and returns `None`. -/
theorem handled_responds {success : Bool} (hw : w'.Answered request body success)
    (h : f.exec w = (.ok .none, w')) : Handled request f w success := by
  obtain ⟨seq, hresponse⟩ := hw.response
  have hexec := handle_returns request (messageHandler_returns request h)
  rw [handleResult_answered request hresponse (by simp) (Or.inl rfl)] at hexec
  exact handled_of_answered hexec hw

/-- A handler that raises a `MessageHandlingError`, without having responded: the wrapper
makes a new one, which is sent. -/
theorem handled_raisesOther {exc : ObjectId} {type : ErrorType} {reason : String}
    {cause : Option MessageId} (hw : w.Pending request) (hb : w.Besides w' request)
    (hexc : w'.exception? exc = some (.handlingError type reason cause))
    (h : f.exec w = (.error exc, w')) : Handled request f w false := by
  set w'' := w'.alloc (.exception (.handlingError type reason request.id)) with hw''
  have hpending : w''.Pending request := (hw.besides hb).alloc _
  have hnew : w''.exception? w'.objects.length =
      some (.handlingError type reason request.id) := World.exception?_alloc _
  have hexec := handle_catches request (messageHandler_propagates request h hexc) hnew
  rw [handleResult_responds request hpending.isOpen (by simp) (by simp)] at hexec
  have hanswered := hpending.answered (.object w'.objects.length)
  rw [World.failure, hnew] at hanswered
  exact handled_of_answered hexec hanswered

/-- A handler that raises another exception that the wrapper converts: the wrapper has
responded by then, with the very exception that it raises. -/
theorem handled_converts {exc : ObjectId} {e : PyException} (hw : w.Pending request)
    (hb : w.Besides w' request) (hexc : w'.exception? exc = some e)
    (he : (∃ type, e = .componentNotAvailable type) ∨
      (∃ text streamName, e = .jsonIOError text streamName) ∨
      ∃ text streamName, e = .noMoreMessages text streamName)
    (h : f.exec w = (.error exc, w')) : Handled request f w false := by
  have hpending := hw.besides hb
  obtain ⟨reason, hwrapper⟩ :=
    messageHandler_converts request h hpending.isOpen hexc he
  set w'' := w'.alloc
    (.exception (.handlingError .messageHandlingError reason request.id)) with hw''
  have hnew : w''.exception? w'.objects.length =
      some (.handlingError .messageHandlingError reason request.id) := World.exception?_alloc _
  have hexec := handle_catches request hwrapper hnew
  rw [handleResult_answered request rfl (by simp) (Or.inr rfl)] at hexec
  have hanswered := (hpending.alloc (.exception (.handlingError .messageHandlingError reason
    request.id))).answered (.object w'.objects.length)
  rw [World.failure, hnew] at hanswered
  exact handled_of_answered hexec hanswered

/-- Objects that are left alone stay what they are. -/
theorem World.exception?_of_prefix {exc : ObjectId} {e : PyException}
    (hobjects : w.objects <+: w'.objects) (h : w.exception? exc = some e) :
    w'.exception? exc = some e := by
  obtain ⟨objects, hobjects⟩ := hobjects
  have hlt : exc < w.objects.length := by
    by_contra hge
    simp [World.exception?, List.getElem?_eq_none (Nat.not_lt.mp hge)] at h
  rw [World.exception?, ← hobjects, List.getElem?_append_left hlt]
  exact h

theorem World.Besides.exception? {exc : ObjectId} {e : PyException}
    (hb : w.Besides w' request) (h : w.exception? exc = some e) :
    w'.exception? exc = some e :=
  World.exception?_of_prefix hb.objects h

/-- **A handler that raises the exception made for its own request ends the process**: the
failure was sent by `isnt_valid()` or `cant_handle()`, and what `Request._handle` catches is
not the exception sent, but the new one that the wrapper made. -/
theorem not_handled_raisesOwn {w₁ w₂ : World} {exc : ObjectId} {type : ErrorType}
    {reason : String} {success : Bool} (hw : w.Pending request) (hb : w.Besides w₁ request)
    (herror : (error request type reason).exec w₁ = (.ok exc, w₂))
    (hb' : w₂.Besides w' request) (h : f.exec w = (.error exc, w')) :
    ¬ Handled request f w success := by
  have hpending := hw.besides hb
  rw [exec_error hpending.isOpen, Prod.mk.injEq, Except.ok.injEq] at herror
  obtain ⟨rfl, rfl⟩ := herror
  have hown := hb'.exception?
    (World.exception?_alloc (w := w₁) (.handlingError type reason request.id))
  have hlt : w₁.objects.length < w'.objects.length := by
    have hlen := hb'.objects.length_le
    simp only [World.answered, World.alloc, List.length_append, List.length_singleton] at hlen
    omega
  have hnew : (w'.alloc (.exception (.handlingError type reason request.id))).exception?
      w'.objects.length = some (.handlingError type reason request.id) :=
    World.exception?_alloc _
  have hexec := handle_catches request (messageHandler_propagates request h hown) hnew
  have hresponse : (w'.alloc (.exception (.handlingError type reason request.id))).response =
      some (_, .object w₁.objects.length) := hb'.response
  have hne : Value.object w'.objects.length ≠ .object w₁.objects.length := by
    simpa using hlt.ne'
  obtain ⟨e, w'', hraises⟩ := handleResult_raises request hresponse hne
  rintro ⟨⟨_, hreturns⟩, -, -⟩
  rw [hexec, hraises] at hreturns
  simp at hreturns

/-- **A request is handled properly if and only if** its handler does not raise the
exception that `isnt_valid()` or `cant_handle()` makes for that very request: exactly one
response is written, it is successful if and only if the handler finished normally with a
successful body, and neither `Request._handle` nor the process ends with an exception. -/
theorem handled_iff {way : Way} (hw : w.Pending request)
    (h : Finishes request w way (f.exec w)) :
    Handled request f w way.success ↔ way ≠ .raisesOwn := by
  generalize hend : f.exec w = outcome at h
  cases h with
  | returns hb hbody => simpa [Way.success] using handled_returns hw hb hbody hend
  | @responds w₁ w₂ w' body success hb hbody hrespond hb' =>
      have hpending := hw.besides hb
      rw [exec_respond hpending.isOpen, Prod.mk.injEq] at hrespond
      obtain ⟨-, rfl⟩ := hrespond
      have hsuccess : (w₁.failure body).isNone = success := by
        rcases hbody with ⟨rfl, rfl⟩ | ⟨-, hbody⟩
        · rfl
        · exact hbody
      have hanswered := hpending.answered body
      rw [hsuccess] at hanswered
      simpa [Way.success] using handled_responds (hanswered.besides hb') hend
  | raisesOwn hb herror hb' =>
      simpa [Way.success] using not_handled_raisesOwn hw hb herror hb' hend
  | raisesOther hb hexc _ => simpa [Way.success] using handled_raisesOther hw hb hexc hend
  | notAvailable hb hexc =>
      simpa [Way.success] using handled_converts hw hb hexc (Or.inl ⟨_, rfl⟩) hend
  | ioError hb hexc =>
      rcases hexc with hexc | hexc
      · simpa [Way.success] using
          handled_converts hw hb hexc (Or.inr (Or.inl ⟨_, _, rfl⟩)) hend
      · simpa [Way.success] using
          handled_converts hw hb hexc (Or.inr (Or.inr ⟨_, _, rfl⟩)) hend

end Handled

/-- The request that starts a session. -/
def initializeRequest : IncomingRequest :=
  ⟨0, 1, "initialize", "#1 request \"initialize\" from IDE[1]", "IDE[1]", "initialize_request"⟩

/-- A channel on which nothing was sent yet. -/
def World.idle : World := ⟨[], none, false, 1, [], false⟩

theorem World.idle_pending : World.idle.Pending initializeRequest := ⟨⟨rfl, rfl⟩, rfl, rfl⟩

theorem World.Besides.refl {w : World} {request : IncomingRequest} : w.Besides w request :=
  ⟨List.prefix_rfl, rfl, rfl, rfl, rfl⟩

theorem handled_iff_initialize :
    ∃ f way, World.idle.Pending initializeRequest ∧
      Finishes initializeRequest .idle way (Program.exec f .idle) ∧
      (Handled initializeRequest f .idle way.success ↔ way ≠ .raisesOwn) := by
  set f : Python Value := do
    let id ← new (.payload (.dict [("supportsTerminateRequest", .bool true)]))
    return .object id with hf
  have hfinishes : Finishes initializeRequest .idle (.returns true) (Program.exec f .idle) :=
    .returns ⟨List.nil_prefix, rfl, rfl, rfl, rfl⟩ ⟨⟨0, rfl, Nat.one_pos⟩, rfl⟩
  exact ⟨f, _, World.idle_pending, hfinishes, handled_iff World.idle_pending hfinishes⟩

/-- **A request that is not valid ends the process**, when its handler says so in the way
that the handlers of the adapter do. -/
theorem not_handled :
    ¬ ∀ (request : IncomingRequest) (w : World) (f : Python Value) (way : Way),
      w.Pending request → Finishes request w way (Program.exec f w) →
        Handled request f w way.success := by
  intro h
  set f : Python Value := do
    throw (← isntValid initializeRequest "Session is already initialized") with hf
  have herror := @exec_error initializeRequest _ World.idle_pending.isOpen
    .invalidMessageError "Session is already initialized"
  have hexec : Program.exec f .idle = _ := Program.exec_bind_ok herror
  have hfinishes : Finishes initializeRequest .idle .raisesOwn (Program.exec f .idle) :=
    hexec ▸ .raisesOwn .refl herror .refl
  exact not_handled_raisesOwn World.idle_pending .refl herror .refl hexec
    (h _ _ f _ World.idle_pending hfinishes)

end Ptvsd
