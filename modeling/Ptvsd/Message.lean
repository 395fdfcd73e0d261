import Ptvsd.Json

/-!
# Messages and Their Parsers

`Event._parse`, `Request._parse` and `Response._parse`, as far as they work on the
`MessageDict` alone: which properties they look up, in which order, with which validators,
and what they raise. What they do to the channel afterwards is in `Ptvsd.Channel`.

A `MessageDict` reports an invalid property through the message it belongs to,
`self.message.isnt_valid(...)`. While a message is being parsed there is no such message
yet, and the class `Message` stands in for it: `isnt_valid` is then called without an
instance, which raises `AttributeError`.

## Main results

* `parse_of_wellFormed`: a well-formed message parses.
* `parse_of_not_wellFormed`: **the parser of any other message raises `AttributeError`**,
  not `InvalidMessageError`.
-/

namespace Ptvsd

/-! ### Properties with values of a known type -/

/-- The number in a property that passed `json.of_type(int)`; `True` is 1. -/
def Property.toInt : Property → ℤ
  | some (.int n) => n
  | some (.bool true) => 1
  | _ => 0

/-- The text in a property that passed `json.of_type(unicode)`. -/
def Property.toText : Property → String
  | some (.str s) => s
  | _ => ""

/-- The truth value in a property that passed `json.of_type(bool)`. -/
def Property.toBool : Property → Bool
  | some (.bool b) => b
  | _ => false

/-! ### `MessageDict` -/

/-- A JSON object, and the message that it belongs to. -/
structure MessageDict where
  items : List (String × Json)
  /-- `None` until the message is instantiated. -/
  message : Option MessageId

namespace MessageDict

/-- `self.get(key, ())`. -/
def get (d : MessageDict) (key : String) : Property := d.items.lookup key

/-- The exception that `message.isnt_valid(reason)` makes, for the message of the dict or,
if it has none, for the class `Message`: then `reason` is taken for `self`. A message that is
a request is responded to at the same time; that is in `Ptvsd.DictOwner`. -/
def isntValid (d : MessageDict) (reason : String) : PyError :=
  match d.message with
  | some m => .invalidMessage reason (some m)
  | none => .attributeError "'str' object has no attribute 'error'"

/-- The text of the exception that `self(key, validate)` raises when the validator raises
one with the text `err`. -/
def describeInvalid (key err : String) : String :=
  jsonString key ++ (if err.startsWith "[" then err else " " ++ err)

/-- `self(key, validate)`. -/
def call (d : MessageDict) (key : String) (validate : Validator) : Except PyError Property :=
  match validate (d.get key) with
  | .ok value => .ok value
  | .error (.typeError err) => .error (d.isntValid (describeInvalid key err))
  | .error (.valueError err) => .error (d.isntValid (describeInvalid key err))
  | .error e => .error e

/-- `self(key, t)` for one of the types of `PyType`. -/
def typed (d : MessageDict) (key : String) (t : PyType) : Except PyError Property :=
  d.call key (ofType [t] false)

/-- The property is there, and an instance of `t`. -/
def Has (d : MessageDict) (key : String) (t : PyType) : Prop :=
  Property.isinstance (d.get key) t = true

instance (d : MessageDict) (key : String) (t : PyType) : Decidable (d.Has key t) :=
  inferInstanceAs (Decidable (_ = true))

/-- What is raised about the properties of a message that is not instantiated yet. -/
def unassociated : PyError := .attributeError "'str' object has no attribute 'error'"

theorem typed_of_has {d : MessageDict} {key : String} {t : PyType} (h : d.Has key t) :
    d.typed key t = .ok (d.get key) := by
  simp only [typed, call, ofType_of_isinstance h]

/-- **The error path of the parsers**: there is no message to report the error to. -/
theorem typed_of_not_has {d : MessageDict} {key : String} {t : PyType}
    (hd : d.message = none) (h : ¬ d.Has key t) : d.typed key t = .error unassociated := by
  rcases ofType_of_not_isinstance (Bool.not_eq_true _ ▸ h) with ⟨text, he⟩ | ⟨text, he⟩
  · simp only [typed, call, he, isntValid, hd, unassociated]
  · simp only [typed, call, he, isntValid, hd, unassociated]

end MessageDict

/-- `_payload`: a missing or null payload is treated as if it were `{}`. -/
def payload : Validator
  | none => .ok (some (.dict []))
  | some .null => .ok (some (.dict []))
  | some value => .ok (some value)

/-- The payload of a message, as `message_dict(key, _payload)` yields it. -/
def MessageDict.payload (d : MessageDict) (key : String) : Json :=
  match d.get key with
  | none => .dict []
  | some .null => .dict []
  | some value => value

theorem MessageDict.call_payload (d : MessageDict) (key : String) :
    d.call key Ptvsd.payload = .ok (some (d.payload key)) := by
  simp only [call, MessageDict.payload]
  match d.get key with
  | none | some .null | some (.bool _) | some (.int _) | some (.float _) | some (.str _)
  | some (.list _) | some (.dict _) => rfl

/-! ### Messages -/

/-- The body of a response: a payload, or an instance of `Exception`. -/
inductive Body where
  | payload (value : Json)
  /-- `MessageHandlingError(reason)`. -/
  | handlingError (reason : String)
  /-- `InvalidMessageError(reason)`. -/
  | invalidMessage (reason : String)
  /-- `NoMoreMessages(text)`. -/
  | noMoreMessages (text : String)

/-- `not isinstance(body, Exception)`. -/
def Body.success : Body → Bool
  | .payload _ => true
  | _ => false

/-- An incoming response. Its sequence number is `None` if it is synthesized. -/
structure Response where
  seq : Option ℤ
  requestSeq : ℤ
  command : String
  body : Body

/-- A fully parsed incoming message. -/
inductive Message where
  | event (seq : ℤ) (event : String) (body : Json)
  | request (seq : ℤ) (command : String) (arguments : Json)
  | response (response : Response)
  /-- The last message received from any channel. -/
  | disconnect

/-- `InvalidMessageError.PREFIX`. -/
def invalidMessagePrefix : String := "Invalid message: "

/-- The body of a failed response with this error message. -/
def Body.ofErrorMessage (errorMessage : String) : Body :=
  if invalidMessagePrefix.toList.isPrefixOf errorMessage.toList then
    .invalidMessage (String.ofList (errorMessage.toList.drop invalidMessagePrefix.length))
  else .handlingError errorMessage

/-! ### Parsers -/

/-- `Event._parse`. -/
def parseEvent (d : MessageDict) : Except PyError Message := do
  let seq ← d.typed "seq" .int
  let event ← d.typed "event" .unicode
  let body ← d.call "body" payload
  return .event seq.toInt event.toText (body.getD .null)

/-- `Request._parse`. -/
def parseRequest (d : MessageDict) : Except PyError Message := do
  let seq ← d.typed "seq" .int
  let command ← d.typed "command" .unicode
  let arguments ← d.call "arguments" payload
  return .request seq.toInt command.toText (arguments.getD .null)

/-- `Response._parse`, up to the request that it belongs to. A `body` is passed for the
responses that are synthesized on disconnect. -/
def parseResponse (d : MessageDict) (body : Option Body) : Except PyError Response := do
  let seq ← match body with
    | none => do
        let seq ← d.typed "seq" .int
        pure (some seq.toInt)
    | some _ => pure none
  let requestSeq ← d.typed "request_seq" .int
  let command ← d.typed "command" .unicode
  let success ← d.typed "success" .bool
  let body ← match body with
    | some body => pure body
    | none =>
        if success.toBool then do
          let body ← d.call "body" payload
          pure (.payload (body.getD .null))
        else do
          let errorMessage ← d.typed "message" .unicode
          pure (.ofErrorMessage errorMessage.toText)
  return ⟨seq, requestSeq.toInt, command.toText, body⟩

/-- The types of messages, the keys of `_message_parsers`. -/
def messageTypes : List String := ["event", "request", "response"]

/-- The parser that `_message_parsers` has for a type. -/
def parseAs (type : String) (d : MessageDict) : Except PyError Message :=
  if type = "event" then parseEvent d
  else if type = "request" then parseRequest d
  else (parseResponse d none).map .response

/-! ### Well-formed messages -/

/-- The message has one of the known types. -/
def MessageDict.HasType (d : MessageDict) : Prop :=
  ∃ type ∈ messageTypes, d.get "type" = some (.str type)

/-- All the properties that the parser of the type looks up are there and well typed. -/
def MessageDict.WellFormedAs (d : MessageDict) (type : String) : Prop :=
  if type = "event" then d.Has "seq" .int ∧ d.Has "event" .unicode
  else if type = "request" then d.Has "seq" .int ∧ d.Has "command" .unicode
  else d.Has "seq" .int ∧ d.Has "request_seq" .int ∧ d.Has "command" .unicode ∧
    d.Has "success" .bool ∧ ((d.get "success").toBool = false → d.Has "message" .unicode)

instance (d : MessageDict) (type : String) : Decidable (d.WellFormedAs type) :=
  inferInstanceAs (Decidable (if type = "event" then _ else if type = "request" then _ else _))

/-- A message that has a known type and all the properties of that type. -/
def MessageDict.WellFormed (d : MessageDict) : Prop :=
  ∃ type ∈ messageTypes, d.get "type" = some (.str type) ∧ d.WellFormedAs type

/-- The response that a well-formed dict stands for. -/
def MessageDict.toResponse (d : MessageDict) : Response where
  seq := some (d.get "seq").toInt
  requestSeq := (d.get "request_seq").toInt
  command := (d.get "command").toText
  body :=
    if (d.get "success").toBool then .payload (d.payload "body")
    else .ofErrorMessage (d.get "message").toText

/-- The message that a well-formed dict of a type stands for. -/
def MessageDict.toMessage (d : MessageDict) (type : String) : Message :=
  if type = "event" then
    .event (d.get "seq").toInt (d.get "event").toText (d.payload "body")
  else if type = "request" then
    .request (d.get "seq").toInt (d.get "command").toText (d.payload "arguments")
  else .response d.toResponse

variable {d : MessageDict}

theorem parseEvent_ok (hseq : d.Has "seq" .int) (hevent : d.Has "event" .unicode) :
    parseEvent d =
      .ok (.event (d.get "seq").toInt (d.get "event").toText (d.payload "body")) := by
  simp only [parseEvent, MessageDict.typed_of_has hseq, MessageDict.typed_of_has hevent,
    MessageDict.call_payload]
  rfl

theorem parseRequest_ok (hseq : d.Has "seq" .int) (hcommand : d.Has "command" .unicode) :
    parseRequest d =
      .ok (.request (d.get "seq").toInt (d.get "command").toText (d.payload "arguments")) := by
  simp only [parseRequest, MessageDict.typed_of_has hseq, MessageDict.typed_of_has hcommand,
    MessageDict.call_payload]
  rfl

theorem parseResponse_ok (hseq : d.Has "seq" .int) (hrequestSeq : d.Has "request_seq" .int)
    (hcommand : d.Has "command" .unicode) (hsuccess : d.Has "success" .bool)
    (hmessage : (d.get "success").toBool = false → d.Has "message" .unicode) :
    parseResponse d none = .ok d.toResponse := by
  simp only [parseResponse, MessageDict.typed_of_has hseq,
    MessageDict.typed_of_has hrequestSeq, MessageDict.typed_of_has hcommand,
    MessageDict.typed_of_has hsuccess, MessageDict.call_payload]
  cases hs : (d.get "success").toBool with
  | true => simp [bind, Except.bind, pure, Except.pure, hs, MessageDict.toResponse]
  | false =>
      simp [bind, Except.bind, pure, Except.pure, hs, MessageDict.toResponse,
        MessageDict.typed_of_has (hmessage hs)]

/-- The responses that are synthesized on disconnect parse. -/
theorem parseResponse_synthesized {body : Body} (hrequestSeq : d.Has "request_seq" .int)
    (hcommand : d.Has "command" .unicode) (hsuccess : d.Has "success" .bool) :
    parseResponse d (some body) =
      .ok ⟨none, (d.get "request_seq").toInt, (d.get "command").toText, body⟩ := by
  simp only [parseResponse, MessageDict.typed_of_has hrequestSeq,
    MessageDict.typed_of_has hcommand, MessageDict.typed_of_has hsuccess]
  rfl

/-- **A well-formed message parses.** -/
theorem parse_of_wellFormed {type : String} (h : d.WellFormedAs type) :
    parseAs type d = .ok (d.toMessage type) := by
  rw [MessageDict.WellFormedAs] at h
  unfold parseAs MessageDict.toMessage
  split_ifs at h ⊢ with hevent hrequest
  · exact parseEvent_ok h.1 h.2
  · exact parseRequest_ok h.1 h.2
  · obtain ⟨hseq, hrequestSeq, hcommand, hsuccess, hmessage⟩ := h
    rw [parseResponse_ok hseq hrequestSeq hcommand hsuccess hmessage]
    rfl

/-- **A message that is not well formed makes its parser raise `AttributeError`**: the
parser of a message cannot report that it is invalid. -/
theorem parse_of_not_wellFormed {type : String} (hd : d.message = none)
    (h : ¬ d.WellFormedAs type) : parseAs type d = .error MessageDict.unassociated := by
  have hmissing : ∀ {key t}, ¬ d.Has key t →
      d.typed key t = .error MessageDict.unassociated := MessageDict.typed_of_not_has hd
  rw [MessageDict.WellFormedAs] at h
  rw [parseAs]
  split_ifs at h ⊢ with hevent hrequest
  · by_cases hseq : d.Has "seq" .int
    · simp [parseEvent, MessageDict.typed_of_has hseq, hmissing (fun he => h ⟨hseq, he⟩),
        bind, Except.bind]
    · simp [parseEvent, hmissing hseq, bind, Except.bind]
  · by_cases hseq : d.Has "seq" .int
    · simp [parseRequest, MessageDict.typed_of_has hseq, hmissing (fun he => h ⟨hseq, he⟩),
        bind, Except.bind]
    · simp [parseRequest, hmissing hseq, bind, Except.bind]
  · by_cases hseq : d.Has "seq" .int
    · by_cases hrequestSeq : d.Has "request_seq" .int
      · by_cases hcommand : d.Has "command" .unicode
        · by_cases hsuccess : d.Has "success" .bool
          · have hmessage : (d.get "success").toBool = false ∧ ¬ d.Has "message" .unicode := by
              by_contra hno
              exact h ⟨hseq, hrequestSeq, hcommand, hsuccess, by tauto⟩
            simp [parseResponse, MessageDict.typed_of_has hseq,
              MessageDict.typed_of_has hrequestSeq, MessageDict.typed_of_has hcommand,
              MessageDict.typed_of_has hsuccess, hmessage.1, hmissing hmessage.2, bind,
              Except.bind, pure, Except.pure, Except.map]
          · simp [parseResponse, MessageDict.typed_of_has hseq,
              MessageDict.typed_of_has hrequestSeq, MessageDict.typed_of_has hcommand,
              hmissing hsuccess, bind, Except.bind, pure, Except.pure, Except.map]
        · simp [parseResponse, MessageDict.typed_of_has hseq,
            MessageDict.typed_of_has hrequestSeq, hmissing hcommand, bind, Except.bind, pure,
            Except.pure, Except.map]
      · simp [parseResponse, MessageDict.typed_of_has hseq, hmissing hrequestSeq, bind,
          Except.bind, pure, Except.pure, Except.map]
    · simp [parseResponse, hmissing hseq, bind, Except.bind, Except.map]

end Ptvsd
