import Ptvsd.Component
import Ptvsd.Disconnect
import Ptvsd.PropertyOrder
import Ptvsd.Sending

/-!
# Delegated Requests

A handler that calls `channel.delegate(request)` sends the request on, waits for the response,
and has it sent back as its own. So the response is decoded and encoded again by every party that
it passes, and a failure becomes an exception and a text again each time. `Request._handle` and
the wrapper of `Component` are those of `Ptvsd.Component`, and the JSON of a request is that of
`Ptvsd.Sending`.

Every party has a world of its own, with a channel to the party that it got the request from. It
is taken for granted that the channel is open, as there is no response at the other end otherwise.

## Main results

* `roundTrip_chain`: **what any number of proxies adds is nothing**: the last party decodes the
  request, and the first one the response, as if they were connected.
* `delegate_transparent`: the outcome arrives, unless it is a `MessageHandlingError` with the
  text of an `InvalidMessageError`, which is what it then arrives as.
-/

namespace Ptvsd

/-! ### Payloads and failures -/

/-- A payload, where `None` is treated as if it were `{}`. -/
def Json.orEmpty : Json → Json
  | .null => .dict []
  | value => value

/-- A payload that was sent, as it is decoded. -/
def Json.received (value : Json) : Json := value.orEmpty.hooked

/-- The text starts with `InvalidMessageError.PREFIX`. -/
def Prefixed (text : String) : Bool :=
  invalidMessagePrefix.toList.isPrefixOf text.toList

/-- What decoding a response does with the values in it. -/
def Body.hooked : Body → Body
  | .payload value => .payload value.hooked
  | body => body

/-- The body can be that of a response that was received. -/
def Body.Received : Body → Prop
  | .payload value => value ≠ .null
  | .handlingError reason => Prefixed reason = false
  | .invalidMessage _ => True
  | .noMoreMessages _ => False

/-- The JSON of a response, in the order of `_prettify`. -/
def SentResponse.items (seq : ℕ) (d : SentResponse) : List (String × Json) :=
  [("seq", .int seq), ("type", .str "response"), ("request_seq", .int d.requestSeq),
    ("success", .bool d.success), ("command", .str d.command)] ++
  (d.message.toList.map fun text => ("message", .str text)) ++
  (d.body.toList.map fun value => ("body", value))

/-- The JSON is a response to the request with this number. -/
structure MessageDict.Answers (d : MessageDict) (seq : ℤ) : Prop where
  type : d.get "type" = some (.str "response")
  wellFormed : d.WellFormedAs "response"
  requestSeq : (d.get "request_seq").toInt = seq

/-! ### The parties -/

/-- What the other end of a channel makes of a request. -/
structure Delivery where
  seq : ℤ
  command : String
  arguments : Json

/-- Everything behind a channel: from the JSON that is written there, what the last party
decodes, and the JSON that is written back. -/
abbrev Peer := Json → Option (Delivery × Json)

/-- `send_request(command, arguments)`, and the body of its response. -/
def roundTrip (peer : Peer) (seq : ℕ) (command : String) (arguments : Json) :
    Option (Delivery × Body) := do
  let (delivery, answer) ← peer (Endpoint.requestJson seq command arguments)
  match parseIncoming answer.hooked with
  | .message (.response response) =>
      if response.requestSeq = seq then some (delivery, response.body) else none
  | _ => none

/-- A party that handles requests. -/
structure Party where
  /-- The world in which the request is handled. -/
  world : World
  /-- The identity of the `Request`. -/
  id : MessageId
  description : String
  streamName : String
  handlerName : String
  isOpen : world.Open
  running : world.exited = false
  unanswered : ∀ p ∈ world.written, p.2.request ≠ id

/-- The `Request` of a party. -/
def Party.request (p : Party) (seq : ℤ) (command : String) : IncomingRequest :=
  ⟨p.id, seq, command, p.description, p.streamName, p.handlerName⟩

/-- The response that is written when the request is handled. -/
def Party.answer (p : Party) (request : IncomingRequest) (handler : Python Value) :
    Option Json :=
  match (runHandler (handle request handler) p.world).responses request with
  | [(seq, d)] => some (.dict (d.items seq))
  | _ => none

/-- `wait_for_response()` of a request that was sent, for a response with this body. -/
def waitForResponse (sent : MessageId) (streamName : String) : Body → Python Value
  | .payload value => do return .object (← new (.payload value))
  | .handlingError reason => raise (.handlingError .messageHandlingError reason (some sent))
  | .invalidMessage reason => raise (.handlingError .invalidMessageError reason (some sent))
  | .noMoreMessages text => raise (.noMoreMessages text streamName)

/-- `channel.delegate(message)`, for a response with this body. -/
def delegate (request : IncomingRequest) (sent : MessageId) (streamName : String)
    (body : Body) : Python Value :=
  tryCatch (waitForResponse sent streamName body) fun id => do
    match (← get).exception? id with
    -- `exc.propagate(message)`
    | some (.handlingError type reason _) =>
        raise (.handlingError type reason (some request.id))
    | _ => throw id

/-- A party that delegates its requests. -/
structure Proxy extends Party where
  /-- The identity of the `OutgoingRequest`. -/
  sent : MessageId
  /-- The name of the stream of the channel that it delegates to, and the next number that
  `_seq_iter` of that channel yields. -/
  downstreamName : String
  seqIter : ℕ
  /-- Whether the handler is wrapped by `Component.message_handler`. -/
  wrapped : Bool

/-- The handler of a proxy: `return channel.delegate(request)`. -/
def Proxy.handler (p : Proxy) (request : IncomingRequest) (body : Body) : Python Value :=
  let f := delegate request p.sent p.downstreamName body
  if p.wrapped then messageHandler request f else f

/-- What a proxy does with what is written to it. -/
def Proxy.peer (p : Proxy) (next : Peer) : Peer := fun json =>
  match parseIncoming json.hooked with
  | .message (.request seq command arguments) => do
      let (delivery, body) ← roundTrip next p.seqIter command arguments
      let request := p.request seq command
      let answer ← p.answer request (p.handler request body)
      some (delivery, answer)
  | _ => none

/-- The last party: it answers requests in any way that the protocol allows. -/
structure Downstream where
  answer : Delivery → List (String × Json)
  answers : ∀ delivery : Delivery, MessageDict.Answers ⟨answer delivery, none⟩ delivery.seq

/-- It answers what it can parse as a request. -/
def Downstream.peer (downstream : Downstream) : Peer := fun json =>
  match parseIncoming json.hooked with
  | .message (.request seq command arguments) =>
      some (⟨seq, command, arguments⟩, .dict (downstream.answer ⟨seq, command, arguments⟩))
  | _ => none

/-- The body that its answer is decoded to, right behind it. -/
def Downstream.decoded (downstream : Downstream) (delivery : Delivery) : Body :=
  (MessageDict.toResponse ⟨downstream.answer delivery, none⟩).body.hooked

/-- What is behind the channel of the first party: any number of proxies in a row, and the
last party. -/
def chain (proxies : List Proxy) (downstream : Downstream) : Peer :=
  proxies.foldr Proxy.peer downstream.peer

/-! ### Outcomes -/

/-- What the last party makes of a request, if it uses `Request.respond` itself. -/
inductive Outcome where
  | success (body : Json)
  | failure (type : ErrorType) (reason : String)

/-- The argument of `respond()`; a `None` is no object that was made for it. -/
def Outcome.value (request : IncomingRequest) : Outcome → Python Value
  | .success .null => return .none
  | .success body => do return .object (← new (.payload body))
  | .failure type reason => do
      return .object (← new (.exception (.handlingError type reason (some request.id))))

/-- A handler that responds with the outcome. -/
def Outcome.handler (request : IncomingRequest) (outcome : Outcome) : Python Value := do
  respond request (← outcome.value request)
  return .none

/-- The response that is written for an outcome. -/
def Outcome.response (request : IncomingRequest) : Outcome → SentResponse
  | .success body => ⟨request.id, request.seq, request.command, true, none,
      (Endpoint.payloadEntry "body" body).head?.map Prod.snd⟩
  | .failure type reason => ⟨request.id, request.seq, request.command, false,
      some (PyException.handlingError type reason (some request.id)).str, none⟩

/-- The body is the outcome: the same value but for the order of properties, or an exception of
the same class with the same text. -/
def Outcome.Arrives : Outcome → Body → Prop
  | .success body, .payload value => value.Same body.orEmpty
  | .failure .messageHandlingError reason, .handlingError reason' => reason' = reason
  | .failure .invalidMessageError reason, .invalidMessage reason' => reason' = reason
  | _, _ => False

/-! ### Decoding -/

variable {items : List (String × Json)} {type key text reason command : String} {seq : ℤ}
  {property : Property} {t : PyType} {value arguments : Json} {body : Body}

/-- Only objects are changed, and remain objects. -/
theorem isinstance_hooked (value : Json) (t : PyType) :
    value.hooked.isinstance t = value.isinstance t := by
  cases value <;> simp [Json.hooked, Json.objectHook] <;> cases t <;> rfl

theorem Property.isinstance_hooked (property : Property) (t : PyType) :
    Property.isinstance (property.map Json.hooked) t = Property.isinstance property t := by
  cases property with
  | none => rfl
  | some value => exact Ptvsd.isinstance_hooked value t

@[simp] theorem Property.toInt_hooked (property : Property) :
    Property.toInt (property.map Json.hooked) = property.toInt := by
  rcases property with - | value
  · rfl
  · cases value <;> simp [Json.hooked, Json.objectHook, Property.toInt]

@[simp] theorem Property.toText_hooked (property : Property) :
    Property.toText (property.map Json.hooked) = property.toText := by
  rcases property with - | value
  · rfl
  · cases value <;> simp [Json.hooked, Json.objectHook, Property.toText]

@[simp] theorem Property.toBool_hooked (property : Property) :
    Property.toBool (property.map Json.hooked) = property.toBool := by
  rcases property with - | value
  · rfl
  · cases value <;> simp [Json.hooked, Json.objectHook, Property.toBool]

/-- **A message that is well formed is decoded**, with its properties in some order. -/
theorem parseIncoming_hooked (hmem : type ∈ messageTypes)
    (htype : MessageDict.get ⟨items, none⟩ "type" = some (.str type))
    (hwf : MessageDict.WellFormedAs ⟨items, none⟩ type) :
    ∃ items', parseIncoming (Json.dict items).hooked =
        .message (MessageDict.toMessage ⟨items', none⟩ type) ∧
      ∀ key, MessageDict.get ⟨items', none⟩ key =
        (MessageDict.get ⟨items, none⟩ key).map Json.hooked := by
  obtain ⟨items', hitems', hlookup⟩ := Json.hooked_dict items
  have hget : ∀ key, MessageDict.get ⟨items', none⟩ key =
      (MessageDict.get ⟨items, none⟩ key).map Json.hooked := hlookup
  have hhas : ∀ key t, MessageDict.Has ⟨items', none⟩ key t ↔
      MessageDict.Has ⟨items, none⟩ key t := by
    intro key t
    rw [MessageDict.Has, hget, Property.isinstance_hooked, MessageDict.Has]
  have hwf' : MessageDict.WellFormedAs ⟨items', none⟩ type := by
    simpa only [MessageDict.WellFormedAs, hhas, hget, Property.toBool_hooked] using hwf
  have henum : enum messageTypes false (some (.str type)) = .ok (some (.str type)) :=
    enum_eq_ok_iff.mpr ⟨type, hmem, rfl, rfl⟩
  refine ⟨items', ?_, hget⟩
  rw [hitems']
  simp only [parseIncoming, MessageDict.call, hget, htype, Option.map_some, Json.hooked, henum,
    Property.toText, parse_of_wellFormed hwf']

theorem payload_hooked {items' : List (String × Json)}
    (hget : MessageDict.get ⟨items', none⟩ key =
      (MessageDict.get ⟨items, none⟩ key).map Json.hooked) :
    MessageDict.payload ⟨items', none⟩ key = (MessageDict.payload ⟨items, none⟩ key).hooked := by
  rw [MessageDict.payload, hget, MessageDict.payload]
  have hempty : (Json.dict []).hooked = .dict [] := rfl
  rcases MessageDict.get ⟨items, none⟩ key with - | value
  · exact hempty.symm
  · cases value with
    | null => exact hempty.symm
    | _ => rfl

/-- **What is decoded of a request** is what was sent. -/
theorem parseIncoming_requestJson (seq : ℕ) (command : String) (arguments : Json) :
    parseIncoming (Endpoint.requestJson seq command arguments).hooked =
      .message (.request seq command arguments.received) := by
  set items : List (String × Json) :=
    [("seq", .int seq), ("type", .str "request"), ("command", .str command)] ++
      Endpoint.payloadEntry "arguments" arguments with hitems
  have hwf : MessageDict.WellFormedAs ⟨items, none⟩ "request" := by
    refine (if_neg (by decide)).mpr ((if_pos rfl).mpr ⟨?_, ?_⟩)
    · rfl
    · rfl
  have hpayload : MessageDict.payload ⟨items, none⟩ "arguments" = arguments.orEmpty := by
    rw [hitems]
    rcases arguments with - | b | n | x | s | l | (- | ⟨entry, entries⟩) <;> rfl
  obtain ⟨items', hparse, hget⟩ := parseIncoming_hooked (by decide) rfl hwf
  rw [Endpoint.requestJson, ← hitems, hparse, MessageDict.toMessage, if_neg (by decide), if_pos rfl,
    payload_hooked (hget _), hpayload, hget, hget, Property.toInt_hooked, Property.toText_hooked]
  rfl

/-- Decoding leaves texts alone. -/
theorem hooked_ofErrorMessage (text : String) :
    (Body.ofErrorMessage text).hooked = .ofErrorMessage text := by
  rw [Body.ofErrorMessage]
  split <;> rfl

/-- **What is decoded of a response.** -/
theorem parseIncoming_answer (h : MessageDict.Answers ⟨items, none⟩ seq) :
    ∃ response : Response, parseIncoming (Json.dict items).hooked = .message (.response response) ∧
      response.requestSeq = seq ∧
      response.body = (MessageDict.toResponse ⟨items, none⟩).body.hooked := by
  obtain ⟨items', hparse, hget⟩ := parseIncoming_hooked (by decide) h.type h.wellFormed
  refine ⟨MessageDict.toResponse ⟨items', none⟩, hparse, ?_, ?_⟩
  · simp only [MessageDict.toResponse, hget, Property.toInt_hooked]
    exact h.requestSeq
  · simp only [MessageDict.toResponse, hget, Property.toBool_hooked, Property.toText_hooked,
      payload_hooked (hget "body")]
    split
    · rfl
    · exact (hooked_ofErrorMessage _).symm

/-! ### Decoding twice -/

theorem Json.orEmpty_ne_null (value : Json) : value.orEmpty ≠ .null := by
  cases value <;> simp [orEmpty]

theorem Json.orEmpty_of_ne_null (h : value ≠ .null) : value.orEmpty = value := by
  cases value <;> simp_all [orEmpty]

theorem Json.hooked_ne_null (h : value ≠ .null) : value.hooked ≠ .null := by
  cases value <;> simp_all [hooked, objectHook]

/-- What was received is received again. -/
theorem Json.received_received (value : Json) : value.received.received = value.received := by
  have hne : value.orEmpty.hooked ≠ .null := hooked_ne_null value.orEmpty_ne_null
  rw [received, received, orEmpty_of_ne_null hne, hooked_hooked]

theorem Body.hooked_hooked (body : Body) : body.hooked.hooked = body.hooked := by
  cases body <;> simp [hooked, Json.hooked_hooked]

theorem Body.Received.hooked (h : body.Received) : body.hooked.Received := by
  cases body with
  | payload value => exact Json.hooked_ne_null h
  | handlingError reason => exact h
  | invalidMessage reason => exact h
  | noMoreMessages text => exact h

theorem ofErrorMessage_of_not_prefixed (h : Prefixed text = false) :
    Body.ofErrorMessage text = .handlingError text := by
  rw [Prefixed] at h
  rw [Body.ofErrorMessage, h, if_neg Bool.false_ne_true]

/-- **The prefix is taken off once**, however often it is there. -/
theorem ofErrorMessage_append (reason : String) :
    Body.ofErrorMessage (invalidMessagePrefix ++ reason) = .invalidMessage reason := by
  have hprefix : invalidMessagePrefix.toList.isPrefixOf (invalidMessagePrefix ++ reason).toList =
      true := by
    rw [String.toList_append, List.isPrefixOf_iff_prefix]
    exact List.prefix_append _ _
  have hdrop : (invalidMessagePrefix ++ reason).toList.drop invalidMessagePrefix.length =
      reason.toList := by
    rw [String.toList_append, ← String.length_toList, List.drop_left]
  rw [Body.ofErrorMessage, if_pos hprefix, hdrop, String.ofList_toList]

theorem ofErrorMessage_received (text : String) : (Body.ofErrorMessage text).Received := by
  rw [Body.ofErrorMessage]
  split_ifs with hprefix
  · trivial
  · exact eq_false_of_ne_true hprefix

theorem payload_ne_null (d : MessageDict) (key : String) : d.payload key ≠ .null := by
  rw [MessageDict.payload]
  split
  · simp
  · simp
  · rename_i hnull
    rintro rfl
    simp_all

/-- The body of any response. -/
theorem toResponse_received (d : MessageDict) : d.toResponse.body.Received := by
  rw [MessageDict.toResponse]
  dsimp only
  split_ifs
  · exact payload_ne_null d "body"
  · exact ofErrorMessage_received _

/-! ### Answering -/

variable {d : SentResponse} {n : ℕ} {request : IncomingRequest} {w : World} {result : Value}
  {handler : Python Value}

theorem lookup_message (d : SentResponse) (n : ℕ) :
    (d.items n).lookup "message" = d.message.map .str := by
  rw [SentResponse.items]
  rcases d.message with - | text <;> rcases d.body with - | value <;> rfl

theorem lookup_body (d : SentResponse) (n : ℕ) : (d.items n).lookup "body" = d.body := by
  rw [SentResponse.items]
  rcases d.message with - | text <;> rcases d.body with - | value <;> rfl

/-- The JSON of a response is one, if there is a text for each failure. -/
theorem answers_items (h : d.success = false → d.message.isSome = true) :
    MessageDict.Answers ⟨d.items n, none⟩ d.requestSeq := by
  refine ⟨rfl, ?_, rfl⟩
  refine (if_neg (by decide)).mpr ((if_neg (by decide)).mpr ⟨rfl, rfl, rfl, rfl, ?_⟩)
  intro hsuccess
  obtain ⟨text, htext⟩ := Option.isSome_iff_exists.mp (h hsuccess)
  rw [MessageDict.Has, MessageDict.get, lookup_message, htext]
  rfl

/-- What the JSON of a response is decoded to. -/
theorem toResponse_items (d : SentResponse) (n : ℕ) :
    (MessageDict.toResponse ⟨d.items n, none⟩).body =
      if d.success then .payload (d.body.getD .null).orEmpty
      else .ofErrorMessage (d.message.getD "") := by
  have hsuccess : (MessageDict.get ⟨d.items n, none⟩ "success").toBool = d.success := rfl
  have hmessage : (MessageDict.get ⟨d.items n, none⟩ "message").toText = d.message.getD "" := by
    rw [MessageDict.get, lookup_message]
    cases d.message <;> rfl
  have hbody : MessageDict.payload ⟨d.items n, none⟩ "body" = (d.body.getD .null).orEmpty := by
    rw [MessageDict.payload, MessageDict.get, lookup_body]
    rcases d.body with - | value
    · rfl
    · cases value <;> rfl
  rw [MessageDict.toResponse, hsuccess, hmessage, hbody]

theorem Party.pending (p : Party) (seq : ℤ) (command : String) :
    p.world.Pending (p.request seq command) := by
  refine ⟨p.isOpen, ?_, p.running⟩
  rw [World.responses, List.filter_eq_nil_iff]
  intro response hresponse
  simp [Party.request, p.unanswered response hresponse]

/-- What is written when the handling of a request ends with this response. -/
theorem Party.answer_eq {p : Party} (hw : w.Pending request)
    (h : (handle request handler).exec p.world = (.ok ⟨⟩, w.answered request result)) :
    p.answer request handler = some (.dict ((responseJson request w result).items w.seqIter)) := by
  have hresponses : (w.answered request result).responses request =
      [(w.seqIter, responseJson request w result)] := by
    have hnone := hw.responses
    simp only [World.responses] at hnone
    simp [World.responses, World.answered, hnone, responseJson]
  simp only [Party.answer, runHandler, h, hresponses]

/-- The exceptions that bodies of responses are. -/
def Body.failure? : Body → Option (ErrorType × String)
  | .handlingError reason => some (.messageHandlingError, reason)
  | .invalidMessage reason => some (.invalidMessageError, reason)
  | _ => none

/-- The proxy returns the payload. -/
theorem Proxy.exec_payload (p : Proxy) (request : IncomingRequest) (value : Json) :
    (p.handler request (.payload value)).exec p.world =
      (.ok (.object p.world.objects.length), p.world.alloc (.payload value)) := by
  have hdelegate : (delegate request p.sent p.downstreamName (.payload value)).exec p.world =
      (.ok (.object p.world.objects.length), p.world.alloc (.payload value)) :=
    Program.exec_tryCatch_ok rfl
  rw [Proxy.handler]
  split_ifs
  · exact messageHandler_returns request hdelegate
  · exact hdelegate

/-- **The proxy raises the failure anew**, with its own request for a cause. -/
theorem Proxy.exec_failure (p : Proxy) {type : ErrorType} (hw : p.world.Pending request)
    (h : body.failure? = some (type, reason)) :
    ∃ w : World, w.Pending request ∧ (p.handler request body).exec p.world =
      (.error w.objects.length,
        w.alloc (.exception (.handlingError type reason (some request.id)))) := by
  set exc : PyException := .handlingError type reason (some p.sent) with hexc
  set own : PyException := .handlingError type reason (some request.id) with hown
  have hwait : (waitForResponse p.sent p.downstreamName body).exec p.world =
      (.error p.world.objects.length, p.world.alloc (.exception exc)) := by
    cases body <;> simp_all [Body.failure?, waitForResponse, exec_raise]
  have hdelegate : (delegate request p.sent p.downstreamName body).exec p.world =
      (.error (p.world.alloc (.exception exc)).objects.length,
        (p.world.alloc (.exception exc)).alloc (.exception own)) := by
    rw [delegate, Program.exec_tryCatch_error hwait, Program.exec_bind_ok Program.exec_get,
      World.exception?_alloc]
    exact exec_raise _
  have hpending : (p.world.alloc (.exception exc)).Pending request := hw.alloc _
  rw [Proxy.handler]
  split_ifs
  · exact ⟨_, hpending.alloc _,
      messageHandler_propagates request hdelegate (World.exception?_alloc _)⟩
  · exact ⟨_, hpending, hdelegate⟩

theorem Body.Received.cases (h : body.Received) :
    (∃ value, body = .payload value ∧ value ≠ .null) ∨
      ∃ type reason, body.failure? = some (type, reason) ∧
        ∀ cause, Body.ofErrorMessage (PyException.handlingError type reason cause).str = body := by
  cases body with
  | payload value => exact .inl ⟨value, rfl, h⟩
  | handlingError reason =>
      exact .inr ⟨_, reason, rfl, fun _ => ofErrorMessage_of_not_prefixed h⟩
  | invalidMessage reason => exact .inr ⟨_, reason, rfl, fun _ => ofErrorMessage_append reason⟩
  | noMoreMessages text => exact h.elim

/-- **The proxy answers with what it received.** -/
theorem Proxy.answers (p : Proxy) (seq : ℤ) (command : String) (h : body.Received) :
    ∃ items, p.answer (p.request seq command) (p.handler (p.request seq command) body) =
        some (.dict items) ∧
      MessageDict.Answers ⟨items, none⟩ seq ∧
      (MessageDict.toResponse ⟨items, none⟩).body = body := by
  set request := p.request seq command with hrequest
  have hpending : p.world.Pending request := p.pending seq command
  rcases h.cases with ⟨value, rfl, hvalue⟩ | ⟨type, reason, hfailure, htext⟩
  · have hw := hpending.alloc (.payload value)
    set w := p.world.alloc (.payload value) with hworld
    have hexec := handle_returns request (p.exec_payload request value)
    rw [handleResult_responds request hw.isOpen (by simp) (by simp)] at hexec
    have hobject : w.objects[p.world.objects.length]? = some (.payload value) := by
      simp [hworld, World.alloc]
    have hsuccess : w.failure (.object p.world.objects.length) = none := by
      simp [World.failure, World.exception?, hobject]
    have hbody : ((w.body (.object p.world.objects.length)).getD .null).orEmpty = value := by
      rw [World.body, hobject]
      rcases value with - | b | n | x | s | l | (- | ⟨entry, entries⟩) <;>
        first | rfl | exact absurd rfl hvalue
    refine ⟨_, Party.answer_eq hw hexec, answers_items (by simp [responseJson, hsuccess]), ?_⟩
    rw [toResponse_items]
    simp only [responseJson, hsuccess, Option.isNone_none, if_true, hbody]
  · obtain ⟨w, hw, hexec⟩ := p.exec_failure hpending hfailure
    set exc : PyException := .handlingError type reason (some request.id) with hexc
    have hnew : (w.alloc (.exception exc)).exception? w.objects.length = some exc :=
      World.exception?_alloc _
    have hhandle := handle_catches request hexec hnew
    rw [handleResult_responds request (hw.alloc _).isOpen (by simp) (by simp)] at hhandle
    refine ⟨_, Party.answer_eq (hw.alloc _) hhandle,
      answers_items (by simp [responseJson, World.failure, hnew]), ?_⟩
    rw [toResponse_items]
    simp only [responseJson, World.failure, hnew, Option.isNone_some, Bool.false_eq_true, if_false,
      Option.map_some, Option.getD_some]
    exact htext _

/-! ### Chains -/

/-- **One party**: a request that is written to it comes back with its response. -/
def Peer.Serves (peer : Peer) (decoded : Delivery → Body) : Prop :=
  ∀ (seq : ℕ) (command : String) (arguments : Json), ∃ (m : ℤ) (items : List (String × Json)),
    peer (Endpoint.requestJson seq command arguments) =
        some (⟨m, command, arguments.received⟩, .dict items) ∧
      MessageDict.Answers ⟨items, none⟩ seq ∧
      (MessageDict.toResponse ⟨items, none⟩).body.hooked = decoded ⟨m, command, arguments.received⟩

theorem Downstream.serves (downstream : Downstream) :
    downstream.peer.Serves downstream.decoded := by
  intro seq command arguments
  refine ⟨seq, downstream.answer ⟨seq, command, arguments.received⟩, ?_, downstream.answers _, rfl⟩
  rw [Downstream.peer, parseIncoming_requestJson]

/-- What is decoded at the other end. -/
theorem Peer.Serves.roundTrip {peer : Peer} {decoded : Delivery → Body} (h : peer.Serves decoded)
    (seq : ℕ) (command : String) (arguments : Json) :
    ∃ m : ℤ, roundTrip peer seq command arguments =
        some (⟨m, command, arguments.received⟩, decoded ⟨m, command, arguments.received⟩) ∧
      ∃ body : Body, body.Received ∧
        decoded ⟨m, command, arguments.received⟩ = body.hooked := by
  obtain ⟨m, items, hpeer, hanswers, hbody⟩ := h seq command arguments
  obtain ⟨response, hparse, hseq, hresponse⟩ := parseIncoming_answer hanswers
  refine ⟨m, ?_, _, toResponse_received _, hbody.symm⟩
  simp only [Ptvsd.roundTrip, hpeer, Option.bind_eq_bind, Option.bind_some, hparse, hseq, if_true,
    hresponse, hbody]

/-- **One more proxy** makes no difference. -/
theorem Proxy.serves (p : Proxy) {next : Peer} {decoded : Delivery → Body}
    (h : next.Serves decoded) : (p.peer next).Serves decoded := by
  intro seq command arguments
  obtain ⟨m, htrip, body, hreceived, hbody⟩ := h.roundTrip p.seqIter command arguments.received
  rw [Json.received_received] at htrip hbody
  obtain ⟨items, hanswer, hanswers, hitems⟩ := p.answers seq command hreceived.hooked
  refine ⟨m, items, ?_, hanswers, ?_⟩
  · rw [Proxy.peer, parseIncoming_requestJson]
    simp only [htrip, Option.bind_eq_bind, Option.bind_some, hbody, hanswer]
  · rw [hitems, Body.hooked_hooked, hbody]

theorem chain_serves (proxies : List Proxy) (downstream : Downstream) :
    (chain proxies downstream).Serves downstream.decoded := by
  induction proxies with
  | nil => exact downstream.serves
  | cons p proxies ih => exact p.serves ih

/-- **A chain of proxies is transparent**, whatever the last party answers. -/
theorem roundTrip_chain (proxies : List Proxy) (downstream : Downstream) (seq : ℕ)
    (command : String) (arguments : Json) :
    ∃ m : ℤ, roundTrip (chain proxies downstream) seq command arguments =
      some (⟨m, command, arguments.received⟩,
        downstream.decoded ⟨m, command, arguments.received⟩) := by
  obtain ⟨m, htrip, -⟩ := (chain_serves proxies downstream).roundTrip seq command arguments
  exact ⟨m, htrip⟩

/-! ### What becomes of an outcome -/

variable {outcome : Outcome}

/-- A `MessageHandlingError` whose text is that of an `InvalidMessageError`. -/
def Outcome.LooksInvalid : Outcome → Prop
  | .failure .messageHandlingError reason => Prefixed reason = true
  | _ => False

theorem Outcome.requestSeq (outcome : Outcome) (request : IncomingRequest) :
    (outcome.response request).requestSeq = request.seq := by
  cases outcome <;> rfl

theorem Outcome.answers (outcome : Outcome) (request : IncomingRequest) (n : ℕ) :
    MessageDict.Answers ⟨(outcome.response request).items n, none⟩ request.seq := by
  rw [← outcome.requestSeq request]
  refine answers_items fun h => ?_
  cases outcome with
  | success body => exact absurd h (by simp [response])
  | failure type reason => rfl

/-- A last party that responds with an outcome. -/
def Downstream.ofOutcome (p : Party) (outcome : String → Json → Outcome) : Downstream where
  answer delivery :=
    ((outcome delivery.command delivery.arguments).response
      (p.request delivery.seq delivery.command)).items p.world.seqIter
  answers delivery := Outcome.answers _ (p.request delivery.seq delivery.command) _

/-- `respond()`, for an outcome: there is an object for it, unless it is `None`. -/
theorem Outcome.exec_value (hw : w.Pending request) (outcome : Outcome) :
    ∃ result w', (outcome.value request).exec w = (.ok result, w') ∧ w'.Pending request ∧
      w'.seqIter = w.seqIter ∧ responseJson request w' result = outcome.response request := by
  cases outcome with
  | failure type reason =>
      refine ⟨_, _, rfl, hw.alloc _, rfl, ?_⟩
      simp [responseJson, Outcome.response, World.failure, World.exception?, World.body]
  | success body =>
      by_cases hnull : body = .null
      · subst hnull
        exact ⟨_, _, rfl, hw, rfl, rfl⟩
      · have hexec : ((Outcome.success body).value request).exec w =
            (.ok (.object w.objects.length), w.alloc (.payload body)) := by
          cases body <;> first | rfl | exact absurd rfl hnull
        have hobject : (w.alloc (.payload body)).objects[w.objects.length]? =
            some (.payload body) := by simp [World.alloc]
        refine ⟨_, _, hexec, hw.alloc _, rfl, ?_⟩
        simp only [responseJson, Outcome.response, World.failure, World.exception?, World.body,
          hobject]
        rcases body with - | b | n | x | s | l | (- | ⟨entry, entries⟩) <;>
          first | rfl | exact absurd rfl hnull

/-- **The outcome is written** by a handler that responds with it. -/
theorem Party.answer_outcome (p : Party) (outcome : Outcome) (seq : ℤ) (command : String) :
    p.answer (p.request seq command) (outcome.handler (p.request seq command)) =
      some (.dict ((outcome.response (p.request seq command)).items p.world.seqIter)) := by
  set request := p.request seq command with hrequest
  obtain ⟨result, w, hexec, hw, hseq, hjson⟩ :=
    outcome.exec_value (p.pending seq command)
  have hhandler : (outcome.handler request).exec p.world =
      (.ok .none, w.answered request result) := by
    rw [Outcome.handler, Program.exec_bind_ok hexec,
      Program.exec_bind_ok (exec_respond hw.isOpen)]
    rfl
  have hhandle := handle_returns request hhandler
  rw [handleResult_answered request rfl (by simp) (Or.inl rfl)] at hhandle
  rw [Party.answer_eq hw hhandle, hjson, hseq]

/-- What an outcome is decoded to. -/
theorem decoded_ofOutcome (p : Party) (outcome : String → Json → Outcome) (delivery : Delivery) :
    (Downstream.ofOutcome p outcome).decoded delivery =
      match outcome delivery.command delivery.arguments with
      | .success body => .payload body.received
      | .failure type reason =>
          .ofErrorMessage (PyException.handlingError type reason (some p.id)).str := by
  rw [Downstream.decoded, Downstream.ofOutcome, toResponse_items]
  cases outcome delivery.command delivery.arguments with
  | success body =>
      have hbody : (((Endpoint.payloadEntry "body" body).head?.map Prod.snd).getD .null).orEmpty =
          body.orEmpty := by
        rcases body with - | b | n | x | s | l | (- | ⟨entry, entries⟩) <;> rfl
      simp only [Outcome.response, if_true, hbody, Body.hooked, Json.received]
  | failure type reason =>
      simp only [Outcome.response, Bool.false_eq_true, if_false, Option.getD_some,
        hooked_ofErrorMessage, Party.request]

/-- An outcome arrives, unless it is taken for an `InvalidMessageError`. -/
theorem arrives_decoded (p : Party) (outcome : String → Json → Outcome) (delivery : Delivery)
    (h : ¬ (outcome delivery.command delivery.arguments).LooksInvalid) :
    (outcome delivery.command delivery.arguments).Arrives
      ((Downstream.ofOutcome p outcome).decoded delivery) := by
  rw [decoded_ofOutcome]
  cases hcase : outcome delivery.command delivery.arguments with
  | success body => exact Json.hooked_same _
  | failure type reason =>
      rw [hcase] at h
      cases type with
      | messageHandlingError =>
          have htext : Body.ofErrorMessage reason = .handlingError reason :=
            ofErrorMessage_of_not_prefixed (eq_false_of_ne_true h)
          simp only [PyException.str, htext, Outcome.Arrives]
      | invalidMessageError =>
          simp only [PyException.str, ofErrorMessage_append, Outcome.Arrives]

/-- **Delegating is transparent.** However many proxies there are, the last party decodes the
command and the arguments that were sent, and its response is decoded as it is right behind it.
An outcome arrives as the value or the exception that it was, but for one case: the text of a
`MessageHandlingError` may be that of an `InvalidMessageError`, which is then what arrives. -/
theorem delegate_transparent (proxies : List Proxy) (seq : ℕ) (command : String)
    (arguments : Json) :
    (∀ downstream : Downstream, ∃ delivery, delivery.command = command ∧
      delivery.arguments.Same arguments.orEmpty ∧
      roundTrip (chain proxies downstream) seq command arguments =
        some (delivery, downstream.decoded delivery)) ∧
    ∀ (p : Party) (outcome : String → Json → Outcome), ∃ delivery body,
      delivery.command = command ∧ delivery.arguments.Same arguments.orEmpty ∧
      roundTrip (chain proxies (.ofOutcome p outcome)) seq command arguments =
        some (delivery, body) ∧
      (¬ (outcome command delivery.arguments).LooksInvalid →
        (outcome command delivery.arguments).Arrives body) ∧
      ∀ reason, outcome command delivery.arguments =
          .failure .messageHandlingError (invalidMessagePrefix ++ reason) →
        body = .invalidMessage reason := by
  refine ⟨fun downstream => ?_, fun p outcome => ?_⟩
  · obtain ⟨m, htrip⟩ := roundTrip_chain proxies downstream seq command arguments
    exact ⟨_, rfl, Json.hooked_same _, htrip⟩
  · obtain ⟨m, htrip⟩ := roundTrip_chain proxies (.ofOutcome p outcome) seq command arguments
    refine ⟨_, _, rfl, Json.hooked_same _, htrip,
      arrives_decoded p outcome ⟨m, command, arguments.received⟩, fun reason h => ?_⟩
    rw [decoded_ofOutcome]
    simp only [h, PyException.str, ofErrorMessage_append]

/-- A party to which nothing has happened yet. -/
def Party.idle : Party where
  world := .idle
  id := 0
  description := "#3 request \"configurationDone\" from IDE[1]"
  streamName := "IDE[1]"
  handlerName := "configurationDone_request"
  isOpen := World.idle_pending.isOpen
  running := rfl
  unanswered _ h := absurd h List.not_mem_nil

/-- **The class of an error is a matter of its text**: a `MessageHandlingError` that quotes the
text of an `InvalidMessageError` is received as one. -/
theorem not_delegate_transparent :
    ¬ ∀ (proxies : List Proxy) (p : Party) (outcome : String → Json → Outcome) (seq : ℕ)
      (command : String) (arguments : Json), ∃ delivery body,
        roundTrip (chain proxies (.ofOutcome p outcome)) seq command arguments =
          some (delivery, body) ∧
        delivery.command = command ∧ delivery.arguments.Same arguments.orEmpty ∧
        (outcome command delivery.arguments).Arrives body := by
  intro h
  set outcome : String → Json → Outcome := fun _ _ =>
    .failure .messageHandlingError (invalidMessagePrefix ++ "missing property 'threadId'")
  set proxies : List Proxy := [⟨.idle, 1, "Server[1]", 1, true⟩]
  obtain ⟨delivery, body, htrip, -, -, harrives⟩ :=
    h proxies .idle outcome 1 "configurationDone" .null
  obtain ⟨m, htrip'⟩ :=
    roundTrip_chain proxies (.ofOutcome .idle outcome) 1 "configurationDone" .null
  rw [htrip, Option.some.injEq, Prod.mk.injEq] at htrip'
  rw [htrip'.2, decoded_ofOutcome] at harrives
  simp only [outcome, PyException.str, ofErrorMessage_append, Outcome.Arrives] at harrives

end Ptvsd
