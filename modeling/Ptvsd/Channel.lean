import Ptvsd.HandlerQueue
import Ptvsd.JsonStream
import Ptvsd.Machine

/-!
# The Message Channel

`JsonMessageChannel` as a transition machine. Its threads are the parser thread, which runs
`_parse_incoming_messages`; the handler threads, which run `_run_handlers`; and any number
of threads that send messages, register response handlers or close the channel, among them
the handlers themselves. One step is one critical section (`with self:`) or one operation
that touches nothing shared; a critical section that contains others, as the clean-up of
the parser does, is a single step, because the lock is reentrant.

The values that `read_json` yields are given: what they are for a given stream of bytes is
the business of `Ptvsd.JsonStream`. The channel is modelled from `start()` on.

Some fields record the past: which responses were received, what was written, when a
request was sent. No step depends on them.

## Main definitions

* `Channel.step`, `channel`: the steps of the threads, and the machine that interleaves them in any
  order.
* `RequestTable`: the requests that were sent, until their responses are received.
* `Channel.receive`, `Channel.cleanUp`: what the parser thread does with a value, and at the end.
-/

namespace Ptvsd

/-! ### Outgoing messages -/

/-- The messages that are sent: `send_request`, `send_event` and `Request.respond`. -/
inductive Outgoing where
  | request (command : String) (arguments : Json)
  | event (event : String) (body : Json)
  | response (requestSeq : ℤ) (command : String) (body : Body)

/-- How far `_send_message` got with a message. -/
inductive SendState where
  /-- The number is drawn; nothing is written. -/
  | drawn
  /-- `write_json` returned. -/
  | written
  /-- `write_json` or `on_before_send` raised. -/
  | failed
  deriving DecidableEq

/-- A call of `_send_message`. -/
structure Sender where
  /-- The sequence number drawn. -/
  seq : ℕ
  message : Outgoing
  /-- The object that represents the message, if it is a request. -/
  request : Option RequestId
  state : SendState

/-- An `OutgoingRequest` made by `send_request`. -/
structure OutgoingRequest where
  seq : ℕ
  command : String
  response : Option Response
  /-- `_response_handlers`. -/
  responseHandlers : List ResponseHandler
  /-- Everything that was ever assigned to `response`. -/
  assigned : List Response
  /-- Everything that was ever passed to `on_response()`. -/
  registered : List ResponseHandler
  /-- The number of responses received when the request was put into `_sent_requests`. -/
  sentAt : Option ℕ

/-- A request that was not sent yet. -/
def OutgoingRequest.new (seq : ℕ) (command : String) : OutgoingRequest :=
  ⟨seq, command, none, [], [], [], none⟩

/-- The requests of a channel. -/
structure RequestTable where
  /-- `_sent_requests`, in the order of insertion. -/
  sentRequests : List (ℕ × RequestId)
  /-- All requests made. -/
  requests : List OutgoingRequest
  /-- The responses received, in the order in which they were looked up. -/
  received : List Response

namespace RequestTable

/-- `OutgoingRequest(channel, seq, command, arguments)`. -/
def make (seq : ℕ) (command : String) (tbl : RequestTable) : RequestTable :=
  { tbl with requests := tbl.requests ++ [.new seq command] }

/-- `_sent_requests[seq] = request`; the number was never used before. -/
def insert (seq : ℕ) (r : RequestId) (tbl : RequestTable) : RequestTable :=
  { tbl with
    sentRequests := tbl.sentRequests ++ [(seq, r)]
    requests := tbl.requests.modify r fun req =>
      { req with sentAt := some tbl.received.length } }

/-- `_sent_requests.get(request_seq)`. -/
def lookup (requestSeq : ℤ) (tbl : RequestTable) : Option RequestId :=
  (tbl.sentRequests.find? fun p => (p.1 : ℤ) = requestSeq).map Prod.snd

/-- `del _sent_requests[request_seq]`. -/
def remove (requestSeq : ℤ) (tbl : RequestTable) : RequestTable :=
  { tbl with sentRequests := tbl.sentRequests.filter fun p => ¬ (p.1 : ℤ) = requestSeq }

/-- `request.response = response`. -/
def setResponse (r : RequestId) (response : Response) (tbl : RequestTable) : RequestTable :=
  { tbl with
    requests := tbl.requests.modify r fun req =>
      { req with response := some response, assigned := req.assigned ++ [response] } }

/-- `self._response_handlers.append(response_handler)`. -/
def register (r : RequestId) (handler : ResponseHandler) (tbl : RequestTable) :
    RequestTable :=
  { tbl with
    requests := tbl.requests.modify r fun req =>
      { req with
        responseHandlers := req.responseHandlers ++ [handler]
        registered := req.registered ++ [handler] } }

/-- `del self._response_handlers[:]`. -/
def clearHandlers (r : RequestId) (tbl : RequestTable) : RequestTable :=
  { tbl with requests := tbl.requests.modify r fun req => { req with responseHandlers := [] } }

end RequestTable

/-! ### Incoming messages -/

/-- How `_parse_incoming_message` fares with a value that was read. -/
inductive ParseOutcome where
  /-- The properties are in order. -/
  | message (m : Message)
  /-- An `InvalidMessageError` with this reason is logged, and the message is dropped. -/
  | dropped (reason : String)
  /-- An exception is raised outside of the `try` statement. -/
  | raises (e : PyError)
  /-- Another exception inside of it: `os._exit(1)`. -/
  | fatal

/-- `_parse_incoming_message`, up to where the parser of the message needs the channel. -/
def parseIncoming : Json → ParseOutcome
  | .dict items =>
      let d : MessageDict := ⟨items, none⟩
      match d.call "type" (enum messageTypes false) with
      | .error e => .raises e
      | .ok type =>
          match parseAs type.toText d with
          | .ok m => .message m
          | .error (.invalidMessage reason _) => .dropped reason
          | .error _ => .fatal
  | _ => .raises (.assertionError "")

/-- How the parser thread left its loop. -/
inductive ParserEnd where
  /-- With `NoMoreMessages`, and after cleaning up. -/
  | cleanedUp
  /-- `read_json` raised something else. -/
  | readError (e : ReadError)
  /-- The parsers raised an exception that nothing catches. -/
  | raised (e : PyError)

/-- Where the parser thread is. -/
inductive ParserState where
  /-- At the top of its loop. -/
  | looping
  /-- In `read_json`. -/
  | reading
  /-- About to hand on a message whose properties are in order. -/
  | parsed (m : Message)
  /-- In `Response._parse`, about to assign the response to the request that it belongs to;
  `none` is the synthetic request of a response that matches no request sent. -/
  | answering (request : Option RequestId) (response : Response)
  /-- `NoMoreMessages` with this text was caught; about to clean up. -/
  | disconnecting (text : String)
  /-- The thread has ended. -/
  | ended (how : ParserEnd)

/-- The parser thread has ended. -/
def ParserState.isEnded : ParserState → Bool
  | .ended _ => true
  | _ => false

/-! ### The channel -/

/-- The state of a `JsonMessageChannel` and of its threads. -/
structure Channel where
  /-- `_closed`; the stream is closed along with the channel. -/
  closed : Bool
  /-- The next number that `_seq_iter` yields. -/
  seqIter : ℕ
  table : RequestTable
  queue : HandlerQueue
  parser : ParserState
  /-- What `read_json` is going to yield. -/
  incoming : List (Except ReadError Json)
  senders : List Sender
  /-- The messages written to the stream, in order, with their numbers. -/
  written : List (ℕ × Outgoing)
  /-- The reasons of the `InvalidMessageError`s that were logged for received messages. -/
  failures : List String
  /-- `os._exit()` was called. -/
  exited : Bool

namespace Channel

/-- A channel after `start()`. -/
def init (incoming : List (Except ReadError Json)) : Channel where
  closed := false
  seqIter := 1
  table := ⟨[], [], []⟩
  queue := .empty
  parser := .looping
  incoming := incoming
  senders := []
  written := []
  failures := []
  exited := false

/-- `_enqueue_handlers`. -/
def enqueue (items : List Item) (s : Channel) : Channel :=
  { s with queue := s.queue.enqueue items }

/-- `_enqueue_response_handlers()` of a request. -/
def enqueueResponseHandlers (r : RequestId) (s : Channel) : Channel :=
  match s.table.requests[r]? with
  | some ⟨_, _, some response, handlers, _, _, _⟩ =>
      { s.enqueue [.ofResponse response (some r) handlers] with
        table := s.table.clearHandlers r }
  | _ => s

/-- The second critical section of `Response._parse`. -/
def answer (request : Option RequestId) (response : Response) (s : Channel) : Channel :=
  match request with
  | some r => enqueueResponseHandlers r { s with table := s.table.setResponse r response }
  | none => s.enqueue [.ofResponse response none []]

/-- The failure that `Response._parse` reports for a response to an unknown request. -/
def unknownRequest (request : Option RequestId) (response : Response) : List String :=
  match request with
  | some _ => []
  | none => ["request_seq=" ++ toString response.requestSeq ++ " does not match any known request"]

/-- The first critical section of `Response._parse`: `_sent_requests.pop(request_seq)`. -/
def pop (response : Response) (s : Channel) : Channel :=
  { s with
    table := { s.table.remove response.requestSeq with
      received := s.table.received ++ [response] }
    parser := .answering (s.table.lookup response.requestSeq) response }

/-- What the parser thread does with the outcome of `read_json`. -/
def receive (outcome : Except ReadError Json) (s : Channel) : Channel :=
  match outcome with
  | .error (.noMoreMessages text) => { s with parser := .disconnecting text }
  | .error e => { s with parser := .ended (.readError e) }
  | .ok value =>
      match parseIncoming value with
      | .message m => { s with parser := .parsed m }
      | .dropped reason => { s with parser := .looping, failures := s.failures ++ [reason] }
      | .raises e => { s with parser := .ended (.raised e) }
      | .fatal => { s with exited := true }

/-! ### Cleaning up -/

/-- The JSON of the response that is synthesized for a request. -/
def synthesizedJson (seq : ℕ) (command text : String) : MessageDict where
  items := [("seq", .int (-1)), ("request_seq", .int seq), ("command", .str command),
    ("success", .bool false), ("message", .str text)]
  message := none

/-- `Response._parse(self, response_json, body=exc)` for one outstanding request. -/
def synthesize (text : String) (s : Channel) (r : RequestId) : Channel :=
  match s.table.requests[r]? with
  | none => s
  | some req =>
      match parseResponse (synthesizedJson req.seq req.command text)
        (some (.noMoreMessages text)) with
      | .error _ => s
      | .ok response =>
          answer (s.table.lookup response.requestSeq) response
            { s with table := s.table.remove response.requestSeq }

/-- The handler of `NoMoreMessages` in `_parse_incoming_messages`. -/
def cleanUp (text : String) (s : Channel) : Channel :=
  let s := (s.table.sentRequests.map Prod.snd).foldl (synthesize text) s
  if s.table.sentRequests = [] then
    { s.enqueue [.disconnect] with closed := true, parser := .ended .cleanedUp }
  else { s with parser := .ended (.raised (.assertionError "")) }

/-! ### Steps -/

/-- What the threads of a channel can do. -/
inductive Action where
  /-- The parser thread goes on. -/
  | parser
  /-- Reading raises `NoMoreMessages` with this text because the stream was closed. -/
  | interrupt (text : String)
  /-- A handler thread goes on. -/
  | handler (t : ThreadId)
  /-- The handler that is running raises an exception, which ends the process. -/
  | crash (t : ThreadId)
  /-- `_send_message` draws a number. -/
  | draw (message : Outgoing)
  /-- The second critical section of a call of `_send_message`; `written` says whether
  `write_json` returns. -/
  | send (i : ℕ) (written : Bool)
  /-- The `on_before_send` of a request raises. -/
  | abandon (i : ℕ)
  /-- `on_response()` is called on a request. -/
  | onResponse (r : RequestId) (handler : ResponseHandler)
  /-- `close()` is called. -/
  | close

/-- A step of the parser thread. -/
def parserStep (s : Channel) : Option Channel :=
  match s.parser with
  | .looping => if s.closed then none else some { s with parser := .reading }
  | .reading =>
      match s.incoming with
      | [] => none
      | outcome :: rest => some (receive outcome { s with incoming := rest })
  | .parsed (.response response) => some (s.pop response)
  | .parsed m => some { s.enqueue [.ofMessage m] with parser := .looping }
  | .answering request response =>
      some { s.answer request response with
        parser := .looping
        failures := s.failures ++ unknownRequest request response }
  | .disconnecting text => some (s.cleanUp text)
  | .ended _ => none

/-- `_send_message`, up to the number it draws, and the object made for a request. -/
def draw (message : Outgoing) (s : Channel) : Channel :=
  let sender request : Sender := ⟨s.seqIter, message, request, .drawn⟩
  match message with
  | .request command _ =>
      { s with
        seqIter := s.seqIter + 1
        senders := s.senders ++ [sender (some s.table.requests.length)]
        table := s.table.make s.seqIter command }
  | _ => { s with seqIter := s.seqIter + 1, senders := s.senders ++ [sender none] }

/-- Moves a sender to another state. -/
def setSender (i : ℕ) (sender : Sender) (state : SendState) (s : Channel) : Channel :=
  { s with senders := s.senders.set i { sender with state := state } }

/-- What `send_request` does in the body of its `with` statement: a request is put into
`_sent_requests`. -/
def beforeWrite (sender : Sender) (tbl : RequestTable) : RequestTable :=
  match sender.request with
  | some r => tbl.insert sender.seq r
  | none => tbl

/-- The second critical section of `_send_message`: the body of the `with` statement, and
then the message is written, which fails if the stream is closed. -/
def send (i : ℕ) (sender : Sender) (written : Bool) (s : Channel) : Option Channel :=
  let s := { s with table := beforeWrite sender s.table }
  if written then
    if s.closed then none
    else some { s.setSender i sender .written with
      written := s.written ++ [(sender.seq, sender.message)] }
  else some (s.setSender i sender .failed)

/-- The step of the channel under an action. -/
def step (s : Channel) (a : Action) : Option Channel :=
  if s.exited then none
  else
    match a with
    | .parser => s.parserStep
    | .interrupt text =>
        match s.parser with
        | .looping => if s.closed then some { s with parser := .disconnecting text } else none
        | .reading => if s.closed then some { s with parser := .disconnecting text } else none
        | _ => none
    | .handler t =>
        (s.queue.advance s.closed s.parser.isEnded t).map fun q => { s with queue := q }
    | .crash t =>
        match s.queue.threads[t]? with
        | some (.running _ _) => some { s with closed := true, exited := true }
        | _ => none
    | .draw message => some (s.draw message)
    | .send i written =>
        match s.senders[i]? with
        | some sender => if sender.state = .drawn then s.send i sender written else none
        | none => none
    | .abandon i =>
        match s.senders[i]? with
        | some sender =>
            if sender.state = .drawn ∧ sender.request ≠ none then
              some (s.setSender i sender .failed)
            else none
        | none => none
    | .onResponse r handler =>
        match s.table.requests[r]? with
        | some _ =>
            some (enqueueResponseHandlers r { s with table := s.table.register r handler })
        | none => none
    | .close => some { s with closed := true }

end Channel

/-- A channel whose stream yields the given values, then blocks. -/
def channel (incoming : List (Except ReadError Json)) : Machine Channel Channel.Action where
  start s := s = .init incoming
  step := Channel.step

end Ptvsd
