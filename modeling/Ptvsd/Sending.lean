import Ptvsd.Packet
import Ptvsd.Program
import Ptvsd.Requests

/-!
# Requests That Are Not Sent

`send_request` puts the request into `_sent_requests` in the body of a `with` statement; the
context manager serializes and writes the message when that body has ended. This module
translates the call with all of its failures: a callback that raises, a closed stream, a
message that cannot be serialized, and a write error. The two critical sections of the call
are those of `Ptvsd.Channel`, and other threads may do anything between them.

The callback is arbitrary code. It runs inside of the second critical section, whose lock is
reentrant, so it may itself use the channel.

## Main results

* `sendRequest_restores_iff`: a failing call leaves `_sent_requests` as it was, and a later
  response with its number belongs to no request, if and only if it was the callback that
  raised. In all other cases the request stays behind.
* `sendRequest_step`: the second critical section is a step of the channel.
-/

open ByteStream Program

namespace Ptvsd

/-- A channel, and the writer of its stream. -/
structure Endpoint where
  channel : Channel
  out : Sink

/-- The exceptions that leave `send_request`. -/
inductive SendError where
  /-- What `on_before_send` raised. -/
  | beforeSend (text : String)
  /-- What `write_json` raised. -/
  | write (e : WriteError)

/-- What `on_before_send` does with the request. -/
abbrev BeforeSend := RequestId → Program Endpoint SendError Unit

namespace Endpoint

/-! ### The call -/

/-- An entry of a dict that is omitted if the value is `None` or `{}`. -/
def payloadEntry (key : String) : Json → List (String × Json)
  | .null => []
  | .dict [] => []
  | value => [(key, value)]

/-- The message that `_send_message` makes of a request, in the order of `_prettify`. -/
def requestJson (seq : ℕ) (command : String) (arguments : Json) : Json :=
  .dict ([("seq", .int seq), ("type", .str "request"), ("command", .str command)] ++
    payloadEntry "arguments" arguments)

/-- `self.stream.write_json(message)`. -/
def writeMessage (codec : Codec) (value : Json) : Program Endpoint SendError Unit :=
  ExceptT.mk fun e =>
    match writeJson codec e.channel.closed value e.out with
    | (.ok (), out) => (.ok (), { e with out := out })
    | (.error error, out) => (.error (.write error), { e with out := out })

/-- The second critical section of `_send_message`: what the `with` statement has for a body
runs at the `yield`, and an exception that it raises is raised there. -/
def sendMessage (codec : Codec) (value : Json) (body : Program Endpoint SendError Unit) :
    Program Endpoint SendError Unit := do
  body
  writeMessage codec value

/-- What `send_request` has for a body of its `with` statement. -/
def requestBody (onBeforeSend : Option BeforeSend) (seq : ℕ) (r : RequestId) :
    Program Endpoint SendError Unit := do
  if let some callback := onBeforeSend then callback r
  modify fun e => { e with channel.table := e.channel.table.insert seq r }

/-- What becomes of the sender, for the record. -/
def record (i : ℕ) (sender : Sender) (outcome : Except SendError Unit) (e : Endpoint) :
    Endpoint :=
  match outcome with
  | .ok () => { e with channel :=
      { e.channel.setSender i sender .written with
        written := e.channel.written ++ [(sender.seq, sender.message)] } }
  | .error _ => { e with channel := e.channel.setSender i sender .failed }

/-- The sender that `send_request` adds. -/
def requestSender (command : String) (arguments : Json) (e : Endpoint) : Sender :=
  ⟨e.channel.seqIter, .request command arguments, some e.channel.table.requests.length, .drawn⟩

/-- The first critical section of `_send_message`. -/
def drawn (command : String) (arguments : Json) (e : Endpoint) : Endpoint :=
  { e with channel := e.channel.draw (.request command arguments) }

/-- `send_request(command, arguments, on_before_send)`; `others` is what the other threads do
between the two critical sections. -/
def sendRequest (codec : Codec) (command : String) (arguments : Json)
    (onBeforeSend : Option BeforeSend) (others : Endpoint → Endpoint) :
    Program Endpoint SendError RequestId := do
  let e ← get
  modify (drawn command arguments)
  modify others
  let seq := e.channel.seqIter
  let r := e.channel.table.requests.length
  let outcome ← attempt (sendMessage codec (requestJson seq command arguments)
    (requestBody onBeforeSend seq r))
  modify (record e.channel.senders.length (requestSender command arguments e) outcome)
  ofOutcome outcome
  return r

/-! ### What the call leaves -/

variable {codec : Codec} {command : String} {arguments : Json} {value : Json}
  {onBeforeSend : Option BeforeSend} {others : Endpoint → Endpoint} {e e₁ e' : Endpoint}
  {incoming : List (Except ReadError Json)} {error : SendError}

/-- The callback was there, and raised, and left `_sent_requests` alone. -/
def CallbackRaises (onBeforeSend : Option BeforeSend) (r : RequestId) (e : Endpoint) : Prop :=
  ∃ callback, onBeforeSend = some callback ∧ ∃ error e',
    exec (callback r) e = (.error error, e') ∧
    e'.channel.table.sentRequests = e.channel.table.sentRequests

/-- `_sent_requests` is what it was, and a response with the number that was drawn belongs to
no request. -/
def Restored (seq : ℕ) (s s' : Channel) : Prop :=
  s'.table.sentRequests = s.table.sentRequests ∧
    ∀ response : Response, response.requestSeq = seq →
      (s'.pop response).parser = .answering none response

/-- What other threads can make of a channel while a message waits to be sent, from where its
number is drawn. -/
def Meanwhile (incoming : List (Except ReadError Json)) (message : Outgoing)
    (s s' : Channel) : Prop :=
  (∃ as, (Ptvsd.channel incoming).run s (.draw message :: as) = some s') ∧
    s'.senders[s.senders.length]? = (s.draw message).senders[s.senders.length]?

/-- The writer does not touch the channel. -/
theorem exec_writeMessage : exec (writeMessage codec value) e =
    ((writeJson codec e.channel.closed value e.out).1.mapError SendError.write,
      { e with out := (writeJson codec e.channel.closed value e.out).2 }) := by
  simp only [exec, writeMessage, ExceptT.run_mk, StateT.run]
  rcases writeJson codec e.channel.closed value e.out with ⟨_ | _, out⟩
  · rfl
  · rfl

/-- `write_json` returns on an open stream only. -/
theorem closed_of_writeJson_ok (h : (writeJson codec e.channel.closed value e.out).1 = .ok ()) :
    e.channel.closed = false := by
  cases hclosed : e.channel.closed with
  | false => rfl
  | true => simp [writeJson, hclosed] at h

/-- A request that is waiting to be sent is not in `_sent_requests`. -/
theorem not_mem_sentRequests {s : Channel} {limbo : Option RequestId} (hs : s.Tracked limbo)
    {sender : Sender} (hmem : sender ∈ s.senders) (hdrawn : sender.state = .drawn)
    {r : RequestId} (hr : sender.request = some r) {p : ℕ × RequestId}
    (hp : p ∈ s.table.sentRequests) : p.1 ≠ sender.seq := by
  intro hseq
  obtain ⟨req, hreq, hreqSeq, hnot, -⟩ := hs.senders sender hmem r hr
  obtain ⟨-, req', k, hreq', hreqSeq', -, hk, -⟩ := hs.sent p hp
  -- the number belongs to one request, which was not sent and was sent
  obtain rfl : p.2 = r := hs.seqs _ _ _ _ hreq' hreq (by omega)
  obtain rfl : req = req' := Option.some.inj (hreq.symm.trans hreq')
  simp [hnot hdrawn] at hk

/-- What is not in `_sent_requests` is not found there. -/
theorem lookup_eq_none_of_forall {tbl : RequestTable} {seq : ℕ}
    (h : ∀ p ∈ tbl.sentRequests, p.1 ≠ seq) : tbl.lookup seq = none := by
  rw [RequestTable.lookup, Option.map_eq_none_iff, List.find?_eq_none]
  intro p hp
  have hne := h p hp
  simp only [decide_eq_true_eq]
  omega

/-- The callback is missing, or returns and leaves the state `e'`. -/
def CallbackReturns (onBeforeSend : Option BeforeSend) (r : RequestId) (e e' : Endpoint) : Prop :=
  onBeforeSend = none ∧ e' = e ∨
    ∃ callback, onBeforeSend = some callback ∧ exec (callback r) e = (.ok (), e')

/-- Whether the callback raises is all that matters to the body. -/
theorem exec_requestBody (seq : ℕ) (r : RequestId) :
    (∃ callback error e', onBeforeSend = some callback ∧ exec (callback r) e = (.error error, e') ∧
      exec (requestBody onBeforeSend seq r) e = (.error error, e')) ∨
    ∃ e' : Endpoint, CallbackReturns onBeforeSend r e e' ∧
      exec (requestBody onBeforeSend seq r) e =
        (.ok (), { e' with channel.table := e'.channel.table.insert seq r }) := by
  cases onBeforeSend with
  | none => exact Or.inr ⟨e, Or.inl ⟨rfl, rfl⟩, rfl⟩
  | some callback =>
      rcases hcallback : exec (callback r) e with ⟨_ | _, e'⟩
      · refine Or.inl ⟨callback, _, e', rfl, hcallback, ?_⟩
        simp only [requestBody, exec_bind, hcallback]
      · refine Or.inr ⟨e', Or.inr ⟨callback, rfl, hcallback⟩, ?_⟩
        simp only [requestBody, exec_bind, hcallback]
        rfl

/-- **How the second critical section fails**: with what the callback raised, or with the
request in `_sent_requests`. -/
theorem sendMessage_raises {seq : ℕ} {r : RequestId}
    (h : exec (sendMessage codec value (requestBody onBeforeSend seq r)) e = (.error error, e')) :
    (∃ callback, onBeforeSend = some callback ∧ exec (callback r) e = (.error error, e')) ∨
    ∃ e₂, CallbackReturns onBeforeSend r e e₂ ∧ (seq, r) ∈ e'.channel.table.sentRequests := by
  rcases @exec_requestBody onBeforeSend e seq r with
    ⟨callback, error', e₂, hsome, hraises, hbody⟩ | ⟨e₂, hreturns, hbody⟩
  · rw [sendMessage, exec_bind, hbody] at h
    obtain ⟨rfl, rfl⟩ : error' = error ∧ e₂ = e' := by simpa using h
    exact Or.inl ⟨callback, hsome, hraises⟩
  · rw [sendMessage, exec_bind_ok hbody, exec_writeMessage] at h
    obtain ⟨-, rfl⟩ := Prod.mk.inj h
    exact Or.inr ⟨e₂, hreturns, by simp [RequestTable.insert]⟩

/-- The call, once the second critical section has been left. -/
theorem exec_sendRequest {r : Except SendError Unit}
    (h : exec (sendMessage codec (requestJson e.channel.seqIter command arguments)
      (requestBody onBeforeSend e.channel.seqIter e.channel.table.requests.length))
      (others (drawn command arguments e)) = (r, e₁)) :
    exec (sendRequest codec command arguments onBeforeSend others) e =
      (r.map fun _ => e.channel.table.requests.length,
        record e.channel.senders.length (requestSender command arguments e) r e₁) := by
  have hattempt : exec (attempt (sendMessage codec
      (requestJson e.channel.seqIter command arguments)
      (requestBody onBeforeSend e.channel.seqIter e.channel.table.requests.length)))
      (others (drawn command arguments e)) = (.ok r, e₁) := by
    change (Except.ok (exec _ _).1, (exec _ _).2) = _
    rw [h]
  rw [sendRequest, exec_bind_ok exec_get, exec_bind_ok exec_modify, exec_bind_ok exec_modify,
    exec_bind_ok hattempt, exec_bind_ok exec_modify]
  cases r with
  | ok a => rfl
  | error error => rfl

/-- The record leaves the table alone. -/
@[simp] theorem record_table (i : ℕ) (sender : Sender) (outcome : Except SendError Unit)
    (e : Endpoint) : (record i sender outcome e).channel.table = e.channel.table := by
  cases outcome <;> rfl

/-- The invariant of the requests, on its own. -/
theorem tracked_invariant (incoming : List (Except ReadError Json)) :
    (Ptvsd.channel incoming).Invariant Channel.TrackedChannel :=
  ⟨fun h => h ▸ Channel.init_tracked incoming, Channel.tracked_step⟩

/-- **A failing call restores `_sent_requests` if and only if its callback raised.** What the other
threads have made of the channel before the lock was taken again is left as it is; if they have
done nothing, that is the channel before the call. -/
theorem sendRequest_restores_iff (he : (Ptvsd.channel incoming).Reachable e.channel)
    (hothers : Meanwhile incoming (.request command arguments) e.channel
      (others (drawn command arguments e)).channel)
    (h : exec (sendRequest codec command arguments onBeforeSend others) e = (.error error, e')) :
    Restored e.channel.seqIter (others (drawn command arguments e)).channel e'.channel ↔
      CallbackRaises onBeforeSend e.channel.table.requests.length
        (others (drawn command arguments e)) := by
  obtain ⟨⟨as, hrun⟩, hwaits⟩ := hothers
  have htracked := (tracked_invariant incoming).of_reachable (he.run hrun)
  have hsender : (others (drawn command arguments e)).channel.senders[e.channel.senders.length]? =
      some (requestSender command arguments e) := by
    rw [hwaits]
    simp [Channel.draw, requestSender]
  have hfresh : ∀ p ∈ (others (drawn command arguments e)).channel.table.sentRequests,
      p.1 ≠ e.channel.seqIter := fun p hp =>
    not_mem_sentRequests htracked.tracked (List.mem_of_getElem? hsender) rfl rfl hp
  rcases hsend : exec (sendMessage codec (requestJson e.channel.seqIter command arguments)
      (requestBody onBeforeSend e.channel.seqIter e.channel.table.requests.length))
      (others (drawn command arguments e)) with ⟨error' | _, e₂⟩
  · rw [exec_sendRequest hsend] at h
    obtain ⟨-, rfl⟩ := Prod.mk.inj h
    rw [Restored, record_table]
    rcases sendMessage_raises hsend with ⟨callback, hsome, hraises⟩ | ⟨e₃, hreturns, hmem⟩
    · constructor
      · rintro ⟨htable, -⟩
        exact ⟨callback, hsome, error', e₂, hraises, htable⟩
      · rintro ⟨callback', hsome', error'', e₃, hraises', htable⟩
        obtain rfl : callback = callback' := Option.some.inj (hsome.symm.trans hsome')
        obtain ⟨-, rfl⟩ := Prod.mk.inj (hraises.symm.trans hraises')
        refine ⟨htable, fun response hseq => ?_⟩
        have hnone : e₂.channel.table.lookup e.channel.seqIter = none :=
          lookup_eq_none_of_forall (htable ▸ hfresh)
        simp only [Channel.pop, record_table, hseq, hnone]
    · constructor
      · -- the request that is left behind was not there before
        rintro ⟨htable, -⟩
        exact absurd rfl (hfresh _ (htable ▸ hmem))
      · rintro ⟨callback, hsome, error'', e₄, hraises, -⟩
        rcases hreturns with ⟨hnone, -⟩ | ⟨callback', hsome', hreturns⟩
        · simp [hnone] at hsome
        · obtain rfl : callback = callback' := Option.some.inj (hsome.symm.trans hsome')
          simp [hreturns] at hraises
  · rw [exec_sendRequest hsend] at h
    cases (Prod.mk.inj h).1

/-- A new channel, over a writer that never raises. -/
def newEndpoint : Endpoint := ⟨.init [], ⟨[], fun _ => .full, fun _ => none, 0⟩⟩

/-- A callback that refuses to send the request. -/
def refuse : BeforeSend := fun _ => throw (.beforeSend "refused")

/-- A request on a new channel whose callback raises. -/
theorem sendRequest_restores_iff_refuse :
    ∃ e', exec (sendRequest literals "pause" .null (some refuse) id) newEndpoint =
        (.error (.beforeSend "refused"), e') ∧
      Restored 1 (drawn "pause" .null newEndpoint).channel e'.channel := by
  have hnew : (Ptvsd.channel []).Reachable newEndpoint.channel := .of_start rfl
  obtain ⟨e', hraises⟩ : ∃ e', exec (sendRequest literals "pause" .null (some refuse) id)
      newEndpoint = (.error (.beforeSend "refused"), e') := ⟨_, rfl⟩
  exact ⟨e', hraises, (sendRequest_restores_iff hnew ⟨⟨[], rfl⟩, rfl⟩ hraises).mpr
    ⟨refuse, rfl, _, _, rfl, rfl⟩⟩

/-- **After `close()`, the request is left in `_sent_requests`**, and a response with its number
is taken for its response. -/
theorem not_restored :
    ∃ e e', (Ptvsd.channel []).run newEndpoint.channel [.close] = some e.channel ∧
      exec (sendRequest literals "pause" .null none id) e =
        (.error (.write .noMoreMessages), e') ∧
      e'.channel.table.sentRequests = [(1, 0)] ∧
      ¬ Restored 1 (drawn "pause" .null e).channel e'.channel := by
  refine ⟨{ newEndpoint with channel.closed := true }, _, rfl, rfl, rfl, ?_⟩
  rintro ⟨htable, -⟩
  cases htable

/-! ### The call as a run -/

/-- **The second critical section is a step of the channel**, if the callback leaves the channel
alone: the message is written, or fails to be, or is abandoned. -/
theorem sendRequest_step (hexited : (others (drawn command arguments e)).channel.exited = false)
    (hwaits : (others (drawn command arguments e)).channel.senders[e.channel.senders.length]? =
      some (requestSender command arguments e))
    (hcallback : ∀ callback, onBeforeSend = some callback →
      (exec (callback e.channel.table.requests.length)
        (others (drawn command arguments e))).2.channel =
          (others (drawn command arguments e)).channel) :
    ∃ a ∈ [Channel.Action.send e.channel.senders.length true, .send e.channel.senders.length false,
        .abandon e.channel.senders.length],
      (others (drawn command arguments e)).channel.step a =
        some (exec (sendRequest codec command arguments onBeforeSend others) e).2.channel := by
  generalize hbefore : others (drawn command arguments e) = e₁ at hexited hwaits hcallback ⊢
  rcases @exec_requestBody onBeforeSend e₁ e.channel.seqIter e.channel.table.requests.length with
    ⟨callback, error, e₂, hsome, hraises, hbody⟩ | ⟨e₂, hreturns, hbody⟩
  · -- the callback raises
    have hsend : exec (sendMessage codec (requestJson e.channel.seqIter command arguments)
        (requestBody onBeforeSend e.channel.seqIter e.channel.table.requests.length))
        (others (drawn command arguments e)) = (.error error, e₂) := by
      rw [hbefore, sendMessage, exec_bind, hbody]
    have hchannel : e₂.channel = e₁.channel := by simpa [hraises] using hcallback callback hsome
    refine ⟨.abandon e.channel.senders.length, by simp, ?_⟩
    rw [exec_sendRequest hsend]
    simp [Channel.step, hexited, hwaits, requestSender, record, hchannel]
  · have hchannel : e₂.channel = e₁.channel := by
      rcases hreturns with ⟨-, rfl⟩ | ⟨callback, hsome, hreturns⟩
      · rfl
      · simpa [hreturns] using hcallback callback hsome
    have hsend := exec_bind_ok (f := fun _ => writeMessage codec
      (requestJson e.channel.seqIter command arguments)) hbody
    rw [exec_writeMessage, ← hbefore] at hsend
    rw [exec_sendRequest hsend]
    cases hwrite : (writeJson codec e₂.channel.closed
        (requestJson e.channel.seqIter command arguments) e₂.out).1 with
    | ok a =>
        refine ⟨.send e.channel.senders.length true, by simp, ?_⟩
        have hopen : e₁.channel.closed = false := hchannel ▸ closed_of_writeJson_ok hwrite
        simp [Channel.step, Channel.send, Channel.beforeWrite, Channel.setSender, hexited, hwaits,
          hopen, requestSender, record, hchannel, Except.mapError]
    | error error =>
        refine ⟨.send e.channel.senders.length false, by simp, ?_⟩
        simp [Channel.step, Channel.send, Channel.beforeWrite, Channel.setSender, hexited, hwaits,
          requestSender, record, hchannel, Except.mapError]

end Endpoint

end Ptvsd
