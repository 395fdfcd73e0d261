import Ptvsd.Packet
import Ptvsd.Requests

/-!
# How the Message Loop Ends

`_parse_incoming_messages` cleans up when it catches `NoMoreMessages`: outstanding requests
get synthesized responses, the disconnect is enqueued, and the channel is closed. Every
other exception — headers without a length, a body that is not JSON, a JSON value that is
not an object, a message without a valid type — ends the parser thread without that.

A message that violates the protocol should be reported and dropped. The report is made
through the message that the object belongs to; while it is parsed it belongs to none, so
that only the check that comes after parsing, for an unknown `request_seq`, works.

## Main results

* `cleanedUp_iff`: in every run on a stream of bytes the loop cleans up when it ends, **if
  and only if** the stream `EndsCleanly`.
* `drops_iff`: a message that violates the protocol is reported and dropped **if and only
  if** all its properties are there and well typed.
-/

open ByteStream

namespace Ptvsd

namespace Channel

variable {incoming : List (Except ReadError Json)} {s s' : Channel} {a : Action}

/-! ### What is left behind -/

/-- What the end of the message loop, from `s` to `s'`, is to leave behind. -/
structure CleanedUp (s s' : Channel) : Prop where
  /-- Every outstanding request has a synthesized response, and its handlers are enqueued. -/
  responses : ∀ p ∈ s.table.sentRequests, ∃ req response,
    s'.table.requests[p.2]? = some req ∧ req.response = some response ∧
      response.body.success = false ∧ (∃ text, response = req.synthesized text) ∧
      enqueuedFor p.2 s'.queue.enqueued = req.registered
  sentRequests : s'.table.sentRequests = []
  /-- The disconnect is enqueued once. -/
  disconnect : s'.queue.enqueued.countP Item.isDisconnect = 1
  closed : s'.closed = true

/-- The parser thread leaves its loop with this step. -/
def LeavesLoop (s : Channel) (a : Action) (s' : Channel) : Prop :=
  s.step a = some s' ∧ s.parser.isEnded = false ∧ s'.parser.isEnded = true

/-- The handler of `NoMoreMessages` leaves everything behind as it should. -/
theorem cleanUp_cleanedUp (hs : s.TrackedChannel) (horderly : s.Orderly) {text : String}
    (hp : s.parser = .disconnecting text) : CleanedUp s (s.cleanUp text) := by
  have ht := hs.tracked
  rw [hp] at ht
  obtain ⟨ht', hempty, hkeeps, hclosed, hparser⟩ := ht.cleanUp (by rw [hp]; rfl) text
  refine ⟨fun p hpsent => ?_, hempty, ?_, hclosed⟩
  · obtain ⟨-, req, k, hreq, -, -, hk, hfirst⟩ := ht.sent p hpsent
    obtain ⟨req', hreq', hseq', -, hsentAt', -⟩ := hkeeps.requests p.2 req hreq
    have hok := ht'.ok p.2 req' hreq'
    -- nothing is outstanding any more, so there is a response, and none was received
    cases hresponse : req'.response with
    | none =>
        have := ht'.waiting p.2 req' hreq' (by simp [hsentAt', hk]) hresponse
        simp [hempty] at this
    | some response =>
        obtain ⟨k', hk', hanswer | ⟨-, text', rfl⟩⟩ := hok.answered response hresponse
        · obtain rfl : k = k' := Option.some.inj ((hsentAt'.trans hk).symm.trans hk')
          rw [RequestTable.firstAnswer, hkeeps.received, hseq'] at hanswer
          exact absurd (hfirst.symm.trans hanswer) (by simp)
        · have hhandlers := hok.handlers
          rw [hok.after (by simp [hresponse]), List.append_nil] at hhandlers
          exact ⟨req', _, hreq', hresponse, rfl, ⟨text', rfl⟩, hhandlers⟩
  · have hnone : s.queue.enqueued.countP Item.isDisconnect = 0 := by
      rw [List.countP_eq_zero]
      intro x hx hdisc
      have := horderly.disconnected x hx hdisc
      simp [hp, ParserState.isEnded] at this
    obtain ⟨-, hno⟩ | ⟨q, hq, hqueue, -⟩ :=
      cleanUp_queue (P := fun q => q.enqueued.countP Item.isDisconnect = 0)
        (fun _ _ _ hq => by simp [hq]) text hnone
    · exact absurd hparser hno
    · rw [hqueue, HandlerQueue.enqueue_enqueued, List.countP_append, hq]
      rfl

/-! ### Streams of values -/

/-- The loop that reads these values ends with `NoMoreMessages`, or does not end at all:
because reading blocks, or because the process exits. -/
def CleanEnd : List (Except ReadError Json) → Prop
  | [] => True
  | .error (.noMoreMessages _) :: _ => True
  | .error _ :: _ => False
  | .ok value :: rest =>
      match parseIncoming value with
      | .message _ => CleanEnd rest
      | .dropped _ => CleanEnd rest
      | .raises _ => False
      | .fatal => True

/-- The loop will clean up, or is past its last read. -/
structure WillCleanUp (s : Channel) : Prop where
  tracked : s.TrackedChannel
  orderly : s.Orderly
  incoming : CleanEnd s.incoming ∨ s.parser.isOver = true ∨ s.exited = true

theorem WillCleanUp.running (hs : s.WillCleanUp) (hover : s.parser.isOver = false)
    (hexited : s.exited = false) : CleanEnd s.incoming := by
  simpa [hover, hexited] using hs.incoming

/-- What reading does to a stream that ends cleanly. -/
theorem receive_cleanEnd {outcome : Except ReadError Json} {rest : List (Except ReadError Json)}
    (h : CleanEnd (outcome :: rest)) (s : Channel) (hs : s.parser.isEnded = false) :
    (receive outcome s).parser.isEnded = false ∧
      (CleanEnd rest ∨ (receive outcome s).parser.isOver = true ∨
        (receive outcome s).exited = true) := by
  match outcome with
  | .error (.noMoreMessages text) => exact ⟨rfl, Or.inr (Or.inl rfl)⟩
  | .error .contentLength | .error .unicodeDecode | .error .jsonDecode => exact absurd h id
  | .ok value =>
      cases hv : parseIncoming value with
      | message m =>
          simp only [CleanEnd, hv] at h
          simp only [receive, hv]
          exact ⟨rfl, Or.inl h⟩
      | dropped reason =>
          simp only [CleanEnd, hv] at h
          simp only [receive, hv]
          exact ⟨rfl, Or.inl h⟩
      | raises e => simp [CleanEnd, hv] at h
      | fatal =>
          simp only [receive, hv]
          exact ⟨hs, Or.inr (Or.inr trivial)⟩

/-- **One step on a stream that ends cleanly**: if the parser thread leaves its loop, it has
cleaned up. -/
theorem willCleanUp_step (hs : s.WillCleanUp) (h : s.step a = some s') :
    s'.WillCleanUp ∧
      (s.parser.isEnded = false → s'.parser.isEnded = true → CleanedUp s s') := by
  have htracked := tracked_step hs.tracked h
  have horderly := orderly_step hs.orderly h
  obtain ⟨hexited, ht⟩ := step_cases h
  have hin := hs.incoming
  cases ht with
  | read hp =>
      have hclean := hs.running (by rw [hp]; rfl) hexited
      exact ⟨⟨htracked, horderly, Or.inl hclean⟩, fun _ h => by simp [ParserState.isEnded] at h⟩
  | @receive outcome rest hp hi =>
      have hclean := hs.running (by rw [hp]; rfl) hexited
      rw [hi] at hclean
      obtain ⟨hended, hrest⟩ := receive_cleanEnd hclean { s with incoming := rest }
        (by simp [hp, ParserState.isEnded])
      refine ⟨⟨htracked, horderly, ?_⟩, fun _ h => by simp [hended] at h⟩
      obtain ⟨parser, failures, exited, hr⟩ := receive_frame outcome { s with incoming := rest }
      rw [hr] at hrest ⊢
      exact hrest
  | pop hp =>
      have hclean := hs.running (by rw [hp]; rfl) hexited
      exact ⟨⟨htracked, horderly, Or.inl hclean⟩, fun _ h => by
        simp [Channel.pop, ParserState.isEnded] at h⟩
  | enqueue hp =>
      have hclean := hs.running (by rw [hp]; rfl) hexited
      exact ⟨⟨htracked, horderly, Or.inl hclean⟩, fun _ h => by simp [ParserState.isEnded] at h⟩
  | @answer request response hp =>
      refine ⟨⟨htracked, horderly, Or.inl ?_⟩, fun _ h => by simp [ParserState.isEnded] at h⟩
      obtain ⟨tbl, q, hr⟩ := answer_frame request response s
      rw [hr]
      exact hs.running (by rw [hp]; rfl) hexited
  | @cleanUp text hp =>
      have hclean := cleanUp_cleanedUp hs.tracked hs.orderly hp
      have ht := hs.tracked.tracked
      rw [hp] at ht
      obtain ⟨-, -, -, -, hparser⟩ := ht.cleanUp (by rw [hp]; rfl) text
      exact ⟨⟨htracked, horderly, Or.inr (Or.inl (by rw [hparser]; rfl))⟩, fun _ _ => hclean⟩
  | interrupt =>
      exact ⟨⟨htracked, horderly, Or.inr (Or.inl rfl)⟩, fun _ h => by
        simp [ParserState.isEnded] at h⟩
  | handler => exact ⟨⟨htracked, horderly, hin⟩, fun h h' => by simp [h] at h'⟩
  | crash => exact ⟨⟨htracked, horderly, Or.inr (Or.inr rfl)⟩, fun h h' => by simp [h] at h'⟩
  | @draw message =>
      have hsame : (s.draw message).incoming = s.incoming ∧
          (s.draw message).parser = s.parser ∧ (s.draw message).exited = s.exited := by
        cases message <;> exact ⟨rfl, rfl, rfl⟩
      obtain ⟨hi, hp, he⟩ := hsame
      refine ⟨⟨htracked, horderly, ?_⟩, fun h h' => by simp [hp, h] at h'⟩
      rw [hi, hp, he]
      exact hin
  | send _ _ hsend =>
      rcases send_cases hsend with ⟨-, -, rfl⟩ | ⟨-, rfl⟩
      · exact ⟨⟨htracked, horderly, hin⟩, fun h h' => by simp [h] at h'⟩
      · exact ⟨⟨htracked, horderly, hin⟩, fun h h' => by simp [h] at h'⟩
  | abandon => exact ⟨⟨htracked, horderly, hin⟩, fun h h' => by simp [setSender, h] at h'⟩
  | @onResponse r handler =>
      obtain ⟨tbl, q, hr⟩ :=
        enqueueResponseHandlers_frame r { s with table := s.table.register r handler }
      refine ⟨⟨htracked, horderly, ?_⟩, fun h h' => by simp [hr, h] at h'⟩
      rw [hr]
      exact hin
  | close => exact ⟨⟨htracked, horderly, hin⟩, fun h h' => by simp [h] at h'⟩

/-- A message that does not end the loop: the parser thread is at its top again. -/
theorem exists_looping {value : Json} {rest : List (Except ReadError Json)}
    (hp : s.parser = .looping) (hclosed : s.closed = false) (hexited : s.exited = false)
    (hi : s.incoming = .ok value :: rest)
    (hv : (∃ m, parseIncoming value = .message m) ∨
      ∃ reason, parseIncoming value = .dropped reason) :
    ∃ as s', (channel incoming).run s as = some s' ∧ s'.parser = .looping ∧
      s'.closed = false ∧ s'.exited = false ∧ s'.incoming = rest := by
  have hread : s.step .parser = some { s with parser := .reading } := by
    simp [step, parserStep, hexited, hp, hclosed]
  have hreceive : ({ s with parser := .reading }).step .parser =
      some (receive (.ok value) { s with parser := .reading, incoming := rest }) := by
    simp [step, parserStep, hexited, hi]
  have hrun : (channel incoming).run s [.parser, .parser] =
      some (receive (.ok value) { s with parser := .reading, incoming := rest }) := by
    simp only [channel, Machine.run_cons, Machine.run_nil, hread, hreceive, Option.bind_some]
  rcases hv with ⟨m, hm⟩ | ⟨reason, hreason⟩
  · simp only [receive, hm] at hrun
    by_cases hresponse : ∃ response, m = .response response
    · obtain ⟨response, rfl⟩ := hresponse
      set s₃ := pop response { s with parser := .parsed (.response response), incoming := rest }
        with hs₃
      obtain ⟨tbl, q, hr⟩ := answer_frame (s.table.lookup response.requestSeq) response s₃
      have hpop : ({ s with parser := .parsed (.response response), incoming := rest }).step
          .parser = some s₃ := by
        simp [step, parserStep, hexited, hs₃]
      set s₄ : Channel := { s₃.answer (s.table.lookup response.requestSeq) response with
        parser := .looping
        failures := s₃.failures ++
          unknownRequest (s.table.lookup response.requestSeq) response } with hs₄
      have hanswer : s₃.step .parser = some s₄ := by
        simp [step, parserStep, hexited, hs₃, hs₄, pop]
      have hrun' : (channel incoming).run
          { s with parser := .parsed (.response response), incoming := rest }
          [.parser, .parser] = some s₄ := by
        simp only [Machine.run_cons, Machine.run_nil, channel, hpop, hanswer, Option.bind_some]
      refine ⟨_, s₄, (channel incoming).run_trans hrun hrun', rfl, ?_, ?_, ?_⟩
      · exact (congrArg Channel.closed hr).trans hclosed
      · exact (congrArg Channel.exited hr).trans hexited
      · exact congrArg Channel.incoming hr
    · set s₃ : Channel :=
        { enqueue [.ofMessage m] { s with parser := .parsed m, incoming := rest } with
          parser := .looping } with hs₃
      have henqueue : ({ s with parser := .parsed m, incoming := rest }).step .parser =
          some s₃ := by
        cases m with
        | response response => exact absurd ⟨response, rfl⟩ hresponse
        | event | request | disconnect => simp [step, parserStep, hexited, hs₃]
      refine ⟨_, s₃, (channel incoming).run_trans hrun
        (show (channel incoming).run _ [.parser] = some s₃ from ?_), rfl, hclosed, hexited, rfl⟩
      simp only [Machine.run_cons, Machine.run_nil, channel, henqueue, Option.bind_some]
  · simp only [receive, hreason] at hrun
    exact ⟨[.parser, .parser], _, hrun, rfl, hclosed, hexited, rfl⟩

/-- **An exception that nothing catches**: a run of the parser thread alone, up to the step
with which it leaves its loop, on a channel that is not closed. -/
theorem exists_leavesLoop (hp : s.parser = .looping) (hclosed : s.closed = false)
    (hexited : s.exited = false) (h : ¬ CleanEnd s.incoming) :
    ∃ as s₁ s₂, (channel incoming).run s as = some s₁ ∧ LeavesLoop s₁ .parser s₂ ∧
      s₂.closed = false := by
  induction hi : s.incoming generalizing s with
  | nil => simp [hi, CleanEnd] at h
  | cons outcome rest ih =>
      rw [hi] at h
      have hread : (channel incoming).run s [.parser] = some { s with parser := .reading } := by
        simp [channel, step, parserStep, hexited, hp, hclosed]
      have hreceive : ({ s with parser := .reading }).step .parser =
          some (receive outcome { s with parser := .reading, incoming := rest }) := by
        simp [step, parserStep, hexited, hi]
      cases outcome with
      | error e =>
          cases e with
          | noMoreMessages text => exact absurd trivial h
          | contentLength | unicodeDecode | jsonDecode =>
              exact ⟨[.parser], _, _, hread, ⟨hreceive, rfl, rfl⟩, hclosed⟩
      | ok value =>
          -- if the loop goes on, so does the run, and it ends as that of the rest does
          have hgoes : ∀ s₀ : Channel, s₀.parser = .looping → s₀.closed = false →
              s₀.exited = false → s₀.incoming = rest → ¬ CleanEnd rest →
              (∃ as, (channel incoming).run s as = some s₀) →
              ∃ as s₁ s₂, (channel incoming).run s as = some s₁ ∧
                LeavesLoop s₁ .parser s₂ ∧ s₂.closed = false := by
            rintro s₀ hp₀ hclosed₀ hexited₀ hi₀ hrest ⟨as, hrun⟩
            obtain ⟨bs, s₁, s₂, hrun', hleaves, hopen⟩ :=
              ih hp₀ hclosed₀ hexited₀ (by rwa [hi₀]) hi₀
            exact ⟨as ++ bs, s₁, s₂, (channel incoming).run_trans hrun hrun', hleaves, hopen⟩
          cases hv : parseIncoming value with
          | fatal => simp [CleanEnd, hv] at h
          | raises e =>
              simp only [receive, hv] at hreceive
              exact ⟨[.parser], _, _, hread, ⟨hreceive, rfl, rfl⟩, hclosed⟩
          | message m =>
              simp only [CleanEnd, hv] at h
              obtain ⟨as, s₀, hrun, hp₀, hclosed₀, hexited₀, hi₀⟩ :=
                @exists_looping incoming s value rest hp hclosed hexited hi (Or.inl ⟨m, hv⟩)
              exact hgoes s₀ hp₀ hclosed₀ hexited₀ hi₀ h ⟨as, hrun⟩
          | dropped reason =>
              simp only [CleanEnd, hv] at h
              obtain ⟨as, s₀, hrun, hp₀, hclosed₀, hexited₀, hi₀⟩ :=
                @exists_looping incoming s value rest hp hclosed hexited hi (Or.inr ⟨reason, hv⟩)
              exact hgoes s₀ hp₀ hclosed₀ hexited₀ hi₀ h ⟨as, hrun⟩

/-- **The loop cleans up in every run exactly if the values read end cleanly.** -/
theorem cleanedUp_iff_cleanEnd :
    (∀ s a s', (channel incoming).Reachable s → LeavesLoop s a s' → CleanedUp s s') ↔
      CleanEnd incoming := by
  constructor
  · intro h
    by_contra hno
    obtain ⟨as, s₁, s₂, hrun, hleaves, hopen⟩ :=
      @exists_leavesLoop incoming (init incoming) rfl rfl rfl hno
    have hreach : (channel incoming).Reachable s₁ :=
      Machine.reachable_iff_run.mpr ⟨_, as, rfl, hrun⟩
    simpa [hopen] using (h s₁ .parser s₂ hreach hleaves).closed
  · rintro hclean s a s' hreach ⟨hstep, hrunning, hended⟩
    have hinv : (channel incoming).Invariant WillCleanUp :=
      ⟨fun h => h ▸ ⟨init_tracked incoming, init_orderly incoming, Or.inl hclean⟩,
        fun hs h => (willCleanUp_step hs h).1⟩
    exact (willCleanUp_step (hinv.of_reachable hreach) hstep).2 hrunning hended

end Channel

/-! ### Streams of bytes -/

variable (codec : Codec)

/-- The values that a loop calling `read_json` gets to see. -/
def incomingOf (src : Source) : List (Except ReadError Json) :=
  incoming codec (src.rest.length + 1) src

theorem Packet.length_pos (p : Packet) : 0 < p.bytes.length := by
  simp only [Packet.bytes, headerBlock, crlf, List.length_append, List.length_cons]
  omega

/-- There is always fuel enough. -/
theorem incoming_fuel {fuel : ℕ} {src : Source} (hfuel : src.rest.length < fuel) :
    incoming codec fuel src = incomingOf codec src := by
  induction hn : src.rest.length using Nat.strong_induction_on generalizing src fuel with
  | _ n ih =>
      obtain ⟨fuel, rfl⟩ := Nat.exists_eq_succ_of_ne_zero (by omega : fuel ≠ 0)
      rw [incomingOf, incoming, incoming]
      rcases stream_cases src.rest with
        ⟨hs, tail, hhs, hrest, hnone⟩ | ⟨hs, tail, hhs, hrest, hlen⟩ |
        ⟨hs, tail, length, hhs, hrest, hlen, hshort⟩ | ⟨p, tail, hrest⟩
      · obtain ⟨text, src', h⟩ | h := readJson_noBlock codec hhs hrest hnone <;> rw [h]
      · rw [readJson_noLength codec hhs hrest hlen]
      · obtain ⟨text, src', h⟩ := readJson_truncated codec hhs hrest hlen hshort
        rw [h]
      · obtain ⟨calls, h⟩ := readJson_packet codec hrest
        rw [h]
        cases decodeBody codec p.body with
        | error e => rfl
        | ok value =>
            have hlt : tail.length < n := by
              rw [← hn, hrest, List.length_append]
              have := p.length_pos
              omega
            dsimp only
            rw [@ih _ hlt fuel { src with rest := tail, calls := calls } (by simp only; omega) rfl,
              @ih _ hlt src.rest.length { src with rest := tail, calls := calls }
                (by simp only; omega) rfl]

/-- The first value of a stream that begins with a packet. -/
theorem incomingOf_packet {src : Source} {p : Packet} {tail : Bytes}
    (hrest : src.rest = p.bytes ++ tail) :
    ∃ calls, incomingOf codec src =
      match decodeBody codec p.body with
      | .error e => [.error e]
      | .ok value => .ok value :: incomingOf codec { src with rest := tail, calls := calls } := by
  obtain ⟨calls, h⟩ := readJson_packet codec hrest
  refine ⟨calls, ?_⟩
  rw [incomingOf, incoming, h]
  cases decodeBody codec p.body with
  | error e => rfl
  | ok value =>
      dsimp only
      rw [incoming_fuel]
      have := p.length_pos
      rw [hrest, List.length_append]
      simp only
      omega

/-- **The streams on which the message loop cleans up**: packets with well-formed messages,
and then the end of the stream, before a blank line or in the middle of a body; or a
message that makes the process exit. -/
inductive EndsCleanly : Bytes → Prop
  /-- No blank line follows. -/
  | noBlock {hs : List Bytes} {tail : Bytes} : HeaderLines hs → splitLine tail = none →
      EndsCleanly (joinLines hs ++ tail)
  /-- The body is cut short. -/
  | truncated {hs : List Bytes} {tail : Bytes} {length : ℕ} : HeaderLines hs →
      (Headers.ofLines hs).contentLength = some length → tail.length < length →
      EndsCleanly (headerBlock hs ++ tail)
  /-- An object that has a valid type, but not the other properties. -/
  | exits {p : Packet} {tail : Bytes} {items : List (String × Json)} :
      decodeBody codec p.body = .ok (.dict items) → MessageDict.HasType ⟨items, none⟩ →
      ¬ MessageDict.WellFormed ⟨items, none⟩ → EndsCleanly (p.bytes ++ tail)
  /-- A well-formed message. -/
  | packet {p : Packet} {tail : Bytes} {items : List (String × Json)} :
      decodeBody codec p.body = .ok (.dict items) → MessageDict.WellFormed ⟨items, none⟩ →
      EndsCleanly tail → EndsCleanly (p.bytes ++ tail)

/-- What becomes of a value that was read. -/
theorem parseIncoming_cases (value : Json) :
    (∃ items m, value = .dict items ∧ MessageDict.WellFormed ⟨items, none⟩ ∧
      parseIncoming value = .message m) ∨
    (∃ items, value = .dict items ∧ MessageDict.HasType ⟨items, none⟩ ∧
      ¬ MessageDict.WellFormed ⟨items, none⟩ ∧ parseIncoming value = .fatal) ∨
    ((∀ items, value = .dict items → ¬ MessageDict.HasType ⟨items, none⟩) ∧
      ∃ e, parseIncoming value = .raises e) := by
  match value with
  | .null | .bool _ | .int _ | .float _ | .str _ | .list _ =>
      exact Or.inr (Or.inr ⟨by simp, _, rfl⟩)
  | .dict items =>
      by_cases hwf : MessageDict.WellFormed ⟨items, none⟩
      · obtain ⟨m, hm⟩ := Channel.parseIncoming_of_wellFormed hwf
        exact Or.inl ⟨items, m, rfl, hwf, hm⟩
      · by_cases htype : MessageDict.HasType ⟨items, none⟩
        · obtain ⟨type, hmem, hget⟩ := id htype
          refine Or.inr (Or.inl ⟨items, rfl, htype, hwf, ?_⟩)
          have hno : ¬ MessageDict.WellFormedAs ⟨items, none⟩ type :=
            fun h => hwf ⟨type, hmem, hget, h⟩
          have henum : enum messageTypes false (some (.str type)) = .ok (some (.str type)) :=
            enum_eq_ok_iff.mpr ⟨type, hmem, rfl, rfl⟩
          simp only [parseIncoming, MessageDict.call, hget, henum, Property.toText,
            parse_of_not_wellFormed rfl hno, MessageDict.unassociated]
        · refine Or.inr (Or.inr ⟨fun items' heq => ?_, ?_⟩)
          · obtain rfl := Json.dict.inj heq
            exact htype
          · have herror := @enum_error messageTypes (MessageDict.get ⟨items, none⟩ "type")
              fun type hmem hget => htype ⟨type, hmem, hget⟩
            exact ⟨_, by simp only [parseIncoming, MessageDict.call, herror]; rfl⟩

/-- A body that does not decode is not the end of the messages. -/
theorem decodeBody_error {body : Bytes} {e : ReadError} (h : decodeBody codec body = .error e) :
    e = .unicodeDecode ∨ e = .jsonDecode := by
  rw [decodeBody] at h
  split at h
  · exact Or.inl (Except.error.inj h).symm
  · split at h
    · exact Or.inr (Except.error.inj h).symm
    · simp at h

theorem endsCleanly_of_cleanEnd {src : Source} (h : Channel.CleanEnd (incomingOf codec src)) :
    EndsCleanly codec src.rest := by
  induction hn : src.rest.length using Nat.strong_induction_on generalizing src with
  | _ n ih =>
      rcases stream_cases src.rest with
        ⟨hs, tail, hhs, hrest, hnone⟩ | ⟨hs, tail, hhs, hrest, hlen⟩ |
        ⟨hs, tail, length, hhs, hrest, hlen, hshort⟩ | ⟨p, tail, hrest⟩
      · rw [hrest]
        exact .noBlock hhs hnone
      · rw [incomingOf, incoming, readJson_noLength codec hhs hrest hlen] at h
        exact absurd h id
      · rw [hrest]
        exact .truncated hhs hlen hshort
      · obtain ⟨calls, hin⟩ := incomingOf_packet codec hrest
        rw [hin] at h
        rw [hrest]
        cases hbody : decodeBody codec p.body with
        | error e =>
            rw [hbody] at h
            obtain rfl | rfl := decodeBody_error codec hbody <;> exact absurd h id
        | ok value =>
            rw [hbody] at h
            rcases parseIncoming_cases value with
              ⟨items, m, rfl, hwf, hm⟩ | ⟨items, rfl, htype, hwf, -⟩ | ⟨-, e, he⟩
            · simp only [Channel.CleanEnd, hm] at h
              have hlt : tail.length < n := by
                rw [← hn, hrest, List.length_append]
                have := p.length_pos
                omega
              exact .packet hbody hwf (ih _ hlt h rfl)
            · exact .exits hbody htype hwf
            · simp [Channel.CleanEnd, he] at h

theorem cleanEnd_of_endsCleanly {bs : Bytes} (h : EndsCleanly codec bs) {src : Source}
    (hrest : src.rest = bs) : Channel.CleanEnd (incomingOf codec src) := by
  induction h generalizing src with
  | noBlock hhs hnone =>
      rw [incomingOf, incoming]
      obtain ⟨text, src', h⟩ | h := readJson_noBlock codec hhs hrest hnone <;> rw [h] <;> trivial
  | truncated hhs hlen hshort =>
      obtain ⟨text, src', h⟩ := readJson_truncated codec hhs hrest hlen hshort
      rw [incomingOf, incoming, h]
      trivial
  | @exits p tail items hbody htype hwf =>
      obtain ⟨calls, hin⟩ := incomingOf_packet codec hrest
      rw [hin, hbody]
      rcases parseIncoming_cases (.dict items) with
        ⟨items', m, heq, hwf', -⟩ | ⟨-, -, -, -, hfatal⟩ | ⟨hno, -⟩
      · obtain rfl := Json.dict.inj heq
        exact absurd hwf' hwf
      · simp only [Channel.CleanEnd, hfatal]
      · exact absurd htype (hno items rfl)
  | @packet p tail items hbody hwf _ ih =>
      obtain ⟨calls, hin⟩ := incomingOf_packet codec hrest
      obtain ⟨m, hm⟩ := Channel.parseIncoming_of_wellFormed hwf
      rw [hin, hbody]
      simp only [Channel.CleanEnd, hm]
      exact ih rfl

/-- **The loop cleans up exactly on the streams that end cleanly**: for every stream of
bytes, whatever its reader does, the parser thread leaves its loop cleaned up in all runs
if and only if the stream `EndsCleanly`. -/
theorem cleanedUp_iff (src : Source) :
    (∀ s a s', (channel (incomingOf codec src)).Reachable s → Channel.LeavesLoop s a s' →
      Channel.CleanedUp s s') ↔ EndsCleanly codec src.rest := by
  rw [Channel.cleanedUp_iff_cleanEnd]
  exact ⟨endsCleanly_of_cleanEnd codec, fun h => cleanEnd_of_endsCleanly codec h rfl⟩

/-- **A blank line leaves a request without a response**: there is no `Content-Length`, and
the parser thread ends while the request is outstanding and the channel open. -/
theorem not_cleanedUp :
    ¬ ∀ (codec : Codec) (src : Source) (s : Channel) (a : Channel.Action) (s' : Channel),
      (channel (incomingOf codec src)).Reachable s → Channel.LeavesLoop s a s' →
        Channel.CleanedUp s s' := by
  intro h
  set src : Source := ⟨crlf, fun _ => 1, 0, .eof⟩ with hsrc
  have hin : incomingOf literals src = [.error .contentLength] := by
    have hread := @readJson_noLength literals src [] [] (by simp [HeaderLines]) rfl rfl
    rw [incomingOf, incoming, hread]
  have hrun : ∃ s s', (channel (incomingOf literals src)).run (.init (incomingOf literals src))
      [.draw (.request "pause" (.dict [])), .send 0 true, .parser] = some s ∧
      Channel.LeavesLoop s .parser s' ∧ s'.table.sentRequests = [(1, 0)] := by
    rw [hin]
    exact ⟨_, _, rfl, ⟨rfl, rfl, rfl⟩, rfl⟩
  obtain ⟨s, s', hs, hleaves, hsent⟩ := hrun
  have hclean := h literals src s .parser s'
    (Machine.reachable_iff_run.mpr ⟨_, _, rfl, hs⟩) hleaves
  simpa [hsent] using hclean.sentRequests

/-! ### Messages that violate the protocol -/

namespace Channel

variable {incoming : List (Except ReadError Json)} {s s' : Channel}

/-- The message violates the protocol: one of the properties that its type requires is
missing or ill typed, or it is a response that matches no request sent. -/
def Violates (s : Channel) (d : MessageDict) : Prop :=
  ¬ d.WellFormed ∨
    (d.get "type" = some (.str "response") ∧
      s.table.lookup (d.get "request_seq").toInt = none)

/-- The parser thread, going on alone, reports the message that it is about to read, drops
it, and gets to the top of its loop again: no handler of an event or a request is enqueued
for it, and no request is removed or answered. -/
def Drops (incoming : List (Except ReadError Json)) (s : Channel) : Prop :=
  ∃ n s', (channel incoming).run s (List.replicate n .parser) = some s' ∧
    s'.exited = false ∧ s'.parser = .looping ∧
    s'.failures.length = s.failures.length + 1 ∧
    s'.table.sentRequests = s.table.sentRequests ∧ s'.table.requests = s.table.requests ∧
    ∃ items, s'.queue.enqueued = s.queue.enqueued ++ items ∧
      ∀ item ∈ items, item.isEventOrRequest = false

/-- No steps of a parser thread that has ended, or of a process that has exited, lead to the
top of the loop. -/
theorem not_looping_of_stuck {n : ℕ}
    (hstuck : s.exited = true ∨ s.parser.isEnded = true)
    (hrun : (channel incoming).run s (List.replicate n .parser) = some s')
    (hexited : s'.exited = false) : s'.parser ≠ .looping := by
  cases n with
  | zero =>
      obtain rfl : s = s' := Option.some.inj hrun
      intro hp
      simp [hexited, hp, ParserState.isEnded] at hstuck
  | succ n =>
      exfalso
      have hnone : s.step .parser = none := by
        cases he : s.exited with
        | true => simp [step, he]
        | false =>
            cases hp : s.parser <;> simp [he, hp, ParserState.isEnded] at hstuck
            simp [step, he, parserStep, hp]
      simp [List.replicate_succ, channel, hnone] at hrun

/-- **A malformed message is not dropped**: it ends the parser thread if its type is
invalid, and the process otherwise. -/
theorem receive_malformed {items : List (String × Json)}
    (h : ¬ MessageDict.WellFormed ⟨items, none⟩) (s : Channel) :
    (MessageDict.HasType ⟨items, none⟩ ∧ (receive (.ok (.dict items)) s).exited = true) ∨
      (¬ MessageDict.HasType ⟨items, none⟩ ∧
        (receive (.ok (.dict items)) s).parser.isEnded = true) := by
  rcases parseIncoming_cases (.dict items) with
    ⟨items', m, heq, hwf, -⟩ | ⟨items', heq, htype, -, hfatal⟩ | ⟨hno, e, he⟩
  · obtain rfl := Json.dict.inj heq
    exact absurd hwf h
  · obtain rfl := Json.dict.inj heq
    refine Or.inl ⟨htype, ?_⟩
    simp only [receive, hfatal]
  · refine Or.inr ⟨hno items rfl, ?_⟩
    simp only [receive, he]
    rfl

/-- A well-formed response is handed on as a response. -/
theorem parseIncoming_response {items : List (String × Json)}
    (hwf : MessageDict.WellFormed ⟨items, none⟩)
    (hget : MessageDict.get ⟨items, none⟩ "type" = some (.str "response")) :
    parseIncoming (.dict items) = .message (.response (MessageDict.toResponse ⟨items, none⟩)) := by
  obtain ⟨type, hmem, htype, hwf'⟩ := hwf
  obtain rfl : "response" = type := by simpa [hget] using htype
  have henum : enum messageTypes false (some (.str "response")) = .ok (some (.str "response")) :=
    enum_eq_ok_iff.mpr ⟨_, hmem, rfl, rfl⟩
  simp only [parseIncoming, MessageDict.call, hget, henum, Property.toText,
    parse_of_wellFormed hwf']
  rfl

/-- Removing a request that is not there. -/
theorem remove_of_lookup_eq_none {requestSeq : ℤ} {tbl : RequestTable}
    (h : tbl.lookup requestSeq = none) : tbl.remove requestSeq = tbl := by
  rw [RequestTable.lookup, Option.map_eq_none_iff, List.find?_eq_none] at h
  rw [RequestTable.remove, List.filter_eq_self.mpr]
  intro p hp
  simpa using h p hp

/-- A malformed message is not dropped. -/
theorem wellFormed_of_drops {items : List (String × Json)} {rest : List (Except ReadError Json)}
    (hexited : s.exited = false) (hp : s.parser = .reading)
    (hi : s.incoming = .ok (.dict items) :: rest) (h : Drops incoming s) :
    MessageDict.WellFormed ⟨items, none⟩ := by
  obtain ⟨n, s', hrun, hexited', hlooping, -⟩ := h
  by_contra hwf
  cases n with
  | zero =>
      obtain rfl : s = s' := Option.some.inj hrun
      simp [hp] at hlooping
  | succ n =>
      have hreceive : (channel incoming).step s .parser =
          some (receive (.ok (.dict items)) { s with incoming := rest }) := by
        simp [channel, step, hexited, parserStep, hp, hi]
      rw [List.replicate_succ, Machine.run_cons, hreceive, Option.bind_some] at hrun
      refine not_looping_of_stuck ?_ hrun hexited' hlooping
      rcases receive_malformed hwf { s with incoming := rest } with ⟨-, h⟩ | ⟨-, h⟩
      · exact Or.inl h
      · exact Or.inr h

/-- **A message that violates the protocol is reported and dropped if and only if all its
properties are there and well typed**, so that the only violation is a `request_seq` that
matches no request sent. -/
theorem drops_iff {items : List (String × Json)} {rest : List (Except ReadError Json)}
    (hexited : s.exited = false) (hp : s.parser = .reading)
    (hi : s.incoming = .ok (.dict items) :: rest) (hviolates : Violates s ⟨items, none⟩) :
    Drops incoming s ↔ MessageDict.WellFormed ⟨items, none⟩ := by
  have hreceive : s.step .parser =
      some (receive (.ok (.dict items)) { s with incoming := rest }) := by
    simp [step, hexited, parserStep, hp, hi]
  constructor
  · exact wellFormed_of_drops hexited hp hi
  · intro hwf
    obtain ⟨hget, hlookup⟩ := hviolates.resolve_left (not_not.mpr hwf)
    set response := MessageDict.toResponse ⟨items, none⟩ with hresponse
    have hlookup' : s.table.lookup response.requestSeq = none := hlookup
    -- the three steps: the response is read, looked up in vain, and reported
    let s₁ : Channel := { s with incoming := rest, parser := .parsed (.response response) }
    let s₂ : Channel := { s₁ with
      table := { s.table with received := s.table.received ++ [response] }
      parser := .answering none response }
    let s₃ : Channel := { s₂.enqueue [.ofResponse response none []] with
      parser := .looping
      failures := s.failures ++ unknownRequest none response }
    have h₁ : s.step .parser = some s₁ := by
      rw [hreceive, receive, parseIncoming_response hwf hget]
    have h₂ : s₁.step .parser = some s₂ := by
      simp only [step, s₁, hexited, parserStep, pop, remove_of_lookup_eq_none hlookup', hlookup',
        s₂]
      rfl
    have h₃ : s₂.step .parser = some s₃ := by
      simp only [step, s₂, s₁, hexited, parserStep, answer, s₃]
      rfl
    have hrun : (channel incoming).run s (List.replicate 3 .parser) = some s₃ := by
      simp only [List.replicate_succ, List.replicate_zero, Machine.run_cons, channel, h₁, h₂, h₃,
        Option.bind_some, Machine.run_nil]
    refine ⟨3, s₃, hrun, hexited, rfl, by simp [s₃, unknownRequest], rfl, rfl, _,
      HandlerQueue.enqueue_enqueued _ _, ?_⟩
    simp

/-- A response to a request that was never sent. -/
def strayResponse : List (String × Json) :=
  [("seq", .int 1), ("type", .str "response"), ("request_seq", .int 7),
    ("command", .str "pause"), ("success", .bool true)]

theorem drops_iff_strayResponse :
    ∃ s, s.exited = false ∧ s.parser = .reading ∧ s.incoming = [.ok (.dict strayResponse)] ∧
      Violates s ⟨strayResponse, none⟩ ∧
      (Drops [.ok (.dict strayResponse)] s ↔ MessageDict.WellFormed ⟨strayResponse, none⟩) := by
  set s : Channel :=
    { init [.ok (.dict strayResponse)] with parser := .reading } with hs
  have hviolates : Violates s ⟨strayResponse, none⟩ := Or.inr ⟨rfl, rfl⟩
  exact ⟨s, rfl, rfl, rfl, hviolates, drops_iff rfl rfl rfl hviolates⟩

/-- **An event without a name ends the process**: it has a valid type, so that the parser of
events gets to see it. -/
theorem not_drops :
    ¬ ∀ (incoming : List (Except ReadError Json)) (s : Channel) (items : List (String × Json))
      (rest : List (Except ReadError Json)), (channel incoming).Reachable s →
        s.exited = false → s.parser = .reading → s.incoming = .ok (.dict items) :: rest →
          Violates s ⟨items, none⟩ → Drops incoming s := by
  intro h
  have hmalformed :
      ¬ MessageDict.WellFormed ⟨[("seq", .int 1), ("type", .str "event")], none⟩ := by
    rintro ⟨type, -, htype, hwf⟩
    have hevent : (some (.str "event") : Option Json) = some (.str type) := htype
    obtain rfl : "event" = type := Json.str.inj (Option.some.inj hevent)
    exact absurd hwf.2 (by decide)
  set incoming : List (Except ReadError Json) :=
    [.ok (.dict [("seq", .int 1), ("type", .str "event")])] with hincoming
  set s : Channel := { init incoming with parser := .reading } with hs
  have hreach : (channel incoming).Reachable s :=
    Machine.reachable_iff_run.mpr ⟨_, [.parser], rfl, rfl⟩
  exact hmalformed (wellFormed_of_drops rfl rfl rfl
    (h incoming s _ [] hreach rfl rfl rfl (Or.inl hmalformed)))

end Channel

end Ptvsd
