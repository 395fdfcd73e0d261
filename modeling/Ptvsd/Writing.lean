import Ptvsd.Machine
import Ptvsd.Packet

/-!
# What Is Left on the Wire

`write_json` from the point of view of the other end. It may fail after the writer has
accepted some of the bytes of a packet, and it formats whatever length the body has. A stream
is a machine whose actions are the calls of `write_json` and of `close`; what each call has
left on the wire is recorded along with it, and no step depends on that.

## Main results

* `framed_iff`: the bytes that the writer has accepted are complete packets and at most one
  truncated packet at the end, if and only if no call got bytes accepted behind a truncated
  packet; the stream stays open for such calls.
* `emits_iff`: for one value, the other end takes what is written as one packet, if and only if
  the body is not larger than `MAX_BODY_SIZE`; the writer does not check that.
-/

open ByteStream

namespace Ptvsd

variable {codec : Codec} {value : Json} {out : Sink}

/-! ### One call -/

/-- A packet around a body. -/
def frame (body : Bytes) : Bytes := header body.length ++ body

/-- The packet that `write_json` makes of a value, or nothing if it cannot be serialized. -/
def packetOf (codec : Codec) (value : Json) : Bytes :=
  match codec.encode value with
  | some text => frame (encodeUtf8 text)
  | none => []

theorem packetOf_ne_nil {text : String} (h : codec.encode value = some text) :
    packetOf codec value ≠ [] := by
  simp [packetOf, h, frame, header, contentLengthKey]

/-- **What the loop of `write_json` leaves on the wire**, whether the writer raises or not: a
prefix of the data, which is empty only if the first write raises. -/
theorem writeData_leaves {fuel : ℕ} {data : Bytes} (hfuel : data.length ≤ fuel) :
    ∃ p, (writeData fuel data out).2.accepted = out.accepted ++ p ∧ p <+: data ∧
      (data ≠ [] → (p = [] ↔ ∃ text, out.pattern out.calls = .fails text)) := by
  induction fuel generalizing data out with
  | zero =>
      obtain rfl : data = [] := List.length_eq_zero_iff.mp (by omega)
      exact ⟨[], by simp [writeData], List.prefix_refl [], fun h => absurd rfl h⟩
  | succ fuel ih =>
      by_cases hdata : data = []
      · subst hdata
        exact ⟨[], by simp [writeData], List.prefix_refl [], fun h => absurd rfl h⟩
      · simp only [writeData, if_neg hdata, Sink.write]
        cases hpattern : out.pattern out.calls with
        | fails text => exact ⟨[], by simp, List.nil_prefix, fun _ => by simp⟩
        | full => exact ⟨data, rfl, List.prefix_refl data, fun _ => by simp [hdata]⟩
        | part count =>
            -- at least one byte is accepted, and the loop goes on behind it
            have hpos := List.length_pos_iff.mpr hdata
            have hk : 0 < min data.length (max 1 count) := by omega
            obtain ⟨p, haccepted, hinitial, -⟩ := @ih
              { out with
                accepted := out.accepted ++ data.take (min data.length (max 1 count))
                calls := out.calls + 1 } (data.drop (min data.length (max 1 count)))
              (by rw [List.length_drop]; omega)
            refine ⟨data.take (min data.length (max 1 count)) ++ p, ?_, ?_, fun _ => ?_⟩
            · rw [← List.append_assoc]
              exact haccepted
            · obtain ⟨t, ht⟩ := hinitial
              exact ⟨t, by rw [List.append_assoc, ht, List.take_append_drop]⟩
            · have hne : data.take (min data.length (max 1 count)) ≠ [] := by
                intro hnil
                have hlen := congrArg List.length hnil
                simp only [List.length_take, List.length_nil] at hlen
                omega
              simp [hne]

/-- **What a call of `write_json` leaves on the wire**: a prefix of its packet, which is empty
only if the stream is closed, the value cannot be serialized, or the first write raises. -/
theorem writeJson_leaves (codec : Codec) (closed : Bool) (value : Json) (out : Sink) :
    ∃ p, (writeJson codec closed value out).2.accepted = out.accepted ++ p ∧
      p <+: packetOf codec value ∧
      (p = [] ↔ closed = true ∨ codec.encode value = none ∨
        ∃ text, out.pattern out.calls = .fails text) := by
  cases closed with
  | true => exact ⟨[], by simp [writeJson], List.nil_prefix, by simp⟩
  | false =>
      cases hencode : codec.encode value with
      | none => exact ⟨[], by simp [writeJson, hencode], List.nil_prefix, by simp⟩
      | some text =>
          have hne : packetOf codec value ≠ [] := packetOf_ne_nil hencode
          obtain ⟨p, haccepted, hinitial, hempty⟩ :=
            @writeData_leaves out _ (packetOf codec value) le_rfl
          have hresult : (writeJson codec false value out).2 =
              (writeData (packetOf codec value).length (packetOf codec value) out).2 := by
            simp only [writeJson, Bool.false_eq_true, if_false, hencode, packetOf, frame]
            split
            case h_1 heq => rw [heq]
            case h_2 heq =>
              rw [heq]
              split <;> rfl
          refine ⟨p, by rw [hresult, haccepted], hinitial, ?_⟩
          simpa using hempty hne

/-! ### Runs of calls -/

/-- What one call of `write_json` has left on the wire. -/
structure Segment where
  /-- The packet that it was to write. -/
  packet : Bytes
  /-- What the writer has accepted of it. -/
  written : Bytes

/-- The call has failed with a part of its packet written. -/
def Segment.Truncated (segment : Segment) : Prop :=
  segment.written ≠ [] ∧ segment.written ≠ segment.packet

/-- The writing side of a `JsonIOStream`. -/
structure OutgoingStream where
  /-- `_closed`. -/
  closed : Bool
  out : Sink
  /-- What the calls so far have left on the wire. -/
  segments : List Segment

namespace OutgoingStream

/-- What is done with a stream. -/
inductive Action where
  /-- `write_json(value)`, whatever it raises. -/
  | write (value : Json)
  /-- `close()`. -/
  | close

/-- `write_json(value)`. -/
def write (codec : Codec) (value : Json) (s : OutgoingStream) : OutgoingStream :=
  let out := (writeJson codec s.closed value s.out).2
  { s with
    out := out
    segments := s.segments ++
      [⟨packetOf codec value, out.accepted.drop s.out.accepted.length⟩] }

/-- The step under an action. -/
def step (codec : Codec) (s : OutgoingStream) : Action → Option OutgoingStream
  | .write value => some (s.write codec value)
  | .close => some { s with closed := true }

end OutgoingStream

/-- The writing side of a stream. -/
def outgoing (codec : Codec) : Machine OutgoingStream OutgoingStream.Action where
  start s := s.closed = false ∧ s.out.accepted = [] ∧ s.segments = []
  step := OutgoingStream.step codec

namespace OutgoingStream

variable {s s' : OutgoingStream} {a : Action}

/-- Nothing is written behind a truncated packet. -/
def Whole (s : OutgoingStream) : Prop :=
  s.segments.Pairwise fun segment later => segment.Truncated → later.written = []

/-- **The framing of the stream**: the bytes that the writer has accepted are complete packets,
of the values that were written, and at most one truncated packet at the very end; no call
has got bytes accepted behind that. -/
def Framed (s : OutgoingStream) : Prop :=
  s.Whole ∧ ∃ (packets : List Bytes) (fragment : Bytes),
    s.out.accepted = packets.flatten ++ fragment ∧
    (∀ packet ∈ packets, ∃ segment ∈ s.segments, packet = segment.packet) ∧
    (fragment = [] ∨ ∃ segment ∈ s.segments, fragment <+: segment.packet)

/-- The condition on the calls under which the stream stays framed: on an open stream that
ends in a truncated packet, no call gets its first byte accepted. -/
def WritesWhole (codec : Codec) (s : OutgoingStream) : Action → Prop
  | .write value => (∃ segment ∈ s.segments, segment.Truncated) →
      s.closed = true ∨ codec.encode value = none ∨ ∃ text, s.out.pattern s.out.calls = .fails text
  | .close => True

/-- What the record says of the wire. -/
structure Recorded (s : OutgoingStream) : Prop where
  accepted : s.out.accepted = s.segments.flatMap Segment.written
  isPrefix : ∀ segment ∈ s.segments, segment.written <+: segment.packet

/-- What a call adds to the record. -/
theorem write_segments (codec : Codec) (value : Json) (s : OutgoingStream) :
    ∃ segment : Segment, (s.write codec value).segments = s.segments ++ [segment] ∧
      (s.write codec value).out.accepted = s.out.accepted ++ segment.written ∧
      segment.written <+: segment.packet ∧
      (segment.written = [] ↔ s.closed = true ∨ codec.encode value = none ∨
        ∃ text, s.out.pattern s.out.calls = .fails text) := by
  obtain ⟨p, haccepted, hinitial, hempty⟩ := writeJson_leaves codec s.closed value s.out
  have hwritten : (writeJson codec s.closed value s.out).2.accepted.drop
      s.out.accepted.length = p := by
    rw [haccepted, List.drop_left]
  refine ⟨_, rfl, ?_, ?_, ?_⟩
  · rw [hwritten]
    exact haccepted
  · rwa [hwritten]
  · rwa [hwritten]

theorem step_recorded (h : s.Recorded) (hstep : s.step codec a = some s') : s'.Recorded := by
  cases a with
  | write value =>
      obtain rfl := Option.some.inj hstep
      obtain ⟨segment, hsegments, haccepted, hinitial, -⟩ := write_segments codec value s
      constructor
      · rw [hsegments, haccepted, h.accepted]
        simp
      · rw [hsegments]
        intro segment' hmem
        rcases List.mem_append.mp hmem with hmem | hmem
        · exact h.isPrefix segment' hmem
        · obtain rfl := List.mem_singleton.mp hmem
          exact hinitial
  | close =>
      obtain rfl := Option.some.inj hstep
      exact ⟨h.accepted, h.isPrefix⟩

/-- **One step keeps the stream whole** if and only if it meets the condition. -/
theorem step_whole (hstep : s.step codec a = some s') :
    s'.Whole ↔ s.Whole ∧ WritesWhole codec s a := by
  cases a with
  | write value =>
      obtain rfl := Option.some.inj hstep
      obtain ⟨segment, hsegments, -, -, hempty⟩ := write_segments codec value s
      rw [Whole, hsegments, List.pairwise_append]
      constructor
      · rintro ⟨hwhole, -, hlast⟩
        refine ⟨hwhole, ?_⟩
        rintro ⟨segment', hmem, htruncated⟩
        exact hempty.mp (hlast segment' hmem segment List.mem_cons_self htruncated)
      · rintro ⟨hwhole, hC⟩
        refine ⟨hwhole, List.pairwise_singleton _ _, ?_⟩
        intro segment' hmem later hlater htruncated
        obtain rfl := List.mem_singleton.mp hlater
        exact hempty.mpr (hC ⟨segment', hmem, htruncated⟩)
  | close =>
      obtain rfl := Option.some.inj hstep
      exact (and_iff_left trivial).symm

/-- A run keeps the stream whole if and only if all its steps meet the condition. -/
theorem run_whole {as : List Action} (hrun : (outgoing codec).run s as = some s') :
    s'.Whole ↔ s.Whole ∧ (outgoing codec).StepsWithin (WritesWhole codec) s as := by
  induction as generalizing s with
  | nil =>
      obtain rfl := Option.some.inj hrun
      exact (and_iff_left trivial).symm
  | cons a as ih =>
      obtain ⟨s₁, h₁, h₂⟩ := Option.bind_eq_some_iff.mp hrun
      rw [ih h₂, step_whole h₁, and_assoc]
      refine and_congr_right fun _ => and_congr_right fun _ => ?_
      refine ⟨fun h s₂ hs₂ => ?_, fun h => h s₁ h₁⟩
      obtain rfl := Option.some.inj (h₁.symm.trans hs₂)
      exact h

/-- **What is whole is framed**: behind the first truncated packet there is nothing. -/
theorem flatMap_of_whole {segments : List Segment}
    (hwhole : segments.Pairwise fun segment later => segment.Truncated → later.written = [])
    (hinitial : ∀ segment ∈ segments, segment.written <+: segment.packet) :
    ∃ (packets : List Bytes) (fragment : Bytes),
      segments.flatMap Segment.written = packets.flatten ++ fragment ∧
      (∀ packet ∈ packets, ∃ segment ∈ segments, packet = segment.packet) ∧
      (fragment = [] ∨ ∃ segment ∈ segments, fragment <+: segment.packet) := by
  induction segments with
  | nil => exact ⟨[], [], rfl, by simp, .inl rfl⟩
  | cons segment segments ih =>
      obtain ⟨hlater, hwhole'⟩ := List.pairwise_cons.mp hwhole
      obtain ⟨hp, hinitial'⟩ := List.forall_mem_cons.mp hinitial
      obtain ⟨packets, fragment, heq, hpackets, hfragment⟩ := ih hwhole' hinitial'
      by_cases htruncated : segment.Truncated
      · -- this is the truncated packet
        have hnil : segments.flatMap Segment.written = [] :=
          List.flatMap_eq_nil_iff.mpr fun later hmem => hlater later hmem htruncated
        refine ⟨[], segment.written, ?_, by simp, .inr ⟨segment, List.mem_cons_self, hp⟩⟩
        simp [hnil]
      · by_cases hempty : segment.written = []
        · refine ⟨packets, fragment, by simp [hempty, heq], fun packet hmem => ?_, ?_⟩
          · obtain ⟨segment', hmem', h⟩ := hpackets packet hmem
            exact ⟨segment', List.mem_cons_of_mem _ hmem', h⟩
          · refine hfragment.imp_right ?_
            rintro ⟨segment', hmem', h⟩
            exact ⟨segment', List.mem_cons_of_mem _ hmem', h⟩
        · have hcomplete : segment.written = segment.packet := by
            by_contra hne
            exact htruncated ⟨hempty, hne⟩
          refine ⟨segment.packet :: packets, fragment, by simp [hcomplete, heq], ?_, ?_⟩
          · intro packet hmem
            rcases List.mem_cons.mp hmem with rfl | hmem
            · exact ⟨segment, List.mem_cons_self, rfl⟩
            · obtain ⟨segment', hmem', h⟩ := hpackets packet hmem
              exact ⟨segment', List.mem_cons_of_mem _ hmem', h⟩
          · refine hfragment.imp_right ?_
            rintro ⟨segment', hmem', h⟩
            exact ⟨segment', List.mem_cons_of_mem _ hmem', h⟩

theorem recorded_of_reachable (h : (outgoing codec).Reachable s) : s.Recorded := by
  have hinv : (outgoing codec).Invariant Recorded := by
    refine ⟨fun {s} hstart => ?_, step_recorded⟩
    obtain ⟨-, haccepted, hsegments⟩ := hstart
    exact ⟨by simp [haccepted, hsegments], by simp [hsegments]⟩
  exact hinv.of_reachable h

/-- **When a stream is framed**, after any sequence of calls and for every writer: if and only
if no call has got bytes accepted on a stream that ends in a truncated packet. -/
theorem framed_iff {s₀ : OutgoingStream} {as : List Action} (hstart : (outgoing codec).start s₀)
    (hrun : (outgoing codec).run s₀ as = some s) :
    s.Framed ↔ (outgoing codec).StepsWithin (WritesWhole codec) s₀ as := by
  have hrecorded : s.Recorded :=
    recorded_of_reachable (Machine.reachable_iff_run.mpr ⟨s₀, as, hstart, hrun⟩)
  have hwhole₀ : s₀.Whole := by
    rw [Whole, hstart.2.2]
    exact List.Pairwise.nil
  have hrun' := run_whole hrun
  constructor
  · rintro ⟨hwhole, -⟩
    exact (hrun'.mp hwhole).2
  · intro hC
    have hwhole : s.Whole := hrun'.mpr ⟨hwhole₀, hC⟩
    refine ⟨hwhole, ?_⟩
    rw [hrecorded.accepted]
    exact flatMap_of_whole hwhole hrecorded.isPrefix

/-- A writer that raises on its third write, of which the second was a short one. -/
def interrupted : Sink where
  accepted := []
  pattern
    | 1 => .part 5
    | 2 => .fails ""
    | _ => .full
  flushFails _ := none
  calls := 0

/-- A packet, a truncated packet, and a call on the closed stream. -/
theorem framed_iff_closed :
    ∃ s, (outgoing literals).run ⟨false, interrupted, []⟩
        [.write .null, .write (.bool true), .close, .write (.bool false)] = some s ∧
      s.Framed := by
  have hC : (outgoing literals).StepsWithin (WritesWhole literals) ⟨false, interrupted, []⟩
      [.write .null, .write (.bool true), .close, .write (.bool false)] := by
    refine .cons ?_ rfl (.cons ?_ rfl (.cons trivial rfl (.cons ?_ rfl trivial)))
    · rintro ⟨segment, hmem, -⟩
      cases hmem
    · rintro ⟨segment, hmem, htruncated⟩
      obtain rfl := List.mem_singleton.mp hmem
      exact absurd rfl htruncated.2
    · exact fun _ => .inl rfl
  have hrun : ∃ s, (outgoing literals).run ⟨false, interrupted, []⟩
      [.write .null, .write (.bool true), .close, .write (.bool false)] = some s := ⟨_, rfl⟩
  obtain ⟨s, hs⟩ := hrun
  exact ⟨s, hs, (framed_iff ⟨rfl, rfl, rfl⟩ hs).mpr hC⟩

/-- **A packet behind a fragment**: the second write raises after five bytes of the first
packet; the next call succeeds. -/
theorem not_framed : ¬ ∀ (codec : Codec) (s₀ : OutgoingStream) (as : List Action)
    (s : OutgoingStream), (outgoing codec).start s₀ → (outgoing codec).run s₀ as = some s →
      s.Framed := by
  intro h
  have hrun : ∃ s, (outgoing literals).run ⟨false, { interrupted with calls := 1 }, []⟩
      [.write .null, .write (.bool true)] = some s := ⟨_, rfl⟩
  obtain ⟨s, hs⟩ := hrun
  have hframed := h _ _ _ _ ⟨rfl, rfl, rfl⟩ hs
  have hC := (framed_iff ⟨rfl, rfl, rfl⟩ hs).mp hframed
  have htruncated : ∃ segment ∈ (OutgoingStream.write literals .null
      ⟨false, { interrupted with calls := 1 }, []⟩).segments, segment.Truncated :=
    ⟨_, List.mem_singleton.mpr rfl, by decide, by decide⟩
  rcases (hC.2 _ rfl).1 htruncated with hclosed | hencode | ⟨text, hfails⟩
  · cases hclosed
  · cases hencode
  · cases hfails

end OutgoingStream

/-! ### The other end -/

/-- The other end takes these bytes as one packet with this body, whatever follows them: it
goes on to decode the body, and leaves what follows. -/
def TakenAs (data body : Bytes) : Prop :=
  ∀ (codec : Codec) (src : Source) (tail : Bytes), src.rest = data ++ tail →
    ∃ src', readJson codec src = some (decodeBody codec body, src') ∧ src'.rest = tail

/-- For every writer that does not raise, `write_json` raises without writing anything, or
writes a packet that the other end takes. -/
def Emits (codec : Codec) (value : Json) : Prop :=
  ∀ (closed : Bool) (out : Sink), out.Reliable →
    (∃ e, writeJson codec closed value out = (.error e, out)) ∨
      ∃ text data out', codec.encode value = some text ∧
        writeJson codec closed value out = (.ok (), out') ∧
        out'.accepted = out.accepted ++ data ∧ TakenAs data (encodeUtf8 text)

/-- The other end takes a packet if the length of its body is within bounds. -/
theorem takenAs_frame {body : Bytes} (h : body.length ≤ maxBodySize) :
    TakenAs (frame body) body := by
  intro codec src tail hrest
  obtain ⟨calls, hread⟩ := @readJson_packet codec src (Packet.ofBody body h) tail
    (by rw [Packet.bytes_ofBody h]; exact hrest)
  exact ⟨_, hread, rfl⟩

/-- **The other end rejects a packet** if the length of its body is out of bounds. -/
theorem not_takenAs_frame {body : Bytes} (h : maxBodySize < body.length) :
    ¬ TakenAs (frame body) body := by
  intro htaken
  have hrest : frame body = headerBlock [lengthLine body.length] ++ body := by
    rw [frame, header_eq]
  have hlength : (Headers.ofLines [lengthLine body.length]).contentLength = none := by
    rw [contentLength_lengthLine, if_neg (by omega)]
  obtain ⟨src', hread, -⟩ := htaken ⟨fun _ => none, fun _ => none⟩
    ⟨frame body, fun _ => 1, 0, .eof⟩ [] (by simp)
  rw [readJson_noLength _ (headerLines_lengthLine _) hrest hlength] at hread
  have houtcome := (Prod.mk.inj (Option.some.inj hread)).1
  simp only [decodeBody] at houtcome
  split at houtcome <;> cases houtcome

/-- **When the other end takes what is written**: if and only if the value cannot be
serialized, or is not larger than a body may be. -/
theorem emits_iff (codec : Codec) (value : Json) :
    Emits codec value ↔
      ∀ text, codec.encode value = some text → (encodeUtf8 text).length ≤ maxBodySize := by
  constructor
  · intro hemits text hencode
    by_contra hlong
    have hout : (⟨[], fun _ => .full, fun _ => none, 0⟩ : Sink).Reliable := by
      refine ⟨fun _ _ h => ?_, fun _ => rfl⟩
      cases h
    obtain ⟨calls, hwrite⟩ := writeJson_eq codec hout hencode
    rcases hemits false _ hout with
      ⟨e, herror⟩ | ⟨text', data, out', hencode', hok, haccepted, htaken⟩
    · rw [hwrite] at herror
      cases (Prod.mk.inj herror).1
    · obtain rfl := Option.some.inj (hencode.symm.trans hencode')
      rw [hwrite] at hok
      obtain rfl := (Prod.mk.inj hok).2
      have hdata : frame (encodeUtf8 text) = data := haccepted
      subst hdata
      exact not_takenAs_frame (not_le.mp hlong) htaken
  · intro hfits closed out hout
    cases closed with
    | true => exact .inl ⟨_, rfl⟩
    | false =>
        cases hencode : codec.encode value with
        | none => exact .inl ⟨.jsonEncode, by simp [writeJson, hencode]⟩
        | some text =>
            obtain ⟨calls, hwrite⟩ := writeJson_eq codec hout hencode
            exact .inr ⟨text, _, _, rfl, hwrite, rfl, takenAs_frame (hfits text hencode)⟩

/-- Python's JSON encoder on strings of letters. -/
def letters : Codec where
  encode
    | .str s => some ("\"" ++ s ++ "\"")
    | _ => none
  decode _ := none

theorem length_encodeUtf8 (text : String) : (encodeUtf8 text).length = text.utf8ByteSize := by
  rw [encodeUtf8, Array.length_toList]
  rfl

theorem utf8ByteSize_replicate (n : ℕ) :
    (String.ofList (List.replicate n 'a')).utf8ByteSize = n := by
  induction n with
  | zero => rfl
  | succ n ih =>
      have hone : (String.ofList ['a']).utf8ByteSize = 1 := by decide
      rw [List.replicate_succ', String.ofList_append, String.utf8ByteSize_append, ih, hone]

/-- **A string of sixteen million letters** is written, and rejected by the other end. -/
theorem not_emits : ¬ ∀ codec value, Emits codec value := by
  intro h
  have hfits := (emits_iff _ _).mp (h letters (.str (String.ofList (List.replicate 0x1000000 'a'))))
    _ rfl
  rw [length_encodeUtf8, String.utf8ByteSize_append, String.utf8ByteSize_append,
    utf8ByteSize_replicate, maxBodySize] at hfits
  omega

end Ptvsd
