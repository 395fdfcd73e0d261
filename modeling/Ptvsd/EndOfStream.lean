import Ptvsd.Packet

/-!
# Reading up to the End of the Stream

Whether `read_json` returns at all, for every stream of bytes and every reader. The loops
over the header lines and over the body each consume something in every round; the loop of
`_read_line` does not, once the stream has ended, and it gives up only if it has read nothing
at all.

## Main results

* `readJson_terminates_iff`: `read_json` returns or raises, after finitely many calls of the
  reader, and raises `NoMoreMessages` on a stream that ends before a complete packet; unless
  the stream ends inside a header line, in the sense of the reader returning nothing but empty
  bytes from then on.
-/

open ByteStream

namespace Ptvsd

/-- The stream begins with a block of headers, and with as much of a body as they announce. -/
def BeginsWithPacket (bs : Bytes) : Prop :=
  ∃ hs tail, HeaderLines hs ∧ bs = headerBlock hs ++ tail ∧
    ∀ length, (Headers.ofLines hs).contentLength = some length → length ≤ tail.length

/-- The stream ends inside a header line: behind complete lines there is something that no
`\r\n` ends. -/
def EndsInLine (bs : Bytes) : Prop :=
  ∃ hs tail, HeaderLines hs ∧ bs = joinLines hs ++ tail ∧ splitLine tail = none ∧ tail ≠ []

/-- `read_json` returns or raises, and raises `NoMoreMessages` if there is no complete packet. -/
def Terminates (codec : Codec) (src : Source) : Prop :=
  ∃ fuel outcome src', readJsonFuel codec fuel src = some (outcome, src') ∧
    (¬ BeginsWithPacket src.rest → ∃ text, outcome = .error (.noMoreMessages text))

variable {codec : Codec} {src : Source} {headers : Headers} {hs : List Bytes} {tail : Bytes}

/-- **When `read_json` terminates**: if and only if the stream does not end inside a header
line, or the reader does not go on returning empty bytes then. -/
theorem readJson_terminates_iff (codec : Codec) (src : Source) :
    Terminates codec src ↔ ¬ (src.ending = .eof ∧ EndsInLine src.rest) := by
  constructor
  · rintro ⟨fuel, outcome, src', hread, -⟩ ⟨hend, hs, tail, hhs, hrest, hnone, hne⟩
    rw [readJsonFuel_inLine codec hhs hrest hnone hend hne] at hread
    cases hread
  · intro hline
    rcases stream_cases src.rest with
      ⟨hs, tail, hhs, hrest, hnone⟩ | ⟨hs, tail, hhs, hrest, hlen⟩ |
      ⟨hs, tail, length, hhs, hrest, hlen, hshort⟩ | ⟨p, tail, hrest⟩
    · -- the stream ends before the blank line
      have htail : src.ending = .eof → tail = [] := by
        intro hend
        by_contra hne
        exact hline ⟨hend, hs, tail, hhs, hrest, hnone, hne⟩
      obtain ⟨text, src', hread⟩ := readJson_ended codec hhs hrest hnone htail
      exact ⟨_, _, src', hread, fun _ => ⟨text, rfl⟩⟩
    · -- the headers announce no length
      refine ⟨_, _, _, readJson_noLength codec hhs hrest hlen, fun hno => ?_⟩
      exact absurd ⟨hs, tail, hhs, hrest, fun length h => by simp [hlen] at h⟩ hno
    · -- the stream ends inside the body
      obtain ⟨text, src', hread⟩ := readJson_truncated codec hhs hrest hlen hshort
      exact ⟨_, _, src', hread, fun _ => ⟨text, rfl⟩⟩
    · -- there is a packet
      obtain ⟨calls, hread⟩ := readJson_packet codec hrest
      have hpacket : BeginsWithPacket src.rest := by
        refine ⟨p.lines, p.body ++ tail, p.headerLines, ?_, fun length h => ?_⟩
        · rw [hrest, Packet.bytes, List.append_assoc]
        · obtain rfl := Option.some.inj (p.contentLength.symm.trans h)
          simp
      exact ⟨_, _, _, hread, fun hno => absurd hpacket hno⟩

/-- **A connection that is dropped inside a header line**: the only byte of the stream is the
first one of `Content-Length`, and `read_json` never returns. -/
theorem readJson_not_terminates :
    ¬ ∀ (codec : Codec) (src : Source), src.ending = .eof → Terminates codec src := by
  intro h
  have hterminates := h ⟨fun _ => none, fun _ => none⟩ ⟨[67], fun _ => 1, 0, .eof⟩ rfl
  refine (readJson_terminates_iff _ _).mp hterminates ⟨rfl, [], [67], ?_, rfl, rfl, by simp⟩
  intro h hmem
  cases hmem

end Ptvsd
