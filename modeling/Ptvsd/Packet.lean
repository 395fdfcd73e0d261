import Ptvsd.JsonStream

/-!
# Packets on the Wire

What `read_json` does, in terms of the bytes of the stream. A *packet* is a block of
header lines, a blank line, and a body; `readJson` on a stream that begins with a packet
whose headers announce the length of its body consumes exactly that packet, whatever
pieces the reader hands it out in, and yields what the body decodes to
(`readJson_packet`). On every other stream it raises `NoMoreMessages`, complains about the
headers, or does not return.

The loops are treated one after another: `readLine` against `splitLine`, `readHeaders`
against blocks of header lines, `readBody` against the number of bytes left.

## Main results

* `readHeaders_cases`: every stream begins with a block of headers, or reading them ends
  with `NoMoreMessages`, or it never ends.
* `readJson_packet`, `readJsonTimes_packets`: packets are consumed exactly, in order.
* `readJson_truncated`: a body that is cut short raises `NoMoreMessages`.
* `readJson_roundtrip`: **what `write_json` writes, `read_json` reads**, for every pattern
  of short writes and short reads, and also behind a packet that does not decode.
-/

open ByteStream

namespace Ptvsd

/-! ### Lines -/

/-- The line read so far ends with a newline, so that no `\r\n` can straddle its end. -/
def LineBreak (line : Bytes) : Prop := line = [] ∨ ∃ p, line = p ++ [10]

/-- Only the last piece decides whether the line is complete. -/
theorem crlf_suffix_append {line piece : Bytes} (hline : LineBreak line)
    (hpiece : piece ≠ []) : crlf <:+ line ++ piece ↔ crlf <:+ piece := by
  constructor
  · intro h
    by_cases hlen : crlf.length ≤ piece.length
    · exact List.suffix_of_suffix_length_le h (List.suffix_append line piece) hlen
    · -- the piece is a single byte, so the `\r` would be the last byte of `line`
      have hpos := List.length_pos_iff.mpr hpiece
      have hlen' : piece.length = 1 := by
        simp only [crlf, List.length_cons, List.length_nil] at hlen
        omega
      obtain ⟨b, rfl⟩ := List.length_eq_one_iff.mp hlen'
      exfalso
      obtain ⟨t, ht⟩ := h
      have ht' : t ++ [13] ++ [10] = line ++ [b] := by simpa [crlf] using ht
      obtain ⟨hfront, -⟩ := List.append_inj' ht' rfl
      rcases hline with rfl | ⟨p, rfl⟩
      · simp at hfront
      · obtain ⟨-, h13⟩ := List.append_inj' hfront rfl
        simp at h13
  · intro h
    exact h.trans (List.suffix_append line piece)

/-- **A complete line is read whole**, and nothing behind it. -/
theorem readLine_of_splitLine {fuel : ℕ} {line l rest : Bytes} {src : Source}
    (hline : LineBreak line) (hsplit : splitLine src.rest = some (l, rest))
    (hfuel : src.rest.length < fuel) :
    readLine fuel line src = some (.ok (line ++ l), { src with rest := rest }) := by
  induction fuel generalizing line l src with
  | zero => omega
  | succ fuel ih =>
      cases hp : untilNewline src.rest with
      | none =>
          rw [splitLine_eq_none hp] at hsplit
          exact absurd hsplit (by simp)
      | some p =>
          obtain ⟨piece, rest'⟩ := p
          obtain ⟨q, hpiece, -, hrest⟩ := untilNewline_sound hp
          have hne : piece ≠ [] := by simp [hpiece]
          have hne' : line ++ piece ≠ [] := by simp [hne]
          have hread : src.readline = (.ok piece, { src with rest := rest' }) := by
            simp [Source.readline, hp]
          rw [splitLine_of_untilNewline hp] at hsplit
          by_cases hs : crlf <:+ piece
          · have hlen : 2 ≤ piece.length := by simpa [crlf] using hs.length_le
            rw [if_pos hs] at hsplit
            obtain ⟨rfl, rfl⟩ := Prod.mk.inj (Option.some.inj hsplit)
            have hcut : (line ++ piece).take ((line ++ piece).length - 2) =
                line ++ piece.take (piece.length - 2) := by
              rw [List.length_append, Nat.add_sub_assoc hlen, List.take_length_add_append]
            simp only [readLine, hread, if_neg hne',
              if_pos ((crlf_suffix_append hline hne).mpr hs), hcut]
          · rw [if_neg hs, Option.map_eq_some_iff] at hsplit
            obtain ⟨⟨l', r⟩, hsplit', heq⟩ := hsplit
            obtain ⟨rfl, rfl⟩ := Prod.mk.inj heq
            have hbreak : LineBreak (line ++ piece) :=
              Or.inr ⟨line ++ q, by rw [hpiece, List.append_assoc]⟩
            have hshort : rest'.length < fuel := by
              rw [hrest] at hfuel
              simp only [List.length_append, List.length_cons] at hfuel
              omega
            simp only [readLine, hread, if_neg hne',
              if_neg (mt (crlf_suffix_append hline hne).mp hs)]
            rw [← List.append_assoc]
            exact ih hbreak hsplit' hshort

/-- Without a complete line, a reader that raises ends the call. -/
theorem readLine_raises {fuel : ℕ} {line : Bytes} {src : Source} {text : String}
    (hline : LineBreak line) (hsplit : splitLine src.rest = none)
    (hend : src.ending = .raises text) (hfuel : src.rest.length < fuel) :
    readLine fuel line src =
      some (.error (.noMoreMessages text), { src with rest := [] }) := by
  induction fuel generalizing line src with
  | zero => omega
  | succ fuel ih =>
      cases hp : untilNewline src.rest with
      | none => simp [readLine, Source.readline, hp, hend]
      | some p =>
          obtain ⟨piece, rest'⟩ := p
          obtain ⟨q, hpiece, -, hrest⟩ := untilNewline_sound hp
          have hne : piece ≠ [] := by simp [hpiece]
          have hread : src.readline = (.ok piece, { src with rest := rest' }) := by
            simp [Source.readline, hp]
          rw [splitLine_of_untilNewline hp] at hsplit
          by_cases hs : crlf <:+ piece
          · simp [if_pos hs] at hsplit
          · rw [if_neg hs, Option.map_eq_none_iff] at hsplit
            have hbreak : LineBreak (line ++ piece) :=
              Or.inr ⟨line ++ q, by rw [hpiece, List.append_assoc]⟩
            have hshort : rest'.length < fuel := by
              rw [hrest] at hfuel
              simp only [List.length_append, List.length_cons] at hfuel
              omega
            simp only [readLine, hread, if_neg (by simp [hne] : line ++ piece ≠ []),
              if_neg (mt (crlf_suffix_append hline hne).mp hs)]
            exact ih hbreak hsplit hend hshort

/-- **The reader spins at the end of the stream** once it has read a part of a line. -/
theorem readLine_spins {line : Bytes} {src : Source} (hline : line ≠ [])
    (hcrlf : ¬ crlf <:+ line) (hrest : src.rest = []) (hend : src.ending = .eof)
    (fuel : ℕ) : readLine fuel line src = none := by
  induction fuel generalizing src with
  | zero => rfl
  | succ fuel ih =>
      have hread : src.readline = (.ok [], { src with rest := [] }) := by
        simp [Source.readline, untilNewline, hrest, hend]
      simp only [readLine, hread, List.append_nil, if_neg hline, if_neg hcrlf]
      exact ih rfl hend

/-- Without a complete line at the end of the stream, the reader raises only if there is
nothing at all to read. -/
theorem readLine_eof {line : Bytes} {src : Source} (hline : LineBreak line)
    (hcrlf : ¬ crlf <:+ line) (hsplit : splitLine src.rest = none)
    (hend : src.ending = .eof) (hne : line ++ src.rest ≠ []) (fuel : ℕ) :
    readLine fuel line src = none := by
  induction fuel generalizing line src with
  | zero => rfl
  | succ fuel ih =>
      cases hp : untilNewline src.rest with
      | none =>
          have hread : src.readline = (.ok src.rest, { src with rest := [] }) := by
            simp [Source.readline, hp, hend]
          have hno : ¬ crlf <:+ line ++ src.rest := by
            by_cases hrest : src.rest = []
            · rwa [hrest, List.append_nil]
            · rw [crlf_suffix_append hline hrest]
              rintro ⟨t, ht⟩
              exact not_mem_of_untilNewline hp (by rw [← ht]; simp [crlf])
          simp only [readLine, hread, if_neg hne, if_neg hno]
          exact @readLine_spins _ { src with rest := [] } hne hno rfl hend fuel
      | some p =>
          obtain ⟨piece, rest'⟩ := p
          obtain ⟨q, hpiece, -, hrest⟩ := untilNewline_sound hp
          have hne' : piece ≠ [] := by simp [hpiece]
          have hread : src.readline = (.ok piece, { src with rest := rest' }) := by
            simp [Source.readline, hp]
          rw [splitLine_of_untilNewline hp] at hsplit
          by_cases hs : crlf <:+ piece
          · simp [if_pos hs] at hsplit
          · rw [if_neg hs, Option.map_eq_none_iff] at hsplit
            have hno : ¬ crlf <:+ line ++ piece := mt (crlf_suffix_append hline hne').mp hs
            have hbreak : LineBreak (line ++ piece) :=
              Or.inr ⟨line ++ q, by rw [hpiece, List.append_assoc]⟩
            simp only [readLine, hread, if_neg (by simp [hne'] : line ++ piece ≠ []),
              if_neg hno]
            exact ih hbreak hno hsplit hend (by simp [hne'])

/-! ### Header blocks -/

/-- Lines that can stand between the start of a packet and its blank line. -/
def HeaderLines (hs : List Bytes) : Prop := ∀ h ∈ hs, h ≠ [] ∧ IsLine h

/-- Lines with their terminators. -/
def joinLines (hs : List Bytes) : Bytes := hs.flatMap (· ++ crlf)

/-- The header lines of a packet and its blank line. -/
def headerBlock (hs : List Bytes) : Bytes := joinLines hs ++ crlf

@[simp] theorem joinLines_nil : joinLines [] = [] := rfl

@[simp] theorem joinLines_cons (h : Bytes) (hs : List Bytes) :
    joinLines (h :: hs) = h ++ crlf ++ joinLines hs := rfl

theorem headerBlock_cons (h : Bytes) (hs : List Bytes) :
    headerBlock (h :: hs) = h ++ crlf ++ headerBlock hs := by
  simp [headerBlock]

/-- The headers that a block of lines amounts to. -/
def Headers.ofLines (hs : List Bytes) : Headers := hs.foldl Headers.add []

/-- One round of the header loop. -/
theorem readHeaders_line {fuel : ℕ} {headers : Headers} {src : Source} {h tail : Bytes}
    (hne : h ≠ []) (hline : IsLine h) (hrest : src.rest = h ++ crlf ++ tail)
    (hfuel : src.rest.length < fuel) :
    ∃ fuel', tail.length < fuel' ∧ fuel = fuel' + 1 ∧
      readHeaders fuel headers src =
        readHeaders fuel' (headers.add h) { src with rest := tail } := by
  obtain ⟨fuel, rfl⟩ := Nat.exists_eq_succ_of_ne_zero (by omega : fuel ≠ 0)
  have hread := readLine_of_splitLine (Or.inl rfl)
    (by rw [hrest]; exact splitLine_append hline tail) hfuel
  refine ⟨fuel, ?_, rfl, ?_⟩
  · rw [hrest] at hfuel
    simp only [List.length_append, crlf, List.length_cons, List.length_nil] at hfuel
    omega
  · simp only [readHeaders, hread, List.nil_append, if_neg hne]

/-- Complete header lines do not keep the reader from what follows them. -/
theorem readHeaders_lines {fuel : ℕ} {hs : List Bytes} {headers : Headers} {src : Source}
    {tail : Bytes} (hhs : HeaderLines hs) (hrest : src.rest = joinLines hs ++ tail)
    (hfuel : src.rest.length < fuel) :
    ∃ fuel', tail.length < fuel' ∧ readHeaders fuel headers src =
      readHeaders fuel' (hs.foldl Headers.add headers) { src with rest := tail } := by
  induction hs generalizing fuel headers src with
  | nil =>
      replace hrest : src.rest = tail := hrest
      subst hrest
      exact ⟨fuel, hfuel, rfl⟩
  | cons h hs ih =>
      obtain ⟨⟨hne, hline⟩, hhs'⟩ := List.forall_mem_cons.mp hhs
      rw [joinLines_cons, List.append_assoc] at hrest
      obtain ⟨fuel', hfuel', -, hstep⟩ :=
        @readHeaders_line fuel headers src h _ hne hline hrest hfuel
      obtain ⟨fuel'', hfuel'', hih⟩ := @ih fuel' (headers.add h)
        { src with rest := joinLines hs ++ tail } hhs' rfl hfuel'
      exact ⟨fuel'', hfuel'', hstep.trans hih⟩

/-- **A block of headers is read whole**, and nothing behind it. -/
theorem readHeaders_block {fuel : ℕ} {hs : List Bytes} {headers : Headers} {src : Source}
    {tail : Bytes} (hhs : HeaderLines hs) (hrest : src.rest = headerBlock hs ++ tail)
    (hfuel : src.rest.length < fuel) :
    readHeaders fuel headers src =
      some (.ok (hs.foldl Headers.add headers), { src with rest := tail }) := by
  rw [headerBlock, List.append_assoc] at hrest
  obtain ⟨fuel', hfuel', hlines⟩ := readHeaders_lines hhs hrest hfuel
  obtain ⟨fuel', rfl⟩ := Nat.exists_eq_succ_of_ne_zero (by omega : fuel' ≠ 0)
  have hblank : readLine (fuel' + 1) [] { src with rest := crlf ++ tail } =
      some (.ok [], { src with rest := tail }) :=
    readLine_of_splitLine (Or.inl rfl) (splitLine_append isLine_nil tail) hfuel'
  rw [hlines]
  simp only [readHeaders, hblank, if_true]

/-- Every stream begins with a block of headers, or with lines that no blank line ends. -/
theorem exists_headerBlock (bs : Bytes) :
    (∃ hs tail, HeaderLines hs ∧ bs = headerBlock hs ++ tail) ∨
      ∃ hs tail, HeaderLines hs ∧ bs = joinLines hs ++ tail ∧ splitLine tail = none := by
  induction hn : bs.length using Nat.strong_induction_on generalizing bs with
  | _ n ih =>
      cases hsplit : splitLine bs with
      | none => exact Or.inr ⟨[], bs, by simp [HeaderLines], rfl, hsplit⟩
      | some p =>
          obtain ⟨h, rest⟩ := p
          obtain ⟨hisLine, hbs⟩ := splitLine_sound hsplit
          by_cases hne : h = []
          · subst hne
            exact Or.inl ⟨[], rest, by simp [HeaderLines], hbs⟩
          · have hshort : rest.length < n := by
              rw [← hn, hbs]
              simp [crlf]
              omega
            rcases ih _ hshort rest rfl with ⟨hs, tail, hhs, hrest⟩ | ⟨hs, tail, hhs, hrest, hnone⟩
            · refine Or.inl ⟨h :: hs, tail, ?_, ?_⟩
              · exact List.forall_mem_cons.mpr ⟨⟨hne, hisLine⟩, hhs⟩
              · simp [hbs, hrest, headerBlock_cons]
            · refine Or.inr ⟨h :: hs, tail, ?_, ?_, hnone⟩
              · exact List.forall_mem_cons.mpr ⟨⟨hne, hisLine⟩, hhs⟩
              · simp [hbs, hrest]

/-- Lines that no blank line ends do not make a block of headers: the reader raises, unless the
stream ends inside a line. -/
theorem readHeaders_noBlock {fuel : ℕ} {hs : List Bytes} {headers : Headers} {src : Source}
    {tail : Bytes} (hhs : HeaderLines hs) (hrest : src.rest = joinLines hs ++ tail)
    (hnone : splitLine tail = none) (htail : src.ending = .eof → tail = [])
    (hfuel : src.rest.length < fuel) :
    ∃ text src', readHeaders fuel headers src = some (.error (.noMoreMessages text), src') := by
  obtain ⟨fuel', hfuel', hlines⟩ := @readHeaders_lines fuel hs headers src tail hhs hrest hfuel
  obtain ⟨fuel', rfl⟩ := Nat.exists_eq_succ_of_ne_zero (by omega : fuel' ≠ 0)
  rw [hlines]
  cases hend : src.ending with
  | raises text =>
      refine ⟨text, { src with rest := [] }, ?_⟩
      have hline := @readLine_raises (fuel' + 1) [] { src with rest := tail } text (Or.inl rfl)
        hnone hend hfuel'
      simp only [hend] at hline
      simp only [readHeaders, hline, hend]
  | eof =>
      refine ⟨noMoreMessagesText, { src with rest := [] }, ?_⟩
      simp [readHeaders, readLine, Source.readline, untilNewline, htail hend, hend]

/-- **A stream that ends inside a line is read forever**: no amount of fuel is enough. -/
theorem readHeaders_inLine {fuel : ℕ} {hs : List Bytes} {headers : Headers} {src : Source}
    {tail : Bytes} (hhs : HeaderLines hs) (hrest : src.rest = joinLines hs ++ tail)
    (hnone : splitLine tail = none) (hend : src.ending = .eof) (hne : tail ≠ [])
    (hfuel : src.rest.length < fuel) : readHeaders fuel headers src = none := by
  obtain ⟨fuel', hfuel', hlines⟩ := @readHeaders_lines fuel hs headers src tail hhs hrest hfuel
  obtain ⟨fuel', rfl⟩ := Nat.exists_eq_succ_of_ne_zero (by omega : fuel' ≠ 0)
  have hno : ¬ crlf <:+ [] := fun hs => by simpa [crlf] using hs.length_le
  have hline := @readLine_eof [] { src with rest := tail } (Or.inl rfl) hno hnone hend
    (by simpa using hne) (fuel' + 1)
  rw [hlines]
  simp only [readHeaders, hline]

/-! ### Bodies -/

/-- **A body is read whole**, in whatever pieces it arrives, and nothing behind it. -/
theorem readBody_append {fuel : ℕ} {body more tail : Bytes} {src : Source}
    (hrest : src.rest = more ++ tail) (hfuel : more.length ≤ fuel) :
    ∃ calls, readBody fuel more.length body src =
      some (.ok (body ++ more), { src with rest := tail, calls := calls }) := by
  induction fuel generalizing body more src with
  | zero =>
      obtain rfl : more = [] := List.length_eq_zero_iff.mp (by omega)
      refine ⟨src.calls, ?_⟩
      replace hrest : src.rest = tail := hrest
      simp [readBody, ← hrest]
  | succ fuel ih =>
      by_cases hmore : more = []
      · subst hmore
        refine ⟨src.calls, ?_⟩
        replace hrest : src.rest = tail := hrest
        simp [readBody, ← hrest]
      · have hpos := List.length_pos_iff.mpr hmore
        obtain ⟨n, hn⟩ := Nat.exists_eq_succ_of_ne_zero hpos.ne'
        have hne : src.rest ≠ [] := by simp [hrest, hmore]
        obtain ⟨k, hk, hkn, hread⟩ := Source.read_eq (Nat.succ_pos n) hne
        have htake : src.rest.take k = more.take k := by
          rw [hrest, List.take_append_of_le_length (by omega)]
        have hdrop : src.rest.drop k = more.drop k ++ tail := by
          rw [hrest, List.drop_append_of_le_length (by omega)]
        have hchunk : more.take k ≠ [] := by simp [hmore, hk.ne']
        have hlen : (more.take k).length = k := List.length_take_of_le (by omega)
        have hleft : n + 1 - k = (more.drop k).length := by
          rw [List.length_drop]
          omega
        rw [htake, hdrop] at hread
        obtain ⟨calls, hih⟩ := @ih (body ++ more.take k) (more.drop k)
          { src with rest := more.drop k ++ tail, calls := src.calls + 1 } rfl
          (by rw [List.length_drop]; omega)
        refine ⟨calls, ?_⟩
        rw [hn]
        simp only [readBody, hread, if_neg hchunk, hlen, hleft]
        rw [hih, List.append_assoc, List.take_append_drop]

/-- **A body that is cut short** ends the messages. -/
theorem readBody_truncated {fuel length : ℕ} {body : Bytes} {src : Source}
    (hlen : src.rest.length < length) (hfuel : src.rest.length < fuel) :
    ∃ text src', readBody fuel length body src = some (.error (.noMoreMessages text), src') := by
  induction fuel generalizing length body src with
  | zero => omega
  | succ fuel ih =>
      obtain ⟨n, rfl⟩ := Nat.exists_eq_succ_of_ne_zero (by omega : length ≠ 0)
      by_cases hrest : src.rest = []
      · cases hend : src.ending with
        | eof =>
            refine ⟨"", { src with calls := src.calls + 1 }, ?_⟩
            simp [readBody, Source.read, hrest, hend]
        | raises text =>
            refine ⟨text, { src with calls := src.calls + 1 }, ?_⟩
            simp [readBody, Source.read, hrest, hend]
      · obtain ⟨k, hk, hkn, hread⟩ := Source.read_eq (Nat.succ_pos n) hrest
        have hpos := List.length_pos_iff.mpr hrest
        have hchunk : src.rest.take k ≠ [] := by simp [hrest, hk.ne']
        simp only [readBody, hread, if_neg hchunk]
        apply ih
        · simp only [List.length_take, List.length_drop]
          omega
        · simp only [List.length_drop]
          omega

/-! ### Fuel -/

/-- More fuel does not change what `_read_line` returns. -/
theorem readLine_mono {fuel : ℕ} {line : Bytes} {src : Source}
    {r : Except ReadError Bytes × Source} (h : readLine fuel line src = some r) :
    readLine (fuel + 1) line src = some r := by
  induction fuel generalizing line src with
  | zero => simp [readLine] at h
  | succ fuel ih =>
      rw [readLine] at h ⊢
      rcases hread : src.readline with ⟨_ | piece, src'⟩
      · rwa [hread] at h
      · rw [hread] at h
        dsimp only at h ⊢
        split_ifs at h ⊢ with hempty hcrlf
        · exact h
        · exact h
        · exact ih h

/-- More fuel does not change what the header loop returns. -/
theorem readHeaders_mono {fuel : ℕ} {headers : Headers} {src : Source}
    {r : Except ReadError Headers × Source} (h : readHeaders fuel headers src = some r) :
    readHeaders (fuel + 1) headers src = some r := by
  induction fuel generalizing headers src with
  | zero => simp [readHeaders] at h
  | succ fuel ih =>
      rw [readHeaders] at h
      cases hline : readLine (fuel + 1) [] src with
      | none => simp [hline] at h
      | some p =>
          obtain ⟨outcome, src'⟩ := p
          rw [readHeaders, readLine_mono hline]
          rw [hline] at h
          cases outcome with
          | error e => exact h
          | ok line =>
              dsimp only at h ⊢
              split_ifs at h ⊢ with hempty
              · exact h
              · exact ih h

/-- More fuel does not change what the body loop returns. -/
theorem readBody_mono {fuel length : ℕ} {body : Bytes} {src : Source}
    {r : Except ReadError Bytes × Source} (h : readBody fuel length body src = some r) :
    readBody (fuel + 1) length body src = some r := by
  induction fuel generalizing length body src with
  | zero =>
      cases length with
      | zero => simpa [readBody] using h
      | succ length => simp [readBody] at h
  | succ fuel ih =>
      cases length with
      | zero => simpa [readBody] using h
      | succ length =>
          rw [readBody] at h ⊢
          rcases hread : src.read (length + 1) with ⟨_ | chunk, src'⟩
          · rwa [hread] at h
          · rw [hread] at h
            dsimp only at h ⊢
            split_ifs at h ⊢ with hempty
            · exact h
            · exact ih h

/-- More fuel does not change what `read_json` returns. -/
theorem readJsonFuel_mono {codec : Codec} {fuel : ℕ} {src : Source}
    {r : Except ReadError Json × Source} (h : readJsonFuel codec fuel src = some r) :
    readJsonFuel codec (fuel + 1) src = some r := by
  rw [readJsonFuel] at h
  cases hheaders : readHeaders fuel [] src with
  | none => simp [hheaders] at h
  | some p =>
      obtain ⟨outcome, src'⟩ := p
      rw [readJsonFuel, readHeaders_mono hheaders]
      rw [hheaders] at h
      cases outcome with
      | error e => exact h
      | ok headers =>
          dsimp only at h ⊢
          cases hlen : headers.contentLength with
          | none => rwa [hlen] at h
          | some length =>
              rw [hlen] at h
              dsimp only at h ⊢
              cases hbody : readBody fuel length [] src' with
              | none => simp [hbody] at h
              | some q =>
                  rw [readBody_mono hbody]
                  rwa [hbody] at h

/-- No larger amount of fuel changes what `read_json` returns. -/
theorem readJsonFuel_add {codec : Codec} {fuel : ℕ} {src : Source}
    {r : Except ReadError Json × Source} (h : readJsonFuel codec fuel src = some r) (k : ℕ) :
    readJsonFuel codec (fuel + k) src = some r := by
  induction k with
  | zero => exact h
  | succ k ih => exact readJsonFuel_mono ih

/-! ### Packets -/

/-- A packet: a block of headers and a body of the length that they announce. -/
structure Packet where
  /-- The header lines. -/
  lines : List Bytes
  /-- The encoded value, or whatever else stands in its place. -/
  body : Bytes
  headerLines : HeaderLines lines
  contentLength : (Headers.ofLines lines).contentLength = some body.length

/-- A packet as it goes over the wire. -/
def Packet.bytes (p : Packet) : Bytes := headerBlock p.lines ++ p.body

/-- What a stream of bytes begins with. -/
theorem stream_cases (bs : Bytes) :
    (∃ hs tail, HeaderLines hs ∧ bs = joinLines hs ++ tail ∧ splitLine tail = none) ∨
    (∃ hs tail, HeaderLines hs ∧ bs = headerBlock hs ++ tail ∧
      (Headers.ofLines hs).contentLength = none) ∨
    (∃ hs tail length, HeaderLines hs ∧ bs = headerBlock hs ++ tail ∧
      (Headers.ofLines hs).contentLength = some length ∧ tail.length < length) ∨
    ∃ (p : Packet) (tail : Bytes), bs = p.bytes ++ tail := by
  rcases exists_headerBlock bs with ⟨hs, tail, hhs, hbs⟩ | h
  · cases hlen : (Headers.ofLines hs).contentLength with
    | none => exact Or.inr (Or.inl ⟨hs, tail, hhs, hbs, hlen⟩)
    | some length =>
        by_cases hshort : tail.length < length
        · exact Or.inr (Or.inr (Or.inl ⟨hs, tail, length, hhs, hbs, hlen, hshort⟩))
        · have hbody : (tail.take length).length = length :=
            List.length_take_of_le (not_lt.mp hshort)
          refine Or.inr (Or.inr (Or.inr
            ⟨⟨hs, tail.take length, hhs, by rw [hlen, hbody]⟩, tail.drop length, ?_⟩))
          rw [Packet.bytes, List.append_assoc, List.take_append_drop, hbs]
  · exact Or.inl h

variable (codec : Codec)

/-- **A packet is consumed exactly**, whether its body decodes or not. -/
theorem readJson_packet {src : Source} {p : Packet} {tail : Bytes}
    (hrest : src.rest = p.bytes ++ tail) :
    ∃ calls, readJson codec src =
      some (decodeBody codec p.body, { src with rest := tail, calls := calls }) := by
  have hblock : src.rest = headerBlock p.lines ++ (p.body ++ tail) := by
    rw [hrest, Packet.bytes, List.append_assoc]
  have hheaders := @readHeaders_block (src.rest.length + 2) _ [] _ _
    p.headerLines hblock (by omega)
  have hfuel : p.body.length ≤ src.rest.length + 2 := by
    rw [hblock]
    simp only [List.length_append]
    omega
  obtain ⟨calls, hbody⟩ := @readBody_append (src.rest.length + 2) [] p.body tail
    { src with rest := p.body ++ tail } rfl hfuel
  refine ⟨calls, ?_⟩
  rw [readJson, readJsonFuel, hheaders]
  dsimp only
  rw [show (p.lines.foldl Headers.add []).contentLength = _ from p.contentLength]
  dsimp only
  rw [hbody, List.nil_append]

/-- A stream that ends before the blank line, but not inside a line. -/
theorem readJson_ended {src : Source} {hs : List Bytes} {tail : Bytes}
    (hhs : HeaderLines hs) (hrest : src.rest = joinLines hs ++ tail)
    (hnone : splitLine tail = none) (htail : src.ending = .eof → tail = []) :
    ∃ text src', readJson codec src = some (.error (.noMoreMessages text), src') := by
  obtain ⟨text, src', hheaders⟩ := @readHeaders_noBlock (src.rest.length + 2) hs [] src tail hhs
    hrest hnone htail (by omega)
  exact ⟨text, src', by rw [readJson, readJsonFuel, hheaders]⟩

/-- A stream that ends inside a line keeps `read_json` from returning. -/
theorem readJsonFuel_inLine {src : Source} {hs : List Bytes} {tail : Bytes}
    (hhs : HeaderLines hs) (hrest : src.rest = joinLines hs ++ tail)
    (hnone : splitLine tail = none) (hend : src.ending = .eof) (hne : tail ≠ []) (fuel : ℕ) :
    readJsonFuel codec fuel src = none := by
  cases hr : readJsonFuel codec fuel src with
  | none => rfl
  | some r =>
      -- with more fuel the result would be the same, and there is none
      have hmore := readJsonFuel_add hr (src.rest.length + 1)
      rw [readJsonFuel, readHeaders_inLine hhs hrest hnone hend hne (by omega)] at hmore
      cases hmore

/-- A stream that ends before the blank line. -/
theorem readJson_noBlock {src : Source} {hs : List Bytes} {tail : Bytes}
    (hhs : HeaderLines hs) (hrest : src.rest = joinLines hs ++ tail)
    (hnone : splitLine tail = none) :
    (∃ text src', readJson codec src = some (.error (.noMoreMessages text), src')) ∨
      readJson codec src = none := by
  by_cases htail : src.ending = .eof → tail = []
  · exact Or.inl (readJson_ended codec hhs hrest hnone htail)
  · obtain ⟨hend, hne⟩ := Classical.not_imp.mp htail
    exact Or.inr (readJsonFuel_inLine codec hhs hrest hnone hend hne _)

/-- Headers that do not announce a length. -/
theorem readJson_noLength {src : Source} {hs : List Bytes} {tail : Bytes}
    (hhs : HeaderLines hs) (hrest : src.rest = headerBlock hs ++ tail)
    (hlen : (Headers.ofLines hs).contentLength = none) :
    readJson codec src = some (.error .contentLength, { src with rest := tail }) := by
  have hheaders := @readHeaders_block (src.rest.length + 2) _ [] _ _ hhs hrest (by omega)
  rw [readJson, readJsonFuel, hheaders]
  dsimp only
  rw [show (hs.foldl Headers.add []).contentLength = _ from hlen]

/-- **A body that is cut short** ends the messages. -/
theorem readJson_truncated {src : Source} {hs : List Bytes} {tail : Bytes} {length : ℕ}
    (hhs : HeaderLines hs) (hrest : src.rest = headerBlock hs ++ tail)
    (hlen : (Headers.ofLines hs).contentLength = some length) (hshort : tail.length < length) :
    ∃ text src', readJson codec src = some (.error (.noMoreMessages text), src') := by
  have hheaders := @readHeaders_block (src.rest.length + 2) _ [] _ _ hhs hrest (by omega)
  have hfuel : tail.length < src.rest.length + 2 := by
    rw [hrest]
    simp only [List.length_append]
    omega
  obtain ⟨text, src', hbody⟩ := @readBody_truncated (src.rest.length + 2) length []
    { src with rest := tail } hshort hfuel
  refine ⟨text, src', ?_⟩
  rw [readJson, readJsonFuel, hheaders]
  dsimp only
  rw [show (hs.foldl Headers.add []).contentLength = _ from hlen]
  dsimp only
  rw [hbody]

/-- **`readJson` has fuel enough**: where it yields nothing, no amount of fuel helps, and the
call of `read_json` does not return. -/
theorem readJson_eq_none_iff {src : Source} :
    readJson codec src = none ↔ ∀ fuel, readJsonFuel codec fuel src = none := by
  refine ⟨fun h fuel => ?_, fun h => h _⟩
  rcases stream_cases src.rest with
    ⟨hs, tail, hhs, hrest, hnone⟩ | ⟨hs, tail, hhs, hrest, hlen⟩ |
    ⟨hs, tail, length, hhs, hrest, hlen, hshort⟩ | ⟨p, tail, hrest⟩
  · by_cases htail : src.ending = .eof → tail = []
    · obtain ⟨text, src', hread⟩ := readJson_ended codec hhs hrest hnone htail
      rw [hread] at h
      simp at h
    · obtain ⟨hend, hne⟩ := Classical.not_imp.mp htail
      exact readJsonFuel_inLine codec hhs hrest hnone hend hne fuel
  · rw [readJson_noLength codec hhs hrest hlen] at h
    simp at h
  · obtain ⟨text, src', hread⟩ := readJson_truncated codec hhs hrest hlen hshort
    rw [hread] at h
    simp at h
  · obtain ⟨calls, hread⟩ := readJson_packet codec hrest
    rw [hread] at h
    simp at h

/-- The outcomes of reading packets one after another, up to the end of the messages. -/
theorem readJsonTimes_packets (packets : List Packet) {src : Source} {tail : Bytes}
    (hrest : src.rest = packets.flatMap Packet.bytes ++ tail) (n : ℕ) :
    ∃ calls, readJsonTimes codec (packets.length + n) src =
      (readJsonTimes codec n { src with rest := tail, calls := calls }).map fun p =>
        (packets.map (fun q => decodeBody codec q.body) ++ p.1, p.2) := by
  induction packets generalizing src with
  | nil =>
      replace hrest : src.rest = tail := hrest
      refine ⟨src.calls, ?_⟩
      simp [← hrest]
  | cons p packets ih =>
      rw [List.flatMap_cons, List.append_assoc] at hrest
      obtain ⟨calls, hread⟩ := readJson_packet codec hrest
      obtain ⟨calls', hih⟩ := @ih { src with rest := packets.flatMap Packet.bytes ++ tail
                                             calls := calls } rfl
      refine ⟨calls', ?_⟩
      rw [List.length_cons, Nat.add_right_comm, readJsonTimes, hread]
      simp [hih, Function.comp_def]

/-- At the end of the stream, where nothing is left, the messages end. -/
theorem readJson_end {src : Source} (hrest : src.rest = []) :
    ∃ text src', readJson codec src = some (.error (.noMoreMessages text), src') := by
  cases hend : src.ending with
  | eof =>
      refine ⟨noMoreMessagesText, { src with rest := [] }, ?_⟩
      simp [readJson, readJsonFuel, readHeaders, readLine, Source.readline, untilNewline,
        hrest, hend]
  | raises text =>
      refine ⟨text, { src with rest := [] }, ?_⟩
      simp [readJson, readJsonFuel, readHeaders, readLine, Source.readline, untilNewline,
        hrest, hend]

/-! ### Writing packets -/

/-- The header line that `write_json` writes. -/
def lengthLine (length : ℕ) : Bytes := contentLengthKey ++ [58, 32] ++ Numeral.decimal length

theorem header_eq (length : ℕ) : header length = headerBlock [lengthLine length] := by
  simp [header, headerBlock, lengthLine]

/-- The header line contains no `\r`. -/
theorem not_mem_lengthLine (length : ℕ) : 13 ∉ lengthLine length := by
  rw [lengthLine, List.mem_append, not_or]
  refine ⟨by decide, fun h => ?_⟩
  have := Numeral.isDigit_of_mem_decimal h
  simp [Numeral.isDigit] at this

theorem headerLines_lengthLine (length : ℕ) : HeaderLines [lengthLine length] := by
  intro h hmem
  obtain rfl := List.mem_singleton.mp hmem
  refine ⟨by simp [lengthLine, contentLengthKey], fun hin => not_mem_lengthLine length ?_⟩
  exact hin.subset (by simp [crlf])

/-- The header line is found again, and the length in it is checked. -/
theorem contentLength_lengthLine (length : ℕ) :
    (Headers.ofLines [lengthLine length]).contentLength =
      if length ≤ maxBodySize then some length else none := by
  have hpart : partitionColon (lengthLine length) =
      (contentLengthKey, 32 :: Numeral.decimal length) := by
    simp [partitionColon, lengthLine, contentLengthKey]
  simp only [Headers.ofLines, List.foldl_cons, List.foldl_nil, Headers.add, hpart,
    Headers.contentLength, List.lookup_cons, beq_self_eq_true]
  simp [Numeral.parseInt_space_decimal]

/-- The packet that `write_json` makes of an encoded value. -/
def Packet.ofBody (body : Bytes) (h : body.length ≤ maxBodySize) : Packet where
  lines := [lengthLine body.length]
  body := body
  headerLines := headerLines_lengthLine body.length
  contentLength := by rw [contentLength_lengthLine, if_pos h]

theorem Packet.bytes_ofBody {body : Bytes} (h : body.length ≤ maxBodySize) :
    (Packet.ofBody body h).bytes = header body.length ++ body := by
  rw [header_eq]
  rfl

/-- **The loop of `write_json` writes everything**, in whatever pieces the writer accepts
it. -/
theorem writeData_eq {fuel : ℕ} {data : Bytes} {out : Sink} (hout : out.Reliable)
    (hfuel : data.length ≤ fuel) :
    ∃ calls, writeData fuel data out =
      (.ok (), { out with accepted := out.accepted ++ data, calls := calls }) := by
  induction fuel generalizing data out with
  | zero =>
      obtain rfl : data = [] := List.length_eq_zero_iff.mp (by omega)
      exact ⟨out.calls, by simp [writeData]⟩
  | succ fuel ih =>
      by_cases hdata : data = []
      · subst hdata
        exact ⟨out.calls, by simp [writeData]⟩
      · have hpos := List.length_pos_iff.mpr hdata
        rcases Sink.write_eq hout data with ⟨k, hk, hwrite⟩ | hwrite
        · obtain ⟨calls, hih⟩ := @ih (data.drop (min data.length k))
            { out with accepted := out.accepted ++ data.take (min data.length k)
                       calls := out.calls + 1 }
            hout (by rw [List.length_drop]; omega)
          refine ⟨calls, ?_⟩
          simp only [writeData, if_neg hdata, hwrite]
          rw [hih, List.append_assoc, List.take_append_drop]
        · exact ⟨out.calls + 1, by simp only [writeData, if_neg hdata, hwrite]⟩

/-- **What `write_json` writes** to a reliable writer. -/
theorem writeJson_eq {value : Json} {text : String} {out : Sink} (hout : out.Reliable)
    (htext : codec.encode value = some text) :
    ∃ calls, writeJson codec false value out =
      (.ok (), { out with
        accepted := out.accepted ++ (header (encodeUtf8 text).length ++ encodeUtf8 text)
        calls := calls }) := by
  obtain ⟨calls, hdata⟩ := @writeData_eq _
    (header (encodeUtf8 text).length ++ encodeUtf8 text) _ hout le_rfl
  refine ⟨calls, ?_⟩
  simp only [writeJson, Bool.false_eq_true, if_false, htext, hdata, Sink.flush, hout.2]

/-! ### Round trip -/

/-- The codec gives the value back. -/
def Codec.RoundTrips (value : Json) : Prop :=
  ∃ text, codec.encode value = some text ∧ codec.decode text = some value

/-- The encoded value is not larger than a body may be. -/
def Codec.Fits (value : Json) : Prop :=
  ∀ text, codec.encode value = some text → (encodeUtf8 text).length ≤ maxBodySize

theorem decodeUtf8_encodeUtf8 (text : String) : decodeUtf8 (encodeUtf8 text) = some text := by
  simp only [decodeUtf8, encodeUtf8, String.fromUTF8?, Array.toArray_toList]
  exact dif_pos text.isValidUTF8

variable {codec}

/-- The body that `write_json` makes of a value decodes to that value. -/
theorem decodeBody_encodeUtf8 {value : Json} {text : String}
    (h : codec.decode text = some value) :
    decodeBody codec (encodeUtf8 text) = .ok value := by
  simp only [decodeBody, decodeUtf8_encodeUtf8, h]

/-- **What `write_json` writes is a list of packets**, one for each value. -/
theorem writeJsonTimes_eq {values : List Json} {out : Sink} (hout : out.Reliable)
    (hround : ∀ v ∈ values, codec.RoundTrips v) (hfits : ∀ v ∈ values, codec.Fits v) :
    ∃ (packets : List Packet) (calls : ℕ),
      packets.map (fun p => decodeBody codec p.body) = values.map .ok ∧
      writeJsonTimes codec values out =
        (.ok (), { out with accepted := out.accepted ++ packets.flatMap Packet.bytes
                            calls := calls }) := by
  induction values generalizing out with
  | nil => exact ⟨[], out.calls, rfl, by simp [writeJsonTimes]⟩
  | cons v values ih =>
      obtain ⟨⟨text, henc, hdec⟩, hround'⟩ := List.forall_mem_cons.mp hround
      obtain ⟨hfit, hfits'⟩ := List.forall_mem_cons.mp hfits
      obtain ⟨calls, hwrite⟩ := writeJson_eq codec hout henc
      obtain ⟨packets, calls', hpackets, hih⟩ := @ih
        { out with accepted := out.accepted ++ (header (encodeUtf8 text).length ++ encodeUtf8 text)
                   calls := calls } hout hround' hfits'
      refine ⟨Packet.ofBody _ (hfit text henc) :: packets, calls', ?_, ?_⟩
      · simp [hpackets, Packet.ofBody, decodeBody_encodeUtf8 hdec]
      · rw [writeJsonTimes, hwrite]
        dsimp only
        rw [hih, List.flatMap_cons, Packet.bytes_ofBody]
        simp

/-- The bytes that a fresh writer has accepted after `write_json` of all the values. -/
def written (codec : Codec) (values : List Json) (out : Sink) : Bytes :=
  (writeJsonTimes codec values { out with accepted := [] }).2.accepted

/-- The bytes written are those of packets that decode to the values. -/
theorem written_eq {values : List Json} {out : Sink} (hout : out.Reliable)
    (hround : ∀ v ∈ values, codec.RoundTrips v) (hfits : ∀ v ∈ values, codec.Fits v) :
    (writeJsonTimes codec values { out with accepted := [] }).1 = .ok () ∧
    ∃ packets : List Packet, written codec values out = packets.flatMap Packet.bytes ∧
      packets.map (fun p => decodeBody codec p.body) = values.map .ok := by
  obtain ⟨packets, calls, hpackets, hwrite⟩ :=
    @writeJsonTimes_eq codec values { out with accepted := [] } hout hround hfits
  rw [written, hwrite]
  exact ⟨rfl, packets, rfl, hpackets⟩

/-- Packets that decode, read up to the end of the messages. -/
theorem readJsonTimes_end {packets : List Packet} {values : List Json} {src : Source}
    (hvalues : packets.map (fun p => decodeBody codec p.body) = values.map .ok)
    (hrest : src.rest = packets.flatMap Packet.bytes) :
    ∃ text src', readJsonTimes codec (values.length + 1) src =
      some (values.map .ok ++ [.error (.noMoreMessages text)], src') := by
  have hlen : packets.length = values.length := by
    simpa using congrArg List.length hvalues
  obtain ⟨calls, hread⟩ := readJsonTimes_packets codec packets
    (by rw [hrest, List.append_nil]) 1
  obtain ⟨text, src', hend⟩ :=
    readJson_end codec (show { src with rest := [], calls := calls }.rest = [] from rfl)
  refine ⟨text, src', ?_⟩
  rw [← hlen, hread, hvalues]
  simp [readJsonTimes, hend]

/-- **What `write_json` writes, `read_json` reads**, followed by `NoMoreMessages`: for every
writer, however little it accepts at a time, and every reader, however little it yields. A
packet that does not decode in between raises, is consumed exactly, and does no harm to
the values before and behind it. -/
theorem readJson_roundtrip {codec : Codec} {values values' : List Json} {out out' : Sink}
    (hround : ∀ v ∈ values ++ values', codec.RoundTrips v)
    (hfits : ∀ v ∈ values ++ values', codec.Fits v)
    (hout : out.Reliable) (hout' : out'.Reliable) :
    (writeJsonTimes codec values { out with accepted := [] }).1 = .ok () ∧
    (∀ src : Source, src.rest = written codec values out →
      ∃ text src', readJsonTimes codec (values.length + 1) src =
        some (values.map .ok ++ [.error (.noMoreMessages text)], src')) ∧
    ∀ (src : Source) (p : Packet) (e : ReadError), decodeBody codec p.body = .error e →
      src.rest = written codec values out ++ p.bytes ++ written codec values' out' →
      ∃ src', readJsonTimes codec (values.length + 1) src =
          some (values.map .ok ++ [.error e], src') ∧
        src'.rest = written codec values' out' ∧
        ∃ text src'', readJsonTimes codec (values'.length + 1) src' =
          some (values'.map .ok ++ [.error (.noMoreMessages text)], src'') := by
  obtain ⟨hround₁, hround₂⟩ := List.forall_mem_append.mp hround
  obtain ⟨hfits₁, hfits₂⟩ := List.forall_mem_append.mp hfits
  obtain ⟨hok, packets, hwritten, hvalues⟩ := written_eq hout hround₁ hfits₁
  obtain ⟨-, packets', hwritten', hvalues'⟩ := written_eq hout' hround₂ hfits₂
  refine ⟨hok, fun src hrest => readJsonTimes_end hvalues (hrest.trans hwritten), ?_⟩
  intro src p e hbad hrest
  have hlen : packets.length = values.length := by
    simpa using congrArg List.length hvalues
  obtain ⟨calls, hread⟩ := readJsonTimes_packets codec packets
    (hrest.trans (by rw [hwritten, List.append_assoc])) 1
  obtain ⟨calls', hpacket⟩ := readJson_packet codec
    (show { src with rest := p.bytes ++ written codec values' out', calls := calls }.rest =
      p.bytes ++ written codec values' out' from rfl)
  refine ⟨{ src with rest := written codec values' out', calls := calls' }, ?_, rfl, ?_⟩
  · rw [← hlen, hread, hvalues]
    simp [readJsonTimes, hpacket, hbad]
  · exact readJsonTimes_end hvalues' hwritten'

/-- The part of Python's JSON codec that deals with literals. -/
def literals : Codec where
  encode
    | .null => some "null"
    | .bool true => some "true"
    | .bool false => some "false"
    | _ => none
  decode text :=
    if text = "null" then some .null
    else if text = "true" then some (.bool true)
    else if text = "false" then some (.bool false)
    else none

/-- Two literals around a packet whose body is the byte `0xFF`, written three bytes at a
time and read two bytes at a time. -/
theorem readJson_roundtrip_literals :
    ∃ src', readJsonTimes literals 2
        ⟨written literals [.null] ⟨[], fun _ => .part 3, fun _ => none, 0⟩ ++
          (Packet.ofBody [255] (by decide)).bytes ++
          written literals [.bool true] ⟨[], fun _ => .full, fun _ => none, 0⟩,
          fun _ => 2, 0, .eof⟩ =
        some ([.ok .null, .error .unicodeDecode], src') ∧
      src'.rest = written literals [.bool true] ⟨[], fun _ => .full, fun _ => none, 0⟩ ∧
      ∃ text src'', readJsonTimes literals 2 src' =
        some ([.ok (.bool true), .error (.noMoreMessages text)], src'') := by
  have hround : ∀ v ∈ [Json.null] ++ [Json.bool true], literals.RoundTrips v := by
    simp [Codec.RoundTrips, literals]
  have hfits : ∀ v ∈ [Json.null] ++ [Json.bool true], literals.Fits v := by
    simp only [Codec.Fits, literals, encodeUtf8, maxBodySize, List.cons_append,
      List.nil_append, List.forall_mem_cons, Option.some.injEq, forall_eq']
    exact ⟨by decide, by decide, by simp⟩
  have hbad : decodeBody literals [255] = .error .unicodeDecode := by
    have hutf8 : decodeUtf8 [255] = none := by
      simp only [decodeUtf8, String.fromUTF8?]
      refine dif_neg ?_
      rw [← ByteArray.validateUTF8_eq_true_iff]
      decide
    simp only [decodeBody, hutf8]
  exact (readJson_roundtrip hround hfits (by simp [Sink.Reliable])
    (by simp [Sink.Reliable])).2.2 _ _ _ hbad rfl

end Ptvsd
