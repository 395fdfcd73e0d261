import Mathlib.Data.List.Basic

/-!
# Byte Streams Delivered in Pieces

An unbuffered reader hands out as many bytes as it happens to have, and an unbuffered
writer accepts as many as it has room for. This module models both ends: a `Source` holds
the bytes still to come and a pattern that decides how many of them each `read` yields; a
`Sink` holds the bytes accepted so far and a pattern that decides what each `write` does.
Every behaviour of such a reader or writer is the behaviour of some pattern.

`readline` yields the bytes up to and including the next newline. A protocol that ends its
lines with `\r\n` has to put several of those pieces together; `splitLine` says what the
result must be, as a function on the bytes alone, and `splitLine_of_untilNewline` relates
one piece to it.

## Main results

* `splitLine_append`: a line without `\r\n` inside, followed by `\r\n`, is split off whole.
* `splitLine_sound`: these are the only splits.
* `Source.read_eq`: a `read` yields a nonempty piece of what is left, and leaves the rest.
-/

namespace ByteStream

/-- A byte string. -/
abbrev Bytes := List UInt8

/-! ### Lines -/

/-- Splits after the first newline, which is kept. -/
def untilNewline : Bytes → Option (Bytes × Bytes)
  | [] => none
  | b :: bs =>
      if b = 10 then some ([10], bs) else (untilNewline bs).map fun p => (b :: p.1, p.2)

/-- The line terminator `\r\n`. -/
def crlf : Bytes := [13, 10]

/-- Splits at the first `\r\n`, which is dropped. -/
def splitLine : Bytes → Option (Bytes × Bytes)
  | [] => none
  | [_] => none
  | b :: c :: bs =>
      if b = 13 ∧ c = 10 then some ([], bs)
      else (splitLine (c :: bs)).map fun p => (b :: p.1, p.2)

/-- A line: no `\r\n` inside. -/
def IsLine (l : Bytes) : Prop := ¬ crlf <:+: l

theorem IsLine.tail {b : UInt8} {l : Bytes} (h : IsLine (b :: l)) : IsLine l :=
  fun hin => h (hin.trans (List.suffix_cons b l).isInfix)

theorem isLine_nil : IsLine [] := by
  intro h
  have := h.length_le
  simp [crlf] at this

/-- A line followed by its terminator is split off whole. -/
theorem splitLine_append {l : Bytes} (h : IsLine l) (bs : Bytes) :
    splitLine (l ++ crlf ++ bs) = some (l, bs) := by
  induction l with
  | nil => simp [crlf, splitLine]
  | cons b l ih =>
      have htail := ih h.tail
      cases l with
      | nil =>
          have hstep : splitLine ([b] ++ crlf ++ bs) =
              (splitLine ([] ++ crlf ++ bs)).map fun p => (b :: p.1, p.2) := by
            simp [crlf, splitLine]
          rw [hstep, htail]
          rfl
      | cons c l =>
          have hne : ¬ (b = 13 ∧ c = 10) := by
            rintro ⟨rfl, rfl⟩
            exact h ⟨[], l, by simp [crlf]⟩
          have hstep : splitLine (b :: c :: l ++ crlf ++ bs) =
              (splitLine (c :: l ++ crlf ++ bs)).map fun p => (b :: p.1, p.2) := by
            simp [splitLine, hne]
          rw [hstep, htail]
          rfl

/-- What is split off is a line, and nothing is lost. -/
theorem splitLine_sound {bs l rest : Bytes} (h : splitLine bs = some (l, rest)) :
    IsLine l ∧ bs = l ++ crlf ++ rest := by
  induction bs generalizing l rest with
  | nil => simp [splitLine] at h
  | cons b bs ih =>
      cases bs with
      | nil => simp [splitLine] at h
      | cons c bs =>
          by_cases hbc : b = 13 ∧ c = 10
          · obtain ⟨rfl, rfl⟩ := hbc
            simp only [splitLine, and_self, if_true, Option.some.injEq, Prod.mk.injEq] at h
            obtain ⟨rfl, rfl⟩ := h
            exact ⟨isLine_nil, rfl⟩
          · simp only [splitLine, if_neg hbc, Option.map_eq_some_iff, Prod.mk.injEq] at h
            obtain ⟨⟨l', rest'⟩, hsplit, rfl, rfl⟩ := h
            obtain ⟨hl', hbs⟩ := ih hsplit
            refine ⟨?_, by rw [hbs]; rfl⟩
            rintro ⟨s, t, hst⟩
            cases s with
            | nil =>
                -- the terminator would have to begin right here
                simp only [crlf, List.nil_append, List.cons_append, List.cons.injEq] at hst
                obtain ⟨hb, hl⟩ := hst
                rw [← hl, List.cons_append, List.cons_append] at hbs
                exact hbc ⟨hb.symm, (List.cons.inj hbs).1⟩
            | cons d s =>
                rw [List.cons_append, List.cons_append, List.cons.injEq] at hst
                exact hl' ⟨s, t, hst.2⟩

/-! ### One piece of a line -/

/-- A piece ends with the first newline. -/
theorem untilNewline_sound {bs piece rest : Bytes}
    (h : untilNewline bs = some (piece, rest)) :
    ∃ p, piece = p ++ [10] ∧ 10 ∉ p ∧ bs = p ++ 10 :: rest := by
  induction bs generalizing piece rest with
  | nil => simp [untilNewline] at h
  | cons b bs ih =>
      by_cases hb : b = 10
      · simp only [untilNewline, if_pos hb, Option.some.injEq, Prod.mk.injEq] at h
        obtain ⟨rfl, rfl⟩ := h
        exact ⟨[], by simp, by simp, by simp [hb]⟩
      · simp only [untilNewline, if_neg hb, Option.map_eq_some_iff, Prod.mk.injEq] at h
        obtain ⟨⟨piece', rest'⟩, hp, rfl, rfl⟩ := h
        obtain ⟨p, hpiece, hnot, hbs⟩ := ih hp
        refine ⟨b :: p, by simp [hpiece], ?_, by simp [hbs]⟩
        rintro (_ | ⟨_, hmem⟩)
        · exact hb rfl
        · exact hnot hmem

/-- Without a piece there is no newline. -/
theorem not_mem_of_untilNewline {bs : Bytes} (h : untilNewline bs = none) : 10 ∉ bs := by
  induction bs with
  | nil => simp
  | cons b bs ih =>
      by_cases hb : b = 10
      · simp [untilNewline, hb] at h
      · simp only [untilNewline, if_neg hb, Option.map_eq_none_iff] at h
        rintro (_ | ⟨_, hmem⟩)
        · exact hb rfl
        · exact ih h hmem

/-- Without a newline there is no terminator either. -/
theorem splitLine_eq_none {bs : Bytes} (h : untilNewline bs = none) :
    splitLine bs = none := by
  cases hs : splitLine bs with
  | none => rfl
  | some p =>
      obtain ⟨l, rest⟩ := p
      obtain ⟨-, hbs⟩ := splitLine_sound hs
      exact absurd (by simp [hbs, crlf]) (not_mem_of_untilNewline h)

/-- **One piece of a line.** Either it ends with the terminator and is the whole line, or
the line goes on behind it. -/
theorem splitLine_of_untilNewline {bs piece rest : Bytes}
    (h : untilNewline bs = some (piece, rest)) :
    splitLine bs =
      if crlf <:+ piece then some (piece.take (piece.length - 2), rest)
      else (splitLine rest).map fun p => (piece ++ p.1, p.2) := by
  induction bs generalizing piece rest with
  | nil => simp [untilNewline] at h
  | cons b bs ih =>
      by_cases hb : b = 10
      · simp only [untilNewline, if_pos hb, Option.some.injEq, Prod.mk.injEq] at h
        obtain ⟨rfl, rfl⟩ := h
        have hshort : ¬ crlf <:+ [10] := fun hs => by
          have := hs.length_le
          simp [crlf] at this
        rw [if_neg hshort]
        subst hb
        cases bs with
        | nil => rfl
        | cons c bs => simp [splitLine]
      · simp only [untilNewline, if_neg hb, Option.map_eq_some_iff, Prod.mk.injEq] at h
        obtain ⟨⟨piece', rest'⟩, hp, rfl, rfl⟩ := h
        have htail := ih hp
        obtain ⟨p, hpiece, hnot, hbs⟩ := untilNewline_sound hp
        cases p with
        | nil =>
            -- the newline comes next: the line ends here exactly if `b` is `\r`
            obtain rfl : piece' = [10] := hpiece
            rw [hbs]
            by_cases h13 : b = 13
            · subst h13
              simp [splitLine, crlf]
            · have hno : ¬ crlf <:+ [b, 10] := by
                rintro ⟨t, ht⟩
                have hlen := congrArg List.length ht
                simp only [crlf, List.length_append, List.length_cons, List.length_nil] at hlen
                obtain rfl : t = [] := List.length_eq_zero_iff.mp (by omega)
                simp only [crlf, List.nil_append, List.cons.injEq, and_true] at ht
                exact h13 ht.symm
              have hno' : ¬ crlf <:+ [10] := fun hs => by
                have := hs.length_le
                simp [crlf] at this
              rw [if_neg hno, List.nil_append]
              rw [hbs, if_neg hno', List.nil_append] at htail
              simp only [splitLine, h13, false_and, if_false, htail, Option.map_map]
              rfl
        | cons c p =>
            have hc : c ≠ 10 := fun hc => hnot (by simp [hc])
            have hstep : splitLine (b :: bs) =
                (splitLine bs).map fun p => (b :: p.1, p.2) := by
              rw [hbs]
              simp [splitLine, hc]
            have hsuffix : crlf <:+ b :: piece' ↔ crlf <:+ piece' := by
              rw [List.suffix_cons_iff]
              refine or_iff_right fun heq => ?_
              have := congrArg List.length heq
              simp [crlf, hpiece] at this
            rw [hstep, htail]
            by_cases hs : crlf <:+ piece'
            · have hlen : 2 ≤ piece'.length := by simpa [crlf] using hs.length_le
              rw [if_pos hs, if_pos (hsuffix.mpr hs)]
              have hsub : piece'.length + 1 - 2 = piece'.length - 2 + 1 := by omega
              simp [hsub]
            · rw [if_neg hs, if_neg (mt hsuffix.mp hs), Option.map_map]
              rfl

/-! ### The reading end -/

/-- What a reader does once its bytes are used up. -/
inductive Ending where
  /-- Every further call yields the empty string. -/
  | eof
  /-- Every further call raises an exception with this text. -/
  | raises (text : String)
  deriving DecidableEq

/-- The reading end of a byte stream. -/
structure Source where
  /-- The bytes still to come. -/
  rest : Bytes
  /-- How many bytes the `k`-th `read` would like to yield. -/
  chunk : ℕ → ℕ
  /-- The number of `read` calls made. -/
  calls : ℕ
  /-- What happens once `rest` is used up. -/
  ending : Ending

namespace Source

/-- `readline()`: the bytes up to and including the next newline. Without one, all that is
left at the end of the stream, or the exception that the reader ends with. -/
def readline (src : Source) : Except String Bytes × Source :=
  match untilNewline src.rest with
  | some (piece, rest) => (.ok piece, { src with rest := rest })
  | none =>
      match src.ending with
      | .eof => (.ok src.rest, { src with rest := [] })
      | .raises text => (.error text, { src with rest := [] })

/-- `read(n)`: between one and `n` bytes, as the pattern has it; at the end of the stream
the empty string or an exception. -/
def read (n : ℕ) (src : Source) : Except String Bytes × Source :=
  if src.rest = [] then
    match src.ending with
    | .eof => (.ok [], { src with calls := src.calls + 1 })
    | .raises text => (.error text, { src with calls := src.calls + 1 })
  else
    let k := min n (max 1 (src.chunk src.calls))
    (.ok (src.rest.take k), { src with rest := src.rest.drop k, calls := src.calls + 1 })

/-- **A `read` yields a nonempty piece of what is left**, at most as long as asked for. -/
theorem read_eq {n : ℕ} {src : Source} (hn : 0 < n) (hrest : src.rest ≠ []) :
    ∃ k, 0 < k ∧ k ≤ n ∧ src.read n =
      (.ok (src.rest.take k),
        { src with rest := src.rest.drop k, calls := src.calls + 1 }) := by
  refine ⟨min n (max 1 (src.chunk src.calls)), by omega, by omega, ?_⟩
  rw [read, if_neg hrest]

end Source

/-! ### The writing end -/

/-- What one `write` does. -/
inductive Accept where
  /-- Everything is written and `None` is returned. -/
  | full
  /-- About this many bytes are written, at least one, and their number is returned. -/
  | part (count : ℕ)
  /-- An exception with this text is raised. -/
  | fails (text : String)
  deriving DecidableEq

/-- The writing end of a byte stream. -/
structure Sink where
  /-- The bytes accepted so far. -/
  accepted : Bytes
  /-- What the `k`-th `write` does. -/
  pattern : ℕ → Accept
  /-- The exception raised by the `flush()` that follows `k` writes, if any. -/
  flushFails : ℕ → Option String
  /-- The number of `write` calls made. -/
  calls : ℕ

namespace Sink

/-- `write(data)`: `none` is Python's `None`, a full write. -/
def write (data : Bytes) (out : Sink) : Except String (Option ℕ) × Sink :=
  match out.pattern out.calls with
  | .full => (.ok none, { out with accepted := out.accepted ++ data, calls := out.calls + 1 })
  | .part count =>
      let k := min data.length (max 1 count)
      (.ok (some k),
        { out with accepted := out.accepted ++ data.take k, calls := out.calls + 1 })
  | .fails text => (.error text, { out with calls := out.calls + 1 })

/-- `flush()`. -/
def flush (out : Sink) : Except String Unit :=
  match out.flushFails out.calls with
  | none => .ok ()
  | some text => .error text

/-- A writer that never raises. -/
def Reliable (out : Sink) : Prop :=
  (∀ k text, out.pattern k ≠ .fails text) ∧ ∀ k, out.flushFails k = none

/-- A `write` of a reliable writer accepts everything, or a nonempty piece. -/
theorem write_eq {out : Sink} (h : out.Reliable) (data : Bytes) :
    (∃ k, 0 < k ∧ out.write data =
      (.ok (some (min data.length k)),
        { out with accepted := out.accepted ++ data.take (min data.length k)
                   calls := out.calls + 1 })) ∨
    out.write data =
      (.ok none, { out with accepted := out.accepted ++ data, calls := out.calls + 1 }) := by
  rw [write]
  cases hp : out.pattern out.calls with
  | full => exact Or.inr rfl
  | part count => exact Or.inl ⟨max 1 count, by omega, rfl⟩
  | fails text => exact absurd hp (h.1 _ _)

end Sink

end ByteStream
