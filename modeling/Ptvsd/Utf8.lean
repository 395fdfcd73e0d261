import Ptvsd.ByteStream

/-!
# Incremental UTF-8

The decoder and the encoder of UTF-8 with the error handler `surrogateescape`: a byte that belongs
to no character is decoded to a lone surrogate, and encoded back to the byte. A text is thus a list
of code points, surrogates among them.

The decoder is incremental. What it is given may end within a character, unless it is told that
nothing follows; it hands back the bytes of that character, and they are put in front of the next
piece.

## Main results

* `decode_append`: **it does not matter where the bytes are cut.** What is decoded of the first
  part, and of the rest of it in front of the second part, is what is decoded of both.
* `encode_decode`: the encoder undoes the decoder.
* `head?_decode`, `getLast?_decode`: an ASCII character at an end of the text is a byte at that end.
-/

open ByteStream

namespace Utf8

/-- A string, as its code points. -/
abbrev Text := List ℕ

/-! ### Characters -/

/-- What the first bytes of a string are. -/
inductive Scan where
  /-- The character `c`, in front of `rest`. -/
  | char (c : ℕ) (rest : Bytes)
  /-- The first byte is not part of a character. -/
  | invalid
  /-- The string ends within a character. -/
  | incomplete

/-- Reads `n` continuation bytes of a character that has started with `c`; the next one lies
between `low` and `high`, and the others between `0x80` and `0xBF`. -/
def scanTail : ℕ → ℕ → ℕ → ℕ → Bytes → Scan
  | 0, _, _, c, bs => .char c bs
  | _ + 1, _, _, _, [] => .incomplete
  | n + 1, low, high, c, b :: bs =>
      if low ≤ b.toNat ∧ b.toNat ≤ high then
        scanTail n 0x80 0xBF (c * 64 + (b.toNat - 0x80)) bs
      else .invalid

/-- Reads one character. Overlong forms, surrogates and code points from `0x110000` on are ruled
out by the bounds on the second byte. -/
def scan : Bytes → Scan
  | [] => .incomplete
  | b :: bs =>
      if b.toNat < 0x80 then .char b.toNat bs
      else if b.toNat < 0xC2 then .invalid
      else if b.toNat < 0xE0 then scanTail 1 0x80 0xBF (b.toNat - 0xC0) bs
      else if b.toNat < 0xF0 then
        scanTail 2 (if b.toNat = 0xE0 then 0xA0 else 0x80)
          (if b.toNat = 0xED then 0x9F else 0xBF) (b.toNat - 0xE0) bs
      else if b.toNat < 0xF5 then
        scanTail 3 (if b.toNat = 0xF0 then 0x90 else 0x80)
          (if b.toNat = 0xF4 then 0x8F else 0xBF) (b.toNat - 0xF0) bs
      else .invalid

/-- The surrogate that stands for a byte that is part of no character. -/
def escape (b : UInt8) : ℕ := 0xDC00 + b.toNat

/-- The bytes of a code point; of the surrogates, those that stand for a byte have one. -/
def encodePoint (c : ℕ) : Option Bytes :=
  if c < 0x80 then some [c.toUInt8]
  else if c < 0x800 then some [(0xC0 + c / 64).toUInt8, (0x80 + c % 64).toUInt8]
  else if 0xD800 ≤ c ∧ c < 0xE000 then
    if 0xDC80 ≤ c ∧ c < 0xDD00 then some [(c - 0xDC00).toUInt8] else none
  else if c < 0x10000 then
    some [(0xE0 + c / 4096).toUInt8, (0x80 + c / 64 % 64).toUInt8, (0x80 + c % 64).toUInt8]
  else if c < 0x110000 then
    some [(0xF0 + c / 262144).toUInt8, (0x80 + c / 4096 % 64).toUInt8,
      (0x80 + c / 64 % 64).toUInt8, (0x80 + c % 64).toUInt8]
  else none

/-- `codecs.getencoder("utf-8")(text, "surrogateescape")`; `none` stands for an exception. -/
def encode : Text → Option Bytes
  | [] => some []
  | c :: text => do
      let head ← encodePoint c
      let rest ← encode text
      return head ++ rest

/-! ### Strings of characters -/

/-- The character of a code point, unless that is a surrogate or out of range. -/
def character (c : ℕ) : Option Char := if c.isValidChar then some (Char.ofNat c) else none

/-- The string of characters that a text is. -/
def characters (text : Text) : Option String := (text.mapM character).map String.ofList

/-- The code points of a string. -/
def codePoints (s : String) : Text := s.toList.map Char.toNat

/-- `text.encode("utf-8")` does not raise. -/
def EncodesStrictly (text : Text) : Prop := ∀ c ∈ text, c.isValidChar

section Characters

variable {c : ℕ} {d : Char} {s t : String} {text : Text}

/-- A scalar value is that of its character. -/
theorem toNat_ofNat (hc : c.isValidChar) : (Char.ofNat c).toNat = c := by
  rw [Char.ofNat, dif_pos hc]
  rfl

/-- A character has its own scalar value. -/
theorem character_eq_some : character c = some d ↔ d.toNat = c := by
  rw [character]
  split_ifs with hc
  · rw [Option.some.injEq]
    constructor
    · rintro rfl
      exact toNat_ofNat hc
    · rintro rfl
      exact Char.ofNat_toNat d
  · refine iff_of_false nofun ?_
    rintro rfl
    exact hc d.valid

/-- Characters have their own scalar values, one by one. -/
theorem mapM_character {cs : List Char} :
    text.mapM character = some cs ↔ cs.map Char.toNat = text := by
  induction text generalizing cs with
  | nil => simp [eq_comm]
  | cons c text ih =>
      rw [List.mapM_cons, Option.bind_eq_bind, Option.bind_eq_some_iff]
      constructor
      · rintro ⟨d, hd, h⟩
        obtain ⟨ds, hds, h⟩ := Option.bind_eq_some_iff.1 h
        cases h
        rw [List.map_cons, character_eq_some.1 hd, ih.1 hds]
      · intro h
        obtain ⟨d, ds, rfl, hd, hds⟩ := List.map_eq_cons_iff.1 h
        exact ⟨d, character_eq_some.2 hd, by rw [ih.2 hds]; rfl⟩

/-- **A text is a string of characters** if its code points are those of the string. -/
theorem characters_eq_some : characters text = some s ↔ codePoints s = text := by
  rw [characters, Option.map_eq_some_iff, codePoints]
  constructor
  · rintro ⟨cs, hcs, rfl⟩
    rw [String.toList_ofList, mapM_character.1 hcs]
  · intro h
    exact ⟨s.toList, mapM_character.2 h, String.ofList_toList⟩

/-- A string is known by its code points. -/
theorem codePoints_injective : Function.Injective codePoints := by
  intro s t h
  exact Option.some.inj ((characters_eq_some.2 h).symm.trans (characters_eq_some.2 rfl))

/-- Only the empty string has no code points. -/
theorem codePoints_eq_nil : codePoints s = [] ↔ s = "" := by
  rw [codePoints, List.map_eq_nil_iff, String.toList_eq_nil_iff]

/-- A string of characters can be encoded. -/
theorem encodesStrictly_codePoints (s : String) : EncodesStrictly (codePoints s) := by
  intro c hc
  obtain ⟨d, -, rfl⟩ := List.mem_map.1 hc
  exact d.valid

/-- **What can be encoded is a string of characters.** -/
theorem encodesStrictly_iff : EncodesStrictly text ↔ ∃ s, codePoints s = text := by
  constructor
  · intro h
    refine ⟨String.ofList (text.map Char.ofNat), ?_⟩
    rw [codePoints, String.toList_ofList, List.map_map]
    exact (List.map_congr_left fun c hc => toNat_ofNat (h c hc)).trans (List.map_id text)
  · rintro ⟨s, rfl⟩
    exact encodesStrictly_codePoints s

end Characters

/-- A byte is given by its value. -/
theorem toUInt8_eq {n : ℕ} {b : UInt8} (h : n = b.toNat) : n.toUInt8 = b := by
  subst h
  exact UInt8.ofNat_toNat

section Scan

variable {n low high c d : ℕ} {b : UInt8} {bs bs' rest : Bytes}

/-- The first of the bytes that are left is a continuation byte in its range. -/
theorem scanTail_succ (h : scanTail (n + 1) low high c bs = .char d rest) :
    ∃ b bs', bs = b :: bs' ∧ (low ≤ b.toNat ∧ b.toNat ≤ high) ∧
      scanTail n 0x80 0xBF (c * 64 + (b.toNat - 0x80)) bs' = .char d rest := by
  cases bs with
  | nil => cases h
  | cons b bs =>
      rw [scanTail] at h
      split_ifs at h with hb
      exact ⟨b, bs, rfl, hb, h⟩

/-- What is behind a character does not matter for its continuation bytes. -/
theorem scanTail_append_char (h : scanTail n low high c bs = .char d rest) :
    scanTail n low high c (bs ++ bs') = .char d (rest ++ bs') := by
  induction n generalizing low high c bs with
  | zero =>
      cases h
      rfl
  | succ n ih =>
      obtain ⟨b, bs, rfl, hb, h⟩ := scanTail_succ h
      rw [List.cons_append, scanTail, if_pos hb]
      exact ih h

/-- What is behind an invalid byte does not matter for its continuation bytes. -/
theorem scanTail_append_invalid (h : scanTail n low high c bs = .invalid) :
    scanTail n low high c (bs ++ bs') = .invalid := by
  induction n generalizing low high c bs with
  | zero => cases h
  | succ n ih =>
      cases bs with
      | nil => cases h
      | cons b bs =>
          rw [scanTail] at h
          rw [List.cons_append, scanTail]
          split_ifs at h ⊢
          · exact ih h
          · rfl

/-- A character does not end before a byte that is not ASCII. -/
theorem le_of_scanTail_incomplete (h : scanTail n low high c bs = .incomplete)
    (hlow : 0x80 ≤ low) : ∀ b ∈ bs, 0x80 ≤ b.toNat := by
  induction n generalizing low high c bs with
  | zero => cases h
  | succ n ih =>
      cases bs with
      | nil => intro b hb; cases hb
      | cons b bs =>
          rw [scanTail] at h
          split_ifs at h with hb
          intro b' hb'
          rcases List.mem_cons.1 hb' with rfl | hb'
          · exact Nat.le_trans hlow hb.1
          · exact ih h (Nat.le_refl _) b' hb'

/-- What is behind a character does not matter. -/
theorem scan_append_char (h : scan bs = .char c rest) :
    scan (bs ++ bs') = .char c (rest ++ bs') := by
  cases bs with
  | nil => cases h
  | cons b bs =>
      rw [scan] at h
      rw [List.cons_append, scan]
      split_ifs at h ⊢ <;> first | exact scanTail_append_char h | (cases h; rfl)

/-- What is behind an invalid byte does not matter. -/
theorem scan_append_invalid (h : scan bs = .invalid) : scan (bs ++ bs') = .invalid := by
  cases bs with
  | nil => cases h
  | cons b bs =>
      rw [scan] at h
      rw [List.cons_append, scan]
      split_ifs at h ⊢ <;> first | exact scanTail_append_invalid h | rfl

/-- An unfinished character has no ASCII byte. -/
theorem le_of_scan_incomplete (h : scan bs = .incomplete) : ∀ b ∈ bs, 0x80 ≤ b.toNat := by
  cases bs with
  | nil => intro b hb; cases hb
  | cons a bs =>
      have htail : 0x80 ≤ a.toNat ∧ ∀ b ∈ bs, 0x80 ≤ b.toNat := by
        rw [scan] at h
        split_ifs at h with h1 h2 h3 h4 h5 h6 h7 h8
        all_goals
          refine ⟨Nat.not_lt.1 h1, le_of_scanTail_incomplete h ?_⟩
          omega
      exact List.forall_mem_cons.2 htail

end Scan

section EncodePoint

variable {a b c d : UInt8}

/-- The value of a continuation byte. -/
def IsTail (b : UInt8) : Prop := 0x80 ≤ b.toNat ∧ b.toNat ≤ 0xBF

/-- ASCII is written as it is. -/
theorem encodePoint_one (ha : a.toNat < 0x80) : encodePoint a.toNat = some [a] := by
  rw [encodePoint, if_pos ha, toUInt8_eq rfl]

/-- Two bytes are written as they were read. -/
theorem encodePoint_two (ha : 0xC2 ≤ a.toNat) (ha' : a.toNat < 0xE0) (hb : IsTail b) :
    encodePoint ((a.toNat - 0xC0) * 64 + (b.toNat - 0x80)) = some [a, b] := by
  obtain ⟨hb, hb'⟩ := hb
  rw [encodePoint, if_neg (by omega), if_pos (by omega), toUInt8_eq (b := a) (by omega),
    toUInt8_eq (b := b) (by omega)]

/-- Three bytes are, unless they are too many for the value, or those of a surrogate. -/
theorem encodePoint_three (ha : 0xE0 ≤ a.toNat) (ha' : a.toNat < 0xF0) (hb : IsTail b)
    (hlong : a.toNat = 0xE0 → 0xA0 ≤ b.toNat) (hsurrogate : a.toNat = 0xED → b.toNat ≤ 0x9F)
    (hc : IsTail c) :
    encodePoint (((a.toNat - 0xE0) * 64 + (b.toNat - 0x80)) * 64 + (c.toNat - 0x80)) =
      some [a, b, c] := by
  obtain ⟨hb, hb'⟩ := hb
  obtain ⟨hc, hc'⟩ := hc
  rw [encodePoint, if_neg (by omega), if_neg (by omega), if_neg (by omega), if_pos (by omega),
    toUInt8_eq (b := a) (by omega), toUInt8_eq (b := b) (by omega),
    toUInt8_eq (b := c) (by omega)]

/-- Four bytes are, unless they are too many for the value, or it is too large. -/
theorem encodePoint_four (ha : 0xF0 ≤ a.toNat) (ha' : a.toNat < 0xF5) (hb : IsTail b)
    (hlong : a.toNat = 0xF0 → 0x90 ≤ b.toNat) (hlast : a.toNat = 0xF4 → b.toNat ≤ 0x8F)
    (hc : IsTail c) (hd : IsTail d) :
    encodePoint ((((a.toNat - 0xF0) * 64 + (b.toNat - 0x80)) * 64 + (c.toNat - 0x80)) * 64 +
      (d.toNat - 0x80)) = some [a, b, c, d] := by
  obtain ⟨hb, hb'⟩ := hb
  obtain ⟨hc, hc'⟩ := hc
  obtain ⟨hd, hd'⟩ := hd
  rw [encodePoint, if_neg (by omega), if_neg (by omega), if_neg (by omega), if_neg (by omega),
    if_pos (by omega), toUInt8_eq (b := a) (by omega), toUInt8_eq (b := b) (by omega),
    toUInt8_eq (b := c) (by omega), toUInt8_eq (b := d) (by omega)]

/-- A byte that is part of no character is encoded back to itself. -/
theorem encodePoint_escape (ha : 0x80 ≤ a.toNat) : encodePoint (escape a) = some [a] := by
  have hlt := a.toNat_lt
  rw [escape, encodePoint, if_neg (by omega), if_neg (by omega), if_pos (by omega),
    if_pos (by omega), toUInt8_eq (b := a) (by omega)]

/-- ASCII is never invalid. -/
theorem le_of_scan_invalid {bs : Bytes} (h : scan (a :: bs) = .invalid) : 0x80 ≤ a.toNat := by
  rw [scan] at h
  split at h
  · cases h
  · next ha => exact Nat.not_lt.1 ha

/-- What is read as a character is how the character is encoded. -/
theorem encodePoint_of_scan {v : ℕ} {bs rest : Bytes} (h : scan bs = .char v rest) :
    ∃ s, encodePoint v = some s ∧ bs = s ++ rest := by
  cases bs with
  | nil => cases h
  | cons a bs =>
      rw [scan] at h
      split at h
      · next ha =>
          cases h
          exact ⟨[a], encodePoint_one ha, rfl⟩
      split at h
      · cases h
      next hinvalid =>
      split at h
      · next ha =>
          obtain ⟨b, bs, rfl, hb, h⟩ := scanTail_succ h
          obtain ⟨rfl, rfl⟩ := Scan.char.inj h
          exact ⟨[a, b], encodePoint_two (by omega) ha hb, rfl⟩
      next htwo =>
      split at h
      · next ha =>
          obtain ⟨b, bs, rfl, hb, h⟩ := scanTail_succ h
          obtain ⟨c, bs, rfl, hc, h⟩ := scanTail_succ h
          obtain ⟨rfl, rfl⟩ := Scan.char.inj h
          refine ⟨[a, b, c], encodePoint_three (by omega) ha ?_ ?_ ?_ hc, rfl⟩
          · rw [IsTail]
            split_ifs at hb <;> omega
          · intro ha
            rw [if_pos ha] at hb
            exact hb.1
          · intro ha
            rw [if_pos ha] at hb
            exact hb.2
      next hthree =>
      split at h
      · next ha =>
          obtain ⟨b, bs, rfl, hb, h⟩ := scanTail_succ h
          obtain ⟨c, bs, rfl, hc, h⟩ := scanTail_succ h
          obtain ⟨d, bs, rfl, hd, h⟩ := scanTail_succ h
          obtain ⟨rfl, rfl⟩ := Scan.char.inj h
          refine ⟨[a, b, c, d], encodePoint_four (by omega) ha ?_ ?_ ?_ hc hd, rfl⟩
          · rw [IsTail]
            split_ifs at hb <;> omega
          · intro ha
            rw [if_pos ha] at hb
            exact hb.1
          · intro ha
            rw [if_pos ha] at hb
            exact hb.2
      · cases h

/-- A code point is written with a byte at least. -/
theorem encodePoint_ne_nil {v : ℕ} {s : Bytes} (h : encodePoint v = some s) : s ≠ [] := by
  rintro rfl
  rw [encodePoint] at h
  split_ifs at h <;> cases h

end EncodePoint

/-- A character has a byte. -/
theorem length_lt_of_scan {c : ℕ} {bs rest : Bytes} (h : scan bs = .char c rest) :
    rest.length < bs.length := by
  obtain ⟨s, hs, rfl⟩ := encodePoint_of_scan h
  rw [List.length_append]
  have := List.length_pos_iff.2 (encodePoint_ne_nil hs)
  omega

/-! ### The decoder -/

/-- `codecs.utf_8_decode(bs, "surrogateescape", final)`: what is decoded, and the bytes at the end
that are not consumed. -/
def decode (final : Bool) : Bytes → Text × Bytes
  | [] => ([], [])
  | b :: bs =>
      match _h : scan (b :: bs) with
      | .char c rest => (c :: (decode final rest).1, (decode final rest).2)
      | .invalid => (escape b :: (decode final bs).1, (decode final bs).2)
      | .incomplete =>
          if final then (escape b :: (decode final bs).1, (decode final bs).2)
          else ([], b :: bs)
termination_by bs => bs.length
decreasing_by
  · exact length_lt_of_scan _h
  · exact Nat.lt_succ_self _
  · exact Nat.lt_succ_self _

section Decode

variable {final : Bool} {b : UInt8} {bs bs' rest : Bytes} {c : ℕ}

/-- Nothing is decoded to nothing. -/
@[simp] theorem decode_nil : decode final [] = ([], []) := by rw [decode]

/-- A character is decoded, and then what is behind it. -/
theorem decode_char (h : scan bs = .char c rest) :
    decode final bs = (c :: (decode final rest).1, (decode final rest).2) := by
  cases bs with
  | nil => cases h
  | cons b bs =>
      rw [decode]
      split
      · next hscan =>
          obtain ⟨rfl, rfl⟩ := Scan.char.inj (h.symm.trans hscan)
          rfl
      · next hscan => cases h.symm.trans hscan
      · next hscan => cases h.symm.trans hscan

/-- An invalid byte is escaped. -/
theorem decode_invalid (h : scan (b :: bs) = .invalid) :
    decode final (b :: bs) =
      (escape b :: (decode final bs).1, (decode final bs).2) := by
  rw [decode]
  split
  · next hscan => cases h.symm.trans hscan
  · rfl
  · next hscan => cases h.symm.trans hscan

/-- The end of an unfinished character is awaited. -/
theorem decode_incomplete (h : scan bs = .incomplete) : decode false bs = ([], bs) := by
  cases bs with
  | nil => rw [decode_nil]
  | cons b bs =>
      rw [decode]
      split
      · next hscan => cases h.symm.trans hscan
      · next hscan => cases h.symm.trans hscan
      · rfl

/-- At the end, an unfinished character is none. -/
theorem decode_incomplete_final (h : scan (b :: bs) = .incomplete) :
    decode true (b :: bs) = (escape b :: (decode true bs).1, (decode true bs).2) := by
  rw [decode]
  split
  · next hscan => cases h.symm.trans hscan
  · next hscan => cases h.symm.trans hscan
  · rfl

/-- It does not matter where the bytes are cut: the rest of the first part is decoded together
with the second one. -/
theorem decode_append (final : Bool) (bs bs' : Bytes) :
    decode final (bs ++ bs') =
      ((decode false bs).1 ++ (decode final ((decode false bs).2 ++ bs')).1,
        (decode final ((decode false bs).2 ++ bs')).2) := by
  induction bs using decode.induct false with
  | case1 => rw [decode_nil, List.nil_append, List.nil_append]
  | case2 b bs c rest hscan ih =>
      rw [decode_char (scan_append_char hscan), decode_char hscan, ih, List.cons_append]
  | case3 b bs hscan ih =>
      have happend : scan (b :: (bs ++ bs')) = .invalid := scan_append_invalid hscan
      rw [List.cons_append, decode_invalid happend, decode_invalid hscan, ih, List.cons_append]
  | case4 b bs hscan hfinal => cases hfinal
  | case5 b bs hscan => rw [decode_incomplete hscan, List.nil_append]

/-- At the end, everything is decoded. -/
theorem decode_final (bs : Bytes) : (decode true bs).2 = [] := by
  induction bs using decode.induct true with
  | case1 => rw [decode_nil]
  | case2 b bs c rest hscan ih => rw [decode_char hscan, ih]
  | case3 b bs hscan ih => rw [decode_invalid hscan, ih]
  | case4 b bs hscan _ ih => rw [decode_incomplete_final hscan, ih]
  | case5 b bs hscan hfinal => exact absurd rfl hfinal

/-- What is left awaits the end of a character. -/
theorem le_of_mem_rest (bs : Bytes) : ∀ b ∈ (decode false bs).2, 0x80 ≤ b.toNat := by
  induction bs using decode.induct false with
  | case1 => rw [decode_nil]; intro b hb; cases hb
  | case2 b bs c rest hscan ih => rw [decode_char hscan]; exact ih
  | case3 b bs hscan ih => rw [decode_invalid hscan]; exact ih
  | case4 b bs hscan hfinal => cases hfinal
  | case5 b bs hscan => rw [decode_incomplete hscan]; exact le_of_scan_incomplete hscan

end Decode

/-! ### The encoder undoes the decoder -/

section Encode

variable {c : ℕ} {a : UInt8} {s e : Bytes} {text : Text}

/-- A code point is written in front of the others. -/
theorem encode_cons (hc : encodePoint c = some s) (htext : encode text = some e) :
    encode (c :: text) = some (s ++ e) := by
  rw [encode, hc, htext]
  rfl

/-- The first code point has been written first. -/
theorem encode_cons_eq (h : encode (c :: text) = some e) :
    ∃ s e', encodePoint c = some s ∧ encode text = some e' ∧ e = s ++ e' := by
  rw [encode] at h
  obtain ⟨s, hs, h⟩ := Option.bind_eq_some_iff.1 h
  obtain ⟨e', he', h⟩ := Option.bind_eq_some_iff.1 h
  exact ⟨s, e', hs, he', (Option.some.inj h).symm⟩

/-- **The encoder undoes the decoder**, but for what is not consumed. -/
theorem encode_decode (final : Bool) (bs : Bytes) :
    ∃ e, encode (decode final bs).1 = some e ∧ e ++ (decode final bs).2 = bs := by
  induction bs using decode.induct final with
  | case1 => exact ⟨[], by rw [decode_nil, encode], by rw [decode_nil, List.nil_append]⟩
  | case2 b bs c rest hscan ih =>
      obtain ⟨s, hs, hbs⟩ := encodePoint_of_scan hscan
      obtain ⟨e, he, hrest⟩ := ih
      rw [decode_char hscan]
      refine ⟨s ++ e, encode_cons hs he, ?_⟩
      rw [List.append_assoc, hrest, hbs]
  | case3 b bs hscan ih =>
      obtain ⟨e, he, hrest⟩ := ih
      rw [decode_invalid hscan]
      refine ⟨[b] ++ e, encode_cons (encodePoint_escape (le_of_scan_invalid hscan)) he, ?_⟩
      rw [List.append_assoc, hrest, List.singleton_append]
  | case4 b bs hscan hfinal ih =>
      obtain ⟨e, he, hrest⟩ := ih
      obtain rfl : final = true := hfinal
      have hb := le_of_scan_incomplete hscan b List.mem_cons_self
      rw [decode_incomplete_final hscan]
      refine ⟨[b] ++ e, encode_cons (encodePoint_escape hb) he, ?_⟩
      rw [List.append_assoc, hrest, List.singleton_append]
  | case5 b bs hscan hfinal =>
      obtain rfl : final = false := Bool.not_eq_true _ ▸ hfinal
      rw [decode_incomplete hscan]
      exact ⟨[], by rw [encode], rfl⟩

/-- A byte that is not ASCII. -/
theorem le_toUInt8 {n : ℕ} (h : 0x80 ≤ n) (h' : n < 256) : 0x80 ≤ n.toUInt8.toNat := by
  rw [UInt8.toNat_ofNat_of_lt' h']
  exact h

/-- A character is ASCII, or none of its bytes is. -/
theorem encodePoint_cases (h : encodePoint c = some s) :
    (∃ b : UInt8, b.toNat < 0x80 ∧ c = b.toNat ∧ s = [b]) ∨
      0x80 ≤ c ∧ ∀ b ∈ s, 0x80 ≤ b.toNat := by
  rw [encodePoint] at h
  split_ifs at h with h1 h2 h3 h4 h5 h6
  · obtain rfl := Option.some.inj h
    have hc : c.toUInt8.toNat = c := UInt8.toNat_ofNat_of_lt' (Nat.lt_trans h1 (by decide))
    exact .inl ⟨c.toUInt8, hc.symm ▸ h1, hc.symm, rfl⟩
  all_goals
    obtain rfl := Option.some.inj h
    refine .inr ⟨by omega, ?_⟩
    simp only [List.forall_mem_cons, List.not_mem_nil, false_imp_iff, implies_true, and_true]
    repeat' apply And.intro
    all_goals exact le_toUInt8 (by omega) (by omega)

/-- An ASCII character of a text is where its byte is. -/
theorem head?_encode (h : encode text = some e) (ha : a.toNat < 0x80) :
    e.head? = some a ↔ text.head? = some a.toNat := by
  cases text with
  | nil =>
      obtain rfl := Option.some.inj h
      exact iff_of_false nofun nofun
  | cons c text =>
      obtain ⟨s, e', hs, -, rfl⟩ := encode_cons_eq h
      rw [List.head?_append_of_ne_nil _ (encodePoint_ne_nil hs), List.head?_cons, Option.some_inj]
      rcases encodePoint_cases hs with ⟨b, -, rfl, rfl⟩ | ⟨hc, hs'⟩
      · rw [List.head?_cons, Option.some_inj, UInt8.toNat_inj]
      · refine iff_of_false ?_ (by omega)
        intro hhead
        have := hs' a (List.mem_of_mem_head? hhead)
        omega

/-- The same at the end. -/
theorem getLast?_encode (h : encode text = some e) (ha : a.toNat < 0x80) :
    e.getLast? = some a ↔ text.getLast? = some a.toNat := by
  induction text generalizing e with
  | nil =>
      obtain rfl := Option.some.inj h
      exact iff_of_false nofun nofun
  | cons c text ih =>
      obtain ⟨s, e', hs, he', rfl⟩ := encode_cons_eq h
      cases text with
      | nil =>
          obtain rfl := Option.some.inj he'
          rw [List.append_nil, List.getLast?_singleton, Option.some_inj]
          rcases encodePoint_cases hs with ⟨b, -, rfl, rfl⟩ | ⟨hc, hs'⟩
          · rw [List.getLast?_singleton, Option.some_inj, UInt8.toNat_inj]
          · refine iff_of_false ?_ (by omega)
            intro hlast
            have := hs' a (List.mem_of_mem_getLast? hlast)
            omega
      | cons c' text =>
          have hne : e' ≠ [] := by
            obtain ⟨s', e'', hs', -, rfl⟩ := encode_cons_eq he'
            exact List.append_ne_nil_of_left_ne_nil (encodePoint_ne_nil hs') _
          rw [List.getLast?_append_of_ne_nil _ hne, List.getLast?_cons_cons]
          exact ih he'

/-- At the end, only nothing is decoded to nothing. -/
theorem decode_final_eq_nil {bs : Bytes} : (decode true bs).1 = [] ↔ bs = [] := by
  constructor
  · intro h
    obtain ⟨e, he, hbs⟩ := encode_decode true bs
    rw [h] at he
    obtain rfl := Option.some.inj he
    rw [decode_final] at hbs
    exact hbs.symm
  · rintro rfl
    rw [decode_nil]

/-- ASCII at the front of the text is ASCII at the front of the bytes. -/
theorem head?_decode (bs : Bytes) (ha : a.toNat < 0x80) :
    (decode true bs).1.head? = some a.toNat ↔ bs.head? = some a := by
  obtain ⟨e, he, hbs⟩ := encode_decode true bs
  rw [decode_final, List.append_nil] at hbs
  rw [← head?_encode he ha, hbs]

/-- ASCII at the end of the text is ASCII at the end of the bytes, if they are all decoded. -/
theorem getLast?_decode {bs : Bytes} (ha : a.toNat < 0x80) (hrest : (decode false bs).2 = []) :
    (decode false bs).1.getLast? = some a.toNat ↔ bs.getLast? = some a := by
  obtain ⟨e, he, hbs⟩ := encode_decode false bs
  rw [hrest, List.append_nil] at hbs
  rw [← getLast?_encode he ha, hbs]

end Encode

end Utf8
