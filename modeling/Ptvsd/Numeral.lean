import Mathlib.Data.List.DropRight

/-!
# Decimal Numerals in Byte Strings

Text protocols write a length as decimal digits and read it back with the integer parser
of the host language. This module has both directions on lists of bytes: `decimal n`, the
ASCII digits of `n`, and `parseInt`, the parser of Python's `int(b)` for a byte string in
base ten — white space around the numeral, one optional sign, and single underscores
between digits are accepted, anything else is not.

## Main results

* `parseInt_decimal`: the parser reads back what the writer wrote.
* `parseInt_space_decimal`: also behind a space, as in `Name: 12`.
-/

namespace Numeral

/-- ASCII white space, as stripped by `int()`. -/
def isSpace (b : UInt8) : Bool :=
  b == 32 || (9 ≤ b && b ≤ 13)

/-- An ASCII decimal digit. -/
def isDigit (b : UInt8) : Bool :=
  48 ≤ b && b ≤ 57

/-- The digits after the first one: `acc` is the value read so far. -/
def parseDigits (acc : ℕ) : List UInt8 → Option ℕ
  | [] => some acc
  | b :: bs =>
      if isDigit b then
        parseDigits (10 * acc + (b.toNat - 48)) bs
      else if b = 95 then
        match bs with
        | [] => none
        | c :: cs => if isDigit c then parseDigits (10 * acc + (c.toNat - 48)) cs else none
      else
        none

/-- An unsigned numeral: it begins with a digit. -/
def parseNat : List UInt8 → Option ℕ
  | [] => none
  | b :: bs => if isDigit b then parseDigits (b.toNat - 48) bs else none

/-- Python's `int(b)` in base ten, with `none` for `ValueError`. -/
def parseInt (bs : List UInt8) : Option ℤ :=
  match (bs.dropWhile isSpace).rdropWhile isSpace with
  | 43 :: ds => (parseNat ds).map fun n => (n : ℤ)
  | 45 :: ds => (parseNat ds).map fun n => -(n : ℤ)
  | ds => (parseNat ds).map fun n => (n : ℤ)

/-- The decimal digits of `n` in ASCII, as `str(n).encode("ascii")`. -/
def decimal (n : ℕ) : List UInt8 :=
  (Nat.toDigits 10 n).map fun c => c.toNat.toUInt8

/-! ### Reading back -/

/-- The byte of a decimal digit character. -/
theorem toUInt8_of_isDigit {c : Char} (h : c.isDigit = true) :
    isDigit c.toNat.toUInt8 = true ∧ c.toNat.toUInt8.toNat = c.toNat := by
  have hc : 48 ≤ c.toNat ∧ c.toNat ≤ 57 := by
    simpa [Char.isDigit, UInt32.le_iff_toNat_le] using h
  have hmod : c.toNat.toUInt8.toNat = c.toNat := by
    simpa using Nat.mod_eq_of_lt (by omega : c.toNat < 256)
  refine ⟨?_, hmod⟩
  simp only [isDigit, Bool.and_eq_true, decide_eq_true_eq, UInt8.le_iff_toNat_le, hmod]
  exact hc

/-- A digit byte is added to the value read so far. -/
theorem parseDigits_cons {b : UInt8} (h : isDigit b = true) (acc : ℕ) (bs : List UInt8) :
    parseDigits acc (b :: bs) = parseDigits (10 * acc + (b.toNat - 48)) bs := by
  rw [parseDigits.eq_def]
  simp [h]

/-- Digit bytes are read as the number they denote. -/
theorem parseDigits_map {cs : List Char} (h : ∀ c ∈ cs, c.isDigit = true) (acc : ℕ) :
    parseDigits acc (cs.map fun c => c.toNat.toUInt8) =
      some (Nat.ofDigitChars 10 cs acc) := by
  induction cs generalizing acc with
  | nil => simp [parseDigits]
  | cons c cs ih =>
      obtain ⟨hdigit, hval⟩ := toUInt8_of_isDigit (h c List.mem_cons_self)
      have htail := ih (fun d hd => h d (List.mem_cons_of_mem c hd))
      rw [List.map_cons, parseDigits_cons hdigit, hval, htail, Nat.ofDigitChars_cons]
      rfl

/-- Every byte of `decimal n` is a digit. -/
theorem isDigit_of_mem_decimal {n : ℕ} {b : UInt8} (h : b ∈ decimal n) :
    isDigit b = true := by
  obtain ⟨c, hc, rfl⟩ := List.mem_map.mp h
  exact (toUInt8_of_isDigit (Nat.isDigit_of_mem_toDigits (by decide) (by decide) hc)).1

theorem decimal_ne_nil (n : ℕ) : decimal n ≠ [] := by
  simp [decimal]

/-- The unsigned parser reads back a decimal numeral. -/
theorem parseNat_decimal (n : ℕ) : parseNat (decimal n) = some n := by
  have hall : ∀ c ∈ Nat.toDigits 10 n, c.isDigit = true := fun c hc =>
    Nat.isDigit_of_mem_toDigits (by decide) (by decide) hc
  have hval : Nat.ofDigitChars 10 (Nat.toDigits 10 n) 0 = n := Nat.ofDigitChars_ten_toDigits
  rw [decimal]
  cases hds : Nat.toDigits 10 n with
  | nil => exact absurd hds Nat.toDigits_ne_nil
  | cons c cs =>
      rw [hds] at hall hval
      obtain ⟨hdigit, hc⟩ := toUInt8_of_isDigit (hall c List.mem_cons_self)
      rw [Nat.ofDigitChars_cons] at hval
      rw [List.map_cons, parseNat, if_pos hdigit, hc,
        parseDigits_map fun d hd => hall d (List.mem_cons_of_mem c hd)]
      simpa using hval

/-- A digit is neither white space nor a sign. -/
theorem not_space_of_isDigit {b : UInt8} (h : isDigit b = true) :
    isSpace b = false ∧ b ≠ 43 ∧ b ≠ 45 := by
  simp only [isDigit, Bool.and_eq_true, decide_eq_true_eq, UInt8.le_iff_toNat_le] at h
  have h48 : (48 : UInt8).toNat = 48 := rfl
  have h57 : (57 : UInt8).toNat = 57 := rfl
  refine ⟨?_, ?_, ?_⟩
  · have h32 : (32 : UInt8).toNat = 32 := rfl
    have h13 : (13 : UInt8).toNat = 13 := rfl
    simp only [isSpace, Bool.or_eq_false_iff, beq_eq_false_iff_ne, Bool.and_eq_false_iff,
      decide_eq_false_iff_not, UInt8.le_iff_toNat_le]
    refine ⟨?_, Or.inr (by omega)⟩
    rintro rfl
    omega
  · rintro rfl
    have : (43 : UInt8).toNat = 43 := rfl
    omega
  · rintro rfl
    have : (45 : UInt8).toNat = 45 := rfl
    omega

/-- Stripping white space leaves a decimal numeral alone. -/
theorem strip_decimal (n : ℕ) :
    ((decimal n).dropWhile isSpace).rdropWhile isSpace = decimal n := by
  have hfront : (decimal n).dropWhile isSpace = decimal n := by
    cases hd : decimal n with
    | nil => rfl
    | cons b bs =>
        have hb : isDigit b = true := isDigit_of_mem_decimal (n := n) (by simp [hd])
        simp [(not_space_of_isDigit hb).1]
  rw [hfront]
  refine List.rdropWhile_eq_self_iff.mpr fun hne => ?_
  have hlast := isDigit_of_mem_decimal (List.getLast_mem hne)
  simp [(not_space_of_isDigit hlast).1]

/-- **The parser reads back what the writer wrote.** -/
theorem parseInt_decimal (n : ℕ) : parseInt (decimal n) = some (n : ℤ) := by
  have hnat := parseNat_decimal n
  rw [parseInt, strip_decimal]
  cases hd : decimal n with
  | nil => exact absurd hd (decimal_ne_nil n)
  | cons b bs =>
      have hb : isDigit b = true := isDigit_of_mem_decimal (n := n) (by simp [hd])
      obtain ⟨-, hplus, hminus⟩ := not_space_of_isDigit hb
      rw [hd] at hnat
      split
      · exact absurd (by simp_all) hplus
      · exact absurd (by simp_all) hminus
      · rw [hnat]
        rfl

/-- So it does behind a minus sign. -/
theorem parseInt_neg_decimal (n : ℕ) : parseInt (45 :: decimal n) = some (-(n : ℤ)) := by
  have hstrip : ((45 :: decimal n).dropWhile isSpace).rdropWhile isSpace = 45 :: decimal n := by
    rw [List.dropWhile_cons_of_neg (by decide)]
    refine List.rdropWhile_eq_self_iff.mpr fun hne => ?_
    rw [List.getLast_cons (decimal_ne_nil n)]
    have hlast := isDigit_of_mem_decimal (List.getLast_mem (decimal_ne_nil n))
    simp [(not_space_of_isDigit hlast).1]
  rw [parseInt, hstrip]
  simp [parseNat_decimal]

/-- A space in front of the numeral makes no difference. -/
theorem parseInt_space_decimal (n : ℕ) : parseInt (32 :: decimal n) = some (n : ℤ) := by
  rw [← parseInt_decimal n, parseInt, parseInt]
  rfl

end Numeral
