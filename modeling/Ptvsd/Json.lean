import Mathlib.Data.Rat.Defs

/-!
# JSON Values and Property Validators

JSON values as Python's decoder yields them, the exceptions that the message layer
raises, and the property validators of `ptvsd.common.json` that the message parsers use.

A validator is invoked with the value of a property, or with `()` if the property is
missing; here a property is an `Option Json`, with `none` for `()`. A validator returns a
property or raises. The validators are written to raise `TypeError` or `ValueError`
only, but the type of exceptions does not promise that.

## Main results

* `ofType_of_isinstance`, `ofType_of_not_isinstance`: `of_type` lets exactly the instances of its
  type pass.
* `enum_eq_ok_iff`, `enum_error`: so does a required `enum` with its values.
-/

namespace Ptvsd

/-- A JSON value as decoded by Python. Objects are association lists in order of
insertion; their keys are distinct, as those of any dict. -/
inductive Json where
  | null
  | bool (b : Bool)
  | int (n : ℤ)
  | float (x : ℚ)
  | str (s : String)
  | list (items : List Json)
  | dict (items : List (String × Json))

/-- The value of a property, or `none` for `()` if it is missing. -/
abbrev Property := Option Json

/-- The identity of a `Message` object. -/
abbrev MessageId := ℕ

/-- The Python exceptions raised by the message layer, with their texts. -/
inductive PyError where
  | typeError (text : String)
  | valueError (text : String)
  | attributeError (text : String)
  | assertionError (text : String)
  /-- `MessageHandlingError` with its reason and cause. -/
  | messageHandling (reason : String) (cause : Option MessageId)
  /-- `InvalidMessageError` with its reason and cause. -/
  | invalidMessage (reason : String) (cause : Option MessageId)
  deriving DecidableEq

/-! ### Strings in JSON -/

/-- `\uXXXX`, for a number below 65536. -/
def unicodeEscape (n : ℕ) : String :=
  let digits := Nat.toDigits 16 n
  "\\u" ++ String.ofList (List.replicate (4 - digits.length) '0' ++ digits)

/-- A character of a string, as `json.JSONEncoder` writes it: only ASCII is left as it is, and
a character outside of the basic plane becomes two surrogates. -/
def escapeChar (c : Char) : String :=
  if c = '"' then "\\\""
  else if c = '\\' then "\\\\"
  else if c = '\n' then "\\n"
  else if c = '\r' then "\\r"
  else if c = '\t' then "\\t"
  else if c.toNat = 8 then "\\b"
  else if c.toNat = 12 then "\\f"
  else if 32 ≤ c.toNat ∧ c.toNat < 127 then String.ofList [c]
  else if c.toNat < 0x10000 then unicodeEscape c.toNat
  else
    unicodeEscape (0xD800 + (c.toNat - 0x10000) / 1024) ++
      unicodeEscape (0xDC00 + (c.toNat - 0x10000) % 1024)

/-- `"{0!j}"` of a string. -/
def jsonString (s : String) : String :=
  "\"" ++ String.join (s.toList.map escapeChar) ++ "\""

/-- A JSON property validator. -/
abbrev Validator := Property → Except PyError Property

/-! ### Types -/

/-- The Python classes that properties are required to be instances of. -/
inductive PyType where
  | int
  | unicode
  | bool
  | float
  | list
  | dict
  deriving DecidableEq

/-- `t.__name__`. -/
def PyType.name : PyType → String
  | .int => "int"
  | .unicode => "str"
  | .bool => "bool"
  | .float => "float"
  | .list => "list"
  | .dict => "dict"

/-- `isinstance(value, t)`: `bool` is a subclass of `int`. -/
def Json.isinstance : Json → PyType → Bool
  | .bool _, .bool => true
  | .bool _, .int => true
  | .int _, .int => true
  | .float _, .float => true
  | .str _, .unicode => true
  | .list _, .list => true
  | .dict _, .dict => true
  | _, _ => false

/-- `isinstance` of a property; `()` is an instance of none of these classes. -/
def Property.isinstance : Property → PyType → Bool
  | some value, t => value.isinstance t
  | none, _ => false

/-! ### Validators -/

/-- `json.of_type(*classinfo, optional=optional)`. -/
def ofType (classinfo : List PyType) (optional : Bool) : Validator := fun value =>
  if (optional && value.isNone) || classinfo.any (Property.isinstance value) then
    .ok value
  else if !optional && value.isNone then
    .error (.valueError "must be specified")
  else
    .error (.typeError ("must be " ++ " or ".intercalate (classinfo.map PyType.name)))

/-- `repr` of a list of strings that need no escapes. -/
def reprStrings (values : List String) : String :=
  "[" ++ ", ".intercalate (values.map fun s => "'" ++ s ++ "'") ++ "]"

/-- `json.enum(*values, optional=optional)` for an enumeration of strings, as all of them
are: the missing value stands for the first one if `optional`. -/
def enum (values : List String) (optional : Bool) : Validator
  | none =>
      if optional then .ok (values.head?.map Json.str)
      else .error (.valueError ("must be one of: " ++ reprStrings values))
  | some (.str s) =>
      if s ∈ values then .ok (some (.str s))
      else .error (.valueError ("must be one of: " ++ reprStrings values))
  | some _ => .error (.valueError ("must be one of: " ++ reprStrings values))

/-! ### What the validators accept -/

/-- A property of one of the required types passes unchanged. -/
theorem ofType_of_isinstance {value : Property} {t : PyType}
    (h : Property.isinstance value t = true) : ofType [t] false value = .ok value := by
  simp [ofType, h]

/-- A property of another type, or none at all, raises `TypeError` or `ValueError`. -/
theorem ofType_of_not_isinstance {value : Property} {t : PyType}
    (h : Property.isinstance value t = false) :
    (∃ text, ofType [t] false value = .error (.typeError text)) ∨
      ∃ text, ofType [t] false value = .error (.valueError text) := by
  cases value with
  | none => exact Or.inr ⟨"must be specified", by simp [ofType, Property.isinstance]⟩
  | some value => exact Or.inl ⟨"must be " ++ t.name, by simp [ofType, h]⟩

/-- A required enumeration lets exactly its own values pass. -/
theorem enum_eq_ok_iff {values : List String} {value result : Property} :
    enum values false value = .ok result ↔
      ∃ s ∈ values, value = some (.str s) ∧ result = some (.str s) := by
  match value with
  | none => simp [enum]
  | some (.str s) =>
      by_cases hs : s ∈ values
      · simp [enum, hs, eq_comm]
      · simp only [enum, if_neg hs, reduceCtorEq, false_iff]
        rintro ⟨t, ht, heq, -⟩
        simp only [Option.some.injEq, Json.str.injEq] at heq
        exact hs (heq ▸ ht)
  | some .null | some (.bool _) | some (.int _) | some (.float _) | some (.list _)
  | some (.dict _) => simp [enum]

/-- Everything else raises `ValueError`. -/
theorem enum_error {values : List String} {value : Property}
    (h : ∀ s ∈ values, value ≠ some (.str s)) :
    enum values false value =
      .error (.valueError ("must be one of: " ++ reprStrings values)) := by
  match value with
  | some (.str s) =>
      have hs : s ∉ values := fun hs => h s hs rfl
      simp [enum, hs]
  | none | some .null | some (.bool _) | some (.int _) | some (.float _) | some (.list _)
  | some (.dict _) => rfl

end Ptvsd
