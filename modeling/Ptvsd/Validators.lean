import Mathlib.Data.Finset.Sort
import Mathlib.Data.List.Forall2
import Ptvsd.Arguments

/-!
# Composed Validators

The combinators of `ptvsd.common.json` in full: `of_type`, whose arguments may be tuples of
types, as for `isinstance()`, `default`, `enum`, `array` with all forms of `size`, and `object`.
`Ptvsd.Arguments` has the forms that the handlers of the IDE use.

What a validator raises is looked at in two ways: `TypeError` and `ValueError` are what a
validator is meant to raise, and what a `MessageDict` turns into `InvalidMessageError`; anything
else leaves the handler, and ends the process.

## Main results

* `array_iff`: `array` meets its description, **unless `size` is a tuple of two**: the maximal
  length is taken for another minimal length.
* `lawful_iff`: a composed validator raises nothing but `TypeError` and `ValueError`, these become
  `InvalidMessageError`, and the process survives, **unless a value is rejected by an `of_type` that
  was given a tuple of types**, where formatting the message fails, **or a value is rejected in a
  handler that is wrapped**, or whose request cannot be responded to.
-/

namespace Ptvsd

/-! ### `of_type` -/

/-- A Python class. -/
structure PyClass where
  /-- `__name__`. -/
  name : String
  /-- `isinstance(value, cls)`. -/
  isinstance : Property → Bool

/-- One of the classes that are named here. -/
def PyType.toClass (t : PyType) : PyClass := ⟨t.name, fun value => value.isinstance t⟩

/-- The second argument of `isinstance()`: a class, or a tuple of such arguments. -/
inductive ClassInfo where
  | cls (c : PyClass)
  | tuple (members : List ClassInfo)

namespace ClassInfo

mutual

/-- `isinstance(value, classinfo)`. -/
def isinstance (value : Property) : ClassInfo → Bool
  | .cls c => c.isinstance value
  | .tuple members => anyInstance value members

/-- `isinstance(value, classinfo)` for a tuple. -/
def anyInstance (value : Property) : List ClassInfo → Bool
  | [] => false
  | c :: cs => c.isinstance value || anyInstance value cs

end

/-- `t.__name__`, which a tuple does not have. -/
def name? : ClassInfo → Option String
  | .cls c => some c.name
  | .tuple _ => none

end ClassInfo

/-- `json.of_type(*classinfo, optional=optional)`. -/
def Validator.ofClassInfo (classinfo : List ClassInfo) (optional : Bool) : Validator :=
  fun value =>
    if (optional && value.isNone) || ClassInfo.anyInstance value classinfo then .ok value
    else if !optional && value.isNone then .error (.valueError "must be specified")
    else
      match classinfo.mapM ClassInfo.name? with
      | some names => .error (.typeError ("must be " ++ " or ".intercalate names))
      | none => .error (.attributeError "'tuple' object has no attribute '__name__'")

/-! ### `enum` -/

/-- A number; `True` is 1. -/
def Json.number? : Json → Option ℚ
  | .bool b => some (if b then 1 else 0)
  | .int n => some n
  | .float x => some x
  | _ => none

mutual

/-- `x == y`. -/
def Json.eq : Json → Json → Bool
  | .null, .null => true
  | .str s, .str t => s = t
  | .list xs, .list ys => Json.eqItems xs ys
  | .dict xs, .dict ys => xs.length = ys.length && Json.eqEntries xs ys
  | x, y => match x.number?, y.number? with
      | some m, some n => m = n
      | _, _ => false

/-- `xs == ys` for lists. -/
def Json.eqItems : List Json → List Json → Bool
  | [], [] => true
  | x :: xs, y :: ys => x.eq y && Json.eqItems xs ys
  | _, _ => false

/-- All the entries are in the other dict. -/
def Json.eqEntries : List (String × Json) → List (String × Json) → Bool
  | [], _ => true
  | (key, x) :: xs, ys => (match ys.lookup key with
      | some y => x.eq y
      | none => false) && Json.eqEntries xs ys

end

/-- `json.enum(*values, optional=optional)`, for values of all types; `repr` is Python's. -/
def Validator.enumOf (repr : Json → String) (values : List Json) (optional : Bool) :
    Validator := fun value =>
  let invalid : Except PyError Property :=
    .error (.valueError ("must be one of: [" ++ ", ".intercalate (values.map repr) ++ "]"))
  match value with
  | none => if optional then .ok values.head? else invalid
  | some value => if values.any value.eq then .ok (some value) else invalid

/-! ### `array` -/

/-- The argument `size` of `json.array`. -/
inductive Size where
  /-- `None`. -/
  | any
  /-- An int. -/
  | exactly (n : ℤ)
  /-- A set. -/
  | oneOf (ns : Finset ℤ)
  /-- A tuple of one int. -/
  | atLeast (min : ℤ)
  /-- A tuple of two ints. -/
  | between (min max : ℤ)

/-- `validate_size`: the text of the error, or `none` for `True`. -/
def Size.validate (length : ℕ) : Size → Option String
  | .any => none
  | .exactly n => if length = n then none else some ("must have " ++ toString n ++ " elements")
  | .oneOf ns =>
      if (length : ℤ) ∈ ns then none
      else some ("must have " ++ " or ".intercalate (ns.sort.map toString) ++ " elements")
  | .atLeast min =>
      if length < min then some ("must have at least " ++ toString min ++ " elements") else none
  | .between min max =>
      if length < min then some ("must have at least " ++ toString min ++ " elements")
      -- sic: the comparison is the one for a minimal length
      else if length < max then some ("must have at most " ++ toString max ++ " elements")
      else none

/-- The list that `json.array` takes a value for. -/
def asItems (vectorize : Bool) : Property → Option (List Json)
  | none => some []
  | some (.list items) => some items
  | some (.dict _) => none
  | some value => if vectorize then some [value] else none

/-- `json.array(validate_item, vectorize=vectorize, size=size)`. -/
def Validator.arrayOf (validateItem : Validator) (vectorize : Bool) (size : Size) : Validator :=
  fun value =>
    match asItems vectorize value with
    | none => .error (.typeError "must be list")
    | some items =>
        match size.validate items.length with
        | some err => .error (.valueError err)
        | none => do
            let items ← Validator.items validateItem 0 items
            return some (.list items)

/-- `json.array` in the forms of `Ptvsd.Arguments`. -/
theorem Validator.array_eq (validateItem : Validator) (vectorize : Bool) (minLen : ℕ) :
    Validator.array validateItem vectorize minLen =
      Validator.arrayOf validateItem vectorize (.atLeast minLen) := by
  funext value
  have hsize : ∀ items : List Json,
      (if items.length < minLen then
        .error (.valueError ("must have at least " ++ toString minLen ++ " elements"))
      else do
        let items ← Validator.items validateItem 0 items
        return some (.list items) : Except PyError Property) =
      match (Size.atLeast minLen).validate items.length with
      | some err => .error (.valueError err)
      | none => do
          let items ← Validator.items validateItem 0 items
          return some (.list items) := by
    intro items
    by_cases hlen : items.length < minLen
    · rw [if_pos hlen, Size.validate, if_pos (Int.ofNat_lt.mpr hlen)]
      rfl
    · rw [if_neg hlen, Size.validate, if_neg (mt Int.ofNat_lt.mp hlen)]
  match value with
  | none => exact hsize []
  | some (.list items) => exact hsize items
  | some (.dict items) => rfl
  | some .null | some (.bool _) | some (.int _) | some (.float _) | some (.str _) =>
      cases vectorize with
      | true => exact hsize [_]
      | false => rfl

/-! ### `object` -/

/-- The loop of `json.object` over the entries. -/
def Validator.entries (validateValue : Validator) :
    List (String × Json) → Except PyError (List (String × Json))
  | [] => .ok []
  | (key, value) :: rest =>
      match validateValue (some value) with
      | .ok value' => do
          let rest ← entries validateValue rest
          return (key, value'.getD .null) :: rest
      | .error (.typeError err) => .error (.typeError ("[" ++ jsonString key ++ "] " ++ err))
      | .error (.valueError err) => .error (.valueError ("[" ++ jsonString key ++ "] " ++ err))
      | .error e => .error e

/-- `json.object(validate_value)`. -/
def Validator.object (validateValue : Validator) : Validator
  | none => .ok (some (.dict []))
  | some (.dict items) => do
      let items ← Validator.entries validateValue items
      return some (.dict items)
  | some _ => .error (.typeError "must be dict")

/-! ### Arrays of all sizes -/

/-- The lengths that a size stands for. -/
def Size.Allows (n : ℕ) : Size → Prop
  | .any => True
  | .exactly m => n = m
  | .oneOf ns => (n : ℤ) ∈ ns
  | .atLeast min => min ≤ n
  | .between min max => min ≤ n ∧ n ≤ max

namespace Validator

variable {validateItem : Validator} {vectorize : Bool} {size : Size} {value result : Property}
  {items : List Json}

/-- `validate_item(item)`, as an item of the list. -/
def item (validateItem : Validator) (x : Json) : Except PyError Json :=
  (validateItem (some x)).map fun y => y.getD .null

/-- The items are all valid, and these are what the validator makes of them. -/
def Validates (validateItem : Validator) (items items' : List Json) : Prop :=
  List.Forall₂ (fun x y => validateItem.item x = .ok y) items items'

/-- The loop succeeds exactly when it does on every item, and yields what that yields. -/
theorem items_eq_ok_iff {items items' : List Json} {i : ℕ} :
    Validator.items validateItem i items = .ok items' ↔ validateItem.Validates items items' := by
  induction items generalizing i items' with
  | nil => simp [Validator.items, Validates, eq_comm]
  | cons x rest ih =>
      rw [Validator.items, Validates, List.forall₂_cons_left_iff]
      change _ ↔ ∃ y ys, validateItem.item x = .ok y ∧ validateItem.Validates rest ys ∧
        items' = y :: ys
      cases hx : validateItem (some x) with
      | ok y =>
          have hitem : validateItem.item x = .ok (y.getD .null) := by simp [item, hx, Except.map]
          cases hrest : Validator.items validateItem (i + 1) rest with
          | ok rest' =>
              have hiff : ∀ ys, validateItem.Validates rest ys ↔ rest' = ys := by
                intro ys
                rw [← ih (i := i + 1), hrest, Except.ok.injEq]
              simp [hitem, hiff, bind, Except.bind, pure, Except.pure, eq_comm]
          | error e =>
              have hnot : ∀ rest', ¬ validateItem.Validates rest rest' := by
                intro rest' h
                simp [ih.mpr h] at hrest
              simp [hnot, bind, Except.bind]
      | error e => cases e <;> simp [item, hx, Except.map]

/-- Items that are all valid are replaced with something. -/
theorem exists_validates (h : ∀ x ∈ items, ∃ y, validateItem.item x = .ok y) :
    ∃ items', validateItem.Validates items items' := by
  induction items with
  | nil => exact ⟨[], .nil⟩
  | cons x rest ih =>
      obtain ⟨y, hy⟩ := h x List.mem_cons_self
      obtain ⟨rest', hrest⟩ := ih fun z hz => h z (List.mem_cons_of_mem x hz)
      exact ⟨y :: rest', .cons hy hrest⟩

/-- Items that are replaced with something are all valid. -/
theorem Validates.valid {items' : List Json} (h : validateItem.Validates items items') :
    ∀ x ∈ items, ∃ y, validateItem.item x = .ok y := by
  induction h with
  | nil => simp
  | cons hy _ ih => exact List.forall_mem_cons.mpr ⟨⟨_, hy⟩, ih⟩

/-- What an array of valid items is, and what becomes of it. -/
def IsArray (validateItem : Validator) (vectorize : Bool) (size : Size)
    (value result : Property) : Prop :=
  ∃ items items', asItems vectorize value = some items ∧ size.Allows items.length ∧
    validateItem.Validates items items' ∧ result = some (.list items')

/-- The validator succeeds where its check of the length does. -/
theorem arrayOf_eq_ok_iff :
    Validator.arrayOf validateItem vectorize size value = .ok result ↔
      ∃ items items', asItems vectorize value = some items ∧
        size.validate items.length = none ∧
        validateItem.Validates items items' ∧ result = some (.list items') := by
  rw [arrayOf]
  cases hvalue : asItems vectorize value with
  | none => simp
  | some items =>
      cases hsize : size.validate items.length with
      | some err => simp [hsize]
      | none =>
          cases hitems : Validator.items validateItem 0 items with
          | ok items' =>
              have hiff : ∀ ys, validateItem.Validates items ys ↔ items' = ys := by
                intro ys
                rw [← items_eq_ok_iff (i := 0), hitems, Except.ok.injEq]
              simp [hsize, hiff, hitems, bind, Except.bind, pure, Except.pure, eq_comm]
          | error e =>
              have hnot : ∀ ys, ¬ validateItem.Validates items ys := by
                intro ys h
                simp [items_eq_ok_iff.mpr h] at hitems
              simp [hsize, hnot, hitems, bind, Except.bind]

/-- The check of the length is right, except for a tuple of two. -/
theorem validate_eq_none_iff {n : ℕ} (hsize : ∀ min max, size ≠ .between min max) :
    size.validate n = none ↔ size.Allows n := by
  cases size with
  | any => simp [Size.validate, Size.Allows]
  | exactly m => simp [Size.validate, Size.Allows]
  | oneOf ns => simp [Size.validate, Size.Allows]
  | atLeast min => simp [Size.validate, Size.Allows]
  | between min max => exact absurd rfl (hsize min max)

/-- With a tuple of two, both are minimal lengths. -/
theorem validate_between {n : ℕ} {min max : ℤ} :
    (Size.between min max).validate n = none ↔ min ≤ n ∧ max ≤ n := by
  simp only [Size.validate]
  split_ifs with hmin hmax
  · simp [hmin]
  · simp [hmax]
  · simp only [true_iff]
    omega

/-- **An array is validated as described**, unless `size` is a tuple of two: then it is if the
list is too short, or as long as it may be at most, or one of its items is not valid. -/
theorem array_iff (validateItem : Validator) (vectorize : Bool) (size : Size)
    (value : Property) :
    (∀ result, Validator.arrayOf validateItem vectorize size value = .ok result ↔
      IsArray validateItem vectorize size value result) ↔
    ∀ min max items, size = .between min max → asItems vectorize value = some items →
      (∀ x ∈ items, ∃ y, validateItem.item x = .ok y) →
      (items.length : ℤ) < min ∨ (items.length : ℤ) = max := by
  constructor
  · rintro hiff min max items rfl hvalue hitems
    obtain ⟨items', hitems'⟩ := exists_validates hitems
    have hlength : (Size.between min max).validate items.length = none ↔
        (Size.between min max).Allows items.length := by
      constructor
      · intro hlen
        obtain ⟨items₂, -, hvalue₂, hallows, -⟩ :=
          (hiff _).mp (arrayOf_eq_ok_iff.mpr ⟨items, items', hvalue, hlen, hitems', rfl⟩)
        obtain rfl : items = items₂ := Option.some.inj (hvalue.symm.trans hvalue₂)
        exact hallows
      · intro hallows
        obtain ⟨items₂, -, hvalue₂, hlen, -⟩ :=
          arrayOf_eq_ok_iff.mp ((hiff _).mpr ⟨items, items', hvalue, hallows, hitems', rfl⟩)
        obtain rfl : items = items₂ := Option.some.inj (hvalue.symm.trans hvalue₂)
        exact hlen
    rw [validate_between, Size.Allows] at hlength
    omega
  · intro hcondition result
    have hlength : ∀ items items', asItems vectorize value = some items →
        validateItem.Validates items items' →
        (size.validate items.length = none ↔ size.Allows items.length) := by
      intro items items' hvalue hitems
      cases size with
      | between min max =>
          have hcase := hcondition min max items rfl hvalue hitems.valid
          rw [validate_between, Size.Allows]
          omega
      | _ => exact validate_eq_none_iff (by simp)
    rw [arrayOf_eq_ok_iff, IsArray]
    constructor
    · rintro ⟨items, items', hvalue, hlen, hitems, rfl⟩
      exact ⟨items, items', hvalue, (hlength _ _ hvalue hitems).mp hlen, hitems, rfl⟩
    · rintro ⟨items, items', hvalue, hallows, hitems, rfl⟩
      exact ⟨items, items', hvalue, (hlength _ _ hvalue hitems).mpr hallows, hitems, rfl⟩

/-- **One name is too few** where there may be one or two. -/
theorem array_one_of_two :
    ¬ ∀ (validateItem : Validator) (vectorize : Bool) (size : Size) (value result : Property),
      Validator.arrayOf validateItem vectorize size value = .ok result ↔
        IsArray validateItem vectorize size value result := by
  intro h
  have hcode : Validator.arrayOf (ofType [.unicode] false) false (.between 1 2)
      (some (.list [.str "a"])) =
        .error (.valueError "must have at most 2 elements") := rfl
  have hspec : IsArray (ofType [.unicode] false) false (.between 1 2)
      (some (.list [.str "a"])) (some (.list [.str "a"])) :=
    ⟨[.str "a"], [.str "a"], rfl, by simp [Size.Allows], .cons rfl .nil, rfl⟩
  rw [← h, hcode] at hspec
  simp at hspec

end Validator

/-! ### What composed validators raise -/

/-- A validator, composed of those of `ptvsd.common.json`. A type, or a tuple of them, in the
place of a validator stands for `of_type` of it. -/
inductive Validation where
  /-- `False`. -/
  | any
  | ofType (classinfo : List ClassInfo) (optional : Bool)
  | default (value : Json)
  | enum (values : List Json) (optional : Bool)
  | array (validateItem : Validation) (vectorize : Bool) (size : Size)
  | object (validateValue : Validation)

/-- The validator itself; `repr` is Python's. -/
def Validation.validator (repr : Json → String) : Validation → Validator
  | .any => .ok
  | .ofType classinfo optional => .ofClassInfo classinfo optional
  | .default value => .default value
  | .enum values optional => .enumOf repr values optional
  | .array validateItem vectorize size =>
      .arrayOf (validateItem.validator repr) vectorize size
  | .object validateValue => .object (validateValue.validator repr)

/-- Nothing is raised, or `TypeError`, or `ValueError`. -/
def Lawful {α : Type} (result : Except PyError α) : Prop :=
  ∀ e, result = .error e → (∃ t, e = .typeError t) ∨ ∃ t, e = .valueError t

/-- Something is true of the values up to the first one that is not accepted. -/
def UpToRejected (accepts p : Json → Prop) : List Json → Prop
  | [] => True
  | x :: xs => p x ∧ (accepts x → UpToRejected accepts p xs)

/-- The values that a validator is for. -/
def Validation.Accepts : Validation → Property → Prop
  | .any, _ => True
  | .ofType classinfo optional, value =>
      optional = true ∧ value = none ∨ ClassInfo.anyInstance value classinfo
  | .default d, value => ∀ x, value = some x → x.isinstanceOf d
  | .enum values optional, value =>
      optional = true ∧ value = none ∨ ∃ x, value = some x ∧ values.any x.eq
  | .array validateItem vectorize size, value =>
      ∃ items, asItems vectorize value = some items ∧ size.validate items.length = none ∧
        ∀ x ∈ items, validateItem.Accepts (some x)
  | .object validateValue, value =>
      value = none ∨ ∃ items, value = some (.dict items) ∧
        ∀ x ∈ items.map Prod.snd, validateValue.Accepts (some x)

/-- No `of_type` that was given a tuple of types comes to reject a value. A missing value is
rejected in another way. -/
def Validation.NoTupleRejects : Validation → Property → Prop
  | .any, _ => True
  | .ofType classinfo _, value =>
      (∀ c ∈ classinfo, c.name?.isSome) ∨ ClassInfo.anyInstance value classinfo ∨ value = none
  | .default _, _ => True
  | .enum _ _, _ => True
  | .array validateItem vectorize size, value =>
      ∀ items, asItems vectorize value = some items → size.validate items.length = none →
        UpToRejected (fun x => validateItem.Accepts (some x))
          (fun x => validateItem.NoTupleRejects (some x)) items
  | .object validateValue, value =>
      ∀ items, value = some (.dict items) →
        UpToRejected (fun x => validateValue.Accepts (some x))
          (fun x => validateValue.NoTupleRejects (some x)) (items.map Prod.snd)

/-! ### What composed validators accept -/

section Accepts

variable {repr : Json → String} {validate : Validator} {value : Property}

theorem ofClassInfo_ok_iff {classinfo : List ClassInfo} {optional : Bool} :
    (∃ result, Validator.ofClassInfo classinfo optional value = .ok result) ↔
      optional = true ∧ value = none ∨ ClassInfo.anyInstance value classinfo := by
  rw [Validator.ofClassInfo]
  split_ifs with haccepted hmissing
  · refine iff_of_true ⟨_, rfl⟩ ?_
    simpa only [Bool.or_eq_true, Bool.and_eq_true, Option.isNone_iff_eq_none] using haccepted
  · refine iff_of_false (fun ⟨_, h⟩ => by cases h) ?_
    simpa only [Bool.or_eq_true, Bool.and_eq_true, Option.isNone_iff_eq_none] using haccepted
  · refine iff_of_false ?_ ?_
    · rintro ⟨_, h⟩
      cases hnames : classinfo.mapM ClassInfo.name? <;> simp [hnames] at h
    · simpa only [Bool.or_eq_true, Bool.and_eq_true, Option.isNone_iff_eq_none] using haccepted

theorem default_ok_iff {d : Json} :
    (∃ result, Validator.default d value = .ok result) ↔
      ∀ x, value = some x → x.isinstanceOf d := by
  cases value with
  | none =>
      refine iff_of_true ⟨_, rfl⟩ ?_
      intro x hx
      cases hx
  | some x =>
      rw [Validator.default]
      split_ifs with hx
      · exact iff_of_true ⟨_, rfl⟩ fun y hy => Option.some.inj hy ▸ hx
      · refine iff_of_false ?_ fun h => hx (h x rfl)
        rintro ⟨_, h⟩
        cases h

theorem enumOf_ok_iff {values : List Json} {optional : Bool} :
    (∃ result, Validator.enumOf repr values optional value = .ok result) ↔
      optional = true ∧ value = none ∨ ∃ x, value = some x ∧ values.any x.eq := by
  cases value with
  | none => cases optional <;> simp [Validator.enumOf]
  | some x =>
      simp only [Validator.enumOf]
      split_ifs with hx
      · exact iff_of_true ⟨_, rfl⟩ (Or.inr ⟨x, rfl, hx⟩)
      · refine iff_of_false (fun ⟨_, h⟩ => by cases h) ?_
        rintro (⟨-, h⟩ | ⟨y, h, hy⟩)
        · cases h
        · cases h
          exact hx hy

theorem item_ok_iff {x : Json} :
    (∃ y, validate.item x = .ok y) ↔ ∃ result, validate (some x) = .ok result := by
  rw [Validator.item]
  cases validate (some x) <;> simp [Except.map]

theorem arrayOf_ok_iff {vectorize : Bool} {size : Size} :
    (∃ result, Validator.arrayOf validate vectorize size value = .ok result) ↔
      ∃ items, asItems vectorize value = some items ∧ size.validate items.length = none ∧
        ∀ x ∈ items, ∃ result, validate (some x) = .ok result := by
  constructor
  · rintro ⟨result, h⟩
    obtain ⟨items, items', hvalue, hsize, hitems, -⟩ := Validator.arrayOf_eq_ok_iff.1 h
    exact ⟨items, hvalue, hsize, fun x hx => item_ok_iff.1 (hitems.valid x hx)⟩
  · rintro ⟨items, hvalue, hsize, hitems⟩
    obtain ⟨items', hitems'⟩ :=
      Validator.exists_validates fun x hx => item_ok_iff.2 (hitems x hx)
    exact ⟨_, Validator.arrayOf_eq_ok_iff.2 ⟨items, items', hvalue, hsize, hitems', rfl⟩⟩

theorem entries_ok_iff {items : List (String × Json)} :
    (∃ items', Validator.entries validate items = .ok items') ↔
      ∀ x ∈ items.map Prod.snd, ∃ result, validate (some x) = .ok result := by
  induction items with
  | nil => exact iff_of_true ⟨_, rfl⟩ nofun
  | cons entry rest ih =>
      obtain ⟨key, x⟩ := entry
      rw [Validator.entries, List.map_cons, List.forall_mem_cons, ← ih]
      cases hx : validate (some x) with
      | ok y =>
          cases Validator.entries validate rest <;> simp [bind, Except.bind, pure, Except.pure]
      | error e => cases e <;> simp

theorem object_ok_iff :
    (∃ result, Validator.object validate value = .ok result) ↔
      value = none ∨ ∃ items, value = some (.dict items) ∧
        ∀ x ∈ items.map Prod.snd, ∃ result, validate (some x) = .ok result := by
  match value with
  | none => exact iff_of_true ⟨_, rfl⟩ (Or.inl rfl)
  | some (.dict items) =>
      simp only [reduceCtorEq, Option.some.injEq, Json.dict.injEq, exists_eq_left', false_or]
      rw [← entries_ok_iff, Validator.object]
      cases Validator.entries validate items <;> simp [bind, Except.bind, pure, Except.pure]
  | some .null | some (.bool _) | some (.int _) | some (.float _) | some (.str _)
  | some (.list _) => simp [Validator.object]

/-- **The values that a validator accepts**, by induction on how it is composed. -/
theorem accepts_iff (v : Validation) (value : Property) :
    v.Accepts value ↔ ∃ result, v.validator repr value = .ok result := by
  induction v generalizing value with
  | any => exact iff_of_true trivial ⟨_, rfl⟩
  | ofType classinfo optional => exact ofClassInfo_ok_iff.symm
  | default d => exact default_ok_iff.symm
  | enum values optional => exact enumOf_ok_iff.symm
  | array validateItem vectorize size ih =>
      rw [Validation.validator, arrayOf_ok_iff, Validation.Accepts]
      simp only [ih]
  | object validateValue ih =>
      rw [Validation.validator, object_ok_iff, Validation.Accepts]
      simp only [ih]

end Accepts

/-! ### What composed validators raise -/

section Lawful

variable {α : Type} {repr : Json → String} {validate : Validator} {value : Property}

theorem lawful_ok (x : α) : Lawful (Except.ok x) := fun _ h => by simp at h

theorem lawful_typeError (text : String) : Lawful (Except.error (.typeError text) : Except _ α) :=
  fun _ h => Or.inl ⟨text, (Except.error.inj h).symm⟩

theorem lawful_valueError (text : String) :
    Lawful (Except.error (.valueError text) : Except _ α) :=
  fun _ h => Or.inr ⟨text, (Except.error.inj h).symm⟩

theorem not_lawful_attributeError (text : String) :
    ¬ Lawful (Except.error (.attributeError text) : Except _ α) := by
  intro h
  rcases h _ rfl with ⟨_, h⟩ | ⟨_, h⟩ <;> simp at h

/-- What is made of the result of something is raised by that. -/
theorem lawful_bind_ok {β : Type} {result : Except PyError α} {f : α → β} :
    Lawful (result >>= fun x => .ok (f x)) ↔ Lawful result := by
  cases result with
  | ok x => exact ⟨fun _ => lawful_ok x, fun _ => lawful_ok (f x)⟩
  | error e =>
      refine ⟨fun h e' he => ?_, fun h e' he => ?_⟩
      · exact h e' (by rw [Except.error.inj he]; rfl)
      · exact h e' (by rw [Except.error.inj he])

/-- `" or ".join(t.__name__ for t in classinfo)` works for classes only. -/
theorem mapM_name?_isSome {classinfo : List ClassInfo} :
    (classinfo.mapM ClassInfo.name?).isSome ↔ ∀ c ∈ classinfo, c.name?.isSome := by
  induction classinfo with
  | nil => simp
  | cons c cs ih =>
      rw [List.mapM_cons, List.forall_mem_cons, ← ih]
      cases c.name? with
      | none => simp
      | some name => cases cs.mapM ClassInfo.name? <;> simp

theorem lawful_ofClassInfo {classinfo : List ClassInfo} {optional : Bool} :
    Lawful (Validator.ofClassInfo classinfo optional value) ↔
      (∀ c ∈ classinfo, c.name?.isSome) ∨ ClassInfo.anyInstance value classinfo ∨
        value = none := by
  rw [Validator.ofClassInfo, ← mapM_name?_isSome]
  split_ifs with haccepted hmissing
  · refine ⟨fun _ => ?_, fun _ => lawful_ok value⟩
    simp only [Bool.or_eq_true, Bool.and_eq_true, Option.isNone_iff_eq_none] at haccepted
    tauto
  · refine ⟨fun _ => ?_, fun _ => lawful_valueError _⟩
    simp only [Bool.and_eq_true, Option.isNone_iff_eq_none] at hmissing
    exact Or.inr (Or.inr hmissing.2)
  · have hrejected : ¬ ClassInfo.anyInstance value classinfo ∧ value ≠ none := by
      cases optional <;> simp_all
    cases classinfo.mapM ClassInfo.name? with
    | none =>
        have hnot := not_lawful_attributeError (α := Property)
          "'tuple' object has no attribute '__name__'"
        simp [hrejected, hnot]
    | some names => exact ⟨fun _ => Or.inl rfl, fun _ => lawful_typeError _⟩

theorem lawful_enumOf {values : List Json} {optional : Bool} :
    Lawful (Validator.enumOf repr values optional value) := by
  cases value with
  | none =>
      cases optional with
      | true => exact lawful_ok _
      | false => exact lawful_valueError _
  | some x =>
      simp only [Validator.enumOf]
      split_ifs
      · exact lawful_ok _
      · exact lawful_valueError _

/-- The exceptions of the items keep their types. -/
theorem lawful_items {items : List Json} {i : ℕ} :
    Lawful (Validator.items validate i items) ↔
      UpToRejected (fun x => ∃ y, validate (some x) = .ok y)
        (fun x => Lawful (validate (some x))) items := by
  induction items generalizing i with
  | nil => exact ⟨fun _ => trivial, fun _ => lawful_ok []⟩
  | cons x rest ih =>
      rw [Validator.items, UpToRejected]
      cases hx : validate (some x) with
      | ok y =>
          simp only [Except.ok.injEq, exists_eq', forall_const, ← ih (i := i + 1)]
          refine Iff.trans ?_ (and_iff_right (lawful_ok y)).symm
          exact lawful_bind_ok
      | error e =>
          simp only [reduceCtorEq, exists_false, false_implies, and_true]
          cases e with
          | typeError err => exact ⟨fun _ => lawful_typeError _, fun _ => lawful_typeError _⟩
          | valueError err => exact ⟨fun _ => lawful_valueError _, fun _ => lawful_valueError _⟩
          | _ => exact ⟨fun h e' he => h e' (by simp_all), fun h e' he => h e' (by simp_all)⟩

theorem lawful_entries {items : List (String × Json)} :
    Lawful (Validator.entries validate items) ↔
      UpToRejected (fun x => ∃ y, validate (some x) = .ok y)
        (fun x => Lawful (validate (some x))) (items.map Prod.snd) := by
  induction items with
  | nil => exact ⟨fun _ => trivial, fun _ => lawful_ok []⟩
  | cons entry rest ih =>
      obtain ⟨key, x⟩ := entry
      rw [Validator.entries, List.map_cons, UpToRejected]
      cases hx : validate (some x) with
      | ok y =>
          simp only [Except.ok.injEq, exists_eq', forall_const, ← ih]
          refine Iff.trans ?_ (and_iff_right (lawful_ok y)).symm
          exact lawful_bind_ok
      | error e =>
          simp only [reduceCtorEq, exists_false, false_implies, and_true]
          cases e with
          | typeError err => exact ⟨fun _ => lawful_typeError _, fun _ => lawful_typeError _⟩
          | valueError err => exact ⟨fun _ => lawful_valueError _, fun _ => lawful_valueError _⟩
          | _ => exact ⟨fun h e' he => h e' (by simp_all), fun h e' he => h e' (by simp_all)⟩

theorem upToRejected_congr {accepts accepts' p q : Json → Prop} {xs : List Json}
    (haccepts : ∀ x, accepts x ↔ accepts' x) (h : ∀ x, p x ↔ q x) :
    UpToRejected accepts p xs ↔ UpToRejected accepts' q xs := by
  obtain rfl : accepts = accepts' := funext fun x => propext (haccepts x)
  obtain rfl : p = q := funext fun x => propext (h x)
  rfl

theorem lawful_arrayOf {vectorize : Bool} {size : Size} :
    Lawful (Validator.arrayOf validate vectorize size value) ↔
      ∀ items, asItems vectorize value = some items → size.validate items.length = none →
        UpToRejected (fun x => ∃ y, validate (some x) = .ok y)
          (fun x => Lawful (validate (some x))) items := by
  rw [Validator.arrayOf]
  cases hvalue : asItems vectorize value with
  | none => exact ⟨fun _ _ h => by simp at h, fun _ => lawful_typeError _⟩
  | some items =>
      simp only [Option.some.injEq, forall_eq']
      cases size.validate items.length with
      | some err => exact ⟨fun _ h => by simp at h, fun _ => lawful_valueError err⟩
      | none =>
          rw [← lawful_items (i := 0)]
          simp only [forall_const]
          exact lawful_bind_ok

theorem lawful_object :
    Lawful (Validator.object validate value) ↔
      ∀ items, value = some (.dict items) →
        UpToRejected (fun x => ∃ y, validate (some x) = .ok y)
          (fun x => Lawful (validate (some x))) (items.map Prod.snd) := by
  match value with
  | none => exact ⟨fun _ _ h => by simp at h, fun _ => lawful_ok _⟩
  | some (.dict items) =>
      simp only [Option.some.injEq, Json.dict.injEq, forall_eq']
      rw [← lawful_entries]
      exact lawful_bind_ok
  | some .null | some (.bool _) | some (.int _) | some (.float _) | some (.str _)
  | some (.list _) => exact ⟨fun _ _ h => by simp at h, fun _ => lawful_typeError _⟩

/-- By induction on how the validator is composed. -/
theorem lawful_validator (v : Validation) (value : Property) :
    Lawful (v.validator repr value) ↔ v.NoTupleRejects value := by
  induction v generalizing value with
  | any => exact ⟨fun _ => trivial, fun _ => lawful_ok value⟩
  | ofType classinfo optional => exact lawful_ofClassInfo
  | default d => exact ⟨fun _ => trivial, fun _ => Validator.default_lawful d value⟩
  | enum values optional => exact ⟨fun _ => trivial, fun _ => lawful_enumOf⟩
  | array validateItem vectorize size ih =>
      rw [Validation.validator, lawful_arrayOf, Validation.NoTupleRejects]
      simp only [upToRejected_congr (fun x => (accepts_iff validateItem (some x)).symm)
        fun x => ih (some x)]
  | object validateValue ih =>
      rw [Validation.validator, lawful_object, Validation.NoTupleRejects]
      simp only [upToRejected_congr (fun x => (accepts_iff validateValue (some x)).symm)
        fun x => ih (some x)]

end Lawful

/-! ### What becomes of a value that is rejected -/

section Rejected

variable {repr : Json → String} {validate : Validator} {value : Property} {owner : DictOwner}
  {wrapped : Bool} {w : World}

/-- A lookup of a property with this value fails with an `InvalidMessageError` that applies to
the message, if it fails. -/
def FailsProperly (owner : DictOwner) (validate : Validator) (value : Property) (w : World) :
    Prop :=
  ∀ items key id w', items.lookup key = value →
    (owner.call items key validate).exec w = (.error id, w') →
    ∃ reason, w'.exception? id = some (.handlingError .invalidMessageError reason (some owner.id))

/-- A handler of a request that looks up a property, and goes on with what it gets. -/
def reading (request : IncomingRequest) (items : List (String × Json)) (key : String)
    (validate : Validator) (rest : Property → Python Value) : Python Value := do
  let value ← (DictOwner.request request).call items key validate
  rest value

/-- A request with this value as a property does not end the process if that is rejected by the
handler. -/
def Survives (owner : DictOwner) (wrapped : Bool) (validate : Validator) (value : Property)
    (w : World) : Prop :=
  ∀ request items key rest, owner = .request request → items.lookup key = value →
    (∀ result, validate value ≠ .ok result) →
    (serve wrapped request (reading request items key validate rest) w).exited = false

/-- A value that is accepted does nothing of the kind. -/
theorem failsProperly_ok {result : Property} (h : validate value = .ok result) :
    FailsProperly owner validate value w := by
  rintro items key id w' rfl hcall
  rw [DictOwner.call_ok h] at hcall
  cases hcall

theorem failsProperly_rejected {e : PyError} {text : String} (h : validate value = .error e)
    (he : e = .typeError text ∨ e = .valueError text) (hanswerable : owner.Answerable w) :
    FailsProperly owner validate value w := by
  rintro items key id w' rfl hcall
  obtain ⟨w₁, hexec, hid⟩ :=
    DictOwner.exec_isntValid hanswerable (MessageDict.describeInvalid key text)
  rw [DictOwner.call_rejected h he, Program.exec_bind_ok hexec] at hcall
  cases hcall
  exact ⟨_, hid⟩

/-- The process survives the rejection exactly if nothing is wrapped around the handler, and
`isnt_valid()` can respond. -/
theorem survives_rejected {request : IncomingRequest} {e : PyError} {text : String}
    (hw : w.exited = false) (h : validate value = .error e)
    (he : e = .typeError text ∨ e = .valueError text) :
    Survives (.request request) wrapped validate value w ↔ wrapped = false ∧ w.Open := by
  have hserve (items : List (String × Json)) (key : String) (rest : Property → Python Value)
      (hvalue : items.lookup key = value) :
      (serve wrapped request (reading request items key validate rest) w).exited = false ↔
        wrapped = false ∧ w.Open := by
    refine exited_serve (MessageDict.describeInvalid key text) hw ?_
    rw [reading, DictOwner.call_rejected (hvalue ▸ h) he, bind_assoc]
    rfl
  constructor
  · intro hsurvives
    obtain ⟨items, key, hvalue⟩ :
        ∃ (items : List (String × Json)) (key : String), items.lookup key = value := by
      cases value with
      | none => exact ⟨[], "", rfl⟩
      | some x => exact ⟨[("", x)], "", rfl⟩
    refine (hserve items key (fun _ => pure .none) hvalue).1
      (hsurvives request items key _ rfl hvalue fun result hresult => ?_)
    rw [h] at hresult
    cases hresult
  · rintro hcondition request' items key rest hrequest hvalue -
    cases hrequest
    exact (hserve items key rest hvalue).2 hcondition

/-- **A composed validator raises `TypeError` or `ValueError`**, a property lookup with it
`InvalidMessageError`, and the process survives that, unless an `of_type` that was given a tuple
comes to reject a value, or a value in a request is rejected in a handler that is wrapped, or after
the response. -/
theorem lawful_iff (repr : Json → String) (v : Validation) (value : Property) (owner : DictOwner)
    (wrapped : Bool) (w : World) (hw : w.exited = false) :
    (Lawful (v.validator repr value) ∧ FailsProperly owner (v.validator repr) value w ∧
      Survives owner wrapped (v.validator repr) value w) ↔
    v.NoTupleRejects value ∧
      (v.Accepts value ∨ ∀ request, owner = .request request → wrapped = false ∧ w.Open) := by
  rw [← @lawful_validator repr, @accepts_iff repr]
  refine and_congr_right fun hlawful => ?_
  cases hresult : v.validator repr value with
  | ok result =>
      refine iff_of_true ⟨failsProperly_ok hresult, ?_⟩ (Or.inl ⟨result, rfl⟩)
      rintro request items key rest - - hrejected
      exact absurd hresult (hrejected result)
  | error e =>
      obtain ⟨text, he⟩ : ∃ text, e = .typeError text ∨ e = .valueError text := by
        rcases hlawful e hresult with ⟨text, he⟩ | ⟨text, he⟩
        · exact ⟨text, Or.inl he⟩
        · exact ⟨text, Or.inr he⟩
      simp only [reduceCtorEq, exists_false, false_or]
      cases owner with
      | other m =>
          refine iff_of_true ⟨failsProperly_rejected hresult he nofun, ?_⟩ nofun
          rintro request _ _ _ h
          cases h
      | request request =>
          have hsurvives : Survives (.request request) wrapped (v.validator repr) value w ↔ _ :=
            survives_rejected hw hresult he
          constructor
          · rintro ⟨-, h⟩ _ -
            exact hsurvives.1 h
          · intro h
            have hcondition := h request rfl
            exact ⟨failsProperly_rejected hresult he fun _ _ => hcondition.2,
              hsurvives.2 hcondition⟩

/-- `json.array(unicode)`. -/
def textsValidation : Validation := .array (.ofType [.cls PyType.unicode.toClass] false) false .any

/-- **"debugOptions": 5** ends the adapter, whose handlers are wrapped. -/
theorem not_survives_debugOptions :
    ¬ Survives (.request initializeRequest) true (textsValidation.validator fun _ => "")
      (some (.int 5)) .idle := by
  have hiff := lawful_iff (fun _ => "") textsValidation (some (.int 5))
    (.request initializeRequest) true .idle rfl
  intro hsurvives
  have hcode : textsValidation.validator (fun _ => "") (some (.int 5)) =
      .error (.typeError "must be list") := rfl
  have hfails : FailsProperly (.request initializeRequest) _ _ .idle :=
    failsProperly_rejected hcode (Or.inl rfl) fun _ _ => World.idle_pending.isOpen
  have hcondition := hiff.1 ⟨by rw [hcode]; exact lawful_typeError _, hfails, hsurvives⟩
  rcases hcondition.2 with ⟨items, hitems, -⟩ | hwrapped
  · cases hitems
  · exact nomatch (hwrapped _ rfl).1

/-- **A list as "processId"** is reported with `AttributeError`. -/
theorem lawful_processId :
    ¬ ∀ (repr : Json → String) (v : Validation) (value : Property),
      Lawful (v.validator repr value) := by
  intro h
  have hcode : (Validation.ofType [.tuple [.cls PyType.int.toClass, .cls PyType.unicode.toClass]]
      true).validator (fun _ => "") (some (.list [])) =
        .error (.attributeError "'tuple' object has no attribute '__name__'") := rfl
  have hlawful := h (fun _ => "")
    (.ofType [.tuple [.cls PyType.int.toClass, .cls PyType.unicode.toClass]] true)
    (some (.list []))
  rw [hcode] at hlawful
  exact not_lawful_attributeError _ hlawful

end Rejected

end Ptvsd
