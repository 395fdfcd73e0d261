import Ptvsd.Validators

/-!
# Looking up Properties

`MessageDict.__call__(key, validate, optional)`, where `validate` may be anything: what becomes
of it is decided by its truth, its type, and whether it can be called.

## Main results

* `property_iff`: the call does what its description says, **unless `validate` is false without
  being `False`, or the property is missing and optional and `validate` is neither a type nor
  a tuple**, or a property of a request is invalid that cannot be responded to any more.
-/

namespace Ptvsd

/-- The argument `validate`. -/
inductive Validate where
  /-- An instance of a class that cannot be called. -/
  | value (value : Json)
  | cls (c : PyClass)
  | tuple (members : List ClassInfo)
  /-- A function. -/
  | callable (f : Validator)

namespace Validate

/-- `bool(validate)`. -/
def truth : Validate → Bool
  | .value v => v.truth
  | .cls _ => true
  | .tuple members => !members.isEmpty
  | .callable _ => true

/-- What the call makes of `validate`. -/
def toValidator (validate : Validate) (optional : Bool) : Validator :=
  if !validate.truth then .ok
  else
    match validate with
    | .cls c => .ofClassInfo [.cls c] optional
    | .tuple members => .ofClassInfo [.tuple members] optional
    | .callable f => f
    | .value default => .default default

end Validate

/-- `message(key, validate, optional)`, where the payload has these items. -/
def DictOwner.property (owner : DictOwner) (items : List (String × Json)) (key : String)
    (validate : Validate) (optional : Bool) : Python Property :=
  owner.call items key (validate.toValidator optional)

/-- A type is required by `self(key, t)`. -/
theorem MessageDict.typed_eq (d : MessageDict) (key : String) (t : PyType) :
    d.typed key t = d.call key ((Validate.cls t.toClass).toValidator false) := by
  have heq : ofType [t] false = Validator.ofClassInfo [.cls t.toClass] false := by
    funext value
    simp only [ofType, Validator.ofClassInfo, List.any_cons, List.any_nil, Bool.or_false,
      ClassInfo.anyInstance, ClassInfo.isinstance, PyType.toClass]
    rfl
  rw [typed, heq]
  congr 1

/-- A property that is returned tells what the validator did. -/
theorem MessageDict.call_eq_ok_iff {d : MessageDict} {key : String} {validate : Validator}
    {result : Property} : d.call key validate = .ok result ↔ validate (d.get key) = .ok result := by
  rw [call]
  split <;> simp_all

/-! ### The description -/

/-- What `validate` is described to make of the value of the property. -/
def Validate.described (validate : Validate) (optional : Bool) : Validator := fun value =>
  if optional && value.isNone then .ok none
  else
    match validate with
    | .value (.bool false) => .ok value
    | .cls c => Validator.ofClassInfo [.cls c] optional value
    | .tuple members => Validator.ofClassInfo [.tuple members] optional value
    | .callable f => f value
    | .value default => Validator.default default value

/-- What the call is described to end with: the value, and nothing happens to the message;
`InvalidMessageError` that applies to the message, with the text of the `TypeError` or
`ValueError` behind the key; or any other exception of the validator. -/
def Validate.Documented (validate : Validate) (owner : DictOwner) (key : String) (optional : Bool)
    (value : Property) (w : World) (outcome : Except ObjectId Property × World) : Prop :=
  match validate.described optional value with
  | .ok result => outcome = (.ok result, w)
  | .error (.typeError text) | .error (.valueError text) =>
      ∃ id w', outcome = (.error id, w') ∧ w'.exception? id =
        some (.handlingError .invalidMessageError
          (jsonString key ++ if text.startsWith "[" then text else " " ++ text) (some owner.id))
  | .error e => ∃ id w', outcome = (.error id, w') ∧ w'.exception? id = some e.toException

/-- The value is one to be reported to the message. -/
def Validate.Rejects (validate : Validate) (optional : Bool) (value : Property) : Prop :=
  ∃ text, validate.described optional value = .error (.typeError text) ∨
    validate.described optional value = .error (.valueError text)

/-- `validate` is what its description takes it for, with this value of the property. -/
def Validate.Straight (optional : Bool) (value : Property) : Validate → Prop
  | .cls _ => True
  | .tuple members => members ≠ [] ∨ optional = true ∧ value = none
  | .callable f => optional = true → value = none → f none = .ok none
  | .value default =>
      default = .bool false ∨
        if default.truth then ¬ (optional = true ∧ value = none)
        else match value with
          | none => optional = true
          | some value => value.isinstanceOf default

section Described

variable {value : Property} {optional : Bool}

/-- A default value is described to be one, unless it is `False`. -/
theorem described_value {default : Json} (h : default ≠ .bool false) (optional : Bool)
    (value : Property) :
    (Validate.value default).described optional value =
      if optional && value.isNone then .ok none else Validator.default default value := by
  unfold Validate.described
  split_ifs
  · rfl
  · split <;> simp_all

/-- A value that is true is taken for a default value, also if the property is optional. -/
theorem toValidator_true {default : Json} (h : default.truth = true) :
    (Validate.value default).toValidator optional value =
        (Validate.value default).described optional value ↔
      ¬ (optional = true ∧ value = none) := by
  have hne : default ≠ .bool false := by
    rintro rfl
    simp [Json.truth] at h
  have hcode : (Validate.value default).toValidator optional = .default default := by
    simp [Validate.toValidator, Validate.truth, h]
  rw [hcode, described_value hne]
  cases optional <;> cases value <;> simp [Validator.default]

/-- A value that is false is ignored. -/
theorem toValidator_false {default : Json} (hne : default ≠ .bool false)
    (h : default.truth = false) :
    (Validate.value default).toValidator optional value =
        (Validate.value default).described optional value ↔
      match value with
        | none => optional = true
        | some value => value.isinstanceOf default := by
  have hcode : (Validate.value default).toValidator optional = .ok := by
    simp [Validate.toValidator, Validate.truth, h]
  rw [hcode, described_value hne]
  cases value with
  | none => cases optional <;> simp [Validator.default]
  | some value => simp [Validator.default]

/-- The validator that the call takes `validate` for does as described exactly if `validate` is
straight. -/
theorem toValidator_eq_described_iff (validate : Validate) :
    validate.toValidator optional value = validate.described optional value ↔
      validate.Straight optional value := by
  cases validate with
  | value default =>
      unfold Validate.Straight
      by_cases hfalse : default = .bool false
      · subst hfalse
        have hcode : (Validate.value (.bool false)).toValidator optional = .ok := rfl
        rw [hcode]
        cases optional <;> cases value <;> simp [Validate.described]
      · cases htruth : default.truth with
        | true => simpa [hfalse, htruth] using toValidator_true htruth
        | false => simpa [hfalse, htruth] using toValidator_false hfalse htruth
  | cls c =>
      refine iff_of_true ?_ trivial
      change Validator.ofClassInfo [.cls c] optional value = _
      cases optional <;> cases value <;> simp [Validate.described, Validator.ofClassInfo]
  | tuple members =>
      rw [Validate.Straight]
      cases members with
      | nil =>
          have hcode : (Validate.tuple []).toValidator optional = .ok := rfl
          rw [hcode]
          cases optional <;> cases value <;>
            simp [Validate.described, Validator.ofClassInfo, ClassInfo.anyInstance,
              ClassInfo.isinstance, ClassInfo.name?]
      | cons c cs =>
          refine iff_of_true ?_ (Or.inl (by simp))
          change Validator.ofClassInfo [.tuple (c :: cs)] optional value = _
          cases optional <;> cases value <;> simp [Validate.described, Validator.ofClassInfo]
  | callable f =>
      rw [Validate.Straight]
      have hcode : (Validate.callable f).toValidator optional = f := by
        simp [Validate.toValidator, Validate.truth]
      rw [hcode]
      cases optional <;> cases value <;> simp [Validate.described]

/-- Where the two differ, one of them does not raise. -/
theorem ok_of_not_straight {validate : Validate} (h : ¬ validate.Straight optional value) :
    (∃ result, validate.toValidator optional value = .ok result) ∨
      ∃ result, validate.described optional value = .ok result := by
  by_cases hmissing : optional = true ∧ value = none
  · obtain ⟨rfl, rfl⟩ := hmissing
    exact Or.inr ⟨none, rfl⟩
  · cases validate with
    | cls c => exact absurd trivial h
    | callable f => exact absurd (fun h₁ h₂ => absurd ⟨h₁, h₂⟩ hmissing) h
    | tuple members =>
        cases members with
        | nil => exact Or.inl ⟨value, rfl⟩
        | cons c cs => exact absurd (Or.inl (by simp)) h
    | value default =>
        cases htruth : default.truth with
        | true => exact absurd (Or.inr (by rwa [htruth, if_pos rfl])) h
        | false => exact Or.inl ⟨value, by simp [Validate.toValidator, Validate.truth, htruth]⟩

end Described

/-! ### The call -/

section Property

variable {owner : DictOwner} {items : List (String × Json)} {key : String} {validate : Validate}
  {optional : Bool} {w : World} {result : Property}

/-- What is described to be returned is returned only if the validator returns it. -/
theorem property_ok (h : validate.described optional (items.lookup key) = .ok result) :
    validate.Documented owner key optional (items.lookup key) w
        ((owner.property items key validate optional).exec w) ↔
      validate.toValidator optional (items.lookup key) = .ok result := by
  rw [Validate.Documented, h, DictOwner.property]
  cases hcode : validate.toValidator optional (items.lookup key) with
  | ok value =>
      rw [DictOwner.call_ok hcode]
      simp
  | error e =>
      refine iff_of_false (fun hexec => ?_) (by simp)
      rcases e.rejects_or_passes with ⟨text, he⟩ | hpasses
      · obtain ⟨id, w', hraises⟩ :=
          owner.exec_throw_isntValid (MessageDict.describeInvalid key text) w
        rw [DictOwner.call_rejected hcode he, hraises] at hexec
        cases hexec
      · rw [DictOwner.call_passes hcode hpasses] at hexec
        cases hexec

/-- `TypeError` and `ValueError` become `InvalidMessageError`, unless the request cannot be
responded to. -/
theorem property_rejected {e : PyError} {text : String}
    (h : validate.described optional (items.lookup key) = .error e)
    (he : e = .typeError text ∨ e = .valueError text)
    (hcode : validate.toValidator optional (items.lookup key) = .error e) :
    validate.Documented owner key optional (items.lookup key) w
        ((owner.property items key validate optional).exec w) ↔ owner.Answerable w := by
  have hdocumented (outcome : Except ObjectId Property × World) :
      validate.Documented owner key optional (items.lookup key) w outcome ↔
        ∃ id w', outcome = (.error id, w') ∧ w'.exception? id =
          some (.handlingError .invalidMessageError (MessageDict.describeInvalid key text)
            (some owner.id)) := by
    rw [Validate.Documented, h]
    rcases he with rfl | rfl <;> exact Iff.rfl
  rw [hdocumented, DictOwner.property, DictOwner.call_rejected hcode he]
  constructor
  · rintro ⟨id, w', hexec, hid⟩
    by_contra hno
    obtain ⟨_, -, id', w'', exc, hraises, -, hid', hexc⟩ :=
      DictOwner.isntValid_raises hno (MessageDict.describeInvalid key text)
    rw [Program.exec_bind, hraises] at hexec
    cases hexec
    rw [hid] at hid'
    cases hid'
    rcases hexc with ⟨_, hexc⟩ | ⟨_, _, hexc⟩ <;> cases hexc
  · intro hanswerable
    obtain ⟨w', hexec, hid⟩ :=
      DictOwner.exec_isntValid hanswerable (MessageDict.describeInvalid key text)
    exact ⟨_, w', by rw [Program.exec_bind_ok hexec]; rfl, hid⟩

/-- **A property is looked up as described** exactly if `validate` is straight, and a value that it
is to reject is one of a message that can be responded to, if it is a request. -/
theorem property_iff (owner : DictOwner) (items : List (String × Json)) (key : String)
    (validate : Validate) (optional : Bool) (w : World) :
    validate.Documented owner key optional (items.lookup key) w
        ((owner.property items key validate optional).exec w) ↔
      validate.Straight optional (items.lookup key) ∧
        (validate.Rejects optional (items.lookup key) → owner.Answerable w) := by
  have hiff : validate.toValidator optional (items.lookup key) = _ ↔ _ :=
    toValidator_eq_described_iff validate
  cases hdescribed : validate.described optional (items.lookup key) with
  | ok result =>
      rw [property_ok hdescribed, ← hdescribed, hiff]
      refine (and_iff_left ?_).symm
      rintro ⟨text, h | h⟩ <;> rw [hdescribed] at h <;> cases h
  | error e =>
      by_cases hstraight : validate.Straight optional (items.lookup key)
      · have hcode := (hiff.2 hstraight).trans hdescribed
        rcases e.rejects_or_passes with ⟨text, he⟩ | hpasses
        · rw [property_rejected hdescribed he hcode, and_iff_right hstraight]
          have hrejects : validate.Rejects optional (items.lookup key) :=
            ⟨text, he.imp (fun h => hdescribed.trans (congrArg _ h))
              fun h => hdescribed.trans (congrArg _ h)⟩
          exact ⟨fun h _ => h, fun h => h hrejects⟩
        · refine iff_of_true ?_ ⟨hstraight, ?_⟩
          · rw [DictOwner.property, DictOwner.call_passes hcode hpasses, Validate.Documented,
              hdescribed]
            cases e with
            | typeError text => exact absurd rfl (hpasses text).1
            | valueError text => exact absurd rfl (hpasses text).2
            | attributeError | assertionError | messageHandling | invalidMessage =>
                exact ⟨_, _, rfl, World.exception?_alloc _⟩
          · rintro ⟨text, h | h⟩
            · exact absurd (Except.error.inj (hdescribed.symm.trans h)) (hpasses text).1
            · exact absurd (Except.error.inj (hdescribed.symm.trans h)) (hpasses text).2
      · refine iff_of_false (fun hdocumented => ?_) fun h => hstraight h.1
        obtain ⟨result, hcode⟩ := (ok_of_not_straight hstraight).resolve_right
          (by rintro ⟨result, h⟩; rw [hdescribed] at h; cases h)
        rw [DictOwner.property, DictOwner.call_ok hcode, Validate.Documented,
          hdescribed] at hdocumented
        cases e <;> obtain ⟨_, _, h, -⟩ := hdocumented <;> cases h

/-- **A missing "clientID"** is not replaced with an empty one. -/
theorem property_clientID :
    ¬ ∀ (owner : DictOwner) (items : List (String × Json)) (key : String) (validate : Validate)
      (optional : Bool) (w : World), owner.Answerable w →
      validate.Documented owner key optional (items.lookup key) w
        ((owner.property items key validate optional).exec w) := by
  intro h
  have hlookup := h (.request initializeRequest) [] "clientID" (.value (.str "")) false .idle
    fun _ _ => World.idle_pending.isOpen
  cases hlookup

end Property

end Ptvsd
