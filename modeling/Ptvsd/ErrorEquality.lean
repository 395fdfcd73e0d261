import Ptvsd.Component

/-!
# Errors That Are Equal

`MessageHandlingError.__eq__` and `__hash__`. Errors are compared by their types, their reasons, and
the `seq` of their causes, so that an error that was sent over one channel equals what was
received from the other one. An error without a cause is compared without regard to the cause
of the other.

A reason may be any object. What Python expects of the objects that are compared and hashed is
taken for granted of the reasons, and looked at for the errors.

## Main results

* `equality_laws`: `==` is symmetric, and transitive, **except over an error without a cause,
  between errors whose causes differ**.
* `hash_eq_iff`: the hash goes by the identity of the cause.
* `agrees_iff`: no hash that agrees with `==` may depend on the cause.
-/

namespace Ptvsd

/-! ### Comparing and hashing -/

/-- The objects that are used as reasons, `==` and `hash()` on them, with the laws that Python
demands. `!=` is the negation of `==`. -/
structure Reasons (R : Type) where
  /-- `x == y`. -/
  eq : R → R → Bool
  /-- `hash(x)`, or `none` for `TypeError`. -/
  hash : R → Option ℤ
  eq_symm : ∀ {x y}, eq x y = true → eq y x = true
  eq_trans : ∀ {x y z}, eq x y = true → eq y z = true → eq x z = true
  hash_eq : ∀ {x y h k}, eq x y = true → hash x = some h → hash y = some k → h = k

/-- What the comparison needs to know of objects. -/
structure Objects (R M : Type) where
  reasons : Reasons R
  /-- `message.seq`, which `Disconnect` and synthetic responses do not have. -/
  seq : M → Option ℤ
  /-- `id(message)`, or `id(None)`. -/
  id : Option M → ℕ
  /-- `hash((x, n))`, from `hash(x)` and the int. -/
  hashPair : ℤ → ℕ → ℤ

/-- A `MessageHandlingError`. -/
structure MessageHandlingError (C R M : Type) where
  /-- `type(self)`. -/
  type : C
  reason : R
  cause : Option M

namespace Objects

variable {C R M : Type} [DecidableEq C] (P : Objects R M)

/-- The causes do not tell the errors apart. -/
def sameCause : Option M → Option M → Bool
  | some m, some n => P.seq m = P.seq n
  | _, _ => true

/-- `self.__eq__(other)`, or `none` for `NotImplemented`. -/
def eqMethod (self other : MessageHandlingError C R M) : Option Bool :=
  if self.type ≠ other.type then none
  else if !P.reasons.eq self.reason other.reason then some false
  else some (P.sameCause self.cause other.cause)

/-- `a == b`. If both methods yield `NotImplemented`, the errors are of different types, and not
the same object. -/
def eq (a b : MessageHandlingError C R M) : Bool :=
  match P.eqMethod a b with
  | some result => result
  | none => (P.eqMethod b a).getD false

/-- `hash(a)`, or `none` for `TypeError`. -/
def hash (a : MessageHandlingError C R M) : Option ℤ :=
  (P.reasons.hash a.reason).map fun h => P.hashPair h (P.id a.cause)

/-! ### The laws -/

variable {P} {a b c : MessageHandlingError C R M}

theorem sameCause_comm (m n : Option M) : P.sameCause m n = P.sameCause n m := by
  cases m <;> cases n <;> simp [sameCause, eq_comm]

/-- Causes are told apart over one that is compatible with both, if that one is missing. -/
theorem sameCause_trans_iff {m n o : Option M} (hmn : P.sameCause m n = true)
    (hno : P.sameCause n o = true) :
    P.sameCause m o = true ↔ ¬ (n = none ∧ P.sameCause m o = false) := by
  cases n with
  | none => simp
  | some n =>
      have hmo : P.sameCause m o = true := by
        cases m <;> cases o <;> simp_all [sameCause]
      simp [hmo]

/-- Errors that are equal, by what `__eq__` looks at. -/
theorem eq_iff : P.eq a b = true ↔
    a.type = b.type ∧ P.reasons.eq a.reason b.reason = true ∧
      P.sameCause a.cause b.cause = true := by
  by_cases htype : a.type = b.type
  · cases hreason : P.reasons.eq a.reason b.reason <;> simp [eq, eqMethod, htype, hreason]
  · simp [eq, eqMethod, htype, Ne.symm htype]

theorem eq_symm (h : P.eq a b = true) : P.eq b a = true := by
  obtain ⟨htype, hreason, hcause⟩ := eq_iff.mp h
  exact eq_iff.mpr ⟨htype.symm, P.reasons.eq_symm hreason, by rwa [sameCause_comm]⟩

theorem eq_comm (a b : MessageHandlingError C R M) : P.eq a b = P.eq b a :=
  Bool.eq_iff_iff.mpr ⟨eq_symm, eq_symm⟩

/-- Transitivity is a matter of the causes. -/
theorem eq_trans_iff (hab : P.eq a b = true) (hbc : P.eq b c = true) :
    P.eq a c = true ↔ ¬ (b.cause = none ∧ P.sameCause a.cause c.cause = false) := by
  obtain ⟨habtype, habreason, habcause⟩ := eq_iff.mp hab
  obtain ⟨hbctype, hbcreason, hbccause⟩ := eq_iff.mp hbc
  rw [← sameCause_trans_iff habcause hbccause, eq_iff]
  exact ⟨fun h => h.2.2,
    fun h => ⟨habtype.trans hbctype, P.reasons.eq_trans habreason hbcreason, h⟩⟩

/-- Both causes are there, and have different numbers. -/
theorem sameCause_eq_false {m n : Option M} : P.sameCause m n = false ↔
    ∃ m' n', m = some m' ∧ n = some n' ∧ P.seq m' ≠ P.seq n' := by
  cases m <;> cases n <;> simp [sameCause]

theorem hash_eq (hab : P.eq a b = true) (hcause : a.cause = b.cause) {h k : ℤ}
    (ha : P.hash a = some h) (hb : P.hash b = some k) : h = k := by
  obtain ⟨x, hx, rfl⟩ := Option.map_eq_some_iff.mp ha
  obtain ⟨y, hy, rfl⟩ := Option.map_eq_some_iff.mp hb
  rw [P.reasons.hash_eq (eq_iff.mp hab).2.1 hx hy, hcause]

/-- **Equality of errors**: it is symmetric; it is transitive, except over an error without a
cause, between errors whose causes have different numbers; and equal errors that have the same
cause, or none, have the same hash. -/
theorem equality_laws (P : Objects R M) (a b c : MessageHandlingError C R M) :
    P.eq a b = P.eq b a ∧
      (P.eq a b = true → P.eq b c = true →
        (P.eq a c = true ↔ ¬ (b.cause = none ∧ ∃ m n, a.cause = some m ∧ c.cause = some n ∧
          P.seq m ≠ P.seq n))) ∧
      (P.eq a b = true → a.cause = b.cause →
        ∀ h k, P.hash a = some h → P.hash b = some k → h = k) := by
  refine ⟨eq_comm a b, fun hab hbc => ?_, fun hab hcause h k => hash_eq hab hcause⟩
  rw [eq_trans_iff hab hbc, sameCause_eq_false]

/-- Texts as reasons; the messages are their numbers. -/
def texts : Objects String ℕ where
  reasons :=
    { eq := fun s t => s = t
      hash := fun s => some s.length
      eq_symm := fun h => by simpa using (of_decide_eq_true h).symm
      eq_trans := fun h h' => by simpa using (of_decide_eq_true h).trans (of_decide_eq_true h')
      hash_eq := fun h hx hy => by
        rw [of_decide_eq_true h] at hx
        exact Option.some.inj (hx.symm.trans hy) }
  seq := fun m => some m
  id := fun m => m.getD 0
  hashPair := fun h n => 31 * h + n

/-- **"timed out" about the first message, about none, and about the second one.** -/
theorem not_transitive : ¬ ∀ (P : Objects String ℕ)
    (a b c : MessageHandlingError ErrorType String ℕ),
    P.eq a b = P.eq b a ∧ (P.eq a b = true → P.eq b c = true → P.eq a c = true) ∧
      (P.eq a b = true → ∀ h k, P.hash a = some h → P.hash b = some k → h = k) := by
  intro h
  have htrans := (h texts ⟨.messageHandlingError, "timed out", some 1⟩
    ⟨.messageHandlingError, "timed out", none⟩
    ⟨.messageHandlingError, "timed out", some 2⟩).2.1 rfl rfl
  simp [eq, eqMethod, sameCause, texts] at htrans

/-! ### The hash -/

/-- **Equal errors have the same hash exactly if they have the same cause**, wherever different
objects lead to different hashes. -/
theorem hash_eq_iff (hid : Function.Injective P.id) (hpair : ∀ h, Function.Injective (P.hashPair h))
    (hab : P.eq a b = true) {h k : ℤ} (ha : P.hash a = some h) (hb : P.hash b = some k) :
    h = k ↔ a.cause = b.cause := by
  refine ⟨fun hhk => ?_, fun hcause => hash_eq hab hcause ha hb⟩
  obtain ⟨x, hx, rfl⟩ := Option.map_eq_some_iff.mp ha
  obtain ⟨y, hy, rfl⟩ := Option.map_eq_some_iff.mp hb
  obtain rfl : x = y := P.reasons.hash_eq (eq_iff.mp hab).2.1 hx hy
  exact hid (hpair x hhk)

/-- A function that does not tell equal errors apart, as a hash must not. -/
def Agrees (P : Objects R M) {H : Type} (f : MessageHandlingError C R M → H) : Prop :=
  ∀ a b, P.eq a b = true → f a = f b

/-- **What agrees with `==` cannot depend on the cause**: each error equals the one without a
cause. -/
theorem agrees_iff (hrefl : ∀ x, P.reasons.eq x x = true) {H : Type}
    {f : MessageHandlingError C R M → H} :
    P.Agrees f ↔ (∀ a cause, f { a with cause := cause } = f a) ∧
      ∀ a b, a.type = b.type → P.reasons.eq a.reason b.reason = true → f a = f b := by
  constructor
  · intro hf
    have hnone : ∀ a, f a = f { a with cause := none } := by
      intro a
      refine hf a _ (eq_iff.mpr ⟨rfl, hrefl a.reason, ?_⟩)
      cases a.cause <;> rfl
    refine ⟨fun a cause => ?_, fun a b htype hreason => ?_⟩
    · rw [hnone a, hnone]
    · rw [hnone a, hnone b]
      exact hf _ _ (eq_iff.mpr ⟨htype, hreason, rfl⟩)
  · rintro ⟨-, hf⟩ a b hab
    obtain ⟨htype, hreason, -⟩ := eq_iff.mp hab
    exact hf a b htype hreason

end Objects

end Ptvsd
