import Ptvsd.Validators

/-!
# Validating Again

What the adapter has validated it forwards, and the launcher or the server validates it once
more. A validator may replace what it is given: a missing value by a default, a scalar by a list,
the items of a list and the values of a dict by what another validator makes of them. What it
returns, it returns unchanged when it is given that.

That is proved of each combinator, for whatever validator is inside, and then by induction on how
the validator is composed. Inside a list or a dict no value is missing, so for the outer validator
to work, the inner one must not lose the values that are there: this is proved along.

## Main results

* `validator_idempotent`: **the result of a composed validator passes it unchanged**, also as
  the property of another message.
-/

namespace Ptvsd

/-! ### Values are equal to themselves -/

/-- The value can be had from Python: the keys of each dict in it are distinct. -/
inductive Json.Proper : Json → Prop
  | null : Json.null.Proper
  | bool (b : Bool) : (Json.bool b).Proper
  | int (n : ℤ) : (Json.int n).Proper
  | float (x : ℚ) : (Json.float x).Proper
  | str (s : String) : (Json.str s).Proper
  | list {items : List Json} : (∀ x ∈ items, x.Proper) → (Json.list items).Proper
  | dict {items : List (String × Json)} : (items.map Prod.fst).Nodup →
      (∀ entry ∈ items, entry.2.Proper) → (Json.dict items).Proper

/-- The only entry with a key is found. -/
theorem lookup_of_nodup {items : List (String × Json)} (hnodup : (items.map Prod.fst).Nodup)
    {key : String} {x : Json} (hmem : (key, x) ∈ items) : items.lookup key = some x := by
  obtain ⟨front, back, rfl⟩ := List.append_of_mem hmem
  refine List.lookup_eq_some_iff.mpr ⟨front, back, rfl, fun entry hentry => ?_⟩
  rw [List.map_append, List.map_cons, List.nodup_append] at hnodup
  have hne : entry.1 ≠ key :=
    hnodup.2.2 _ (List.mem_map_of_mem hentry) _ List.mem_cons_self
  simpa using hne.symm

/-- Items that are equal to themselves. -/
theorem eqItems_self {items : List Json} (h : ∀ x ∈ items, x.eq x = true) :
    Json.eqItems items items = true := by
  induction items with
  | nil => rfl
  | cons x rest ih =>
      rw [Json.eqItems, h x List.mem_cons_self, ih fun y hy => h y (List.mem_cons_of_mem x hy)]
      rfl

/-- Entries of a dict are in it, if their values are equal to themselves. -/
theorem eqEntries_subset {items sub : List (String × Json)}
    (hnodup : (items.map Prod.fst).Nodup) (hsub : sub ⊆ items)
    (h : ∀ entry ∈ sub, entry.2.eq entry.2 = true) : Json.eqEntries sub items = true := by
  induction sub with
  | nil => rfl
  | cons entry rest ih =>
      obtain ⟨key, x⟩ := entry
      have hlookup : items.lookup key = some x :=
        lookup_of_nodup hnodup (hsub List.mem_cons_self)
      have hx : x.eq x = true := h _ List.mem_cons_self
      have hrest : Json.eqEntries rest items = true :=
        ih (fun e he => hsub (List.mem_cons_of_mem _ he))
          fun e he => h e (List.mem_cons_of_mem _ he)
      simp only [Json.eqEntries, hlookup, hx, hrest, Bool.and_self]

/-- `x == x`, by induction on the value. -/
theorem Json.Proper.eq_self {x : Json} (h : x.Proper) : x.eq x = true := by
  induction h with
  | null => rfl
  | bool b => simp [Json.eq, Json.number?]
  | int n => simp [Json.eq, Json.number?]
  | float x => simp [Json.eq, Json.number?]
  | str s => simp [Json.eq]
  | list _ ih =>
      rw [Json.eq]
      exact eqItems_self ih
  | dict hnodup _ ih =>
      rw [Json.eq, eqEntries_subset hnodup (List.Subset.refl _) ih]
      simp

/-! ### The combinators -/

namespace Validator

/-- What the validator returns, it returns unchanged; what is there, it does not lose. -/
structure Stable (validate : Validator) : Prop where
  present : ∀ {x : Json} {result : Property}, validate (some x) = .ok result → result.isSome
  again : ∀ {value result : Property}, validate value = .ok result → validate result = .ok result

variable {validate : Validator} {value result : Property}

/-- A validator that replaces nothing. -/
theorem Stable.of_unchanged (h : ∀ value result, validate value = .ok result → result = value) :
    validate.Stable := by
  refine ⟨fun {x result} hok => ?_, fun {value result} hok => ?_⟩
  · rw [h _ _ hok]
    rfl
  · obtain rfl : result = value := h _ _ hok
    exact hok

theorem stable_ofClassInfo (classinfo : List ClassInfo) (optional : Bool) :
    (ofClassInfo classinfo optional).Stable := by
  refine .of_unchanged fun value result hok => ?_
  rw [ofClassInfo] at hok
  split_ifs at hok with haccepted hmissing
  · exact (Except.ok.inj hok).symm
  · cases hnames : classinfo.mapM ClassInfo.name? <;> simp [hnames] at hok

/-- A default has its own type. -/
theorem isinstanceOf_self (x : Json) : x.isinstanceOf x = true := by
  cases x <;> rfl

theorem stable_default (d : Json) : (Validator.default d).Stable := by
  have hpresent : ∀ {x : Json} {result : Property}, Validator.default d (some x) = .ok result →
      result = some x := by
    intro x result hok
    rw [Validator.default] at hok
    split_ifs at hok
    exact (Except.ok.inj hok).symm
  refine ⟨fun {x result} hok => by rw [hpresent hok]; rfl, fun {value result} hok => ?_⟩
  cases value with
  | none =>
      obtain rfl : some d = result := Except.ok.inj hok
      rw [Validator.default, if_pos (isinstanceOf_self d)]
  | some x =>
      obtain rfl : result = some x := hpresent hok
      exact hok

/-- The first value, which stands for a missing one, is one of the values. -/
theorem stable_enumOf {repr : Json → String} {values : List Json}
    (hvalues : ∀ x ∈ values, x.Proper) (optional : Bool) :
    (enumOf repr values optional).Stable := by
  have hpresent : ∀ {x : Json} {result : Property}, enumOf repr values optional (some x) =
      .ok result → result = some x := by
    intro x result hok
    simp only [enumOf] at hok
    split_ifs at hok
    exact (Except.ok.inj hok).symm
  refine ⟨fun {x result} hok => by rw [hpresent hok]; rfl, fun {value result} hok => ?_⟩
  cases value with
  | none =>
      simp only [enumOf] at hok
      split_ifs at hok with hoptional
      obtain rfl : values.head? = result := Except.ok.inj hok
      cases values with
      | nil => simp [enumOf, hoptional]
      | cons x rest =>
          have hx : x.eq x = true := (hvalues x List.mem_cons_self).eq_self
          simp [enumOf, hx]
  | some x =>
      obtain rfl : result = some x := hpresent hok
      exact hok

/-- An item that was replaced. -/
theorem Stable.item (h : validate.Stable) {x y : Json} (hxy : validate.item x = .ok y) :
    validate.item y = .ok y := by
  rw [Validator.item] at hxy
  cases hx : validate (some x) with
  | error e => simp [hx, Except.map] at hxy
  | ok result =>
      obtain ⟨z, rfl⟩ := Option.isSome_iff_exists.mp (h.present hx)
      obtain rfl : z = y := by simpa [hx, Except.map] using hxy
      rw [Validator.item, h.again hx]
      rfl

/-- The items of the list that is returned. -/
theorem Stable.validates (h : validate.Stable) {items items' : List Json}
    (hitems : validate.Validates items items') : validate.Validates items' items' := by
  induction hitems with
  | nil => exact .nil
  | cons hxy _ ih => exact .cons (h.item hxy) ih

/-- The list that is returned is as long as the one that was checked. -/
theorem stable_arrayOf (h : validate.Stable) (vectorize : Bool) (size : Size) :
    (arrayOf validate vectorize size).Stable := by
  refine ⟨fun {x result} hok => ?_, fun {value result} hok => ?_⟩
  · obtain ⟨items, items', -, -, -, rfl⟩ := arrayOf_eq_ok_iff.mp hok
    rfl
  · obtain ⟨items, items', -, hsize, hitems, rfl⟩ := arrayOf_eq_ok_iff.mp hok
    rw [List.Forall₂.length_eq hitems] at hsize
    exact arrayOf_eq_ok_iff.mpr ⟨items', items', rfl, hsize, h.validates hitems, rfl⟩

/-- The values are all valid, and these are, under their keys, what becomes of them. -/
def ValidatesEntries (validate : Validator) (items items' : List (String × Json)) : Prop :=
  List.Forall₂ (fun e e' => e.1 = e'.1 ∧ validate.item e.2 = .ok e'.2) items items'

/-- The loop of `object` keeps the keys, and yields what the validator makes of the values. -/
theorem entries_eq_ok_iff {items items' : List (String × Json)} :
    validate.entries items = .ok items' ↔ validate.ValidatesEntries items items' := by
  induction items generalizing items' with
  | nil => simp [entries, ValidatesEntries, eq_comm]
  | cons entry rest ih =>
      obtain ⟨key, x⟩ := entry
      rw [entries, ValidatesEntries, List.forall₂_cons_left_iff]
      cases hx : validate (some x) with
      | ok y =>
          have hitem : validate.item x = .ok (y.getD .null) := by
            simp [Validator.item, hx, Except.map]
          constructor
          · intro hok
            cases hrest : validate.entries rest with
            | error e => simp [hrest, bind, Except.bind] at hok
            | ok rest' =>
                simp only [hrest, bind, Except.bind, pure, Except.pure, Except.ok.injEq] at hok
                exact ⟨(key, y.getD .null), rest', ⟨rfl, hitem⟩, ih.mp hrest, hok.symm⟩
          · rintro ⟨⟨key', y'⟩, rest', ⟨rfl, hy'⟩, hrest, rfl⟩
            obtain rfl : y.getD .null = y' := Except.ok.inj (hitem.symm.trans hy')
            rw [ih.mpr hrest]
            rfl
      | error e =>
          have hitem : validate.item x = .error e := by simp [Validator.item, hx, Except.map]
          cases e <;> simp [hitem]

/-- The entries of the dict that is returned. -/
theorem Stable.validatesEntries (h : validate.Stable) {items items' : List (String × Json)}
    (hitems : validate.ValidatesEntries items items') :
    validate.ValidatesEntries items' items' := by
  induction hitems with
  | nil => exact .nil
  | cons hentry _ ih => exact .cons ⟨rfl, h.item hentry.2⟩ ih

/-- A dict stays a dict; a missing one becomes an empty one. -/
theorem object_eq_ok (hok : validate.object value = .ok result) :
    ∃ items items', validate.ValidatesEntries items items' ∧ result = some (.dict items') := by
  match value with
  | none => exact ⟨[], [], .nil, (Except.ok.inj hok).symm⟩
  | some (.dict items) =>
      cases hitems : validate.entries items with
      | error e => simp [object, hitems, bind, Except.bind] at hok
      | ok items' =>
          refine ⟨items, items', entries_eq_ok_iff.mp hitems, ?_⟩
          simpa [object, hitems, bind, Except.bind, pure, Except.pure] using hok.symm
  | some .null | some (.bool _) | some (.int _) | some (.float _) | some (.str _)
  | some (.list _) => simp [object] at hok

theorem stable_object (h : validate.Stable) : validate.object.Stable := by
  refine ⟨fun {x result} hok => ?_, fun {value result} hok => ?_⟩
  · obtain ⟨-, items', -, rfl⟩ := object_eq_ok hok
    rfl
  · obtain ⟨items, items', hitems, rfl⟩ := object_eq_ok hok
    rw [object, entries_eq_ok_iff.mpr (h.validatesEntries hitems)]
    rfl

end Validator

/-! ### Composed validators -/

/-- The values that are enumerated can be had from Python. -/
def Validation.Proper : Validation → Prop
  | .any => True
  | .ofType _ _ => True
  | .default _ => True
  | .enum values _ => ∀ x ∈ values, x.Proper
  | .array validateItem _ _ => validateItem.Proper
  | .object validateValue => validateValue.Proper

/-- By induction on how the validator is composed. -/
theorem Validation.Proper.stable {v : Validation} (hv : v.Proper) (repr : Json → String) :
    (v.validator repr).Stable := by
  induction v with
  | any => exact .of_unchanged fun value result hok => (Except.ok.inj hok).symm
  | ofType classinfo optional => exact Validator.stable_ofClassInfo classinfo optional
  | default value => exact Validator.stable_default value
  | enum values optional => exact Validator.stable_enumOf hv optional
  | array validateItem vectorize size ih => exact Validator.stable_arrayOf (ih hv) vectorize size
  | object validateValue ih => exact Validator.stable_object (ih hv)

/-- **The result of a composed validator passes it unchanged**, and so does a property of
whatever message it has become. -/
theorem validator_idempotent (repr : Json → String) {v : Validation} (hv : v.Proper)
    {value result : Property} (h : v.validator repr value = .ok result) :
    v.validator repr result = .ok result ∧
      ∀ (d : MessageDict) (key : String), d.get key = result →
        d.call key (v.validator repr) = .ok result := by
  have hagain : v.validator repr result = .ok result := (hv.stable repr).again h
  refine ⟨hagain, fun d key hkey => ?_⟩
  rw [MessageDict.call, hkey, hagain]

/-- `"program"` for `json.array(json.enum("program", "file"), vectorize=True, size=(1,))`. -/
theorem validator_idempotent_vectorized :
    (Validation.array (.enum [.str "program", .str "file"] false) true (.atLeast 1)).validator
        (fun _ => "") (some (.list [.str "program"])) = .ok (some (.list [.str "program"])) ∧
      ∀ (d : MessageDict) (key : String), d.get key = some (.list [.str "program"]) →
        d.call key ((Validation.array (.enum [.str "program", .str "file"] false) true
          (.atLeast 1)).validator (fun _ => "")) = .ok (some (.list [.str "program"])) := by
  have hproper : (Validation.array (.enum [.str "program", .str "file"] false) true
      (.atLeast 1)).Proper := by
    intro x hx
    rcases List.mem_pair.mp hx with rfl | rfl
    · exact .str _
    · exact .str _
  exact @validator_idempotent (fun _ => "") _ hproper (some (.str "program")) _ rfl

end Ptvsd
