import Ptvsd.Association

/-!
# The Order of Properties

The decoder of a channel passes every JSON object to `object_hook`, which moves the properties
that messages have to the end of the object, if it has a property `seq`. So the order of the
properties of an object may change on the way from one party to another, and nothing else.

`Association` has the same function for objects that know which message they belong to. Here it
is one of values.

## Main results

* `hooked_hooked`: the order changes once.
* `hooked_same`: **it is nothing but the order that changes**, at any depth.
-/

namespace Ptvsd

namespace Json

/-! ### `_prettify` -/

/-- One round of `_prettify`: the item is deleted, and added again at the end. -/
def prettifyKey (items : List (String × Json)) (key : String) : List (String × Json) :=
  match items.lookup key with
  | some value => items.filter (fun item => item.1 != key) ++ [(key, value)]
  | none => items

/-- `_prettify(d)`. -/
def prettify (items : List (String × Json)) : List (String × Json) :=
  prettifyOrder.foldl prettifyKey items

/-- `object_hook(d)`. -/
def objectHook (items : List (String × Json)) : Json :=
  .dict (if (items.lookup "seq").isSome then prettify items else items)

mutual

/-- What the decoder makes of a value. -/
def hooked : Json → Json
  | .list items => .list (hookedList items)
  | .dict items => objectHook (hookedItems items)
  | .null => .null
  | .bool b => .bool b
  | .int n => .int n
  | .float x => .float x
  | .str s => .str s

/-- What it makes of the items of an array. -/
def hookedList : List Json → List Json
  | [] => []
  | value :: values => value.hooked :: hookedList values

/-- What it makes of the items of an object. -/
def hookedItems : List (String × Json) → List (String × Json)
  | [] => []
  | (key, value) :: items => (key, value.hooked) :: hookedItems items

end

/-- The values are equal but for the order of properties. The keys of an object are distinct, so
that it is determined by what is found under them. -/
inductive Same : Json → Json → Prop
  | refl (value : Json) : Same value value
  | list {xs ys : List Json} : xs.length = ys.length →
      (∀ (i : ℕ) (x y : Json), xs[i]? = some x → ys[i]? = some y → Same x y) →
      Same (.list xs) (.list ys)
  | dict {xs ys : List (String × Json)} :
      (∀ key : String, xs.lookup key = none ↔ ys.lookup key = none) →
      (∀ (key : String) (x y : Json), xs.lookup key = some x → ys.lookup key = some y →
        Same x y) →
      Same (.dict xs) (.dict ys)

/-! ### What `_prettify` does -/

variable {items : List (String × Json)} {key : String} {value : Json} {keys : List String}

/-- What is found once an item is deleted. -/
theorem lookup_deleted (items : List (String × Json)) (key key' : String) :
    (items.filter fun item => item.1 != key).lookup key' =
      if key' = key then none else items.lookup key' := by
  induction items with
  | nil => simp
  | cons item items ih =>
      obtain ⟨k, v⟩ := item
      by_cases hk : k = key
      · subst hk
        by_cases hkey : key' = k
        · subst hkey
          simpa using ih
        · have hne : (key' == k) = false := by simpa using hkey
          simpa [List.lookup_cons, hne, hkey] using ih
      · by_cases hkey : key' = k
        · subst hkey
          simp [hk]
        · have hne : (key' == k) = false := by simpa using hkey
          simpa [List.lookup_cons, hk, hne] using ih

theorem lookup_prettifyKey (items : List (String × Json)) (key key' : String) :
    (prettifyKey items key).lookup key' = items.lookup key' := by
  cases hlookup : items.lookup key with
  | none => simp [prettifyKey, hlookup]
  | some value =>
      simp only [prettifyKey, hlookup, List.lookup_append, lookup_deleted]
      by_cases hkey : key' = key
      · subst hkey
        simp [hlookup]
      · have hne : (key' == key) = false := by simpa using hkey
        simp [List.lookup_cons, hne, hkey]

/-- Prettifying does not change what is found. -/
theorem lookup_prettify (items : List (String × Json)) (key : String) :
    (prettify items).lookup key = items.lookup key := by
  have hfold : ∀ keys : List String, ∀ items : List (String × Json),
      (keys.foldl prettifyKey items).lookup key = items.lookup key := by
    intro keys
    induction keys with
    | nil => exact fun _ => rfl
    | cons k keys ih => exact fun items => (ih _).trans (lookup_prettifyKey items k key)
  exact hfold _ _

/-- The items with keys of the order, in that order. -/
def ordered (keys : List String) (items : List (String × Json)) : List (String × Json) :=
  keys.filterMap fun key => (items.lookup key).map fun value => (key, value)

theorem ordered_congr {items' : List (String × Json)}
    (h : ∀ key, items.lookup key = items'.lookup key) :
    ordered keys items = ordered keys items' := by
  simp only [ordered, h]

/-- **Where the items go**: the others first, as they were. -/
theorem foldl_prettifyKey (hkeys : keys.Nodup) (items : List (String × Json)) :
    keys.foldl prettifyKey items =
      items.filter (fun item => item.1 ∉ keys) ++ ordered keys items := by
  induction keys generalizing items with
  | nil => simp [ordered]
  | cons key keys ih =>
      obtain ⟨hkey, hnodup⟩ := List.nodup_cons.mp hkeys
      rw [List.foldl_cons, ih hnodup, ordered_congr (lookup_prettifyKey items key)]
      cases hlookup : items.lookup key with
      | none =>
          have hne : ∀ item ∈ items, item.1 ≠ key := by
            intro item hitem heq
            have hall := List.lookup_eq_none_iff.mp hlookup item hitem
            simp [heq] at hall
          have hfilter : items.filter (fun item => item.1 ∉ keys) =
              items.filter (fun item => item.1 ∉ key :: keys) := by
            refine List.filter_congr fun item hitem => ?_
            simp [hne item hitem]
          simp only [prettifyKey, hlookup, hfilter, ordered, List.filterMap_cons, Option.map_none]
      | some value =>
          have hfilter : ((items.filter fun item => item.1 != key) ++ [(key, value)]).filter
              (fun item => item.1 ∉ keys) =
              items.filter (fun item => item.1 ∉ key :: keys) ++ [(key, value)] := by
            rw [List.filter_append, List.filter_filter]
            congr 1
            · refine List.filter_congr fun item _ => ?_
              by_cases hitem : item.1 = key <;> simp [hitem]
            · simp [hkey]
          simp only [prettifyKey, hlookup, hfilter, ordered, List.filterMap_cons, Option.map_some,
            List.append_assoc, List.singleton_append]

theorem prettify_eq (items : List (String × Json)) :
    prettify items =
      items.filter (fun item => item.1 ∉ prettifyOrder) ++ ordered prettifyOrder items :=
  foldl_prettifyKey (by decide) items

/-- What is in order stays as it is. -/
theorem prettify_prettify (items : List (String × Json)) :
    prettify (prettify items) = prettify items := by
  have hrest : (ordered prettifyOrder items).filter (fun item => item.1 ∉ prettifyOrder) = [] := by
    refine List.filter_eq_nil_iff.mpr fun item hitem => ?_
    obtain ⟨key, hkey, hvalue⟩ := List.mem_filterMap.mp hitem
    obtain ⟨value, -, rfl⟩ := Option.map_eq_some_iff.mp hvalue
    simpa using hkey
  rw [prettify_eq (prettify items), ordered_congr (lookup_prettify items), prettify_eq items,
    List.filter_append, hrest, List.filter_filter, List.append_nil]
  simp

/-! ### What the decoder does -/

theorem hookedList_eq (values : List Json) : hookedList values = values.map hooked := by
  induction values with
  | nil => rfl
  | cons value values ih => rw [hookedList, ih, List.map_cons]

theorem hookedItems_eq (items : List (String × Json)) :
    hookedItems items = items.map fun item => (item.1, item.2.hooked) := by
  induction items with
  | nil => rfl
  | cons item items ih => rw [hookedItems, ih, List.map_cons]

theorem lookup_hookedItems (items : List (String × Json)) (key : String) :
    (hookedItems items).lookup key = (items.lookup key).map hooked := by
  induction items with
  | nil => rfl
  | cons item items ih =>
      obtain ⟨k, v⟩ := item
      rw [hookedItems]
      by_cases hkey : key = k
      · subst hkey
        simp
      · have hne : (key == k) = false := by simpa using hkey
        simpa [List.lookup_cons, hne] using ih

/-- **A decoded object has the decoded properties.** -/
theorem hooked_dict (items : List (String × Json)) :
    ∃ items', (Json.dict items).hooked = .dict items' ∧
      ∀ key, items'.lookup key = (items.lookup key).map hooked := by
  rw [hooked, objectHook]
  refine ⟨_, rfl, fun key => ?_⟩
  split
  · rw [lookup_prettify, lookup_hookedItems]
  · exact lookup_hookedItems items key

/-- The values of an object are decoded one by one, wherever they are in it. -/
theorem hookedItems_prettify (items : List (String × Json)) :
    hookedItems (prettify items) = prettify (hookedItems items) := by
  have hkey : ∀ (items : List (String × Json)) (key : String),
      hookedItems (prettifyKey items key) = prettifyKey (hookedItems items) key := by
    intro items key
    cases hlookup : items.lookup key with
    | none => simp [prettifyKey, lookup_hookedItems, hlookup]
    | some value =>
        have hhooked : (hookedItems items).lookup key = some value.hooked := by
          rw [lookup_hookedItems, hlookup, Option.map_some]
        simp only [prettifyKey, hlookup, hhooked]
        simp only [hookedItems_eq, List.map_append, List.map_cons, List.map_nil, List.filter_map,
          Function.comp_def]
  have hfold : ∀ keys : List String, ∀ items : List (String × Json),
      hookedItems (keys.foldl prettifyKey items) = keys.foldl prettifyKey (hookedItems items) := by
    intro keys
    induction keys with
    | nil => exact fun _ => rfl
    | cons k keys ih =>
        intro items
        rw [List.foldl_cons, ih, hkey, List.foldl_cons]
  exact hfold _ _

mutual

/-- **The second decoder has nothing to move**, by induction on the value. -/
theorem hooked_hooked : (value : Json) → value.hooked.hooked = value.hooked
  | .list items => by
      rw [hooked, hooked, hookedList_hookedList items]
  | .dict items => by
      have hitems := hookedItems_hookedItems items
      rw [hooked, objectHook]
      split_ifs with hseq
      · -- the object is in order already
        have hlookup : ((prettify (hookedItems items)).lookup "seq").isSome = true := by
          rw [lookup_prettify]
          exact hseq
        rw [hooked, hookedItems_prettify, hitems, objectHook, if_pos hlookup, prettify_prettify]
      · rw [hooked, hitems, objectHook, if_neg hseq]
  | .null | .bool _ | .int _ | .float _ | .str _ => rfl

theorem hookedList_hookedList :
    (values : List Json) → hookedList (hookedList values) = hookedList values
  | [] => rfl
  | value :: values => by
      rw [hookedList, hookedList, hooked_hooked value, hookedList_hookedList values]

theorem hookedItems_hookedItems :
    (items : List (String × Json)) → hookedItems (hookedItems items) = hookedItems items
  | [] => rfl
  | (key, value) :: items => by
      rw [hookedItems, hookedItems, hooked_hooked value, hookedItems_hookedItems items]

end

mutual

/-- **Only the order of properties changes**, by induction on the value. -/
theorem hooked_same : (value : Json) → Same value.hooked value
  | .list items => by
      rw [hooked, hookedList_eq]
      refine .list (List.length_map _) fun i x y hx hy => ?_
      rw [List.getElem?_map, hy, Option.map_some, Option.some.injEq] at hx
      subst hx
      exact hookedList_same items y (List.mem_of_getElem? hy)
  | .dict items => by
      obtain ⟨items', hitems', hlookup⟩ := hooked_dict items
      rw [hitems']
      refine .dict (fun key => by rw [hlookup, Option.map_eq_none_iff]) fun key x y hx hy => ?_
      rw [hlookup, hy, Option.map_some, Option.some.injEq] at hx
      subst hx
      obtain ⟨l₁, l₂, hsplit, -⟩ := List.lookup_eq_some_iff.mp hy
      exact hookedItems_same items (key, y) (by simp [hsplit])
  | .null | .bool _ | .int _ | .float _ | .str _ => .refl _

theorem hookedList_same :
    (values : List Json) → ∀ value ∈ values, Same value.hooked value
  | [] => fun _ h => by simp at h
  | value :: values => fun other h => by
      rcases List.mem_cons.mp h with heq | h
      · rw [heq]
        exact hooked_same value
      · exact hookedList_same values other h

theorem hookedItems_same :
    (items : List (String × Json)) → ∀ item ∈ items, Same item.2.hooked item.2
  | [] => fun _ h => by simp at h
  | (key, value) :: items => fun other h => by
      rcases List.mem_cons.mp h with heq | h
      · rw [heq]
        exact hooked_same value
      · exact hookedItems_same items other h

end

end Json

end Ptvsd
