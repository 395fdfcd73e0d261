import Ptvsd.Channel

/-!
# Which Message a `MessageDict` Belongs To

A `MessageDict` reports a missing or invalid property through the message that it belongs to.
While the JSON text of a message is decoded there is no such message yet: every object gets a
method `associate_with`, which assigns to *all* objects of that text, and which the
constructor of the message invokes on its payload, provided that the payload is an object.

This module keeps the identities of the dicts: they live on a heap, and a decoded value refers
to them. Whether a message parses, and what it says, is a matter of its JSON alone, and is
taken from `Ptvsd.Message`.

## Main results

* `associated_iff`: all dicts that can be reached from a message, through its payload or its
  `json`, belong to it, if and only if there is a payload and it is a JSON object.
-/

namespace Ptvsd

/-- A decoded JSON value; a dict is a reference. -/
inductive PyValue where
  | null
  | bool (b : Bool)
  | int (n : ℤ)
  | float (x : ℚ)
  | str (s : String)
  | list (items : List PyValue)
  | dict (id : ℕ)

/-- What the attribute `associate_with` of a dict is bound to. -/
inductive AssociateWith where
  /-- The function of the decoder, which is about all of its dicts. -/
  | decoder
  /-- The function of a dummy payload, which is about that dict. -/
  | dummy

/-- A `MessageDict` object. -/
structure DictObject where
  items : List (String × PyValue)
  message : Option MessageId
  /-- The attribute `associate_with`, if there is one. -/
  associateWith : Option AssociateWith

/-- The `MessageDict` objects there are while a message is being parsed. -/
structure Heap where
  dicts : List DictObject
  /-- `message_dicts`, the dicts that the decoder has made. -/
  messageDicts : List ℕ

/-! ### Decoding -/

/-- `_prettify_order`. -/
def prettifyOrder : List String :=
  ["seq", "type", "request_seq", "success", "command", "event", "message", "arguments", "body",
    "error"]

/-- One round of `_prettify`: the item is deleted, and added again at the end. -/
def prettifyKey (items : List (String × PyValue)) (key : String) : List (String × PyValue) :=
  match items.lookup key with
  | some value => items.filter (fun item => item.1 != key) ++ [(key, value)]
  | none => items

/-- `_prettify(d)`. -/
def prettify (items : List (String × PyValue)) : List (String × PyValue) :=
  prettifyOrder.foldl prettifyKey items

/-- `object_hook(d)`. -/
def Heap.objectHook (items : List (String × PyValue)) (h : Heap) : PyValue × Heap :=
  let items := if (items.lookup "seq").isSome then prettify items else items
  (.dict h.dicts.length,
    { dicts := h.dicts ++ [⟨items, none, some .decoder⟩]
      messageDicts := h.messageDicts ++ [h.dicts.length] })

mutual

/-- The decoder, on a value. -/
def decodeValue : Json → Heap → PyValue × Heap
  | .null, h => (.null, h)
  | .bool b, h => (.bool b, h)
  | .int n, h => (.int n, h)
  | .float x, h => (.float x, h)
  | .str s, h => (.str s, h)
  | .list items, h => (.list (decodeList items h).1, (decodeList items h).2)
  | .dict items, h => (decodeItems items h).2.objectHook (decodeItems items h).1

/-- The decoder, on the items of an array. -/
def decodeList : List Json → Heap → List PyValue × Heap
  | [], h => ([], h)
  | value :: values, h =>
      ((decodeValue value h).1 :: (decodeList values (decodeValue value h).2).1,
        (decodeList values (decodeValue value h).2).2)

/-- The decoder, on the items of an object. -/
def decodeItems : List (String × Json) → Heap → List (String × PyValue) × Heap
  | [], h => ([], h)
  | (key, value) :: items, h =>
      ((key, (decodeValue value h).1) :: (decodeItems items (decodeValue value h).2).1,
        (decodeItems items (decodeValue value h).2).2)

end

/-! ### Making the message -/

/-- `_payload`, on a property of a decoded dict. -/
def Heap.payload (property : Option PyValue) (h : Heap) : PyValue × Heap :=
  match property with
  | none => (.dict h.dicts.length, { h with dicts := h.dicts ++ [⟨[], none, some .dummy⟩] })
  | some .null => (.dict h.dicts.length, { h with dicts := h.dicts ++ [⟨[], none, some .dummy⟩] })
  | some value => (value, h)

/-- `associate_with(message)`, for the function that the dict has. -/
def Heap.associate (m : MessageId) (id : ℕ) (h : Heap) : AssociateWith → Heap
  | .decoder =>
      { h with
        dicts := h.dicts.mapIdx fun i d =>
          if i ∈ h.messageDicts then { d with message := some m, associateWith := none } else d }
  | .dummy => { h with dicts := h.dicts.modify id fun d => { d with message := some m } }

/-- What the constructors of `Event`, `Request` and `Response` do with the payload:
`if isinstance(payload, MessageDict) and hasattr(payload, "associate_with")`. -/
def Heap.instantiate (m : MessageId) (payload : PyValue) (h : Heap) : Heap :=
  match payload with
  | .dict id =>
      match (h.dicts[id]?).bind DictObject.associateWith with
      | some function => h.associate m id function
      | none => h
  | _ => h

/-- The property of the JSON that becomes the payload; a failed response has none, its body is
an exception. -/
def Message.payloadKey : Message → Option String
  | .event _ _ _ => some "body"
  | .request _ _ _ => some "arguments"
  | .response r => if r.body.success then some "body" else none
  | .disconnect => none

/-- `value.get(key)`, for a decoded dict. -/
def Heap.get (value : PyValue) (key : String) (h : Heap) : Option PyValue :=
  match value with
  | .dict id => (h.dicts[id]?).bind fun d => d.items.lookup key
  | _ => none

/-- A message when it is handed to a handler. -/
structure HandedOver where
  message : Message
  /-- The payload, unless it is an exception. -/
  payload : Option PyValue
  /-- The attribute `json`. -/
  json : PyValue
  heap : Heap

/-- `_parse_incoming_message` for a JSON value, up to where the message is instantiated; `none`
if it does not parse. -/
def handOver (m : MessageId) (value : Json) : Option HandedOver :=
  match parseIncoming value with
  | .message message =>
      let json := decodeValue value ⟨[], []⟩
      match message.payloadKey with
      | some key =>
          let payload := json.2.payload (json.2.get json.1 key)
          some ⟨message, some payload.1, json.1, payload.2.instantiate m payload.1⟩
      | none => some ⟨message, none, json.1, json.2⟩
  | _ => none

/-- `self[key]`, and likewise `del self[key]` and `self.pop(key)`. -/
def DictObject.getItem (d : DictObject) (key : String) : Except PyError PyValue :=
  match d.items.lookup key with
  | some value => .ok value
  | none => .error ((⟨[], d.message⟩ : MessageDict).isntValid ("missing property '" ++ key ++ "'"))

/-! ### Reachable dicts -/

/-- A value is a reference to a dict, or an array that contains one at some depth. -/
inductive PyValue.Refers : PyValue → ℕ → Prop
  | dict (id : ℕ) : Refers (.dict id) id
  | list {items : List PyValue} {value : PyValue} {id : ℕ} :
      value ∈ items → Refers value id → Refers (.list items) id

/-- A dict can be reached from a value. -/
inductive Heap.Reaches (h : Heap) : PyValue → ℕ → Prop
  | refers {value : PyValue} {id : ℕ} : value.Refers id → Reaches h value id
  | item {value : PyValue} {i id : ℕ} {d : DictObject} {item : String × PyValue} :
      value.Refers i → h.dicts[i]? = some d → item ∈ d.items → Reaches h item.2 id →
      Reaches h value id

/-- **A message owns its dicts**: every dict that can be reached from its payload or its
`json` belongs to it, so that a missing key is reported for this message. -/
def HandedOver.Associated (handed : HandedOver) (m : MessageId) : Prop :=
  ∀ value, handed.payload = some value ∨ value = handed.json →
    ∀ id, handed.heap.Reaches value id → ∃ d, handed.heap.dicts[id]? = some d ∧
      d.message = some m ∧ ∀ key, d.items.lookup key = none →
        d.getItem key = .error (.invalidMessage ("missing property '" ++ key ++ "'") (some m))

/-! ### What the decoder makes -/

/-- All references of a value are to dicts on the heap. -/
def Heap.Below (h : Heap) (value : PyValue) : Prop := ∀ id, value.Refers id → id < h.dicts.length

/-- A heap that only the decoder has worked on. -/
structure Heap.Decoded (h : Heap) : Prop where
  fresh : ∀ (id : ℕ) (d : DictObject), h.dicts[id]? = some d →
    d.message = none ∧ d.associateWith = some .decoder ∧ id ∈ h.messageDicts
  below : ∀ (id : ℕ) (d : DictObject), h.dicts[id]? = some d → ∀ item ∈ d.items, h.Below item.2

variable {h h' : Heap} {items : List (String × PyValue)} {key : String} {value : PyValue}
  {m : MessageId}

theorem Heap.Below.mono (hv : h.Below value) (hle : h.dicts.length ≤ h'.dicts.length) :
    h'.Below value := fun id hid => (hv id hid).trans_le hle

/-- Prettifying does not add anything. -/
theorem mem_prettifyKey {item : String × PyValue} (hmem : item ∈ prettifyKey items key) :
    item ∈ items := by
  rw [prettifyKey] at hmem
  split at hmem
  · rename_i value hlookup
    rcases List.mem_append.mp hmem with hmem | hmem
    · exact (List.mem_filter.mp hmem).1
    · obtain rfl := List.mem_singleton.mp hmem
      obtain ⟨l₁, l₂, hsplit, -⟩ := List.lookup_eq_some_iff.mp hlookup
      simp [hsplit]
  · exact hmem

theorem mem_prettify {item : String × PyValue} (hmem : item ∈ prettify items) :
    item ∈ items := by
  have hfold : ∀ keys : List String, ∀ items : List (String × PyValue),
      item ∈ keys.foldl prettifyKey items → item ∈ items := by
    intro keys
    induction keys with
    | nil => exact fun _ h => h
    | cons key keys ih => exact fun items h => mem_prettifyKey (ih (prettifyKey items key) h)
  exact hfold _ _ hmem

/-- What is found once an item is deleted. -/
theorem lookup_delete (items : List (String × PyValue)) (key key' : String) :
    (items.filter fun item => item.1 != key).lookup key' =
      if key' = key then none else items.lookup key' := by
  induction items with
  | nil => simp
  | cons item items ih =>
      obtain ⟨k, v⟩ := item
      by_cases hk : k = key
      · subst hk
        by_cases hkey : key' = k
        · subst hkey
          simpa using ih
        · have hne : (key' == k) = false := by simpa using hkey
          simpa [List.lookup_cons, hne, hkey] using ih
      · by_cases hkey : key' = k
        · subst hkey
          simp [hk]
        · have hne : (key' == k) = false := by simpa using hkey
          simpa [List.lookup_cons, hk, hne] using ih

/-- Prettifying does not change what is found. -/
theorem lookup_prettifyKey (items : List (String × PyValue)) (key key' : String) :
    (prettifyKey items key).lookup key' = items.lookup key' := by
  rw [prettifyKey]
  split
  · rename_i value hlookup
    rw [List.lookup_append, lookup_delete]
    split_ifs with hkey
    · subst hkey
      simp [hlookup]
    · have hne : (key' == key) = false := by simpa using hkey
      simp [List.lookup_cons, hne]
  · rfl

theorem lookup_prettify (items : List (String × PyValue)) (key : String) :
    (prettify items).lookup key = items.lookup key := by
  have hfold : ∀ keys : List String, ∀ items : List (String × PyValue),
      (keys.foldl prettifyKey items).lookup key = items.lookup key := by
    intro keys
    induction keys with
    | nil => exact fun _ => rfl
    | cons k keys ih => exact fun items => (ih _).trans (lookup_prettifyKey items k key)
  exact hfold _ _

/-- What the decoder has added to a heap. -/
structure Heap.Grows (h h' : Heap) : Prop where
  decoded : h'.Decoded
  length_le : h.dicts.length ≤ h'.dicts.length

theorem Heap.Grows.trans {h'' : Heap} (h₁ : h.Grows h') (h₂ : h'.Grows h'') : h.Grows h'' :=
  ⟨h₂.decoded, h₁.length_le.trans h₂.length_le⟩

theorem empty_decoded : Heap.Decoded ⟨[], []⟩ :=
  ⟨fun _ _ hd => by simp at hd, fun _ _ hd => by simp at hd⟩

/-- A dict is either an old one or the new one. -/
theorem getElem?_concat_cases {dicts : List DictObject} {d new : DictObject} {id : ℕ}
    (hd : (dicts ++ [new])[id]? = some d) :
    dicts[id]? = some d ∨ id = dicts.length ∧ d = new := by
  rw [List.getElem?_append] at hd
  split_ifs at hd with hlt
  · exact .inl hd
  · obtain ⟨hid, rfl⟩ := List.getElem?_eq_some_iff.mp hd
    simp only [List.length_singleton] at hid
    exact .inr ⟨by omega, by simp⟩

/-- The hook adds one dict. -/
theorem objectHook_grows (hh : h.Decoded) (hitems : ∀ item ∈ items, h.Below item.2) :
    h.Grows (h.objectHook items).2 := by
  have hle : h.dicts.length ≤ (h.objectHook items).2.dicts.length := by
    simp [Heap.objectHook]
  refine ⟨⟨fun id d hd => ?_, fun id d hd item hitem => ?_⟩, hle⟩
  · rcases getElem?_concat_cases hd with hd | ⟨rfl, rfl⟩
    · obtain ⟨hmessage, hassociate, hmem⟩ := hh.fresh id d hd
      exact ⟨hmessage, hassociate, List.mem_append_left _ hmem⟩
    · exact ⟨rfl, rfl, List.mem_append_right _ List.mem_cons_self⟩
  · rcases getElem?_concat_cases hd with hd | ⟨rfl, rfl⟩
    · exact (hh.below id d hd item hitem).mono hle
    · have hmem : item ∈ items := by
        dsimp only at hitem
        split_ifs at hitem
        · exact mem_prettify hitem
        · exact hitem
      exact (hitems item hmem).mono hle

mutual

/-- **What the decoder makes of a value** refers to its own dicts. -/
theorem decodeValue_grows : ∀ (value : Json) {h : Heap}, h.Decoded →
    h.Grows (decodeValue value h).2 ∧ (decodeValue value h).2.Below (decodeValue value h).1
  | .null, _, hh => ⟨⟨hh, le_rfl⟩, fun id hid => by cases hid⟩
  | .bool b, _, hh => ⟨⟨hh, le_rfl⟩, fun id hid => by cases hid⟩
  | .int n, _, hh => ⟨⟨hh, le_rfl⟩, fun id hid => by cases hid⟩
  | .float x, _, hh => ⟨⟨hh, le_rfl⟩, fun id hid => by cases hid⟩
  | .str s, _, hh => ⟨⟨hh, le_rfl⟩, fun id hid => by cases hid⟩
  | .list values, _, hh => by
      obtain ⟨hgrows, hbelow⟩ := decodeList_grows values hh
      refine ⟨hgrows, fun id hid => ?_⟩
      cases hid with
      | list hmem hrefers => exact hbelow _ hmem id hrefers
  | .dict items, _, hh => by
      obtain ⟨hgrows, hbelow⟩ := decodeItems_grows items hh
      have hhook := objectHook_grows hgrows.decoded hbelow
      refine ⟨hgrows.trans hhook, fun id hid => ?_⟩
      simp only [decodeValue, Heap.objectHook] at hid ⊢
      cases hid
      simp

theorem decodeList_grows : ∀ (values : List Json) {h : Heap}, h.Decoded →
    h.Grows (decodeList values h).2 ∧
      ∀ value ∈ (decodeList values h).1, (decodeList values h).2.Below value
  | [], _, hh => ⟨⟨hh, le_rfl⟩, fun _ hmem => by cases hmem⟩
  | value :: values, _, hh => by
      obtain ⟨hgrows, hbelow⟩ := decodeValue_grows value hh
      obtain ⟨hgrows', hbelow'⟩ := decodeList_grows values hgrows.decoded
      refine ⟨hgrows.trans hgrows', fun v hmem => ?_⟩
      rcases List.mem_cons.mp hmem with rfl | hmem
      · exact hbelow.mono hgrows'.length_le
      · exact hbelow' v hmem

theorem decodeItems_grows : ∀ (items : List (String × Json)) {h : Heap}, h.Decoded →
    h.Grows (decodeItems items h).2 ∧
      ∀ item ∈ (decodeItems items h).1, (decodeItems items h).2.Below item.2
  | [], _, hh => ⟨⟨hh, le_rfl⟩, fun _ hmem => by cases hmem⟩
  | (key, value) :: items, _, hh => by
      obtain ⟨hgrows, hbelow⟩ := decodeValue_grows value hh
      obtain ⟨hgrows', hbelow'⟩ := decodeItems_grows items hgrows.decoded
      refine ⟨hgrows.trans hgrows', fun v hmem => ?_⟩
      rcases List.mem_cons.mp hmem with rfl | hmem
      · exact hbelow.mono hgrows'.length_le
      · exact hbelow' v hmem

end

/-- The properties of a decoded object are the decoded properties. -/
theorem lookup_decodeItems (items : List (String × Json)) (h : Heap) (key : String) :
    (∃ value h', items.lookup key = some value ∧
      (decodeItems items h).1.lookup key = some (decodeValue value h').1) ∨
    items.lookup key = none ∧ (decodeItems items h).1.lookup key = none := by
  induction items generalizing h with
  | nil => exact .inr ⟨rfl, rfl⟩
  | cons item items ih =>
      obtain ⟨k, v⟩ := item
      by_cases hk : key = k
      · subst hk
        exact .inl ⟨v, h, by simp, by simp [decodeItems]⟩
      · have hne : (key == k) = false := by simpa using hk
        simpa [List.lookup_cons, hne, decodeItems] using ih (decodeValue v h).2

/-- **The top level of a message**: a dict, whose properties are the decoded ones. -/
theorem get_decodeValue (items : List (String × Json)) (key : String) :
    (decodeValue (.dict items) ⟨[], []⟩).2.get (decodeValue (.dict items) ⟨[], []⟩).1 key =
      (decodeItems items ⟨[], []⟩).1.lookup key := by
  simp only [decodeValue, Heap.objectHook, Heap.get, List.getElem?_concat_length, Option.bind_some]
  split_ifs
  · exact lookup_prettify _ key
  · rfl

/-- Only objects become dicts. -/
theorem decodeValue_dict {value : Json} {id : ℕ} (hid : (decodeValue value h).1 = .dict id) :
    ∃ fields, value = .dict fields := by
  cases value with
  | dict fields => exact ⟨fields, rfl⟩
  | _ => simp [decodeValue] at hid

/-! ### What belongs to the message -/

/-- What can be reached is on the heap, if the items of all dicts are. -/
theorem Heap.Below.reaches (hv : h.Below value)
    (hitems : ∀ (id : ℕ) (d : DictObject), h.dicts[id]? = some d → ∀ item ∈ d.items, h.Below item.2)
    {id : ℕ} (hreach : h.Reaches value id) : id < h.dicts.length := by
  induction hreach with
  | refers hrefers => exact hv _ hrefers
  | item _ hd hitem _ ih => exact ih (hitems _ _ hd _ hitem)

/-- A missing key is reported for the message that the dict belongs to. -/
theorem getItem_missing {d : DictObject} (hmessage : d.message = some m)
    (hlookup : d.items.lookup key = none) :
    d.getItem key = .error (.invalidMessage ("missing property '" ++ key ++ "'") (some m)) := by
  simp only [DictObject.getItem, hlookup, MessageDict.isntValid, hmessage]

/-- The decoder's function is about all dicts, and about their message only. -/
theorem associate_decoder (hh : h.Decoded) (i : ℕ) {id : ℕ} {d : DictObject}
    (hd : (h.associate m i .decoder).dicts[id]? = some d) :
    d.message = some m ∧ ∃ d₀, h.dicts[id]? = some d₀ ∧ d.items = d₀.items := by
  simp only [Heap.associate, List.getElem?_mapIdx, Option.map_eq_some_iff] at hd
  obtain ⟨d₀, hd₀, rfl⟩ := hd
  simp only [(hh.fresh id d₀ hd₀).2.2, if_true]
  exact ⟨trivial, d₀, hd₀, rfl⟩

/-- **The constructor of a message whose payload was decoded** makes everything its own. -/
theorem instantiate_decoded (hh : h.Decoded) {pid : ℕ} (hpid : pid < h.dicts.length) :
    h.instantiate m (.dict pid) = h.associate m pid .decoder := by
  have hd : h.dicts[pid]? = some h.dicts[pid] := List.getElem?_eq_getElem hpid
  simp only [Heap.instantiate, hd, Option.bind_some, (hh.fresh pid _ hd).2.1]

/-- What can be reached after that belongs to the message. -/
theorem owned_of_reaches (hh : h.Decoded) {pid id : ℕ} (hv : h.Below value)
    (hreach : (h.associate m pid .decoder).Reaches value id) :
    ∃ d, (h.associate m pid .decoder).dicts[id]? = some d ∧ d.message = some m := by
  have hlength : (h.associate m pid .decoder).dicts.length = h.dicts.length := by
    simp [Heap.associate]
  have hid : id < (h.associate m pid .decoder).dicts.length := by
    refine Heap.Below.reaches (hv.mono hlength.ge) (fun i d hd item hitem => ?_) hreach
    obtain ⟨-, d₀, hd₀, hitems⟩ := associate_decoder hh pid hd
    exact (hh.below i d₀ hd₀ item (hitems ▸ hitem)).mono hlength.ge
  have hd := List.getElem?_eq_getElem hid
  exact ⟨_, hd, (associate_decoder hh pid hd).1⟩

/-- A message without an object for its payload leaves the dicts of the decoder alone. -/
theorem instantiate_other {property : Option PyValue}
    (hproperty : ∀ id, property ≠ some (.dict id)) {id : ℕ} (hid : id < h.dicts.length) :
    ((h.payload property).2.instantiate m (h.payload property).1).dicts[id]? = h.dicts[id]? := by
  have hdummy : ∀ h' : Heap, h'.dicts = h.dicts ++ [⟨[], none, some .dummy⟩] →
      (h'.instantiate m (.dict h.dicts.length)).dicts[id]? = h.dicts[id]? := by
    intro h' hdicts
    simp only [Heap.instantiate, hdicts, List.getElem?_concat_length, Option.bind_some,
      Heap.associate]
    have hne : h.dicts.length ≠ id := by omega
    simp [hne, List.getElem?_append_left hid]
  cases property with
  | none => exact hdummy _ rfl
  | some value =>
      cases value with
      | null => exact hdummy _ rfl
      | dict i => exact absurd rfl (hproperty i)
      | _ => rfl

/-- The items of the top level of a JSON value. -/
def Json.property (value : Json) (key : String) : Property :=
  match value with
  | .dict items => items.lookup key
  | _ => none

/-- An object at the top level is a reference to a dict. -/
theorem get_object {items : List (String × Json)}
    (hobject : ∃ fields, items.lookup key = some (.dict fields)) :
    ∃ pid, (decodeValue (.dict items) ⟨[], []⟩).2.get (decodeValue (.dict items) ⟨[], []⟩).1 key =
      some (.dict pid) := by
  obtain ⟨fields, hfields⟩ := hobject
  rw [get_decodeValue]
  rcases lookup_decodeItems items ⟨[], []⟩ key with ⟨value, h', hvalue, hlookup⟩ | ⟨hnone, -⟩
  · obtain rfl := Option.some.inj (hfields.symm.trans hvalue)
    exact ⟨_, hlookup⟩
  · simp [hnone] at hfields

/-- Nothing else is. -/
theorem get_other {items : List (String × Json)}
    (hobject : ¬ ∃ fields, items.lookup key = some (.dict fields)) (id : ℕ) :
    (decodeValue (.dict items) ⟨[], []⟩).2.get (decodeValue (.dict items) ⟨[], []⟩).1 key ≠
      some (.dict id) := by
  rw [get_decodeValue]
  rcases lookup_decodeItems items ⟨[], []⟩ key with ⟨value, h', hvalue, hlookup⟩ | ⟨-, hnone⟩
  · intro hdict
    obtain ⟨fields, rfl⟩ := decodeValue_dict (Option.some.inj (hlookup.symm.trans hdict))
    exact hobject ⟨fields, hvalue⟩
  · simp [hnone]

/-- What is found in a dict is on the heap. -/
theorem get_below (hh : h.Decoded) {dict : PyValue} (hget : h.get dict key = some value) :
    h.Below value := by
  cases dict with
  | dict id =>
      obtain ⟨d, hd, hlookup⟩ := Option.bind_eq_some_iff.mp hget
      obtain ⟨l₁, l₂, hsplit, -⟩ := List.lookup_eq_some_iff.mp hlookup
      exact hh.below id d hd (key, value) (by simp [hsplit])
  | _ => simp [Heap.get] at hget

/-- **When all dicts of a message belong to it**: if and only if it has a payload that is a
JSON object. For a list, a scalar, a payload that is missing or null, and a failed response,
they belong to no message. -/
theorem associated_iff {value : Json} {handed : HandedOver}
    (h : handOver m value = some handed) :
    handed.Associated m ↔ ∃ key fields, handed.message.payloadKey = some key ∧
      value.property key = some (.dict fields) := by
  obtain ⟨items, rfl⟩ : ∃ items, value = .dict items := by
    cases value with
    | dict items => exact ⟨items, rfl⟩
    | _ => simp [handOver, parseIncoming] at h
  obtain ⟨⟨hdecoded, -⟩, hbelow⟩ := decodeValue_grows (.dict items) empty_decoded
  obtain ⟨top, htop⟩ : ∃ top, (decodeValue (.dict items) ⟨[], []⟩).1 = .dict top := ⟨_, rfl⟩
  have htopBelow := hbelow top (by rw [htop]; exact .dict top)
  have htopDict := List.getElem?_eq_getElem htopBelow
  -- the dict at the top level is reached through `json`
  have hnot : handed.json = .dict top →
      handed.heap.dicts[top]? = (decodeValue (.dict items) ⟨[], []⟩).2.dicts[top]? →
      ¬ handed.Associated m := by
    intro hjson heap hassociated
    obtain ⟨d, hd, hmessage, -⟩ :=
      hassociated handed.json (.inr rfl) top (by rw [hjson]; exact .refers (.dict top))
    have hfresh := (hdecoded.fresh top d (heap.symm.trans hd)).1
    simp [hfresh] at hmessage
  rw [handOver] at h
  split at h
  case h_1 message hmessage =>
    dsimp only at h
    cases hkey : message.payloadKey with
    | none =>
        rw [hkey] at h
        obtain rfl := Option.some.inj h
        refine iff_of_false (hnot htop rfl) ?_
        rintro ⟨key, fields, hkey', -⟩
        simp [hkey] at hkey'
    | some key =>
        rw [hkey] at h
        obtain rfl := Option.some.inj h
        by_cases hobject : ∃ fields, items.lookup key = some (.dict fields)
        · refine iff_of_true ?_ ⟨key, hobject.choose, hkey, hobject.choose_spec⟩
          obtain ⟨pid, hpid⟩ := get_object hobject
          have hpayload := get_below hdecoded hpid
          rw [hpid]
          have hfinal := instantiate_decoded (m := m) hdecoded (hpayload pid (.dict pid))
          intro value hvalue id hreach
          have hvalueBelow : (decodeValue (.dict items) ⟨[], []⟩).2.Below value := by
            rcases hvalue with hvalue | rfl
            · obtain rfl := Option.some.inj hvalue
              exact hpayload
            · exact hbelow
          dsimp only [Heap.payload] at hreach ⊢
          rw [hfinal] at hreach ⊢
          obtain ⟨d, hd, hmessage⟩ := owned_of_reaches hdecoded hvalueBelow hreach
          exact ⟨d, hd, hmessage, fun key hmissing => getItem_missing hmessage hmissing⟩
        · refine iff_of_false (hnot htop (instantiate_other (get_other hobject) htopBelow)) ?_
          rintro ⟨key', fields, hkey', hfields⟩
          obtain rfl := Option.some.inj (hkey.symm.trans hkey')
          exact hobject ⟨fields, hfields⟩
  case h_2 => simp at h

/-- An event whose body contains an array of objects. -/
theorem associated_iff_event : ∃ handed,
    handOver 7 (.dict [("seq", .int 1), ("type", .str "event"), ("event", .str "output"),
      ("body", .dict [("items", .list [.dict [], .list [.dict [("data", .null)]]])])]) =
        some handed ∧ handed.Associated 7 := by
  obtain ⟨handed, h, hmessage⟩ : ∃ handed,
      handOver 7 (.dict [("seq", .int 1), ("type", .str "event"), ("event", .str "output"),
        ("body", .dict [("items", .list [.dict [], .list [.dict [("data", .null)]]])])]) =
          some handed ∧ handed.message.payloadKey = some "body" := ⟨_, rfl, rfl⟩
  exact ⟨handed, h, (associated_iff h).mpr ⟨"body", _, hmessage, rfl⟩⟩

/-- **A request without arguments**: its `json` belongs to no message. -/
theorem not_associated :
    ¬ ∀ m value handed, handOver m value = some handed → handed.Associated m := by
  intro h
  obtain ⟨handed, hhanded, hmessage⟩ : ∃ handed,
      handOver 7 (.dict [("seq", .int 1), ("type", .str "request"), ("command", .str "pause")]) =
        some handed ∧ handed.message.payloadKey = some "arguments" := ⟨_, rfl, rfl⟩
  obtain ⟨key, fields, hkey, hproperty⟩ := (associated_iff hhanded).mp (h _ _ _ hhanded)
  obtain rfl := Option.some.inj (hmessage.symm.trans hkey)
  cases hproperty

end Ptvsd
