import Ptvsd.Component
import Ptvsd.Message

/-!
# Arguments of the Requests

The validators of `ptvsd.common.json` that the handlers of the IDE apply to the arguments of
a request, `json.default` and `json.array`, and the feature flags of an "initialize" request
or response, `components.Capabilities`.

A handler calls `request(key, validate)`. If the property is invalid, the `MessageDict` calls
`isnt_valid()` of its message, so that the exception that is raised is caused by the request;
that the failure response is sent at that moment is in `Ptvsd.IDE`.

## Main results

* `Request.call_error`: an exception about the arguments is one that `isnt_valid()` of the
  request made, **unless the arguments are not an object**, which is a `TypeError`.
* `exited_serve`: **that exception ends the process**, unless the handler is not wrapped.
-/

namespace Ptvsd

/-! ### Types -/

/-- `type(value).__name__`. -/
def Json.typeName : Json → String
  | .null => "NoneType"
  | .bool _ => "bool"
  | .int _ => "int"
  | .float _ => "float"
  | .str _ => "str"
  | .list _ => "list"
  | .dict _ => "dict"

/-- `isinstance(value, type(default))`. -/
def Json.isinstanceOf (value default : Json) : Bool :=
  match default with
  | .null => match value with
      | .null => true
      | _ => false
  | .bool _ => value.isinstance .bool
  | .int _ => value.isinstance .int
  | .float _ => value.isinstance .float
  | .str _ => value.isinstance .unicode
  | .list _ => value.isinstance .list
  | .dict _ => value.isinstance .dict

/-- `bool(value)`. -/
def Json.truth : Json → Bool
  | .null => false
  | .bool b => b
  | .int n => n ≠ 0
  | .float x => x ≠ 0
  | .str s => s ≠ ""
  | .list items => !items.isEmpty
  | .dict items => !items.isEmpty

/-- `bool(value)` of a property; `()` is false. -/
def Property.truth (value : Property) : Bool := value.any Json.truth

/-- The texts in a property that passed `json.array(unicode)`. -/
def Property.toTexts : Property → List String
  | some (.list items) => items.map fun item => Property.toText (some item)
  | _ => []

/-- `str(exc)`. -/
def PyError.text : PyError → String
  | .typeError text => text
  | .valueError text => text
  | .attributeError text => text
  | .assertionError text => text
  | .messageHandling reason _ => reason
  | .invalidMessage reason _ => invalidMessagePrefix ++ reason

/-! ### Dicts -/

/-- `items[key] = value`: a key that is there already keeps its place. -/
def Dict.set {α : Type} (items : List (String × α)) (key : String) (value : α) :
    List (String × α) :=
  if items.any (·.1 == key) then
    items.map fun item => if item.1 == key then (key, value) else item
  else items ++ [(key, value)]

/-- `del items[key]`, for a key that is there. -/
def Dict.del {α : Type} (items : List (String × α)) (key : String) : List (String × α) :=
  items.filter (·.1 != key)

/-- `key in items`. -/
def Dict.has {α : Type} (items : List (String × α)) (key : String) : Bool := items.any (·.1 == key)

/-! ### Validators -/

/-- `json.default(default)`. -/
def Validator.default (default : Json) : Validator
  | none => .ok (some default)
  | some value =>
      if value.isinstanceOf default then .ok (some value)
      else .error (.typeError ("must be " ++ default.typeName))

/-- The loop of `json.array` over the items, from the index `i`. -/
def Validator.items (validateItem : Validator) : ℕ → List Json → Except PyError (List Json)
  | _, [] => .ok []
  | i, item :: rest =>
      match validateItem (some item) with
      | .ok item' => do
          let rest ← items validateItem (i + 1) rest
          return item'.getD .null :: rest
      | .error (.typeError err) => .error (.typeError ("[" ++ toString i ++ "] " ++ err))
      | .error (.valueError err) => .error (.valueError ("[" ++ toString i ++ "] " ++ err))
      | .error e => .error e

/-- `json.array(validate_item, vectorize=vectorize, size=(min_len,))`; every length is valid
if `min_len` is 0. -/
def Validator.array (validateItem : Validator) (vectorize : Bool) (minLen : ℕ) : Validator :=
  fun value => do
    let items ← match value with
      | none => .ok []
      | some (.list items) => .ok items
      | some (.dict _) => .error (.typeError "must be list")
      | some value => if vectorize then .ok [value] else .error (.typeError "must be list")
    if items.length < minLen then
      .error (.valueError ("must have at least " ++ toString minLen ++ " elements"))
    else do
      let items ← Validator.items validateItem 0 items
      return some (.list items)

/-- `json.array(unicode)`. -/
def Validator.texts : Validator := .array (ofType [.unicode] false) false 0

/-- `json.array(unicode, vectorize=True, size=(1,))`. -/
def Validator.someTexts : Validator := .array (ofType [.unicode] false) true 1

/-! ### Requests with their arguments -/

/-- An incoming request with its `arguments`, which are also its `payload`. -/
structure Request extends IncomingRequest where
  arguments : Json

namespace Request

variable (request : Request)

/-- `request(key, validate)`: only a `MessageDict` can be called. -/
def call (key : String) (validate : Validator) : Except PyError Property :=
  match request.arguments with
  | .dict items => MessageDict.call ⟨items, some request.id⟩ key validate
  | value => .error (.typeError ("'" ++ value.typeName ++ "' object is not callable"))

/-- `key in request`. -/
def contains (key : String) : Bool :=
  match request.arguments with
  | .dict items => Dict.has items key
  | _ => false

/-- The items of the arguments. -/
def items : List (String × Json) :=
  match request.arguments with
  | .dict items => items
  | _ => []

/-- The arguments are an object. -/
def HasArguments : Prop := ∃ items, request.arguments = .dict items

end Request

/-- The validator raises `TypeError` or `ValueError` only. -/
def Validator.Lawful (validate : Validator) : Prop :=
  ∀ value e, validate value = .error e → (∃ t, e = .typeError t) ∨ ∃ t, e = .valueError t

theorem ofType_lawful (classinfo : List PyType) (optional : Bool) :
    (ofType classinfo optional).Lawful := by
  intro value e h
  rw [ofType] at h
  split_ifs at h
  · exact Or.inr ⟨_, (Except.error.inj h).symm⟩
  · exact Or.inl ⟨_, (Except.error.inj h).symm⟩

theorem Validator.default_lawful (value : Json) : (Validator.default value).Lawful := by
  intro property e h
  cases property with
  | none => simp [Validator.default] at h
  | some v =>
      rw [Validator.default] at h
      split_ifs at h
      exact Or.inl ⟨_, (Except.error.inj h).symm⟩

/-- An item that is invalid makes the loop raise an exception of the same type. -/
theorem Validator.items_lawful {validateItem : Validator} (hitem : validateItem.Lawful) :
    ∀ (rest : List Json) (i : ℕ) (e : PyError), Validator.items validateItem i rest = .error e →
      (∃ t, e = .typeError t) ∨ ∃ t, e = .valueError t := by
  intro rest
  induction rest with
  | nil => intro i e h; simp [Validator.items] at h
  | cons item rest ih =>
      intro i e h
      rw [Validator.items] at h
      cases hvalue : validateItem (some item) with
      | ok item' =>
          rw [hvalue] at h
          cases hrest : Validator.items validateItem (i + 1) rest with
          | ok items => simp [hrest, bind, Except.bind, pure, Except.pure] at h
          | error e' =>
              obtain rfl : e' = e := by
                simpa [hrest, bind, Except.bind] using h
              exact ih (i + 1) e' hrest
      | error e' =>
          rw [hvalue] at h
          rcases hitem _ _ hvalue with ⟨t, rfl⟩ | ⟨t, rfl⟩
          · exact Or.inl ⟨_, (Except.error.inj h).symm⟩
          · exact Or.inr ⟨_, (Except.error.inj h).symm⟩

theorem Validator.array_lawful {validateItem : Validator} (hitem : validateItem.Lawful)
    (vectorize : Bool) (minLen : ℕ) : (Validator.array validateItem vectorize minLen).Lawful := by
  have hrest : ∀ (items : List Json) (e : PyError),
      (if items.length < minLen then
        .error (.valueError ("must have at least " ++ toString minLen ++ " elements"))
      else do
        let items ← Validator.items validateItem 0 items
        return some (.list items) : Except PyError Property) = .error e →
      (∃ t, e = .typeError t) ∨ ∃ t, e = .valueError t := by
    intro items e h
    split_ifs at h
    · exact Or.inr ⟨_, (Except.error.inj h).symm⟩
    · cases hitems : Validator.items validateItem 0 items with
      | ok items' => simp [hitems, bind, Except.bind, pure, Except.pure] at h
      | error e' =>
          obtain rfl : e' = e := by simpa [hitems, bind, Except.bind] using h
          exact Validator.items_lawful hitem _ _ _ hitems
  have htype : ∀ e, (Except.error (.typeError "must be list") : Except PyError Property) =
      .error e → (∃ t, e = .typeError t) ∨ ∃ t, e = .valueError t :=
    fun e h => Or.inl ⟨_, (Except.error.inj h).symm⟩
  intro value e h
  match value with
  | none => exact hrest [] e h
  | some (.list items) => exact hrest items e h
  | some (.dict items) => exact htype e h
  | some .null | some (.bool _) | some (.int _) | some (.float _) | some (.str _) =>
      cases vectorize with
      | true => exact hrest _ e h
      | false => exact htype e h

/-- **What is raised about the arguments of a request**: `isnt_valid()` of the request makes
the exception, unless there are no properties to look up. -/
theorem Request.call_error {request : Request} {key : String} {validate : Validator}
    {e : PyError} (hvalidate : validate.Lawful) (h : request.call key validate = .error e) :
    (request.HasArguments ∧ ∃ reason, e = .invalidMessage reason (some request.id)) ∨
      ¬ request.HasArguments ∧ ∃ text, e = .typeError text := by
  unfold Request.call at h
  split at h
  · next items harguments =>
      refine Or.inl ⟨⟨items, harguments⟩, ?_⟩
      rw [MessageDict.call] at h
      cases hvalue : validate (MessageDict.get ⟨items, some request.id⟩ key) with
      | ok value => simp [hvalue] at h
      | error e' =>
          rcases hvalidate _ _ hvalue with ⟨t, rfl⟩ | ⟨t, rfl⟩
          · rw [hvalue] at h
            exact ⟨_, (Except.error.inj h).symm⟩
          · rw [hvalue] at h
            exact ⟨_, (Except.error.inj h).symm⟩
  · next harguments =>
      refine Or.inr ⟨?_, _, (Except.error.inj h).symm⟩
      rintro ⟨items, hitems⟩
      exact harguments items hitems

/-! ### Properties in a handler -/

/-- What is raised for an exception of a validator. -/
def PyError.toException : PyError → PyException
  | .typeError text => .other text
  | .valueError text => .other text
  | .attributeError text => .other text
  | .assertionError text => .assertionError text
  | .messageHandling reason cause => .handlingError .messageHandlingError reason cause
  | .invalidMessage reason cause => .handlingError .invalidMessageError reason cause

/-- An exception of a validator is one of those that are reported to the message, or it passes. -/
theorem PyError.rejects_or_passes (e : PyError) :
    (∃ text, e = .typeError text ∨ e = .valueError text) ∨
      ∀ text, e ≠ .typeError text ∧ e ≠ .valueError text := by
  cases e with
  | typeError text => exact Or.inl ⟨text, Or.inl rfl⟩
  | valueError text => exact Or.inl ⟨text, Or.inr rfl⟩
  | attributeError | assertionError | messageHandling | invalidMessage =>
      refine Or.inr fun text => ⟨?_, ?_⟩ <;> intro h <;> cases h

/-- The message that a `MessageDict` belongs to: a request that was received, or an event or
a response. -/
inductive DictOwner where
  | request (request : IncomingRequest)
  | other (id : MessageId)

namespace DictOwner

/-- The identity of the message. -/
def id : DictOwner → MessageId
  | .request m => m.id
  | .other id => id

/-- `message.isnt_valid(reason)`: the exception is made, and it is sent as the response to
a request. -/
def isntValid : DictOwner → String → Python ObjectId
  | .request m, reason => Ptvsd.isntValid m reason
  | .other id, reason => new (.exception (.handlingError .invalidMessageError reason (some id)))

/-- `message(key, validate)`, where the payload has these items. -/
def call (owner : DictOwner) (items : List (String × Json)) (key : String) (validate : Validator) :
    Python Property :=
  match validate (items.lookup key) with
  | .ok value => pure value
  | .error (.typeError err) => do
      throw (← owner.isntValid (MessageDict.describeInvalid key err))
  | .error (.valueError err) => do
      throw (← owner.isntValid (MessageDict.describeInvalid key err))
  | .error e => raise e.toException

/-- If the message is a request, it can be responded to. -/
def Answerable (owner : DictOwner) (w : World) : Prop :=
  ∀ request, owner = .request request → w.Open

variable {owner : DictOwner} {w : World} {items : List (String × Json)} {key : String}
  {validate : Validator} {value : Property}

theorem exec_isntValid (h : owner.Answerable w) (reason : String) :
    ∃ w', (owner.isntValid reason).exec w = (.ok w.objects.length, w') ∧
      w'.exception? w.objects.length =
        some (.handlingError .invalidMessageError reason (some owner.id)) := by
  cases owner with
  | request m => exact ⟨_, exec_error (h m rfl) _ _, World.exception?_alloc _⟩
  | other id => exact ⟨_, exec_new _, World.exception?_alloc _⟩

/-- A request that cannot be responded to: the exception is another one. -/
theorem isntValid_raises (h : ¬ owner.Answerable w) (reason : String) :
    ∃ request, owner = .request request ∧ ∃ id w' exc,
      (owner.isntValid reason).exec w = (.error id, w') ∧ ¬ w'.Open ∧
        w'.exception? id = some exc ∧
        ((∃ text, exc = .assertionError text) ∨ ∃ text name, exc = .noMoreMessages text name) := by
  cases owner with
  | request m =>
      have hopen : ¬ w.Open := fun hopen => h fun _ _ => hopen
      exact ⟨m, rfl, error_raises m hopen _ _⟩
  | other id => exact absurd (fun _ h => by cases h) h

/-- What `isnt_valid()` makes is raised, or something else is. -/
theorem exec_throw_isntValid (owner : DictOwner) (reason : String) (w : World) :
    ∃ id w', Program.exec (do throw (← owner.isntValid reason) : Python Property) w =
      (.error id, w') := by
  rw [Program.exec_bind]
  rcases (owner.isntValid reason).exec w with ⟨id | id, w'⟩ <;> exact ⟨id, w', rfl⟩

theorem call_ok (h : validate (items.lookup key) = .ok value) :
    (owner.call items key validate).exec w = (.ok value, w) := by
  rw [call, h]
  rfl

/-- `TypeError` and `ValueError` are turned into what `isnt_valid()` makes. -/
theorem call_rejected {e : PyError} {text : String}
    (h : validate (items.lookup key) = .error e) (he : e = .typeError text ∨ e = .valueError text) :
    owner.call items key validate =
      (do throw (← owner.isntValid (MessageDict.describeInvalid key text))) := by
  rcases he with rfl | rfl <;> rw [call, h]

/-- Anything else is raised as it is. -/
theorem call_passes {e : PyError} (h : validate (items.lookup key) = .error e)
    (he : ∀ text, e ≠ .typeError text ∧ e ≠ .valueError text) :
    owner.call items key validate = raise e.toException := by
  rw [call, h]
  cases e with
  | typeError text => exact absurd rfl (he text).1
  | valueError text => exact absurd rfl (he text).2
  | attributeError | assertionError | messageHandling | invalidMessage => rfl

end DictOwner

/-- The handlers of the adapter's components are wrapped, those of the launcher are not. -/
def serve (wrapped : Bool) (request : IncomingRequest) (f : Python Value) (w : World) : World :=
  runHandler (handle request (if wrapped then messageHandler request f else f)) w

section Serve

variable {request : IncomingRequest} {w w' : World} {f : Python Value} {id : ObjectId}

/-- The wrapper cannot respond either. -/
theorem messageHandler_closed {exc : PyException} (h : f.exec w = (.error id, w'))
    (hopen : ¬ w'.Open) (hid : w'.exception? id = some exc)
    (hexc : (∃ text, exc = .assertionError text) ∨ ∃ text name, exc = .noMoreMessages text name) :
    ∃ id' w'' exc', (messageHandler request f).exec w = (.error id', w'') ∧
      w''.exception? id' = some exc' ∧
      ((∃ text, exc' = .assertionError text) ∨
        ∃ text name, exc' = .noMoreMessages text name) := by
  rw [messageHandler, Program.exec_tryCatch_error h, Program.exec_bind_ok Program.exec_get, hid]
  rcases hexc with ⟨text, rfl⟩ | ⟨text, name, rfl⟩
  · exact ⟨id, w', _, rfl, hid, Or.inl ⟨text, rfl⟩⟩
  · obtain ⟨id', w'', exc', hexec, -, hid', hexc'⟩ := error_raises request hopen
      .messageHandlingError (name ++ " disconnected unexpectedly")
    refine ⟨id', w'', exc', ?_, hid', hexc'⟩
    change Program.exec (do throw (← cantHandle request _)) w' = _
    rw [cantHandle, Program.exec_bind, hexec]

/-- **A handler that raises what `isnt_valid()` makes for its request ends the process**, unless
it is not wrapped, and `isnt_valid()` can respond to the request: then what it raises is the
very exception that was sent. -/
theorem exited_serve {wrapped : Bool} (reason : String) (hw : w.exited = false)
    (hf : f.exec w = Program.exec (do throw (← isntValid request reason)) w) :
    (serve wrapped request f w).exited = false ↔ wrapped = false ∧ w.Open := by
  by_cases hopen : w.Open
  · have herror := @exec_error request w hopen .invalidMessageError reason
    rw [isntValid, Program.exec_bind_ok herror] at hf
    set w₁ := (w.alloc (.exception (.handlingError .invalidMessageError reason
      request.id))).answered request (.object w.objects.length) with hw₁
    have hid : w₁.exception? w.objects.length =
        some (.handlingError .invalidMessageError reason request.id) := World.exception?_alloc _
    cases wrapped with
    | false =>
        have hexec := handle_catches request hf hid
        rw [handleResult_answered request rfl (by simp) (Or.inr rfl)] at hexec
        have hrun : serve false request f w = w₁ := by
          rw [serve, if_neg Bool.false_ne_true, runHandler, hexec]
        rw [hrun]
        exact iff_of_true hw ⟨rfl, hopen⟩
    | true =>
        have hexec := handle_catches request (messageHandler_propagates request hf hid)
          (World.exception?_alloc _)
        have hne : Value.object w₁.objects.length ≠ .object w.objects.length := by
          simp [hw₁, World.answered, World.alloc]
        obtain ⟨e, w₂, hraises⟩ := handleResult_raises request
          (w := w₁.alloc (.exception (.handlingError .invalidMessageError reason request.id)))
          rfl hne
        have hexited := runHandler_error (hexec.trans hraises)
        rw [serve, if_pos rfl, hexited]
        simp
  · obtain ⟨id, w₁, exc, hraises, hopen₁, hid, hexc⟩ :=
      error_raises request hopen .invalidMessageError reason
    rw [isntValid, Program.exec_bind, hraises] at hf
    have hpasses (g : Python Value) (id' : ObjectId) (w' : World) (exc' : PyException)
        (hg : g.exec w = (.error id', w')) (hid' : w'.exception? id' = some exc')
        (hexc' : (∃ text, exc' = .assertionError text) ∨
          ∃ text name, exc' = .noMoreMessages text name) :
        (runHandler (handle request g) w).exited = true := by
      refine runHandler_error (handle_passes request hg hid' fun type reason cause => ?_)
      intro h
      rcases hexc' with ⟨text, rfl⟩ | ⟨text, name, rfl⟩ <;> cases h
    have hexited : (serve wrapped request f w).exited = true := by
      cases wrapped with
      | false => exact hpasses f id w₁ exc hf hid hexc
      | true =>
          obtain ⟨id', w', exc', hexec, hid', hexc'⟩ :=
            @messageHandler_closed request _ _ _ _ _ hf hopen₁ hid hexc
          exact hpasses _ id' w' exc' hexec hid' hexc'
    rw [hexited]
    exact iff_of_false (by decide) fun h => hopen h.2

end Serve

/-! ### Capabilities -/

/-- `Capabilities.__init__` for the properties of a class, up to the report to the message:
the flags, or the text that is reported. -/
def capabilities : List (String × Validator) → List (String × Json) →
    Except String (List (String × Json))
  | [], _ => .ok []
  | (name, validate) :: properties, payload =>
      match validate (payload.lookup name) with
      | .ok value => do
          let rest ← capabilities properties payload
          return (name, value.getD .null) :: rest
      | .error exc => .error ("\"" ++ name ++ "\" " ++ exc.text)

/-- `IDE.Capabilities.PROPERTIES`. -/
def ideCapabilities : List (String × Validator) :=
  [("supportsVariableType", .default (.bool false)),
    ("supportsVariablePaging", .default (.bool false)),
    ("supportsRunInTerminalRequest", .default (.bool false)),
    ("supportsMemoryReferences", .default (.bool false))]

/-- `IDE.Expectations.PROPERTIES`. -/
def ideExpectations : List (String × Validator) :=
  [("locale", .default (.str "en-US")),
    ("linesStartAt1", .default (.bool true)),
    ("columnsStartAt1", .default (.bool true)),
    ("pathFormat", enum ["path"] false)]

/-- `Server.Capabilities.PROPERTIES`. -/
def serverCapabilities : List (String × Validator) :=
  ["supportsCompletionsRequest", "supportsConditionalBreakpoints",
    "supportsConfigurationDoneRequest", "supportsDataBreakpoints",
    "supportsDelayedStackTraceLoading", "supportsDisassembleRequest",
    "supportsEvaluateForHovers", "supportsExceptionInfoRequest", "supportsExceptionOptions",
    "supportsFunctionBreakpoints", "supportsGotoTargetsRequest",
    "supportsHitConditionalBreakpoints", "supportsLoadedSourcesRequest", "supportsLogPoints",
    "supportsModulesRequest", "supportsReadMemoryRequest", "supportsRestartFrame",
    "supportsRestartRequest", "supportsSetExpression", "supportsSetVariable",
    "supportsStepBack", "supportsStepInTargetsRequest", "supportsTerminateDebuggee",
    "supportsTerminateRequest", "supportsTerminateThreadsRequest",
    "supportsValueFormattingOptions"].map (fun name => (name, .default (.bool false))) ++
  ["exceptionBreakpointFilters", "additionalModuleColumns",
    "supportedChecksumAlgorithms"].map fun name => (name, .default (.list []))

/-- Without any properties in the message, every capability of the debug server has its
default value, which is a value that passes. -/
theorem serverCapabilities_default :
    ∃ flags, capabilities serverCapabilities [] = .ok flags ∧
      flags.map Prod.fst = serverCapabilities.map Prod.fst := ⟨_, rfl, rfl⟩

/-- An "initialize" request without "pathFormat" is not valid: it has no default value. -/
theorem ideExpectations_required :
    capabilities ideExpectations [] =
      .error "\"pathFormat\" must be one of: ['path']" := rfl

end Ptvsd
