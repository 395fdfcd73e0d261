import Ptvsd.IDE

/-!
# What Becomes of the Outcome of a Handler

`IDE.settle` puts together the wrapper of a handler, `Request._handle` and `_run_handlers`.
There are four cases: the handler leaves the response to someone else, returns a body, raises
an exception that the wrapper or `Request._handle` provides for, or raises any other one; a
handler that raises anything after the request was responded to ends the process.

## Main results

* `settle_convertible`: an exception that is provided for gets a failure response.
* `settle_answered_error`: **after a response, every exception ends the process**, and nothing
  more is written.
* `settle_fatal`: any other exception ends the process, and nothing is written.
-/

namespace Ptvsd

/-- An exception that the wrapper or `Request._handle` turns into a failure response. -/
def PyException.Convertible : PyException → Prop
  | .handlingError _ _ _ => True
  | .componentNotAvailable _ => True
  | .jsonIOError _ _ => True
  | .noMoreMessages _ _ => True
  | .assertionError _ => False
  | .other _ => False

namespace IDE

variable {request : IncomingRequest} {w : World} {id : ObjectId}

theorem runHandler_ok {x : Python PUnit} {w' : World} (h : x.exec w = (.ok ⟨⟩, w')) :
    runHandler x w = w' := by
  rw [runHandler, h]

/-- The handler leaves the response to someone else. -/
theorem settle_noResponse (h : w.response = none) :
    settle request (.ok .noResponse) w = w := by
  refine runHandler_ok ?_
  rw [handle_returns request (messageHandler_returns request (Program.exec_ofOutcome _)),
    handleResult, Program.exec_bind_ok Program.exec_get, h]
  rfl

/-- The handler has responded. -/
theorem settle_none {p : ℕ × Value} (h : w.response = some p) :
    settle request (.ok .none) w = w := by
  refine runHandler_ok ?_
  rw [handle_returns request (messageHandler_returns request (Program.exec_ofOutcome _))]
  exact @handleResult_answered request w p.2 .none p.1 h (by simp) (Or.inl rfl)

/-- The handler returns the body. -/
theorem settle_object (h : w.Open) :
    settle request (.ok (.object id)) w = w.answered request (.object id) := by
  refine runHandler_ok ?_
  rw [handle_returns request (messageHandler_returns request (Program.exec_ofOutcome _))]
  exact handleResult_responds request h (by simp) (by simp)

/-- **An exception that is provided for** gets a failure response. -/
theorem settle_convertible {exc : PyException} (h : w.Open)
    (hid : w.exception? id = some exc) (hexc : exc.Convertible) :
    ∃ type reason, settle request (.error id) w =
      (w.alloc (.exception (.handlingError type reason request.id))).answered request
        (.object w.objects.length) := by
  have hexec : (Program.ofOutcome (.error id) : Python Value).exec w = (.error id, w) :=
    Program.exec_ofOutcome _
  have hnew : ∀ type reason,
      (w.alloc (.exception (.handlingError type reason request.id))).exception?
        w.objects.length = some (.handlingError type reason request.id) :=
    fun type reason => World.exception?_alloc _
  by_cases hhandling : ∃ type reason cause, exc = .handlingError type reason cause
  · obtain ⟨type, reason, cause, rfl⟩ := hhandling
    refine ⟨type, reason, runHandler_ok ?_⟩
    rw [handle_catches request (messageHandler_propagates request hexec hid) (hnew _ _)]
    exact handleResult_responds request (h.alloc _) (by simp) (by simp)
  · have hconverts : (∃ type, exc = .componentNotAvailable type) ∨
        (∃ text streamName, exc = .jsonIOError text streamName) ∨
        ∃ text streamName, exc = .noMoreMessages text streamName := by
      cases exc with
      | handlingError type reason cause => exact absurd ⟨_, _, _, rfl⟩ hhandling
      | componentNotAvailable type => exact Or.inl ⟨_, rfl⟩
      | jsonIOError text streamName => exact Or.inr (Or.inl ⟨_, _, rfl⟩)
      | noMoreMessages text streamName => exact Or.inr (Or.inr ⟨_, _, rfl⟩)
      | assertionError text => exact hexc.elim
      | other text => exact hexc.elim
    obtain ⟨reason, hwrapper⟩ := messageHandler_converts request hexec h hid hconverts
    refine ⟨.messageHandlingError, reason, runHandler_ok ?_⟩
    rw [handle_catches request hwrapper (hnew _ _)]
    exact handleResult_answered request rfl (by simp) (Or.inr rfl)

/-! ### The end of the process -/

/-- `Request._handle` raises; nothing was written meanwhile. -/
def Raises (x : Python PUnit) (w : World) : Prop :=
  x.Ends w fun r w' => (∃ e, r = .error e) ∧ w'.written = w.written ∧ w'.response = w.response

theorem runHandler_raises {x : Python PUnit} (h : Raises x w) :
    (runHandler x w).exited = true ∧ (runHandler x w).written = w.written ∧
      (runHandler x w).response = w.response := by
  obtain ⟨⟨e, he⟩, hwritten, hresponse⟩ := h
  have hrun : runHandler x w = { (x.exec w).2 with closed := true, exited := true } := by
    rw [runHandler]
    rcases hexec : x.exec w with ⟨r, w'⟩
    rw [hexec] at he
    subst he
    rfl
  rw [hrun]
  exact ⟨rfl, hwritten, hresponse⟩

/-- What the wrapper raises if it cannot respond to the request. -/
theorem messageHandler_answered {exc : PyException} {p : ℕ × Value}
    (h : w.response = some p) (hid : w.exception? id = some exc)
    (hhandling : ∀ type reason cause, exc ≠ .handlingError type reason cause) :
    (messageHandler request (Program.ofOutcome (.error id))).Ends w fun r w' =>
      (∃ e text, r = .error e ∧ (w'.exception? e = some (.assertionError text) ∨
        w'.exception? e = some (.other text))) ∧
      w'.written = w.written ∧ w'.response = w.response := by
  have hcant : ∀ reason, (do throw (← cantHandle request reason) : Python Value).Ends w
      fun r w' => (∃ e text, r = .error e ∧ (w'.exception? e = some (.assertionError text) ∨
        w'.exception? e = some (.other text))) ∧
      w'.written = w.written ∧ w'.response = w.response := by
    intro reason
    set w₁ := w.alloc (.exception (.handlingError .messageHandlingError reason request.id))
      with hw₁
    have hrespond : (respond request (.object w.objects.length)).exec w₁ =
        (.error w₁.objects.length, w₁.alloc (.exception (.assertionError ""))) := by
      rw [respond, Program.exec_bind_ok Program.exec_get,
        show w₁.response = some p from h]
      rfl
    have hexec : (do throw (← cantHandle request reason) : Python Value).exec w =
        (.error w₁.objects.length, w₁.alloc (.exception (.assertionError ""))) := by
      simp only [cantHandle, error, bind_assoc]
      rw [Program.exec_bind_ok (exec_new _), Program.exec_bind, hrespond]
    exact Program.Ends.of_exec hexec ⟨⟨_, _, rfl, Or.inl (World.exception?_alloc _)⟩, rfl, rfl⟩
  rw [messageHandler, Program.Ends, Program.exec_tryCatch_error (Program.exec_ofOutcome _),
    Program.exec_bind_ok Program.exec_get, hid]
  cases exc with
  | handlingError type reason cause => exact absurd rfl (hhandling type reason cause)
  | componentNotAvailable type => exact hcant _
  | jsonIOError text streamName => exact hcant _
  | noMoreMessages text streamName => exact hcant _
  | assertionError text => exact ⟨⟨_, _, rfl, Or.inl hid⟩, rfl, rfl⟩
  | other text => exact ⟨⟨_, _, rfl, Or.inr hid⟩, rfl, rfl⟩

/-- Other exceptions are not provided for by `Request._handle` either. -/
theorem handle_raises {f : Python Value}
    (h : f.Ends w fun r w' => (∃ e text, r = .error e ∧
      (w'.exception? e = some (.assertionError text) ∨ w'.exception? e = some (.other text))) ∧
      w'.written = w.written ∧ w'.response = w.response) : Raises (handle request f) w := by
  obtain ⟨⟨e, text, hr, hid⟩, hwritten, hresponse⟩ := h
  rcases hexec : f.exec w with ⟨r, w'⟩
  rw [hexec] at hr hid hwritten hresponse
  subst hr
  have hresult : (handlerResult request f).exec w = (.error e, w') := by
    rw [handlerResult, Program.exec_tryCatch_error hexec, Program.exec_bind_ok Program.exec_get]
    rcases hid with hid | hid
    · rw [hid]
      rfl
    · rw [hid]
      rfl
  have hhandle : (handle request f).exec w = (.error e, w') := by
    rw [handle, Program.exec_bind, hresult]
  exact Program.Ends.of_exec hhandle ⟨⟨e, rfl⟩, hwritten, hresponse⟩

/-- **After a response, every exception ends the process**: the wrapper or `Request._handle`
would respond once more, or takes the exception for a second response. -/
theorem settle_answered_error {exc : PyException} {p : ℕ × Value} (h : w.response = some p)
    (hp : p.2 ≠ .object w.objects.length) (hid : w.exception? id = some exc) :
    (settle request (.error id) w).exited = true ∧
      (settle request (.error id) w).written = w.written ∧
      (settle request (.error id) w).response = w.response := by
  refine runHandler_raises ?_
  by_cases hhandling : ∃ type reason cause, exc = .handlingError type reason cause
  · obtain ⟨type, reason, cause, rfl⟩ := hhandling
    have hwrapper := messageHandler_propagates request (Program.exec_ofOutcome (.error id)) hid
    set w' := w.alloc (.exception (.handlingError type reason request.id)) with hw'
    have hnew : w'.exception? w.objects.length =
        some (.handlingError type reason request.id) := World.exception?_alloc _
    have hresult : (handleResult request (.object w.objects.length)).exec w' =
        (.error w'.objects.length, w'.alloc (.exception (.assertionError (handlerText request
          " must not return a response body if it has already invoked request.respond().")))) := by
      rw [handleResult, Program.exec_bind_ok Program.exec_get,
        show w'.response = some (p.1, p.2) from h]
      simp only [Ptvsd.pyAssert, reduceCtorEq, false_or, hp.symm, decide_false,
        Bool.false_eq_true, if_false]
      rfl
    refine Program.Ends.of_exec ((handle_catches request hwrapper hnew).trans hresult) ?_
    exact ⟨⟨_, rfl⟩, rfl, rfl⟩
  · exact handle_raises (messageHandler_answered h hid fun type reason cause heq =>
      hhandling ⟨type, reason, cause, heq⟩)

/-- A handler that leaves the response to someone else must not have responded. -/
theorem settle_noResponse_answered {p : ℕ × Value} (h : w.response = some p) :
    (settle request (.ok .noResponse) w).exited = true := by
  have hraises : Raises (handle request (messageHandler request
      (Program.ofOutcome (.ok .noResponse)))) w := by
    have hresult : (handleResult request .noResponse).exec w = (.error w.objects.length,
        w.alloc (.exception (.assertionError (handlerText request
          " must not return NO_RESPONSE if it has already invoked request.respond().")))) := by
      rw [handleResult, Program.exec_bind_ok Program.exec_get, h]
      rfl
    refine Program.Ends.of_exec (Eq.trans ?_ hresult) ⟨⟨_, rfl⟩, rfl, rfl⟩
    exact handle_returns request (messageHandler_returns request (Program.exec_ofOutcome _))
  exact (runHandler_raises hraises).1

/-- **Any other exception ends the process**, without a response. -/
theorem settle_fatal {exc : PyException} (hid : w.exception? id = some exc)
    (hexc : ¬ exc.Convertible) :
    (settle request (.error id) w).exited = true ∧
      (settle request (.error id) w).written = w.written ∧
      (settle request (.error id) w).response = w.response := by
  refine runHandler_raises (handle_raises ?_)
  rw [messageHandler, Program.Ends, Program.exec_tryCatch_error (Program.exec_ofOutcome _),
    Program.exec_bind_ok Program.exec_get, hid]
  cases exc with
  | handlingError | componentNotAvailable | jsonIOError | noMoreMessages =>
      exact absurd trivial hexc
  | assertionError text => exact ⟨⟨_, _, rfl, Or.inl hid⟩, rfl, rfl⟩
  | other text => exact ⟨⟨_, _, rfl, Or.inr hid⟩, rfl, rfl⟩

end IDE

end Ptvsd
