import Mathlib.Order.Defs.Unbundled

/-!
# Programs With State That Raise Exceptions

A program of an imperative language with exceptions: it works on a state and either returns
or raises, and the state survives the exception. `exec` is what it does from a given state;
the rules say what `bind` and `tryCatch` do with a part that is known to return, or to
raise.

`Ends x s Q` is for programs that are not run step by step: the outcome of `x` from `s`, and
the state that it leaves, satisfy the postcondition `Q`. There is one rule for each way of
composing programs. `Within R x` is the case of a frame: a preorder that every run respects.

`Alike R x y` is for two programs that only differ in a part of the state: from states that are
related by `R` they end alike, and the states that they leave are related again.

## Main results

* `exec_bind`, `exec_tryCatch`: what a program does, from what its parts do.
* `Ends.bind`, `Ends.tryCatch`, `Ends.tryFinally`: **the rules for postconditions**.
* `Within.bind`, `Alike.bind`: frames and relations between programs, part by part.
-/

universe u

/-- A program on states of type `σ` that raises exceptions of type `ε`. -/
abbrev Program (σ ε : Type u) := ExceptT ε (StateM σ)

namespace Program

variable {σ ε α β : Type u}

/-- The outcome of a program from a state, and the state it leaves. -/
def exec (x : Program σ ε α) (s : σ) : Except ε α × σ := StateT.run (ExceptT.run x) s

variable {x : Program σ ε α} {f : α → Program σ ε β} {handler : ε → Program σ ε α}
  {s s' : σ} {a : α} {e : ε}

/-- To return leaves the state as it is. -/
@[simp] theorem exec_pure : exec (pure a : Program σ ε α) s = (.ok a, s) := rfl

/-- The state is read. -/
@[simp] theorem exec_get : exec (get : Program σ ε σ) s = (.ok s, s) := rfl

/-- The state is replaced. -/
@[simp] theorem exec_set : exec (set s' : Program σ ε PUnit) s = (.ok ⟨⟩, s') := rfl

/-- The state is changed. -/
@[simp] theorem exec_modify {g : σ → σ} :
    exec (modify g : Program σ ε PUnit) s = (.ok ⟨⟩, g s) := rfl

/-- **What a sequence does**: the second part runs from the state that the first one leaves, unless
that raises. -/
theorem exec_bind : exec (x >>= f) s = match exec x s with
    | (.ok a, s') => exec (f a) s'
    | (.error e, s') => (.error e, s') := by
  simp only [exec, bind, ExceptT.bind, ExceptT.run, ExceptT.mk, StateT.bind, StateT.run]
  obtain ⟨_ | _, _⟩ := x s <;> rfl

/-- **What a handler of exceptions does**: it runs from the state that the exception left. -/
theorem exec_tryCatch : exec (tryCatch x handler) s = match exec x s with
    | (.ok a, s') => (.ok a, s')
    | (.error e, s') => exec (handler e) s' := by
  simp only [exec, tryCatch, tryCatchThe, MonadExceptOf.tryCatch, ExceptT.tryCatch, ExceptT.run,
    ExceptT.mk, bind, StateT.bind, StateT.run]
  obtain ⟨_ | _, _⟩ := x s <;> rfl

/-- A part that returns hands its value on. -/
theorem exec_bind_ok (h : exec x s = (.ok a, s')) : exec (x >>= f) s = exec (f a) s' := by
  rw [exec_bind, h]

/-- Nothing is caught if nothing is raised. -/
theorem exec_tryCatch_ok (h : exec x s = (.ok a, s')) :
    exec (tryCatch x handler) s = (.ok a, s') := by
  rw [exec_tryCatch, h]

/-- An exception is caught in the state that it was raised in. -/
theorem exec_tryCatch_error (h : exec x s = (.error e, s')) :
    exec (tryCatch x handler) s = exec (handler e) s' := by
  rw [exec_tryCatch, h]

/-- Programs that return, one for each item of a list. -/
theorem exec_mapM_cons {γ : Type} {g : γ → Program σ ε α} {c : γ} {cs : List γ} {as : List α}
    {s'' : σ} (h : exec (g c) s = (.ok a, s')) (hcs : exec (cs.mapM g) s' = (.ok as, s'')) :
    exec ((c :: cs).mapM g) s = (.ok (a :: as), s'') := by
  rw [List.mapM_cons, exec_bind_ok h, exec_bind_ok hcs]
  rfl

/-- A program that ends with the given outcome. -/
def ofOutcome : Except ε α → Program σ ε α
  | .ok a => pure a
  | .error e => throw e

/-- An outcome that is given leaves the state as it is. -/
theorem exec_ofOutcome (r : Except ε α) : exec (ofOutcome r : Program σ ε α) s = (r, s) := by
  cases r with
  | ok a => rfl
  | error e => rfl

/-- A program that begins with a part that leaves the state as it is. -/
theorem outcome_bind_ofOutcome {r : Except ε α} :
    (exec (ofOutcome r >>= f) s).1 = r >>= fun a => (exec (f a) s).1 := by
  rw [exec_bind, exec_ofOutcome]
  cases r with
  | ok a => rfl
  | error e => rfl

/-- What follows only has to agree where it is reached. -/
theorem ofOutcome_bind_congr {r : Except ε α} {f g : α → Program σ ε β}
    (h : ∀ a, r = .ok a → f a = g a) : ofOutcome r >>= f = ofOutcome r >>= g := by
  cases r with
  | ok a => exact h a rfl
  | error e => rfl

/-- A program that begins by reading the state. -/
theorem outcome_bind_get {g : σ → Program σ ε α} :
    (exec (get >>= g) s).1 = (exec (g s) s).1 := rfl

/-- The outcome of a program, as a value. -/
def attempt (x : Program σ ε α) : Program σ ε (Except ε α) :=
  ExceptT.mk fun s => (Except.ok (exec x s).1, (exec x s).2)

/-- `try: x finally: y`. If `y` raises, then the outcome of `x` is lost. -/
def tryFinally (x : Program σ ε α) (y : Program σ ε PUnit) : Program σ ε α := do
  let outcome ← attempt x
  y
  ofOutcome outcome

/-! ### Postconditions -/

/-- The program ends from `s` with an outcome and in a state that satisfy `Q`. -/
def Ends (x : Program σ ε α) (s : σ) (Q : Except ε α → σ → Prop) : Prop :=
  Q (exec x s).1 (exec x s).2

section Ends

variable {Q Q' R : Except ε α → σ → Prop} {P : Except ε β → σ → Prop}

/-- The rule of consequence. -/
theorem Ends.mono (h : Ends x s Q) (hQ : ∀ r s', Q r s' → Q' r s') : Ends x s Q' := hQ _ _ h

/-- A postcondition from a run that is known. -/
theorem Ends.of_exec {r : Except ε α} (h : exec x s = (r, s')) (hQ : Q r s') : Ends x s Q := by
  rw [Ends, h]
  exact hQ

/-- Both postconditions hold. -/
theorem Ends.and (h : Ends x s Q) (h' : Ends x s Q') :
    Ends x s fun r s' => Q r s' ∧ Q' r s' := ⟨h, h'⟩

/-- The rule for returning. -/
theorem ends_pure {Q : Except ε α → σ → Prop} (h : Q (.ok a) s) :
    Ends (pure a : Program σ ε α) s Q := h

/-- The rule for raising. -/
theorem ends_throw {Q : Except ε α → σ → Prop} (h : Q (.error e) s) :
    Ends (throw e : Program σ ε α) s Q := h

/-- The rule for reading the state. -/
theorem ends_get {Q : Except ε σ → σ → Prop} (h : Q (.ok s) s) :
    Ends (get : Program σ ε σ) s Q := h

/-- The rule for replacing the state. -/
theorem ends_set {Q : Except ε PUnit → σ → Prop} (h : Q (.ok ⟨⟩) s') :
    Ends (set s' : Program σ ε PUnit) s Q := h

/-- The rule for changing the state. -/
theorem ends_modify {Q : Except ε PUnit → σ → Prop} {g : σ → σ} (h : Q (.ok ⟨⟩) (g s)) :
    Ends (modify g : Program σ ε PUnit) s Q := h

/-- The rule for an outcome that is given. -/
theorem ends_ofOutcome {Q : Except ε α → σ → Prop} {r : Except ε α} (h : Q r s) :
    Ends (ofOutcome r : Program σ ε α) s Q := by
  cases r with
  | ok a => exact h
  | error e => exact h

/-- The rule of sequencing: what the first part leaves is what the second one starts from. -/
theorem Ends.bind (h : Ends x s R) (hok : ∀ a s', R (.ok a) s' → Ends (f a) s' P)
    (herror : ∀ e s', R (.error e) s' → P (.error e) s') : Ends (x >>= f) s P := by
  rw [Ends, exec_bind]
  rcases hexec : exec x s with ⟨r, s'⟩
  rw [Ends, hexec] at h
  cases r with
  | ok a => exact hok a s' h
  | error e => exact herror e s' h

/-- The rule of sequencing, for a first part that is known to return. -/
theorem Ends.bind_ok (hx : exec x s = (.ok a, s')) (h : Ends (f a) s' P) :
    Ends (x >>= f) s P := by
  rw [Ends, exec_bind_ok hx]
  exact h

/-- The rule of sequencing, for a first part that is known to raise. -/
theorem Ends.bind_error (hx : exec x s = (.error e, s')) (h : P (.error e) s') :
    Ends (x >>= f) s P := by
  rw [Ends, exec_bind, hx]
  exact h

/-- The rule of sequencing, for a first part that does not matter. -/
theorem ends_bind_of_forall (hok : ∀ a s', Ends (f a) s' P) (herror : ∀ e s', P (.error e) s') :
    Ends (x >>= f) s P :=
  Ends.bind (R := fun _ _ => True) trivial (fun a s' _ => hok a s') fun e s' _ => herror e s'

/-- The rule of handling exceptions. -/
theorem Ends.tryCatch (h : Ends x s R) (hok : ∀ a s', R (.ok a) s' → Q (.ok a) s')
    (herror : ∀ e s', R (.error e) s' → Ends (handler e) s' Q) :
    Ends (tryCatch x handler) s Q := by
  rw [Ends, exec_tryCatch]
  rcases hexec : exec x s with ⟨r, s'⟩
  rw [Ends, hexec] at h
  cases r with
  | ok a => exact hok a s' h
  | error e => exact herror e s' h

/-- The rule of `try … finally`: the last part runs in either case. -/
theorem Ends.tryFinally {y : Program σ ε PUnit} (h : Ends x s R)
    (hy : ∀ r s', R r s' → Ends y s' fun r' s'' => match r' with
      | .ok _ => Q r s''
      | .error e => Q (.error e) s'') : Ends (tryFinally x y) s Q := by
  have hattempt : Ends (attempt x) s fun r s' => ∃ r', r = .ok r' ∧ R r' s' :=
    ⟨_, rfl, h⟩
  refine hattempt.bind ?_ ?_
  · rintro r s' ⟨r', hr, hR⟩
    obtain rfl : r = r' := Except.ok.inj hr
    refine (hy r s' hR).bind ?_ ?_
    · intro _ s'' hQ
      exact ends_ofOutcome hQ
    · intro e s'' hQ
      exact hQ
  · rintro e s' ⟨r', hr, -⟩
    cases hr

end Ends

/-! ### Frames -/

/-- Every run of the program relates the state it starts from to the one that it leaves. -/
def Within (R : σ → σ → Prop) (x : Program σ ε α) : Prop :=
  ∀ s, x.Ends s fun _ s' => R s s'

section Within

variable {R : σ → σ → Prop}

/-- A frame serves as a postcondition. -/
theorem Within.ends {Q : Except ε α → σ → Prop} (h : Within R x) (hQ : ∀ r s', R s s' → Q r s') :
    Ends x s Q := (h s).mono hQ

/-- A change of the state respects the frame if it does so from every state. -/
theorem within_modify {g : σ → σ} (h : ∀ s, R s (g s)) :
    Within R (modify g : Program σ ε PUnit) := h

/-- What holds of the state that the second part starts from can be used for its frame. -/
theorem within_get_bind {f : σ → Program σ ε α}
    (h : ∀ s, (f s).Ends s fun _ s' => R s s') : Within R (get >>= f) := by
  intro s
  exact (ends_get (Q := fun r s' => r = .ok s ∧ s' = s) ⟨rfl, rfl⟩).bind
    (fun a s' hs => by
      obtain rfl : a = s := Except.ok.inj hs.1
      rw [hs.2]
      exact h _)
    fun e s' hs => by simp at hs

variable [IsPreorder σ R]

/-- To return respects every frame. -/
theorem within_pure : Within R (pure a : Program σ ε α) := fun s => refl_of R s

/-- To raise respects every frame. -/
theorem within_throw : Within R (throw e : Program σ ε α) := fun s => refl_of R s

/-- To read the state respects every frame. -/
theorem within_get : Within R (get : Program σ ε σ) := fun s => refl_of R s

/-- An outcome that is given respects every frame. -/
theorem within_ofOutcome {r : Except ε α} : Within R (ofOutcome r : Program σ ε α) := by
  cases r with
  | ok a => exact within_pure
  | error e => exact within_throw

/-- The rule of sequencing for frames. -/
theorem Within.bind (h : Within R x) (hf : ∀ a, Within R (f a)) : Within R (x >>= f) := by
  intro s
  refine (h s).bind (fun a s' hs => ?_) fun e s' hs => hs
  exact (hf a s').mono fun _ s'' hs' => trans_of R hs hs'

/-- The rule of handling exceptions for frames. -/
theorem Within.tryCatch (h : Within R x) (hhandler : ∀ e, Within R (handler e)) :
    Within R (tryCatch x handler) := by
  intro s
  refine (h s).tryCatch (fun a s' hs => hs) fun e s' hs => ?_
  exact (hhandler e s').mono fun _ s'' hs' => trans_of R hs hs'

/-- The rule of `try … finally` for frames. -/
theorem Within.tryFinally {y : Program σ ε PUnit} (h : Within R x) (hy : Within R y) :
    Within R (tryFinally x y) := by
  intro s
  refine (h s).tryFinally fun r s' hs => (hy s').mono fun r' s'' hs' => ?_
  cases r' with
  | ok a => exact trans_of R hs hs'
  | error e => exact trans_of R hs hs'

end Within

/-! ### Pairs of programs -/

/-- From related states, the programs have the same outcome and leave related states. -/
def Alike (R : σ → σ → Prop) (x y : Program σ ε α) : Prop :=
  ∀ s t, R s t → (exec x s).1 = (exec y t).1 ∧ R (exec x s).2 (exec y t).2

section Alike

variable {R : σ → σ → Prop} {y : Program σ ε α} {g : α → Program σ ε β}

/-- Both return the same. -/
theorem alike_pure : Alike R (pure a : Program σ ε α) (pure a) := fun _ _ h => ⟨rfl, h⟩

/-- Both raise the same. -/
theorem alike_throw : Alike R (throw e : Program σ ε α) (throw e) := fun _ _ h => ⟨rfl, h⟩

/-- Both change the state, so that the relation is kept. -/
theorem alike_modify {m m' : σ → σ} (h : ∀ s t, R s t → R (m s) (m' t)) :
    Alike R (modify m : Program σ ε PUnit) (modify m') := fun s t hst => ⟨rfl, h s t hst⟩

/-- What is read from related states may differ. -/
theorem alike_get_bind {f f' : σ → Program σ ε α} (h : ∀ s t, R s t → Alike R (f s) (f' t)) :
    Alike R (get >>= f) (get >>= f') := by
  intro s t hst
  rw [exec_bind_ok exec_get, exec_bind_ok exec_get]
  exact h s t hst s t hst

/-- The rule of sequencing for two programs. -/
theorem Alike.bind (h : Alike R x y) (hf : ∀ a, Alike R (f a) (g a)) :
    Alike R (x >>= f) (y >>= g) := by
  intro s t hst
  obtain ⟨hr, hs⟩ := h s t hst
  rw [exec_bind, exec_bind]
  rcases hx : exec x s with ⟨r, s'⟩
  rcases hy : exec y t with ⟨r', t'⟩
  rw [hx, hy] at hr hs
  obtain rfl : r = r' := hr
  cases r with
  | ok a => exact hf a s' t' hs
  | error e => exact ⟨rfl, hs⟩

/-- The rule of handling exceptions for two programs. -/
theorem Alike.tryCatch {handler' : ε → Program σ ε α} (h : Alike R x y)
    (hhandler : ∀ e, Alike R (handler e) (handler' e)) :
    Alike R (tryCatch x handler) (tryCatch y handler') := by
  intro s t hst
  obtain ⟨hr, hs⟩ := h s t hst
  rw [exec_tryCatch, exec_tryCatch]
  rcases hx : exec x s with ⟨r, s'⟩
  rcases hy : exec y t with ⟨r', t'⟩
  rw [hx, hy] at hr hs
  obtain rfl : r = r' := hr
  cases r with
  | ok a => exact ⟨rfl, hs⟩
  | error e => exact hhandler e s' t' hs

end Alike

end Program
