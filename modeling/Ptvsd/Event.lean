import Mathlib.Logic.Function.Basic

/-!
# Events That Several Threads Wait For

An event is a flag that threads wait for: `set` raises it and wakes everybody who is blocked,
`clear` lowers it, and `wait` returns at once if it is raised. A thread that waits for a
condition checks it first, clears the event, and waits if the condition does not hold.

The conditions are not part of the event. Which threads have a pending wake-up — their
condition has come true since they checked it — is given by a predicate on the threads.

## Main results

* `NoLost.set`, `NoLost.clear`, `NoLost.wait`: no wake-up gets lost, as long as nobody clears
  the event while another thread with a pending wake-up stands between its check and its
  wait.
* `blocked_of_wait`: if somebody does, that thread blocks with its wake-up pending.
-/

universe u

/-- Where a thread is with respect to an event. -/
inductive Phase where
  /-- It is neither waiting nor about to. -/
  | busy
  /-- It has checked its condition and is about to wait. -/
  | checked
  /-- It is blocked in `wait`. -/
  | blocked
  deriving DecidableEq

/-- What `set` does to a thread. -/
def Phase.wake : Phase → Phase
  | .blocked => .busy
  | p => p

/-- An event with the threads that use it. -/
@[ext]
structure Event (ι : Type u) where
  flag : Bool
  phase : ι → Phase

namespace Event

variable {ι : Type u} [DecidableEq ι]

/-- Raises the flag and wakes all threads that are blocked. -/
def set (e : Event ι) : Event ι := ⟨true, fun i => (e.phase i).wake⟩

/-- Lowers the flag. -/
def clear (e : Event ι) : Event ι := { e with flag := false }

/-- Moves a thread to another phase. -/
def goto (i : ι) (p : Phase) (e : Event ι) : Event ι :=
  { e with phase := Function.update e.phase i p }

@[simp] theorem goto_phase_self (i : ι) (p : Phase) (e : Event ι) :
    (e.goto i p).phase i = p := by simp [goto]

theorem goto_phase_ne {i j : ι} (h : j ≠ i) (p : Phase) (e : Event ι) :
    (e.goto i p).phase j = e.phase j := by simp [goto, h]

/-- Waits for the flag. -/
def wait (i : ι) (e : Event ι) : Event ι := e.goto i (if e.flag then .busy else .blocked)

/-- **No wake-up is lost**: a thread with a pending wake-up is not blocked, and will not
block. -/
structure NoLost (e : Event ι) (pending : ι → Prop) : Prop where
  checked : ∀ i, e.phase i = .checked → pending i → e.flag = true
  blocked : ∀ i, e.phase i = .blocked → ¬ pending i

variable {e : Event ι} {pending pending' : ι → Prop} {i j : ι}

omit [DecidableEq ι] in
/-- After the event was set, whatever may be pending. -/
theorem NoLost.set (e : Event ι) (pending : ι → Prop) : e.set.NoLost pending := by
  refine ⟨fun _ _ _ => rfl, fun i hi => ?_⟩
  cases h : e.phase i <;> simp [Event.set, h, Phase.wake] at hi

omit [DecidableEq ι] in
theorem NoLost.mono (h : e.NoLost pending) (hp : ∀ i, pending' i → pending i) :
    e.NoLost pending' :=
  ⟨fun i hi hpending => h.checked i hi (hp i hpending),
    fun i hi hpending => h.blocked i hi (hp i hpending)⟩

/-- Threads other than `i` are in the phase that they were in. -/
theorem goto_phase_eq {p q : Phase} (h : (e.goto i p).phase j = q) (hpq : p ≠ q) :
    j ≠ i ∧ e.phase j = q := by
  have hij : j ≠ i := by
    rintro rfl
    exact hpq (by simpa using h)
  exact ⟨hij, by rwa [goto_phase_ne hij] at h⟩

/-- A thread that is busy cannot lose anything. -/
theorem NoLost.busy (h : e.NoLost pending) (i : ι) : (e.goto i .busy).NoLost pending := by
  refine ⟨fun j hj hpending => ?_, fun j hj => ?_⟩
  · exact h.checked j (goto_phase_eq hj (by simp)).2 hpending
  · exact h.blocked j (goto_phase_eq hj (by simp)).2

/-- A thread that has just checked its condition may clear the event, if no other thread
with a pending wake-up is about to wait. -/
theorem NoLost.clear (h : e.NoLost pending) {p : Phase} (hp : p ≠ .blocked)
    (hother : ∀ j, j ≠ i → e.phase j = .checked → ¬ pending j)
    (hpending : ∀ j, pending' j → j ≠ i ∧ pending j) :
    (e.clear.goto i p).NoLost pending' := by
  refine ⟨fun j hj hj' => ?_, fun j hj hj' => ?_⟩
  · obtain ⟨hij, hpend⟩ := hpending j hj'
    rw [goto_phase_ne hij] at hj
    exact absurd hpend (hother j hij hj)
  · exact h.blocked j (goto_phase_eq hj hp).2 (hpending j hj').2

/-- A thread that is about to wait does so. -/
theorem NoLost.wait (h : e.NoLost pending) (hi : e.phase i = .checked) :
    (e.wait i).NoLost pending := by
  cases hflag : e.flag with
  | true =>
      simp only [Event.wait, hflag, if_true]
      exact h.busy i
  | false =>
      simp only [Event.wait, hflag, Bool.false_eq_true, if_false]
      refine ⟨fun j hj hpending => ?_, fun j hj hpending => ?_⟩
      · exact h.checked j (goto_phase_eq hj (by simp)).2 hpending
      · by_cases hij : j = i
        · subst hij
          simpa [hflag] using h.checked j hi hpending
        · rw [goto_phase_ne hij] at hj
          exact h.blocked j hj hpending

/-- **A thread that waits after the event was cleared blocks**, whatever is pending. -/
theorem blocked_of_wait (h : e.flag = false) : (e.wait i).phase i = .blocked := by
  simp [Event.wait, h]

end Event
