import Mathlib.Data.List.Basic
import Mathlib.Logic.Function.Basic

/-!
# Monitors

A reentrant lock with a condition variable. The thread that has the lock may take it again, and
has to release it as often. A thread that waits gives up the lock, however often it has taken
it, and falls asleep. Being notified wakes it; to return from the wait, it needs the lock, which
it then has as often as before.

What the threads wait for is not part of the monitor. Which of them are due — what they wait
for is the case — is given by a predicate on the threads.

## Main results

* `NoLost.notifyAll`, `NoLost.wait`: nobody sleeps who is due, unless a notification is to
  come, as long as nobody who is due falls asleep without one.
-/

universe u

/-- Where a thread is with respect to the condition variable. -/
inductive Sleep where
  | awake
  /-- In `wait()`, with the lock to be taken so often. -/
  | asleep (depth : ℕ)
  /-- It was notified, and has not returned from `wait()`. -/
  | woken (depth : ℕ)
  deriving DecidableEq

/-- What a notification does to a thread. -/
def Sleep.wake : Sleep → Sleep
  | .asleep depth => .woken depth
  | s => s

theorem Sleep.wake_ne_asleep (s : Sleep) (depth : ℕ) : s.wake ≠ .asleep depth := by
  cases s <;> simp [Sleep.wake]

theorem Sleep.wake_eq_awake {s : Sleep} : s.wake = .awake ↔ s = .awake := by
  cases s <;> simp [Sleep.wake]

/-- A monitor with the threads that use it. -/
structure Monitor (T : Type u) where
  owner : Option T
  /-- How often the owner has taken the lock. -/
  depth : ℕ
  sleep : T → Sleep

namespace Monitor

variable {T : Type u} {m : Monitor T} {t u : T}

/-- The thread can take the lock. -/
def Available (t : T) (m : Monitor T) : Prop := m.owner = none ∨ m.owner = some t

instance [DecidableEq T] : Decidable (m.Available t) := inferInstanceAs (Decidable (_ ∨ _))

/-- Takes the lock. -/
def acquire (t : T) (m : Monitor T) : Monitor T := { m with owner := some t, depth := m.depth + 1 }

/-- Releases the lock, once. -/
def release (m : Monitor T) : Monitor T :=
  if m.depth ≤ 1 then { m with owner := none, depth := 0 } else { m with depth := m.depth - 1 }

/-- Gives up the lock, and falls asleep. -/
def wait [DecidableEq T] (t : T) (m : Monitor T) : Monitor T :=
  ⟨none, 0, Function.update m.sleep t (.asleep m.depth)⟩

/-- Wakes everybody. -/
def notifyAll (m : Monitor T) : Monitor T := { m with sleep := fun t => (m.sleep t).wake }

/-- Takes the lock again, and returns from the wait. -/
def resume [DecidableEq T] (t : T) (depth : ℕ) (m : Monitor T) : Monitor T :=
  ⟨some t, depth, Function.update m.sleep t .awake⟩

@[simp] theorem acquire_owner : (m.acquire t).owner = some t := rfl

@[simp] theorem acquire_sleep : (m.acquire t).sleep = m.sleep := rfl

@[simp] theorem release_sleep : m.release.sleep = m.sleep := by
  rw [release]
  split_ifs <;> rfl

theorem wait_sleep_of_ne [DecidableEq T] (h : u ≠ t) : (m.wait t).sleep u = m.sleep u :=
  Function.update_of_ne h _ _

theorem resume_sleep_self [DecidableEq T] {depth : ℕ} : (m.resume t depth).sleep t = .awake :=
  Function.update_self _ _ _

theorem resume_sleep_of_ne [DecidableEq T] {depth : ℕ} (h : u ≠ t) :
    (m.resume t depth).sleep u = m.sleep u :=
  Function.update_of_ne h _ _

@[simp] theorem notifyAll_owner : m.notifyAll.owner = m.owner := rfl

/-- Only the owner has the lock. -/
theorem Available.eq (h : m.Available t) (hu : m.owner = some u) : u = t := by
  rcases h with h | h
  · simp [hu] at h
  · exact Option.some.inj (hu.symm.trans h)

/-! ### Wake-ups -/

/-- **No wake-up is lost**: nobody who is due sleeps, unless a notification is to come. -/
def NoLost (m : Monitor T) (due : T → Prop) (coming : Prop) : Prop :=
  ∀ t depth, m.sleep t = .asleep depth → due t → coming

variable {due due' : T → Prop} {coming coming' : Prop}

theorem NoLost.notifyAll (m : Monitor T) : m.notifyAll.NoLost due coming :=
  fun _ depth h => absurd h (Sleep.wake_ne_asleep _ depth)

/-- Whoever sleeps and is due was so before, or a notification is to come. -/
theorem NoLost.mono {m' : Monitor T} (h : m.NoLost due coming) (hcoming : coming → coming')
    (hdue : ∀ t depth, m'.sleep t = .asleep depth → due' t →
      m.sleep t = .asleep depth ∧ due t ∨ coming') : m'.NoLost due' coming' := by
  intro t depth ht hdue'
  rcases hdue t depth ht hdue' with ⟨ht, hdue⟩ | hcoming'
  · exact hcoming (h t depth ht hdue)
  · exact hcoming'

/-- A thread falls asleep that is not due, unless a notification is to come. -/
theorem NoLost.wait [DecidableEq T] (h : m.NoLost due coming) (ht : due t → coming) :
    (m.wait t).NoLost due coming := by
  intro u depth hu hdue
  by_cases hut : u = t
  · exact ht (hut ▸ hdue)
  · rw [wait_sleep_of_ne hut] at hu
    exact h u depth hu hdue

end Monitor
