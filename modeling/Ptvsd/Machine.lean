import Mathlib.Data.List.Basic

/-!
# Transition Machines

A machine is a partial step function on states, driven by actions: everything that is
left open — which thread moves next, what a call to the outside returns — is part of the
action, so the step itself is a function and a concrete run can be evaluated.

Two kinds of states matter to a safety argument:

* `Reachable` — the states of all runs from a start state;
* `ReachableWithin C` — the states of those runs in which every step meets the condition
  `C` on the state before the step and the action taken.

`Reachable` is the second notion at the condition that is always true, so that one
induction principle serves both.

## Main results

* `Invariant.of_reachable` / `InvariantWithin.of_reachable`: a property that holds at the
  start and survives every step holds in every state reached.
* `run_iff_stepsWithin`: a property that holds after a run if and only if its steps meet `C`.
* `reachable_iff_run`: reachability is the existence of a list of actions to execute.
* `run_rel`, `run_related`: what a run does to a state, and what it does to two of them.
* `exists_run_of_rank`: a goal can be reached if some step always brings it closer.
-/

universe u v

/-- A transition machine: its start states, and its step under an action. -/
structure Machine (σ : Type u) (α : Type v) where
  /-- The states a run may begin in. -/
  start : σ → Prop
  /-- The state after an action, or `none` when the action is not enabled. -/
  step : σ → α → Option σ

namespace Machine

variable {σ : Type u} {α : Type v} (M : Machine σ α)

/-! ### Runs -/

/-- The state after a list of actions, or `none` when one of them is not enabled. -/
def run : σ → List α → Option σ
  | s, [] => some s
  | s, a :: as => (M.step s a).bind fun s' => run s' as

@[simp] theorem run_nil (s : σ) : M.run s [] = some s := rfl

@[simp] theorem run_cons (s : σ) (a : α) (as : List α) :
    M.run s (a :: as) = (M.step s a).bind fun s' => M.run s' as := rfl

/-- A run splits after any of its actions. -/
theorem run_append (s : σ) (as bs : List α) :
    M.run s (as ++ bs) = (M.run s as).bind fun s' => M.run s' bs := by
  induction as generalizing s with
  | nil => rfl
  | cons a as ih =>
      simp only [List.cons_append, run_cons, Option.bind_assoc]
      cases M.step s a with
      | none => rfl
      | some s' => simpa using ih s'

/-- A run that continues another one. -/
theorem run_trans {s s' s'' : σ} {as bs : List α} (h₁ : M.run s as = some s')
    (h₂ : M.run s' bs = some s'') : M.run s (as ++ bs) = some s'' := by
  rw [run_append, h₁]
  exact h₂

/-! ### Reachable states -/

/-- The states of the runs in which every step meets the condition `C`. -/
inductive ReachableWithin (C : σ → α → Prop) : σ → Prop
  | start {s : σ} : M.start s → ReachableWithin C s
  | step {s s' : σ} {a : α} :
      ReachableWithin C s → C s a → M.step s a = some s' → ReachableWithin C s'

/-- The states of all runs. -/
def Reachable : σ → Prop := M.ReachableWithin fun _ _ => True

variable {M}

theorem Reachable.of_start {s : σ} (h : M.start s) : M.Reachable s :=
  ReachableWithin.start h

theorem Reachable.step {s s' : σ} {a : α} (h : M.Reachable s)
    (hstep : M.step s a = some s') : M.Reachable s' :=
  ReachableWithin.step h trivial hstep

/-- What a restricted run reaches, some run reaches. -/
theorem ReachableWithin.reachable {C : σ → α → Prop} {s : σ}
    (h : M.ReachableWithin C s) : M.Reachable s := by
  induction h with
  | start hs => exact Reachable.of_start hs
  | step _ _ hstep ih => exact ih.step hstep

variable (M) in
/-- Every step of a list of actions meets the condition `C`. -/
def StepsWithin (C : σ → α → Prop) : σ → List α → Prop
  | _, [] => True
  | s, a :: as => C s a ∧ ∀ s', M.step s a = some s' → StepsWithin C s' as

/-- A condition that can be checked can be checked along a list of actions. -/
instance decidableStepsWithin {C : σ → α → Prop} [∀ s a, Decidable (C s a)] :
    ∀ (s : σ) (as : List α), Decidable (M.StepsWithin C s as)
  | _, [] => isTrue trivial
  | s, a :: as =>
      match h : M.step s a with
      | none => decidable_of_iff (C s a)
          ⟨fun hC => ⟨hC, fun _ hs' => by simp [h] at hs'⟩, fun hC => hC.1⟩
      | some s₁ =>
          have : Decidable (M.StepsWithin C s₁ as) := decidableStepsWithin s₁ as
          decidable_of_iff (C s a ∧ M.StepsWithin C s₁ as)
            ⟨fun hC => ⟨hC.1, fun _ hs' => Option.some.inj (h.symm.trans hs') ▸ hC.2⟩,
              fun hC => ⟨hC.1, hC.2 s₁ h⟩⟩

/-- A restricted run from a state of a restricted run. -/
theorem ReachableWithin.run {C : σ → α → Prop} {s s' : σ} {as : List α}
    (h : M.ReachableWithin C s) (hC : M.StepsWithin C s as) (hrun : M.run s as = some s') :
    M.ReachableWithin C s' := by
  induction as generalizing s with
  | nil =>
      obtain rfl : s = s' := Option.some.inj hrun
      exact h
  | cons a as ih =>
      obtain ⟨s₁, h₁, h₂⟩ := Option.bind_eq_some_iff.mp hrun
      exact ih (h.step hC.1 h₁) (hC.2 s₁ h₁) h₂

/-- The first step of a list of actions, when the state that it leads to is known. -/
theorem StepsWithin.cons {C : σ → α → Prop} {s s' : σ} {a : α} {as : List α} (hC : C s a)
    (hstep : M.step s a = some s') (h : M.StepsWithin C s' as) :
    M.StepsWithin C s (a :: as) := by
  refine ⟨hC, fun t ht => ?_⟩
  obtain rfl : s' = t := Option.some.inj (hstep.symm.trans ht)
  exact h

/-- Actions that meet the condition in every state. -/
theorem StepsWithin.of_forall {C : σ → α → Prop} {s : σ} {as : List α}
    (h : ∀ a ∈ as, ∀ s, C s a) : M.StepsWithin C s as := by
  induction as generalizing s with
  | nil => trivial
  | cons a as ih =>
      exact ⟨h a List.mem_cons_self s, fun _ _ => ih fun b hb => h b (List.mem_cons_of_mem a hb)⟩

/-- A run from a reachable state ends in a reachable state. -/
theorem Reachable.run {s s' : σ} {as : List α} (h : M.Reachable s)
    (hrun : M.run s as = some s') : M.Reachable s' := by
  refine ReachableWithin.run h ?_ hrun
  clear hrun h
  induction as generalizing s with
  | nil => trivial
  | cons a as ih => exact ⟨trivial, fun s' _ => ih⟩

/-- The reachable states are those that some list of actions leads to. -/
theorem reachable_iff_run {s : σ} :
    M.Reachable s ↔ ∃ s₀ as, M.start s₀ ∧ M.run s₀ as = some s := by
  constructor
  · intro h
    induction h with
    | start hs => exact ⟨_, [], hs, rfl⟩
    | @step s s' a _ _ hstep ih =>
        obtain ⟨s₀, as, hs, hrun⟩ := ih
        exact ⟨s₀, as ++ [a], hs, M.run_trans hrun (by simp [hstep])⟩
  · rintro ⟨s₀, as, hs, hrun⟩
    exact (Reachable.of_start hs).run hrun

/-! ### Invariants -/

variable (M)

/-- `I` holds at the start and survives every step that meets the condition `C`. -/
structure InvariantWithin (C : σ → α → Prop) (I : σ → Prop) : Prop where
  start : ∀ {s}, M.start s → I s
  step : ∀ {s s' a}, I s → C s a → M.step s a = some s' → I s'

/-- `I` holds at the start and survives every step. -/
structure Invariant (I : σ → Prop) : Prop where
  start : ∀ {s}, M.start s → I s
  step : ∀ {s s' a}, I s → M.step s a = some s' → I s'

variable {M}

/-- **Invariants hold of every state reached**, for runs restricted by a condition. -/
theorem InvariantWithin.of_reachable {C : σ → α → Prop} {I : σ → Prop}
    (h : M.InvariantWithin C I) {s : σ} (hs : M.ReachableWithin C s) : I s := by
  induction hs with
  | start h₀ => exact h.start h₀
  | step _ hC hstep ih => exact h.step ih hC hstep

/-- **Invariants hold of every reachable state.** -/
theorem Invariant.of_reachable {I : σ → Prop} (h : M.Invariant I) {s : σ}
    (hs : M.Reachable s) : I s :=
  InvariantWithin.of_reachable ⟨h.start, fun hI _ hstep => h.step hI hstep⟩ hs

/-- **A property that a step keeps exactly if it meets a condition** survives a run exactly if
all of its steps meet the condition. -/
theorem run_iff_stepsWithin {I Q : σ → Prop} {C : σ → α → Prop} (hI : M.Invariant I)
    (hQ : ∀ {s s' a}, I s → M.step s a = some s' → (Q s' ↔ Q s ∧ C s a)) {s s' : σ} {as : List α}
    (hs : I s) (hrun : M.run s as = some s') : Q s' ↔ Q s ∧ M.StepsWithin C s as := by
  induction as generalizing s with
  | nil =>
      obtain rfl : s = s' := Option.some.inj hrun
      exact (and_iff_left trivial).symm
  | cons a as ih =>
      obtain ⟨s₁, h₁, h₂⟩ := Option.bind_eq_some_iff.mp hrun
      rw [ih (hI.step hs h₁) h₂, hQ hs h₁, and_assoc]
      refine and_congr_right fun _ => and_congr_right fun _ =>
        ⟨fun h s₂ hs₂ => ?_, fun h => h s₁ h₁⟩
      obtain rfl : s₁ = s₂ := Option.some.inj (h₁.symm.trans hs₂)
      exact h

/-! ### Relations -/

/-- **A preorder that relates each state to the next one** relates the ends of a run. -/
theorem run_rel {R : σ → σ → Prop} (hrefl : ∀ s, R s s)
    (htrans : ∀ {s s' s''}, R s s' → R s' s'' → R s s'')
    (hstep : ∀ {s s' a}, M.step s a = some s' → R s s') {s s' : σ} {as : List α}
    (hrun : M.run s as = some s') : R s s' := by
  induction as generalizing s with
  | nil =>
      obtain rfl : s = s' := Option.some.inj hrun
      exact hrefl s
  | cons a as ih =>
      obtain ⟨s₁, h₁, h₂⟩ := Option.bind_eq_some_iff.mp hrun
      exact htrans (hstep h₁) (ih h₂)

/-- **Two runs of the same actions** stay related if each step keeps them so. -/
theorem run_related {R : σ → σ → Prop}
    (h : ∀ {s s' t t' a}, R s t → M.step s a = some s' → M.step t a = some t' → R s' t')
    {s s' t t' : σ} {as : List α} (hst : R s t) (hs : M.run s as = some s')
    (ht : M.run t as = some t') : R s' t' := by
  induction as generalizing s t with
  | nil =>
      obtain rfl : s = s' := Option.some.inj hs
      obtain rfl : t = t' := Option.some.inj ht
      exact hst
  | cons a as ih =>
      obtain ⟨s₁, hs₁, hs₂⟩ := Option.bind_eq_some_iff.mp hs
      obtain ⟨t₁, ht₁, ht₂⟩ := Option.bind_eq_some_iff.mp ht
      exact ih (h hst hs₁ ht₁) hs₂ ht₂

/-! ### Goals -/

/-- **A goal that can always be brought closer can be reached**: outside of `Q` every state
of `P` has a step that decreases the rank and stays within `P`. -/
theorem exists_run_of_rank {P Q : σ → Prop} (rank : σ → ℕ)
    (h : ∀ s, P s → ¬ Q s → ∃ a s', M.step s a = some s' ∧ P s' ∧ rank s' < rank s) {s : σ}
    (hs : P s) : ∃ as s', M.run s as = some s' ∧ P s' ∧ Q s' := by
  induction hn : rank s using Nat.strongRecOn generalizing s with
  | ind n ih =>
      by_cases hQ : Q s
      · exact ⟨[], s, rfl, hs, hQ⟩
      · obtain ⟨a, s₁, hstep, hs₁, hrank⟩ := h s hs hQ
        obtain ⟨as, s', hrun, hs'⟩ := ih (rank s₁) (hn ▸ hrank) hs₁ rfl
        exact ⟨a :: as, s', by rw [run_cons, hstep]; exact hrun, hs'⟩

end Machine
