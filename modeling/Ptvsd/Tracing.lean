import Ptvsd.Machine

/-!
# Tracing a Thread

`ptvsd.tracing()` on one thread: called without an argument, with one, or in a with-statement, and
the attachment of a debugger, which sets the global debugger of pydevd and makes it trace the
thread. Of a debugger that is attached, it is recorded what `tracing()` returns and what
is called on it; no step depends on that.

As long as there is no debugger, the function is meant to have no effect. It does keep in
`_tls.is_tracing`, though, that the thread is not traced, and attachment does not change that.

## Main results

* `unaffected_iff`: what is called before the attachment is not seen afterwards, **unless it
  set `_tls.is_tracing`, and the first thing to be done afterwards is to look at it**: by
  `tracing()`, or in a with-statement that is left.
* `wasTracing_eq_traced`: if nothing was called before, `tracing()` is right ever after.
-/

namespace Ptvsd

/-- What is seen of a thread. -/
inductive Observation where
  /-- The result of `tracing()`. -/
  | result (isTracing : Bool)
  /-- `pydb.enable_tracing()`. -/
  | enableTracing
  /-- `pydb.disable_tracing()`. -/
  | disableTracing
  deriving DecidableEq

/-- A with-statement that was entered: what `restore_tracing()` refers to. -/
structure RestoreTracing where
  /-- There was a debugger. -/
  pydb : Bool
  wasTracing : Bool
  deriving DecidableEq

/-- A thread, and the debugger. -/
structure Tracing where
  /-- There is a debugger. -/
  pydb : Bool
  /-- `_tls.is_tracing`, once it is set. -/
  isTracing : Option Bool
  /-- The with-statements, from the inside to the outside. -/
  entered : List RestoreTracing
  /-- The debugger traces the thread. -/
  traced : Bool
  /-- What was seen since there is a debugger. -/
  observed : List Observation
  deriving DecidableEq

namespace Tracing

/-- A thread that has not called the function. -/
def init : Tracing := ⟨false, none, [], false, []⟩

/-- `was_tracing`. -/
def wasTracing (s : Tracing) : Bool := s.isTracing.getD s.pydb

/-- `enable_or_disable(enable)`, as it was defined with or without a debugger. -/
def enableOrDisable (pydb enable : Bool) (s : Tracing) : Tracing :=
  if pydb then
    { s with
      isTracing := some enable
      traced := enable
      observed := s.observed ++ [if enable then .enableTracing else .disableTracing] }
  else { s with isTracing := some s.pydb }

/-- What can happen. -/
inductive Action where
  /-- `tracing()`. -/
  | query
  /-- `tracing(should_trace)`. -/
  | set (shouldTrace : Bool)
  /-- `with tracing(should_trace):`. -/
  | enter (shouldTrace : Bool)
  /-- The innermost with-statement is left. -/
  | leave
  /-- A debugger is attached. -/
  | attach
  deriving DecidableEq

/-- The step under an action. -/
def step (s : Tracing) : Action → Option Tracing
  | .query =>
      some (if s.pydb then { s with observed := s.observed ++ [.result s.wasTracing] } else s)
  | .set shouldTrace => some (s.enableOrDisable s.pydb shouldTrace)
  | .enter shouldTrace =>
      some { s.enableOrDisable s.pydb shouldTrace with
        entered := ⟨s.pydb, s.wasTracing⟩ :: s.entered }
  | .leave =>
      match s.entered with
      | [] => none
      | restore :: entered =>
          some ({ s with entered := entered }.enableOrDisable restore.pydb restore.wasTracing)
  | .attach => some { s with pydb := true, traced := true }

end Tracing

/-- A thread that uses `ptvsd.tracing()`. -/
def tracing : Machine Tracing Tracing.Action where
  start s := s = .init
  step := Tracing.step

namespace Tracing

/-! ### What is called before the attachment -/

/-- The arguments of the with-statements that are not left, from the inside to the outside. All
other calls have finished. -/
def unfinished : List Bool → List Action → List Bool
  | open_, [] => open_
  | open_, .enter shouldTrace :: rest => unfinished (shouldTrace :: open_) rest
  | open_, .leave :: rest => unfinished open_.tail rest
  | open_, _ :: rest => unfinished open_ rest

/-- `_tls.is_tracing` is set. -/
def Action.changes : Action → Bool
  | .set _ => true
  | .enter _ => true
  | .leave => true
  | _ => false

/-- A with-statement is left, inside of which `n` others are entered. -/
def leaves : ℕ → List Action → Bool
  | _, [] => false
  | n, .enter _ :: rest => leaves (n + 1) rest
  | 0, .leave :: _ => true
  | n + 1, .leave :: rest => leaves n rest
  | n, _ :: rest => leaves n rest

/-- The first that is done is to call `tracing()`, or to enter a with-statement that is left. -/
def looksBack : List Action → Bool
  | .attach :: rest => looksBack rest
  | .query :: _ => true
  | .enter _ :: rest => leaves 0 rest
  | _ => false

variable {s s' t t' : Tracing} {a : Action} {as pre pre' post : List Action}

/-! ### Steps -/

@[simp] theorem enableOrDisable_pydb (pydb enable : Bool) (s : Tracing) :
    (s.enableOrDisable pydb enable).pydb = s.pydb := by
  cases pydb <;> rfl

@[simp] theorem enableOrDisable_entered (pydb enable : Bool) (s : Tracing) :
    (s.enableOrDisable pydb enable).entered = s.entered := by
  cases pydb <;> rfl

theorem enableOrDisable_with (pydb enable : Bool) (s : Tracing) (entered : List RestoreTracing) :
    { s with entered := entered }.enableOrDisable pydb enable =
      { s.enableOrDisable pydb enable with entered := entered } := by
  cases pydb <;> rfl

/-- Leaving a with-statement. -/
theorem step_leave (h : s.step .leave = some s') : ∃ restore entered,
    s.entered = restore :: entered ∧
      s' = { s.enableOrDisable restore.pydb restore.wasTracing with entered := entered } := by
  rw [step] at h
  split at h
  · simp at h
  · next restore entered hentered =>
      refine ⟨restore, entered, hentered, ?_⟩
      rw [← enableOrDisable_with]
      exact (Option.some.inj h).symm

/-- What was seen stays. -/
theorem step_observed (h : s.step a = some s') : s.observed <+: s'.observed := by
  have hchange : ∀ (pydb enable : Bool),
      s.observed <+: (s.enableOrDisable pydb enable).observed := by
    intro pydb enable
    cases pydb with
    | true => exact List.prefix_append _ _
    | false => exact List.prefix_refl _
  cases a with
  | query =>
      obtain rfl := Option.some.inj h
      split_ifs
      · exact List.prefix_append _ _
      · exact List.prefix_refl _
  | set shouldTrace =>
      obtain rfl := Option.some.inj h
      exact hchange _ _
  | enter shouldTrace =>
      obtain rfl := Option.some.inj h
      exact hchange _ _
  | leave =>
      obtain ⟨restore, entered, -, rfl⟩ := step_leave h
      exact hchange _ _
  | attach =>
      obtain rfl := Option.some.inj h
      exact List.prefix_refl _

/-- What was seen stays, in a whole run. -/
theorem run_observed (h : tracing.run s as = some s') : s.observed <+: s'.observed :=
  @Machine.run_rel _ _ tracing (fun s s' => s.observed <+: s'.observed)
    (fun s => List.prefix_refl s.observed) List.IsPrefix.trans step_observed _ _ _ h

/-! ### Without a debugger -/

/-- A thread without a debugger: nothing was seen, and no with-statement will do anything. -/
structure Detached (s : Tracing) : Prop where
  pydb : s.pydb = false
  observed : s.observed = []
  traced : s.traced = false
  entered : ∀ restore ∈ s.entered, restore.pydb = false

theorem detached_init : init.Detached := ⟨rfl, rfl, rfl, by simp [init]⟩

/-- Without a debugger, nothing but `_tls.is_tracing` changes. -/
theorem Detached.step (hs : s.Detached) (ha : a ≠ .attach) (h : s.step a = some s') :
    s'.Detached ∧ s'.isTracing = (if a.changes then some false else s.isTracing) ∧
      ∀ open_ : List Bool, s.entered.length = open_.length →
        s'.entered.length = (unfinished open_ [a]).length := by
  obtain ⟨hpydb, hobserved, htraced, hentered⟩ := hs
  cases a with
  | query =>
      obtain rfl : s = s' := by simpa [Tracing.step, hpydb] using h
      exact ⟨⟨hpydb, hobserved, htraced, hentered⟩, rfl, fun _ hlength => hlength⟩
  | set shouldTrace =>
      obtain rfl : { s with isTracing := some false } = s' := by
        simpa [Tracing.step, enableOrDisable, hpydb] using h
      exact ⟨⟨hpydb, hobserved, htraced, hentered⟩, rfl, fun _ hlength => hlength⟩
  | enter shouldTrace =>
      obtain rfl : { s with
          isTracing := some false
          entered := ⟨false, s.wasTracing⟩ :: s.entered } = s' := by
        simpa [Tracing.step, enableOrDisable, hpydb] using h
      refine ⟨⟨hpydb, hobserved, htraced, ?_⟩, rfl, fun open_ hlength => ?_⟩
      · exact List.forall_mem_cons.mpr ⟨rfl, hentered⟩
      · simp [unfinished, hlength]
  | leave =>
      obtain ⟨restore, entered, hcons, rfl⟩ := step_leave h
      rw [hcons, List.forall_mem_cons] at hentered
      rw [enableOrDisable, hentered.1]
      refine ⟨⟨hpydb, hobserved, htraced, hentered.2⟩, ?_, fun open_ hlength => ?_⟩
      · simp [Action.changes, hpydb]
      · simp only [unfinished, List.length_tail, ← hlength, hcons, List.length_cons,
          Nat.add_sub_cancel]
  | attach => exact absurd rfl ha

/-- The with-statements after an action and then others. -/
theorem unfinished_cons (open_ : List Bool) (a : Action) (as : List Action) :
    unfinished open_ (a :: as) = unfinished (unfinished open_ [a]) as := by
  cases a <;> rfl

/-- Nothing but `_tls.is_tracing` changes in a run. -/
theorem Detached.run (hs : s.Detached) (has : Action.attach ∉ as)
    (h : tracing.run s as = some s') :
    s'.Detached ∧ s'.isTracing = (if as.any Action.changes then some false else s.isTracing) ∧
      ∀ open_ : List Bool, s.entered.length = open_.length →
        s'.entered.length = (unfinished open_ as).length := by
  induction as generalizing s with
  | nil =>
      obtain rfl : s = s' := Option.some.inj h
      exact ⟨hs, rfl, fun _ hlength => hlength⟩
  | cons a as ih =>
      obtain ⟨s₁, h₁, h₂⟩ := Option.bind_eq_some_iff.mp h
      rw [List.mem_cons, not_or] at has
      obtain ⟨hs₁, hisTracing₁, hlength₁⟩ := hs.step (Ne.symm has.1) h₁
      obtain ⟨hs', hisTracing, hlength⟩ := ih hs₁ has.2 h₂
      refine ⟨hs', ?_, fun open_ hopen => ?_⟩
      · rw [hisTracing, hisTracing₁, List.any_cons]
        cases a.changes <;> cases as.any Action.changes <;> rfl
      · rw [unfinished_cons]
        exact hlength _ (hlength₁ open_ hopen)

/-! ### Threads that look the same -/

/-- The with-statements do the same when they are left. -/
def RestoreTracing.Alike (r r' : RestoreTracing) : Prop :=
  r.pydb = r'.pydb ∧ (r.pydb = true → r.wasTracing = r'.wasTracing)

/-- The threads cannot be told apart. -/
structure Alike (s t : Tracing) : Prop where
  pydb : s.pydb = t.pydb
  isTracing : s.isTracing = t.isTracing
  traced : s.traced = t.traced
  observed : s.observed = t.observed
  entered : List.Forall₂ RestoreTracing.Alike s.entered t.entered

theorem Alike.wasTracing (h : Alike s t) : s.wasTracing = t.wasTracing := by
  rw [Tracing.wasTracing, Tracing.wasTracing, h.isTracing, h.pydb]

/-- What a with-statement was entered with matters only if there was a debugger. -/
theorem Alike.enableOrDisable (h : Alike s t) {pydb enable enable' : Bool}
    (henable : pydb = true → enable = enable') {entered entered' : List RestoreTracing}
    (hentered : List.Forall₂ RestoreTracing.Alike entered entered') :
    Alike { s.enableOrDisable pydb enable with entered := entered }
      { t.enableOrDisable pydb enable' with entered := entered' } := by
  cases pydb with
  | true =>
      obtain rfl := henable rfl
      exact ⟨h.pydb, rfl, rfl, congrArg (· ++ _) h.observed, hentered⟩
  | false => exact ⟨h.pydb, congrArg some h.pydb, h.traced, h.observed, hentered⟩

/-- Threads that cannot be told apart do the same. -/
theorem Alike.step (hst : Alike s t) (hs : s.step a = some s') (ht : t.step a = some t') :
    Alike s' t' := by
  cases a with
  | query =>
      obtain rfl := Option.some.inj hs
      obtain rfl := Option.some.inj ht
      rw [← hst.wasTracing]
      cases hpydb : s.pydb with
      | true =>
          have hpydb' : t.pydb = true := hst.pydb.symm.trans hpydb
          rw [if_pos rfl, if_pos hpydb']
          exact ⟨hpydb'.symm, hst.isTracing, hst.traced, congrArg (· ++ _) hst.observed,
            hst.entered⟩
      | false =>
          have hpydb' : ¬ t.pydb = true := by simp [← hst.pydb, hpydb]
          rw [if_neg Bool.false_ne_true, if_neg hpydb']
          exact hst
  | set shouldTrace =>
      obtain rfl := Option.some.inj hs
      obtain rfl := Option.some.inj ht
      have hset : ∀ s : Tracing, s.enableOrDisable s.pydb shouldTrace =
          { s.enableOrDisable s.pydb shouldTrace with entered := s.entered } := by
        intro s
        rw [← enableOrDisable_with]
      rw [hset s, hset t, ← hst.pydb]
      exact hst.enableOrDisable (fun _ => rfl) hst.entered
  | enter shouldTrace =>
      obtain rfl := Option.some.inj hs
      obtain rfl := Option.some.inj ht
      rw [← hst.pydb, ← hst.wasTracing]
      exact hst.enableOrDisable (fun _ => rfl) (.cons ⟨rfl, fun _ => rfl⟩ hst.entered)
  | leave =>
      obtain ⟨restore, entered, hcons, rfl⟩ := step_leave hs
      obtain ⟨restore', entered', hcons', rfl⟩ := step_leave ht
      have hentered := hst.entered
      rw [hcons, hcons', List.forall₂_cons] at hentered
      rw [← hentered.1.1]
      exact hst.enableOrDisable hentered.1.2 hentered.2
  | attach =>
      obtain rfl := Option.some.inj hs
      obtain rfl := Option.some.inj ht
      exact ⟨rfl, hst.isTracing, rfl, hst.observed, hst.entered⟩

/-! ### What is seen afterwards -/

/-- Lists that go on differently. -/
theorem eq_of_append_prefix {l xs : List Observation} {x y : Observation}
    (hx : l ++ [x] <+: xs) (hy : l ++ [y] <+: xs) : x = y := by
  have hxy : l ++ [x] <+: l ++ [y] :=
    List.prefix_of_prefix_length_le hx hy (by simp)
  simpa using hxy.eq_of_length (by simp)

/-- **A with-statement that restores something else** is seen exactly if it is left: by
induction on what is done, with the with-statements inside of it. -/
theorem observed_iff_leaves {inner : List RestoreTracing} (hpydb : s.pydb = true)
    (hs : tracing.run { s with entered := inner ++ [⟨true, true⟩] } post = some s')
    (ht : tracing.run { s with entered := inner ++ [⟨true, false⟩] } post = some t') :
    s'.observed = t'.observed ↔ leaves inner.length post = false := by
  induction post generalizing s inner with
  | nil =>
      obtain rfl := Option.some.inj hs
      obtain rfl := Option.some.inj ht
      exact ⟨fun _ => rfl, fun _ => rfl⟩
  | cons a post ih =>
      obtain ⟨s₁, hs₁, hs₂⟩ := Option.bind_eq_some_iff.mp hs
      obtain ⟨t₁, ht₁, ht₂⟩ := Option.bind_eq_some_iff.mp ht
      cases a with
      | query =>
          obtain rfl := Option.some.inj hs₁
          obtain rfl := Option.some.inj ht₁
          rw [if_pos hpydb] at hs₂ ht₂
          exact @ih { s with observed := s.observed ++ [.result s.wasTracing] } inner hpydb
            hs₂ ht₂
      | set shouldTrace =>
          obtain rfl := Option.some.inj hs₁
          obtain rfl := Option.some.inj ht₁
          rw [enableOrDisable_with] at hs₂ ht₂
          exact @ih (s.enableOrDisable s.pydb shouldTrace) inner (by simpa using hpydb) hs₂ ht₂
      | enter shouldTrace =>
          obtain rfl := Option.some.inj hs₁
          obtain rfl := Option.some.inj ht₁
          rw [enableOrDisable_with] at hs₂ ht₂
          exact @ih (s.enableOrDisable s.pydb shouldTrace) (⟨s.pydb, s.wasTracing⟩ :: inner)
            (by simpa using hpydb) hs₂ ht₂
      | leave =>
          cases inner with
          | nil =>
              obtain rfl := Option.some.inj hs₁
              obtain rfl := Option.some.inj ht₁
              have hs' : s.observed ++ [.enableTracing] <+: s'.observed := run_observed hs₂
              have ht' : s.observed ++ [.disableTracing] <+: t'.observed := run_observed ht₂
              have hne : s'.observed ≠ t'.observed := by
                intro heq
                rw [heq] at hs'
                simpa using eq_of_append_prefix hs' ht'
              simp [hne, leaves]
          | cons restore inner =>
              obtain rfl := Option.some.inj hs₁
              obtain rfl := Option.some.inj ht₁
              simp only [enableOrDisable_with] at hs₂ ht₂
              exact @ih (s.enableOrDisable restore.pydb restore.wasTracing) inner
                (by simpa using hpydb) hs₂ ht₂
      | attach =>
          obtain rfl := Option.some.inj hs₁
          obtain rfl := Option.some.inj ht₁
          exact @ih { s with pydb := true, traced := true } inner rfl hs₂ ht₂

/-- A thread outside of all with-statements, when a debugger has been attached. -/
def attached (isTracing : Option Bool) : Tracing := ⟨true, isTracing, [], true, []⟩

/-- **That `_tls.is_tracing` was set** is seen exactly if it is looked at first. -/
theorem observed_iff_looksBack (hs : tracing.run (attached none) post = some s')
    (ht : tracing.run (attached (some false)) post = some t') :
    s'.observed = t'.observed ↔ looksBack post = false := by
  induction post with
  | nil =>
      obtain rfl := Option.some.inj hs
      obtain rfl := Option.some.inj ht
      exact ⟨fun _ => rfl, fun _ => rfl⟩
  | cons a post ih =>
      obtain ⟨s₁, hs₁, hs₂⟩ := Option.bind_eq_some_iff.mp hs
      obtain ⟨t₁, ht₁, ht₂⟩ := Option.bind_eq_some_iff.mp ht
      cases a with
      | query =>
          obtain rfl := Option.some.inj hs₁
          obtain rfl := Option.some.inj ht₁
          have hs' : [] ++ [.result true] <+: s'.observed := run_observed hs₂
          have ht' : [] ++ [.result false] <+: t'.observed := run_observed ht₂
          have hne : s'.observed ≠ t'.observed := by
            intro heq
            rw [heq] at hs'
            simpa using eq_of_append_prefix hs' ht'
          simp [hne, looksBack]
      | set shouldTrace =>
          -- from here on, the threads are the same
          obtain rfl := Option.some.inj hs₁
          obtain rfl := Option.some.inj ht₁
          obtain rfl : s' = t' := Option.some.inj (hs₂.symm.trans ht₂)
          exact ⟨fun _ => rfl, fun _ => rfl⟩
      | enter shouldTrace =>
          obtain rfl := Option.some.inj hs₁
          obtain rfl := Option.some.inj ht₁
          exact @observed_iff_leaves ((attached none).enableOrDisable true shouldTrace) _ _ post []
            rfl hs₂ ht₂
      | leave => simp [tracing, step, attached] at hs₁
      | attach =>
          obtain rfl := Option.some.inj hs₁
          obtain rfl := Option.some.inj ht₁
          exact ih hs₂ ht₂

/-- A thread at the attachment. -/
theorem run_attach (hpre : Action.attach ∉ pre)
    (h : tracing.run init (pre ++ .attach :: post) = some s') :
    ∃ s : Tracing, s.Detached ∧
      s.isTracing = (if pre.any Action.changes then some false else none) ∧
      s.entered.length = (unfinished [] pre).length ∧
      tracing.run { s with pydb := true, traced := true } post = some s' := by
  rw [Machine.run_append] at h
  obtain ⟨s, hs, h⟩ := Option.bind_eq_some_iff.mp h
  obtain ⟨hdetached, hisTracing, hlength⟩ := detached_init.run hpre hs
  exact ⟨s, hdetached, hisTracing, hlength [] rfl, h⟩

/-- Threads with as many with-statements, none of which will do anything. -/
theorem alike_of_detached {xs ys : List RestoreTracing} (hlength : xs.length = ys.length)
    (hxs : ∀ r ∈ xs, r.pydb = false) (hys : ∀ r ∈ ys, r.pydb = false) :
    List.Forall₂ RestoreTracing.Alike xs ys := by
  induction xs generalizing ys with
  | nil =>
      obtain rfl := List.length_eq_zero_iff.mp hlength.symm
      exact .nil
  | cons x xs ih =>
      cases ys with
      | nil => simp at hlength
      | cons y ys =>
          rw [List.forall_mem_cons] at hxs hys
          refine .cons ⟨hxs.1.trans hys.1.symm, fun h => ?_⟩
            (ih (Nat.succ.inj hlength) hxs.2 hys.2)
          exact absurd h (by simp [hxs.1])

/-- Without a call that sets `_tls.is_tracing`, no with-statement was entered. -/
theorem unfinished_eq_nil (hpre : pre.any Action.changes = false) : unfinished [] pre = [] := by
  induction pre with
  | nil => rfl
  | cons a pre ih =>
      rw [List.any_cons, Bool.or_eq_false_iff] at hpre
      cases a with
      | query => exact ih hpre.2
      | attach => exact ih hpre.2
      | set _ => simp [Action.changes] at hpre
      | enter _ => simp [Action.changes] at hpre
      | leave => simp [Action.changes] at hpre

/-- The first thread has not set `_tls.is_tracing`, and the second one has. -/
theorem observed_iff_of_changes (hs : s.Detached) (ht : t.Detached) (hsnone : s.isTracing = none)
    (htsome : t.isTracing = some false) (hsentered : s.entered = []) (htentered : t.entered = [])
    (hs' : tracing.run { s with pydb := true, traced := true } post = some s')
    (ht' : tracing.run { t with pydb := true, traced := true } post = some t') :
    s'.observed = t'.observed ↔ looksBack post = false := by
  have hs₀ : { s with pydb := true, traced := true } = attached none := by
    simp [attached, hsnone, hsentered, hs.observed]
  have ht₀ : { t with pydb := true, traced := true } = attached (some false) := by
    simp [attached, htsome, htentered, ht.observed]
  rw [hs₀] at hs'
  rw [ht₀] at ht'
  exact observed_iff_looksBack hs' ht'

/-- Both threads have set `_tls.is_tracing`, or none of them has. -/
theorem observed_eq_of_detached (hs : s.Detached) (ht : t.Detached)
    (hisTracing : s.isTracing = t.isTracing) (hlength : s.entered.length = t.entered.length)
    (hs' : tracing.run { s with pydb := true, traced := true } post = some s')
    (ht' : tracing.run { t with pydb := true, traced := true } post = some t') :
    s'.observed = t'.observed := by
  have halike : Alike { s with pydb := true, traced := true }
      { t with pydb := true, traced := true } :=
    ⟨rfl, hisTracing, rfl, hs.observed.trans ht.observed.symm,
      alike_of_detached hlength hs.entered ht.entered⟩
  exact (Machine.run_related Alike.step halike hs' ht').observed

/-- **What was called before a debugger was attached is not seen afterwards**, in two runs that
differ only in calls that had finished by then, unless one of them has set `_tls.is_tracing`
and the other has not, and the first thing to be done is to look at it. -/
theorem unaffected_iff (hpre : Action.attach ∉ pre) (hpre' : Action.attach ∉ pre')
    (hsame : unfinished [] pre = unfinished [] pre')
    (hs : tracing.run init (pre ++ .attach :: post) = some s)
    (ht : tracing.run init (pre' ++ .attach :: post) = some t) :
    s.observed = t.observed ↔
      pre.any Action.changes = pre'.any Action.changes ∨ looksBack post = false := by
  obtain ⟨s₀, hs₀, hsTracing, hslength, hs⟩ := run_attach hpre hs
  obtain ⟨t₀, ht₀, htTracing, htlength, ht⟩ := run_attach hpre' ht
  have hnil : ∀ {u : Tracing} {acts : List Action}, acts.any Action.changes = false →
      u.entered.length = (unfinished [] acts).length → u.entered = [] := by
    intro u acts hacts hlength
    rw [unfinished_eq_nil hacts] at hlength
    exact List.length_eq_zero_iff.mp hlength
  cases hchanges : pre.any Action.changes with
  | false =>
      cases hchanges' : pre'.any Action.changes with
      | false =>
          have hisTracing : s₀.isTracing = t₀.isTracing := by
            simp [hsTracing, htTracing, hchanges, hchanges']
          have hlength : s₀.entered.length = t₀.entered.length := by rw [hslength, htlength, hsame]
          simp [observed_eq_of_detached hs₀ ht₀ hisTracing hlength hs ht]
      | true =>
          rw [observed_iff_of_changes hs₀ ht₀ (by simp [hsTracing, hchanges])
            (by simp [htTracing, hchanges']) (hnil hchanges hslength)
            (hnil hchanges (by rw [htlength, hsame])) hs ht]
          simp
  | true =>
      cases hchanges' : pre'.any Action.changes with
      | false =>
          rw [eq_comm, observed_iff_of_changes ht₀ hs₀ (by simp [htTracing, hchanges'])
            (by simp [hsTracing, hchanges]) (hnil hchanges' htlength)
            (hnil hchanges' (by rw [hslength, hsame])) ht hs]
          simp
      | true =>
          have hisTracing : s₀.isTracing = t₀.isTracing := by
            simp [hsTracing, htTracing, hchanges, hchanges']
          have hlength : s₀.entered.length = t₀.entered.length := by rw [hslength, htlength, hsame]
          simp [observed_eq_of_detached hs₀ ht₀ hisTracing hlength hs ht]

/-- A call before, and another one afterwards. -/
theorem unaffected_iff_set :
    ([.disableTracing, .result false] : List Observation) = [.disableTracing, .result false] ↔
      [Action.set false].any Action.changes = ([] : List Action).any Action.changes ∨
        looksBack [.set false, .query] = false :=
  @unaffected_iff ⟨true, some false, [], false, [.disableTracing, .result false]⟩
    ⟨true, some false, [], false, [.disableTracing, .result false]⟩ [.set false] []
    [.set false, .query] (by decide) (by decide) rfl rfl rfl

/-- **After `tracing(False)`** and the attachment of a debugger, `tracing()` says that the thread
is not traced. -/
theorem affected : ¬ ∀ (pre pre' post : List Action) (s t : Tracing), Action.attach ∉ pre →
    Action.attach ∉ pre' → unfinished [] pre = unfinished [] pre' →
    tracing.run init (pre ++ .attach :: post) = some s →
    tracing.run init (pre' ++ .attach :: post) = some t → s.observed = t.observed := by
  intro h
  have hobserved := h [.set false] [] [.query] ⟨true, some false, [], true, [.result false]⟩
    ⟨true, none, [], true, [.result true]⟩ (by decide) (by decide) rfl rfl rfl
  simp at hobserved

/-! ### Nothing was called before -/

/-- The thread is traced exactly if it is thought to be, and no with-statement will do anything
else than it says. -/
structure Faithful (s : Tracing) : Prop where
  pydb : s.pydb = true
  traced : s.wasTracing = s.traced
  entered : ∀ restore ∈ s.entered, restore.pydb = true

theorem Faithful.enableOrDisable (h : s.Faithful) (enable : Bool) {entered : List RestoreTracing}
    (hentered : ∀ restore ∈ entered, restore.pydb = true) :
    Faithful { s.enableOrDisable true enable with entered := entered } :=
  ⟨h.pydb, rfl, hentered⟩

theorem Faithful.step (h : s.Faithful) (ha : a ≠ .attach) (hstep : s.step a = some s') :
    s'.Faithful := by
  cases a with
  | query =>
      obtain rfl := Option.some.inj hstep
      rw [if_pos h.pydb]
      exact ⟨h.pydb, h.traced, h.entered⟩
  | set shouldTrace =>
      obtain rfl := Option.some.inj hstep
      rw [h.pydb]
      exact h.enableOrDisable shouldTrace h.entered
  | enter shouldTrace =>
      obtain rfl := Option.some.inj hstep
      rw [h.pydb]
      exact h.enableOrDisable shouldTrace (List.forall_mem_cons.mpr ⟨rfl, h.entered⟩)
  | leave =>
      obtain ⟨restore, entered, hcons, rfl⟩ := step_leave hstep
      have hentered := h.entered
      rw [hcons, List.forall_mem_cons] at hentered
      rw [hentered.1]
      exact h.enableOrDisable restore.wasTracing hentered.2
  | attach => exact absurd rfl ha

theorem Faithful.run (h : s.Faithful) (has : Action.attach ∉ as)
    (hrun : tracing.run s as = some s') : s'.Faithful := by
  induction as generalizing s with
  | nil =>
      obtain rfl : s = s' := Option.some.inj hrun
      exact h
  | cons a as ih =>
      obtain ⟨s₁, h₁, h₂⟩ := Option.bind_eq_some_iff.mp hrun
      rw [List.mem_cons, not_or] at has
      exact ih (h.step (Ne.symm has.1) h₁) has.2 h₂

/-- **If nothing was called before the attachment**, `tracing()` is whether the thread is
traced, whatever is called afterwards. -/
theorem wasTracing_eq_traced (hpost : Action.attach ∉ post)
    (hrun : tracing.run init (.attach :: post) = some s) : s.wasTracing = s.traced := by
  have hattached : (attached none).Faithful := ⟨rfl, rfl, by simp [attached]⟩
  exact (hattached.run hpost hrun).traced

end Tracing

end Ptvsd
