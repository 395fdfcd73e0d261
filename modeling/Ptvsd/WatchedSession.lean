import Ptvsd.Machine
import Ptvsd.Monitor

/-!
# Waiting for a Session to Change

`Session.wait_for()`. The session and its components are observable: an assignment to one of their
attributes is followed by `notify_changed()`, on the thread that made it, which takes the lock of
the session and wakes the threads that wait. Nobody has to hold the lock to assign, and a
component notifies nobody before the last line of `Component.__init__`.

A predicate reads attributes one after the other, each from an object that it knows from the
beginning or was led to, and others may assign in between. A thread with a timeout starts another
one, which sets the flag of that call when the time has passed, and then notifies.

It is recorded if an attribute was assigned by a thread without the lock since the last
evaluation of a predicate began; no step depends on that.

## Main results

* `wait_for_correct`: nobody sleeps whose predicate holds, or whose time has passed, unless
  a notification is to come; `wait_for()` returns with the session locked, and what it returns
  is **the value of the predicate, unless an attribute was assigned without the lock**
  since it began to be evaluated.
-/

namespace Ptvsd

/-! ### Predicates -/

/-- A predicate, as far as it is evaluated: `O` are the observable objects, `A` the names of
attributes, and `V` the values. -/
inductive Predicate (O A V : Type) where
  /-- It returns, or raises an exception. -/
  | result (value : Option Bool)
  /-- It reads an attribute. -/
  | read (o : O) (a : A) (next : V → Predicate O A V)

namespace Predicate

variable {O A V : Type}

/-- What it returns if nothing changes. -/
def eval (attrs : O → A → V) : Predicate O A V → Option Bool
  | .result value => value
  | .read o a next => (next (attrs o a)).eval attrs

/-- It reads attributes of known objects only; `refs` are the objects that a value leads to. -/
def Grounded (refs : V → List O) : (O → Prop) → Predicate O A V → Prop
  | _, .result _ => True
  | known, .read o _ next =>
      known o ∧ ∀ v, (next v).Grounded refs fun o => known o ∨ o ∈ refs v

variable {refs : V → List O} {known known' : O → Prop} {attrs attrs' : O → A → V}

theorem Grounded.mono {p : Predicate O A V} (h : p.Grounded refs known)
    (hknown : ∀ o, known o → known' o) : p.Grounded refs known' := by
  induction p generalizing known known' with
  | result value => trivial
  | read o a next ih =>
      refine ⟨hknown o h.1, fun v => ih v (h.2 v) fun o ho => ?_⟩
      exact ho.imp (hknown o) id

/-- The rest of a predicate, after it has read an attribute that leads to known objects. -/
theorem Grounded.next {o : O} {a : A} {next : V → Predicate O A V} {v : V}
    (h : (read o a next).Grounded refs known) (hv : ∀ o ∈ refs v, known o) :
    (next v).Grounded refs known :=
  (h.2 v).mono fun o ho => ho.elim id (hv o)

/-- **Only known objects matter**, if they lead to each other only. -/
theorem Grounded.eval_congr {p : Predicate O A V} (h : p.Grounded refs known)
    (hlinked : ∀ o a, known o → ∀ o' ∈ refs (attrs o a), known o')
    (hattrs : ∀ o a, known o → attrs' o a = attrs o a) : p.eval attrs' = p.eval attrs := by
  induction p with
  | result value => rfl
  | read o a next ih =>
      rw [eval, eval, hattrs o a h.1]
      exact ih _ (h.next (hlinked o a h.1))

end Predicate

/-- A predicate with the objects that it knows from the beginning. -/
structure WaitPredicate (O A V : Type) (refs : V → List O) where
  predicate : Predicate O A V
  roots : List O
  grounded : predicate.Grounded refs (· ∈ roots)

/-! ### Threads -/

/-- Where a thread is in `notify_changed()`, with regard to the condition. -/
inductive NotifyStep where
  /-- About to lock the session. -/
  | entering
  /-- About to call `notify_all()`. -/
  | locked
  /-- About to unlock the session. -/
  | notified
  deriving DecidableEq

/-- Where a thread is in `wait_for()`. -/
inductive WaitStep (O A V : Type) where
  /-- About to lock the session. -/
  | entering
  /-- In `predicate()`, of which this is left. -/
  | evaluating (rest : Predicate O A V)
  /-- The predicate was false: about to look at `timed_out`. -/
  | checking
  /-- About to call `_changed_condition.wait()`. -/
  | blocking
  /-- In `_changed_condition.wait()`. -/
  | waiting
  /-- About to return, or with an exception of the predicate, and to unlock the session. -/
  | returning (result : Option Bool)

/-- A call of `wait_for()`. -/
structure WaitFor (O A V : Type) where
  predicate : Predicate O A V
  /-- The number of the call, and of its `timed_out`. -/
  call : ℕ
  step : WaitStep O A V

/-- What a thread does. -/
inductive Activity (O A V : Type) where
  /-- Something else, or nothing yet. -/
  | other
  /-- `wait_for_timeout()` of a call, in `time.sleep(timeout)`. -/
  | timing (call : ℕ)
  /-- `notify_changed()`. -/
  | notify (step : NotifyStep)
  | waitFor (w : WaitFor O A V)

/-- A session with its components and the threads that use it. -/
structure WatchedSession (O A V T : Type) where
  attrs : O → A → V
  /-- `notify_changed()` is among the observers. -/
  observed : O → Bool
  /-- The lock, with the condition. -/
  monitor : Monitor T
  threads : T → Activity O A V
  /-- `timed_out` of each call. -/
  timedOut : ℕ → Bool
  /-- The number of calls so far. -/
  calls : ℕ
  /-- An attribute was assigned without the lock since an evaluation began. -/
  disturbed : Bool

namespace WatchedSession

variable {O A V T : Type} [DecidableEq O] [DecidableEq A] [DecidableEq T]

/-- What can happen. -/
inductive Action (O A V T : Type) (refs : V → List O) where
  /-- A thread locks the session. -/
  | acquire (t : T)
  /-- A thread unlocks it. -/
  | release (t : T)
  /-- An attribute is assigned. -/
  | assign (t : T) (o : O) (a : A) (v : V)
  /-- The last line of `Component.__init__`, which assigns `observers`. -/
  | observe (t : T) (o : O)
  /-- `wait_for()` is called, with a thread for the timeout if there is one. -/
  | waitFor (t : T) (p : WaitPredicate O A V refs) (timer : Option T)
  /-- `time.sleep(timeout)` is over. -/
  | timeout (t : T)
  /-- A thread goes on with `notify_changed()` or `wait_for()`. -/
  | advance (t : T)

/-- The thread goes on with something else. -/
def goto (t : T) (activity : Activity O A V) (s : WatchedSession O A V T) :
    WatchedSession O A V T :=
  { s with threads := Function.update s.threads t activity }

/-- A thread that does something else, and does not have the lock: one can be started. -/
def Idle (t : T) (s : WatchedSession O A V T) : Bool :=
  (match s.threads t with
    | .other => true
    | _ => false) && s.monitor.owner ≠ some t

/-- A thread goes on with `notify_changed()`. -/
def notifyStep (t : T) (s : WatchedSession O A V T) :
    NotifyStep → Option (WatchedSession O A V T)
  | .entering =>
      if s.monitor.Available t then
        some ({ s with monitor := s.monitor.acquire t }.goto t (.notify .locked))
      else none
  | .locked => some ({ s with monitor := s.monitor.notifyAll }.goto t (.notify .notified))
  | .notified => some ({ s with monitor := s.monitor.release }.goto t .other)

/-- A thread goes on with `wait_for()`. -/
def waitStep (t : T) (w : WaitFor O A V) (s : WatchedSession O A V T) :
    Option (WatchedSession O A V T) :=
  match w.step with
  | .entering =>
      if s.monitor.Available t then
        some ({ s with monitor := s.monitor.acquire t, disturbed := false }.goto t
          (.waitFor { w with step := .evaluating w.predicate }))
      else none
  | .evaluating (.read o a next) =>
      some (s.goto t (.waitFor { w with step := .evaluating (next (s.attrs o a)) }))
  | .evaluating (.result (some false)) => some (s.goto t (.waitFor { w with step := .checking }))
  | .evaluating (.result value) =>
      some (s.goto t (.waitFor { w with step := .returning value }))
  | .checking =>
      some (s.goto t (.waitFor { w with
        step := if s.timedOut w.call then .returning (some false) else .blocking }))
  | .blocking =>
      some ({ s with monitor := s.monitor.wait t }.goto t (.waitFor { w with step := .waiting }))
  | .waiting =>
      match s.monitor.sleep t, s.monitor.owner with
      | .woken depth, none =>
          some ({ s with monitor := s.monitor.resume t depth, disturbed := false }.goto t
            (.waitFor { w with step := .evaluating w.predicate }))
      | _, _ => none
  | .returning _ => some ({ s with monitor := s.monitor.release }.goto t .other)

/-- The step under an action. -/
def step {refs : V → List O} (s : WatchedSession O A V T) :
    Action O A V T refs → Option (WatchedSession O A V T)
  | .acquire t =>
      match s.threads t with
      | .other =>
          if s.monitor.Available t then some { s with monitor := s.monitor.acquire t } else none
      | _ => none
  | .release t =>
      match s.threads t with
      | .other =>
          if s.monitor.owner = some t then some { s with monitor := s.monitor.release } else none
      | _ => none
  | .assign t o a v =>
      match s.threads t with
      | .other =>
          -- components are not referred to before they are constructed
          if (refs v).all s.observed then
            let s' := { s with
              attrs := Function.update s.attrs o (Function.update (s.attrs o) a v) }
            some (if s.observed o then
              { s' with disturbed := s.disturbed || s.monitor.owner ≠ some t }.goto t
                (.notify .entering)
            else s')
          else none
      | _ => none
  | .observe t o =>
      match s.threads t with
      | .other =>
          some ({ s with observed := Function.update s.observed o true }.goto t
            (.notify .entering))
      | _ => none
  | .waitFor t p timer =>
      match s.threads t with
      | .other =>
          if p.roots.all s.observed && timer.all fun u => u ≠ t && s.Idle u then
            let s' := { s with
              timedOut := Function.update s.timedOut s.calls false
              calls := s.calls + 1 }.goto t (.waitFor ⟨p.predicate, s.calls, .entering⟩)
            some (match timer with
              | some u => s'.goto u (.timing s.calls)
              | none => s')
          else none
      | _ => none
  | .timeout t =>
      match s.threads t with
      | .timing call =>
          some ({ s with timedOut := Function.update s.timedOut call true }.goto t
            (.notify .entering))
      | _ => none
  | .advance t =>
      match s.threads t with
      | .notify step => s.notifyStep t step
      | .waitFor w => s.waitStep t w
      | _ => none

/-- Everything that is assigned was constructed. -/
def Linked (refs : V → List O) (s : WatchedSession O A V T) : Prop :=
  ∀ o a, ∀ o' ∈ refs (s.attrs o a), s.observed o' = true

/-- No thread has begun. -/
structure Fresh (refs : V → List O) (s : WatchedSession O A V T) : Prop where
  linked : s.Linked refs
  owner : s.monitor.owner = none
  sleep : ∀ t, s.monitor.sleep t = .awake
  threads : ∀ t, s.threads t = .other
  disturbed : s.disturbed = false

end WatchedSession

/-- A session, and the threads that use it. -/
def watchedSession (O A V T : Type) [DecidableEq O] [DecidableEq A] [DecidableEq T]
    (refs : V → List O) :
    Machine (WatchedSession O A V T) (WatchedSession.Action O A V T refs) where
  start := WatchedSession.Fresh refs
  step := WatchedSession.step

/-! ### What holds in all runs -/

section

variable {O A V T : Type} {refs : V → List O}

/-- The step is made with the session locked. -/
def WaitStep.holds : WaitStep O A V → Bool
  | .entering => false
  | .waiting => false
  | _ => true

/-- What the thread does, it does with the session locked. -/
def Activity.holds : Activity O A V → Bool
  | .notify .locked => true
  | .notify .notified => true
  | .waitFor w => w.step.holds
  | _ => false

/-- The thread is going to call `notify_all()`. -/
def Activity.notifies : Activity O A V → Bool
  | .notify .entering => true
  | .notify .locked => true
  | _ => false

namespace WatchedSession

/-- A notification is to come. -/
def Coming (s : WatchedSession O A V T) : Prop := ∃ t, (s.threads t).notifies = true

/-- There is a reason for the call not to wait. -/
def Ready (s : WatchedSession O A V T) (w : WaitFor O A V) : Prop :=
  w.predicate.eval s.attrs ≠ some false ∨ s.timedOut w.call = true

/-- The thread has a reason not to wait. -/
def Due (s : WatchedSession O A V T) (t : T) : Prop :=
  ∃ w, s.threads t = .waitFor w ∧ s.Ready w

/-- The predicate has that value, as far as one can tell: otherwise a notification is to come, and
an attribute was assigned without the lock. -/
structure Shows (s : WatchedSession O A V T) (w : WaitFor O A V) (value : Option Bool) : Prop where
  coming : w.predicate.eval s.attrs = value ∨ s.Coming
  undisturbed : s.disturbed = false → w.predicate.eval s.attrs = value

/-- What a thread has found out by the time it has come to a step. -/
def Knows (refs : V → List O) (s : WatchedSession O A V T) (w : WaitFor O A V) : Prop :=
  match w.step with
  | .entering => True
  | .evaluating rest =>
      rest.Grounded refs (s.observed · = true) ∧ s.Shows w (rest.eval s.attrs)
  | .checking => s.Shows w (some false)
  | .blocking => s.Ready w → s.Coming
  | .waiting => True
  | .returning value =>
      (s.disturbed = false → w.predicate.eval s.attrs = value) ∧
        (value = some false → s.timedOut w.call = true)

/-- What holds in all runs. -/
structure Inv (refs : V → List O) (s : WatchedSession O A V T) : Prop where
  linked : s.Linked refs
  holds : ∀ t, (s.threads t).holds = true → s.monitor.owner = some t
  sleeps : ∀ t, s.monitor.sleep t ≠ .awake → ∃ w, s.threads t = .waitFor w ∧ w.step = .waiting
  calls : ∀ t w, s.threads t = .waitFor w → w.call < s.calls
  grounded : ∀ t w, s.threads t = .waitFor w →
    w.predicate.Grounded refs (s.observed · = true)
  knows : ∀ t w, s.threads t = .waitFor w → s.Knows refs w
  awake : s.monitor.NoLost s.Due s.Coming

variable {s s' : WatchedSession O A V T} {t u : T} {w : WaitFor O A V}

theorem Fresh.inv (h : s.Fresh refs) : s.Inv refs := by
  have hwait : ∀ t w, s.threads t ≠ .waitFor w := fun t w => by simp [h.threads t]
  exact
    { linked := h.linked
      holds := fun t ht => by simp [h.threads t, Activity.holds] at ht
      sleeps := fun t ht => absurd (h.sleep t) ht
      calls := fun t w ht => absurd ht (hwait t w)
      grounded := fun t w ht => absurd ht (hwait t w)
      knows := fun t w ht => absurd ht (hwait t w)
      awake := fun t depth ht => by simp [h.sleep t] at ht }

/-- Outside of the lock, nothing is known. -/
theorem knows_of_not_holds (h : w.step.holds = false) : s.Knows refs w := by
  rw [Knows]
  cases hstep : w.step <;> simp_all [WaitStep.holds]

/-- A thread that does not wait is awake. -/
theorem Inv.sleep_eq (h : s.Inv refs) (ht : ∀ w, s.threads t = .waitFor w → w.step ≠ .waiting) :
    s.monitor.sleep t = .awake := by
  by_contra hsleep
  obtain ⟨w, hw, hstep⟩ := h.sleeps t hsleep
  exact ht w hw hstep

/-- The values that a grounded predicate can read have not changed. -/
theorem Inv.eval_eq (h : s.Inv refs) {p : Predicate O A V} {attrs : O → A → V}
    (hp : p.Grounded refs (s.observed · = true))
    (hattrs : ∀ o a, s.observed o = true → attrs o a = s.attrs o a) :
    p.eval attrs = p.eval s.attrs :=
  hp.eval_congr (fun o a _ => h.linked o a) hattrs

/-- What is known stays known while a notification is to come, if those with the lock are not
disturbed. -/
theorem Knows.of_coming (h : s.Knows refs w) (hcoming : s'.Coming)
    (hobserved : ∀ o, s.observed o = true → s'.observed o = true)
    (hattrs : w.step.holds = true → s'.disturbed = false →
      s.disturbed = false ∧ s'.attrs = s.attrs)
    (htimedOut : s.timedOut w.call = true → s'.timedOut w.call = true) : s'.Knows refs w := by
  have hshows : w.step.holds = true → ∀ p : Predicate O A V,
      s.Shows w (p.eval s.attrs) → s'.Shows w (p.eval s'.attrs) := by
    intro hholds p hp
    refine ⟨Or.inr hcoming, fun hdisturbed => ?_⟩
    obtain ⟨hdisturbed, hattrs⟩ := hattrs hholds hdisturbed
    rw [hattrs]
    exact hp.undisturbed hdisturbed
  rw [Knows] at h ⊢
  cases hstep : w.step with
  | entering => trivial
  | evaluating rest =>
      rw [hstep] at h hshows
      exact ⟨h.1.mono hobserved, hshows rfl rest h.2⟩
  | checking =>
      rw [hstep] at h hshows
      exact hshows rfl (.result (some false)) h
  | blocking => exact fun _ => hcoming
  | waiting => trivial
  | returning value =>
      rw [hstep] at h hattrs
      refine ⟨fun hdisturbed => ?_, fun hvalue => htimedOut (h.2 hvalue)⟩
      obtain ⟨hdisturbed, hattrs⟩ := hattrs rfl hdisturbed
      rw [hattrs]
      exact h.1 hdisturbed

/-- What is known stays known if nothing that matters changes. -/
theorem Knows.of_eval (h : s.Knows refs w) (hcoming : s.Coming → s'.Coming)
    (hobserved : s'.observed = s.observed) (hdisturbed : s'.disturbed = s.disturbed)
    (htimedOut : s'.timedOut w.call = s.timedOut w.call)
    (hw : w.predicate.Grounded refs (s.observed · = true))
    (heval : ∀ p : Predicate O A V, p.Grounded refs (s.observed · = true) →
      p.eval s'.attrs = p.eval s.attrs) : s'.Knows refs w := by
  have hshows : ∀ p : Predicate O A V, p.Grounded refs (s.observed · = true) →
      s.Shows w (p.eval s.attrs) → s'.Shows w (p.eval s'.attrs) := by
    intro p hp h
    refine ⟨?_, ?_⟩
    · rw [heval p hp, heval _ hw]
      exact h.coming.imp_right hcoming
    · rw [heval p hp, heval _ hw, hdisturbed]
      exact h.undisturbed
  rw [Knows] at h ⊢
  cases hstep : w.step with
  | entering => trivial
  | evaluating rest =>
      rw [hstep] at h
      rw [hobserved]
      exact ⟨h.1, hshows rest h.1 h.2⟩
  | checking =>
      rw [hstep] at h
      exact hshows (.result (some false)) trivial h
  | blocking =>
      rw [hstep] at h
      rw [Ready, heval _ hw, htimedOut]
      exact fun hready => hcoming (h hready)
  | waiting => trivial
  | returning value =>
      rw [hstep] at h
      rw [heval _ hw, hdisturbed, htimedOut]
      exact h

/-! ### Steps with the lock -/

/-- Another step of the same call. -/
theorem Inv.callStep (h : s.Inv refs) (hw : s.threads t = .waitFor w)
    (step : WaitStep O A V) : ∀ w', Activity.waitFor { w with step := step } = .waitFor w' →
      w'.call < s.calls ∧ w'.predicate.Grounded refs (s.observed · = true) := by
  rintro w' heq
  obtain rfl := Activity.waitFor.inj heq
  exact ⟨h.calls t w hw, h.grounded t w hw⟩

section

variable [DecidableEq T] {m : Monitor T} {disturbed : Bool} {activity : Activity O A V}

theorem goto_threads_self : (s.goto t activity).threads t = activity := Function.update_self _ _ _

theorem goto_threads_of_ne (h : u ≠ t) : (s.goto t activity).threads u = s.threads u :=
  Function.update_of_ne h _ _

theorem goto_self (h : s.threads t = activity) : s.goto t activity = s := by
  rw [goto, ← h, Function.update_eq_self]

/-- A notification that was to come still is, unless it was that of the thread itself. -/
theorem Coming.goto (h : s.Coming)
    (ht : (s.threads t).notifies = true → activity.notifies = true) :
    (s.goto t activity).Coming := by
  obtain ⟨u, hu⟩ := h
  by_cases hut : u = t
  · subst hut
    exact ⟨u, by rw [goto_threads_self]; exact ht hu⟩
  · exact ⟨u, by rwa [goto_threads_of_ne hut]⟩

/-- The thread itself is going to notify. -/
theorem coming_goto (h : activity.notifies = true) : (s.goto t activity).Coming :=
  ⟨t, by rwa [goto_threads_self]⟩

/-- The other threads are due as before. -/
theorem due_of_ne (hut : u ≠ t) (h : (s.goto t activity).Due u) : s.Due u := by
  obtain ⟨w, hw, hready⟩ := h
  rw [goto_threads_of_ne hut] at hw
  exact ⟨w, hw, hready⟩

/-- **A step with the lock**: no other thread has it, or knows anything. -/
theorem Inv.exclusive (h : s.Inv refs) (havail : s.monitor.Available t)
    (hholds : activity.holds = true → m.owner = some t)
    (hsleep : ∀ u, u ≠ t → m.sleep u ≠ .awake → s.monitor.sleep u ≠ .awake)
    (hself : m.sleep t ≠ .awake → ∃ w, activity = .waitFor w ∧ w.step = .waiting)
    (hcall : ∀ w, activity = .waitFor w →
      w.call < s.calls ∧ w.predicate.Grounded refs (s.observed · = true))
    (hknows : ∀ w, activity = .waitFor w →
      ({ s with monitor := m, disturbed := disturbed }.goto t activity).Knows refs w)
    (hawake : m.NoLost ({ s with monitor := m, disturbed := disturbed }.goto t activity).Due
      ({ s with monitor := m, disturbed := disturbed }.goto t activity).Coming) :
    ({ s with monitor := m, disturbed := disturbed }.goto t activity).Inv refs := by
  have hother : ∀ u, u ≠ t → (s.threads u).holds = false := by
    intro u hut
    cases hu : (s.threads u).holds with
    | false => rfl
    | true => exact absurd (havail.eq (h.holds u hu)) hut
  refine ⟨h.linked, fun u hu => ?_, fun u hu => ?_, fun u w hw => ?_, fun u w hw => ?_,
    fun u w hw => ?_, hawake⟩
  all_goals by_cases hut : u = t
  · subst hut
    rw [goto_threads_self] at hu
    exact hholds hu
  · rw [goto_threads_of_ne hut] at hu
    exact absurd hu (by simp [hother u hut])
  · subst hut
    rw [goto_threads_self]
    exact hself hu
  · rw [goto_threads_of_ne hut]
    exact h.sleeps u (hsleep u hut hu)
  · subst hut
    rw [goto_threads_self] at hw
    exact (hcall w hw).1
  · rw [goto_threads_of_ne hut] at hw
    exact h.calls u w hw
  · subst hut
    rw [goto_threads_self] at hw
    exact (hcall w hw).2
  · rw [goto_threads_of_ne hut] at hw
    exact h.grounded u w hw
  · subst hut
    rw [goto_threads_self] at hw
    exact hknows w hw
  · rw [goto_threads_of_ne hut] at hw
    have hholds := hother u hut
    rw [hw] at hholds
    exact knows_of_not_holds hholds

/-- A step with the lock that puts nobody to sleep, and wakes nobody else. -/
theorem Inv.awakeStep (h : s.Inv refs) (havail : s.monitor.Available t)
    (hholds : activity.holds = true → m.owner = some t)
    (hsleep : ∀ u, u ≠ t → m.sleep u = s.monitor.sleep u) (hself : m.sleep t = .awake)
    (hcoming : (s.threads t).notifies = true → activity.notifies = true)
    (hcall : ∀ w, activity = .waitFor w →
      w.call < s.calls ∧ w.predicate.Grounded refs (s.observed · = true))
    (hknows : ∀ w, activity = .waitFor w →
      ({ s with monitor := m, disturbed := disturbed }.goto t activity).Knows refs w) :
    ({ s with monitor := m, disturbed := disturbed }.goto t activity).Inv refs := by
  refine h.exclusive havail hholds (fun u hut hu => ?_) (absurd hself) hcall hknows ?_
  · rwa [← hsleep u hut]
  · refine h.awake.mono (fun hc => Coming.goto hc hcoming) fun u depth hu hdue => Or.inl ?_
    have hut : u ≠ t := by
      rintro rfl
      simp [hself] at hu
    exact ⟨by rwa [← hsleep u hut], due_of_ne hut hdue⟩

/-- **The thread goes on with `notify_changed()`.** -/
theorem Inv.notifyStep (h : s.Inv refs) {step : NotifyStep} (ht : s.threads t = .notify step)
    (hstep : s.notifyStep t step = some s') : s'.Inv refs := by
  have hsleep : s.monitor.sleep t = .awake := h.sleep_eq fun w hw => by simp [ht] at hw
  cases step with
  | entering =>
      rw [WatchedSession.notifyStep] at hstep
      split_ifs at hstep with havail
      obtain rfl := Option.some.inj hstep
      exact h.awakeStep havail (fun _ => rfl) (fun _ _ => rfl) hsleep (fun _ => rfl)
        (fun w hw => by simp at hw) (fun w hw => by simp at hw)
  | locked =>
      obtain rfl := Option.some.inj hstep
      have howner : s.monitor.owner = some t := h.holds t (by rw [ht]; rfl)
      refine h.exclusive (Or.inr howner) (fun _ => howner) (fun u _ hu => ?_) (fun hu => ?_)
        (fun w hw => by simp at hw) (fun w hw => by simp at hw) (Monitor.NoLost.notifyAll _)
      · exact mt Sleep.wake_eq_awake.mpr hu
      · exact absurd (Sleep.wake_eq_awake.mpr hsleep) hu
  | notified =>
      obtain rfl := Option.some.inj hstep
      have howner : s.monitor.owner = some t := h.holds t (by rw [ht]; rfl)
      refine h.awakeStep (Or.inr howner) (fun hu => ?_) (fun u _ => ?_) ?_ (fun hu => ?_)
        (fun w hw => by simp at hw) (fun w hw => by simp at hw)
      · simp [Activity.holds] at hu
      · rw [Monitor.release_sleep]
      · rwa [Monitor.release_sleep]
      · simp [ht, Activity.notifies] at hu

/-- The predicate is about to be evaluated: nothing has been read yet. -/
theorem Inv.knows_evaluating (h : s.Inv refs) (hw : s.threads t = .waitFor w) :
    ∀ w', Activity.waitFor { w with step := .evaluating w.predicate } = .waitFor w' →
      ({ s with monitor := m, disturbed := disturbed }.goto t
        (.waitFor { w with step := .evaluating w.predicate })).Knows refs w' := by
  rintro w' heq
  obtain rfl := Activity.waitFor.inj heq
  exact ⟨h.grounded t w hw, Or.inl rfl, fun _ => rfl⟩

/-- The next step of a call, with the lock, in which no other thread takes part. -/
theorem Inv.ownStep (h : s.Inv refs) (hw : s.threads t = .waitFor w) (hholds : w.step.holds = true)
    {step : WaitStep O A V}
    (hknows : (s.goto t (.waitFor { w with step := step })).Knows refs { w with step := step }) :
    (s.goto t (.waitFor { w with step := step })).Inv refs := by
  have howner : s.monitor.owner = some t := h.holds t (by rw [hw]; exact hholds)
  have hsleep : s.monitor.sleep t = .awake := by
    refine h.sleep_eq fun w' hw' hwaiting => ?_
    obtain rfl : w = w' := Activity.waitFor.inj (hw.symm.trans hw')
    simp [hwaiting, WaitStep.holds] at hholds
  refine @Inv.awakeStep _ _ _ _ _ s t _ s.monitor s.disturbed _ h (Or.inr howner)
    (fun _ => howner) (fun _ _ => rfl) hsleep (fun hu => ?_) (h.callStep hw step)
    fun w' heq => ?_
  · simp [hw, Activity.notifies] at hu
  · obtain rfl := Activity.waitFor.inj heq
    exact hknows

/-- What the evaluation has shown is not changed by the thread itself. -/
theorem Shows.goto {value : Option Bool} (h : s.Shows w value) (hw : s.threads t = .waitFor w)
    {step : WaitStep O A V} :
    (s.goto t (.waitFor { w with step := step })).Shows { w with step := step } value :=
  ⟨h.coming.imp_right fun hc => hc.goto fun hu => by simp [hw, Activity.notifies] at hu,
    h.undisturbed⟩

/-- **The thread goes on with `wait_for()`.** -/
theorem Inv.waitStep (h : s.Inv refs) (hw : s.threads t = .waitFor w)
    (hstep : s.waitStep t w = some s') : s'.Inv refs := by
  have hknows := h.knows t w hw
  have hlocked : w.step.holds = true → s.monitor.owner = some t := fun hholds =>
    h.holds t (by rw [hw]; exact hholds)
  rw [Knows] at hknows
  rw [WatchedSession.waitStep] at hstep
  cases hwstep : w.step with
  | entering =>
      simp only [hwstep] at hstep
      split_ifs at hstep with havail
      obtain rfl := Option.some.inj hstep
      have hsleep : s.monitor.sleep t = .awake := by
        refine h.sleep_eq fun w' hw' hwaiting => ?_
        obtain rfl : w = w' := Activity.waitFor.inj (hw.symm.trans hw')
        simp [hwaiting] at hwstep
      refine h.awakeStep havail (fun _ => rfl) (fun _ _ => rfl) hsleep (fun hu => ?_)
        (h.callStep hw _) (h.knows_evaluating hw)
      simp [hw, Activity.notifies] at hu
  | evaluating rest =>
      rw [hwstep] at hknows
      cases rest with
      | read o a next =>
          simp only [hwstep, Option.some.injEq] at hstep
          obtain rfl := hstep
          refine h.ownStep hw (by rw [hwstep]; rfl) ⟨?_, hknows.2.goto hw⟩
          exact hknows.1.next (h.linked o a)
      | result value =>
          rcases value with _ | _ | _
          · simp only [hwstep, Option.some.injEq] at hstep
            obtain rfl := hstep
            exact h.ownStep hw (by rw [hwstep]; rfl)
              ⟨hknows.2.undisturbed, fun hvalue => by simp at hvalue⟩
          · simp only [hwstep, Option.some.injEq] at hstep
            obtain rfl := hstep
            exact h.ownStep hw (by rw [hwstep]; rfl) (hknows.2.goto hw)
          · simp only [hwstep, Option.some.injEq] at hstep
            obtain rfl := hstep
            exact h.ownStep hw (by rw [hwstep]; rfl)
              ⟨hknows.2.undisturbed, fun hvalue => by simp at hvalue⟩
  | checking =>
      rw [hwstep] at hknows
      simp only [hwstep, Option.some.injEq] at hstep
      obtain rfl := hstep
      cases htimedOut : s.timedOut w.call with
      | true =>
          exact h.ownStep hw (by rw [hwstep]; rfl) ⟨hknows.undisturbed, fun _ => htimedOut⟩
      | false =>
          refine h.ownStep hw (by rw [hwstep]; rfl) fun hready => ?_
          rcases hready with hready | hready
          · exact (hknows.goto hw).coming.resolve_left hready
          · exact absurd hready (by simp [goto, htimedOut])
  | blocking =>
      rw [hwstep] at hknows
      simp only [hwstep, Option.some.injEq] at hstep
      obtain rfl := hstep
      have hholds : w.step.holds = true := by rw [hwstep]; rfl
      have hgoto : ∀ {step : WaitStep O A V}, s.Coming →
          (s.goto t (.waitFor { w with step := step })).Coming := fun hc =>
        hc.goto fun hu => by simp [hw, Activity.notifies] at hu
      refine @Inv.exclusive _ _ _ _ _ s t _ (s.monitor.wait t) s.disturbed _ h
        (Or.inr (hlocked hholds)) (fun hu => ?_) (fun u hut hu => ?_) (fun _ => ⟨_, rfl, rfl⟩)
        (h.callStep hw _) (fun w' heq => ?_) ?_
      · simp [Activity.holds, WaitStep.holds] at hu
      · rwa [← Monitor.wait_sleep_of_ne hut]
      · obtain rfl := Activity.waitFor.inj heq
        trivial
      · -- the others sleep as before, and the thread itself knows that it may
        refine Monitor.NoLost.wait (h.awake.mono hgoto fun u depth hu hdue => ?_) fun hdue => ?_
        · by_cases hut : u = t
          · subst hut
            obtain ⟨w', hw', hwaiting⟩ := h.sleeps u (by simp [hu])
            obtain rfl : w = w' := Activity.waitFor.inj (hw.symm.trans hw')
            simp [hwaiting] at hwstep
          · exact Or.inl ⟨hu, due_of_ne hut hdue⟩
        · obtain ⟨w', hw', hready⟩ := hdue
          rw [goto_threads_self] at hw'
          obtain rfl := Activity.waitFor.inj hw'
          exact hgoto (hknows hready)
  | waiting =>
      simp only [hwstep] at hstep
      split at hstep
      · next depth hsleep howner =>
          obtain rfl := Option.some.inj hstep
          refine h.awakeStep (Or.inl howner) (fun _ => rfl)
            (fun u hut => Monitor.resume_sleep_of_ne hut) Monitor.resume_sleep_self (fun hu => ?_)
            (h.callStep hw _) (h.knows_evaluating hw)
          simp [hw, Activity.notifies] at hu
      · simp at hstep
  | returning value =>
      simp only [hwstep, Option.some.injEq] at hstep
      obtain rfl := hstep
      have hholds : w.step.holds = true := by rw [hwstep]; rfl
      have hsleep : s.monitor.sleep t = .awake := by
        refine h.sleep_eq fun w' hw' hwaiting => ?_
        obtain rfl : w = w' := Activity.waitFor.inj (hw.symm.trans hw')
        simp [hwaiting] at hwstep
      refine @Inv.awakeStep _ _ _ _ _ s t _ s.monitor.release s.disturbed _ h
        (Or.inr (hlocked hholds)) (fun hu => ?_) (fun u _ => ?_) ?_ (fun hu => ?_)
        (fun w' heq => by simp at heq) (fun w' heq => by simp at heq)
      · simp [Activity.holds] at hu
      · rw [Monitor.release_sleep]
      · rwa [Monitor.release_sleep]
      · simp [hw, Activity.notifies] at hu

end

/-! ### Steps that anyone can make -/

/-- The thread does something else: it is awake, and no notification is to come from it. -/
theorem Inv.sleep_other (h : s.Inv refs) (ht : ∀ w, s.threads t ≠ .waitFor w) :
    s.monitor.sleep t = .awake :=
  h.sleep_eq fun w hw => absurd hw (ht w)

section

variable [DecidableEq T] {activity : Activity O A V}

/-- A thread begins with something for which it does not need the lock. -/
theorem Inv.begin (h : s.Inv refs) (ht : s.threads t = .other) (hholds : activity.holds = false)
    (hcall : ∀ w, activity = .waitFor w →
      w.call < s.calls ∧ w.predicate.Grounded refs (s.observed · = true)) :
    (s.goto t activity).Inv refs := by
  have hsleep : s.monitor.sleep t = .awake := h.sleep_other fun w => by simp [ht]
  have hcoming : s.Coming → (s.goto t activity).Coming := fun hc =>
    hc.goto fun hu => by simp [ht, Activity.notifies] at hu
  refine ⟨h.linked, fun u hu => ?_, fun u hu => ?_, fun u w hw => ?_, fun u w hw => ?_,
    fun u w hw => ?_, h.awake.mono hcoming fun u depth hu hdue => ?_⟩
  all_goals by_cases hut : u = t
  · subst hut
    rw [goto_threads_self, hholds] at hu
    exact absurd hu Bool.false_ne_true
  · rw [goto_threads_of_ne hut] at hu
    exact h.holds u hu
  · subst hut
    exact absurd hsleep hu
  · rw [goto_threads_of_ne hut]
    exact h.sleeps u hu
  · subst hut
    rw [goto_threads_self] at hw
    exact (hcall w hw).1
  · rw [goto_threads_of_ne hut] at hw
    exact h.calls u w hw
  · subst hut
    rw [goto_threads_self] at hw
    exact (hcall w hw).2
  · rw [goto_threads_of_ne hut] at hw
    exact h.grounded u w hw
  · subst hut
    rw [goto_threads_self] at hw
    subst hw
    exact knows_of_not_holds hholds
  · rw [goto_threads_of_ne hut] at hw
    exact (h.knows u w hw).of_eval hcoming rfl rfl rfl (h.grounded u w hw) fun _ _ => rfl
  · subst hut
    exact absurd (hsleep.symm.trans hu) (by simp)
  · exact Or.inl ⟨hu, due_of_ne hut hdue⟩

/-- **Something changes, and the thread that changed it is going to notify.** Whoever has the lock
does not know of it, unless that is recorded. -/
theorem Inv.change (h : s.Inv refs) (ht : ∀ w, s.threads t ≠ .waitFor w)
    (hthreads : s'.threads = s.threads) (hmonitor : s'.monitor = s.monitor)
    (hcalls : s'.calls = s.calls) (hlinked : s'.Linked refs)
    (hobserved : ∀ o, s.observed o = true → s'.observed o = true)
    (hattrs : ∀ u, u ≠ t → s.monitor.owner = some u → s'.disturbed = false →
      s.disturbed = false ∧ s'.attrs = s.attrs)
    (htimedOut : ∀ call, s.timedOut call = true → s'.timedOut call = true) :
    (s'.goto t (.notify .entering)).Inv refs := by
  have hcoming : (s'.goto t (.notify .entering)).Coming := coming_goto rfl
  have hother : ∀ u, u ≠ t → (s'.goto t (.notify .entering)).threads u = s.threads u := by
    intro u hut
    rw [goto_threads_of_ne hut, hthreads]
  have hself : ∀ w, (s'.goto t (.notify .entering)).threads t ≠ .waitFor w := by
    intro w
    rw [goto_threads_self]
    simp
  have hne : ∀ {u w}, (s'.goto t (.notify .entering)).threads u = .waitFor w → u ≠ t := by
    rintro u w hw rfl
    exact hself w hw
  refine ⟨hlinked, fun u hu => ?_, fun u hu => ?_, fun u w hw => ?_, fun u w hw => ?_,
    fun u w hw => ?_, fun _ _ _ _ => hcoming⟩
  · by_cases hut : u = t
    · subst hut
      rw [goto_threads_self] at hu
      simp [Activity.holds] at hu
    · rw [hother u hut] at hu
      exact (congrArg Monitor.owner hmonitor).trans (h.holds u hu)
  · have hsleep : s.monitor.sleep u ≠ .awake := by
      rw [← hmonitor]
      exact hu
    by_cases hut : u = t
    · subst hut
      exact absurd (h.sleep_other ht) hsleep
    · rw [hother u hut]
      exact h.sleeps u hsleep
  · have hut := hne hw
    rw [hother u hut] at hw
    exact Nat.lt_of_lt_of_eq (h.calls u w hw) hcalls.symm
  · have hut := hne hw
    rw [hother u hut] at hw
    exact (h.grounded u w hw).mono hobserved
  · have hut := hne hw
    rw [hother u hut] at hw
    refine (h.knows u w hw).of_coming hcoming hobserved (fun hholds => ?_) (htimedOut w.call)
    exact hattrs u hut (h.holds u (by rw [hw]; exact hholds))

end

/-- Something changes that no predicate can read, and no call that is there. -/
theorem Inv.unseen (h : s.Inv refs) (hthreads : s'.threads = s.threads)
    (hmonitor : s'.monitor = s.monitor) (hcalls : s.calls ≤ s'.calls) (hlinked : s'.Linked refs)
    (hobserved : s'.observed = s.observed) (hdisturbed : s'.disturbed = s.disturbed)
    (hattrs : ∀ o a, s.observed o = true → s'.attrs o a = s.attrs o a)
    (htimedOut : ∀ call, call < s.calls → s'.timedOut call = s.timedOut call) : s'.Inv refs := by
  have hcoming : s.Coming → s'.Coming := by
    rintro ⟨t, ht⟩
    exact ⟨t, by rwa [hthreads]⟩
  refine ⟨hlinked, fun u hu => ?_, fun u hu => ?_, fun u w hw => ?_, fun u w hw => ?_,
    fun u w hw => ?_, ?_⟩
  · rw [hthreads] at hu
    rw [hmonitor]
    exact h.holds u hu
  · rw [hmonitor] at hu
    rw [hthreads]
    exact h.sleeps u hu
  · rw [hthreads] at hw
    exact Nat.lt_of_lt_of_le (h.calls u w hw) hcalls
  · rw [hthreads] at hw
    rw [hobserved]
    exact h.grounded u w hw
  · rw [hthreads] at hw
    exact (h.knows u w hw).of_eval hcoming hobserved hdisturbed (htimedOut _ (h.calls u w hw))
      (h.grounded u w hw) fun p hp => h.eval_eq hp hattrs
  · rw [hmonitor]
    refine h.awake.mono hcoming fun u depth hu ⟨w, hw, hready⟩ => Or.inl ⟨hu, w, ?_, ?_⟩
    · rwa [← hthreads]
    · rw [hthreads] at hw
      rwa [Ready, h.eval_eq (h.grounded u w hw) hattrs, htimedOut _ (h.calls u w hw)] at hready

/-! ### All steps -/

section

variable [DecidableEq O] [DecidableEq A] [DecidableEq T] {a : Action O A V T refs}

omit [DecidableEq T] in
/-- A value that leads to objects that were constructed is assigned. -/
theorem linked_update (h : s.Linked refs) {o : O} {a : A} {v : V}
    (hv : (refs v).all s.observed = true) :
    { s with attrs := Function.update s.attrs o (Function.update (s.attrs o) a v) }.Linked
      refs := by
  intro o' a' x hx
  by_cases ho : o' = o
  · subst ho
    by_cases ha : a' = a
    · subst ha
      simp only [Function.update_self] at hx
      exact List.all_eq_true.mp hv x hx
    · simp only [Function.update_self, Function.update_of_ne ha] at hx
      exact h o' a' x hx
  · simp only [Function.update_of_ne ho] at hx
    exact h o' a' x hx

/-- An attribute is assigned: of an object that notifies, or of one that nobody knows. -/
theorem Inv.assign (h : s.Inv refs) {o : O} {a : A} {v : V}
    (hstep : s.step (.assign t o a v : Action O A V T refs) = some s') : s'.Inv refs := by
  rw [step] at hstep
  split at hstep
  · next ht =>
      split_ifs at hstep with hrefs hobserved
      · obtain rfl := Option.some.inj hstep
        have hlinked := linked_update (o := o) (a := a) h.linked hrefs
        refine h.change (fun w => by simp [ht]) rfl rfl rfl hlinked (fun _ hx => hx)
          (fun u hut howner hdisturbed => ?_) fun _ hc => hc
        simp [howner, hut] at hdisturbed
      · obtain rfl := Option.some.inj hstep
        refine h.unseen rfl rfl (Nat.le_refl _) (linked_update h.linked hrefs) rfl rfl
          (fun o' a' ho' => ?_) fun _ _ => rfl
        have ho : o' ≠ o := by
          rintro rfl
          exact hobserved ho'
        exact congrFun (Function.update_of_ne ho _ _) a'
  · simp at hstep

/-- A component is going to notify from now on. -/
theorem Inv.observe (h : s.Inv refs) {o : O}
    (hstep : s.step (.observe t o : Action O A V T refs) = some s') : s'.Inv refs := by
  have hmono : ∀ x, s.observed x = true → Function.update s.observed o true x = true := by
    intro x hx
    by_cases hxo : x = o
    · rw [hxo, Function.update_self]
    · rwa [Function.update_of_ne hxo]
  rw [step] at hstep
  split at hstep
  · next ht =>
      obtain rfl := Option.some.inj hstep
      refine h.change (fun w => by simp [ht]) rfl rfl rfl ?_ hmono
        (fun u _ _ hdisturbed => ⟨hdisturbed, rfl⟩) fun _ hc => hc
      exact fun o' a x hx => hmono x (h.linked o' a x hx)
  · simp at hstep

/-- The time has passed. -/
theorem Inv.timeout (h : s.Inv refs)
    (hstep : s.step (.timeout t : Action O A V T refs) = some s') : s'.Inv refs := by
  rw [step] at hstep
  split at hstep
  · next call ht =>
      obtain rfl := Option.some.inj hstep
      refine h.change (fun w => by simp [ht]) rfl rfl rfl h.linked (fun _ hx => hx)
        (fun u _ _ hdisturbed => ⟨hdisturbed, rfl⟩) fun call' hcall' => ?_
      by_cases hcall : call' = call
      · subst hcall
        exact Function.update_self _ _ _
      · exact (Function.update_of_ne hcall _ _).trans hcall'
  · simp at hstep

/-- A call begins, and a thread for its timeout. -/
theorem Inv.waitFor (h : s.Inv refs) {p : WaitPredicate O A V refs} {timer : Option T}
    (hstep : s.step (.waitFor t p timer) = some s') : s'.Inv refs := by
  rw [step] at hstep
  split at hstep
  · next ht =>
      split_ifs at hstep with hguard
      rw [Bool.and_eq_true] at hguard
      have hcells : { s with
          timedOut := Function.update s.timedOut s.calls false
          calls := s.calls + 1 }.Inv refs := by
        refine h.unseen rfl rfl (Nat.le_succ _) h.linked rfl rfl (fun _ _ _ => rfl)
          fun call hcall => ?_
        exact Function.update_of_ne (Nat.ne_of_lt hcall) _ _
      have hbegin : ({ s with
          timedOut := Function.update s.timedOut s.calls false
          calls := s.calls + 1 }.goto t
            (.waitFor ⟨p.predicate, s.calls, .entering⟩)).Inv refs := by
        refine hcells.begin ht rfl fun w hw => ?_
        obtain rfl := Activity.waitFor.inj hw
        refine ⟨Nat.lt_succ_self _, p.grounded.mono fun o ho => ?_⟩
        exact List.all_eq_true.mp hguard.1 o ho
      cases timer with
      | none =>
          obtain rfl := Option.some.inj hstep
          exact hbegin
      | some u =>
          obtain rfl := Option.some.inj hstep
          have hu : u ≠ t ∧ s.Idle u = true := by simpa using hguard.2
          refine hbegin.begin ?_ rfl fun w hw => by simp at hw
          rw [goto_threads_of_ne hu.1]
          have hidle := hu.2
          rw [Idle] at hidle
          cases hthread : s.threads u <;> simp_all
  · simp at hstep

omit [DecidableEq O] [DecidableEq A] in
/-- A thread takes the lock, or releases it. -/
theorem Inv.lockStep (h : s.Inv refs) (ht : s.threads t = .other) (havail : s.monitor.Available t)
    {m : Monitor T} (hsleep : m.sleep = s.monitor.sleep) : { s with monitor := m }.Inv refs := by
  have hawake : s.monitor.sleep t = .awake := h.sleep_other fun w => by simp [ht]
  have hgoto : ({ s with monitor := m, disturbed := s.disturbed }.goto t .other).Inv refs := by
    refine h.awakeStep havail (fun hu => ?_) (fun u _ => congrFun hsleep u) ?_ (fun hu => ?_)
      (fun w hw => by simp at hw) (fun w hw => by simp at hw)
    · simp [Activity.holds] at hu
    · rwa [hsleep]
    · simp [ht, Activity.notifies] at hu
  have hself : { s with monitor := m }.goto t .other = { s with monitor := m } := goto_self ht
  rwa [hself] at hgoto

/-- **Every step keeps what holds.** -/
theorem Inv.step (h : s.Inv refs) (hstep : s.step a = some s') : s'.Inv refs := by
  cases a with
  | acquire t =>
      rw [WatchedSession.step] at hstep
      split at hstep
      · next ht =>
          split_ifs at hstep with havail
          obtain rfl := Option.some.inj hstep
          exact h.lockStep ht havail rfl
      · simp at hstep
  | release t =>
      rw [WatchedSession.step] at hstep
      split at hstep
      · next ht =>
          split_ifs at hstep with howner
          obtain rfl := Option.some.inj hstep
          exact h.lockStep ht (Or.inr howner) Monitor.release_sleep
      · simp at hstep
  | assign t o a v => exact h.assign hstep
  | observe t o => exact h.observe hstep
  | waitFor t p timer => exact h.waitFor hstep
  | timeout t => exact h.timeout hstep
  | advance t =>
      rw [WatchedSession.step] at hstep
      split at hstep
      · next step ht => exact h.notifyStep ht hstep
      · next w ht => exact h.waitStep ht hstep
      · simp at hstep

theorem inv_of_reachable (h : (watchedSession O A V T refs).Reachable s) : s.Inv refs :=
  Machine.Invariant.of_reachable ⟨Fresh.inv, fun hI hstep => hI.step hstep⟩ h

/-- **`Session.wait_for()`**: nobody sleeps whose predicate holds, or whose time has passed, unless
a notification is to come. A call returns with the session locked, and what it returns
is the value of the predicate, unless an attribute was assigned without the lock since the
evaluation began; if it returns `False`, its time has passed. -/
theorem wait_for_correct (h : (watchedSession O A V T refs).Reachable s) {t : T}
    {w : WaitFor O A V} (hw : s.threads t = .waitFor w) :
    (∀ depth, s.monitor.sleep t = .asleep depth → ¬ s.Coming →
      w.predicate.eval s.attrs ≠ some true ∧ s.timedOut w.call = false) ∧
    ∀ result, w.step = .returning (some result) →
      s.monitor.owner = some t ∧ (result = false → s.timedOut w.call = true) ∧
        (s.disturbed = false → w.predicate.eval s.attrs = some result) := by
  have hinv := inv_of_reachable h
  refine ⟨fun depth hsleep hcoming => ?_, fun result hresult => ?_⟩
  · have hdue : ¬ s.Due t := fun hdue => hcoming (hinv.awake t depth hsleep hdue)
    have hready : ¬ s.Ready w := fun hready => hdue ⟨w, hw, hready⟩
    rw [Ready, not_or, not_not, Bool.not_eq_true] at hready
    exact ⟨by simp [hready.1], hready.2⟩
  · have hknows := hinv.knows t w hw
    rw [Knows, hresult] at hknows
    have howner : s.monitor.owner = some t := by
      refine hinv.holds t ?_
      rw [hw, Activity.holds, hresult]
      rfl
    exact ⟨howner, fun hfalse => hknows.2 (by rw [hfalse]), hknows.1⟩

/-- Attributes are assigned with the session locked. -/
def AssignsLocked (s : WatchedSession O A V T) : Action O A V T refs → Prop
  | .assign t _ _ _ => s.monitor.owner = some t
  | _ => True

omit [DecidableEq O] [DecidableEq A] in
theorem notifyStep_disturbed {step : NotifyStep} (hstep : s.notifyStep t step = some s') :
    s'.disturbed = s.disturbed := by
  cases step with
  | entering =>
      rw [WatchedSession.notifyStep] at hstep
      split_ifs at hstep
      obtain rfl := Option.some.inj hstep
      rfl
  | locked =>
      obtain rfl := Option.some.inj hstep
      rfl
  | notified =>
      obtain rfl := Option.some.inj hstep
      rfl

omit [DecidableEq O] [DecidableEq A] in
/-- A thread in `wait_for()` disturbs nobody. -/
theorem waitStep_disturbed (h : s.disturbed = false) (hstep : s.waitStep t w = some s') :
    s'.disturbed = false := by
  rw [WatchedSession.waitStep] at hstep
  split at hstep
  · split_ifs at hstep
    obtain rfl := Option.some.inj hstep
    rfl
  · obtain rfl := Option.some.inj hstep
    exact h
  · obtain rfl := Option.some.inj hstep
    exact h
  · obtain rfl := Option.some.inj hstep
    exact h
  · obtain rfl := Option.some.inj hstep
    exact h
  · obtain rfl := Option.some.inj hstep
    exact h
  · split at hstep
    · obtain rfl := Option.some.inj hstep
      rfl
    · simp at hstep
  · obtain rfl := Option.some.inj hstep
    exact h

/-- Nobody disturbs an evaluation who has the lock, because it is another thread that does not. -/
theorem step_disturbed (h : s.disturbed = false) (hC : s.AssignsLocked a)
    (hstep : s.step a = some s') : s'.disturbed = false := by
  rw [WatchedSession.step.eq_def] at hstep
  cases a with
  | advance t =>
      dsimp only at hstep
      split at hstep
      · exact (notifyStep_disturbed hstep).trans h
      · exact waitStep_disturbed h hstep
      · simp at hstep
  | assign t o name v =>
      have howner : s.monitor.owner = some t := hC
      dsimp only at hstep
      split at hstep
      · split_ifs at hstep
        · obtain rfl := Option.some.inj hstep
          simp [goto, h, howner]
        · obtain rfl := Option.some.inj hstep
          exact h
      · simp at hstep
  | acquire t | release t =>
      dsimp only at hstep
      split at hstep
      · split_ifs at hstep
        obtain rfl := Option.some.inj hstep
        exact h
      · simp at hstep
  | observe t o | timeout t =>
      dsimp only at hstep
      split at hstep
      · obtain rfl := Option.some.inj hstep
        exact h
      · simp at hstep
  | waitFor t p timer =>
      dsimp only at hstep
      split at hstep
      · split_ifs at hstep
        cases timer with
        | none =>
            obtain rfl := Option.some.inj hstep
            exact h
        | some u =>
            obtain rfl := Option.some.inj hstep
            exact h
      · simp at hstep

/-- **If attributes are assigned with the session locked**, a call returns the value of its
predicate. -/
theorem returns_eval
    (h : (watchedSession O A V T refs).ReachableWithin (fun s a => s.AssignsLocked a) s)
    {value : Option Bool} (hw : s.threads t = .waitFor w) (hvalue : w.step = .returning value) :
    w.predicate.eval s.attrs = value := by
  have hinvariant : (watchedSession O A V T refs).InvariantWithin (fun s a => s.AssignsLocked a)
      fun s => s.disturbed = false :=
    ⟨fun hs => hs.disturbed, fun hs hC hstep => step_disturbed hs hC hstep⟩
  have hdisturbed : s.disturbed = false := hinvariant.of_reachable h
  have hknows := (inv_of_reachable h.reachable).knows t w hw
  rw [Knows, hvalue] at hknows
  exact hknows.1 hdisturbed

end

/-! ### Runs -/

/-- One attribute, which is a flag. -/
def flag (value : Bool) : WatchedSession Unit Unit Bool Bool :=
  ⟨fun _ _ => value, fun _ => true, ⟨none, 0, fun _ => .awake⟩, fun _ => .other, fun _ => false, 0,
    false⟩

/-- `lambda: self.flag`. -/
def isSet : WaitPredicate Unit Unit Bool fun _ => [] :=
  ⟨.read () () fun value => .result (some value), [()], List.mem_singleton.mpr rfl,
    fun _ => trivial⟩

theorem flag_fresh (value : Bool) : (flag value).Fresh fun _ => [] :=
  ⟨fun _ _ _ h => by simp at h, rfl, fun _ => rfl, fun _ => rfl, rfl⟩

/-- A thread falls asleep; another one sets the flag without the lock, and notifies; the first
one returns. -/
theorem wait_for_correct_woken : ∃ (s : WatchedSession Unit Unit Bool Bool)
    (w : WaitFor Unit Unit Bool), s.threads false = .waitFor w ∧
    w.step = .returning (some true) ∧
    (∀ depth, s.monitor.sleep false = .asleep depth → ¬ s.Coming →
      w.predicate.eval s.attrs ≠ some true ∧ s.timedOut w.call = false) ∧
    ∀ result, w.step = .returning (some result) →
      s.monitor.owner = some false ∧ (result = false → s.timedOut w.call = true) ∧
        (s.disturbed = false → w.predicate.eval s.attrs = some result) := by
  have hrun : ∃ s : WatchedSession Unit Unit Bool Bool,
      (watchedSession Unit Unit Bool Bool fun _ => []).run (flag false)
        [.waitFor false isSet none, .advance false, .advance false, .advance false,
          .advance false, .advance false, .assign true () () true, .advance true, .advance true,
          .advance true, .advance false, .advance false, .advance false] = some s ∧
      s.threads false = .waitFor ⟨isSet.predicate, 0, .returning (some true)⟩ := ⟨_, rfl, rfl⟩
  obtain ⟨s, hs, hw⟩ := hrun
  exact ⟨s, _, hw, rfl,
    wait_for_correct ((Machine.Reachable.of_start (flag_fresh false)).run hs) hw⟩

/-- **A flag that is cleared without the lock** while `wait_for()` is about to return `True`. -/
theorem returns_disturbed : ¬ ∀ (s : WatchedSession Unit Unit Bool Bool) (t : Bool)
    (w : WaitFor Unit Unit Bool),
    (watchedSession Unit Unit Bool Bool fun _ => []).Reachable s → s.threads t = .waitFor w →
    (∀ depth, s.monitor.sleep t = .asleep depth → ¬ s.Coming →
      w.predicate.eval s.attrs ≠ some true ∧ s.timedOut w.call = false) ∧
    ∀ result, w.step = .returning (some result) →
      s.monitor.owner = some t ∧ (result = false → s.timedOut w.call = true) ∧
        w.predicate.eval s.attrs = some result := by
  intro h
  have hrun : ∃ s : WatchedSession Unit Unit Bool Bool,
      (watchedSession Unit Unit Bool Bool fun _ => []).run (flag true)
        [.waitFor false isSet none, .advance false, .advance false, .advance false,
          .assign true () () false] = some s ∧
      s.threads false = .waitFor ⟨isSet.predicate, 0, .returning (some true)⟩ ∧
      isSet.predicate.eval s.attrs = some false := ⟨_, rfl, rfl, rfl⟩
  obtain ⟨s, hs, hw, heval⟩ := hrun
  have hreachable := (Machine.Reachable.of_start (flag_fresh true)).run hs
  have hreturns := ((h s false _ hreachable hw).2 true rfl).2.2
  simp [heval] at hreturns

end WatchedSession

end

end Ptvsd
