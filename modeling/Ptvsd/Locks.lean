import Mathlib.Data.List.Basic
import Mathlib.Logic.Function.Basic
import Ptvsd.Machine

/-!
# Threads That Take Reentrant Locks

Threads that take locks in the manner of `with` statements. Of a program of a thread only what
concerns the locks is given, as a tree: a lock is held while a body runs, and what depends on
anything else is left open. What depends on data that the threads share is a call, which changes
the data and says how the program goes on.

A thread takes a lock that it holds once more, and releases it in the end as often. A thread
that waits for a condition of a lock releases it altogether, and takes it as often again.

## Main results

* `Locking.disciplined_of_reachable`: if every lock that a body takes is allowed there, as far as
  one can tell from the locks around it, then this is so in all runs: what a thread has to do
  matches the locks that it holds, and no two threads hold the same one.
* `Threads.Disciplined.deadlock_free`: two threads do not wait for each other over two locks if
  the second one may be taken, with the first one held, only by a thread that holds both.
-/

/-- A piece of a program, as far as locks are concerned; `C` are the calls. -/
inductive Code (L C : Type) where
  /-- A body that runs with a lock held. -/
  | withLock (l : L) (body : List (Code L C))
  /-- Waits for a condition of a lock. -/
  | wait (l : L)
  /-- One of two branches. -/
  | choose (a b : List (Code L C))
  /-- A body that runs any number of times. -/
  | loop (body : List (Code L C))
  | call (c : C)

/-- What a thread has to do next. -/
inductive Frame (L C : Type) where
  | code (c : Code L C)
  | release (l : L)
  /-- Takes a lock again after a wait, as often as it was held then. -/
  | reacquire (l : L) (saved : List L)

/-- A thread: the locks that it holds, the last one first, and what it has to do. -/
structure Worker (L C : Type) where
  held : List L
  todo : List (Frame L C)

/-- All threads, with the data that they share. -/
structure Threads (L T C σ : Type) where
  shared : σ
  owner : L → Option T
  worker : T → Worker L C

/-- Programs: how a thread begins with a task, if it can, and what a call does. -/
structure Locking (L T C K σ : Type) where
  initial : σ
  begin : σ → T → K → Option (σ × List (Code L C))
  call : σ → C → σ × List (Code L C)

/-- The steps of the threads. -/
inductive Locking.Action (T K : Type) where
  /-- A thread that has nothing to do begins with a task. -/
  | begin (t : T) (task : K)
  /-- A thread goes on, and takes a branch if there is a choice. -/
  | exec (t : T) (branch : Bool)
  /-- An exception is raised, which ends the body around the lock taken last. It may be raised
  again when that lock has been released. -/
  | raise (t : T)

variable {L T C K σ : Type} [DecidableEq L] [DecidableEq T]

/-! ### Steps -/

namespace Frame

/-- The frame is a piece of a program. -/
def isCode : Frame L C → Bool
  | .code _ => true
  | _ => false

/-- The lock that a thread takes next, if that is what it does. -/
def nextLock : List (Frame L C) → Option L
  | .code (.withLock l _) :: _ => some l
  | .reacquire l _ :: _ => some l
  | _ => none

end Frame

namespace Threads

/-- The thread can take the lock. -/
def Available (s : Threads L T C σ) (t : T) (l : L) : Prop :=
  s.owner l = none ∨ s.owner l = some t

instance (s : Threads L T C σ) (t : T) (l : L) : Decidable (s.Available t l) :=
  inferInstanceAs (Decidable (_ ∨ _))

/-- The thread goes on with something else. -/
def goto (s : Threads L T C σ) (t : T) (todo : List (Frame L C)) : Threads L T C σ :=
  { s with worker := Function.update s.worker t ⟨(s.worker t).held, todo⟩ }

/-- The thread takes a lock. -/
def acquire (s : Threads L T C σ) (t : T) (l : L) (held : List L) (todo : List (Frame L C)) :
    Threads L T C σ :=
  { s with owner := Function.update s.owner l (some t),
           worker := Function.update s.worker t ⟨held, todo⟩ }

/-- The thread gives up a lock, unless it still holds it. -/
def release (s : Threads L T C σ) (t : T) (l : L) (held : List L) (todo : List (Frame L C)) :
    Threads L T C σ :=
  { s with owner := if l ∈ held then s.owner else Function.update s.owner l none,
           worker := Function.update s.worker t ⟨held, todo⟩ }

end Threads

namespace Locking

variable (P : Locking L T C K σ)

/-- The thread goes on with the first of its frames. -/
def exec (s : Threads L T C σ) (t : T) (branch : Bool) :
    List (Frame L C) → Option (Threads L T C σ)
  | [] => none
  | .release l :: rest => some (s.release t l ((s.worker t).held.erase l) rest)
  | .reacquire l saved :: rest =>
      if s.Available t l then some (s.acquire t l saved rest) else none
  | .code (.withLock l body) :: rest =>
      if s.Available t l then
        some (s.acquire t l (l :: (s.worker t).held) (body.map Frame.code ++ .release l :: rest))
      else none
  | .code (.wait l) :: rest =>
      if l ∈ (s.worker t).held then
        some (s.release t l ((s.worker t).held.filter (· ≠ l))
          (.reacquire l (s.worker t).held :: rest))
      else none
  | .code (.choose a b) :: rest =>
      some (s.goto t ((if branch then a else b).map Frame.code ++ rest))
  | .code (.loop body) :: rest =>
      some (s.goto t (if branch then body.map Frame.code ++ .code (.loop body) :: rest else rest))
  | .code (.call c) :: rest =>
      some ({ s with shared := (P.call s.shared c).1 }.goto t
        ((P.call s.shared c).2.map Frame.code ++ rest))

/-- The step under an action. -/
def step (s : Threads L T C σ) : Action T K → Option (Threads L T C σ)
  | .begin t task =>
      if (s.worker t).todo.isEmpty then
        (P.begin s.shared t task).map fun p => { s with shared := p.1 }.goto t (p.2.map Frame.code)
      else none
  | .exec t branch => P.exec s t branch (s.worker t).todo
  | .raise t =>
      match (s.worker t).todo with
      | .code _ :: rest => some (s.goto t (rest.dropWhile Frame.isCode))
      | _ => none

/-- Nobody has begun with anything. -/
def init : Threads L T C σ := ⟨P.initial, fun _ => none, fun _ => ⟨[], []⟩⟩

/-- The machine of the threads. -/
def machine : Machine (Threads L T C σ) (Action T K) where
  start s := s = P.init
  step := P.step

end Locking

/-! ### Mutual exclusion -/

namespace Threads

variable {s s' : Threads L T C σ} {t t' : T} {l : L} {held : List L} {todo : List (Frame L C)}

/-- The owner of a lock is who holds it. -/
def Exclusive (s : Threads L T C σ) : Prop := ∀ t l, l ∈ (s.worker t).held ↔ s.owner l = some t

/-- The thread cannot go on, since another one has the lock that it takes next. -/
def WaitsFor (s : Threads L T C σ) (t : T) (l : L) : Prop :=
  Frame.nextLock (s.worker t).todo = some l ∧ ∃ t', t' ≠ t ∧ s.owner l = some t'

/-- A thread holds one of two locks and waits for the other one, while another thread holds
that, and waits for the first. -/
def Deadlocked (s : Threads L T C σ) (l m : L) : Prop :=
  ∃ t t', l ∈ (s.worker t).held ∧ s.WaitsFor t m ∧ m ∈ (s.worker t').held ∧ s.WaitsFor t' l

omit [DecidableEq L] in
theorem Exclusive.goto (h : s.Exclusive) : (s.goto t todo).Exclusive := by
  intro t' l
  by_cases ht : t' = t
  · subst ht
    simpa [Threads.goto] using h t' l
  · simpa [Threads.goto, ht] using h t' l

/-- What a thread holds after it has taken a lock, or given one up, is what it held before. -/
theorem Exclusive.acquire (h : s.Exclusive) (hfree : s.Available t l)
    (hheld : ∀ m, m ∈ held ↔ m = l ∨ m ∈ (s.worker t).held) :
    (s.acquire t l held todo).Exclusive := by
  intro t' m
  by_cases ht : t' = t
  · subst ht
    by_cases hm : m = l
    · simp [Threads.acquire, hm, hheld]
    · simpa [Threads.acquire, hm, hheld] using h t' m
  · by_cases hm : m = l
    · subst hm
      have hnot : s.owner m ≠ some t' := by
        rcases hfree with hfree | hfree
        · simp [hfree]
        · rw [hfree]
          exact fun hsome => ht (Option.some.inj hsome).symm
      simpa [Threads.acquire, ht, Ne.symm ht] using fun hmem => hnot ((h t' m).mp hmem)
    · simpa [Threads.acquire, ht, hm] using h t' m

theorem Exclusive.release (h : s.Exclusive) (hhas : l ∈ (s.worker t).held)
    (hheld : ∀ m, m ≠ l → (m ∈ held ↔ m ∈ (s.worker t).held)) :
    (s.release t l held todo).Exclusive := by
  have howner : s.owner l = some t := (h t l).mp hhas
  intro t' m
  by_cases hm : m = l
  · subst hm
    by_cases ht : t' = t
    · subst ht
      by_cases hstill : m ∈ held
      · simp [Threads.release, hstill, howner]
      · simp [Threads.release, hstill]
    · have hnot : m ∉ (s.worker t').held := by
        rw [h t' m, howner]
        exact fun hsome => ht (Option.some.inj hsome).symm
      by_cases hstill : m ∈ held
      · simp [Threads.release, hstill, howner, ht, hnot, Ne.symm ht]
      · simp [Threads.release, hstill, ht, hnot]
  · have hkeeps : (s.release t l held todo).owner m = s.owner m := by
      simp only [Threads.release]
      split_ifs
      · rfl
      · exact Function.update_of_ne hm _ _
    rw [hkeeps, ← h t' m]
    by_cases ht : t' = t
    · subst ht
      simpa [Threads.release] using hheld m hm
    · simp [Threads.release, ht]

end Threads

/-! ### Disciplines -/

/-- Which locks may be taken, given those that are held, and which calls may be made. -/
structure Discipline (L C : Type) where
  allowed : List L → L → Prop
  safe : List L → C → Prop

namespace Discipline

variable (D : Discipline L C)

/-- A piece of a program keeps to the discipline, given the locks that are held around it. -/
inductive Safe : List L → Code L C → Prop where
  | withLock {held : List L} {l : L} {body : List (Code L C)} (hl : D.allowed held l)
      (hbody : ∀ c ∈ body, Safe (l :: held) c) : Safe held (.withLock l body)
  | wait {held : List L} {l : L} (hl : D.allowed (held.filter (· ≠ l)) l) : Safe held (.wait l)
  | choose {held : List L} {a b : List (Code L C)} (ha : ∀ c ∈ a, Safe held c)
      (hb : ∀ c ∈ b, Safe held c) : Safe held (.choose a b)
  | loop {held : List L} {body : List (Code L C)} (hbody : ∀ c ∈ body, Safe held c) :
      Safe held (.loop body)
  | call {held : List L} {c : C} (hc : D.safe held c) : Safe held (.call c)

/-- A program keeps to the discipline. -/
def SafeAll (held : List L) (body : List (Code L C)) : Prop := ∀ c ∈ body, D.Safe held c

/-- What a thread has to do matches the locks that it holds, and keeps to the discipline. -/
def Fits : List L → List (Frame L C) → Prop
  | held, [] => held = []
  | held, .code c :: rest => D.Safe held c ∧ Fits held rest
  | held, .release l :: rest => ∃ held', held = l :: held' ∧ Fits held' rest
  | held, .reacquire l saved :: rest =>
      D.allowed held l ∧ l ∈ saved ∧ held = saved.filter (· ≠ l) ∧ Fits saved rest

variable {D} {held : List L} {l : L} {rest : List (Frame L C)} {body : List (Code L C)}

@[simp] theorem safeAll_nil : D.SafeAll held [] := List.forall_mem_nil _

@[simp] theorem safeAll_cons {c : Code L C} :
    D.SafeAll held (c :: body) ↔ D.Safe held c ∧ D.SafeAll held body :=
  List.forall_mem_cons

@[simp] theorem safeAll_append {more : List (Code L C)} :
    D.SafeAll held (body ++ more) ↔ D.SafeAll held body ∧ D.SafeAll held more :=
  List.forall_mem_append

@[simp] theorem safe_withLock :
    D.Safe held (.withLock l body) ↔ D.allowed held l ∧ D.SafeAll (l :: held) body := by
  constructor
  · intro h
    cases h with
    | withLock hl hbody => exact ⟨hl, hbody⟩
  · rintro ⟨hl, hbody⟩
    exact .withLock hl hbody

@[simp] theorem safe_wait :
    D.Safe held (.wait l : Code L C) ↔ D.allowed (held.filter (· ≠ l)) l := by
  constructor
  · intro h
    cases h with
    | wait hl => exact hl
  · exact .wait

@[simp] theorem safe_choose {a b : List (Code L C)} :
    D.Safe held (.choose a b) ↔ D.SafeAll held a ∧ D.SafeAll held b := by
  constructor
  · intro h
    cases h with
    | choose ha hb => exact ⟨ha, hb⟩
  · rintro ⟨ha, hb⟩
    exact .choose ha hb

@[simp] theorem safe_loop : D.Safe held (.loop body) ↔ D.SafeAll held body := by
  constructor
  · intro h
    cases h with
    | loop hbody => exact hbody
  · exact .loop

@[simp] theorem safe_call {c : C} : D.Safe held (.call c) ↔ D.safe held c := by
  constructor
  · intro h
    cases h with
    | call hc => exact hc
  · exact .call

/-- More to do, with the same locks. -/
theorem Fits.append (hbody : D.SafeAll held body) (h : D.Fits held rest) :
    D.Fits held (body.map Frame.code ++ rest) := by
  induction body with
  | nil => exact h
  | cons c body ih =>
      obtain ⟨hc, hbody'⟩ := safeAll_cons.mp hbody
      exact ⟨hc, ih hbody'⟩

/-- What is left of a program is abandoned, up to where a lock is released. -/
theorem Fits.abandon (h : D.Fits held rest) : D.Fits held (rest.dropWhile Frame.isCode) := by
  induction rest with
  | nil => exact h
  | cons f rest ih =>
      cases f with
      | code c => exact ih h.2
      | release l => exact h
      | reacquire l saved => exact h

theorem Fits.allowed (h : D.Fits held rest) (hnext : Frame.nextLock rest = some l) :
    D.allowed held l := by
  match rest, h with
  | .code (.withLock m body) :: rest, h =>
      obtain rfl := Option.some.inj hnext
      exact (safe_withLock.mp h.1).1
  | .reacquire m saved :: rest, h =>
      obtain rfl := Option.some.inj hnext
      exact h.1

end Discipline

/-- All threads keep to the discipline. -/
structure Threads.Disciplined (D : Discipline L C) (s : Threads L T C σ) : Prop where
  exclusive : s.Exclusive
  fits : ∀ t, D.Fits (s.worker t).held (s.worker t).todo

/-- Programs keep to a discipline, as long as steps meet a condition. -/
structure Locking.Follows (P : Locking L T C K σ) (D : Discipline L C)
    (Cond : Threads L T C σ → Locking.Action T K → Prop) : Prop where
  begin : ∀ {shared shared' : σ} {t : T} {task : K} {body : List (Code L C)},
    P.begin shared t task = some (shared', body) → D.SafeAll [] body
  call : ∀ {s : Threads L T C σ} {t : T} {branch : Bool} {c : C} {rest : List (Frame L C)},
    Cond s (.exec t branch) → (s.worker t).todo = .code (.call c) :: rest →
      D.safe (s.worker t).held c → D.SafeAll (s.worker t).held (P.call s.shared c).2

namespace Threads

variable {D : Discipline L C} {s s' : Threads L T C σ} {t t' : T} {l m : L} {held : List L}
  {todo : List (Frame L C)}

/-- If one thread has done something, only that one matters. -/
theorem Disciplined.fits_update (h : s.Disciplined D) (hfits : D.Fits held todo) (t' : T) :
    D.Fits ((Function.update s.worker t ⟨held, todo⟩) t').held
      ((Function.update s.worker t ⟨held, todo⟩) t').todo := by
  by_cases ht : t' = t
  · subst ht
    simpa using hfits
  · simpa [ht] using h.fits t'

theorem Disciplined.goto (h : s.Disciplined D) (hfits : D.Fits (s.worker t).held todo) :
    (s.goto t todo).Disciplined D :=
  ⟨h.exclusive.goto, h.fits_update hfits⟩

theorem Disciplined.acquire (h : s.Disciplined D) (hfree : s.Available t l)
    (hheld : ∀ m, m ∈ held ↔ m = l ∨ m ∈ (s.worker t).held) (hfits : D.Fits held todo) :
    (s.acquire t l held todo).Disciplined D :=
  ⟨h.exclusive.acquire hfree hheld, h.fits_update hfits⟩

theorem Disciplined.release (h : s.Disciplined D) (hhas : l ∈ (s.worker t).held)
    (hheld : ∀ m, m ≠ l → (m ∈ held ↔ m ∈ (s.worker t).held)) (hfits : D.Fits held todo) :
    (s.release t l held todo).Disciplined D :=
  ⟨h.exclusive.release hhas hheld, h.fits_update hfits⟩

omit [DecidableEq T] in
/-- The data that the threads share is not what the locks are about. -/
theorem Disciplined.share (h : s.Disciplined D) (shared : σ) :
    ({ s with shared := shared } : Threads L T C σ).Disciplined D :=
  ⟨h.exclusive, h.fits⟩

omit [DecidableEq T] in
/-- **A thread waits for a lock only if it may.** -/
theorem Disciplined.allowed (h : s.Disciplined D) (hwaits : s.WaitsFor t l) :
    D.allowed (s.worker t).held l :=
  (h.fits t).allowed hwaits.1

omit [DecidableEq L] [DecidableEq T] in
/-- Nobody waits for a lock that it holds. -/
theorem Exclusive.not_mem_held (h : s.Exclusive) (hwaits : s.WaitsFor t l) :
    l ∉ (s.worker t).held := by
  obtain ⟨-, t', hne, howner⟩ := hwaits
  intro hmem
  have hself : s.owner l = some t := (h t l).mp hmem
  exact hne (Option.some.inj (howner.symm.trans hself))

omit [DecidableEq T] in
/-- **There is no deadlock** over two locks if the second one may be taken, with the first one
held, only by a thread that holds both. -/
theorem Disciplined.deadlock_free (h : s.Disciplined D)
    (hD : ∀ held, l ∈ held → D.allowed held m → m ∈ held) : ¬ s.Deadlocked l m := by
  rintro ⟨t, t', hheld, hwaits, -, -⟩
  exact h.exclusive.not_mem_held hwaits (hD _ hheld (h.allowed hwaits))

end Threads

namespace Locking

variable {P : Locking L T C K σ} {D : Discipline L C}
  {Cond : Threads L T C σ → Action T K → Prop} {s s' : Threads L T C σ} {a : Action T K} {t : T}
  {branch : Bool}

omit [DecidableEq T] in
theorem disciplined_init : P.init.Disciplined D :=
  ⟨fun t l => by simp [init], fun _ => rfl⟩

/-- A thread that goes on keeps to the discipline. -/
theorem disciplined_exec (hP : P.Follows D Cond) (h : s.Disciplined D)
    (hC : Cond s (.exec t branch)) (hexec : P.exec s t branch (s.worker t).todo = some s') :
    s'.Disciplined D := by
  have hfits := h.fits t
  match htodo : (s.worker t).todo with
  | [] =>
      rw [htodo] at hexec
      cases hexec
  | .release l :: rest =>
      rw [htodo] at hexec hfits
      obtain ⟨held, hheld, hfits⟩ := hfits
      obtain rfl := Option.some.inj hexec
      have herase : (s.worker t).held.erase l = held := by simp [hheld]
      rw [herase]
      refine h.release (by simp [hheld]) (fun m hm => ?_) hfits
      simp [hheld, hm]
  | .reacquire l saved :: rest =>
      rw [htodo] at hexec hfits
      obtain ⟨-, hmem, hheld, hfits⟩ := hfits
      simp only [exec] at hexec
      split_ifs at hexec with hfree
      obtain rfl := Option.some.inj hexec
      refine h.acquire hfree (fun m => ?_) hfits
      by_cases hm : m = l
      · simp [hm, hmem]
      · simp [hheld, hm]
  | .code (.withLock l body) :: rest =>
      rw [htodo] at hexec hfits
      obtain ⟨hsafe, hfits⟩ := hfits
      simp only [exec] at hexec
      split_ifs at hexec with hfree
      obtain rfl := Option.some.inj hexec
      obtain ⟨hl, hbody⟩ := Discipline.safe_withLock.mp hsafe
      exact h.acquire hfree (fun m => List.mem_cons)
        (Discipline.Fits.append hbody ⟨_, rfl, hfits⟩)
  | .code (.wait l) :: rest =>
      rw [htodo] at hexec hfits
      obtain ⟨hsafe, hfits⟩ := hfits
      simp only [exec] at hexec
      split_ifs at hexec with hmem
      obtain rfl := Option.some.inj hexec
      refine h.release hmem (fun m hm => ?_) ⟨Discipline.safe_wait.mp hsafe, hmem, rfl, hfits⟩
      simp [hm]
  | .code (.choose x y) :: rest =>
      rw [htodo] at hexec hfits
      obtain ⟨hsafe, hfits⟩ := hfits
      obtain rfl := Option.some.inj hexec
      obtain ⟨hx, hy⟩ := Discipline.safe_choose.mp hsafe
      refine h.goto (Discipline.Fits.append ?_ hfits)
      cases branch with
      | true => exact hx
      | false => exact hy
  | .code (.loop body) :: rest =>
      rw [htodo] at hexec hfits
      obtain rfl := Option.some.inj hexec
      cases branch with
      | false => exact h.goto hfits.2
      | true => exact h.goto (Discipline.Fits.append (Discipline.safe_loop.mp hfits.1) hfits)
  | .code (.call c) :: rest =>
      rw [htodo] at hexec hfits
      obtain ⟨hsafe, hfits⟩ := hfits
      obtain rfl := Option.some.inj hexec
      have hcall := hP.call hC htodo (Discipline.safe_call.mp hsafe)
      exact (h.share _).goto (Discipline.Fits.append hcall hfits)

/-- **A step keeps to the discipline**, whatever it is. -/
theorem disciplined_step (hP : P.Follows D Cond) (h : s.Disciplined D) (hC : Cond s a)
    (hstep : P.step s a = some s') : s'.Disciplined D := by
  cases a with
  | begin t task =>
      simp only [step] at hstep
      split_ifs at hstep with hidle
      obtain ⟨p, hbegin, rfl⟩ := Option.map_eq_some_iff.mp hstep
      have hheld : (s.worker t).held = [] := by
        have hfits := h.fits t
        rw [List.isEmpty_iff.mp hidle] at hfits
        exact hfits
      refine (h.share _).goto ?_
      have hbody := hP.begin hbegin
      rw [← List.append_nil (p.2.map Frame.code)]
      exact Discipline.Fits.append (by simpa [hheld] using hbody) hheld
  | exec t branch => exact disciplined_exec hP h hC hstep
  | raise t =>
      simp only [step] at hstep
      split at hstep
      case h_1 c rest htodo =>
        obtain rfl := Option.some.inj hstep
        have hfits := h.fits t
        rw [htodo] at hfits
        exact h.goto hfits.2.abandon
      case h_2 => cases hstep

/-- **All runs keep to the discipline**, as long as their steps meet the condition. -/
theorem disciplined_of_reachable (hP : P.Follows D Cond)
    (h : P.machine.ReachableWithin Cond s) : s.Disciplined D := by
  have hinv : P.machine.InvariantWithin Cond (Threads.Disciplined D) :=
    ⟨fun h => h ▸ disciplined_init, fun hs hC hstep => disciplined_step hP hs hC hstep⟩
  exact hinv.of_reachable h

end Locking
