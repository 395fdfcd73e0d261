import Ptvsd.Relay

/-!
# The Exit of the Debuggee as a Server Reports it

A session with a launcher learns from it that the debuggee has exited; the "exited" event of a
server is passed on only in a session without one. A launcher that connects later would make no
difference to an event that has been passed on: but none does, since "launch" is refused once
there is a server.

## Main results

* `exited_alone`: in a session with a launcher no "exited" event of a server has been passed on.
-/

namespace Ptvsd

/-- It is the "exited" event of a server. -/
def RelayedEvent.isExit : RelayedEvent → Bool
  | .server (.exited _) => true
  | _ => false

namespace Relay

variable {s s' s₁ : Relay} {role : Role} {op : Op} {ops rest : List Op}
  {raised raised' branch : Bool} {a : Action} {message : Sent} {request : IdeRequest}
  {success : Bool} {e : RelayedEvent} {free alone free' alone' : Prop}

/-- There is neither a launcher nor a server. -/
def Free (s : Relay) : Prop := s.launcher = none ∧ s.server = none

/-- There is a server, and no launcher. -/
def Alone (s : Relay) : Prop := s.launcher = none ∧ s.server.isSome

/-- A launcher connects only right after a check that there is neither a launcher nor a server,
and an exit is passed on only right after one that there is no launcher; given what holds
before. -/
def Guarded (s : Relay) (role : Role) : Prop → Prop → List Op → Prop
  | _, _, [] => True
  | _, alone, .checkStarted :: rest => Guarded s role True alone rest
  | free, alone, .other :: rest => Guarded s role free alone rest
  | free, _, .attachLauncher :: rest => free ∧ Guarded s role False False rest
  | _, _, .unlessLauncher _ :: rest => s.server.isSome ∧ Guarded s role False False rest
  | _, _, .unlessVisualStudio e :: rest => e.isExit = false ∧ Guarded s role False False rest
  | _, alone, .propagateAfterStart e :: rest =>
      (e.isExit = true → alone) ∧ Guarded s role False False rest
  | _, _, .disconnect :: rest =>
      (role = .launcher → s.launcher.isSome) ∧ Guarded s role False False rest
  | _, _, _ :: rest => Guarded s role False False rest

/-- Components remain, connected or not. -/
structure Grows (s s' : Relay) : Prop where
  launcher : s.launcher.isSome → s'.launcher.isSome
  server : s.server.isSome → s'.server.isSome

/-- What may be assumed later is assumed. -/
theorem Guarded.mono (h : s.Guarded role free alone ops) (hgrows : s.Grows s')
    (hfree : free → free') (halone : alone → alone') : s'.Guarded role free' alone' ops := by
  induction ops generalizing free alone free' alone' with
  | nil => trivial
  | cons op rest ih =>
      cases op with
      | checkStarted => exact ih h id halone
      | other => exact ih h hfree halone
      | attachLauncher => exact ⟨hfree h.1, ih h.2 id id⟩
      | unlessLauncher e => exact ⟨hgrows.server h.1, ih h.2 id id⟩
      | unlessVisualStudio e => exact ⟨h.1, ih h.2 id id⟩
      | propagateAfterStart e => exact ⟨fun he => halone (h.1 he), ih h.2 id id⟩
      | disconnect => exact ⟨fun hrole => hgrows.launcher (h.1 hrole), ih h.2 id id⟩
      | _ => exact ih h id id

/-- What is left of a handler that raises. -/
theorem Guarded.unwind (h : s.Guarded role free alone ops) :
    s.Guarded role False False (unwind ops) := by
  induction ops generalizing free alone with
  | nil => trivial
  | cons op rest ih =>
      cases op with
      | attachLauncher => exact ih h.2
      | unlessLauncher e => exact ih h.2
      | unlessVisualStudio e => exact ih h.2
      | propagateAfterStart e => exact ih h.2
      | disconnect => exact ih h.2
      | beginFinally => exact h
      | _ => exact ih h

/-- What follows an operation is guarded, too. -/
theorem Guarded.tail (h : s.Guarded role free alone (op :: rest)) :
    ∃ free' alone', s.Guarded role free' alone' rest := by
  cases op with
  | attachLauncher => exact ⟨_, _, h.2⟩
  | unlessLauncher e => exact ⟨_, _, h.2⟩
  | unlessVisualStudio e => exact ⟨_, _, h.2⟩
  | propagateAfterStart e => exact ⟨_, _, h.2⟩
  | disconnect => exact ⟨_, _, h.2⟩
  | _ => exact ⟨_, _, h⟩

/-- What holds in all runs. -/
structure Apart (s : Relay) : Prop where
  held : ∀ holder, s.holder = some holder → s.Guarded holder.role s.Free s.Alone holder.ops
  waiting : ∀ role ops, s.pending role = some ops → s.Guarded role False False ops
  passed : ∀ e ∈ s.passed, e.isExit = true → s.Alone

/-- Only the components and what was passed on matter. -/
structure Stays (s s' : Relay) : Prop where
  launcher : s'.launcher = s.launcher
  server : s'.server = s.server
  pending : s'.pending = s.pending
  passed : s'.passed = s.passed

/-- To do nothing changes no component. -/
theorem Stays.refl (s : Relay) : s.Stays s := ⟨rfl, rfl, rfl, rfl⟩

/-- No component goes away. -/
theorem Stays.grows (h : s.Stays s') : s.Grows s' := ⟨h.launcher ▸ id, h.server ▸ id⟩

/-- The server stays alone. -/
theorem Stays.isAlone (h : s.Stays s') (halone : s.Alone) : s'.Alone :=
  ⟨h.launcher.trans halone.1, h.server ▸ halone.2⟩

/-- The session stays free. -/
theorem Stays.isFree (h : s.Stays s') (hfree : s.Free) : s'.Free :=
  ⟨h.launcher.trans hfree.1, h.server.trans hfree.2⟩

/-- A response changes no component. -/
theorem stays_respond (h : s.respond request success = some s₁) : s.Stays s₁ := by
  obtain ⟨-, -, rfl⟩ := respond_cases h
  exact ⟨rfl, rfl, rfl, rfl⟩

/-- An event changes no component. -/
theorem stays_writeEvent (h : s.writeEvent message = some s₁) : s.Stays s₁ := by
  rw [writeEvent] at h
  split_ifs at h
  obtain rfl := Option.some.inj h
  exact ⟨rfl, rfl, rfl, rfl⟩

/-- An event that cannot be written changes no component. -/
theorem stays_tryWrite : s.Stays (s.tryWrite message) := by
  rw [tryWrite]
  split_ifs <;> exact ⟨rfl, rfl, rfl, rfl⟩

/-- The holder of the lock goes on. -/
theorem Apart.goto (h : s.Apart) (hgrows : s.Grows s₁) (hpending : s₁.pending = s.pending)
    (hpassed : ∀ e ∈ s₁.passed, e.isExit = true → s₁.Alone)
    (hops : s₁.Guarded role s₁.Free s₁.Alone ops) : (s₁.goto role ops raised).Apart := by
  refine ⟨fun holder hholder => ?_, fun role' ops' hwaits => ?_, hpassed⟩
  · obtain rfl := Option.some.inj hholder
    exact hops.mono ⟨id, id⟩ id id
  · have hwaits' : s.pending role' = some ops' := hpending ▸ hwaits
    exact (h.waiting role' ops' hwaits').mono ⟨hgrows.launcher, hgrows.server⟩ id id

/-- The same, after something that matters to nobody here. -/
theorem Apart.stay (h : s.Apart) (hstays : s.Stays s₁) (hops : s.Guarded role s.Free s.Alone ops) :
    (s₁.goto role ops raised).Apart :=
  h.goto hstays.grows hstays.pending
    (fun e he hexit => hstays.isAlone (h.passed e (hstays.passed ▸ he) hexit))
    (hops.mono hstays.grows hstays.isFree hstays.isAlone)

/-- The same, with nothing known any more. -/
theorem Apart.forget (h : s.Apart) (hstays : s.Stays s₁) (hops : s.Guarded role False False ops) :
    (s₁.goto role ops raised).Apart :=
  h.stay hstays (hops.mono ⟨id, id⟩ False.elim False.elim)

/-- There is a server now, if there was none. -/
theorem Apart.serve (h : s.Apart) (connected : Bool) (hops : s.Guarded role False False ops) :
    ({ s with server := some connected }.goto role ops raised).Apart := by
  have hgrows : s.Grows { s with server := some connected } := ⟨id, fun _ => rfl⟩
  exact h.goto hgrows rfl (fun e he hexit => ⟨(h.passed e he hexit).1, rfl⟩)
    (hops.mono hgrows False.elim False.elim)

/-- Whose turn it is remains. -/
theorem Apart.turn (h : s.Apart) (hstays : s.Stays s₁) (hholder : s₁.holder = s.holder) :
    s₁.Apart :=
  ⟨fun holder hheld => (h.held holder (hholder ▸ hheld)).mono hstays.grows hstays.isFree
      hstays.isAlone,
    fun role ops hwaits => (h.waiting role ops (hstays.pending ▸ hwaits)).mono hstays.grows id id,
    fun e he hexit => hstays.isAlone (h.passed e (hstays.passed ▸ he) hexit)⟩

/-- The holder of the lock releases it. -/
theorem Apart.release (h : s.Apart) (hstays : s.Stays s₁) (hholder : s₁.holder = none) :
    s₁.Apart :=
  ⟨fun holder hheld => by simp [hholder] at hheld,
    fun role ops hwaits => (h.waiting role ops (hstays.pending ▸ hwaits)).mono hstays.grows id id,
    fun e he hexit => hstays.isAlone (h.passed e (hstays.passed ▸ he) hexit)⟩

/-- A response is sent. -/
theorem Apart.answer (h : s.Apart) (request : IdeRequest) (success : Bool) :
    ({ (s.respond request success).getD s with answer := none } : Relay).Apart := by
  cases hrespond : s.respond request success with
  | none => exact h.turn ⟨rfl, rfl, rfl, rfl⟩ rfl
  | some s₁ =>
      obtain ⟨-, -, rfl⟩ := respond_cases hrespond
      exact h.turn ⟨rfl, rfl, rfl, rfl⟩ rfl

/-- The holder of the lock raises. -/
theorem Apart.raise (h : s.Apart) (hholder : s.holder = some ⟨role, op :: rest, raised⟩)
    (hstays : s.Stays s₁) : (s₁.raise role rest).Apart := by
  obtain ⟨_, _, hrest⟩ := (h.held _ hholder).tail
  exact h.forget hstays hrest.unwind

/-- A handler refuses its request. -/
theorem Apart.refuse (h : s.Apart) (hholder : s.holder = some ⟨role, op :: rest, raised⟩) :
    (s.refuse role rest).Apart := by
  unfold Relay.refuse
  split
  · next request body _ =>
    cases hrespond : s.respond request false with
    | none => exact h.raise hholder (Stays.refl s)
    | some s₁ => exact h.raise hholder (stays_respond hrespond)
  · exact h.raise hholder (Stays.refl s)

/-- The holder of the lock goes on after something that may have raised. -/
theorem Apart.orRaise (h : s.Apart) (hholder : s.holder = some ⟨role, op :: rest, raised⟩)
    {result : Option Relay} (hstays : ∀ s₁, result = some s₁ → s.Stays s₁)
    (hops : s.Guarded role False False ops) :
    (s.orRaise role rest ops raised' result).Apart := by
  cases result with
  | none => exact h.raise hholder (Stays.refl s)
  | some s₁ => exact h.forget (hstays s₁ rfl) hops

/-- **One operation.** -/
theorem Apart.exec (h : s.Apart) (hholder : s.holder = some ⟨role, ops, raised⟩)
    (hexec : s.exec role raised branch ops = some s') : s'.Apart := by
  have hheld : s.Guarded role s.Free s.Alone ops := h.held _ hholder
  have hsame : s.Stays s := Stays.refl s
  cases ops with
  | nil =>
      obtain rfl := Option.some.inj hexec
      rw [finish]
      split_ifs <;> exact h.release ⟨rfl, rfl, rfl, rfl⟩ rfl
  | cons op rest =>
      cases op with
      | other =>
          obtain rfl := Option.some.inj hexec
          exact h.stay hsame hheld
      | throw =>
          obtain rfl := Option.some.inj hexec
          exact h.refuse hholder
      | checkStarted =>
          simp only [Relay.exec] at hexec
          split at hexec
          · obtain rfl := Option.some.inj hexec
            exact h.refuse hholder
          · next hnobody =>
            obtain rfl := Option.some.inj hexec
            have hfree : s.Free := by simpa [Free] using hnobody
            have hrest : s.Guarded role True s.Alone rest := hheld
            exact h.stay hsame (hrest.mono ⟨id, id⟩ (fun _ => hfree) id)
      | attachLauncher =>
          simp only [Relay.exec] at hexec
          split at hexec <;> obtain rfl := Option.some.inj hexec
          · exact h.raise hholder hsame
          · -- no exit was passed on, as there is no server
            have hgrows : s.Grows { s with launcher := some true } := ⟨fun _ => rfl, id⟩
            refine h.goto hgrows rfl (fun e he hexit => ?_)
              (hheld.2.mono hgrows False.elim False.elim)
            have hserver := (h.passed e he hexit).2
            simp [hheld.1.2] at hserver
      | attachServer =>
          simp only [Relay.exec] at hexec
          split at hexec <;> obtain rfl := Option.some.inj hexec
          · exact h.raise hholder hsame
          · exact h.serve true hheld
      | tryAttachServer request =>
          simp only [Relay.exec] at hexec
          split_ifs at hexec <;> obtain rfl := Option.some.inj hexec
          · exact h.orRaise hholder (fun s₁ => stays_respond) hheld
          · exact h.raise hholder hsame
          · exact h.serve true hheld
      | requireServer =>
          simp only [Relay.exec] at hexec
          split at hexec <;> obtain rfl := Option.some.inj hexec
          · exact h.forget hsame hheld
          · exact h.raise hholder hsame
      | waitFor awaited =>
          simp only [Relay.exec] at hexec
          split_ifs at hexec
          obtain rfl := Option.some.inj hexec
          exact h.forget hsame hheld
      | sendInitialized =>
          obtain rfl := Option.some.inj hexec
          exact h.orRaise hholder (fun s₁ => stays_writeEvent) hheld
      | setStartRequest request =>
          obtain rfl := Option.some.inj hexec
          exact h.forget ⟨rfl, rfl, rfl, rfl⟩ hheld
      | setHasStarted =>
          obtain rfl := Option.some.inj hexec
          exact h.forget ⟨rfl, rfl, rfl, rfl⟩ hheld
      | respondToStart =>
          obtain rfl := Option.some.inj hexec
          refine h.orRaise hholder (fun s₁ hs₁ => ?_) hheld
          obtain ⟨q, -, hrespond⟩ := Option.bind_eq_some_iff.mp hs₁
          exact stays_respond hrespond
      | checkConfigurationDone request =>
          simp only [Relay.exec] at hexec
          split at hexec <;> obtain rfl := Option.some.inj hexec
          · exact h.orRaise hholder (fun s₁ => stays_respond) hheld
          · exact h.forget hsame hheld
      | tryConfigurationDone request =>
          obtain rfl := Option.some.inj hexec
          exact h.forget hsame hheld
      | delegate request =>
          simp only [Relay.exec] at hexec
          split at hexec <;> obtain rfl := Option.some.inj hexec
          · refine h.orRaise hholder (fun s₁ hs₁ => ?_) hheld
            obtain ⟨q, -, hrespond⟩ := Option.bind_eq_some_iff.mp hs₁
            exact stays_respond hrespond
          · exact h.orRaise hholder (fun s₁ => stays_respond) hheld
      | beginFinally =>
          obtain rfl := Option.some.inj hexec
          exact h.forget hsame hheld
      | endFinally =>
          obtain rfl := Option.some.inj hexec
          cases raised with
          | true => exact h.forget hsame trivial
          | false => exact h.forget hsame hheld
      | propagateDeferred =>
          simp only [Relay.exec] at hexec
          split at hexec <;> obtain rfl := Option.some.inj hexec
          · exact h.forget hsame hheld
          · exact h.raise hholder hsame
      | propagateNext i =>
          simp only [Relay.exec] at hexec
          split at hexec <;> obtain rfl := Option.some.inj hexec
          · exact h.orRaise hholder (fun s₁ => stays_writeEvent) hheld
          · exact h.forget hsame hheld
      | clearDeferred =>
          obtain rfl := Option.some.inj hexec
          exact h.forget ⟨rfl, rfl, rfl, rfl⟩ hheld
      | propagateAfterStart e =>
          have hpassed : ∀ e' ∈ s.passed ++ [e], e'.isExit = true → s.Alone := by
            intro e' he' hexit
            rcases List.mem_append.mp he' with he' | he'
            · exact h.passed e' he' hexit
            · rw [List.mem_singleton] at he'
              exact hheld.1 (he' ▸ hexit)
          have hrest : s.Guarded role False False rest := hheld.2
          simp only [Relay.exec] at hexec
          split at hexec <;> obtain rfl := Option.some.inj hexec
          · exact h.goto ⟨id, id⟩ rfl hpassed (hrest.mono ⟨id, id⟩ id id)
          · exact h.goto ⟨id, id⟩ rfl hpassed (hrest.mono ⟨id, id⟩ id id)
      | defer e =>
          simp only [Relay.exec] at hexec
          split at hexec <;> obtain rfl := Option.some.inj hexec
          · exact h.forget ⟨rfl, rfl, rfl, rfl⟩ hheld
          · exact h.raise hholder hsame
      | propagate e =>
          obtain rfl := Option.some.inj hexec
          exact h.orRaise hholder (fun s₁ => stays_writeEvent) hheld
      | unlessLauncher e =>
          have hrest : s.Guarded role False False rest := hheld.2
          simp only [Relay.exec] at hexec
          split at hexec <;> obtain rfl := Option.some.inj hexec
          · exact h.forget hsame hrest
          · next hnone =>
            rw [Option.not_isSome_iff_eq_none] at hnone
            exact h.stay hsame ⟨fun _ => ⟨hnone, hheld.1⟩, hrest⟩
      | unlessVisualStudio e =>
          have hrest : s.Guarded role False False rest := hheld.2
          simp only [Relay.exec] at hexec
          split at hexec <;> obtain rfl := Option.some.inj hexec
          · exact h.forget hsame hrest
          · exact h.forget hsame ⟨fun hexit => by simp [hheld.1] at hexit, hrest⟩
      | sendExited =>
          obtain rfl := Option.some.inj hexec
          exact h.forget stays_tryWrite hheld
      | close =>
          obtain rfl := Option.some.inj hexec
          exact h.forget ⟨rfl, rfl, rfl, rfl⟩ hheld
      | disconnect =>
          obtain rfl := Option.some.inj hexec
          have hrest : s.Guarded role False False rest := hheld.2
          cases role with
          | ide => exact h.forget hsame hrest
          | server => exact h.serve false hrest
          | launcher =>
              have hgrows : s.Grows { s with launcher := some false } := ⟨fun _ => rfl, id⟩
              refine h.goto hgrows rfl (fun e he hexit => ?_)
                (hrest.mono hgrows False.elim False.elim)
              have hlauncher := hheld.1 rfl
              simp [(h.passed e he hexit).1] at hlauncher
      | finalize =>
          simp only [Relay.exec] at hexec
          split at hexec <;> obtain rfl := Option.some.inj hexec
          · exact h.forget hsame hheld
          · exact h.forget ⟨rfl, rfl, rfl, rfl⟩ hheld
      | finalizeServer =>
          simp only [Relay.exec] at hexec
          split at hexec <;> obtain rfl := Option.some.inj hexec
          · exact h.serve false hheld
          · exact h.forget hsame hheld
      | finalizeLauncher =>
          simp only [Relay.exec] at hexec
          split_ifs at hexec <;> obtain rfl := Option.some.inj hexec
          all_goals exact h.forget hsame hheld
      | sendTerminated =>
          obtain rfl := Option.some.inj hexec
          exact h.forget stays_tryWrite hheld

/-! ### Other steps -/

/-- A handler of the server begins when there is one, one of the launcher likewise. -/
theorem guarded_ops (request : IdeRequest) {task : Task} (hready : s.Ready role task) :
    s.Guarded role False False (task.ops request) := by
  obtain ⟨-, hpresent, -, hkind⟩ := hready
  cases task with
  | launch noDebug =>
      cases noDebug <;> exact ⟨trivial, trivial⟩
  | attach noDebug => cases noDebug <;> exact trivial
  | launcherEvent e => cases e <;> simp [Task.ops, Guarded, RelayedEvent.isExit]
  | serverEvent e =>
      have hserver : s.server.isSome := by
        simp only [reduceCtorEq, if_false, Task.role?, Option.some.injEq] at hkind
        simp only [Present, ← hkind, decide_eq_true_eq] at hpresent
        simp [hpresent]
      cases e <;> simp [Task.ops, Guarded, RelayedEvent.isExit, hserver]
  | disconnect =>
      refine ⟨?_, trivial⟩
      rintro rfl
      exact hpresent
  | _ => exact trivial

/-- **The invariant is kept.** -/
theorem Apart.step (h : s.Apart) (hstep : s.step a = some s') : s'.Apart := by
  cases a with
  | start role task =>
      simp only [Relay.step] at hstep
      split_ifs at hstep with hready
      obtain rfl := Option.some.inj hstep
      have hwaiting : ∀ r ops', Function.update s.pending role
          (some (task.ops (s.nextRequest task))) r = some ops' → s.Guarded r False False ops' := by
        intro r ops' hr
        by_cases heq : r = role
        · subst heq
          obtain rfl : task.ops (s.nextRequest task) = ops' := by simpa using hr
          exact guarded_ops _ hready
        · exact h.waiting r ops' (by simpa [heq] using hr)
      rw [begin]
      split_ifs
      all_goals
        exact ⟨fun holder hholder => (h.held holder hholder).mono ⟨id, id⟩ id id,
          fun r ops' hr => (hwaiting r ops' hr).mono ⟨id, id⟩ id id, h.passed⟩
  | acquire role =>
      simp only [Relay.step] at hstep
      split at hstep
      · next ops hfree hwaits =>
        obtain rfl := Option.some.inj hstep
        refine ⟨fun holder hholder => ?_, fun r ops' hr => ?_, h.passed⟩
        · obtain rfl := Option.some.inj hholder
          exact (h.waiting role ops hwaits).mono ⟨id, id⟩ False.elim False.elim
        · by_cases heq : r = role
          · simp [heq] at hr
          · exact (h.waiting r ops' (by simpa [heq] using hr)).mono ⟨id, id⟩ id id
      · simp at hstep
  | exec branch =>
      simp only [Relay.step] at hstep
      split at hstep
      · next hholder => exact h.exec hholder hstep
      · simp at hstep
  | raise responds =>
      simp only [Relay.step] at hstep
      split at hstep
      · next hholder =>
        obtain rfl := Option.some.inj hstep
        split_ifs
        · exact h.refuse hholder
        · exact h.raise hholder (Stays.refl s)
      · next hholder =>
        obtain rfl := Option.some.inj hstep
        exact h.raise hholder (Stays.refl s)
      · simp at hstep
  | wait =>
      simp only [Relay.step] at hstep
      split at hstep
      · next role awaited rest hholder =>
        split_ifs at hstep
        obtain rfl := Option.some.inj hstep
        refine ⟨fun _ hheld => by simp at hheld, fun r ops' hr => ?_, h.passed⟩
        by_cases heq : r = role
        · subst heq
          obtain rfl : .waitFor awaited :: rest = ops' := by simpa using hr
          have hrest : s.Guarded r False False rest := h.held _ hholder
          exact hrest.mono ⟨id, id⟩ id id
        · exact (h.waiting r ops' (by simpa [heq] using hr)).mono ⟨id, id⟩ id id
      · simp at hstep
  | answer =>
      simp only [Relay.step] at hstep
      split at hstep
      · next request success _ =>
        obtain rfl := Option.some.inj hstep
        exact h.answer request success
      · simp at hstep
  | lose =>
      obtain rfl := Option.some.inj hstep
      exact h.turn ⟨rfl, rfl, rfl, rfl⟩ rfl

/-- There are no components at first. -/
theorem apart_init : Relay.init.Apart :=
  ⟨fun _ hheld => by simp [init] at hheld, fun _ _ hwaits => by simp [init] at hwaits,
    fun _ he => by simp [init] at he⟩

/-- **The components stay apart in every run.** -/
theorem apart_of_reachable (h : relay.Reachable s) : s.Apart := by
  have hinv : relay.Invariant Apart := ⟨fun hs => hs ▸ apart_init, fun hs hstep => hs.step hstep⟩
  exact hinv.of_reachable h

/-- **In a session with a launcher no exit of a server has been passed on.** -/
theorem exited_alone (h : relay.Reachable s) (he : .propagated e ∈ s.sent)
    (hexit : e.isExit = true) : s.launcher = none := by
  have hpropagated : e ∈ s.propagated := List.mem_filterMap.mpr ⟨_, he, rfl⟩
  have hpassed : e ∈ s.passed := (inv_of_reachable h).isPrefix.subset hpropagated
  exact ((apart_of_reachable h).passed e hpassed hexit).1

end Relay

end Ptvsd
