import Ptvsd.LauncherProcess
import Ptvsd.ServerExit

/-!
# Output and the End of the Session

The launcher sends the output of the debuggee to the adapter, and then "exited" and "terminated".
The adapter defers the output until the IDE has started the session, as `Ptvsd.Relay` has it; but
it reports the end of the session at once. In a session without a launcher a server reports the
exit; then there is no output.

A session is composed of the adapter and the launcher: the handlers of the adapter for the events
of the launcher begin in the order in which it has sent them, and the last of them when there are
no more. The events that were sent before the connection was lost are still handled.

## Main results

* `output_reported`: **all output is reported before the end of the session, and none after it**,
  if no output is deferred when the end is reported, and no launcher connects to a session that has
  been finalized.
* `output_late`: the output of a debuggee that exits before "configurationDone" is reported after
  "exited".
-/

namespace Ptvsd

/-! ### The session -/

/-- A session with a launcher. -/
structure DebugSession where
  relay : Relay
  process : LauncherProcess

namespace DebugSession

/-- What the threads of the adapter and of the launcher do. -/
inductive Action where
  | relay (a : Relay.Action)
  | process (a : LauncherProcess.Action)

/-- The launcher after a step of the adapter, which may take an event from the connection. -/
def take (s : DebugSession) : Relay.Action → Option LauncherProcess
  | .start .launcher (.launcherEvent e) =>
      match s.process.inFlight with
      | e' :: rest => if e = e' then some { s.process with inFlight := rest } else none
      | [] => none
  | .start .launcher .disconnect =>
      if s.process.inFlight = [] ∧ s.process.connected = false ∨
          s.relay.closed .launcher = true then
        some s.process
      else none
  | _ => some s.process

/-- The step under an action. The debuggee is spawned on behalf of the adapter. -/
def step (s : DebugSession) : Action → Option DebugSession
  | .relay a => do
      let process ← s.take a
      let relay ← s.relay.step a
      return ⟨relay, process⟩
  | .process (.spawn redirectOutput) =>
      if s.relay.launcher.isSome then
        (s.process.step (.spawn redirectOutput)).map fun process => { s with process := process }
      else none
  | .process a => (s.process.step a).map fun process => { s with process := process }

end DebugSession

/-- A session whose IDE has just connected. -/
def debugSession : Machine DebugSession DebugSession.Action where
  start s := s = ⟨.init, .init⟩
  step := DebugSession.step

/-! ### Output -/


/-- The number of the output. -/
def RelayedEvent.output? : RelayedEvent → Option ℕ
  | .launcher e => e.output?
  | .server _ => none

/-- The number of the output that is written. -/
def Sent.output? : Sent → Option ℕ
  | .propagated e => e.output?
  | _ => none

/-- It is "exited" or "terminated", which the adapter sends by itself. -/
def Sent.isDirect : Sent → Bool
  | .exited => true
  | .terminated => true
  | _ => false

/-- It is "exited" or "terminated", or the "exited" event of a server. -/
def Sent.isEnd : Sent → Bool
  | .propagated e => e.isExit
  | message => message.isDirect

/-- The output that is deferred. -/
def Relay.deferredOutputs (r : Relay) : List ℕ :=
  (r.deferred.getD []).filterMap RelayedEvent.output?

/-- The number of the output that an operation is about. -/
def Relay.Op.output? : Relay.Op → Option ℕ
  | .propagateAfterStart e => e.output?
  | .defer e => e.output?
  | .propagate e => e.output?
  | .unlessLauncher e => e.output?
  | .unlessVisualStudio e => e.output?
  | _ => none

/-- An operation that neither has to do with output nor ends anything. -/
def Relay.Op.ordinary (op : Relay.Op) : Bool :=
  op.output?.isNone &&
    match op with
    | .sendExited => false
    | .close => false
    | .disconnect => false
    | .finalize => false
    | .finalizeServer => false
    | .finalizeLauncher => false
    | .sendTerminated => false
    | _ => true

/-- The next operation of the holder of the lock. -/
def Relay.nextOp (r : Relay) : Option Relay.Op := r.holder.bind fun holder => holder.ops.head?

namespace DebugSession

/-- Of so many output events, all come before the messages that end a session, and none after
them. -/
def Reports (isEnd : Sent → Bool) (produced : ℕ) (sent : List Sent) : Prop :=
  ∀ before message after, sent = before ++ message :: after → isEnd message = true →
    (∀ n < produced, .propagated (.launcher (.output n)) ∈ before) ∧
      ∀ other ∈ after, other.output? = none

/-- **All output is reported before the end of the session.** -/
def Reported (s : DebugSession) : Prop := Reports Sent.isEnd s.process.produced s.relay.sent

/-- When the end of the session is reported, no output is deferred; and a launcher connects only
as long as the session has not been finalized. -/
def Timely (s : DebugSession) : Action → Prop
  | .relay (.exec _) => ∀ op ∈ s.relay.nextOp,
      (op = .sendExited ∨ op = .sendTerminated → s.relay.deferredOutputs = []) ∧
        (op = .attachLauncher → s.relay.isFinalizing = false)
  | _ => True

instance (s : DebugSession) : DecidablePred s.Timely
  | .relay (.exec _) => inferInstanceAs (Decidable (∀ op ∈ s.relay.nextOp, _ ∧ _))
  | .relay (.start _ _) => isTrue trivial
  | .relay (.acquire _) => isTrue trivial
  | .relay (.raise _) => isTrue trivial
  | .relay .wait => isTrue trivial
  | .relay .answer => isTrue trivial
  | .relay .lose => isTrue trivial
  | .process _ => isTrue trivial

end DebugSession

/-! ### Ordinary operations of the adapter -/

namespace Relay

variable {r r' r₁ : Relay} {role : Role} {op : Op} {ops rest : List Op} {raised branch : Bool}
  {message : Sent} {request : IdeRequest} {success : Bool} {e : RelayedEvent}

/-- What is done besides output and the end of the session. -/
structure Mild (r r' : Relay) : Prop where
  ended : r'.ended = r.ended
  closed : r'.closed = r.closed
  isFinalizing : r'.isFinalizing = r.isFinalizing
  passed : r'.passed.filterMap RelayedEvent.output? = r.passed.filterMap RelayedEvent.output?
  deferred : r'.deferredOutputs ⊆ r.deferredOutputs
  sent : r'.sent = r.sent ∨ ∃ message : Sent, r'.sent = r.sent ++ [message] ∧
    message.isDirect = false ∧ ∀ n, message.output? = some n → n ∈ r.deferredOutputs

theorem Mild.refl (r : Relay) : r.Mild r :=
  ⟨rfl, rfl, rfl, rfl, List.Subset.refl _, .inl rfl⟩

/-- Whose turn it is does not matter. -/
theorem Mild.goto (h : r.Mild r₁) (role : Role) (ops : List Op) (raised : Bool) :
    r.Mild (r₁.goto role ops raised) :=
  ⟨h.ended, h.closed, h.isFinalizing, h.passed, h.deferred, h.sent⟩

theorem mild_write (hend : message.isDirect = false)
    (houtput : ∀ n, message.output? = some n → n ∈ r.deferredOutputs) :
    r.Mild (r.write message) :=
  ⟨rfl, rfl, rfl, rfl, List.Subset.refl _, .inr ⟨message, rfl, hend, houtput⟩⟩

theorem mild_writeEvent (hend : message.isDirect = false)
    (houtput : ∀ n, message.output? = some n → n ∈ r.deferredOutputs)
    (h : r.writeEvent message = some r₁) :
    r.Mild r₁ ∧ r₁.launcher = r.launcher ∧ r₁.pending = r.pending ∧ r₁.holder = r.holder := by
  rw [writeEvent] at h
  split_ifs at h
  obtain rfl := Option.some.inj h
  exact ⟨mild_write hend houtput, rfl, rfl, rfl⟩

theorem mild_respond (h : r.respond request success = some r₁) :
    r.Mild r₁ ∧ r₁.launcher = r.launcher ∧ r₁.pending = r.pending ∧ r₁.holder = r.holder := by
  obtain ⟨-, -, rfl⟩ := respond_cases h
  exact ⟨⟨rfl, rfl, rfl, rfl, List.Subset.refl _, .inr ⟨_, rfl, rfl, nofun⟩⟩, rfl, rfl, rfl⟩

/-- What an ordinary operation does. -/
structure Plain (r r' : Relay) (role : Role) (op : Op) : Prop where
  mild : r.Mild r'
  pending : r'.pending = r.pending
  launcher : r'.launcher = r.launcher ∨
    op = .attachLauncher ∧ r.launcher = none ∧ r'.launcher = some true
  holder : ∃ ops raised, r'.holder = some ⟨role, ops, raised⟩ ∧ ∀ op ∈ ops, op.ordinary = true

theorem Mild.plain (h : r.Mild r₁) (hpending : r₁.pending = r.pending)
    (hlauncher : r₁.launcher = r.launcher) (hops : ∀ op ∈ ops, op.ordinary = true) :
    r.Plain (r₁.goto role ops raised) role op :=
  ⟨h.goto role ops raised, hpending, .inl hlauncher, ops, raised, rfl, hops⟩

theorem ordinary_unwind (hrest : ∀ op ∈ rest, op.ordinary = true) :
    ∀ op ∈ unwind rest, op.ordinary = true := fun op hop => hrest op (mem_of_mem_unwind hop)

/-- A handler that raises. -/
theorem Mild.raise (h : r.Mild r₁) (hpending : r₁.pending = r.pending)
    (hlauncher : r₁.launcher = r.launcher) (hrest : ∀ op ∈ unwind rest, op.ordinary = true) :
    r.Plain (r₁.raise role rest) role op :=
  h.plain hpending hlauncher hrest

/-- A handler that goes on, or raises. -/
theorem plain_orRaise {result : Option Relay}
    (h : ∀ r₁, result = some r₁ →
      r.Mild r₁ ∧ r₁.launcher = r.launcher ∧ r₁.pending = r.pending ∧ r₁.holder = r.holder)
    (hrest : ∀ op ∈ rest, op.ordinary = true) (hops : ∀ op ∈ ops, op.ordinary = true) :
    r.Plain (r.orRaise role rest ops raised result) role op := by
  cases result with
  | none => exact (Mild.refl r).raise rfl rfl (ordinary_unwind hrest)
  | some r₁ =>
      obtain ⟨hmild, hlauncher, hpending, -⟩ := h r₁ rfl
      exact hmild.plain hpending hlauncher hops

theorem plain_refuse (hrest : ∀ op ∈ unwind rest, op.ordinary = true) :
    r.Plain (r.refuse role rest) role op := by
  unfold refuse
  split
  · next request body _ =>
    cases hrespond : r.respond request false with
    | none => exact (Mild.refl r).raise rfl rfl hrest
    | some r₁ =>
        obtain ⟨hmild, hlauncher, hpending, -⟩ := mild_respond hrespond
        exact hmild.raise hpending hlauncher hrest
  · exact (Mild.refl r).raise rfl rfl hrest

/-- A handler that goes on with nothing done. -/
theorem plain_skip (hops : ∀ op ∈ ops, op.ordinary = true) :
    r.Plain (r.goto role ops raised) role op :=
  (Mild.refl r).plain rfl rfl hops

/-- A component is connected or disconnected, or a request recorded. -/
theorem plain_server (server : Option Bool) (hops : ∀ op ∈ ops, op.ordinary = true) :
    r.Plain ({ r with server := server }.goto role ops raised) role op :=
  ⟨⟨rfl, rfl, rfl, rfl, List.Subset.refl _, .inl rfl⟩, rfl, .inl rfl, ops, raised, rfl, hops⟩

theorem ordinary_cons (hop : op.ordinary = true) (hrest : ∀ op ∈ rest, op.ordinary = true) :
    ∀ op' ∈ op :: rest, op'.ordinary = true := List.forall_mem_cons.mpr ⟨hop, hrest⟩

/-- An event that is no output. -/
theorem ordinary_event (h : (Op.propagateAfterStart e).ordinary = true) : e.output? = none := by
  simpa [Op.ordinary, Op.output?] using h

/-- **An ordinary operation.** -/
theorem exec_plain (hop : op.ordinary = true) (hrest : ∀ op ∈ rest, op.ordinary = true)
    (hexec : r.exec role raised branch (op :: rest) = some r') : r.Plain r' role op := by
  cases op with
  | other =>
      obtain rfl := Option.some.inj hexec
      exact plain_skip hrest
  | throw =>
      obtain rfl := Option.some.inj hexec
      exact plain_refuse (ordinary_unwind hrest)
  | checkStarted =>
      simp only [exec] at hexec
      split at hexec <;> obtain rfl := Option.some.inj hexec
      · exact plain_refuse (ordinary_unwind hrest)
      · exact plain_skip hrest
  | attachLauncher =>
      simp only [exec] at hexec
      split at hexec <;> obtain rfl := Option.some.inj hexec
      · exact (Mild.refl r).raise rfl rfl (ordinary_unwind hrest)
      · next hnone =>
        rw [Option.not_isSome_iff_eq_none] at hnone
        exact ⟨⟨rfl, rfl, rfl, rfl, List.Subset.refl _, .inl rfl⟩, rfl, .inr ⟨rfl, hnone, rfl⟩,
          rest, raised, rfl, hrest⟩
  | attachServer =>
      simp only [exec] at hexec
      split at hexec <;> obtain rfl := Option.some.inj hexec
      · exact (Mild.refl r).raise rfl rfl (ordinary_unwind hrest)
      · exact plain_server (some true) hrest
  | tryAttachServer request =>
      simp only [exec] at hexec
      split_ifs at hexec <;> obtain rfl := Option.some.inj hexec
      · exact plain_orRaise (fun r₁ => mild_respond) hrest hrest
      · exact (Mild.refl r).raise rfl rfl (ordinary_unwind hrest)
      · exact plain_server (some true) hrest
  | requireServer =>
      simp only [exec] at hexec
      split at hexec <;> obtain rfl := Option.some.inj hexec
      · exact plain_skip hrest
      · exact (Mild.refl r).raise rfl rfl (ordinary_unwind hrest)
  | waitFor awaited =>
      simp only [exec] at hexec
      split_ifs at hexec
      obtain rfl := Option.some.inj hexec
      exact plain_skip hrest
  | sendInitialized =>
      obtain rfl := Option.some.inj hexec
      exact plain_orRaise (fun r₁ => mild_writeEvent rfl (by simp [Sent.output?])) hrest hrest
  | setStartRequest request =>
      obtain rfl := Option.some.inj hexec
      exact ⟨⟨rfl, rfl, rfl, rfl, List.Subset.refl _, .inl rfl⟩, rfl, .inl rfl, rest, raised, rfl,
        hrest⟩
  | setHasStarted =>
      obtain rfl := Option.some.inj hexec
      exact ⟨⟨rfl, rfl, rfl, rfl, List.Subset.refl _, .inl rfl⟩, rfl, .inl rfl, rest, raised, rfl,
        hrest⟩
  | respondToStart =>
      obtain rfl := Option.some.inj hexec
      refine plain_orRaise (fun r₁ h => ?_) hrest (ordinary_cons rfl hrest)
      obtain ⟨q, -, hrespond⟩ := Option.bind_eq_some_iff.mp h
      exact mild_respond hrespond
  | checkConfigurationDone request =>
      simp only [exec] at hexec
      split at hexec <;> obtain rfl := Option.some.inj hexec
      · exact plain_orRaise (fun r₁ => mild_respond) hrest hrest
      · exact plain_skip hrest
  | tryConfigurationDone request =>
      obtain rfl := Option.some.inj hexec
      exact plain_skip (ordinary_cons rfl (ordinary_cons rfl (ordinary_cons rfl
        (ordinary_cons rfl (ordinary_cons rfl hrest)))))
  | delegate request =>
      simp only [exec] at hexec
      split at hexec <;> obtain rfl := Option.some.inj hexec
      · refine plain_orRaise (fun r₁ h => ?_) hrest hrest
        obtain ⟨q, -, hrespond⟩ := Option.bind_eq_some_iff.mp h
        exact mild_respond hrespond
      · exact plain_orRaise (fun r₁ => mild_respond) hrest hrest
  | beginFinally =>
      obtain rfl := Option.some.inj hexec
      exact plain_skip hrest
  | endFinally =>
      obtain rfl := Option.some.inj hexec
      cases raised with
      | true => exact plain_skip (by simp)
      | false => exact plain_skip hrest
  | propagateDeferred =>
      simp only [exec] at hexec
      split at hexec <;> obtain rfl := Option.some.inj hexec
      · exact plain_skip (ordinary_cons rfl hrest)
      · exact (Mild.refl r).raise rfl rfl (ordinary_unwind hrest)
  | propagateNext i =>
      simp only [exec] at hexec
      split at hexec <;> obtain rfl := Option.some.inj hexec
      · next e he =>
        have houtput : ∀ n, (Sent.propagated e).output? = some n → n ∈ r.deferredOutputs :=
          fun n hn => List.mem_filterMap.mpr ⟨e, List.mem_of_getElem? he, hn⟩
        exact plain_orRaise (fun r₁ => mild_writeEvent rfl houtput) hrest
          (ordinary_cons rfl hrest)
      · exact plain_skip (ordinary_cons rfl hrest)
  | clearDeferred =>
      obtain rfl := Option.some.inj hexec
      exact ⟨⟨rfl, rfl, rfl, rfl, List.nil_subset _, .inl rfl⟩, rfl, .inl rfl, rest, raised, rfl,
        hrest⟩
  | propagateAfterStart e =>
      have he : e.output? = none := ordinary_event hop
      have hmild : r.Mild { r with passed := r.passed ++ [e] } :=
        ⟨rfl, rfl, rfl, by simp [he], List.Subset.refl _, .inl rfl⟩
      simp only [exec] at hexec
      split at hexec <;> obtain rfl := Option.some.inj hexec
      · exact hmild.plain rfl rfl (ordinary_cons hop hrest)
      · exact hmild.plain rfl rfl (ordinary_cons hop hrest)
  | defer e =>
      have he : e.output? = none := ordinary_event hop
      simp only [exec] at hexec
      split at hexec <;> obtain rfl := Option.some.inj hexec
      · next events hdeferred =>
        have hmild : r.Mild { r with deferred := some (events ++ [e]) } :=
          ⟨rfl, rfl, rfl, rfl, by simp [deferredOutputs, hdeferred, he], .inl rfl⟩
        exact hmild.plain rfl rfl hrest
      · exact (Mild.refl r).raise rfl rfl (ordinary_unwind hrest)
  | propagate e =>
      have he : e.output? = none := ordinary_event hop
      obtain rfl := Option.some.inj hexec
      exact plain_orRaise (fun r₁ => mild_writeEvent rfl (by simp [Sent.output?, he])) hrest hrest
  | unlessLauncher e =>
      simp only [exec] at hexec
      split at hexec <;> obtain rfl := Option.some.inj hexec
      · exact plain_skip hrest
      · exact plain_skip (ordinary_cons hop hrest)
  | unlessVisualStudio e =>
      simp only [exec] at hexec
      split at hexec <;> obtain rfl := Option.some.inj hexec
      · exact plain_skip hrest
      · exact plain_skip (ordinary_cons hop hrest)
  | sendExited => simp [Op.ordinary] at hop
  | close => simp [Op.ordinary] at hop
  | disconnect => simp [Op.ordinary] at hop
  | finalize => simp [Op.ordinary] at hop
  | finalizeServer => simp [Op.ordinary] at hop
  | finalizeLauncher => simp [Op.ordinary] at hop
  | sendTerminated => simp [Op.ordinary] at hop

/-- The number of the output that is about to be passed to `propagate_after_start`. -/
def Op.delivery? : Op → Option ℕ
  | .propagateAfterStart e => e.output?
  | _ => none

/-- What the holder of the lock and the thread of the launcher have yet to execute. -/
def begun (r : Relay) : List Op :=
  (r.holder.elim [] Holder.ops) ++ (r.pending .launcher).getD []

/-- The output that handlers have yet to pass on. -/
def underway (r : Relay) : List ℕ := r.begun.filterMap Op.delivery?

/-- The output that has been passed to `propagate_after_start`. -/
def passedOutputs (r : Relay) : List ℕ := r.passed.filterMap RelayedEvent.output?

theorem delivery_of_output (h : op.output? = none) : op.delivery? = none := by
  cases op <;> simp_all [Op.output?, Op.delivery?]

theorem ordinary_output (h : op.ordinary = true) : op.output? = none := by
  simp only [Op.ordinary, Bool.and_eq_true, Option.isNone_iff_eq_none] at h
  exact h.1

theorem filterMap_delivery (h : ∀ op ∈ ops, op.output? = none) :
    ops.filterMap Op.delivery? = [] :=
  List.filterMap_eq_nil_iff.mpr fun op hop => delivery_of_output (h op hop)

end Relay

/-! ### The invariant -/

namespace DebugSession

/-- Everything that the launcher has to say has arrived. -/
def Drained (s : DebugSession) : Prop := s.process.inFlight = [] ∧ s.process.waiter = .done

/-- What a handler thread has yet to execute, and what holds until then. -/
inductive Course (s : DebugSession) : Role → List Relay.Op → Prop
  | ordinary {role : Role} {ops : List Relay.Op} :
      (∀ op ∈ ops, op.ordinary = true) → Course s role ops
  | output (n : ℕ) : s.relay.ended .launcher = false →
      Course s .launcher [.propagateAfterStart (.launcher (.output n))]
  | defer (n : ℕ) : s.relay.ended .launcher = false →
      Course s .launcher [.defer (.launcher (.output n))]
  | propagate (n : ℕ) : s.relay.ended .launcher = false →
      Course s .launcher [.propagate (.launcher (.output n))]
  | terminated : s.Drained → Course s .launcher [.sendExited, .close]
  | close {role : Role} : (role = .launcher → s.Drained) → Course s role [.close]
  | disconnect {role : Role} : (role = .launcher → s.relay.ended .launcher = true) →
      Course s role [.disconnect]
  | terminate {role : Role} : Course s role [.other, .finalize]
  | finalize {role : Role} : Course s role [.finalize]
  | finalizeServer {role : Role} : s.relay.isFinalizing = true →
      Course s role [.finalizeServer, .finalizeLauncher, .sendTerminated]
  | finalizeLauncher {role : Role} : s.relay.isFinalizing = true →
      Course s role [.finalizeLauncher, .sendTerminated]
  | waitExited {role : Role} : s.relay.isFinalizing = true →
      Course s role [.waitFor .other, .waitFor .launcherDisconnected, .sendTerminated]
  | waitDisconnected {role : Role} : s.relay.isFinalizing = true →
      Course s role [.waitFor .launcherDisconnected, .sendTerminated]
  | sendTerminated {role : Role} : s.relay.isFinalizing = true → s.relay.launcher ≠ some true →
      Course s role [.sendTerminated]

/-- What holds once the end of the session has been reported. -/
structure Concluded (s : DebugSession) : Prop where
  all : ∀ n < s.process.produced, .propagated (.launcher (.output n)) ∈ s.relay.sent
  deferred : s.relay.deferredOutputs = []
  begun : ∀ role ops, s.relay.Runs role ops → ∀ op ∈ ops, op.output? = none
  inFlight : s.process.inFlight.filterMap LauncherEvent.output? = []
  quiet : s.process.Quiet ∨ s.relay.launcher = none ∧ s.relay.isFinalizing = true

/-- The end of the session has been reported. -/
def HasEnd (sent : List Sent) : Prop := ∃ message ∈ sent, message.isDirect = true

/-- What holds in all runs that meet the condition. -/
structure Inv (s : DebugSession) : Prop where
  relay : s.relay.Inv
  course : ∀ role ops, s.relay.Runs role ops → s.Course role ops
  total : s.relay.passedOutputs ++ s.relay.underway ++
    s.process.inFlight.filterMap LauncherEvent.output? = List.range s.process.produced
  orderly : s.process.Orderly
  closed : s.relay.closed .launcher = true → s.Drained
  ended : s.relay.ended .launcher = true → s.process.inFlight = [] ∧ s.process.Quiet
  gone : s.relay.launcher = some false → s.relay.ended .launcher = true
  absent : s.relay.launcher = none → s.process.waiter = .notStarted
  concluded : HasEnd s.relay.sent → s.Concluded
  reported : Reports Sent.isDirect s.process.produced s.relay.sent

variable {s s' : DebugSession} {role role' : Role} {op : Relay.Op}
  {ops ops' rest : List Relay.Op} {raised branch : Bool} {message : Sent} {sent : List Sent} {n : ℕ}
  {r r₁ : Relay} {p p' : LauncherProcess}

/-! ### Reports -/

theorem reports_of_open (h : ¬ HasEnd sent) : Reports Sent.isDirect n sent := by
  rintro before message after rfl hend
  exact absurd ⟨message, by simp, hend⟩ h

/-- One more message is written. -/
theorem Reports.append (h : Reports Sent.isDirect n sent)
    (hafter : HasEnd sent → message.output? = none)
    (hbefore : message.isDirect = true → ∀ k < n, .propagated (.launcher (.output k)) ∈ sent) :
    Reports Sent.isDirect n (sent ++ [message]) := by
  intro before m after heq hend
  rcases List.eq_nil_or_concat after with rfl | ⟨after, last, rfl⟩
  · obtain ⟨rfl, hm⟩ := List.append_inj' heq rfl
    obtain rfl := (List.cons.inj hm).1
    exact ⟨hbefore hend, by simp⟩
  · rw [List.concat_eq_append, ← List.cons_append, ← List.append_assoc] at heq
    obtain ⟨rfl, hlast⟩ := List.append_inj' heq rfl
    obtain rfl := (List.cons.inj hlast).1
    obtain ⟨hall, hnone⟩ := h before m after rfl hend
    refine ⟨hall, fun other hother => ?_⟩
    rw [List.concat_eq_append, List.mem_append, List.mem_singleton] at hother
    rcases hother with hother | rfl
    · exact hnone other hother
    · exact hafter ⟨m, by simp, hend⟩

theorem Course.nil : s.Course role [] := .ordinary (by simp)

/-- What a course holds of others holds as long as they make no difference to it. -/
theorem Course.mono (h : s.Course role ops) (hdrained : s.Drained → s'.Drained)
    (hended : role = .launcher → s'.relay.ended .launcher = s.relay.ended .launcher)
    (hfinal : s.relay.isFinalizing = true → s'.relay.isFinalizing = true)
    (hlauncher : s.relay.isFinalizing = true → s.relay.launcher ≠ some true →
      s'.relay.launcher ≠ some true) : s'.Course role ops := by
  cases h with
  | ordinary hops => exact .ordinary hops
  | output n hopen => exact .output n ((hended rfl).trans hopen)
  | defer n hopen => exact .defer n ((hended rfl).trans hopen)
  | propagate n hopen => exact .propagate n ((hended rfl).trans hopen)
  | terminated hend => exact .terminated (hdrained hend)
  | close hend => exact .close fun hrole => hdrained (hend hrole)
  | disconnect hlast => exact .disconnect fun hrole => (hended hrole).trans (hlast hrole)
  | terminate => exact .terminate
  | finalize => exact .finalize
  | finalizeServer hf => exact .finalizeServer (hfinal hf)
  | finalizeLauncher hf => exact .finalizeLauncher (hfinal hf)
  | waitExited hf => exact .waitExited (hfinal hf)
  | waitDisconnected hf => exact .waitDisconnected (hfinal hf)
  | sendTerminated hf hgone => exact .sendTerminated (hfinal hf) (hlauncher hf hgone)

/-! ### Steps of the launcher -/

/-- **A step of the launcher.** -/
theorem Inv.process (h : s.Inv) {a : LauncherProcess.Action}
    (hspawn : s.relay.launcher = none → ∀ redirectOutput, a ≠ .spawn redirectOutput)
    (hstep : s.process.step a = some p') : Inv { s with process := p' } := by
  have hquiet : s.process.Quiet → p'.Quiet ∧ p'.inFlight = s.process.inFlight ∧
      p'.produced = s.process.produced ∧ (s.process.waiter = .done → p'.waiter = .done) :=
    fun hq => hq.step h.orderly hstep
  have hdrained : s.Drained → DebugSession.Drained { s with process := p' } := by
    rintro ⟨hflight, hdone⟩
    obtain ⟨-, hflight', -, hdone'⟩ := hquiet (.inr hdone)
    exact ⟨hflight'.trans hflight, hdone' hdone⟩
  -- what was reported is all that there is
  have hconcluded : HasEnd s.relay.sent →
      p'.produced = s.process.produced ∧ Concluded { s with process := p' } := by
    intro hend
    obtain ⟨hall, hdeferred, hbegun, hflight, hq⟩ := h.concluded hend
    rcases hq with hq | ⟨hnone, hfinal⟩
    · obtain ⟨hq', hflight', hproduced, -⟩ := hquiet hq
      refine ⟨hproduced, ?_, hdeferred, hbegun, ?_, .inl hq'⟩
      · intro n hn
        exact hall n (hproduced ▸ hn)
      · exact hflight' ▸ hflight
    · obtain ⟨-, hflight', hproduced⟩ :=
        LauncherProcess.step_notStarted (h.absent hnone) h.orderly (hspawn hnone) hstep
      refine ⟨hproduced, ?_, hdeferred, hbegun, ?_, .inr ⟨hnone, hfinal⟩⟩
      · intro n hn
        exact hall n (hproduced ▸ hn)
      · exact hflight' ▸ hflight
  refine ⟨h.relay, fun role ops hruns => ?_, ?_, h.orderly.step hstep,
    fun hclosed => hdrained (h.closed hclosed), fun hended => ?_, h.gone, fun hnone => ?_,
    fun hend => (hconcluded hend).2, ?_⟩
  · exact (h.course role ops hruns).mono hdrained (fun _ => rfl) id fun _ => id
  · obtain ⟨outputs, hflight, hproduced⟩ := LauncherProcess.outputs_step hstep
    rw [hflight, hproduced, ← h.total, List.append_assoc]
    simp only [List.append_assoc]
  · obtain ⟨hflight, hq⟩ := h.ended hended
    obtain ⟨hq', hflight', -⟩ := hquiet hq
    exact ⟨hflight'.trans hflight, hq'⟩
  · exact (LauncherProcess.step_notStarted (h.absent hnone) h.orderly (hspawn hnone) hstep).1
  · by_cases hend : HasEnd s.relay.sent
    · change Reports Sent.isDirect p'.produced s.relay.sent
      rw [(hconcluded hend).1]
      exact h.reported
    · exact reports_of_open hend

/-! ### Steps of the adapter -/

/-- What the adapter does besides passing on output and reporting the end. -/
structure Calm (s : DebugSession) (r : Relay) : Prop where
  ended : r.ended .launcher = s.relay.ended .launcher
  closed : r.closed .launcher = true → s.relay.closed .launcher = true ∨ s.Drained
  final : s.relay.isFinalizing = true → r.isFinalizing = true
  launcher : r.launcher = s.relay.launcher ∨
    (r.launcher = some true ∧ s.relay.isFinalizing = false) ∨
    (r.launcher = some false ∧ s.relay.ended .launcher = true)
  passed : r.passedOutputs = s.relay.passedOutputs
  deferred : r.deferredOutputs ⊆ s.relay.deferredOutputs
  sent : r.sent = s.relay.sent ∨ ∃ message : Sent, r.sent = s.relay.sent ++ [message] ∧
    message.isDirect = false ∧ ∀ n, message.output? = some n → n ∈ s.relay.deferredOutputs
  underway : r.underway = s.relay.underway
  runs : ∀ role ops, r.Runs role ops → s.relay.Runs role ops ∨
    (DebugSession.Course ⟨r, s.process⟩ role ops ∧ ∀ op ∈ ops, op.output? = none)

theorem hasEnd_append (hmessage : message.isDirect = false) {sent : List Sent}
    (h : HasEnd (sent ++ [message])) : HasEnd sent := by
  obtain ⟨m, hmem, hend⟩ := h
  rcases List.mem_append.mp hmem with hmem | hmem
  · exact ⟨m, hmem, hend⟩
  · rw [List.mem_singleton] at hmem
    simp [hmem, hmessage] at hend

/-- **Such a step keeps the invariant.** -/
theorem Inv.calm (h : s.Inv) (hr : r.Inv) (hc : s.Calm r) : Inv ⟨r, s.process⟩ := by
  have hsent : HasEnd r.sent → HasEnd s.relay.sent := by
    rcases hc.sent with heq | ⟨message, heq, hmessage, -⟩
    · rw [heq]
      exact id
    · rw [heq]
      exact hasEnd_append hmessage
  refine ⟨hr, fun role ops hruns => ?_, ?_, h.orderly, fun hclosed => ?_, fun hended => ?_,
    fun hgone => ?_, fun hnone => ?_, fun hend => ?_, ?_⟩
  · rcases hc.runs role ops hruns with hold | ⟨hcourse, -⟩
    · refine (h.course role ops hold).mono id (fun _ => hc.ended) hc.final fun hfinal hne => ?_
      rcases hc.launcher with heq | ⟨-, hopen⟩ | ⟨heq, -⟩
      · exact heq ▸ hne
      · simp [hfinal] at hopen
      · simp [heq]
    · exact hcourse
  · exact hc.passed ▸ hc.underway ▸ h.total
  · exact (hc.closed hclosed).elim h.closed id
  · exact h.ended (hc.ended ▸ hended)
  · rcases hc.launcher with heq | ⟨heq, -⟩ | ⟨-, hended⟩
    · exact hc.ended.trans (h.gone (heq ▸ hgone))
    · simp [heq] at hgone
    · exact hc.ended.trans hended
  · rcases hc.launcher with heq | ⟨heq, -⟩ | ⟨heq, -⟩
    · exact h.absent (heq ▸ hnone)
    · simp [heq] at hnone
    · simp [heq] at hnone
  · obtain ⟨hall, hdeferred, hbegun, hflight, hquiet⟩ := h.concluded (hsent hend)
    refine ⟨fun n hn => ?_, ?_, fun role ops hruns => ?_, hflight, ?_⟩
    · rcases hc.sent with heq | ⟨message, heq, -⟩
      · exact heq ▸ hall n hn
      · exact heq ▸ List.mem_append_left _ (hall n hn)
    · exact List.subset_nil.mp (hdeferred ▸ hc.deferred)
    · exact (hc.runs role ops hruns).elim (hbegun role ops) And.right
    · rcases hquiet with hquiet | ⟨hnone, hfinal⟩
      · exact .inl hquiet
      · rcases hc.launcher with heq | ⟨-, hopen⟩ | ⟨-, hended⟩
        · exact .inr ⟨heq.trans hnone, hc.final hfinal⟩
        · simp [hfinal] at hopen
        · exact .inl (h.ended hended).2
  · change Reports Sent.isDirect s.process.produced r.sent
    rcases hc.sent with heq | ⟨message, heq, hmessage, houtput⟩
    · rw [heq]
      exact h.reported
    · rw [heq]
      refine Reports.append h.reported (fun hend => ?_) (by simp [hmessage])
      rw [Option.eq_none_iff_forall_ne_some]
      intro n hn
      simpa [(h.concluded hend).deferred] using houtput n hn

/-- The holder of the lock, and those that wait for it. -/
theorem runs_goto (h : (r.goto role ops raised).Runs role' ops') :
    role' = role ∧ ops' = ops ∨ r.pending role' = some ops' := by
  rcases h with ⟨raised', heq⟩ | hpending
  · simp only [Relay.goto, Option.some.injEq, Relay.Holder.mk.injEq] at heq
    exact .inl ⟨heq.1.symm, heq.2.1.symm⟩
  · exact .inr hpending

theorem underway_goto (hholder : s.relay.holder = some ⟨role, ops, raised⟩)
    (hpending : r.pending = s.relay.pending) {ops' : List Relay.Op} {raised' : Bool}
    (hops : ops'.filterMap Relay.Op.delivery? = ops.filterMap Relay.Op.delivery?) :
    (r.goto role ops' raised').underway = s.relay.underway := by
  simp only [Relay.underway, Relay.begun, Relay.goto, hholder, hpending, Option.elim_some,
    List.filterMap_append, hops]

/-- What the operation of a handler leaves alone. -/
structure Frame (s : DebugSession) (r : Relay) : Prop where
  ended : r.ended .launcher = s.relay.ended .launcher
  closed : r.closed .launcher = true → s.relay.closed .launcher = true ∨ s.Drained
  final : s.relay.isFinalizing = true → r.isFinalizing = true
  launcher : r.launcher = s.relay.launcher ∨ (r.launcher = some false ∧
    s.relay.ended .launcher = true)
  pending : r.pending = s.relay.pending
  passed : r.passed = s.relay.passed
  deferred : r.deferred = s.relay.deferred
  sent : r.sent = s.relay.sent

theorem Frame.refl (s : DebugSession) : s.Frame s.relay :=
  ⟨rfl, .inl, id, .inl rfl, rfl, rfl, rfl, rfl⟩

/-- The holder of the lock goes on with operations that have nothing to do with output. -/
theorem Frame.calm (hf : s.Frame r) (hholder : s.relay.holder = some ⟨role, ops, raised⟩)
    (hold : ∀ op ∈ ops, op.output? = none) {ops' : List Relay.Op} {raised' : Bool}
    (hcourse : DebugSession.Course ⟨r.goto role ops' raised', s.process⟩ role ops')
    (hnew : ∀ op ∈ ops', op.output? = none) : s.Calm (r.goto role ops' raised') := by
  refine ⟨hf.ended, hf.closed, hf.final, hf.launcher.imp_right .inr, ?_, ?_, .inl hf.sent, ?_,
    fun role' ops'' hruns => ?_⟩
  · exact congrArg (List.filterMap RelayedEvent.output?) hf.passed
  · rw [Relay.deferredOutputs, Relay.deferredOutputs]
    exact fun n hn => hf.deferred ▸ hn
  · exact underway_goto hholder hf.pending
      ((Relay.filterMap_delivery hnew).trans (Relay.filterMap_delivery hold).symm)
  · rcases runs_goto hruns with ⟨rfl, rfl⟩ | hpending
    · exact .inr ⟨hcourse, hnew⟩
    · exact .inl (.inr (hf.pending ▸ hpending))

/-- **An ordinary operation is calm.** -/
theorem calm_of_plain (hholder : s.relay.holder = some ⟨role, op :: rest, raised⟩)
    (hold : ∀ op' ∈ op :: rest, op'.output? = none) (hp : s.relay.Plain r role op)
    (hattach : op = .attachLauncher → s.relay.isFinalizing = false) : s.Calm r := by
  obtain ⟨ops, raised', hholder', hops⟩ := hp.holder
  have hnew : ∀ op' ∈ ops, op'.output? = none := fun op' h => Relay.ordinary_output (hops op' h)
  refine ⟨congrFun hp.mild.ended _, fun h => .inl (hp.mild.closed ▸ h),
    fun h => hp.mild.isFinalizing.trans h, ?_, hp.mild.passed, hp.mild.deferred, hp.mild.sent, ?_,
    fun role' ops' hruns => ?_⟩
  · exact hp.launcher.imp_right fun h => .inl ⟨h.2.2, hattach h.1⟩
  · simp only [Relay.underway, Relay.begun, hholder, hholder', hp.pending, Option.elim_some,
      List.filterMap_append, Relay.filterMap_delivery hnew, Relay.filterMap_delivery hold]
  · rcases hruns with ⟨raised'', heq⟩ | hpending
    · rw [hholder', Option.some.injEq, Relay.Holder.mk.injEq] at heq
      obtain ⟨rfl, rfl, -⟩ := heq
      exact .inr ⟨.ordinary hops, hnew⟩
    · exact .inl (.inr (hp.pending ▸ hpending))

/-- What the handling of an output event leaves alone. -/
structure Early (s : DebugSession) (r : Relay) : Prop where
  ended : r.ended = s.relay.ended
  closed : r.closed = s.relay.closed
  final : r.isFinalizing = s.relay.isFinalizing
  launcher : r.launcher = s.relay.launcher
  pending : r.pending = s.relay.pending
  sent : r.sent = s.relay.sent ∨ ∃ e, r.sent = s.relay.sent ++ [.propagated e]

/-- **Output is handled before the end of the session is reported.** -/
theorem Inv.early (h : s.Inv) (hr : (r.goto role ops raised).Inv)
    (hholder : s.relay.holder = some ⟨role, [op], branch⟩) (hop : op.output? ≠ none)
    (he : s.Early r) (hcourse : s.Course role ops)
    (htotal : r.passedOutputs ++ ops.filterMap Relay.Op.delivery? =
      s.relay.passedOutputs ++ [op].filterMap Relay.Op.delivery?)
    (hpending : (s.relay.pending .launcher).getD [] = []) :
    Inv ⟨r.goto role ops raised, s.process⟩ := by
  have hopen : ¬ HasEnd s.relay.sent := fun hend =>
    hop ((h.concluded hend).begun role [op] (.inl ⟨_, hholder⟩) op List.mem_cons_self)
  have hopen' : ¬ HasEnd r.sent := by
    rcases he.sent with heq | ⟨e, heq⟩
    · exact heq ▸ hopen
    · exact heq ▸ fun hend => hopen (hasEnd_append rfl hend)
  refine ⟨hr, fun role' ops' hruns => ?_, ?_, h.orderly,
    fun hclosed => h.closed (he.closed ▸ hclosed),
    fun hended => h.ended (he.ended ▸ hended), fun hgone => ?_, fun hnone => ?_,
    fun hend => absurd hend hopen', reports_of_open hopen'⟩
  · have hold : s.Course role' ops' := by
      rcases runs_goto hruns with ⟨rfl, rfl⟩ | hpending
      · exact hcourse
      · exact h.course role' ops' (.inr (he.pending ▸ hpending))
    exact hold.mono id (fun _ => congrFun he.ended _) he.final.trans
      fun _ hne => he.launcher ▸ hne
  · rw [← h.total]
    simp only [Relay.underway, Relay.begun, Relay.goto, hholder, Option.elim_some, he.pending,
      hpending, List.append_nil]
    exact congrArg (· ++ _) htotal
  · exact congrFun he.ended _ |>.trans (h.gone (he.launcher ▸ hgone))
  · exact h.absent (he.launcher ▸ hnone)

/-- All output that was passed on has been written, as none is deferred. -/
theorem Inv.written (h : s.Inv) (hsettled : s.relay.Settled) (hlost : s.relay.lost = false)
    (hdeferred : s.relay.deferredOutputs = []) (hunderway : s.relay.underway = [])
    (hflight : s.process.inFlight = []) :
    ∀ n < s.process.produced, .propagated (.launcher (.output n)) ∈ s.relay.sent := by
  intro n hn
  have hmem : n ∈ s.relay.passedOutputs := by
    have htotal := h.total
    rw [hunderway, hflight, List.append_nil, List.filterMap_nil, List.append_nil] at htotal
    rw [htotal]
    exact List.mem_range.mpr hn
  cases hd : s.relay.deferred with
  | some events =>
      -- what was passed on is deferred
      rw [Relay.passedOutputs, hsettled.deferred events hd] at hmem
      rw [Relay.deferredOutputs, hd, Option.getD_some] at hdeferred
      simp [hdeferred] at hmem
  | none =>
      obtain ⟨e, he, hout⟩ := List.mem_filterMap.mp hmem
      have hpropagated : e ∈ s.relay.propagated := by
        rw [(hsettled.direct hd).2 hlost]
        exact he
      obtain ⟨message, hmessage, hevent⟩ := List.mem_filterMap.mp hpropagated
      have houtput : e = .launcher (.output n) := by
        rcases e with (_ | k | _ | _) | e <;>
          simp_all [RelayedEvent.output?, LauncherEvent.output?]
      cases message with
      | propagated e' =>
          obtain rfl : e' = e := Option.some.inj hevent
          exact houtput ▸ hmessage
      | _ => simp [Sent.event?] at hevent

/-- **The end of the session is reported.** -/
theorem Inv.conclude (h : s.Inv) (hholder : s.relay.holder = some ⟨role, op :: rest, raised⟩)
    (hr : ((s.relay.write message).goto role rest raised).Inv) (hop : op.transient = false)
    (hmessage : message.isDirect = true) (hlost : s.relay.lost = false)
    (hdeferred : s.relay.deferredOutputs = [])
    (hbegun : ∀ role ops, s.relay.Runs role ops → ∀ op ∈ ops, op.output? = none)
    (hflight : s.process.inFlight = [])
    (hquiet : s.process.Quiet ∨ s.relay.launcher = none ∧ s.relay.isFinalizing = true)
    (hcourse : s.Course role rest) :
    Inv ⟨(s.relay.write message).goto role rest raised, s.process⟩ := by
  set r := s.relay.write message with hrdef
  have hhead := hbegun role _ (.inl ⟨_, hholder⟩)
  have hrest : ∀ op' ∈ rest, op'.output? = none := fun op' hop' =>
    hhead op' (List.mem_cons_of_mem _ hop')
  have hunderway : s.relay.underway = [] := by
    have hpending : ((s.relay.pending .launcher).getD []).filterMap Relay.Op.delivery? = [] := by
      cases hp : s.relay.pending .launcher with
      | none => rfl
      | some ops => exact Relay.filterMap_delivery (hbegun .launcher ops (.inr hp))
    rw [Relay.underway, Relay.begun, hholder, List.filterMap_append, hpending, List.append_nil]
    exact Relay.filterMap_delivery hhead
  have hwritten := h.written (h.relay.settled hholder hop) hlost hdeferred hunderway hflight
  have houtput : message.output? = none := by
    cases message <;> simp_all [Sent.isDirect, Sent.output?]
  have hruns : ∀ role' ops', (r.goto role rest raised).Runs role' ops' →
      role' = role ∧ ops' = rest ∨ s.relay.pending role' = some ops' := fun _ _ => runs_goto
  refine ⟨hr, fun role' ops' hruns' => ?_, ?_, h.orderly, h.closed, h.ended, h.gone, h.absent,
    fun _ => ⟨fun n hn => List.mem_append_left _ (hwritten n hn), hdeferred, ?_, ?_, hquiet⟩, ?_⟩
  · have hold : s.Course role' ops' := by
      rcases hruns role' ops' hruns' with ⟨rfl, rfl⟩ | hpending
      · exact hcourse
      · exact h.course role' ops' (.inr hpending)
    exact hold.mono id (fun _ => rfl) id fun _ => id
  · have heq : (r.goto role rest raised).underway = s.relay.underway :=
      underway_goto hholder rfl
        ((Relay.filterMap_delivery hrest).trans (Relay.filterMap_delivery hhead).symm)
    rw [heq]
    exact h.total
  · intro role' ops' hruns'
    rcases hruns role' ops' hruns' with ⟨rfl, rfl⟩ | hpending
    · exact hrest
    · exact hbegun role' ops' (.inr hpending)
  · rw [hflight]
    rfl
  · exact Reports.append h.reported (fun _ => houtput) fun _ => hwritten

/-- Only the thread of the launcher has to do with output, until its last handler begins. -/
theorem Course.output_or (h : s.Course role ops) : (∀ op ∈ ops, op.output? = none) ∨
    role = .launcher ∧ s.relay.ended .launcher = false ∧ ∃ n : ℕ,
      ops = [.propagateAfterStart (.launcher (.output n))] ∨
      ops = [.defer (.launcher (.output n))] ∨ ops = [.propagate (.launcher (.output n))] := by
  cases h with
  | ordinary hops => exact .inl fun op hop => Relay.ordinary_output (hops op hop)
  | output n hopen => exact .inr ⟨rfl, hopen, n, .inl rfl⟩
  | defer n hopen => exact .inr ⟨rfl, hopen, n, .inr (.inl rfl)⟩
  | propagate n hopen => exact .inr ⟨rfl, hopen, n, .inr (.inr rfl)⟩
  | _ => exact .inl (by simp [Relay.Op.output?])

/-- The thread of the launcher has nothing to do with output when the end is reported. -/
theorem Inv.begun_output (h : s.Inv) (hholder : s.relay.holder = some ⟨role, op :: rest, raised⟩)
    (hhead : ∀ op' ∈ op :: rest, op'.output? = none)
    (hquiet : role = .launcher ∨ s.relay.ended .launcher = true ∨ s.relay.launcher = none) :
    ∀ role ops, s.relay.Runs role ops → ∀ op ∈ ops, op.output? = none := by
  intro role' ops hruns
  rcases (h.course role' ops hruns).output_or with hnone | ⟨rfl, hopen, n, hops⟩
  · exact hnone
  rcases hruns with ⟨raised', heq⟩ | hpending
  · rw [hholder, Option.some.injEq, Relay.Holder.mk.injEq] at heq
    exact heq.2.1 ▸ hhead
  rcases hquiet with rfl | hended | hnone
  · have hsingle := h.relay.single _ hholder
    simp [hpending] at hsingle
  · simp [hended] at hopen
  · -- nothing has been produced
    have hidle := h.orderly.idle (h.absent hnone)
    have htotal := h.total
    rw [hidle.2.1, hidle.1, List.range_zero, List.filterMap_nil, List.append_nil] at htotal
    have hunderway := (List.append_eq_nil_iff.mp htotal).2
    rw [Relay.underway, List.filterMap_eq_nil_iff] at hunderway
    have hwaiting := h.relay.waiting _ _ hpending
    rcases hops with rfl | rfl | rfl
    · have hmem := hunderway (.propagateAfterStart (.launcher (.output n)))
        (by simp [Relay.begun, hpending])
      simp [Relay.Op.delivery?, RelayedEvent.output?, LauncherEvent.output?] at hmem
    · simp [Relay.Op.transient] at hwaiting
    · simp [Relay.Op.transient] at hwaiting

/-- The handler is done. -/
theorem Inv.finish (h : s.Inv) (hholder : s.relay.holder = some ⟨role, [], raised⟩)
    (hr : (s.relay.finish role raised).Inv) : Inv ⟨s.relay.finish role raised, s.process⟩ := by
  refine h.calm hr ?_
  rw [Relay.finish]
  split_ifs
  all_goals
    refine ⟨rfl, .inl, id, .inl rfl, rfl, List.Subset.refl _, .inl rfl, ?_,
      fun role' ops hruns => ?_⟩
    · simp [Relay.underway, Relay.begun, hholder]
    · exact .inl (.inr (hruns.resolve_left (by simp)))

/-- **One operation of a handler.** -/
theorem Inv.exec (h : s.Inv) (hholder : s.relay.holder = some ⟨role, ops, raised⟩)
    (htimely : s.Timely (.relay (.exec branch)))
    (hexec : s.relay.exec role raised branch ops = some r) : Inv ⟨r, s.process⟩ := by
  have hr := Relay.exec_inv h.relay hholder hexec
  have hsingle : s.relay.pending role = none := h.relay.single _ hholder
  have hready : ∀ op rest, ops = op :: rest →
      (op = .sendExited ∨ op = .sendTerminated → s.relay.deferredOutputs = []) ∧
        (op = .attachLauncher → s.relay.isFinalizing = false) := by
    rintro op rest rfl
    exact htimely op (by simp [Relay.nextOp, hholder])
  cases h.course role ops (.inl ⟨_, hholder⟩) with
  | ordinary hops =>
      cases ops with
      | nil =>
          obtain rfl := Option.some.inj hexec
          exact h.finish hholder hr
      | cons op rest =>
          obtain ⟨hop, hrest⟩ := List.forall_mem_cons.mp hops
          exact h.calm hr (calm_of_plain hholder (fun op' h => Relay.ordinary_output (hops op' h))
            (Relay.exec_plain hop hrest hexec) (hready op rest rfl).2)
  | output n hopen =>
      have hop : (Relay.Op.propagateAfterStart (.launcher (.output n))).output? ≠ none := by
        simp [Relay.Op.output?, RelayedEvent.output?, LauncherEvent.output?]
      have htotal : ∀ op : Relay.Op, op.delivery? = none →
          Relay.passedOutputs
              { s.relay with passed := s.relay.passed ++ [.launcher (.output n)] } ++
            [op].filterMap Relay.Op.delivery? =
          s.relay.passedOutputs ++
            [.propagateAfterStart (.launcher (.output n))].filterMap Relay.Op.delivery? := by
        intro op hnone
        rw [List.filterMap_cons_none hnone]
        simp [Relay.passedOutputs, Relay.Op.delivery?, RelayedEvent.output?, LauncherEvent.output?]
      simp only [Relay.exec] at hexec
      split at hexec <;> obtain rfl := Option.some.inj hexec
      · exact h.early hr hholder hop ⟨rfl, rfl, rfl, rfl, rfl, .inl rfl⟩ (.defer n hopen)
          (htotal _ rfl) (by simp [hsingle])
      · exact h.early hr hholder hop ⟨rfl, rfl, rfl, rfl, rfl, .inl rfl⟩ (.propagate n hopen)
          (htotal _ rfl) (by simp [hsingle])
  | defer n hopen =>
      have hop : (Relay.Op.defer (.launcher (.output n))).output? ≠ none := by
        simp [Relay.Op.output?, RelayedEvent.output?, LauncherEvent.output?]
      simp only [Relay.exec] at hexec
      split at hexec <;> obtain rfl := Option.some.inj hexec
      · exact h.early hr hholder hop ⟨rfl, rfl, rfl, rfl, rfl, .inl rfl⟩ .nil rfl
          (by simp [hsingle])
      · exact h.early hr hholder hop ⟨rfl, rfl, rfl, rfl, rfl, .inl rfl⟩ .nil rfl
          (by simp [hsingle])
  | propagate n hopen =>
      have hop : (Relay.Op.propagate (.launcher (.output n))).output? ≠ none := by
        simp [Relay.Op.output?, RelayedEvent.output?, LauncherEvent.output?]
      obtain rfl := Option.some.inj hexec
      cases hwrite : s.relay.writeEvent (.propagated (.launcher (.output n))) with
      | none =>
          rw [hwrite] at hr
          exact h.early hr hholder hop ⟨rfl, rfl, rfl, rfl, rfl, .inl rfl⟩ .nil
            rfl (by simp [hsingle])
      | some r₁ =>
          rw [hwrite] at hr
          rw [Relay.writeEvent] at hwrite
          split_ifs at hwrite
          obtain rfl := Option.some.inj hwrite
          exact h.early hr hholder hop ⟨rfl, rfl, rfl, rfl, rfl, .inr ⟨_, rfl⟩⟩
            .nil rfl (by simp [hsingle])
  | terminated hdrained =>
      obtain rfl := Option.some.inj hexec
      have hhead : ∀ op ∈ [Relay.Op.sendExited, .close], op.output? = none := by
        simp [Relay.Op.output?]
      have hcourse : s.Course .launcher [.close] := .close fun _ => hdrained
      rw [Relay.tryWrite] at hr ⊢
      split_ifs at hr ⊢ with hlost
      · exact h.calm hr ((Frame.refl s).calm hholder hhead
          (hcourse.mono id (fun _ => rfl) id fun _ => id) (by simp [Relay.Op.output?]))
      · exact h.conclude hholder hr rfl rfl (Bool.not_eq_true _ ▸ hlost)
          ((hready _ _ rfl).1 (.inl rfl)) (h.begun_output hholder hhead (.inl rfl)) hdrained.1
          (.inl (.inr hdrained.2)) hcourse
  | close hdrained =>
      obtain rfl := Option.some.inj hexec
      have hframe : s.Frame
          { s.relay with closed := Function.update s.relay.closed role true } := by
        refine ⟨rfl, fun hclosed => ?_, id, .inl rfl, rfl, rfl, rfl, rfl⟩
        by_cases hrole : role = .launcher
        · exact .inr (hdrained hrole)
        · exact .inl (by simpa [Function.update_of_ne (Ne.symm hrole)] using hclosed)
      exact h.calm hr (hframe.calm hholder (by simp [Relay.Op.output?]) .nil (by simp))
  | disconnect hlast =>
      obtain rfl := Option.some.inj hexec
      refine h.calm hr (Frame.calm ?_ hholder (by simp [Relay.Op.output?]) .finalize
        (by simp [Relay.Op.output?]))
      cases role with
      | launcher => exact ⟨rfl, .inl, id, .inr ⟨rfl, hlast rfl⟩, rfl, rfl, rfl, rfl⟩
      | ide => exact Frame.refl s
      | server => exact ⟨rfl, .inl, id, .inl rfl, rfl, rfl, rfl, rfl⟩
  | terminate =>
      obtain rfl := Option.some.inj hexec
      exact h.calm hr ((Frame.refl s).calm hholder (by simp [Relay.Op.output?]) .finalize
        (by simp [Relay.Op.output?]))
  | finalize =>
      simp only [Relay.exec] at hexec
      split at hexec <;> obtain rfl := Option.some.inj hexec
      · exact h.calm hr ((Frame.refl s).calm hholder (by simp [Relay.Op.output?])
          .nil (by simp))
      · have hframe : s.Frame { s.relay with isFinalizing := true } :=
          ⟨rfl, .inl, fun _ => rfl, .inl rfl, rfl, rfl, rfl, rfl⟩
        exact h.calm hr (hframe.calm hholder (by simp [Relay.Op.output?]) (.finalizeServer rfl)
          (by simp [Relay.Op.output?]))
  | finalizeServer hfinal =>
      simp only [Relay.exec] at hexec
      split at hexec <;> obtain rfl := Option.some.inj hexec
      · have hframe : s.Frame { s.relay with server := some false } :=
          ⟨rfl, .inl, id, .inl rfl, rfl, rfl, rfl, rfl⟩
        exact h.calm hr (hframe.calm hholder (by simp [Relay.Op.output?])
          (.finalizeLauncher hfinal) (by simp [Relay.Op.output?]))
      · exact h.calm hr ((Frame.refl s).calm hholder (by simp [Relay.Op.output?])
          (.finalizeLauncher hfinal) (by simp [Relay.Op.output?]))
  | finalizeLauncher hfinal =>
      simp only [Relay.exec] at hexec
      split_ifs at hexec with hlauncher <;> obtain rfl := Option.some.inj hexec
      · exact h.calm hr ((Frame.refl s).calm hholder (by simp [Relay.Op.output?])
          (.waitExited hfinal) (by simp [Relay.Op.output?]))
      · exact h.calm hr ((Frame.refl s).calm hholder (by simp [Relay.Op.output?])
          (.waitDisconnected hfinal) (by simp [Relay.Op.output?]))
      · exact h.calm hr ((Frame.refl s).calm hholder (by simp [Relay.Op.output?])
          (.sendTerminated hfinal hlauncher) (by simp [Relay.Op.output?]))
  | waitExited hfinal =>
      simp only [Relay.exec] at hexec
      split_ifs at hexec
      obtain rfl := Option.some.inj hexec
      exact h.calm hr ((Frame.refl s).calm hholder (by simp [Relay.Op.output?])
        (.waitDisconnected hfinal) (by simp [Relay.Op.output?]))
  | waitDisconnected hfinal =>
      simp only [Relay.exec] at hexec
      split_ifs at hexec with hsatisfied
      obtain rfl := Option.some.inj hexec
      exact h.calm hr ((Frame.refl s).calm hholder (by simp [Relay.Op.output?])
        (.sendTerminated hfinal hsatisfied) (by simp [Relay.Op.output?]))
  | sendTerminated hfinal hlauncher =>
      obtain rfl := Option.some.inj hexec
      have hhead : ∀ op ∈ [Relay.Op.sendTerminated], op.output? = none := by
        simp [Relay.Op.output?]
      rw [Relay.tryWrite] at hr ⊢
      split_ifs at hr ⊢ with hlost
      · exact h.calm hr ((Frame.refl s).calm hholder hhead .nil (by simp))
      have hdeferred := (hready _ _ rfl).1 (.inr rfl)
      have hopen : s.relay.lost = false := Bool.not_eq_true _ ▸ hlost
      cases hl : s.relay.launcher with
      | none =>
          have hidle := h.orderly.idle (h.absent hl)
          exact h.conclude hholder hr rfl rfl hopen hdeferred
            (h.begun_output hholder hhead (.inr (.inr hl))) hidle.1 (.inr ⟨hl, hfinal⟩)
            .nil
      | some connected =>
          obtain rfl : connected = false := by
            simpa [hl] using hlauncher
          have hended := h.gone hl
          obtain ⟨hflight, hquiet⟩ := h.ended hended
          exact h.conclude hholder hr rfl rfl hopen hdeferred
            (h.begun_output hholder hhead (.inr (.inl hended))) hflight (.inl hquiet)
            .nil

/-! ### Other steps of the adapter -/

/-- Only the thread of the launcher passes on output. -/
theorem Course.delivery_eq_nil (h : s.Course role ops) (hrole : role ≠ .launcher) :
    ops.filterMap Relay.Op.delivery? = [] := by
  rcases h.output_or with hnone | ⟨heq, -⟩
  · exact Relay.filterMap_delivery hnone
  · exact absurd heq hrole

/-- A handler of the IDE or of the server. -/
theorem task_ordinary (request : IdeRequest) {task : Relay.Task}
    (htask : task.role? = some .ide ∨ task.role? = some .server) (hne : task ≠ .terminate)
    (hclose : task ≠ .serverEvent .terminated) : ∀ op ∈ task.ops request, op.ordinary = true := by
  cases task with
  | launch noDebug => cases noDebug <;> simp [Relay.Task.ops, Relay.spawnOps, Relay.startOps,
      Relay.Op.ordinary, Relay.Op.output?]
  | attach noDebug => cases noDebug <;> simp [Relay.Task.ops, Relay.startOps,
      Relay.Op.ordinary, Relay.Op.output?]
  | terminate => exact absurd rfl hne
  | launcherEvent e => simp [Relay.Task.role?] at htask
  | serverEvent e =>
      cases e with
      | terminated => exact absurd rfl hclose
      | _ => simp [Relay.Task.ops, Relay.Op.ordinary, Relay.Op.output?, RelayedEvent.output?]
  | disconnect => simp [Relay.Task.role?] at htask
  | _ => simp [Relay.Task.ops, Relay.Op.ordinary, Relay.Op.output?]

/-- A handler of the IDE or of the server begins. -/
theorem course_task (request : IdeRequest) {task : Relay.Task} (hrole : role ≠ .launcher)
    (htask : task = .disconnect ∨ task.role? = some role) :
    s.Course role (task.ops request) := by
  by_cases hdisconnect : task = .disconnect
  · exact hdisconnect ▸ .disconnect fun heq => absurd heq hrole
  by_cases hterminate : task = .terminate
  · exact hterminate ▸ .terminate
  by_cases hclose : task = .serverEvent .terminated
  · exact hclose ▸ .close fun heq => absurd heq hrole
  refine .ordinary (task_ordinary request ?_ hterminate hclose)
  have hsome := htask.resolve_left hdisconnect
  cases role with
  | launcher => exact absurd rfl hrole
  | ide => exact .inl hsome
  | server => exact .inr hsome

/-- What a handler thread that begins leaves alone. -/
theorem begin_eq (r : Relay) (role : Role) (task : Relay.Task) :
    ∃ (requests : ℕ) (current : Option (IdeRequest × Bool)), r.begin role task = { r with
      pending := Function.update r.pending role (some (task.ops (r.nextRequest task)))
      ended := Function.update r.ended role (task = .disconnect)
      requests := requests
      current := current } := by
  rw [Relay.begin]
  split_ifs
  · exact ⟨_, _, rfl⟩
  · exact ⟨_, _, rfl⟩

/-- **A handler of the IDE or of the server begins.** -/
theorem Inv.begin (h : s.Inv) {task : Relay.Task} (hready : s.relay.Ready role task)
    (hrole : role ≠ .launcher) : Inv ⟨s.relay.begin role task, s.process⟩ := by
  have hr := Relay.begin_inv h.relay hready
  have htask : task = .disconnect ∨ task.role? = some role := by
    have hkind := hready.2.2.2
    split_ifs at hkind with hdisconnect
    · exact .inl hdisconnect
    · exact .inr hkind
  obtain ⟨requests, current, heq⟩ := begin_eq s.relay role task
  rw [heq] at hr ⊢
  have hnone : ∀ {ops : List Relay.Op}, s.Course role ops → ∀ op ∈ ops, op.output? = none :=
    fun hcourse => hcourse.output_or.resolve_right fun hl => hrole hl.1
  refine h.calm hr ⟨Function.update_of_ne (Ne.symm hrole) _ _, .inl, id, .inl rfl, rfl,
    List.Subset.refl _, .inl rfl, ?_, fun role' ops hruns => ?_⟩
  · simp [Relay.underway, Relay.begun, Function.update_of_ne (Ne.symm hrole)]
  · rcases hruns with hheld | hpending
    · exact .inl (.inl hheld)
    by_cases hsame : role' = role
    · subst hsame
      simp only [Function.update_self, Option.some.injEq] at hpending
      subst hpending
      exact .inr ⟨course_task _ hrole htask, hnone (course_task _ hrole htask)⟩
    · exact .inl (.inr (by simpa [hsame] using hpending))

/-- The other handlers are those of the IDE and of the server. -/
theorem Inv.others (h : s.Inv) (hidle : s.relay.Idle .launcher) {requests : ℕ}
    {current : Option (IdeRequest × Bool)} {pending : Role → Option (List Relay.Op)}
    {ended : Role → Bool} {ops' : List Relay.Op}
    (hpending : pending = Function.update s.relay.pending .launcher (some ops'))
    (hdrained : s.Drained → DebugSession.Drained ⟨s.relay, p'⟩)
    (hruns : Relay.Runs { s.relay with
      pending := pending, ended := ended, requests := requests, current := current } role ops) :
    role = .launcher ∧ ops = ops' ∨ s.relay.Runs role ops ∧
      DebugSession.Course ⟨{ s.relay with
        pending := pending, ended := ended, requests := requests, current := current }, p'⟩
        role ops := by
  have hother : s.relay.Runs role ops → role ≠ .launcher → DebugSession.Course ⟨{ s.relay with
      pending := pending, ended := ended, requests := requests, current := current }, p'⟩
      role ops := fun hold hrole =>
    (h.course role ops hold).mono hdrained (fun heq => absurd heq hrole) id fun _ => id
  rcases hruns with ⟨raised, hheld⟩ | hwaits
  · have hold : s.relay.Runs role ops := .inl ⟨raised, hheld⟩
    exact .inr ⟨hold, hother hold (hidle.2.1 _ hheld)⟩
  by_cases hrole : role = .launcher
  · subst hrole
    simp only [hpending, Function.update_self, Option.some.injEq] at hwaits
    exact .inl ⟨rfl, hwaits.symm⟩
  · have hold : s.relay.Runs role ops := .inr (by simpa [hpending, hrole] using hwaits)
    exact .inr ⟨hold, hother hold hrole⟩

/-- Nothing is underway for the thread of the launcher, but what it begins with. -/
theorem underway_begin (hidle : r.Idle .launcher) {requests : ℕ}
    {current : Option (IdeRequest × Bool)} {ended : Role → Bool} :
    Relay.underway { r with
      pending := Function.update r.pending .launcher (some ops), ended := ended
      requests := requests, current := current } =
        r.underway ++ ops.filterMap Relay.Op.delivery? := by
  simp [Relay.underway, Relay.begun, hidle.1]

/-- **The last handler of the launcher begins** when there are no more events. -/
theorem Inv.begin_disconnect (h : s.Inv) (hready : s.relay.Ready .launcher .disconnect)
    (hflight : s.process.inFlight = []) (hquiet : s.process.Quiet) :
    Inv ⟨s.relay.begin .launcher .disconnect, s.process⟩ := by
  have hr := Relay.begin_inv h.relay hready
  obtain ⟨requests, current, heq⟩ := begin_eq s.relay .launcher .disconnect
  rw [heq] at hr ⊢
  have hidle := hready.1
  refine ⟨hr, fun role ops hruns => ?_, ?_, h.orderly, h.closed, fun _ => ⟨hflight, hquiet⟩,
    fun _ => by simp, h.absent, fun hend => ?_, h.reported⟩
  · rcases h.others hidle rfl id hruns with ⟨rfl, rfl⟩ | ⟨-, hcourse⟩
    · exact .disconnect fun _ => by simp
    · exact hcourse
  · have hnothing : (Relay.Task.disconnect.ops
        (s.relay.nextRequest .disconnect)).filterMap Relay.Op.delivery? = [] := rfl
    rw [underway_begin hidle, hnothing, List.append_nil]
    exact h.total
  · obtain ⟨hall, hdeferred, hbegun, hnone, hq⟩ := h.concluded hend
    refine ⟨hall, hdeferred, fun role ops hruns => ?_, hnone, hq⟩
    rcases h.others hidle rfl id hruns with ⟨rfl, rfl⟩ | ⟨hold, -⟩
    · simp [Relay.Task.ops, Relay.Op.output?]
    · exact hbegun role ops hold

/-- What the handler of an event passes on. -/
theorem delivery_launcherEvent (request : IdeRequest) (e : LauncherEvent) :
    ((Relay.Task.launcherEvent e).ops request).filterMap Relay.Op.delivery? =
      e.output?.toList := by
  cases e <;> rfl

/-- **The handler of the next event of the launcher begins.** -/
theorem Inv.begin_event (h : s.Inv) {e : LauncherEvent} {events : List LauncherEvent}
    (hready : s.relay.Ready .launcher (.launcherEvent e))
    (hflight : s.process.inFlight = e :: events) :
    Inv ⟨s.relay.begin .launcher (.launcherEvent e), { s.process with inFlight := events }⟩ := by
  have hr := Relay.begin_inv h.relay hready
  obtain ⟨requests, current, heq⟩ := begin_eq s.relay .launcher (.launcherEvent e)
  rw [heq] at hr ⊢
  obtain ⟨hidle, hpresent, hopen, -⟩ := hready
  have hmore : ¬ s.Drained := fun hdrained => by simp [hdrained.1] at hflight
  have hwaiter : s.process.waiter ≠ .notStarted := fun hnot => by
    simp [(h.orderly.idle hnot).1] at hflight
  have horderly : LauncherProcess.Orderly { s.process with inFlight := events } := by
    refine ⟨fun hnot => absurd hnot hwaiter, h.orderly.joining, h.orderly.joined,
      fun front rest (hrest : events = front ++ .terminated :: rest) => ?_⟩
    exact h.orderly.last (e :: front) rest (by rw [hflight, hrest, List.cons_append])
  have hcourse : Course ⟨{ s.relay with
      pending := Function.update s.relay.pending .launcher
        (some ((Relay.Task.launcherEvent e).ops (s.relay.nextRequest (.launcherEvent e))))
      ended := Function.update s.relay.ended .launcher false
      requests := requests, current := current }, { s.process with inFlight := events }⟩ .launcher
        ((Relay.Task.launcherEvent e).ops (s.relay.nextRequest (.launcherEvent e))) := by
    cases e with
    | process => exact .ordinary (by simp [Relay.Task.ops, Relay.Op.ordinary, Relay.Op.output?,
        RelayedEvent.output?, LauncherEvent.output?])
    | output n => exact .output n (by simp)
    | exited => exact .ordinary (by simp [Relay.Task.ops, Relay.Op.ordinary, Relay.Op.output?])
    | terminated => exact .terminated (h.orderly.last [] events hflight)
  refine ⟨hr, fun role ops hruns => ?_, ?_, horderly,
    fun hclosed => absurd (h.closed hclosed) hmore,
    fun hended => by simp at hended, fun hgone => ?_, fun hnone => ?_, fun hend => ?_, h.reported⟩
  · rcases h.others hidle rfl (fun hdrained => absurd hdrained hmore) hruns with
      ⟨rfl, rfl⟩ | ⟨-, hcourse'⟩
    · exact hcourse
    · exact hcourse'
  · have htotal := h.total
    rw [hflight, List.filterMap_cons] at htotal
    rw [underway_begin hidle, delivery_launcherEvent, ← htotal]
    cases he : e.output? with
    | none => simp [Relay.passedOutputs]
    | some n => simp [Relay.passedOutputs]
  · rw [h.gone hgone] at hopen
    simp at hopen
  · simp [Relay.Present, show s.relay.launcher = none from hnone] at hpresent
  · obtain ⟨hall, hdeferred, hbegun, hnone, hq⟩ := h.concluded hend
    have hsilent : ∀ e' ∈ e :: events, e'.output? = none := by
      rw [← hflight]
      exact List.filterMap_eq_nil_iff.mp hnone
    refine ⟨hall, hdeferred, fun role ops hruns => ?_, ?_, hq⟩
    · rcases h.others hidle rfl (id : s.Drained → s.Drained) hruns with
        ⟨rfl, rfl⟩ | ⟨hold, -⟩
      · have he := hsilent e List.mem_cons_self
        cases e <;> simp_all [Relay.Task.ops, Relay.Op.output?, RelayedEvent.output?,
          LauncherEvent.output?]
      · exact hbegun role ops hold
    · exact List.filterMap_eq_nil_iff.mpr fun e' he' => hsilent e' (List.mem_cons_of_mem _ he')

/-- A handler thread gets the lock. -/
theorem Inv.acquire (h : s.Inv) (hfree : s.relay.holder = none)
    (hwaits : s.relay.pending role = some ops) :
    Inv ⟨{ s.relay with
      holder := some ⟨role, ops, false⟩
      pending := Function.update s.relay.pending role none }, s.process⟩ := by
  have hcourse := h.course role ops (.inr hwaits)
  refine h.calm (Relay.acquire_inv h.relay hfree hwaits) ⟨rfl, .inl, id, .inl rfl, rfl,
    List.Subset.refl _, .inl rfl, ?_, fun role' ops' hruns => .inl ?_⟩
  · by_cases hrole : role = .launcher
    · subst hrole
      simp [Relay.underway, Relay.begun, hfree, hwaits]
    · simp [Relay.underway, Relay.begun, hfree, hcourse.delivery_eq_nil hrole,
        Function.update_of_ne (Ne.symm hrole)]
  · rcases hruns with ⟨raised', heq⟩ | hpending
    · obtain ⟨rfl, rfl, -⟩ : role = role' ∧ ops = ops' ∧ false = raised' := by simpa using heq
      exact .inr hwaits
    · by_cases hsame : role' = role
      · simp [hsame] at hpending
      · exact .inr (by simpa [hsame] using hpending)

/-- The holder of the lock waits. -/
theorem Inv.wait (h : s.Inv) {awaited : Awaited}
    (hholder : s.relay.holder = some ⟨role, .waitFor awaited :: rest, false⟩) :
    Inv ⟨{ s.relay with
      holder := none
      pending := Function.update s.relay.pending role (some (.waitFor awaited :: rest)) },
      s.process⟩ := by
  have hcourse := h.course role _ (.inl ⟨_, hholder⟩)
  have hsingle : s.relay.pending role = none := h.relay.single _ hholder
  refine h.calm (Relay.wait_inv h.relay hholder) ⟨rfl, .inl, id, .inl rfl, rfl,
    List.Subset.refl _, .inl rfl, ?_, fun role' ops' hruns => .inl ?_⟩
  · by_cases hrole : role = .launcher
    · subst hrole
      simp [Relay.underway, Relay.begun, hholder, hsingle]
    · simp only [Relay.underway, Relay.begun, hholder, Function.update_of_ne (Ne.symm hrole),
        Option.elim_none, Option.elim_some, List.filterMap_append, List.filterMap_nil,
        hcourse.delivery_eq_nil hrole]
  · rcases hruns with ⟨raised', heq⟩ | hpending
    · simp at heq
    · by_cases hsame : role' = role
      · obtain rfl : .waitFor awaited :: rest = ops' := by simpa [hsame] using hpending
        exact .inl ⟨_, hsame ▸ hholder⟩
      · exact .inr (by simpa [hsame] using hpending)

/-- The handler raises. -/
theorem Inv.raise (h : s.Inv)
    (hholder : s.relay.holder = some ⟨role, op :: rest, raised⟩)
    (hop : op = .other ∨ ∃ request, op = .delegate request)
    (hr : r.Inv) (hplain : (∀ op ∈ Relay.unwind rest, op.ordinary = true) →
      s.relay.Plain r role op) : Inv ⟨r, s.process⟩ := by
  have hne : op ≠ .attachLauncher := by
    rintro rfl
    simp at hop
  cases h.course role _ (.inl ⟨_, hholder⟩) with
  | ordinary hops =>
      have hrest := (List.forall_mem_cons.mp hops).2
      exact h.calm hr (calm_of_plain hholder (fun op' h => Relay.ordinary_output (hops op' h))
        (hplain (Relay.ordinary_unwind hrest)) (absurd · hne))
  | terminate =>
      have hnothing : ∀ op ∈ Relay.unwind [.finalize], op.ordinary = true := by
        simp [Relay.unwind]
      exact h.calm hr (calm_of_plain hholder (by simp [Relay.Op.output?]) (hplain hnothing)
        (absurd · hne))
  | _ => simp at hop

/-- A response is sent, or fails to be. -/
theorem Inv.answer (h : s.Inv) {request : IdeRequest} {success : Bool} :
    Inv ⟨{ (s.relay.respond request success).getD s.relay with answer := none }, s.process⟩ := by
  refine h.calm (Relay.answer_inv h.relay) ?_
  cases hrespond : s.relay.respond request success with
  | none =>
      exact ⟨rfl, .inl, id, .inl rfl, rfl, List.Subset.refl _, .inl rfl, rfl,
        fun role ops => .inl⟩
  | some r₁ =>
      obtain ⟨hmild, hlauncher, hpending, hholder⟩ := Relay.mild_respond hrespond
      refine ⟨congrFun hmild.ended _, fun hclosed => .inl (hmild.closed ▸ hclosed),
        hmild.isFinalizing.trans, .inl hlauncher, hmild.passed, hmild.deferred, hmild.sent, ?_,
        fun role ops hruns => .inl ?_⟩
      · simp only [Relay.underway, Relay.begun, Option.getD_some, hholder, hpending]
      · rw [Relay.Runs] at hruns ⊢
        simpa [hholder, hpending] using hruns

/-- The connection to the IDE is lost. -/
theorem Inv.lose (h : s.Inv) : Inv ⟨{ s.relay with lost := true }, s.process⟩ :=
  h.calm (Relay.lose_inv h.relay) ⟨rfl, .inl, id, .inl rfl, rfl, List.Subset.refl _, .inl rfl, rfl,
    fun _ _ => .inl⟩

/-! ### Runs -/

/-- A handler thread begins with a handler. -/
theorem Inv.start (h : s.Inv) {task : Relay.Task} (htake : s.take (.start role task) = some p')
    (hready : s.relay.Ready role task) : Inv ⟨s.relay.begin role task, p'⟩ := by
  by_cases hrole : role = .launcher
  · subst hrole
    have hkind := hready.2.2.2
    split_ifs at hkind with hdisconnect
    · subst hdisconnect
      simp only [take] at htake
      split_ifs at htake with hguard
      obtain rfl := Option.some.inj htake
      rcases hguard with ⟨hflight, hopen⟩ | hclosed
      · exact h.begin_disconnect hready hflight (.inl hopen)
      · obtain ⟨hflight, hdone⟩ := h.closed hclosed
        exact h.begin_disconnect hready hflight (.inr hdone)
    · cases task with
      | launcherEvent e =>
          simp only [take] at htake
          split at htake
          · next e' events hflight =>
            split_ifs at htake with he
            obtain rfl := Option.some.inj htake
            exact h.begin_event hready (he ▸ hflight)
          · simp at htake
      | _ => simp [Relay.Task.role?] at hkind
  · have hsame : s.take (.start role task) = some s.process := by
      cases role with
      | launcher => exact absurd rfl hrole
      | _ => rfl
    obtain rfl := Option.some.inj (hsame.symm.trans htake)
    exact h.begin hready hrole

/-- A step of the adapter. -/
theorem Inv.relay_step (h : s.Inv) {a : Relay.Action} (htimely : s.Timely (.relay a))
    (htake : s.take a = some p') (hstep : s.relay.step a = some r) : Inv ⟨r, p'⟩ := by
  have hr := Relay.step_inv h.relay hstep
  cases a with
  | start role task =>
      simp only [Relay.step] at hstep
      split_ifs at hstep with hready
      obtain rfl := Option.some.inj hstep
      exact h.start htake hready
  | acquire role =>
      obtain rfl := Option.some.inj htake
      simp only [Relay.step] at hstep
      split at hstep
      · next hfree hwaits =>
        obtain rfl := Option.some.inj hstep
        exact h.acquire hfree hwaits
      · simp at hstep
  | exec branch =>
      obtain rfl := Option.some.inj htake
      simp only [Relay.step] at hstep
      split at hstep
      · next hholder => exact h.exec hholder htimely hstep
      · simp at hstep
  | raise responds =>
      obtain rfl := Option.some.inj htake
      simp only [Relay.step] at hstep
      split at hstep
      · next hholder =>
        obtain rfl := Option.some.inj hstep
        refine h.raise hholder (.inl rfl) hr fun hrest => ?_
        split_ifs
        · exact Relay.plain_refuse hrest
        · exact (Relay.Mild.refl s.relay).raise rfl rfl hrest
      · next request rest raised hholder =>
        obtain rfl := Option.some.inj hstep
        exact h.raise hholder (.inr ⟨request, rfl⟩) hr
          ((Relay.Mild.refl s.relay).raise rfl rfl)
      · simp at hstep
  | wait =>
      obtain rfl := Option.some.inj htake
      simp only [Relay.step] at hstep
      split at hstep
      · next hholder =>
        split_ifs at hstep
        obtain rfl := Option.some.inj hstep
        exact h.wait hholder
      · simp at hstep
  | answer =>
      obtain rfl := Option.some.inj htake
      simp only [Relay.step] at hstep
      split at hstep
      · obtain rfl := Option.some.inj hstep
        exact h.answer
      · simp at hstep
  | lose =>
      obtain rfl := Option.some.inj htake
      obtain rfl := Option.some.inj hstep
      exact h.lose

/-- **The invariant is kept.** -/
theorem Inv.step {a : Action} (h : s.Inv) (htimely : s.Timely a) (hstep : s.step a = some s') :
    s'.Inv := by
  cases a with
  | relay a =>
      simp only [DebugSession.step, Option.bind_eq_bind, Option.bind_eq_some_iff] at hstep
      obtain ⟨p, htake, r, hrelay, hdone⟩ := hstep
      obtain rfl := Option.some.inj hdone
      exact h.relay_step htimely htake hrelay
  | process a =>
      cases a with
      | spawn redirectOutput =>
          simp only [DebugSession.step] at hstep
          split_ifs at hstep with hlauncher
          obtain ⟨p, hprocess, rfl⟩ := Option.map_eq_some_iff.mp hstep
          exact h.process (fun hnone => by simp [hnone] at hlauncher) hprocess
      | _ =>
          simp only [DebugSession.step] at hstep
          obtain ⟨p, hprocess, rfl⟩ := Option.map_eq_some_iff.mp hstep
          exact h.process (by simp) hprocess

theorem inv_init : Inv ⟨.init, .init⟩ where
  relay := Relay.init_inv
  course role ops hruns := by simp [Relay.Runs, Relay.init] at hruns
  total := rfl
  orderly := ⟨fun _ => ⟨rfl, rfl, fun _ => rfl⟩, nofun, nofun, by simp [LauncherProcess.init]⟩
  closed hclosed := by simp [Relay.init] at hclosed
  ended hended := by simp [Relay.init] at hended
  gone hgone := by simp [Relay.init] at hgone
  absent _ := rfl
  concluded hend := by simp [HasEnd, Relay.init] at hend
  reported := reports_of_open (by simp [HasEnd, Relay.init])

theorem inv_of_reachable (h : debugSession.ReachableWithin Timely s) : s.Inv := by
  have hinv : debugSession.InvariantWithin Timely Inv :=
    ⟨fun hs => hs ▸ inv_init, fun hs htimely hstep => hs.step htimely hstep⟩
  exact hinv.of_reachable h

/-- A run of a session is one of its adapter. -/
theorem relay_reachable {C : DebugSession → Action → Prop} (h : debugSession.ReachableWithin C s) :
    Ptvsd.relay.Reachable s.relay := by
  induction h with
  | start hs => exact Machine.Reachable.of_start (by rw [hs]; rfl)
  | @step _ _ a _ _ hstep ih =>
      cases a with
      | relay a =>
          simp only [debugSession, DebugSession.step, Option.bind_eq_bind,
            Option.bind_eq_some_iff] at hstep
          obtain ⟨p, -, r, hrelay, hdone⟩ := hstep
          obtain rfl := Option.some.inj hdone
          exact ih.step hrelay
      | process a =>
          cases a with
          | spawn redirectOutput =>
              simp only [debugSession, DebugSession.step] at hstep
              split_ifs at hstep
              obtain ⟨p, -, rfl⟩ := Option.map_eq_some_iff.mp hstep
              exact ih
          | _ =>
              simp only [debugSession, DebugSession.step] at hstep
              obtain ⟨p, -, rfl⟩ := Option.map_eq_some_iff.mp hstep
              exact ih

/-- Without a launcher there is no output. -/
theorem Inv.no_output (h : s.Inv) (hnone : s.relay.launcher = none) :
    s.process.produced = 0 ∧ ∀ message ∈ s.relay.sent, message.output? = none := by
  have hproduced := (h.orderly.idle (h.absent hnone)).2.1
  refine ⟨hproduced, fun message hmessage => ?_⟩
  have htotal := h.total
  rw [hproduced, List.range_zero, List.append_eq_nil_iff, List.append_eq_nil_iff] at htotal
  cases message with
  | propagated e =>
      have he : e ∈ s.relay.passed :=
        h.relay.isPrefix.subset (List.mem_filterMap.mpr ⟨_, hmessage, rfl⟩)
      exact List.filterMap_eq_nil_iff.mp htotal.1.1 e he
  | _ => rfl

/-- **All output is reported before the end of the session, and none after it**, if no output is
deferred when the end is reported, and no launcher connects to a session that has been
finalized. -/
theorem output_reported (h : debugSession.ReachableWithin Timely s) : s.Reported := by
  have hinv := inv_of_reachable h
  intro before message after hsent hend
  cases message with
  | propagated e =>
      have hmem : .propagated e ∈ s.relay.sent := by simp [hsent]
      obtain ⟨hproduced, hno⟩ :=
        hinv.no_output (Relay.exited_alone (relay_reachable h) hmem hend)
      refine ⟨fun n hn => by simp [hproduced] at hn, fun other hother => hno other ?_⟩
      simp [hsent, hother]
  | _ => exact hinv.reported before _ after hsent hend

/-! ### Two sessions -/

/-- A handler thread begins with a handler, and executes this many operations. -/
def handle (role : Role) (task : Relay.Task) (n : ℕ) : List Action :=
  [.relay (.start role task), .relay (.acquire role)] ++ List.replicate n (.relay (.exec false))

/-- The debuggee writes something, and exits. -/
def runDebuggee : List Action :=
  [.process (.spawn true), .process (.output .stdout), .process (.finish .stdout),
    .process (.finish .stderr), .process .exit, .process .join, .process .join, .process .join,
    .process .report, .process .terminate]

/-- What the launcher has sent is handled. -/
def relayDebuggee : List Action :=
  handle .launcher (.launcherEvent .process) 4 ++ handle .launcher (.launcherEvent (.output 0)) 3 ++
    handle .launcher (.launcherEvent .exited) 2 ++ handle .launcher (.launcherEvent .terminated) 3

/-- The debuggee runs after "configurationDone". -/
def exitLate : List Action :=
  handle .ide (.launch false) 14 ++ handle .ide .configurationDone 12 ++ runDebuggee ++
    relayDebuggee ++ [.process .hangUp] ++ handle .launcher .disconnect 6

theorem output_reported_finished :
    ∃ s, debugSession.run ⟨.init, .init⟩ exitLate = some s ∧ s.process.produced = 1 ∧
      s.relay.sent = [.initialized, .response ⟨1, false⟩ true, .response ⟨0, true⟩ true,
        .propagated (.launcher .process), .propagated (.launcher (.output 0)), .exited,
        .terminated] ∧ s.Reported := by
  have hrun : ∃ s, debugSession.run ⟨.init, .init⟩ exitLate = some s ∧ s.process.produced = 1 ∧
      s.relay.sent = [.initialized, .response ⟨1, false⟩ true, .response ⟨0, true⟩ true,
        .propagated (.launcher .process), .propagated (.launcher (.output 0)), .exited,
        .terminated] := ⟨_, rfl, rfl, rfl⟩
  obtain ⟨s, hs, hproduced, hsent⟩ := hrun
  have hwithin : debugSession.StepsWithin Timely ⟨.init, .init⟩ exitLate := by
    decide +kernel
  have hstart : debugSession.ReachableWithin Timely ⟨.init, .init⟩ := .start rfl
  exact ⟨s, hs, hproduced, hsent, output_reported (hstart.run hwithin hs)⟩

/-- The debuggee exits before "configurationDone", which fails for that reason. -/
def exitEarly : List Action :=
  handle .ide (.launch false) 14 ++ runDebuggee ++ relayDebuggee ++
    handle .ide .configurationDone 3 ++ [.relay (.raise false)] ++
    List.replicate 4 (.relay (.exec false))

/-- **Output may come after "exited".** -/
theorem output_late :
    ¬ ∀ s, debugSession.Reachable s → ∀ before message after,
      s.relay.sent = before ++ message :: after → message.isEnd = true →
        ∀ other ∈ after, other.output? = none := by
  intro h
  have hrun : ∃ s, debugSession.run ⟨.init, .init⟩ exitEarly = some s ∧
      s.relay.sent = [.initialized, .exited, .response ⟨0, true⟩ true,
        .propagated (.launcher .process), .propagated (.launcher (.output 0))] :=
    ⟨_, rfl, rfl⟩
  obtain ⟨s, hs, hsent⟩ := hrun
  have hnone := h s (Machine.reachable_iff_run.mpr ⟨_, _, rfl, hs⟩) [.initialized] .exited _ hsent
    rfl (.propagated (.launcher (.output 0))) (by simp)
  simp [Sent.output?, RelayedEvent.output?, LauncherEvent.output?] at hnone

end DebugSession

end Ptvsd
