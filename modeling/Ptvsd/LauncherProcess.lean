import Mathlib.Data.List.Range
import Ptvsd.Relay

/-!
# The Launcher of a Session

The launcher captures the output of the debuggee with two workers, each of which sends it to the
adapter as events. When the debuggee has exited, another thread joins the workers, and then sends
"exited" and "terminated".

What the workers read, and how they make events of it, is left out; output events are numbered. The
connection to the adapter may be lost at any time.

## Main results

* `Orderly.step`: nothing is sent after "terminated", in particular no output.
* `outputs_step`: the output events are sent in the order of their numbers.
-/

namespace Ptvsd

/-- The number of the output. -/
def LauncherEvent.output? : LauncherEvent → Option ℕ
  | .output n => some n
  | _ => none

/-- The keys of `CaptureOutput.instances`. -/
inductive Category where
  | stdout
  | stderr
  deriving DecidableEq

/-- How far `wait_for_exit` has got. -/
inductive ExitWaiter where
  /-- The debuggee was not spawned yet. -/
  | notStarted
  /-- In `process.wait()`. -/
  | waiting
  /-- In `wait_for_remaining_output`, with these workers yet to join. -/
  | joining (workers : List Category)
  /-- About to send "exited". -/
  | reporting
  /-- In `_wait_for_user_input`, or about to send "terminated". -/
  | pausing
  | done
  deriving DecidableEq

/-- The workers have been joined. -/
def ExitWaiter.joined : ExitWaiter → Bool
  | .reporting => true
  | .pausing => true
  | .done => true
  | _ => false

/-- The launcher of a session. -/
structure LauncherProcess where
  waiter : ExitWaiter
  /-- The workers that have not ended. -/
  working : Category → Bool
  /-- The number of "output" events sent. -/
  produced : ℕ
  /-- The channel to the adapter is open. -/
  connected : Bool
  /-- The events sent that the adapter has not begun to handle. -/
  inFlight : List LauncherEvent

namespace LauncherProcess

/-- A launcher that has connected to the adapter. -/
def init : LauncherProcess := ⟨.notStarted, fun _ => false, 0, true, []⟩

/-- `launcher.channel.send_event(…)`, with its exceptions ignored. -/
def send (e : LauncherEvent) (p : LauncherProcess) : LauncherProcess :=
  if p.connected then { p with inFlight := p.inFlight ++ [e] } else p

/-- What the threads of the launcher do. -/
inductive Action where
  /-- `debuggee.spawn`. -/
  | spawn (redirectOutput : Bool)
  /-- A worker sends an "output" event. -/
  | output (worker : Category)
  /-- A worker ends. -/
  | finish (worker : Category)
  /-- `process.wait()` returns. -/
  | exit
  /-- A worker is joined, or all of them have been. -/
  | join
  /-- "exited" is sent. -/
  | report
  /-- "terminated" is sent. -/
  | terminate
  /-- The channel to the adapter is closed. -/
  | hangUp

/-- The step under an action. -/
def step (p : LauncherProcess) : Action → Option LauncherProcess
  | .spawn redirectOutput =>
      if p.waiter = .notStarted then
        some { p.send .process with working := fun _ => redirectOutput, waiter := .waiting }
      else none
  | .output worker =>
      if p.working worker then
        some (if p.connected then
          { p.send (.output p.produced) with produced := p.produced + 1 } else p)
      else none
  | .finish worker =>
      if p.working worker then
        some { p with working := Function.update p.working worker false }
      else none
  | .exit =>
      if p.waiter = .waiting then some { p with waiter := .joining [.stdout, .stderr] } else none
  | .join =>
      match p.waiter with
      | .joining (worker :: workers) =>
          if p.working worker then none else some { p with waiter := .joining workers }
      | .joining [] => some { p with waiter := .reporting }
      | _ => none
  | .report =>
      if p.waiter = .reporting then some { p.send .exited with waiter := .pausing } else none
  | .terminate =>
      if p.waiter = .pausing then some { p.send .terminated with waiter := .done } else none
  | .hangUp => some { p with connected := false }

/-! ### The order of the events -/

/-- The launcher sends nothing any more. -/
def Quiet (p : LauncherProcess) : Prop := p.connected = false ∨ p.waiter = .done

/-- The workers are joined before "exited" and "terminated" are sent, and nothing is sent after
that. -/
structure Orderly (p : LauncherProcess) : Prop where
  idle : p.waiter = .notStarted → p.inFlight = [] ∧ p.produced = 0 ∧ ∀ c, p.working c = false
  joining : ∀ workers, p.waiter = .joining workers → ∀ c, p.working c = true → c ∈ workers
  joined : p.waiter.joined = true → ∀ c, p.working c = false
  last : ∀ front rest, p.inFlight = front ++ .terminated :: rest → rest = [] ∧ p.waiter = .done

variable {p p' : LauncherProcess} {a : Action}

theorem inFlight_send (e : LauncherEvent) (p : LauncherProcess) :
    (p.send e).inFlight = p.inFlight ++ (if p.connected then [e] else []) := by
  rw [send]
  split_ifs <;> simp

@[simp] theorem waiter_send (e : LauncherEvent) : (p.send e).waiter = p.waiter := by
  rw [send]
  split_ifs <;> rfl

@[simp] theorem working_send (e : LauncherEvent) : (p.send e).working = p.working := by
  rw [send]
  split_ifs <;> rfl

@[simp] theorem produced_send (e : LauncherEvent) : (p.send e).produced = p.produced := by
  rw [send]
  split_ifs <;> rfl

@[simp] theorem connected_send (e : LauncherEvent) : (p.send e).connected = p.connected := by
  rw [send]
  split_ifs with h
  · exact h.symm ▸ rfl
  · rfl

/-- **A launcher that is quiet remains so.** -/
theorem Quiet.step (h : p.Quiet) (hp : p.Orderly) (hstep : p.step a = some p') :
    p'.Quiet ∧ p'.inFlight = p.inFlight ∧ p'.produced = p.produced ∧
      (p.waiter = .done → p'.waiter = .done) := by
  have hclosed : p.waiter ≠ .done → p.connected = false := h.resolve_right
  cases a with
  | spawn redirectOutput =>
      simp only [LauncherProcess.step] at hstep
      split_ifs at hstep with hwaiter
      obtain rfl := Option.some.inj hstep
      simp [Quiet, inFlight_send, hclosed (by simp [hwaiter]), hwaiter]
  | output worker =>
      simp only [LauncherProcess.step] at hstep
      split_ifs at hstep with hworking hconnected
      · -- the workers have been joined
        have hdone : p.waiter = .done := h.resolve_left (by simp [hconnected])
        have hended := hp.joined (by simp [hdone, ExitWaiter.joined]) worker
        simp [hworking] at hended
      · obtain rfl := Option.some.inj hstep
        exact ⟨h, rfl, rfl, id⟩
  | finish worker =>
      simp only [LauncherProcess.step] at hstep
      split_ifs at hstep
      obtain rfl := Option.some.inj hstep
      exact ⟨h, rfl, rfl, id⟩
  | exit =>
      simp only [LauncherProcess.step] at hstep
      split_ifs at hstep with hwaiter
      obtain rfl := Option.some.inj hstep
      exact ⟨.inl (hclosed (by simp [hwaiter])), rfl, rfl, by simp [hwaiter]⟩
  | join =>
      simp only [LauncherProcess.step] at hstep
      split at hstep
      · next hwaiter =>
        split_ifs at hstep
        obtain rfl := Option.some.inj hstep
        exact ⟨.inl (hclosed (by simp [hwaiter])), rfl, rfl, by simp [hwaiter]⟩
      · next hwaiter =>
        obtain rfl := Option.some.inj hstep
        exact ⟨.inl (hclosed (by simp [hwaiter])), rfl, rfl, by simp [hwaiter]⟩
      · simp at hstep
  | report =>
      simp only [LauncherProcess.step] at hstep
      split_ifs at hstep with hwaiter
      obtain rfl := Option.some.inj hstep
      simp [Quiet, inFlight_send, hclosed (by simp [hwaiter]), hwaiter]
  | terminate =>
      simp only [LauncherProcess.step] at hstep
      split_ifs at hstep with hwaiter
      obtain rfl := Option.some.inj hstep
      simp [Quiet, inFlight_send, hclosed (by simp [hwaiter])]
  | hangUp =>
      obtain rfl := Option.some.inj hstep
      exact ⟨.inl rfl, rfl, rfl, id⟩

/-- Nothing happens to a debuggee that was not spawned. -/
theorem step_notStarted (hwaiter : p.waiter = .notStarted) (hp : p.Orderly)
    (ha : ∀ redirectOutput, a ≠ .spawn redirectOutput) (hstep : p.step a = some p') :
    p'.waiter = .notStarted ∧ p'.inFlight = p.inFlight ∧ p'.produced = p.produced := by
  have hworking := (hp.idle hwaiter).2.2
  cases a with
  | spawn redirectOutput => exact absurd rfl (ha redirectOutput)
  | hangUp =>
      obtain rfl := Option.some.inj hstep
      exact ⟨hwaiter, rfl, rfl⟩
  | _ => simp [LauncherProcess.step, hwaiter, hworking] at hstep

theorem Orderly.not_terminated (hp : p.Orderly) (hwaiter : p.waiter ≠ .done) :
    .terminated ∉ p.inFlight := by
  intro hmem
  obtain ⟨front, rest, heq⟩ := List.append_of_mem hmem
  exact hwaiter (hp.last front rest heq).2

/-- "terminated" is not yet among the events. -/
theorem Orderly.last_of_not_done (hp : p.Orderly) (hwaiter : p.waiter ≠ .done) {e : LauncherEvent}
    (he : e ≠ .terminated) (front rest : List LauncherEvent) :
    (p.send e).inFlight ≠ front ++ .terminated :: rest := by
  intro heq
  have hmem : .terminated ∈ (p.send e).inFlight := by simp [heq]
  rw [inFlight_send, List.mem_append] at hmem
  rcases hmem with hmem | hmem
  · exact hp.not_terminated hwaiter hmem
  · split_ifs at hmem <;> simp_all

/-- **The workers are joined first.** -/
theorem Orderly.step (hp : p.Orderly) (hstep : p.step a = some p') : p'.Orderly := by
  cases a with
  | spawn redirectOutput =>
      simp only [LauncherProcess.step] at hstep
      split_ifs at hstep with hwaiter
      obtain rfl := Option.some.inj hstep
      refine ⟨nofun, nofun, nofun, fun front rest heq => ?_⟩
      exact absurd heq (hp.last_of_not_done (by simp [hwaiter]) (by simp) front rest)
  | output worker =>
      simp only [LauncherProcess.step] at hstep
      split_ifs at hstep with hworking hconnected
      · obtain rfl := Option.some.inj hstep
        have hwaiter : p.waiter ≠ .done := fun hdone => by
          simp [hp.joined (by simp [hdone, ExitWaiter.joined])] at hworking
        refine ⟨fun hidle => ?_, ?_, ?_, fun front rest heq => ?_⟩
        · have hnone := (hp.idle (by simpa using hidle)).2.2 worker
          simp [hworking] at hnone
        · simpa using hp.joining
        · simpa using hp.joined
        · exact absurd heq (hp.last_of_not_done hwaiter (by simp) front rest)
      · obtain rfl := Option.some.inj hstep
        exact hp
  | finish worker =>
      simp only [LauncherProcess.step] at hstep
      split_ifs at hstep with hworking
      obtain rfl := Option.some.inj hstep
      have hless : ∀ c, Function.update p.working worker false c = true → p.working c = true := by
        intro c hc
        by_cases heq : c = worker
        · simp [heq] at hc
        · simpa [heq] using hc
      refine ⟨fun hidle => ?_, fun workers hjoining c hc => ?_, fun hjoined c => ?_, hp.last⟩
      · have hnone := (hp.idle hidle).2.2 worker
        simp [hworking] at hnone
      · exact hp.joining workers hjoining c (hless c hc)
      · have hnone := hp.joined hjoined worker
        simp [hworking] at hnone
  | exit =>
      simp only [LauncherProcess.step] at hstep
      split_ifs at hstep with hwaiter
      obtain rfl := Option.some.inj hstep
      refine ⟨nofun, fun workers hjoining c _ => ?_, nofun, fun front rest heq => ?_⟩
      · obtain rfl : [Category.stdout, .stderr] = workers := by simpa using hjoining
        cases c <;> simp
      · exact absurd (hp.last front rest heq).2 (by simp [hwaiter])
  | join =>
      simp only [LauncherProcess.step] at hstep
      split at hstep
      · next worker workers hwaiter =>
        split_ifs at hstep with hworking
        obtain rfl := Option.some.inj hstep
        refine ⟨nofun, fun workers' hjoining c hc => ?_, nofun, fun front rest heq => ?_⟩
        · obtain rfl : workers = workers' := by simpa using hjoining
          rcases List.mem_cons.mp (hp.joining _ hwaiter c hc) with rfl | hmem
          · exact absurd hc hworking
          · exact hmem
        · exact absurd (hp.last front rest heq).2 (by simp [hwaiter])
      · next hwaiter =>
        obtain rfl := Option.some.inj hstep
        refine ⟨nofun, nofun, fun _ c => ?_, fun front rest heq => ?_⟩
        · by_contra hworking
          simpa using hp.joining [] hwaiter c (Bool.not_eq_false _ ▸ hworking)
        · exact absurd (hp.last front rest heq).2 (by simp [hwaiter])
      · simp at hstep
  | report =>
      simp only [LauncherProcess.step] at hstep
      split_ifs at hstep with hwaiter
      obtain rfl := Option.some.inj hstep
      refine ⟨nofun, nofun, fun _ c => ?_, fun front rest heq => ?_⟩
      · simpa using hp.joined (by simp [hwaiter, ExitWaiter.joined]) c
      · exact absurd heq (hp.last_of_not_done (by simp [hwaiter]) (by simp) front rest)
  | terminate =>
      simp only [LauncherProcess.step] at hstep
      split_ifs at hstep with hwaiter
      obtain rfl := Option.some.inj hstep
      have hno := hp.not_terminated (by simp [hwaiter])
      refine ⟨nofun, nofun, fun _ c => ?_, fun front rest heq => ⟨?_, rfl⟩⟩
      · simpa using hp.joined (by simp [hwaiter, ExitWaiter.joined]) c
      · have heq' : p.inFlight ++ (if p.connected then [.terminated] else []) =
            front ++ .terminated :: rest := inFlight_send _ p ▸ heq
        rcases List.eq_nil_or_concat rest with rfl | ⟨rest, last, rfl⟩
        · rfl
        · split_ifs at heq'
          · rw [List.concat_eq_append, ← List.cons_append, ← List.append_assoc] at heq'
            have hfront := (List.append_inj' heq' rfl).1
            exact absurd (by simp [hfront]) hno
          · rw [List.append_nil] at heq'
            exact absurd (by simp [heq']) hno
  | hangUp =>
      obtain rfl := Option.some.inj hstep
      exact ⟨hp.idle, hp.joining, hp.joined, hp.last⟩

/-- The events that are sent, as far as they are output. -/
theorem outputs_step (hstep : p.step a = some p') :
    ∃ outputs, p'.inFlight.filterMap LauncherEvent.output? =
        p.inFlight.filterMap LauncherEvent.output? ++ outputs ∧
      List.range p'.produced = List.range p.produced ++ outputs := by
  cases a with
  | output worker =>
      simp only [LauncherProcess.step] at hstep
      split_ifs at hstep with hworking hconnected
      · obtain rfl := Option.some.inj hstep
        refine ⟨[p.produced], ?_, List.range_succ⟩
        simp [inFlight_send, hconnected, LauncherEvent.output?]
      · obtain rfl := Option.some.inj hstep
        exact ⟨[], by simp⟩
  | join =>
      simp only [LauncherProcess.step] at hstep
      refine ⟨[], ?_⟩
      split at hstep
      · split_ifs at hstep
        obtain rfl := Option.some.inj hstep
        simp
      · obtain rfl := Option.some.inj hstep
        simp
      · simp at hstep
  | hangUp =>
      obtain rfl := Option.some.inj hstep
      exact ⟨[], by simp⟩
  | finish worker | exit =>
      refine ⟨[], ?_⟩
      simp only [LauncherProcess.step] at hstep
      split_ifs at hstep
      obtain rfl := Option.some.inj hstep
      simp
  | spawn redirectOutput | report | terminate =>
      refine ⟨[], ?_⟩
      simp only [LauncherProcess.step] at hstep
      split_ifs at hstep
      obtain rfl := Option.some.inj hstep
      simp only [inFlight_send, produced_send, List.filterMap_append, List.append_nil, and_true]
      split_ifs <;> simp [LauncherEvent.output?]

end LauncherProcess

end Ptvsd
