import Mathlib.Logic.Function.Basic
import Ptvsd.Machine
import Ptvsd.Servers

/-!
# Finalizing a Session

A debug session and the threads that work on it: the handler threads of the IDE, of the
launcher, and of the debug servers that are connected to the adapter. All handlers hold the
lock of the session, so that one step is what a handler does until it ends, or until it
releases the lock in `Session.wait_for`. The block of `attach_to_session` is a step of its
own, and so is what comes before it; while the handler waits for a connection in between, it
keeps the lock.

What a handler does apart from the components, and whether it succeeds, is left open. Other
sessions are present in that connections may belong to them.

## Main results

* `finalizations_le_one`: a session is finalized at most once, in every run.
* `finalized_clean`: from then on no server is attached to it, in all runs in which
  `attach_to_session` is called only while the session is not being finalized.
* `late_attach`: a server that is attached later is left attached.
-/

namespace Ptvsd

/-! ### Components -/

/-- The component for the launcher. -/
structure Launcher where
  isConnected : Bool
  /-- `pid`, as reported by the "process" event. -/
  pid : Option ℤ
  /-- `exit_code`, as reported by the "exited" event. -/
  exitCode : Option ℤ

/-- The component for a debug server. -/
structure Server where
  isConnected : Bool
  connection : Connection

/-- The `server` of a connection: a component of this session, or of another one. -/
inductive Owner where
  | none
  | here
  | elsewhere
  deriving DecidableEq

/-- Where the handler thread of the IDE is. -/
inductive IDEThread where
  /-- Waiting for the next message. -/
  | idle
  /-- In `spawn_debuggee`, waiting for the "process" event of the launcher. -/
  | launching
  /-- In `servers.wait_for_connection`. -/
  | connecting (predicate : Connection → Bool)
  /-- About to attach to this connection. -/
  | found (conn : Connection)
  /-- In `Session.finalize`. -/
  | finalizing
  /-- The IDE has disconnected, and that was handled. -/
  | ended

/-- What `Session._finalize` is waiting for. -/
inductive Stage where
  /-- The "exited" event of the launcher. -/
  | exited
  /-- The launcher to disconnect. -/
  | disconnected
  deriving DecidableEq

/-- A session, and the connections of the adapter. -/
structure Session where
  /-- `ide.is_connected`. -/
  ideConnected : Bool
  ide : IDEThread
  launcher : Option Launcher
  server : Option Server
  /-- `is_finalizing`. -/
  isFinalizing : Bool
  /-- Where the one thread is that executes `_finalize`, if it is blocked there. -/
  stage : Option Stage
  /-- `_finalize` has returned. -/
  finalized : Bool
  /-- How often `_finalize` was called. -/
  finalizations : ℕ
  /-- `servers._connections`. -/
  connections : List Connection
  /-- The connections whose channels have disconnected. -/
  gone : List ℕ
  /-- `conn.server`. -/
  owner : ℕ → Owner
  /-- The process has terminated. -/
  exited : Bool

namespace Session

/-- A session when its IDE has connected. -/
def init : Session where
  ideConnected := true
  ide := .idle
  launcher := none
  server := none
  isFinalizing := false
  stage := none
  finalized := false
  finalizations := 0
  connections := []
  gone := []
  owner := fun _ => .none
  exited := false

/-- The lock of the session is held by the handler thread of the IDE between two steps. -/
def locked (s : Session) : Bool :=
  match s.ide with
  | .connecting _ => true
  | .found _ => true
  | _ => false

/-! ### Finalizing -/

/-- `Server.detach_from_session`. -/
def detachFromSession (s : Session) : Session :=
  match s.server with
  | some server =>
      { s with
        server := some { server with isConnected := false }
        owner := Function.update s.owner server.connection.id .none }
  | none => s

/-- The rest of `_finalize`, once the launcher does not matter any more. -/
def finish (s : Session) : Session := { s with stage := none, finalized := true }

/-- `_finalize`, up to the first wait. -/
def finalizeComponents (s : Session) : Session :=
  let s := s.detachFromSession
  match s.launcher with
  | some launcher =>
      if launcher.isConnected then
        if s.server.isSome && launcher.exitCode.isNone then { s with stage := some .exited }
        else { s with stage := some .disconnected }
      else s.finish
  | none => s.finish

/-- `Session.finalize`, up to the first wait. -/
def finalize (s : Session) : Session :=
  if s.isFinalizing then s
  else
    finalizeComponents
      { s with isFinalizing := true, finalizations := s.finalizations + 1 }

/-- The handler thread of the IDE after a handler has ended. -/
def ideReturns (s : Session) : Session :=
  { s with ide := if s.ideConnected then .idle else .ended }

/-- `Session.finalize`, called by a handler of the IDE. -/
def ideFinalize (s : Session) : Session :=
  if s.isFinalizing then s.ideReturns
  else
    let s := s.finalize
    if s.stage.isSome then { s with ide := .finalizing } else s.ideReturns

/-- `_finalize` ends, and so does the handler of the IDE if it was the one to call it. -/
def resumeFinish (s : Session) : Session :=
  match s.ide with
  | .finalizing => s.finish.ideReturns
  | _ => s.finish

/-- `_finalize` goes on after a wait. -/
def resume (s : Session) (timedOut : Bool) : Option Session :=
  match s.stage, s.launcher with
  | some .exited, some launcher =>
      if launcher.exitCode.isSome || timedOut then
        if launcher.isConnected then some { s with stage := some .disconnected }
        else some s.resumeFinish
      else none
  | some .disconnected, some launcher =>
      if launcher.isConnected then none else some s.resumeFinish
  | _, _ => none

/-! ### Starting -/

/-- The launcher when it has connected. -/
def newLauncher : Launcher := ⟨true, none, none⟩

/-- `Connection.attach_to_session`, and the rest of the handler of the IDE. If the connection
belongs to a session already, the handler of "attach" reports that; that of "launch", which
has a launcher, lets the exception end the process. `Server.__init__` asserts that there is
no server yet. -/
def attachToSession (conn : Connection) (s : Session) : Session :=
  if s.owner conn.id ≠ .none then { s.ideReturns with exited := s.launcher.isSome }
  else if s.server.isSome then { s with exited := true }
  else
    { s.ideReturns with
      server := some ⟨true, conn⟩
      owner := Function.update s.owner conn.id .here }

/-! ### Steps -/

/-- What happens to a session. -/
inductive Action where
  /-- The IDE requests "launch", and a launcher is spawned; `waits` says whether the handler
  goes on to wait for the debuggee, because there is to be a server and nothing failed. -/
  | launch (waits : Bool)
  /-- `Session.wait_for` returns in `spawn_debuggee`. -/
  | launched (timedOut : Bool)
  /-- The IDE requests "attach"; the handler waits for a connection like this. -/
  | attach (predicate : Connection → Bool)
  /-- `servers.wait_for_connection` returns. -/
  | waited (timedOut : Bool)
  /-- `attach_to_session` is called. -/
  | attachToSession
  /-- The IDE requests "terminate" or "disconnect". -/
  | terminate
  /-- The IDE disconnects. -/
  | ideDisconnect
  /-- The launcher sends "process". -/
  | process (pid : ℤ)
  /-- The launcher sends "exited". -/
  | exited (exitCode : ℤ)
  /-- The launcher disconnects. -/
  | launcherDisconnect
  /-- A debug server connects. -/
  | connect (conn : Connection)
  /-- A debug server disconnects. -/
  | disconnect (conn : Connection)
  /-- Another session attaches to a connection. -/
  | attachElsewhere (conn : Connection)
  /-- Another session detaches from a connection. -/
  | detachElsewhere (conn : Connection)
  /-- `_finalize` goes on after a wait. -/
  | resume (timedOut : Bool)

/-- A step of the handler thread of the IDE. -/
def ideStep (s : Session) (a : Action) : Option Session :=
  match a, s.ide with
  | .launch waits, .idle =>
      if s.launcher.isNone && s.server.isNone then
        some { s with
          launcher := some newLauncher
          ide := if waits then .launching else .idle }
      else none
  | .launched timedOut, .launching =>
      if s.launcher.any fun launcher => launcher.pid.isSome then
        some { s with ide := .connecting fun _ => true }
      else if timedOut then some s.ideReturns
      else none
  | .attach predicate, .idle =>
      if s.launcher.isNone && s.server.isNone then
        some { s with ide := .connecting predicate }
      else none
  | .waited timedOut, .connecting predicate =>
      match s.connections.find? predicate with
      | some conn => some { s with ide := .found conn }
      | none => if timedOut then some s.ideReturns else none
  | .attachToSession, .found conn => some (s.attachToSession conn)
  | .terminate, .idle => some s.ideFinalize
  | .ideDisconnect, .idle => some { s with ideConnected := false }.ideFinalize
  | _, _ => none

/-- A step of the handler thread of the launcher. -/
def launcherStep (s : Session) (a : Action) : Option Session :=
  match s.launcher with
  | some launcher =>
      if launcher.isConnected && !s.locked then
        match a with
        | .process pid => some { s with launcher := some { launcher with pid := some pid } }
        | .exited exitCode =>
            some { s with launcher := some { launcher with exitCode := some exitCode } }
        | .launcherDisconnect =>
            some { s with launcher := some { launcher with isConnected := false } }.finalize
        | _ => none
      else none
  | none => none

/-- `Connection.disconnect` or `Server.disconnect`. -/
def disconnect (conn : Connection) (s : Session) : Option Session :=
  let removed : Session :=
    { s with connections := s.connections.erase conn, gone := conn.id :: s.gone }
  match s.owner conn.id with
  | .here =>
      if s.locked then none
      else
        some (finalize { removed with
          server := removed.server.map fun server => { server with isConnected := false } })
  | _ => some removed

/-- The step of the session under an action. -/
def step (s : Session) (a : Action) : Option Session :=
  if s.exited then none
  else
    match a with
    | .process _ => s.launcherStep a
    | .exited _ => s.launcherStep a
    | .launcherDisconnect => s.launcherStep a
    | .connect conn =>
        if conn.id ∈ s.gone ∨ s.connections.any (fun c => c.pid = conn.pid ∨ c.id = conn.id) then
          none
        else some { s with connections := s.connections ++ [conn] }
    | .disconnect conn => if conn.id ∈ s.gone then none else s.disconnect conn
    | .attachElsewhere conn =>
        if s.owner conn.id = .none then
          some { s with owner := Function.update s.owner conn.id .elsewhere }
        else none
    | .detachElsewhere conn =>
        if s.owner conn.id = .elsewhere then
          some { s with owner := Function.update s.owner conn.id .none }
        else none
    | .resume timedOut => if s.locked then none else s.resume timedOut
    | a => s.ideStep a

end Session

/-- A session of the adapter. -/
def session : Machine Session Session.Action where
  start s := s = .init
  step := Session.step

namespace Session

variable {s s' r : Session} {a : Action} {conn : Connection}

/-! ### What the steps do to an attached server -/

/-- A server belongs to the session: it is connected, and its connection knows it. -/
def Attached (s : Session) : Prop :=
  ∃ server, s.server = some server ∧ server.isConnected = true ∧
    s.owner server.connection.id = .here

/-- From `s` to `r`, nothing is finalized and nothing is attached. -/
structure Calm (s r : Session) : Prop where
  isFinalizing : r.isFinalizing = s.isFinalizing
  finalizations : r.finalizations = s.finalizations
  finalized : r.finalized = s.finalized
  stage : r.stage.isSome = true → s.stage.isSome = true
  attached : r.Attached → s.Attached

theorem Calm.ideReturns (s : Session) : s.Calm s.ideReturns := ⟨rfl, rfl, rfl, id, id⟩

/-- What a step does, as far as finalizing and attaching are concerned. -/
inductive Effect (s : Session) : Action → Session → Prop
  | calm {a : Action} {r : Session} : s.Calm r → Effect s a r
  | finalize {a : Action} {r : Session} : s.Calm r → Effect s a r.finalize
  | ideFinalize {a : Action} {r : Session} : s.Calm r → Effect s a r.ideFinalize
  | finish {a : Action} : s.stage.isSome = true → Effect s a s.resumeFinish
  | attach {conn : Connection} : Effect s .attachToSession (s.attachToSession conn)

theorem resume_effect {timedOut : Bool} (h : s.resume timedOut = some s') : Effect s a s' := by
  rw [resume] at h
  split at h
  case h_1 hstage _ =>
    split_ifs at h
    · obtain rfl := Option.some.inj h
      exact .calm ⟨rfl, rfl, rfl, fun _ => by simp [hstage], id⟩
    · obtain rfl := Option.some.inj h
      exact .finish (by simp [hstage])
  case h_2 hstage _ =>
    split_ifs at h
    obtain rfl := Option.some.inj h
    exact .finish (by simp [hstage])
  case h_3 => simp at h

theorem disconnect_effect (h : s.disconnect conn = some s') : Effect s a s' := by
  rw [disconnect] at h
  dsimp only at h
  split at h
  · split_ifs at h
    obtain rfl := Option.some.inj h
    refine .finalize ⟨rfl, rfl, rfl, id, ?_⟩
    -- the server is not connected any more
    rintro ⟨server, hserver, hconnected, -⟩
    obtain ⟨server', -, rfl⟩ := Option.map_eq_some_iff.mp hserver
    simp at hconnected
  · obtain rfl := Option.some.inj h
    exact .calm ⟨rfl, rfl, rfl, id, id⟩

/-- Other sessions do not change what belongs to this one. -/
theorem owner_calm {id : ℕ} {owner : Owner} (howner : owner ≠ .here) :
    s.Calm { s with owner := Function.update s.owner id owner } := by
  refine ⟨rfl, rfl, rfl, fun h => h, ?_⟩
  rintro ⟨server, hserver, hconnected, hhere⟩
  refine ⟨server, hserver, hconnected, ?_⟩
  by_cases hid : server.connection.id = id
  · simp [hid, howner] at hhere
  · simpa [hid] using hhere

theorem launcherStep_effect (h : s.launcherStep a = some s') : Effect s a s' := by
  rw [launcherStep] at h
  split at h
  · split_ifs at h
    split at h
    · obtain rfl := Option.some.inj h
      exact .calm ⟨rfl, rfl, rfl, id, id⟩
    · obtain rfl := Option.some.inj h
      exact .calm ⟨rfl, rfl, rfl, id, id⟩
    · obtain rfl := Option.some.inj h
      exact .finalize ⟨rfl, rfl, rfl, id, id⟩
    · simp at h
  · simp at h

theorem ideStep_effect (h : s.ideStep a = some s') : Effect s a s' := by
  unfold ideStep at h
  split at h
  case h_1 =>
    split at h
    · obtain rfl := Option.some.inj h
      exact .calm ⟨rfl, rfl, rfl, id, id⟩
    · simp at h
  case h_2 =>
    split_ifs at h
    · obtain rfl := Option.some.inj h
      exact .calm ⟨rfl, rfl, rfl, id, id⟩
    · obtain rfl := Option.some.inj h
      exact .calm (.ideReturns s)
  case h_3 =>
    split_ifs at h
    obtain rfl := Option.some.inj h
    exact .calm ⟨rfl, rfl, rfl, id, id⟩
  case h_4 =>
    split at h
    · obtain rfl := Option.some.inj h
      exact .calm ⟨rfl, rfl, rfl, id, id⟩
    · split_ifs at h
      obtain rfl := Option.some.inj h
      exact .calm (.ideReturns s)
  case h_5 =>
    obtain rfl := Option.some.inj h
    exact .attach
  case h_6 =>
    obtain rfl := Option.some.inj h
    exact .ideFinalize ⟨rfl, rfl, rfl, id, id⟩
  case h_7 =>
    obtain rfl := Option.some.inj h
    exact .ideFinalize ⟨rfl, rfl, rfl, id, id⟩
  case h_8 => simp at h

/-- **Every step has one of the effects.** -/
theorem step_effect (h : s.step a = some s') : Effect s a s' := by
  have hexited : ¬ s.exited = true := fun hexited => by simp [step, hexited] at h
  cases a with
  | process | exited | launcherDisconnect =>
      simp only [step, if_neg hexited] at h
      exact launcherStep_effect h
  | connect conn =>
      simp only [step, if_neg hexited] at h
      split_ifs at h
      obtain rfl := Option.some.inj h
      exact .calm ⟨rfl, rfl, rfl, id, id⟩
  | disconnect conn =>
      simp only [step, if_neg hexited] at h
      split_ifs at h
      exact disconnect_effect h
  | attachElsewhere conn | detachElsewhere conn =>
      simp only [step, if_neg hexited] at h
      split_ifs at h
      obtain rfl := Option.some.inj h
      exact .calm (owner_calm (by simp))
  | resume timedOut =>
      simp only [step, if_neg hexited] at h
      split_ifs at h
      exact resume_effect h
  | launch | launched | attach | waited | attachToSession | terminate | ideDisconnect =>
      simp only [step, if_neg hexited] at h
      exact ideStep_effect h

/-! ### How often a session is finalized -/

/-- `_finalize` is called when `is_finalizing` is set, and at no other time. -/
structure Counted (s : Session) : Prop where
  count : s.finalizations = if s.isFinalizing then 1 else 0
  stage : s.stage.isSome = true → s.isFinalizing = true
  finalized : s.finalized = true → s.isFinalizing = true

theorem Counted.calm (hs : s.Counted) (h : s.Calm r) : r.Counted := by
  refine ⟨?_, fun hstage => ?_, fun hfinalized => ?_⟩
  · rw [h.finalizations, h.isFinalizing]
    exact hs.count
  · rw [h.isFinalizing]
    exact hs.stage (h.stage hstage)
  · rw [h.isFinalizing]
    exact hs.finalized (h.finalized ▸ hfinalized)

/-- The first part of `_finalize` detaches the server. -/
theorem not_attached_detachFromSession (s : Session) : ¬ s.detachFromSession.Attached := by
  rintro ⟨server, hserver, hconnected, -⟩
  rw [detachFromSession] at hserver
  split at hserver
  case h_1 => simp [← Option.some.inj hserver] at hconnected
  case h_2 h => simp [h] at hserver

/-- What `_finalize` does up to its first wait. -/
theorem finalizeComponents_spec (s : Session) :
    s.finalizeComponents.isFinalizing = s.isFinalizing ∧
      s.finalizeComponents.finalizations = s.finalizations ∧
      ¬ s.finalizeComponents.Attached := by
  have hdetached := s.not_attached_detachFromSession
  have hsame : s.detachFromSession.isFinalizing = s.isFinalizing ∧
      s.detachFromSession.finalizations = s.finalizations := by
    rw [detachFromSession]
    split <;> exact ⟨rfl, rfl⟩
  obtain ⟨hfinalizing, hcount⟩ := hsame
  unfold finalizeComponents
  dsimp only
  split
  · split_ifs <;> exact ⟨hfinalizing, hcount, hdetached⟩
  · exact ⟨hfinalizing, hcount, hdetached⟩

/-- `finalize()` is without effect if it was called before; else it detaches the server. -/
theorem finalize_cases (s : Session) :
    s.isFinalizing = true ∧ s.finalize = s ∨
      s.isFinalizing = false ∧ s.finalize.isFinalizing = true ∧
        s.finalize.finalizations = s.finalizations + 1 ∧ ¬ s.finalize.Attached := by
  rw [finalize]
  split_ifs with hfinalizing
  · exact Or.inl ⟨hfinalizing, rfl⟩
  · exact Or.inr ⟨Bool.eq_false_iff.mpr hfinalizing, finalizeComponents_spec _⟩

/-- A handler of the IDE that finalizes the session does nothing else. -/
theorem ideFinalize_calm (s : Session) : s.finalize.Calm s.ideFinalize := by
  rw [ideFinalize]
  dsimp only
  split_ifs with hfinalizing
  · rw [finalize, if_pos hfinalizing]
    exact .ideReturns s
  · exact ⟨rfl, rfl, rfl, id, id⟩
  · exact .ideReturns _

theorem finalize_counted (hs : s.Counted) : s.finalize.Counted := by
  rcases s.finalize_cases with ⟨-, heq⟩ | ⟨hbefore, hfinalizing, hcount, -⟩
  · exact heq.symm ▸ hs
  · refine ⟨?_, fun _ => hfinalizing, fun _ => hfinalizing⟩
    rw [hcount, hs.count, hbefore, hfinalizing]
    rfl

/-- When `_finalize` returns, nothing but `finalized` changes. -/
theorem resumeFinish_spec (s : Session) : s.finish.Calm s.resumeFinish := by
  rw [resumeFinish]
  split
  · exact .ideReturns _
  · exact ⟨rfl, rfl, rfl, id, id⟩

theorem counted_step (hs : s.Counted) (h : s.step a = some s') : s'.Counted := by
  cases step_effect h with
  | calm hr => exact hs.calm hr
  | finalize hr => exact finalize_counted (hs.calm hr)
  | @ideFinalize _ r hr => exact (finalize_counted (hs.calm hr)).calm r.ideFinalize_calm
  | finish hstage =>
      have hfinalizing := hs.stage hstage
      have hfinish : s.finish.Counted :=
        ⟨hs.count, fun _ => hfinalizing, fun _ => hfinalizing⟩
      exact hfinish.calm s.resumeFinish_spec
  | attach =>
      rw [attachToSession]
      split_ifs <;> exact ⟨hs.count, hs.stage, hs.finalized⟩

theorem counted_invariant : session.Invariant Counted := by
  refine ⟨?_, counted_step⟩
  rintro s rfl
  exact ⟨rfl, fun h => by simp [init] at h, fun h => by simp [init] at h⟩

/-- **A session is finalized at most once**, in every run. -/
theorem finalizations_le_one (h : session.Reachable s) : s.finalizations ≤ 1 := by
  rw [(counted_invariant.of_reachable h).count]
  split_ifs <;> simp

/-! ### Servers that are attached too late -/

/-- Since finalizing began, no server is attached. -/
def Detached (s : Session) : Prop := s.isFinalizing = true → ¬ s.Attached

theorem Detached.calm (hs : s.Detached) (h : s.Calm r) : r.Detached :=
  fun hfinalizing hattached => hs (h.isFinalizing ▸ hfinalizing) (h.attached hattached)

theorem finalize_detached (hs : s.Detached) : s.finalize.Detached := by
  rcases s.finalize_cases with ⟨-, heq⟩ | ⟨-, -, -, hdetached⟩
  · exact heq.symm ▸ hs
  · exact fun _ => hdetached

/-- The condition on the steps of a run under which the session is left clean:
`attach_to_session` is called only while the session is not being finalized. -/
def AttachesInTime (s : Session) : Action → Prop
  | .attachToSession => s.isFinalizing = false
  | _ => True

theorem detached_step (hs : s.Detached) (hC : AttachesInTime s a) (h : s.step a = some s') :
    s'.Detached := by
  cases step_effect h with
  | calm hr => exact hs.calm hr
  | finalize hr => exact finalize_detached (hs.calm hr)
  | @ideFinalize _ r hr => exact (finalize_detached (hs.calm hr)).calm r.ideFinalize_calm
  | finish => exact Detached.calm (s := s.finish) hs s.resumeFinish_spec
  | @attach conn =>
      have hfinalizing : (s.attachToSession conn).isFinalizing = false := by
        rw [attachToSession]
        split_ifs <;> exact hC
      exact fun h => by simp [hfinalizing] at h

/-! ### Sessions that are over -/

/-- The session is finalized at most once; when that is done and the IDE has disconnected, no
server belongs to the session; and none does that was not detached by then. -/
structure Clean (s : Session) : Prop where
  once : s.finalizations ≤ 1
  afterwards : s.finalized = true → s.ideConnected = false → ¬ s.Attached
  detached : s.isFinalizing = true → ¬ s.Attached

/-- **A session is left clean**, in all runs in which no server is attached to it while it is
being finalized, or after that. -/
theorem finalized_clean (h : session.ReachableWithin AttachesInTime s) : s.Clean := by
  have hinv : session.InvariantWithin AttachesInTime Detached := by
    refine ⟨?_, detached_step⟩
    rintro s rfl hfinalizing
    simp [init] at hfinalizing
  have hcounted := counted_invariant.of_reachable h.reachable
  have hdetached := hinv.of_reachable h
  exact ⟨finalizations_le_one h.reachable,
    fun hfinalized _ => hdetached (hcounted.finalized hfinalized), hdetached⟩

/-- A session from "launch" to the end: the debuggee exits, and the server disconnects; then
the launcher does, and then the IDE. -/
theorem finalized_clean_launch :
    ∃ s, session.run init [.launch true, .process 1234, .connect Servers.debugServer,
        .launched false, .waited false, .attachToSession, .disconnect Servers.debugServer,
        .exited 0, .resume false, .launcherDisconnect, .resume false, .terminate,
        .ideDisconnect] = some s ∧
      s.finalized = true ∧ s.ideConnected = false ∧ s.Clean := by
  have hC : session.StepsWithin AttachesInTime init
      [.launch true, .process 1234, .connect Servers.debugServer, .launched false, .waited false,
        .attachToSession, .disconnect Servers.debugServer, .exited 0, .resume false,
        .launcherDisconnect, .resume false, .terminate, .ideDisconnect] :=
    .cons trivial rfl (.cons trivial rfl (.cons trivial rfl (.cons trivial rfl
      (.cons trivial rfl (.cons rfl rfl (.cons trivial rfl (.cons trivial rfl
        (.cons trivial rfl (.cons trivial rfl (.cons trivial rfl (.cons trivial rfl
          (.cons trivial rfl trivial))))))))))))
  have hrun : ∃ s, session.run init [.launch true, .process 1234, .connect Servers.debugServer,
      .launched false, .waited false, .attachToSession, .disconnect Servers.debugServer, .exited 0,
      .resume false, .launcherDisconnect, .resume false, .terminate, .ideDisconnect] = some s ∧
      s.finalized = true ∧ s.ideConnected = false := ⟨_, rfl, rfl, rfl⟩
  obtain ⟨s, hs, hfinalized, hide⟩ := hrun
  exact ⟨s, hs, hfinalized, hide,
    finalized_clean (Machine.ReachableWithin.run (.start rfl) hC hs)⟩

/-- **A server is attached to a session that is over**: the launcher disconnects while the
handler of "launch" has released the lock; the session is finalized without a server, and the
handler then attaches one. -/
theorem not_finalized_clean : ¬ ∀ s, session.Reachable s → s.Clean := by
  intro h
  have hrun : ∃ s, session.run init [.launch true, .process 1234, .launcherDisconnect,
      .connect Servers.debugServer, .launched false, .waited false, .attachToSession,
      .ideDisconnect] = some s ∧
      s.finalized = true ∧ s.ideConnected = false ∧ s.server = some ⟨true, Servers.debugServer⟩ ∧
      s.owner Servers.debugServer.id = .here := ⟨_, rfl, rfl, rfl, rfl, rfl⟩
  obtain ⟨s, hs, hfinalized, hide, hserver, howner⟩ := hrun
  have hreach : session.Reachable s := Machine.reachable_iff_run.mpr ⟨_, _, rfl, hs⟩
  exact (h s hreach).afterwards hfinalized hide ⟨_, hserver, rfl, howner⟩

/-- **The condition is needed**: a server that is attached while the session is being
finalized, or after that, is left attached. -/
theorem late_attach (hfinalizing : s.isFinalizing = true) (hide : s.ide = .found conn)
    (howner : s.owner conn.id = .none) (hserver : s.server = none)
    (h : s.step .attachToSession = some s') :
    s'.isFinalizing = true ∧ s'.Attached := by
  have hexited : ¬ s.exited = true := fun hexited => by simp [step, hexited] at h
  simp only [step, if_neg hexited, ideStep, hide, attachToSession, howner, ne_eq,
    not_true_eq_false, if_false, hserver, Option.isSome_none, Bool.false_eq_true] at h
  obtain rfl := Option.some.inj h
  exact ⟨hfinalizing, _, rfl, rfl, by simp⟩

end Session

end Ptvsd
