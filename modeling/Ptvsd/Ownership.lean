import Mathlib.Data.List.Pairwise
import Ptvsd.AdapterSteps

/-!
# Who Owns a Connection

A connection belongs to a session as long as a `Server` component of that session has it. A
session finds a connection and attaches to it in two separate steps, and in between anything
may happen to the connection: `attach_to_session` checks that it does not belong to another
session by then, but not that it is still there.

## Main results

* `Ordered`, `Owned`: what holds of the list of the connections, and of the connections and
  their servers, in every run.
* `consistent`: no server is created for a connection that is gone, and every session is told
  when its server is gone, in all runs in which `attach_to_session` comes before the disconnect
  of the connection is handled.
* `not_consistent`: the disconnect can be handled between finding the connection and attaching
  to it.
-/

namespace Ptvsd

namespace Adapter

variable {tokens : Tokens} {s s' t : Adapter} {a : Action} {c v k : ℕ}

/-! ### The list of the connections -/

/-- The connection that the thread is about to register. -/
def AcceptThread.pending : AcceptThread → Option ℕ
  | .authenticating c => some c
  | .querying c => some c
  | .injecting c => some c
  | .registering c => some c
  | _ => none

/-- The list is in the order of connecting, and the pids are distinct; the connection that is
about to be registered is the newest one. -/
structure Ordered (s : Adapter) : Prop where
  sorted : s.connections.Pairwise (· < ·)
  pids : s.connections.Pairwise fun c d => (s.conns c).pid ≠ (s.conns d).pid
  bound : ∀ c ∈ s.connections, c < s.accepted
  pending : ∀ c, s.acceptThread.pending = some c → c < s.accepted ∧ ∀ d ∈ s.connections, d < c

/-- Connections may go, and keep their processes. -/
theorem Ordered.frame (hs : s.Ordered) (hconnections : s'.connections.Sublist s.connections)
    (haccepted : s'.accepted = s.accepted)
    (hpending : ∀ c, s'.acceptThread.pending = some c → s.acceptThread.pending = some c)
    (hpid : ∀ c ∈ s.connections, (s'.conns c).pid = (s.conns c).pid) : s'.Ordered := by
  refine ⟨hs.sorted.sublist hconnections, ?_, fun c hc => ?_, fun c hc => ?_⟩
  · refine (hs.pids.imp_of_mem fun hc hd hne => ?_).sublist hconnections
    rwa [hpid _ hc, hpid _ hd]
  · exact haccepted ▸ hs.bound c (hconnections.subset hc)
  · obtain ⟨hlt, hall⟩ := hs.pending c (hpending c hc)
    exact ⟨haccepted ▸ hlt, fun d hd => hall d (hconnections.subset hd)⟩

/-- The steps that leave the reports of the servers alone. -/
theorem Ordered.steady (hs : s.Ordered) (h : s.Steady s') : s'.Ordered :=
  hs.frame h.connections h.accepted (fun _ hc => h.acceptThread ▸ hc) fun c _ => h.pid c

/-- The thread has nothing to register any more. -/
theorem Ordered.settle (hs : s.Ordered) (haccepted : s'.accepted = s.accepted)
    (hconnections : s'.connections = s.connections) (hpid : s'.conns = s.conns)
    (hthread : s'.acceptThread.pending = none) : s'.Ordered :=
  hs.frame (hconnections ▸ .refl _) haccepted (fun c hc => by simp [hthread] at hc)
    fun c _ => hpid ▸ rfl

/-- A connection is added at the end of the list. -/
theorem Ordered.register (hs : s.Ordered) (h : s.acceptThread = .registering c) :
    (s.next tokens (.register c)).Ordered := by
  have hc := hs.pending c (by rw [h]; rfl)
  simp only [next]
  split_ifs with _ hpid
  · exact hs.settle rfl rfl rfl rfl
  · exact hs.settle rfl rfl rfl rfl
  · have hnew : s.connections.Pairwise (fun c d => (s.conns c).pid ≠ (s.conns d).pid) ∧
        ∀ d ∈ s.connections, (s.conns d).pid ≠ (s.conns c).pid :=
      ⟨hs.pids, by simpa using hpid⟩
    refine ⟨?_, ?_, fun d hd => ?_, fun d hd => by simp [AcceptThread.pending] at hd⟩
    · exact List.pairwise_append.mpr ⟨hs.sorted, List.pairwise_singleton _ _, by simpa using hc.2⟩
    · exact List.pairwise_append.mpr ⟨hnew.1, List.pairwise_singleton _ _, by simpa using hnew.2⟩
    · rcases List.mem_append.mp hd with hd | hd
      · exact hs.bound d hd
      · exact List.mem_singleton.mp hd ▸ hc.1

/-- **A step keeps the order.** -/
theorem ordered_step (hs : s.Ordered) (h : s.step tokens a = some s') : s'.Ordered := by
  obtain ⟨-, henabled, rfl⟩ := step_eq_some.mp h
  cases a with
  | accept =>
      refine ⟨hs.sorted, hs.pids, fun c hc => (hs.bound c hc).trans (Nat.lt_succ_self _), ?_⟩
      intro c hc
      obtain rfl : s.accepted = c := Option.some.inj hc
      exact ⟨Nat.lt_succ_self _, hs.bound⟩
  | authorize c response =>
      have hthread : s.acceptThread = .authenticating c := by simpa [enabled] using henabled
      have hpid : ∀ d, ((s.next tokens (.authorize c response)).conns d).pid = (s.conns d).pid := by
        intro d
        by_cases hd : d = c
        · subst hd
          simp [next, setConnection]
        · simp [next, setConnection, hd]
      by_cases hauthenticate : tokens.authenticate response = true
      · refine hs.frame (.refl _) rfl (fun d hd => ?_) fun d _ => hpid d
        rw [hthread]
        simp only [next, hauthenticate, if_true] at hd
        exact hd
      · refine hs.frame (.refl _) rfl (fun d hd => ?_) fun d _ => hpid d
        simp [next, hauthenticate, AcceptThread.pending] at hd
  | report c info =>
      have hthread : s.acceptThread = .querying c := by simpa [enabled] using henabled
      have hc := hs.pending c (by rw [hthread]; rfl)
      cases info with
      | none => exact hs.settle rfl rfl rfl rfl
      | some info =>
          refine hs.frame (.refl _) rfl (fun d hd => hthread ▸ hd) fun d hd => ?_
          -- the connection is not in the list yet
          have hne : d ≠ c := (hc.2 d hd).ne
          simp [next, setConnection, hne]
  | inject c answered =>
      have hthread : s.acceptThread = .injecting c := by simpa [enabled] using henabled
      cases answered with
      | true => exact hs.frame (.refl _) rfl (fun d hd => hthread ▸ hd) fun d _ => rfl
      | false => exact hs.settle rfl rfl rfl rfl
  | register c => exact hs.register (by simpa [enabled] using henabled)
  | lookUp c k => cases k <;> exact hs.settle rfl rfl rfl rfl
  | notify c k | send c k =>
      simp only [next]
      split_ifs <;> exact hs.settle rfl rfl rfl rfl
  | exit | receive | handle | disconnect | connectIDE | attachToSession | start | fail
  | detach | session => exact hs.steady (steady_next rfl)

/-! ### Connections and their servers -/

/-- A connection and the `Server` component that it belongs to know each other, and so do the
component and its session. -/
structure Owned (s : Adapter) : Prop where
  owner : ∀ c v, (s.conns c).server = some v → v < s.created ∧ (s.servers v).connection = c ∧
    (s.sessions (s.servers v).session).server = some v
  handlers : ∀ c, (s.conns c).handlers = (s.conns c).server
  session : ∀ k v, (s.sessions k).server = some v → v < s.created ∧ (s.servers v).session = k
  connected : ∀ v, v < s.created → (s.servers v).isConnected = true →
    (s.conns (s.servers v).connection).server = some v
  /-- Only `_finalize` takes the server away from the connection. -/
  attached : ∀ k v, (s.sessions k).server = some v →
    ((s.sessions k).isFinalizing = false ∨ (s.sessions k).detaching = true) →
      (s.conns (s.servers v).connection).server = some v
  detaching : ∀ k, (s.sessions k).detaching = true → (s.sessions k).isFinalizing = true
  finalized : ∀ v, v < s.created → (s.servers v).isConnected = false →
    (s.sessions (s.servers v).session).isFinalizing = true

/-- The steps that leave the ownership alone. -/
theorem Owned.quiet (hs : s.Owned) (h : s.Quiet s') : s'.Owned := by
  refine ⟨fun c v hv => ?_, fun c => ?_, fun k v hv => ?_, fun v hv hv' => ?_,
    fun k v hv hk => ?_, fun k => ?_, fun v hv hv' => ?_⟩
  · rw [h.server] at hv
    rw [h.created, h.servers, (h.sessions _).server]
    exact hs.owner c v hv
  · rw [h.handlers, h.server]
    exact hs.handlers c
  · rw [(h.sessions k).server] at hv
    rw [h.created, h.servers]
    exact hs.session k v hv
  · rw [h.created] at hv
    rw [h.servers] at hv'
    rw [h.server, h.servers]
    exact hs.connected v hv hv'
  · rw [(h.sessions k).server] at hv
    rw [h.server, h.servers]
    exact hs.attached k v hv ((h.sessions k).notDetached hk)
  · exact (h.sessions k).detaching (hs.detaching k)
  · rw [h.created] at hv
    rw [h.servers] at hv' ⊢
    exact (h.sessions _).isFinalizing (hs.finalized v hv hv')

/-- The new server is the only one of the session, and of the connection. -/
theorem Owned.attachToSession (hs : s.Owned) :
    (s.next tokens (.attachToSession k c)).Owned := by
  obtain ⟨howner, hhandlers, hsession, hconnected, hattached, hdetaching, hfinalized⟩ := hs
  simp only [next]
  split_ifs with hif
  · exact ⟨howner, hhandlers, hsession, hconnected, hattached, hdetaching, hfinalized⟩
  · simp only [Bool.or_eq_true, Option.isSome_iff_ne_none, not_or, not_not] at hif
    obtain ⟨⟨hconn, hserver⟩, -⟩ := hif
    simp only [setServer, setConnection, setSession]
    constructor <;> simp only [Function.update_apply] <;> grind

/-- Every other connected server has a connection of its own. -/
theorem Owned.detach (hs : s.Owned) (h : (s.sessions k).detaching = true) :
    (s.next tokens (.detach k)).Owned := by
  obtain ⟨howner, hhandlers, hsession, hconnected, hattached, hdetaching, hfinalized⟩ := hs
  simp only [next]
  split
  · refine Owned.quiet ?_ (notifyChanged_quiet _ k)
    simp only [setServer, setConnection, setSession]
    constructor <;> simp only [Function.update_apply] <;> grind
  · refine Owned.quiet ?_ (notifyChanged_quiet _ k)
    simp only [setSession]
    constructor <;> simp only [Function.update_apply] <;> grind

/-- A session that is finalized is being finalized. -/
theorem Session.isFinalizing_finalize (x : Session) : x.finalize.isFinalizing = true := by
  rw [finalize]
  split_ifs with h
  · exact h
  · rfl

/-- The server is not connected any more, and its session is being finalized. -/
theorem Owned.disconnect (hs : s.Owned) : (s.next tokens (.disconnect c v)).Owned := by
  obtain ⟨howner, hhandlers, hsession, hconnected, hattached, hdetaching, hfinalized⟩ := hs
  have hkeeps := (s.sessions (s.servers v).session).finalize_keeps
  have hserver := hkeeps.server
  have hfinalizes := hkeeps.finalizes
  have hfinalizing := (s.sessions (s.servers v).session).isFinalizing_finalize
  refine Owned.quiet ?_ (notifyChanged_quiet _ _)
  simp only [setHandling, setServer, setConnection, setSession]
  constructor <;> simp only [Function.update_apply] <;> grind

/-- **A step keeps the ownership.** -/
theorem owned_step (hs : s.Owned) (h : s.step tokens a = some s') : s'.Owned := by
  obtain ⟨-, henabled, rfl⟩ := step_eq_some.mp h
  cases a with
  | attachToSession k c => exact hs.attachToSession
  | detach k => exact hs.detach henabled
  | disconnect c v => exact hs.disconnect
  | _ => exact hs.quiet (quiet_next rfl)

/-! ### Disconnects that reach the session -/

/-- The disconnect of the connection has been handled by this server, or is going to be, or it
has not been received yet. -/
def Handling.attends (v : ℕ) : Handling → Prop
  | .idle => True
  | .running .disconnect (some v') => v' = v
  | .running _ _ => True
  | .deregistered v' => v' = v
  | .ended => False

/-- The disconnect of every server that is connected will be heard of. -/
structure Heard (s : Adapter) : Prop where
  attends : ∀ v, v < s.created → (s.servers v).isConnected = true →
    (s.conns (s.servers v).connection).handling.attends v
  inTime : ∀ v, v < s.created → (s.servers v).late = false

/-- The disconnect of the connection has not been handled, and its handler is not that of a
former server. -/
def Handling.inTime : Handling → Bool
  | .running .disconnect (some _) => false
  | .deregistered _ => false
  | .ended => false
  | _ => true

/-- The condition on the steps of a run: when a server is created for a connection, the
connection has not disconnected, or its disconnect is still to be handled by `Connection`. -/
def AttachesInTime (s : Adapter) : Action → Prop
  | .attachToSession _ c => (s.conns c).handling.inTime = true
  | _ => True

/-- The steps that leave the ownership and the handler threads alone. -/
theorem Heard.quiet (hs : s.Heard) (h : s.Quiet s')
    (hhandling : ∀ d, (s'.conns d).handling = (s.conns d).handling) : s'.Heard := by
  refine ⟨fun v hv hv' => ?_, fun v hv => ?_⟩
  · rw [h.created] at hv
    rw [h.servers] at hv' ⊢
    rw [hhandling]
    exact hs.attends v hv hv'
  · rw [h.created] at hv
    rw [h.servers]
    exact hs.inTime v hv

/-- One thread moves on. -/
theorem Heard.move (hs : s.Heard) (h : s.Quiet s') {handling : Handling}
    (hhandling : ∀ d, (s'.conns d).handling =
      if d = c then handling else (s.conns d).handling)
    (hattends : ∀ v, v < s.created → (s.servers v).isConnected = true →
      (s.servers v).connection = c → handling.attends v) : s'.Heard := by
  refine ⟨fun v hv hv' => ?_, fun v hv => ?_⟩
  · rw [h.created] at hv
    rw [h.servers] at hv' ⊢
    rw [hhandling]
    split_ifs with hc
    · exact hattends v hv hv' hc
    · exact hs.attends v hv hv'
  · rw [h.created] at hv
    rw [h.servers]
    exact hs.inTime v hv

/-- One handler thread is set, the others stay. -/
theorem handling_setHandling (s : Adapter) (c d : ℕ) (handling : Handling) :
    ((s.setHandling c handling).conns d).handling =
      if d = c then handling else (s.conns d).handling := by
  simp only [setHandling, setConnection, Function.update_apply]
  split_ifs <;> rfl

/-- The handlers are looked up when a message is received. -/
theorem Heard.receive (hs : s.Heard) (howned : s.Owned) {message : Message} :
    (s.next tokens (.receive c message)).Heard := by
  refine hs.move (s.setHandling_quiet c _) (s.handling_setHandling c · _) fun v hv hv' hc => ?_
  have hserver : (s.conns c).handlers = some v := by
    rw [howned.handlers, ← hc]
    exact howned.connected v hv hv'
  cases message with
  | disconnect => rw [hserver]; rfl
  | event | request => trivial

/-- `Server.disconnect` has begun, for the one server that the connection may belong to. -/
theorem Heard.deregister (hs : s.Heard) (h : ∀ v', v' < s.created →
    (s.servers v').isConnected = true → (s.servers v').connection = c → v = v') :
    (s.deregister c v).Heard := by
  have hquiet := s.deregister_quiet c v
  rw [Adapter.deregister] at hquiet ⊢
  split_ifs at hquiet ⊢
  · exact hs.move hquiet (s.handling_setHandling c · _) h
  · exact hs.quiet hquiet fun _ => rfl

/-- The handler that was looked up runs. -/
theorem Heard.handle (hs : s.Heard) (howned : s.Owned) :
    (s.next tokens (.handle c)).Heard := by
  simp only [next]
  split
  · next message v hrunning =>
      cases message with
      | event name body =>
          have hmove : (s.setHandling c .idle).Heard :=
            hs.move (s.setHandling_quiet c _) (s.handling_setHandling c · _) fun _ _ _ _ => trivial
          simp only [handleServer]
          split_ifs
          · exact hmove.quiet (quiet_setSession (Session.propagateAfterStart_keeps _ _))
              fun _ => rfl
          · exact hmove
      | request command => exact hs.quiet ((Quiet.refl s).frame rfl rfl rfl rfl) fun _ => rfl
      | disconnect =>
          refine hs.deregister fun v' hv hv' hc => ?_
          have hattends := hs.attends v' hv hv'
          rw [hc, hrunning] at hattends
          exact hattends
  · next message hrunning =>
      cases message with
      | event | request =>
          exact hs.move (s.setHandling_quiet c _) (s.handling_setHandling c · _)
            fun _ _ _ _ => trivial
      | disconnect =>
          have hquiet : s.Quiet (s.setConnection c { s.conns c with disconnected := true }) :=
            quiet_setConnection rfl rfl
          have hheard := hs.quiet hquiet (handling_update (by rfl))
          have howned' := howned.quiet hquiet
          simp only [handleConnection]
          split
          · next v hserver =>
              refine hheard.deregister fun v' hv hv' hc => ?_
              have hserver' := howned'.connected v' hv hv'
              rw [hc, hserver] at hserver'
              exact Option.some.inj hserver'
          · next hserver =>
              refine hheard.move ((setHandling_quiet _ c _).frame rfl rfl rfl rfl)
                (handling_setHandling _ c · _) fun v' hv hv' hc => ?_
              -- there is no server that would have to be told
              have hserver' := howned'.connected v' hv hv'
              rw [hc, hserver] at hserver'
              simp at hserver'
  · exact hs

/-- The server that has told its session is not connected any more. -/
theorem Heard.disconnect (hs : s.Heard) (h : (s.conns c).handling = .deregistered v) :
    (s.next tokens (.disconnect c v)).Heard := by
  refine ⟨fun v' hv hv' => ?_, fun v' hv => ?_⟩
  · have hattends := hs.attends v' hv
    simp only [next, notifyChanged, setSession, setServer, setHandling, setConnection,
      Function.update_apply] at hv' ⊢
    grind [Handling.attends]
  · have hlate := hs.inTime v' hv
    simp only [next, notifyChanged, setSession, setServer, setHandling, setConnection,
      Function.update_apply]
    grind

/-- A handler thread that is between two messages finds the new server. -/
theorem Handling.attends_of_inTime {handling : Handling} (h : handling.inTime = true) (v : ℕ) :
    handling.attends v := by
  cases handling with
  | idle => trivial
  | running message handlers =>
      cases message with
      | event | request => trivial
      | disconnect =>
          cases handlers with
          | none => trivial
          | some v' => simp [inTime] at h
  | deregistered | ended => simp [inTime] at h

/-- A connection gets its server while its handler thread is between two messages. -/
theorem Heard.attachToSession (hs : s.Heard) (howned : s.Owned)
    (h : (s.conns c).handling.inTime = true) :
    (s.next tokens (.attachToSession k c)).Heard := by
  have hended : (s.conns c).handling.isEnded = false := by
    cases hhandling : (s.conns c).handling <;> simp_all [Handling.inTime, Handling.isEnded]
  have hattends := Handling.attends_of_inTime h
  simp only [next]
  split_ifs with hif
  · exact ⟨hs.attends, hs.inTime⟩
  · simp only [Bool.or_eq_true, Option.isSome_iff_ne_none, not_or, not_not] at hif
    obtain ⟨⟨hconn, -⟩, -⟩ := hif
    refine ⟨fun v' hv hv' => ?_, fun v' hv => ?_⟩
    · have hattends' := hs.attends v'
      have hconnected := howned.connected v'
      simp only [setSession, setServer, setConnection, Function.update_apply] at hv hv' ⊢
      grind
    · have hlate := hs.inTime v'
      simp only [setSession, setServer, setConnection, Function.update_apply] at hv ⊢
      grind

/-- A connection loses its server. -/
theorem Heard.detach (hs : s.Heard) : (s.next tokens (.detach k)).Heard := by
  simp only [next]
  split
  · refine ⟨fun v' hv hv' => ?_, fun v' hv => ?_⟩
    · have hattends := hs.attends v' hv
      simp only [notifyChanged, setSession, setServer, setConnection, Function.update_apply]
        at hv' ⊢
      grind
    · have hlate := hs.inTime v' hv
      simp only [notifyChanged, setSession, setServer, setConnection, Function.update_apply]
      grind
  · exact ⟨hs.attends, hs.inTime⟩

/-- **A step keeps the handler threads attending**, if servers are attached in time. -/
theorem heard_step (hs : s.Heard) (howned : s.Owned) (hC : AttachesInTime s a)
    (h : s.step tokens a = some s') : s'.Heard := by
  obtain ⟨-, henabled, rfl⟩ := step_eq_some.mp h
  cases a with
  | receive c message => exact hs.receive howned
  | handle c => exact hs.handle howned
  | disconnect c v =>
      refine hs.disconnect ?_
      simp only [enabled] at henabled
      split at henabled
      · next v' hhandling =>
          simp only [Bool.and_eq_true, decide_eq_true_eq] at henabled
          rw [hhandling, henabled.1]
      · simp at henabled
  | attachToSession k c => exact hs.attachToSession howned hC
  | detach k => exact hs.detach
  | _ => exact hs.quiet (quiet_next rfl) (handling_next rfl)

/-! ### Every interleaving -/

/-- The connections are listed in the order in which they connected, and have distinct pids;
a connection belongs to one session at most; a connection, its server and its session know each
other; no server is created too late, and the session of every server that is gone is told. -/
structure Consistent (s : Adapter) : Prop where
  sorted : s.connections.Pairwise (· < ·)
  pids : s.connections.Pairwise fun c d => (s.conns c).pid ≠ (s.conns d).pid
  exclusive : ∀ k k' v v', (s.sessions k).server = some v → (s.sessions k').server = some v' →
    (s.servers v).isConnected = true → (s.servers v').isConnected = true →
      (s.servers v).connection = (s.servers v').connection → k = k'
  owner : ∀ c v, (s.conns c).server = some v →
    (s.servers v).connection = c ∧ (s.sessions (s.servers v).session).server = some v
  inTime : ∀ v, v < s.created → (s.servers v).late = false
  told : ∀ v, v < s.created → (s.conns (s.servers v).connection).handling.isEnded = true →
    (s.servers v).isConnected = false ∧
      (s.sessions (s.servers v).session).isFinalizing = true

/-- The invariants together say that the state is consistent. -/
theorem consistent_of (hordered : s.Ordered) (howned : s.Owned) (hheard : s.Heard) :
    s.Consistent := by
  refine ⟨hordered.sorted, hordered.pids, ?_, fun c v hv => (howned.owner c v hv).2,
    hheard.inTime, fun v hv hended => ?_⟩
  · intro k k' v v' hv hv' hconnected hconnected' heq
    have hk := howned.session k v hv
    have hk' := howned.session k' v' hv'
    have hserver := howned.connected v hk.1 hconnected
    have hserver' := howned.connected v' hk'.1 hconnected'
    obtain rfl : v = v' := Option.some.inj (hserver.symm.trans (heq ▸ hserver'))
    exact hk.2.symm.trans hk'.2
  · have hconnected : (s.servers v).isConnected = false := by
      refine Bool.eq_false_iff.mpr fun hconnected => ?_
      have hattends := hheard.attends v hv hconnected
      cases hhandling : (s.conns (s.servers v).connection).handling with
      | ended =>
          rw [hhandling] at hattends
          exact hattends
      | idle | running | deregistered => simp [hhandling, Handling.isEnded] at hended
    exact ⟨hconnected, howned.finalized v hv hconnected⟩

/-- There is no connection at first. -/
theorem init_ordered : init.Ordered :=
  ⟨.nil, .nil, fun _ hc => by simp [init] at hc,
    fun _ hc => by simp [init, AcceptThread.pending] at hc⟩

/-- There is no server at first. -/
theorem init_owned : init.Owned := by
  constructor <;> simp [init, newConnection, newSession]

/-- **The connections are kept in order, and in one hand each**, in every run. -/
theorem ordered_owned (h : (adapter tokens).Reachable s) : s.Ordered ∧ s.Owned := by
  have hinv : (adapter tokens).Invariant fun s => s.Ordered ∧ s.Owned := by
    refine ⟨?_, fun hs hstep => ⟨ordered_step hs.1 hstep, owned_step hs.2 hstep⟩⟩
    rintro s rfl
    exact ⟨init_ordered, init_owned⟩
  exact hinv.of_reachable h

/-- **Sessions and connections stay consistent**, in all runs in which a session attaches to a
connection only before the disconnect of the connection is handled. -/
theorem consistent (h : (adapter tokens).ReachableWithin AttachesInTime s) : s.Consistent := by
  have hinv : (adapter tokens).InvariantWithin AttachesInTime fun s => s.Owned ∧ s.Heard := by
    refine ⟨?_, fun hs hC hstep => ⟨owned_step hs.1 hstep, heard_step hs.2 hs.1 hC hstep⟩⟩
    rintro s rfl
    refine ⟨init_owned, ?_⟩
    constructor <;> simp [init]
  obtain ⟨howned, hheard⟩ := hinv.of_reachable h
  exact consistent_of (ordered_owned h.reachable).1 howned hheard

/-- A debug server connects before any IDE does; there are no access tokens. -/
def serverConnects : List Action :=
  [.accept, .authorize 0 none, .report 0 (some (1234, none)), .inject 0 true, .register 0,
    .lookUp 0 none]

/-- An IDE connects and requests "attach"; the session finds the connection. -/
def sessionFinds : List Action :=
  [.connectIDE, .session 0 (.initializeRequest "vscode"),
    .session 0 (.attachRequest none false), .session 0 (.wait 0)]

/-- The session attaches to the server, and the server disconnects. -/
theorem consistent_attached :
    ∃ s, (adapter ⟨none, none⟩).run init (serverConnects ++ sessionFinds ++
        [.attachToSession 0 0, .start 0 none, .receive 0 .disconnect, .handle 0,
          .disconnect 0 0]) = some s ∧
      (s.conns 0).handling.isEnded = true ∧ s.Consistent := by
  have hC : (adapter ⟨none, none⟩).StepsWithin AttachesInTime init
      (serverConnects ++ sessionFinds ++
        [.attachToSession 0 0, .start 0 none, .receive 0 .disconnect, .handle 0,
          .disconnect 0 0]) :=
    .cons trivial rfl (.cons trivial rfl (.cons trivial rfl (.cons trivial rfl
      (.cons trivial rfl (.cons trivial rfl (.cons trivial rfl (.cons trivial rfl
        (.cons trivial rfl (.cons trivial rfl (.cons rfl rfl (.cons trivial rfl
          (.cons trivial rfl (.cons trivial rfl (.cons trivial rfl trivial))))))))))))))
  have hrun : ∃ s, (adapter ⟨none, none⟩).run init (serverConnects ++ sessionFinds ++
        [.attachToSession 0 0, .start 0 none, .receive 0 .disconnect, .handle 0,
          .disconnect 0 0]) = some s ∧ (s.conns 0).handling.isEnded = true := ⟨_, rfl, rfl⟩
  obtain ⟨s, hs, hended⟩ := hrun
  exact ⟨s, hs, hended, consistent (Machine.ReachableWithin.run (.start rfl) hC hs)⟩

/-- **A server that nobody hears of**: the session has found the connection and is about to
attach to it when the disconnect of the connection is handled. -/
theorem not_consistent :
    ¬ ∀ (tokens : Tokens) (s : Adapter), (adapter tokens).Reachable s → s.Consistent := by
  intro h
  have hrun : ∃ s, (adapter ⟨none, none⟩).run init (serverConnects ++ sessionFinds ++
        [.receive 0 .disconnect, .handle 0, .attachToSession 0 0]) = some s ∧
      0 < s.created ∧ (s.servers 0).late = true := ⟨_, rfl, by decide, rfl⟩
  obtain ⟨s, hs, hcreated, hlate⟩ := hrun
  have hreach : (adapter ⟨none, none⟩).Reachable s :=
    Machine.reachable_iff_run.mpr ⟨_, _, rfl, hs⟩
  simp [(h _ s hreach).inTime 0 hcreated] at hlate

/-- **The condition is needed**: a server that is created after the disconnect was handled is
late, and its session is never told. -/
theorem late_server (hended : (s.conns c).handling.isEnded = true)
    (hconn : (s.conns c).server = none) (hserver : (s.sessions k).server = none)
    (hpid : (s.sessions k).pid = none) (h : s.step tokens (.attachToSession k c) = some s') :
    (s'.servers s.created).late = true ∧ (s'.servers s.created).isConnected = true ∧
      (s'.conns c).handling.isEnded = true := by
  obtain ⟨-, -, rfl⟩ := step_eq_some.mp h
  simp [next, hconn, hserver, hpid, setServer, setConnection, setSession, hended]

end Adapter

end Ptvsd
