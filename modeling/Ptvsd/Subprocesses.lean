import Ptvsd.Ownership

/-!
# Announcing Child Processes

A debug server that reports the pid of its parent process is announced to the IDE of the
session that is debugging the parent, by the event "ptvsd_attach". That is done from two places:
when the server is registered, if `sessions.get` finds a session for the parent, and at the
end of `configurationDone_request`, for all connections there are by then. The set
`_known_subprocesses` keeps a connection from being announced twice.

## Main results

* `Session.Announcing`: the invariant of one session, with a lemma for every kind of step.
* `reportsChildren`: children are announced exactly once, and nobody else is, in all runs in
  which `sessions.get` finds the session of the parent.
* `not_reportsChildren`: children that are being debugged already are passed over.
* `reported_without_parent`: `sessions.get(None)` finds sessions without a debug server.
-/

namespace Ptvsd

namespace Adapter

variable {tokens : Tokens} {s s' : Adapter} {a : Action} {c v k : ℕ} {x x' : Session}

/-! ### Sessions by themselves -/

/-- What holds of a session, whatever happens in the adapter. -/
structure Session.Sound (x : Session) : Prop where
  pid : x.pid.isSome = true → x.server.isSome = true
  begun : x.startRequest = true → x.hasStarted = false → x.pid.isSome = true
  starting : x.ide = .starting → x.pid.isSome = true
  configuring : x.ide = .configuring →
    x.startRequest = true ∧ x.hasStarted = true ∧ x.announced = false ∧ x.pid.isSome = true
  announcing : ∀ rest, x.ide = .announcing rest →
    x.startRequest = true ∧ x.hasStarted = true ∧ x.announced = false ∧ x.pid.isSome = true
  announced : x.announced = true →
    x.startRequest = true ∧ x.hasStarted = true ∧ x.pid.isSome = true
  registered : x.isFinalizing = false → x.ideConnected = true ∧ x.registered = true
  events : ∀ e ∈ x.deferredEvents.getD [], ∀ c, e.isAttach c = false

namespace Session.Sound

theorem finalize (hx : x.Sound) : x.finalize.Sound := by
  obtain ⟨hpid, hbegun, hstarting, hconfiguring, hannouncing, hannounced, hregistered, hevents⟩ :=
    hx
  rw [Session.finalize]
  split_ifs
  · exact ⟨hpid, hbegun, hstarting, hconfiguring, hannouncing, hannounced, hregistered, hevents⟩
  · exact ⟨hpid, hbegun, hstarting, hconfiguring, hannouncing, hannounced, by simp, hevents⟩

/-- The handler of the IDE is where it says nothing about the session. -/
theorem moves (hx : x.Sound) {ide : IDEThread} (hstarting : ide ≠ .starting)
    (hconfiguring : ide ≠ .configuring) (hannouncing : ∀ rest, ide ≠ .announcing rest) :
    Session.Sound { x with ide } :=
  ⟨hx.pid, hx.begun, fun h => absurd h hstarting, fun h => absurd h hconfiguring,
    fun rest h => absurd h (hannouncing rest), hx.announced, hx.registered, hx.events⟩

/-- The start request has been received, and it is to be answered. -/
theorem started (hx : x.Sound) (hide : x.ide = .idle) :
    Session.Sound { x with startRequest := true, hasStarted := true } := by
  refine ⟨hx.pid, by simp, ?_, ?_, ?_, fun h => ⟨rfl, rfl, (hx.announced h).2.2⟩, hx.registered,
    hx.events⟩
  all_goals simp [hide]

theorem propagateDeferredEvents (hx : x.Sound) : x.propagateDeferredEvents.Sound :=
  ⟨hx.pid, hx.begun, hx.starting, hx.configuring, hx.announcing, hx.announced, hx.registered,
    by simp [Session.propagateDeferredEvents]⟩

/-- Everything else about the session does not matter. -/
theorem frame (hx : x.Sound) (hpid : x'.pid = x.pid) (hserver : x'.server = x.server)
    (hstart : x'.startRequest = x.startRequest) (hstarted : x'.hasStarted = x.hasStarted)
    (hide : x'.ide = x.ide) (hannounced : x'.announced = x.announced)
    (hregistered : x'.isFinalizing = false →
      x'.ideConnected = true ∧ x'.registered = true)
    (hevents : x'.deferredEvents = x.deferredEvents) : x'.Sound := by
  refine ⟨?_, ?_, ?_, ?_, ?_, ?_, hregistered, ?_⟩
  · rw [hpid, hserver]
    exact hx.pid
  · rw [hstart, hstarted, hpid]
    exact hx.begun
  · rw [hide, hpid]
    exact hx.starting
  · rw [hide, hstart, hstarted, hannounced, hpid]
    exact hx.configuring
  · rw [hide, hstart, hstarted, hannounced, hpid]
    exact hx.announcing
  · rw [hannounced, hstart, hstarted, hpid]
    exact hx.announced
  · rw [hevents]
    exact hx.events

theorem ready_ide (h : x.ready = true) : x.ide = .idle := by
  simp only [ready, Bool.and_eq_true, decide_eq_true_eq] at h
  exact h.1

theorem startable_ready (h : x.startable = true) : x.ready = true := by
  simp only [startable, Bool.and_eq_true] at h
  exact h.1.1.1

theorem announce (hx : x.Sound) (h : x.enabled s k .announce = true) :
    (x.next s .announce).Sound := by
  simp only [Session.next]
  split
  · next c rest hide =>
      have hrest : Session.Sound { x with ide := .announcing rest } :=
        ⟨hx.pid, hx.begun, by simp, by simp, fun _ _ => hx.announcing _ hide, hx.announced,
          hx.registered, hx.events⟩
      split_ifs
      · exact hrest.frame rfl rfl rfl rfl rfl rfl hx.registered rfl
      · exact hrest.frame rfl rfl rfl rfl rfl rfl hx.registered rfl
      · exact hrest
  · next hide =>
      have hend : x.ide = .announcing [] := by
        simp only [Session.enabled] at h
        split at h
        · exact absurd ‹_› (hide _ _)
        · assumption
        · simp at h
      obtain ⟨hstart, hstarted, -, hpid⟩ := hx.announcing [] hend
      exact ⟨hx.pid, hx.begun, by simp, by simp, by simp, fun _ => ⟨hstart, hstarted, hpid⟩,
        hx.registered, hx.events⟩

/-- The session is finalized when the IDE has disconnected. -/
theorem ideDisconnect (hx : x.Sound) : (x.next s .ideDisconnect).Sound := by
  have hended : Session.Sound { x with ide := .ended } := hx.moves (by simp) (by simp) (by simp)
  simp only [Session.next, Session.finalize]
  split_ifs with hfinalizing
  · exact hended.frame rfl rfl rfl rfl rfl rfl (fun h => by simp [hfinalizing] at h) rfl
  · exact hended.frame rfl rfl rfl rfl rfl rfl (fun h => by simp at h) rfl

/-- Every action of the session keeps it so. -/
theorem act {a : SessionAction} (hx : x.Sound) (h : x.enabled s k a = true) :
    (x.next s a).Sound := by
  cases a with
  | initializeRequest clientId => exact hx.frame rfl rfl rfl rfl rfl rfl hx.registered rfl
  | launchRequest processId noDebug =>
      simp only [Session.enabled, Bool.and_eq_true] at h
      have hide := ready_ide (startable_ready h.1.1.1)
      cases noDebug with
      | true =>
          refine propagateDeferredEvents ?_
          exact (hx.started hide).frame rfl rfl rfl rfl rfl rfl hx.registered rfl
      | false =>
          have hmoves : Session.Sound { x with ide := .launching } :=
            hx.moves (by simp) (by simp) (by simp)
          exact hmoves.frame rfl rfl rfl rfl rfl rfl hx.registered rfl
  | launched => exact hx.moves (by simp) (by simp) (by simp)
  | attachRequest wanted processId =>
      have hmoves : Session.Sound { x with ide := .connecting wanted } :=
        hx.moves (by simp) (by simp) (by simp)
      exact hmoves.frame rfl rfl rfl rfl rfl rfl hx.registered rfl
  | wait c => exact hx.moves (by simp) (by simp) (by simp)
  | configurationDoneRequest =>
      simp only [Session.enabled, Bool.and_eq_true, Bool.not_eq_true'] at h
      obtain ⟨⟨-, hstart⟩, hstarted⟩ := h
      have hannounced : x.announced = false := by
        refine Bool.eq_false_iff.mpr fun hannounced => ?_
        simp [(hx.announced hannounced).2.1] at hstarted
      exact ⟨hx.pid, by simp [Session.next], by simp [Session.next],
        fun _ => ⟨hstart, rfl, hannounced, hx.begun hstart hstarted⟩, by simp [Session.next],
        fun h => by simp [Session.next, hannounced] at h, hx.registered, hx.events⟩
  | configured answered =>
      simp only [Session.enabled, Bool.and_eq_true, decide_eq_true_eq] at h
      have hconfiguring := hx.configuring h.1
      cases answered with
      | true =>
          exact propagateDeferredEvents ⟨hx.pid, hx.begun, by simp, by simp,
            fun _ _ => hconfiguring, hx.announced, hx.registered, hx.events⟩
      | false => exact propagateDeferredEvents (hx.moves (by simp) (by simp) (by simp))
  | announce => exact hx.announce h
  | delegate body =>
      simp only [Session.next]
      split
      · split_ifs
        · exact hx.frame rfl rfl rfl rfl rfl rfl hx.registered rfl
        · exact hx
      · exact hx
  | finalize => exact hx.finalize
  | launcherDisconnect =>
      exact finalize (hx.frame rfl rfl rfl rfl rfl rfl hx.registered rfl)
  | ideDisconnect => exact hx.ideDisconnect
  | lose => exact hx.frame rfl rfl rfl rfl rfl rfl hx.registered rfl

theorem propagateAfterStart {event : IDEMessage} (hx : x.Sound)
    (hevent : ∀ c, event.isAttach c = false) : (x.propagateAfterStart event).Sound := by
  obtain ⟨hpid, hbegun, hstarting, hconfiguring, hannouncing, hannounced, hregistered, hevents⟩ :=
    id hx
  rw [Session.propagateAfterStart]
  split
  · next events hdeferred =>
      refine ⟨hpid, hbegun, hstarting, hconfiguring, hannouncing, hannounced, hregistered, ?_⟩
      intro e he
      rcases List.mem_append.mp he with he | he
      · exact hevents e (by simpa [hdeferred] using he)
      · exact List.mem_singleton.mp he ▸ hevent
  · split_ifs
    · exact ⟨hpid, hbegun, hstarting, hconfiguring, hannouncing, hannounced, hregistered, hevents⟩
    · exact hx

theorem change (hx : x.Sound) (hfound : ∀ c, x.ide = .found c → (s.conns c).pid.isSome = true)
    (h : Session.Change s x x') : x'.Sound := by
  obtain ⟨hpid, hbegun, hstarting, hconfiguring, hannouncing, hannounced, hregistered, hevents⟩ :=
    id hx
  cases h with
  | act henabled => exact hx.act henabled
  | propagate => exact hx.propagateAfterStart fun _ => rfl
  | attach hide hserver hpid =>
      have hconn := hfound _ hide
      exact ⟨fun _ => rfl, fun _ _ => hconn, fun _ => hconn, nofun, nofun,
        fun h => ⟨(hannounced h).1, (hannounced h).2.1, hconn⟩, hregistered, hevents⟩
  | start hide =>
      have hpid' := hstarting hide
      exact ⟨hpid, fun _ _ => hpid', nofun, nofun, nofun,
        fun h => ⟨rfl, (hannounced h).2.1, hpid'⟩, hregistered, hevents⟩
  | fail hide =>
      exact ⟨hpid, hbegun, nofun, nofun, nofun, hannounced, hregistered, hevents⟩
  | detach hdetaching =>
      exact ⟨hpid, hbegun, hstarting, hconfiguring, hannouncing, hannounced, hregistered, hevents⟩
  | finalize => exact hx.finalize

theorem changeNotified (hx : x.Sound)
    (hfound : ∀ c, x.ide = .found c → (s.conns c).pid.isSome = true)
    (h : Session.ChangeNotified s x x') : x'.Sound := by
  obtain ⟨y, active, hchange, hactive, rfl⟩ := h.change
  obtain ⟨hpid, hbegun, hstarting, hconfiguring, hannouncing, hannounced, hregistered, hevents⟩ :=
    hx.change hfound hchange
  refine ⟨hpid, hbegun, hstarting, hconfiguring, hannouncing, hannounced, fun h => ?_, hevents⟩
  obtain ⟨hide, hy⟩ := hregistered h
  exact ⟨hide, by simp [hy, hactive hide]⟩

end Session.Sound

/-! ### Reported pids -/

/-- Every connection that a session can get hold of has reported its pid. -/
structure Reported (s : Adapter) : Prop where
  connections : ∀ c ∈ s.connections, (s.conns c).pid.isSome = true
  injecting : ∀ c, s.acceptThread = .injecting c → (s.conns c).pid.isSome = true
  registering : ∀ c, s.acceptThread = .registering c → (s.conns c).pid.isSome = true
  found : ∀ k c, (s.sessions k).ide = .found c → (s.conns c).pid.isSome = true

/-- A session gets hold of a connection in the list only. -/
theorem Session.ChangeNotified.found (h : Session.ChangeNotified s x x')
    (hfound : x'.ide = .found c) : x.ide = .found c ∨ c ∈ s.connections := by
  obtain ⟨y, active, hchange, -, rfl⟩ := h.change
  change y.ide = .found c at hfound
  cases hchange with
  | @act k a henabled =>
      cases a with
      | wait c' =>
          obtain rfl : c' = c := by simpa [Session.next] using hfound
          simp only [Session.enabled] at henabled
          split at henabled
          · right
            exact List.mem_of_find?_eq_some (of_decide_eq_true henabled)
          · simp at henabled
      | launchRequest processId noDebug =>
          cases noDebug <;> simp_all [Session.next, Session.propagateDeferredEvents]
      | configured answered =>
          cases answered <;> simp_all [Session.next, Session.propagateDeferredEvents]
      | announce =>
          simp only [Session.next] at hfound
          split at hfound
          · split_ifs at hfound
          · simp at hfound
      | delegate body =>
          simp only [Session.next] at hfound
          grind
      | finalize | ideDisconnect | launcherDisconnect =>
          simp only [Session.next, Session.finalize] at hfound
          grind
      | _ => simp_all [Session.next]
  | propagate =>
      simp only [Session.propagateAfterStart] at hfound
      grind
  | attach | start | fail => simp [Session.failStart] at hfound
  | detach => exact Or.inl hfound
  | finalize =>
      simp only [Session.finalize] at hfound
      grind

theorem Reported.steady (hs : s.Reported) (h : s.Steady s')
    (hsessions : ∀ k, s'.sessions k = s.sessions k ∨
      Session.ChangeNotified s (s.sessions k) (s'.sessions k)) : s'.Reported := by
  refine ⟨fun c hc => ?_, fun c hc => ?_, fun c hc => ?_, fun k c hk => ?_⟩
  · exact h.pid c ▸ hs.connections c (h.connections.subset hc)
  · exact h.pid c ▸ hs.injecting c (h.acceptThread ▸ hc)
  · exact h.pid c ▸ hs.registering c (h.acceptThread ▸ hc)
  · rw [h.pid]
    rcases hsessions k with heq | hchange
    · exact hs.found k c (heq ▸ hk)
    · rcases hchange.found hk with hk | hc
      · exact hs.found k c hk
      · exact hs.connections c hc

theorem reported_step (hs : s.Reported) (h : s.step tokens a = some s') : s'.Reported := by
  obtain ⟨-, henabled, rfl⟩ := step_eq_some.mp h
  obtain ⟨hconnections, hinjecting, hregistering, hfound⟩ := id hs
  cases a with
  | accept =>
      exact ⟨hconnections, by simp [next], by simp [next], hfound⟩
  | authorize c response =>
      simp only [next, setConnection]
      constructor <;> simp only [Function.update_apply] <;> grind
  | report c info =>
      cases info with
      | none => exact ⟨hconnections, by simp [next], by simp [next], hfound⟩
      | some info =>
          simp only [next, setConnection]
          constructor <;> simp only [Function.update_apply] <;> grind
  | inject c answered =>
      simp only [enabled, decide_eq_true_eq] at henabled
      simp only [next]
      constructor <;> grind
  | register c =>
      simp only [enabled, decide_eq_true_eq] at henabled
      simp only [next]
      split_ifs
      all_goals constructor <;> grind
  | lookUp c k => cases k <;> exact ⟨hconnections, by simp [next], by simp [next], hfound⟩
  | notify c k | send c k =>
      simp only [next, setSession]
      split_ifs
      all_goals constructor <;> simp only [Function.update_apply] <;> grind
  | _ => exact hs.steady (steady_next rfl) (session_next rfl henabled)

theorem sound_step (hs : ∀ k, (s.sessions k).Sound) (hreported : s.Reported)
    (h : s.step tokens a = some s') (k : ℕ) : (s'.sessions k).Sound := by
  obtain ⟨-, henabled, rfl⟩ := step_eq_some.mp h
  by_cases haccepts : a.accepts = true
  · obtain ⟨hpid, hbegun, hstarting, hconfiguring, hannouncing, hannounced, hregistered,
      hevents⟩ := hs k
    rcases @session_next_of_accepts tokens s a haccepts k with heq | ⟨c, -, heq⟩ | ⟨c, -, heq⟩
    · exact heq ▸ hs k
    · rw [heq]
      exact ⟨hpid, hbegun, hstarting, hconfiguring, hannouncing, hannounced, hregistered, hevents⟩
    · rw [heq]
      exact ⟨hpid, hbegun, hstarting, hconfiguring, hannouncing, hannounced, hregistered, hevents⟩
  · rcases session_next (Bool.eq_false_iff.mpr haccepts) henabled k with heq | hchange
    · exact heq ▸ hs k
    · exact (hs k).changeNotified (hreported.found k) hchange

/-! ### Announcements -/

/-- The connection has been accepted, and it is not the one that is about to be registered. -/
def Old (s : Adapter) (c : ℕ) : Prop :=
  c < s.accepted ∧ ∀ d, s.acceptThread.pending = some d → c < d

/-- `configurationDone_request` has not made its list of connections yet, or never will. -/
def Session.Unlisted (x : Session) : Prop :=
  x.announced = false ∧ ∀ rest, x.ide ≠ .announcing rest

/-- The "ptvsd_attach" event for this connection is on its way. -/
def sending (s : Adapter) (c k : ℕ) : ℕ := if s.acceptThread = .sending c k then 1 else 0

/-- How often the connection was announced to the IDE. -/
def Session.announcements (x : Session) (c : ℕ) : ℕ := x.written.countP (IDEMessage.isAttach c)

/-- A session in the state `s` of the adapter: who was announced to its IDE, and who will be. -/
structure Session.Announcing (s : Adapter) (k : ℕ) (x : Session) : Prop where
  old : ∀ c ∈ x.knownSubprocesses, s.Old c
  oldRest : ∀ rest, x.ide = .announcing rest → ∀ c ∈ rest, s.Old c
  child : ∀ c ∈ x.knownSubprocesses, ∃ p, (s.conns c).ppid = some p ∧ x.pid = some p
  once : ∀ c, x.announcements c + s.sending c k ≤ if c ∈ x.knownSubprocesses then 1 else 0
  sent : ∀ c ∈ x.knownSubprocesses, x.ideOpen = true → 1 ≤ x.announcements c + s.sending c k
  current : ∀ c, s.acceptThread = .lookingUp c ∨ s.acceptThread = .notifying c k → c < s.accepted
  /-- The session that was looked up for the connection is that of its parent. -/
  lookedUp : ∀ c p, s.acceptThread = .notifying c k → (s.conns c).ppid = some p → x.pid = some p
  complete : ∀ c p, c ∈ s.connections → (s.conns c).ppid = some p → x.pid = some p →
    x.isFinalizing = false → x.processId = false → c ∉ x.passedOver →
      c ∈ x.knownSubprocesses ∨ s.acceptThread = .lookingUp c ∨ s.acceptThread = .notifying c k ∨
        x.Unlisted ∨ ∃ rest, x.ide = .announcing rest ∧ c ∈ rest

/-- Steps of other threads. -/
theorem Session.Announcing.steady (hx : x.Announcing s k) (h : s.Steady s') :
    x.Announcing s' k := by
  have hold : ∀ c, s.Old c → s'.Old c := by
    intro c hc
    rwa [Old, h.accepted, h.acceptThread]
  refine ⟨fun c hc => hold c (hx.old c hc),
    fun rest hrest c hc => hold c (hx.oldRest rest hrest c hc),
    fun c hc => h.ppid c ▸ hx.child c hc, fun c => ?_, fun c hc hopen => ?_, fun c hc => ?_,
    fun c p hc hp => ?_, fun c p hc hp => ?_⟩
  · rw [sending, h.acceptThread]
    exact hx.once c
  · rw [sending, h.acceptThread]
    exact hx.sent c hc hopen
  · rw [h.accepted]
    exact hx.current c (h.acceptThread ▸ hc)
  · exact hx.lookedUp c p (h.acceptThread ▸ hc) (h.ppid c ▸ hp)
  · rw [h.acceptThread]
    exact hx.complete c p (h.connections.subset hc) (h.ppid c ▸ hp)

/-- From `x` to `x'`, nothing is announced. -/
structure Session.Calm (x x' : Session) : Prop where
  pid : x'.pid = x.pid
  knownSubprocesses : x'.knownSubprocesses = x.knownSubprocesses
  passedOver : x'.passedOver = x.passedOver
  announcements : ∀ c, x'.announcements c = x.announcements c
  ideOpen : x'.ideOpen = true → x.ideOpen = true
  isFinalizing : x'.isFinalizing = false → x.isFinalizing = false
  processId : x'.processId = x.processId ∨ x.pid = none
  unlisted : x.Unlisted → x'.Unlisted
  announcing : ∀ rest, x'.ide = .announcing rest ↔ x.ide = .announcing rest

theorem Session.Announcing.calm (hx : x.Announcing s k) (h : x.Calm x') : x'.Announcing s k := by
  refine ⟨fun c hc => ?_, fun rest hrest => ?_, fun c hc => ?_, fun c => ?_, fun c hc hopen => ?_,
    hx.current, fun c p hc hp => ?_,
    fun c p hc hp hpid hfinalizing hprocessId hpassed => ?_⟩
  · exact hx.old c (h.knownSubprocesses ▸ hc)
  · exact hx.oldRest rest ((h.announcing rest).mp hrest)
  · exact h.pid ▸ hx.child c (h.knownSubprocesses ▸ hc)
  · rw [h.announcements, h.knownSubprocesses]
    exact hx.once c
  · rw [h.announcements]
    exact hx.sent c (h.knownSubprocesses ▸ hc) (h.ideOpen hopen)
  · exact h.pid ▸ hx.lookedUp c p hc hp
  · rw [h.pid] at hpid
    rw [h.passedOver] at hpassed
    have hprocessId' : x.processId = false := by
      rcases h.processId with heq | hnone
      · exact heq ▸ hprocessId
      · simp [hnone] at hpid
    rw [h.knownSubprocesses]
    rcases hx.complete c p hc hp hpid (h.isFinalizing hfinalizing) hprocessId' hpassed with
      hknown | hthread | hthread | hunlisted | ⟨rest, hrest, hmem⟩
    · exact Or.inl hknown
    · exact Or.inr (Or.inl hthread)
    · exact Or.inr (Or.inr (Or.inl hthread))
    · exact Or.inr (Or.inr (Or.inr (Or.inl (h.unlisted hunlisted))))
    · exact Or.inr (Or.inr (Or.inr (Or.inr ⟨rest, (h.announcing rest).mpr hrest, hmem⟩)))

theorem Session.Calm.refl (x : Session) : x.Calm x :=
  ⟨rfl, rfl, rfl, fun _ => rfl, id, id, Or.inl rfl, id, fun _ => Iff.rfl⟩

theorem Session.finalize_calm (x : Session) : x.Calm x.finalize := by
  rw [finalize]
  split_ifs
  · exact .refl x
  · exact ⟨rfl, rfl, rfl, fun _ => rfl, id, by simp, Or.inl rfl, id, fun _ => Iff.rfl⟩

theorem Session.announced_finalize (x : Session) : x.finalize.announced = x.announced := by
  rw [finalize]
  split_ifs <;> rfl

theorem Session.announcements_append (x : Session) {events : List IDEMessage}
    (h : ∀ e ∈ events, ∀ c, e.isAttach c = false) (c : ℕ) :
    (x.written ++ events).countP (IDEMessage.isAttach c) = x.announcements c := by
  have hzero : events.countP (IDEMessage.isAttach c) = 0 :=
    List.countP_eq_zero.mpr fun e he => by simp [h e he c]
  rw [List.countP_append, hzero, announcements, Nat.add_zero]

theorem Session.propagateAfterStart_calm (x : Session) {event : IDEMessage}
    (hevent : ∀ c, event.isAttach c = false) : x.Calm (x.propagateAfterStart event) := by
  rw [propagateAfterStart]
  split
  · exact ⟨rfl, rfl, rfl, fun _ => rfl, id, id, Or.inl rfl, id, fun _ => Iff.rfl⟩
  · split_ifs
    · refine ⟨rfl, rfl, rfl, fun c => ?_, id, id, Or.inl rfl, id, fun _ => Iff.rfl⟩
      exact x.announcements_append (by simpa using hevent) c
    · exact .refl x

/-- The handler of the IDE moves on, but not in the loop of `configurationDone_request`. -/
structure Session.Moves (x x' : Session) : Prop where
  ide : ∀ rest, x.ide ≠ .announcing rest
  ide' : ∀ rest, x'.ide ≠ .announcing rest
  announced : x'.announced = x.announced

/-- What such a move leaves to show. -/
theorem Session.Moves.calm (h : x.Moves x') (hpid : x'.pid = x.pid)
    (hknown : x'.knownSubprocesses = x.knownSubprocesses) (hpassed : x'.passedOver = x.passedOver)
    (hannouncements : ∀ c, x'.announcements c = x.announcements c)
    (hopen : x'.ideOpen = true → x.ideOpen = true)
    (hfinalizing : x'.isFinalizing = false → x.isFinalizing = false)
    (hprocessId : x'.processId = x.processId ∨ x.pid = none) : x.Calm x' :=
  ⟨hpid, hknown, hpassed, hannouncements, hopen, hfinalizing, hprocessId,
    fun hx => ⟨h.announced.trans hx.1, h.ide'⟩,
    fun rest => iff_of_false (h.ide' rest) (h.ide rest)⟩

/-- The actions of a session that lead to announcements. -/
def SessionAction.announces : SessionAction → Bool
  | .configured answered => answered
  | .announce => true
  | _ => false

/-- A session that can be started has no debuggee. -/
theorem Session.Sound.pid_of_startable (hx : x.Sound) (h : x.startable = true) : x.pid = none := by
  have hserver : x.server = none := by
    simp only [startable, Bool.and_eq_true, Option.isNone_iff_eq_none] at h
    exact h.2
  cases hpid : x.pid with
  | none => rfl
  | some pid => simpa [hserver] using hx.pid (by simp [hpid])

theorem Session.act_calm {a : SessionAction} (hx : x.Sound) (h : x.enabled s k a = true)
    (ha : a.announces = false) : x.Calm (x.next s a) := by
  have hflush := x.announcements_append hx.events
  cases a with
  | announce => simp [SessionAction.announces] at ha
  | initializeRequest clientId =>
      exact ⟨rfl, rfl, rfl, fun _ => rfl, id, id, Or.inl rfl, id, fun _ => Iff.rfl⟩
  | launchRequest processId noDebug =>
      simp only [Session.enabled, Bool.and_eq_true] at h
      have hpid := hx.pid_of_startable h.1.1.1
      have hide : x.ide = .idle := by
        have hready := h.1.1.1
        simp only [startable, ready, Bool.and_eq_true, decide_eq_true_eq] at hready
        exact hready.1.1.1.1
      cases noDebug with
      | true =>
          have hmoves : x.Moves (x.next s (.launchRequest processId true)) :=
            ⟨by simp [hide], by simp [Session.next, propagateDeferredEvents, hide], rfl⟩
          exact hmoves.calm rfl rfl rfl hflush id id (Or.inr hpid)
      | false =>
          have hmoves : x.Moves (x.next s (.launchRequest processId false)) :=
            ⟨by simp [hide], by simp [Session.next], rfl⟩
          exact hmoves.calm rfl rfl rfl (fun _ => rfl) id id (Or.inr hpid)
  | launched =>
      simp only [Session.enabled, Bool.and_eq_true, decide_eq_true_eq] at h
      have hmoves : x.Moves (x.next s .launched) :=
        ⟨by simp [h.1], by simp [Session.next], rfl⟩
      exact hmoves.calm rfl rfl rfl (fun _ => rfl) id id (Or.inl rfl)
  | attachRequest wanted processId =>
      simp only [Session.enabled] at h
      have hpid := hx.pid_of_startable h
      simp only [startable, ready, Bool.and_eq_true, decide_eq_true_eq] at h
      have hmoves : x.Moves (x.next s (.attachRequest wanted processId)) :=
        ⟨by simp [h.1.1.1.1], by simp [Session.next], rfl⟩
      exact hmoves.calm rfl rfl rfl (fun _ => rfl) id id (Or.inr hpid)
  | wait c =>
      have hide : ∀ rest, x.ide ≠ .announcing rest := by
        intro rest hrest
        simp [Session.enabled, hrest] at h
      have hmoves : x.Moves (x.next s (.wait c)) := ⟨hide, by simp [Session.next], rfl⟩
      exact hmoves.calm rfl rfl rfl (fun _ => rfl) id id (Or.inl rfl)
  | configurationDoneRequest =>
      simp only [Session.enabled, ready, Bool.and_eq_true, decide_eq_true_eq] at h
      have hmoves : x.Moves (x.next s .configurationDoneRequest) :=
        ⟨by simp [h.1.1.1], by simp [Session.next], rfl⟩
      exact hmoves.calm rfl rfl rfl (fun _ => rfl) id id (Or.inl rfl)
  | configured answered =>
      cases answered with
      | true => simp [SessionAction.announces] at ha
      | false =>
          simp only [Session.enabled, Bool.and_eq_true, decide_eq_true_eq] at h
          have hmoves : x.Moves (x.next s (.configured false)) :=
            ⟨by simp [h.1], by simp [Session.next, propagateDeferredEvents], rfl⟩
          exact hmoves.calm rfl rfl rfl hflush id id (Or.inl rfl)
  | delegate body =>
      simp only [Session.next]
      split
      · split_ifs
        · refine ⟨rfl, rfl, rfl, fun c => ?_, id, id, Or.inl rfl, id, fun _ => Iff.rfl⟩
          exact x.announcements_append (by simp [IDEMessage.isAttach]) c
        · exact .refl x
      · exact .refl x
  | finalize => exact x.finalize_calm
  | ideDisconnect =>
      simp only [Session.enabled, ready, Bool.and_eq_true, decide_eq_true_eq] at h
      have hcalm := Session.finalize_calm
        { x with ideConnected := false, ideOpen := false, ide := .ended }
      have hmoves : x.Moves (x.next s .ideDisconnect) :=
        ⟨by simp [h.1], fun rest hrest => by simpa using (hcalm.announcing rest).mp hrest,
          Session.announced_finalize _⟩
      exact hmoves.calm hcalm.pid hcalm.knownSubprocesses hcalm.passedOver hcalm.announcements
        (fun hopen => by simpa using hcalm.ideOpen hopen) hcalm.isFinalizing hcalm.processId
  | launcherDisconnect =>
      have hcalm := Session.finalize_calm { x with launcher := some false }
      exact ⟨hcalm.pid, hcalm.knownSubprocesses, hcalm.passedOver, hcalm.announcements,
        hcalm.ideOpen, hcalm.isFinalizing, hcalm.processId, hcalm.unlisted, hcalm.announcing⟩
  | lose =>
      exact ⟨rfl, rfl, rfl, fun _ => rfl, by simp [Session.next], id, Or.inl rfl, id,
        fun _ => Iff.rfl⟩

/-- The list of the loop in `configurationDone_request` is that of all connections. -/
theorem Session.Announcing.configured (hx : x.Announcing s k) (hsound : x.Sound)
    (hold : ∀ c ∈ s.connections, s.Old c) :
    (x.next s (.configured true)).Announcing s k := by
  have hflush := x.announcements_append hsound.events
  refine ⟨hx.old, ?_, hx.child, fun c => ?_, fun c hc hopen => ?_, hx.current, hx.lookedUp, ?_⟩
  · rintro rest hrest
    obtain rfl : s.connections = rest := by
      simpa [Session.next, propagateDeferredEvents] using hrest
    exact hold
  · exact (congrArg (· + s.sending c k) (hflush c)).trans_le (hx.once c)
  · exact (hx.sent c hc hopen).trans_eq (congrArg (· + s.sending c k) (hflush c)).symm
  · intro c p hc _ _ _ _ _
    exact Or.inr (Or.inr (Or.inr (Or.inr ⟨s.connections, rfl, hc⟩)))

/-- A "ptvsd_attach" event counts for the connection it is about. -/
theorem Session.announcements_attach (x : Session) (c d : ℕ) :
    (x.written ++ [IDEMessage.attach c]).countP (IDEMessage.isAttach d) =
      x.announcements d + if d = c then 1 else 0 := by
  rw [List.countP_append, announcements]
  by_cases hd : d = c
  · subst hd
    simp [IDEMessage.isAttach]
  · have hne : c ≠ d := fun heq => hd heq.symm
    simp [IDEMessage.isAttach, hd, hne]

/-- The announcement of a connection that was not known. -/
theorem Session.Announcing.announced (hx : x.Announcing s k) (h : c ∉ x.knownSubprocesses)
    (d : ℕ) : (x.written ++ [IDEMessage.attach c]).countP (IDEMessage.isAttach d) + s.sending d k ≤
      if d ∈ c :: x.knownSubprocesses then 1 else 0 := by
  have honce := hx.once d
  rw [announcements_attach]
  by_cases hd : d = c
  · subst hd
    rw [if_neg h] at honce
    simp only [List.mem_cons_self, if_true]
    omega
  · simpa [hd] using honce

/-- The loop reports the connection, passes over it, or has nothing to do. -/
theorem Session.Announcing.announce (hx : x.Announcing s k) (hsound : x.Sound)
    (h : x.enabled s k .announce = true) : (x.next s .announce).Announcing s k := by
  simp only [Session.next]
  split
  · next c rest hide =>
      obtain ⟨hstart, -, -, hpid⟩ := hsound.announcing _ hide
      have holdRest := hx.oldRest _ hide
      -- whoever is to be announced is still on the list, if it was before
      have hrest : ∀ d p, d ∈ s.connections → (s.conns d).ppid = some p → x.pid = some p →
          x.isFinalizing = false → x.processId = false → d ∉ x.passedOver → d ≠ c →
            d ∈ x.knownSubprocesses ∨ s.acceptThread = .lookingUp d ∨
              s.acceptThread = .notifying d k ∨ d ∈ rest := by
        intro d p hd hp hp' hfinalizing hprocessId hpassed hne
        have hcomplete := hx.complete d p hd hp hp' hfinalizing hprocessId hpassed
        simp only [Unlisted, hide] at hcomplete
        grind
      split_ifs with hannounces hpassed
      · simp only [announces, reports, Bool.and_eq_true, Bool.not_eq_true', decide_eq_true_eq]
          at hannounces
        obtain ⟨⟨-, hppid⟩, ⟨-, hknown⟩, -⟩ := hannounces
        replace hknown : c ∉ x.knownSubprocesses := by simpa using hknown
        obtain ⟨p, hp⟩ := Option.isSome_iff_exists.mp hpid
        refine ⟨?_, ?_, ?_, hx.announced hknown, fun d hd hopen => ?_, hx.current,
          hx.lookedUp, ?_⟩
        · rintro d (_ | ⟨_, hd⟩)
          · exact holdRest c (by simp)
          · exact hx.old d hd
        · rintro rest' hrest' d hd
          obtain rfl : rest = rest' := by simpa using hrest'
          exact holdRest d (List.mem_cons_of_mem c hd)
        · rintro d (_ | ⟨_, hd⟩)
          · exact ⟨p, hppid.trans hp, hp⟩
          · exact hx.child d hd
        · rcases hd with _ | ⟨_, hd⟩
          · rw [announcements, announcements_attach, if_pos rfl]
            omega
          · have hsent := hx.sent d hd hopen
            rw [announcements, announcements_attach]
            omega
        · intro d p' hd hp hp' hfinalizing hprocessId hpassed
          have hne := hrest d p' hd hp hp' hfinalizing hprocessId hpassed
          simp only [List.mem_cons, Unlisted, IDEThread.announcing.injEq]
          grind
      · refine ⟨hx.old, ?_, hx.child, hx.once, hx.sent, hx.current, hx.lookedUp, ?_⟩
        · rintro rest' hrest' d hd
          obtain rfl : rest = rest' := by simpa using hrest'
          exact holdRest d (List.mem_cons_of_mem c hd)
        · intro d p' hd hp hp' hfinalizing hprocessId hpassed
          have hne := hrest d p' hd hp hp' hfinalizing hprocessId
          simp only [List.mem_cons, not_or] at hpassed
          simp only [Unlisted, IDEThread.announcing.injEq]
          grind
      · refine ⟨hx.old, ?_, hx.child, hx.once, hx.sent, hx.current, hx.lookedUp, ?_⟩
        · rintro rest' hrest' d hd
          obtain rfl : rest = rest' := by simpa using hrest'
          exact holdRest d (List.mem_cons_of_mem c hd)
        · intro d p' hd hp hp' hfinalizing hprocessId hpassed'
          have hne := hrest d p' hd hp hp' hfinalizing hprocessId hpassed'
          simp only [Unlisted, IDEThread.announcing.injEq]
          by_cases hdc : d = c
          · -- it is known already, as nothing else speaks against reporting it
            subst hdc
            left
            simp only [announces, reports, hp, hstart] at hannounces hpassed
            cases hserver : (s.conns d).server <;> simp_all
          · grind
  · next hide =>
      have hend : x.ide = .announcing [] := by
        simp only [Session.enabled] at h
        split at h
        · exact absurd ‹_› (hide _ _)
        · assumption
        · simp at h
      refine ⟨hx.old, by simp, hx.child, hx.once, hx.sent, hx.current, hx.lookedUp, ?_⟩
      intro d p' hd hp hp' hfinalizing hprocessId hpassed
      have hcomplete := hx.complete d p' hd hp hp' hfinalizing hprocessId hpassed
      simp only [Unlisted, hend] at hcomplete
      grind

/-- The session gets its debuggee: whoever is connected by now is still to be listed. -/
theorem Session.Announcing.attach (hx : x.Announcing s k) (hsound : x.Sound) {pid : Option ℤ}
    (hpid : x.pid = none) :
    Session.Announcing s k { x with pid, server := some v, ide := .starting } := by
  have hannounced : x.announced = false := by
    refine Bool.eq_false_iff.mpr fun h => ?_
    simpa [hpid] using (hsound.announced h).2.2
  refine ⟨hx.old, by simp, fun c hc => ?_, hx.once, hx.sent, hx.current, fun c p hc hp => ?_, ?_⟩
  · obtain ⟨p, -, hp⟩ := hx.child c hc
    simp [hpid] at hp
  · simpa [hpid] using hx.lookedUp c p hc hp
  · intro c p _ _ _ _ _ _
    exact Or.inr (Or.inr (Or.inr (Or.inl ⟨hannounced, by simp⟩)))

theorem Session.Announcing.change (hx : x.Announcing s k) (hsound : x.Sound)
    (hold : ∀ c ∈ s.connections, s.Old c) (h : Session.Change s x x') : x'.Announcing s k := by
  cases h with
  | @act k' a henabled =>
      by_cases ha : a.announces = true
      · cases a with
        | configured answered =>
            obtain rfl : answered = true := ha
            exact hx.configured hsound hold
        | announce => exact hx.announce hsound henabled
        | _ => simp [SessionAction.announces] at ha
      · exact hx.calm (act_calm hsound henabled (Bool.eq_false_iff.mpr ha))
  | propagate => exact hx.calm (x.propagateAfterStart_calm fun _ => rfl)
  | attach hide hserver hpid => exact hx.attach hsound hpid
  | start hide =>
      have hmoves : x.Moves
          { x with initializeRequest := false, startRequest := true, ide := .idle } :=
        ⟨by simp [hide], by simp, rfl⟩
      exact hx.calm (hmoves.calm rfl rfl rfl (fun _ => rfl) id id (Or.inl rfl))
  | @fail v initializeRequest hide =>
      have hmoves : x.Moves
          (Session.failStart { x with initializeRequest } (s.servers v).connection) :=
        ⟨by simp [hide], by simp [failStart], rfl⟩
      refine hx.calm (hmoves.calm rfl rfl rfl (fun d => ?_) id id (Or.inl rfl))
      simp only [announcements, failStart]
      split_ifs
      · exact x.announcements_append (by simp [IDEMessage.isAttach]) d
      · rfl
  | detach =>
      exact hx.calm ⟨rfl, rfl, rfl, fun _ => rfl, id, id, Or.inl rfl, id, fun _ => Iff.rfl⟩
  | finalize => exact hx.calm x.finalize_calm

/-- A step of any thread but the one that accepts servers. -/
theorem announcing_next (hs : ∀ k, (s.sessions k).Announcing s k)
    (hsound : ∀ k, (s.sessions k).Sound) (hold : ∀ c ∈ s.connections, s.Old c)
    (haccepts : a.accepts = false) (henabled : s.enabled a = true) (k : ℕ) :
    ((s.next tokens a).sessions k).Announcing (s.next tokens a) k := by
  refine Session.Announcing.steady ?_ (steady_next haccepts)
  rcases session_next haccepts henabled k with heq | hchange
  · exact heq ▸ hs k
  · obtain ⟨y, active, hy, -, heq⟩ := hchange.change
    have hcalm : y.Calm { y with registered := y.registered && active } :=
      ⟨rfl, rfl, rfl, fun _ => rfl, id, id, Or.inl rfl, id, fun _ => Iff.rfl⟩
    rw [heq]
    exact ((hs k).change (hsound k) hold hy).calm hcalm

/-! ### The thread that accepts servers -/

/-- The condition on the steps of a run: for a server that reports the pid of its parent,
`sessions.get` returns the session that is debugging the parent, if there is one; and a server
that reports none is not taken for a child of a session that has a start request. -/
def FindsParent (s : Adapter) : Action → Prop
  | .lookUp c found => ∀ k p, (s.conns c).ppid = some p → (s.sessions k).pid = some p →
      (s.sessions k).registered = true → (s.sessions k).isFinalizing = false → found = some k
  | .notify c k => (s.conns c).ppid = none → (s.sessions k).startRequest = false
  | _ => True

/-- The thread has not called `sessions.get` yet. -/
def AcceptThread.early : AcceptThread → Bool
  | .lookingUp _ => false
  | .notifying _ _ => false
  | .sending _ _ => false
  | _ => true

theorem Old.frame (hc : s.Old c) (haccepted : s'.accepted = s.accepted)
    (hpending : ∀ d, s'.acceptThread.pending = some d → s.acceptThread.pending = some d) :
    s'.Old c :=
  ⟨haccepted ▸ hc.1, fun d hd => hc.2 d (hpending d hd)⟩

theorem Old.settle (hc : s.Old c) (haccepted : s'.accepted = s.accepted)
    (hpending : s'.acceptThread.pending = none) : s'.Old c :=
  hc.frame haccepted fun d hd => by simp [hpending] at hd

theorem sending_of_early (h : s.acceptThread.early = true) (c k : ℕ) : s.sending c k = 0 := by
  refine if_neg fun heq => ?_
  simp [heq, AcceptThread.early] at h

/-- The thread moves on before it calls `sessions.get`. -/
theorem Session.Announcing.early (hx : x.Announcing s k) (h : s.acceptThread.early = true)
    (h' : s'.acceptThread.early = true) (hold : ∀ c, s.Old c → s'.Old c)
    (hconnections : s'.connections = s.connections)
    (hppid : ∀ c, s.Old c → (s'.conns c).ppid = (s.conns c).ppid)
    (hlisted : ∀ c ∈ s.connections, s.Old c) : x.Announcing s' k := by
  refine ⟨fun c hc => hold c (hx.old c hc),
    fun rest hrest c hc => hold c (hx.oldRest rest hrest c hc),
    fun c hc => hppid c (hx.old c hc) ▸ hx.child c hc, fun c => ?_, fun c hc hopen => ?_,
    fun c hc => ?_, fun c p hc => ?_,
    fun c p hc hp hpid hfinalizing hprocessId hpassed => ?_⟩
  · have honce := hx.once c
    rw [sending_of_early h] at honce
    rwa [sending_of_early h']
  · have hsent := hx.sent c hc hopen
    rw [sending_of_early h] at hsent
    rwa [sending_of_early h']
  · rcases hc with hc | hc <;> simp [hc, AcceptThread.early] at h'
  · simp [hc, AcceptThread.early] at h'
  · rw [hconnections] at hc
    rw [hppid c (hlisted c hc)] at hp
    rcases hx.complete c p hc hp hpid hfinalizing hprocessId hpassed with
      hknown | hthread | hthread | hunlisted
    · exact Or.inl hknown
    · simp [hthread, AcceptThread.early] at h
    · simp [hthread, AcceptThread.early] at h
    · exact Or.inr (Or.inr (Or.inr hunlisted))

/-- The session of the parent is still to be looked up. -/
theorem Session.Announcing.register (hx : x.Announcing s k) (hordered : s.Ordered)
    (h : s.acceptThread = .registering c) :
    x.Announcing { s with connections := s.connections ++ [c], acceptThread := .lookingUp c }
      k := by
  have hpending := hordered.pending c (by rw [h]; rfl)
  have hearly : s.acceptThread.early = true := by rw [h]; rfl
  have hsending := sending_of_early hearly
  refine ⟨fun d hd => (hx.old d hd).settle rfl rfl,
    fun rest hrest d hd => (hx.oldRest rest hrest d hd).settle rfl rfl, hx.child, fun d => ?_,
    fun d hd hopen => ?_, fun d hd => ?_, fun d p hd => by simp at hd,
    fun d p hd hp hpid hfinalizing hprocessId hpassed => ?_⟩
  · exact (hsending d k ▸ hx.once d :)
  · exact (hsending d k ▸ hx.sent d hd hopen :)
  · obtain rfl : c = d := by simpa using hd
    exact hpending.1
  · rcases List.mem_append.mp hd with hd | hd
    · rcases hx.complete d p hd hp hpid hfinalizing hprocessId hpassed with
        hknown | hthread | hthread | hunlisted
      · exact Or.inl hknown
      · simp [h] at hthread
      · simp [h] at hthread
      · exact Or.inr (Or.inr (Or.inr hunlisted))
    · exact Or.inr (Or.inl (congrArg _ (List.mem_singleton.mp hd).symm))

/-- The thread moves on after it has called `sessions.get`; whoever it was dealing with is
known to the session now, or it will still be. -/
theorem Session.Announcing.moveOn (hx : x.Announcing s k) {thread : AcceptThread}
    (hpending : thread.pending = none) (hlooking : ∀ c, thread ≠ .lookingUp c)
    (hlookedUp : ∀ c, thread = .notifying c k → s.acceptThread = .lookingUp c ∧
      ∀ p, (s.conns c).ppid = some p → x.pid = some p)
    (honce : ∀ c, thread = .sending c k → s.acceptThread = .sending c k)
    (hsent : ∀ c, s.acceptThread = .sending c k → thread = .sending c k ∨ x.ideOpen = false)
    (hdone : ∀ c p, s.acceptThread = .lookingUp c ∨ s.acceptThread = .notifying c k →
      (s.conns c).ppid = some p → x.pid = some p → x.isFinalizing = false →
        x.processId = false → c ∈ x.knownSubprocesses ∨ thread = .notifying c k ∨ x.Unlisted) :
    x.Announcing { s with acceptThread := thread } k := by
  refine ⟨fun d hd => (hx.old d hd).settle rfl hpending,
    fun rest hrest d hd => (hx.oldRest rest hrest d hd).settle rfl hpending, hx.child,
    fun d => ?_, fun d hd hopen => ?_, fun d hd => ?_, fun d p hd => (hlookedUp d hd).2 p,
    fun d p hd hp hpid hfinalizing hprocessId hpassed => ?_⟩
  · refine le_trans (Nat.add_le_add_left ?_ _) (hx.once d)
    simp only [sending]
    split_ifs with h h'
    · exact le_rfl
    · exact absurd (honce d h) h'
    · exact Nat.zero_le 1
    · exact le_rfl
  · refine le_trans (hx.sent d hd hopen) (Nat.add_le_add_left ?_ _)
    simp only [sending]
    split_ifs with h h'
    · exact le_rfl
    · rcases hsent d h with h'' | hclosed
      · exact absurd h'' h'
      · simp [hclosed] at hopen
    · exact Nat.zero_le 1
    · exact le_rfl
  · rcases hd with hd | hd
    · exact absurd hd (hlooking d)
    · exact hx.current d (Or.inl (hlookedUp d hd).1)
  · have hmoved := hdone d p
    rcases hx.complete d p hd hp hpid hfinalizing hprocessId hpassed with
      hknown | hthread | hthread | hlisted
    · exact Or.inl hknown
    · rcases hmoved (Or.inl hthread) hp hpid hfinalizing hprocessId with h | h | h
      · exact Or.inl h
      · exact Or.inr (Or.inr (Or.inl h))
      · exact Or.inr (Or.inr (Or.inr (Or.inl h)))
    · rcases hmoved (Or.inr hthread) hp hpid hfinalizing hprocessId with h | h | h
      · exact Or.inl h
      · exact Or.inr (Or.inr (Or.inl h))
      · exact Or.inr (Or.inr (Or.inr (Or.inl h)))
    · exact Or.inr (Or.inr (Or.inr hlisted))

/-- If this is the session of the parent, it is found. -/
theorem Session.Announcing.lookUp (hx : x.Announcing s k) {found : Option ℕ} (hsound : x.Sound)
    (h : s.acceptThread = .lookingUp c) (hfound : found = some k → x.pid = (s.conns c).ppid)
    (hC : ∀ p, (s.conns c).ppid = some p → x.pid = some p → x.registered = true →
      x.isFinalizing = false → found = some k) :
    x.Announcing { s with acceptThread := found.elim .idle (.notifying c) } k := by
  refine hx.moveOn (by cases found <;> rfl) (by cases found <;> simp) ?_ ?_ (by simp [h]) ?_
  · intro d hd
    cases found with
    | none => simp at hd
    | some k' =>
        obtain ⟨rfl, rfl⟩ : c = d ∧ k' = k := by simpa using hd
        exact ⟨h, fun p hp => (hfound rfl).trans hp⟩
  · intro d hd
    cases found <;> simp at hd
  · rintro d p hd hp hpid hfinalizing -
    obtain rfl : c = d := by simpa [h] using hd
    rw [hC p hp hpid (hsound.registered hfinalizing).2 hfinalizing]
    exact Or.inr (Or.inl rfl)

/-- It is known already, or not to be reported at all, or there is no start request yet. -/
theorem Session.Announcing.skip (hx : x.Announcing s k) (hsound : x.Sound)
    (h : s.acceptThread = .notifying c k) (hreports : x.reports c = false) :
    x.Announcing { s with acceptThread := .idle } k := by
  refine hx.moveOn rfl nofun nofun nofun (by simp [h]) ?_
  rintro d p hd hp hpid - hprocessId
  obtain rfl : c = d := by simpa [h] using hd
  by_cases hknown : c ∈ x.knownSubprocesses
  · exact Or.inl hknown
  · have hstart : x.startRequest = false := by simpa [reports, hknown, hprocessId] using hreports
    refine Or.inr (Or.inr ⟨?_, fun rest hrest => ?_⟩)
    · refine Bool.eq_false_iff.mpr fun hannounced => ?_
      simp [(hsound.announced hannounced).1] at hstart
    · simp [(hsound.announcing rest hrest).1] at hstart

/-- The thread is done with another session. -/
theorem Session.Announcing.other {thread : AcceptThread} (hx : x.Announcing s k) {k' : ℕ}
    (hk : k ≠ k') (h : s.acceptThread = .notifying c k' ∨ s.acceptThread = .sending c k')
    (hthread : thread = .idle ∨ thread = .sending c k') :
    x.Announcing { s with acceptThread := thread } k := by
  have hne : k' ≠ k := hk.symm
  refine hx.moveOn ?_ ?_ ?_ ?_ ?_ ?_
  · rcases hthread with rfl | rfl <;> rfl
  · rcases hthread with rfl | rfl <;> simp
  · rcases hthread with rfl | rfl <;> simp
  · rcases hthread with rfl | rfl <;> simp [hne]
  · rcases h with h | h <;> simp [h, hne]
  · rcases h with h | h <;> simp [h, hne]

/-- The channel to the IDE is broken. -/
theorem Session.Announcing.unsent (hx : x.Announcing s k) (h : s.acceptThread = .sending c k)
    (hopen : x.ideOpen = false) : x.Announcing { s with acceptThread := .idle } k :=
  hx.moveOn rfl nofun nofun nofun (fun _ _ => Or.inr hopen) (by simp [h])

/-- The connection is not known to the IDE of this session, and will be reported. -/
theorem Session.Announcing.report (hx : x.Announcing s k) (h : s.acceptThread = .notifying c k)
    (hreports : x.reports c = true) (hppid : (s.conns c).ppid ≠ none) :
    Session.Announcing { s with acceptThread := .sending c k } k
      { x with knownSubprocesses := c :: x.knownSubprocesses } := by
  have hc := hx.current c (Or.inr h)
  obtain ⟨p, hp⟩ := Option.ne_none_iff_exists'.mp hppid
  have hknown : c ∉ x.knownSubprocesses := by
    simp only [reports, Bool.and_eq_true] at hreports
    simpa using hreports.1.2
  refine ⟨?_, fun rest hrest d hd => (hx.oldRest rest hrest d hd).settle rfl rfl, ?_, fun d => ?_,
    fun d hd hopen => ?_, by simp, by simp, ?_⟩
  · rintro d (_ | ⟨_, hd⟩)
    · exact ⟨hc, nofun⟩
    · exact (hx.old d hd).settle rfl rfl
  · rintro d (_ | ⟨_, hd⟩)
    · exact ⟨p, hp, hx.lookedUp c p h hp⟩
    · exact hx.child d hd
  · have honce := hx.once d
    simp only [sending, h, reduceCtorEq, if_false, AcceptThread.sending.injEq, and_true,
      List.mem_cons] at honce ⊢
    by_cases hd : c = d
    · subst hd
      rw [if_neg hknown] at honce
      simpa [announcements] using honce
    · have hne : d ≠ c := fun heq => hd heq.symm
      simpa [announcements, hd, hne] using honce
  · simp only [sending, AcceptThread.sending.injEq, and_true]
    rcases hd with _ | ⟨_, hd⟩
    · rw [if_pos rfl]
      exact Nat.le_add_left 1 _
    · have hsent := hx.sent d hd hopen
      simp only [sending, h, reduceCtorEq, if_false] at hsent
      exact Nat.le_add_right_of_le hsent
  · intro d p' hd hp' hpid hfinalizing hprocessId hpassed
    rcases hx.complete d p' hd hp' hpid hfinalizing hprocessId hpassed with
      hmem | hthread | hthread | hlisted
    · exact Or.inl (List.mem_cons_of_mem c hmem)
    · simp [h] at hthread
    · obtain rfl : c = d := by simpa [h] using hthread
      exact Or.inl List.mem_cons_self
    · exact Or.inr (Or.inr (Or.inr hlisted))

/-- The connection is announced. -/
theorem Session.Announcing.send (hx : x.Announcing s k) (h : s.acceptThread = .sending c k) :
    Session.Announcing { s with acceptThread := .idle } k
      { x with written := x.written ++ [.attach c] } := by
  -- what was on its way has arrived
  have hcount : ∀ d, (x.written ++ [IDEMessage.attach c]).countP (IDEMessage.isAttach d) =
      x.announcements d + s.sending d k := by
    intro d
    rw [announcements_attach, sending, h]
    by_cases hd : d = c
    · simp [hd]
    · have hne : c ≠ d := fun heq => hd heq.symm
      simp [hd, hne]
  refine ⟨fun d hd => (hx.old d hd).settle rfl rfl,
    fun rest hrest d hd => (hx.oldRest rest hrest d hd).settle rfl rfl, hx.child,
    fun d => (hcount d).trans_le (hx.once d),
    fun d hd hopen => (hx.sent d hd hopen).trans_eq (hcount d).symm, by simp, by simp, ?_⟩
  intro d p hd hp hpid hfinalizing hprocessId hpassed
  rcases hx.complete d p hd hp hpid hfinalizing hprocessId hpassed with
    hmem | hthread | hthread | hlisted
  · exact Or.inl hmem
  · simp [h] at hthread
  · simp [h] at hthread
  · exact Or.inr (Or.inr (Or.inr hlisted))

theorem announcing_accepts (hs : ∀ k, (s.sessions k).Announcing s k)
    (hsound : ∀ k, (s.sessions k).Sound) (hordered : s.Ordered) (hC : FindsParent s a)
    (haccepts : a.accepts = true) (henabled : s.enabled a = true) (k : ℕ) :
    ((s.next tokens a).sessions k).Announcing (s.next tokens a) k := by
  have hx := hs k
  have hpending := hordered.pending
  have hlisted : ∀ c ∈ s.connections, s.Old c := fun c hc =>
    ⟨hordered.bound c hc, fun d hd => (hpending d hd).2 c hc⟩
  -- the sessions of the adapter do not matter for one of them
  have hsessions : ∀ {t : Adapter} {sessions : ℕ → Session}, t.Steady { t with sessions } :=
    (Steady.refl _).frame rfl rfl (.refl _) rfl
  cases a with
  | accept =>
      have hthread : s.acceptThread = .idle := by simpa [enabled] using henabled
      have hearly : s.acceptThread.early = true := by rw [hthread]; rfl
      refine hx.early hearly rfl (fun c hc => ⟨hc.1.trans (Nat.lt_succ_self _), ?_⟩) rfl
        (fun _ _ => rfl) hlisted
      rintro d hd
      obtain rfl : s.accepted = d := Option.some.inj hd
      exact hc.1
  | authorize c response =>
      have hthread : s.acceptThread = .authenticating c := by simpa [enabled] using henabled
      have hearly : s.acceptThread.early = true := by rw [hthread]; rfl
      have hppid : ∀ d, ((s.next tokens (.authorize c response)).conns d).ppid =
          (s.conns d).ppid := by
        intro d
        by_cases hd : d = c
        · subst hd
          simp [next, setConnection]
        · simp [next, setConnection, hd]
      by_cases hauthenticate : tokens.authenticate response = true
      · have hthread' : (s.next tokens (.authorize c response)).acceptThread = .querying c :=
          if_pos hauthenticate
        refine hx.early hearly (by rw [hthread']; rfl) (fun d hd => hd.frame rfl fun e he => ?_) rfl
          (fun d _ => hppid d) hlisted
        rw [hthread'] at he
        rw [hthread]
        exact he
      · have hthread' : (s.next tokens (.authorize c response)).acceptThread = .idle :=
          if_neg hauthenticate
        exact hx.early hearly (by rw [hthread']; rfl)
          (fun d hd => hd.settle rfl (by rw [hthread']; rfl)) rfl (fun d _ => hppid d)
          hlisted
  | report c info =>
      have hthread : s.acceptThread = .querying c := by simpa [enabled] using henabled
      have hearly : s.acceptThread.early = true := by rw [hthread]; rfl
      cases info with
      | none =>
          exact hx.early hearly rfl (fun d hd => hd.settle rfl rfl) rfl (fun _ _ => rfl)
            hlisted
      | some info =>
          refine hx.early hearly rfl (fun d hd => hd.frame rfl fun e he => hthread ▸ he) rfl
            (fun d hd => ?_) hlisted
          have hne : d ≠ c := (hd.2 c (by rw [hthread]; rfl)).ne
          simp [next, setConnection, hne]
  | inject c answered =>
      have hthread : s.acceptThread = .injecting c := by simpa [enabled] using henabled
      have hearly : s.acceptThread.early = true := by rw [hthread]; rfl
      cases answered with
      | true =>
          exact hx.early hearly rfl (fun d hd => hd.frame rfl fun e he => hthread ▸ he) rfl
            (fun _ _ => rfl) hlisted
      | false =>
          exact hx.early hearly rfl (fun d hd => hd.settle rfl rfl) rfl (fun _ _ => rfl)
            hlisted
  | register c =>
      have hthread : s.acceptThread = .registering c := by simpa [enabled] using henabled
      have hearly : s.acceptThread.early = true := by rw [hthread]; rfl
      simp only [next]
      split_ifs
      · exact hx.early hearly rfl (fun d hd => hd.settle rfl rfl) rfl (fun _ _ => rfl)
          hlisted
      · exact hx.early hearly rfl (fun d hd => hd.settle rfl rfl) rfl (fun _ _ => rfl)
          hlisted
      · exact hx.register hordered hthread
  | lookUp c found =>
      have hthread : s.acceptThread = .lookingUp c := by
        cases found <;> simp_all [enabled]
      cases found with
      | none => exact hx.lookUp (hsound k) hthread (by simp) (hC k)
      | some k' =>
          refine hx.lookUp (hsound k) hthread ?_ (hC k)
          intro hk
          obtain rfl := Option.some.inj hk
          simp only [enabled, Bool.and_eq_true, decide_eq_true_eq] at henabled
          exact henabled.2
  | notify c k' =>
      simp only [enabled, Bool.and_eq_true, decide_eq_true_eq] at henabled
      obtain ⟨hthread, -⟩ := henabled
      simp only [next, setSession]
      by_cases hk : k = k'
      · subst hk
        split_ifs with hreports
        · have hppid : (s.conns c).ppid ≠ none := by
            intro hnone
            simp [Session.reports, hC hnone] at hreports
          simp only [Function.update_self]
          exact (hx.report hthread hreports hppid).steady hsessions
        · exact hx.skip (hsound k) hthread (by simpa using hreports)
      · split_ifs
        · simp only [Function.update_of_ne hk]
          exact (hx.other hk (Or.inl hthread) (Or.inr rfl)).steady hsessions
        · exact hx.other hk (Or.inl hthread) (Or.inl rfl)
  | send c k' =>
      have hthread : s.acceptThread = .sending c k' := by simpa [enabled] using henabled
      simp only [next, setSession]
      by_cases hk : k = k'
      · subst hk
        split_ifs with hopen
        · simp only [Function.update_self]
          exact (hx.send hthread).steady hsessions
        · exact hx.unsent hthread (by simpa using hopen)
      · split_ifs
        · simp only [Function.update_of_ne hk]
          exact (hx.other hk (Or.inr hthread) (Or.inl rfl)).steady hsessions
        · exact hx.other hk (Or.inr hthread) (Or.inl rfl)
  | _ => simp [Action.accepts] at haccepts

/-! ### Every interleaving -/

/-- The thread is looking for the parent of this connection, or reporting to it. -/
def AcceptThread.reports : AcceptThread → ℕ → Bool
  | .lookingUp conn, c => conn = c
  | .notifying conn _, c => conn = c
  | .sending conn _, c => conn = c
  | _, _ => false

/-- No connection is announced twice, or to the IDE of a session that is not debugging its
parent; and the children of a debuggee are announced to the IDE of its session, if that has
started and is not being finalized, unless they are exempt. -/
structure ReportsChildren (exempt : Session → ℕ → Prop) (s : Adapter) : Prop where
  once : ∀ k c, (s.sessions k).announcements c ≤ 1
  children : ∀ k c, 1 ≤ (s.sessions k).announcements c →
    ∃ p, (s.conns c).ppid = some p ∧ (s.sessions k).pid = some p
  all : ∀ k c p, c ∈ s.connections → s.acceptThread.reports c = false →
    (s.conns c).ppid = some p → (s.sessions k).pid = some p →
      (s.sessions k).announced = true → (s.sessions k).isFinalizing = false →
        (s.sessions k).processId = false → (s.sessions k).ideOpen = true →
          ¬ exempt (s.sessions k) c → (s.sessions k).announcements c = 1

/-- A child that was already being debugged when `configurationDone_request` came to it. -/
def PassedOver (x : Session) (c : ℕ) : Prop := c ∈ x.passedOver

theorem reportsChildren_of (hs : ∀ k, (s.sessions k).Announcing s k)
    (hsound : ∀ k, (s.sessions k).Sound) : s.ReportsChildren PassedOver := by
  refine ⟨fun k c => ?_, fun k c hc => ?_, ?_⟩
  · have honce := (hs k).once c
    split_ifs at honce <;> omega
  · have honce := (hs k).once c
    refine (hs k).child c ?_
    by_contra hknown
    rw [if_neg hknown] at honce
    omega
  · intro k c p hc hthread hp hpid hannounced hfinalizing hprocessId hopen hexempt
    have hide : ∀ rest, (s.sessions k).ide ≠ .announcing rest := by
      intro rest hrest
      simp [((hsound k).announcing rest hrest).2.2.1] at hannounced
    have hknown : c ∈ (s.sessions k).knownSubprocesses := by
      rcases (hs k).complete c p hc hp hpid hfinalizing hprocessId hexempt with
        hknown | hlooking | hnotifying | hunlisted | ⟨rest, hrest, -⟩
      · exact hknown
      · simp [hlooking, AcceptThread.reports] at hthread
      · simp [hnotifying, AcceptThread.reports] at hthread
      · simp [hunlisted.1] at hannounced
      · exact absurd hrest (hide rest)
    have hsending : s.sending c k = 0 := by
      refine if_neg fun heq => ?_
      simp [heq, AcceptThread.reports] at hthread
    have honce := (hs k).once c
    have hsent := (hs k).sent c hknown hopen
    rw [if_pos hknown, hsending] at honce
    rw [hsending] at hsent
    omega

theorem init_reported : init.Reported := by
  constructor <;> simp [init, newSession]

theorem init_announcing : Session.Announcing init k newSession := by
  constructor <;>
    simp [init, newSession, Session.announcements, sending]

theorem init_sound : newSession.Sound := by
  constructor <;> simp [newSession]

/-- **Child processes are announced once, and to the right IDE**, in all runs in which
`sessions.get` finds the parents: all children are, but those that were being debugged already
when "configurationDone" was handled. -/
theorem reportsChildren (h : (adapter tokens).ReachableWithin FindsParent s) :
    s.ReportsChildren PassedOver := by
  have hinv : (adapter tokens).InvariantWithin FindsParent fun s =>
      (s.Ordered ∧ s.Reported) ∧ (∀ k, (s.sessions k).Sound) ∧
        ∀ k, (s.sessions k).Announcing s k := by
    refine ⟨?_, ?_⟩
    · rintro s rfl
      exact ⟨⟨init_ordered, init_reported⟩, fun _ => init_sound, fun _ => init_announcing⟩
    · rintro s s' a ⟨⟨hordered, hreported⟩, hsound, hs⟩ hC hstep
      refine ⟨⟨ordered_step hordered hstep, reported_step hreported hstep⟩,
        sound_step hsound hreported hstep, fun k => ?_⟩
      obtain ⟨-, henabled, rfl⟩ := step_eq_some.mp hstep
      by_cases haccepts : a.accepts = true
      · exact announcing_accepts hs hsound hordered hC haccepts henabled k
      · refine announcing_next hs hsound (fun c hc => ?_) (Bool.eq_false_iff.mpr haccepts)
          henabled k
        exact ⟨hordered.bound c hc, fun d hd => (hordered.pending d hd).2 c hc⟩
  obtain ⟨-, hsound, hs⟩ := hinv.of_reachable h
  exact reportsChildren_of hs hsound

/-- A debug server connects, and is registered; the session that is found for its parent. -/
def connects (c : ℕ) (pid : ℤ) (ppid : Option ℤ) (found : Option ℕ) : List Action :=
  [.accept, .authorize c none, .report c (some (pid, ppid)), .inject c true, .register c,
    .lookUp c found]

/-- An IDE connects, and its session attaches to the server with this pid, or to the first. -/
def attaches (k c : ℕ) (wanted : Option ℤ) : List Action :=
  [.connectIDE, .session k (.initializeRequest "vscode"),
    .session k (.attachRequest wanted false), .session k (.wait c), .attachToSession k c,
    .start k none]

/-- The IDE requests "configurationDone", when there are `n` connections. -/
def configures (k n : ℕ) : List Action :=
  [.session k .configurationDoneRequest, .session k (.configured true)] ++
    List.replicate (n + 1) (.session k .announce)

/-- A process and its child connect, before an IDE attaches to the process. -/
def childConnects : List Action := connects 0 1 none none ++ connects 1 2 (some 1) none

/-- The actions that the condition says nothing about. -/
def Action.findsNothing : Action → Bool
  | .lookUp _ _ => false
  | .notify _ _ => false
  | _ => true

theorem FindsParent.of_findsNothing (h : a.findsNothing = true) (s : Adapter) :
    s.FindsParent a := by
  cases a with
  | lookUp | notify => simp [Action.findsNothing] at h
  | _ => trivial

theorem reportsChildren_child :
    ∃ s, (adapter ⟨none, none⟩).run init
        (childConnects ++ (attaches 0 0 none ++ configures 0 2)) = some s ∧
      (s.sessions 0).announcements 1 = 1 ∧ s.ReportsChildren PassedOver := by
  have hothers : ∀ s, (adapter ⟨none, none⟩).StepsWithin FindsParent s
      (attaches 0 0 none ++ configures 0 2) := fun s =>
    .of_forall fun a ha => .of_findsNothing ((by decide :
      ∀ a ∈ attaches 0 0 none ++ configures 0 2, a.findsNothing = true) a ha)
  have hconnects : (adapter ⟨none, none⟩).StepsWithin FindsParent init childConnects := by
    -- no session has a debuggee yet
    have hnone : ∀ (c k : ℕ) (p : ℤ), (newSession).pid = some p → none = some k := nofun
    exact .cons trivial rfl (.cons trivial rfl (.cons trivial rfl (.cons trivial rfl
      (.cons trivial rfl (.cons (fun k p _ hp _ _ => hnone 0 k p hp) rfl (.cons trivial rfl
        (.cons trivial rfl (.cons trivial rfl (.cons trivial rfl (.cons trivial rfl
          (.cons (fun k p _ hp _ _ => hnone 1 k p hp) rfl trivial)))))))))))
  have hrun : ∃ s₁ s, (adapter ⟨none, none⟩).run init childConnects = some s₁ ∧
      (adapter ⟨none, none⟩).run s₁ (attaches 0 0 none ++ configures 0 2) = some s ∧
      (s.sessions 0).announcements 1 = 1 := ⟨_, _, rfl, rfl, rfl⟩
  obtain ⟨s₁, s, hs₁, hs, hcount⟩ := hrun
  have hreach := Machine.ReachableWithin.run
    (Machine.ReachableWithin.run (.start rfl) hconnects hs₁) (hothers s₁) hs
  exact ⟨s, Machine.run_trans _ hs₁ hs, hcount, reportsChildren hreach⟩

/-- **A child that is debugged already is not announced**: a second IDE has attached to it
before the first one requests "configurationDone". -/
theorem not_reportsChildren :
    ¬ ∀ (tokens : Tokens) (s : Adapter), (adapter tokens).Reachable s →
      s.ReportsChildren fun _ _ => False := by
  intro h
  have hrun : ∃ s, (adapter ⟨none, none⟩).run init (childConnects ++ (attaches 0 0 none ++
        (attaches 1 1 (some 2) ++ configures 0 2))) = some s ∧
      1 ∈ s.connections ∧ s.acceptThread.reports 1 = false ∧ (s.conns 1).ppid = some 1 ∧
      (s.sessions 0).pid = some 1 ∧ (s.sessions 0).announced = true ∧
      (s.sessions 0).isFinalizing = false ∧ (s.sessions 0).processId = false ∧
      (s.sessions 0).ideOpen = true ∧ (s.sessions 0).announcements 1 = 0 :=
    ⟨_, rfl, by decide, rfl, rfl, rfl, rfl, rfl, rfl, rfl, rfl⟩
  obtain ⟨s, hs, hmem, hthread, hppid, hpid, hannounced, hfinalizing, hprocessId, hopen, hcount⟩ :=
    hrun
  have hreach : (adapter ⟨none, none⟩).Reachable s :=
    Machine.reachable_iff_run.mpr ⟨_, _, rfl, hs⟩
  have hone := (h _ s hreach).all 0 1 1 hmem hthread hppid hpid hannounced hfinalizing hprocessId
    hopen id
  simp [hone] at hcount

/-- **A server without a parent is announced as a child** when `sessions.get` takes it for one
of a session that has no debug server, so that its `pid` is `None` as well. -/
theorem reported_without_parent :
    ∃ s, (adapter ⟨none, none⟩).Reachable s ∧ (s.conns 0).ppid = none ∧
      (s.sessions 0).announcements 0 = 1 := by
  have hrun : ∃ s, (adapter ⟨none, none⟩).run init ([.connectIDE,
        .session 0 (.initializeRequest "vscode"), .session 0 (.launchRequest false true)] ++
        connects 0 1 none (some 0) ++ [.notify 0 0, .send 0 0]) = some s ∧
      (s.conns 0).ppid = none ∧ (s.sessions 0).announcements 0 = 1 := ⟨_, rfl, rfl, rfl⟩
  obtain ⟨s, hs, hppid, hcount⟩ := hrun
  exact ⟨s, Machine.reachable_iff_run.mpr ⟨_, _, rfl, hs⟩, hppid, hcount⟩

end Adapter

end Ptvsd
