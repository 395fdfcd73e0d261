import Ptvsd.Adapter

/-!
# What the Steps of the Adapter Do

Every action of the adapter changes a small part of its state. The relations of this module
say what stays as it is, and what can happen to a single session; the invariants of the
adapter are derived from them.

## Main results

* `quiet_next`: the steps that leave the ownership of the connections alone.
* `steady_next`: the steps that leave the reports of the servers alone.
* `handling_next`: the steps that leave the handler threads of the connections alone.
* `session_next`, `session_next_of_accepts`: what the steps do to a session.
-/

namespace Ptvsd

namespace Adapter

variable {tokens : Tokens} {s s' t : Adapter} {a : Action} {c v k : ℕ} {x x' : Session}

/-! ### Steps that leave the ownership alone -/

/-- What a step of a session does, apart from attaching and detaching its server. -/
structure Session.Keeps (x x' : Session) : Prop where
  server : x'.server = x.server
  pid : x'.pid = x.pid
  finalizes : x'.isFinalizing = x.isFinalizing ∧ x'.detaching = x.detaching ∨
    x.isFinalizing = false ∧ x'.isFinalizing = true ∧ x'.detaching = true

namespace Session.Keeps

variable {x'' : Session}

/-- Nothing happens. -/
protected theorem refl (x : Session) : x.Keeps x := ⟨rfl, rfl, Or.inl ⟨rfl, rfl⟩⟩

/-- One thing happens after the other. -/
protected theorem trans (h : x.Keeps x') (h' : x'.Keeps x'') : x.Keeps x'' := by
  refine ⟨h'.server.trans h.server, h'.pid.trans h.pid, ?_⟩
  rcases h.finalizes, h'.finalizes with ⟨⟨h₁, h₂⟩ | ⟨h₁, h₂, h₃⟩, ⟨h₄, h₅⟩ | ⟨h₄, h₅, h₆⟩⟩
  · exact Or.inl ⟨h₄.trans h₁, h₅.trans h₂⟩
  · exact Or.inr ⟨h₁ ▸ h₄, h₅, h₆⟩
  · exact Or.inr ⟨h₁, h₄.trans h₂, h₅.trans h₃⟩
  · exact Or.inr ⟨h₁, h₅, h₆⟩

/-- A session that is being finalized stays so. -/
theorem isFinalizing (h : x.Keeps x') (hx : x.isFinalizing = true) : x'.isFinalizing = true := by
  rcases h.finalizes with ⟨heq, -⟩ | ⟨-, hx', -⟩
  · exact heq.trans hx
  · exact hx'

/-- No step but detaching itself gets beyond the point where the server is detached. -/
theorem notDetached (h : x.Keeps x') (hx' : x'.isFinalizing = false ∨ x'.detaching = true) :
    x.isFinalizing = false ∨ x.detaching = true := by
  rcases h.finalizes with ⟨heq, heq'⟩ | ⟨hx, -, -⟩
  · rwa [heq, heq'] at hx'
  · exact Or.inl hx

/-- Only a session that is being finalized is detaching. -/
theorem detaching (h : x.Keeps x') (hx : x.detaching = true → x.isFinalizing = true) :
    x'.detaching = true → x'.isFinalizing = true := by
  rcases h.finalizes with ⟨heq, heq'⟩ | ⟨-, hx', -⟩
  · rwa [heq, heq']
  · exact fun _ => hx'

end Session.Keeps

/-- A session that is being finalized has its server until that is detached. -/
theorem Session.finalize_keeps (x : Session) : x.Keeps x.finalize := by
  rw [finalize]
  split_ifs with h
  · exact .refl x
  · exact ⟨rfl, rfl, Or.inr ⟨Bool.eq_false_iff.mpr h, rfl, rfl⟩⟩

/-- An event does not change the server of a session. -/
theorem Session.propagateAfterStart_keeps (x : Session) (event : IDEMessage) :
    x.Keeps (x.propagateAfterStart event) := by
  rw [propagateAfterStart]
  split
  · exact ⟨rfl, rfl, Or.inl ⟨rfl, rfl⟩⟩
  · split_ifs
    · exact ⟨rfl, rfl, Or.inl ⟨rfl, rfl⟩⟩
    · exact .refl x

/-- Neither do the actions of the session itself. -/
theorem Session.next_keeps (s : Adapter) (x : Session) (a : SessionAction) :
    x.Keeps (x.next s a) := by
  have hsame : ∀ x' : Session, x'.server = x.server → x'.pid = x.pid →
      x'.isFinalizing = x.isFinalizing → x'.detaching = x.detaching → x.Keeps x' :=
    fun _ h₁ h₂ h₃ h₄ => ⟨h₁, h₂, Or.inl ⟨h₃, h₄⟩⟩
  cases a with
  | launchRequest processId noDebug =>
      cases noDebug <;> exact hsame _ rfl rfl rfl rfl
  | configured answered => cases answered <;> exact hsame _ rfl rfl rfl rfl
  | announce =>
      simp only [next]
      split
      · split_ifs <;> exact hsame _ rfl rfl rfl rfl
      · exact hsame _ rfl rfl rfl rfl
  | delegate body =>
      simp only [next]
      split
      · split_ifs <;> exact hsame _ rfl rfl rfl rfl
      · exact .refl x
  | finalize => exact x.finalize_keeps
  | ideDisconnect =>
      have h := Session.finalize_keeps
        { x with ideConnected := false, ideOpen := false, ide := .ended }
      exact ⟨h.server, h.pid, h.finalizes⟩
  | launcherDisconnect =>
      have h := Session.finalize_keeps { x with launcher := some false }
      exact ⟨h.server, h.pid, h.finalizes⟩
  | _ => exact hsame _ rfl rfl rfl rfl

/-- From `s` to `s'`, no connection changes its owner. -/
structure Quiet (s s' : Adapter) : Prop where
  servers : s'.servers = s.servers
  created : s'.created = s.created
  server : ∀ c, (s'.conns c).server = (s.conns c).server
  handlers : ∀ c, (s'.conns c).handlers = (s.conns c).handlers
  sessions : ∀ k, (s.sessions k).Keeps (s'.sessions k)

/-- Nothing happens. -/
protected theorem Quiet.refl (s : Adapter) : s.Quiet s :=
  ⟨rfl, rfl, fun _ => rfl, fun _ => rfl, fun _ => .refl _⟩

/-- One thing happens after the other. -/
protected theorem Quiet.trans (h : s.Quiet s') (h' : s'.Quiet t) : s.Quiet t :=
  ⟨h'.servers.trans h.servers, h'.created.trans h.created,
    fun c => (h'.server c).trans (h.server c), fun c => (h'.handlers c).trans (h.handlers c),
    fun k => (h.sessions k).trans (h'.sessions k)⟩

/-- The other parts of the state do not matter. -/
theorem Quiet.frame (h : s.Quiet s') (hservers : t.servers = s'.servers)
    (hcreated : t.created = s'.created) (hconns : t.conns = s'.conns)
    (hsessions : t.sessions = s'.sessions) : s.Quiet t :=
  ⟨hservers.trans h.servers, hcreated.trans h.created, fun c => hconns ▸ h.server c,
    fun c => hconns ▸ h.handlers c, fun k => hsessions ▸ h.sessions k⟩

/-- A session is changed, but not its server. -/
theorem quiet_setSession {x : Session} (hx : (s.sessions k).Keeps x) :
    s.Quiet (s.setSession k x) := by
  refine ⟨rfl, rfl, fun _ => rfl, fun _ => rfl, fun k' => ?_⟩
  by_cases hk : k' = k
  · subst hk
    simpa [setSession] using hx
  · simpa [setSession, hk] using Session.Keeps.refl _

/-- A connection is changed, but not its owner. -/
theorem quiet_setConnection {conn : Connection} (hserver : conn.server = (s.conns c).server)
    (hhandlers : conn.handlers = (s.conns c).handlers) : s.Quiet (s.setConnection c conn) := by
  refine ⟨rfl, rfl, fun c' => ?_, fun c' => ?_, fun _ => .refl _⟩
  · by_cases hc : c' = c
    · subst hc
      simpa [setConnection] using hserver
    · simp [setConnection, hc]
  · by_cases hc : c' = c
    · subst hc
      simpa [setConnection] using hhandlers
    · simp [setConnection, hc]

/-- A handler thread moves on. -/
theorem setHandling_quiet (s : Adapter) (c : ℕ) (handling : Handling) :
    s.Quiet (s.setHandling c handling) := quiet_setConnection rfl rfl

/-- A session that is not active any more is removed from the list, but keeps its server. -/
theorem notifyChanged_quiet (s : Adapter) (k : ℕ) : s.Quiet (s.notifyChanged k) :=
  quiet_setSession ⟨rfl, rfl, Or.inl ⟨rfl, rfl⟩⟩

/-- A connection is removed from the list. -/
theorem deregister_quiet (s : Adapter) (c v : ℕ) : s.Quiet (s.deregister c v) := by
  rw [deregister]
  split_ifs
  · exact (s.setHandling_quiet c _).frame rfl rfl rfl rfl
  · exact (Quiet.refl s).frame rfl rfl rfl rfl

/-- The handlers of a connection do not change its owner. -/
theorem handleConnection_quiet (s : Adapter) (c : ℕ) (message : Message) :
    s.Quiet (s.handleConnection c message) := by
  cases message with
  | event | request => exact s.setHandling_quiet c _
  | disconnect =>
      have h : s.Quiet (s.setConnection c { s.conns c with disconnected := true }) :=
        quiet_setConnection rfl rfl
      simp only [handleConnection]
      split
      · exact h.trans (deregister_quiet _ c _)
      · exact (h.trans (setHandling_quiet _ c .ended)).frame rfl rfl rfl rfl

/-- Neither do those of a server. -/
theorem handleServer_quiet (s : Adapter) (c v : ℕ) (message : Message) :
    s.Quiet (s.handleServer c v message) := by
  cases message with
  | event name body =>
      have h : s.Quiet (s.setHandling c .idle) := s.setHandling_quiet c _
      simp only [handleServer]
      split_ifs
      · exact h.trans (quiet_setSession (Session.propagateAfterStart_keeps _ _))
      · exact h
  | request => exact (Quiet.refl s).frame rfl rfl rfl rfl
  | disconnect => exact s.deregister_quiet c v

/-- A start that fails changes the session only. -/
theorem failStart_quiet (h : (s.sessions k).Keeps x) : s.Quiet (s.failStart k x) := by
  rw [failStart]
  split
  · exact quiet_setSession (h.trans ⟨rfl, rfl, Or.inl ⟨rfl, rfl⟩⟩)
  · exact .refl s

/-- The actions that may change the owner of a connection. -/
def Action.changesOwner : Action → Bool
  | .attachToSession _ _ => true
  | .disconnect _ _ => true
  | .detach _ => true
  | _ => false

/-- **All other steps leave the ownership alone.** -/
theorem quiet_next (h : a.changesOwner = false) : s.Quiet (s.next tokens a) := by
  have hrefl : s.Quiet s := .refl s
  cases a with
  | attachToSession | disconnect | detach => simp [Action.changesOwner] at h
  | exit | accept | inject | connectIDE => exact hrefl.frame rfl rfl rfl rfl
  | authorize c response =>
      have h : s.Quiet (s.setConnection c { s.conns c with authorization := response }) :=
        quiet_setConnection rfl rfl
      exact h.frame rfl rfl rfl rfl
  | report c info =>
      cases info with
      | none => exact hrefl.frame rfl rfl rfl rfl
      | some info =>
          have h : s.Quiet (s.setConnection c { s.conns c with pid := info.1, ppid := info.2 }) :=
            quiet_setConnection rfl rfl
          exact h.frame rfl rfl rfl rfl
  | register c =>
      simp only [next]
      split_ifs <;> exact hrefl.frame rfl rfl rfl rfl
  | lookUp c k => cases k <;> exact hrefl.frame rfl rfl rfl rfl
  | notify c k =>
      have h : s.Quiet (s.setSession k { s.sessions k with
          knownSubprocesses := c :: (s.sessions k).knownSubprocesses }) :=
        quiet_setSession ⟨rfl, rfl, Or.inl ⟨rfl, rfl⟩⟩
      simp only [next]
      split_ifs
      · exact h.frame rfl rfl rfl rfl
      · exact hrefl.frame rfl rfl rfl rfl
  | send c k =>
      have h : s.Quiet (s.setSession k { s.sessions k with
          written := (s.sessions k).written ++ [.attach c] }) :=
        quiet_setSession ⟨rfl, rfl, Or.inl ⟨rfl, rfl⟩⟩
      simp only [next]
      split_ifs
      · exact h.frame rfl rfl rfl rfl
      · exact hrefl.frame rfl rfl rfl rfl
  | receive c message => exact s.setHandling_quiet c _
  | handle c =>
      simp only [next]
      split
      · exact s.handleServer_quiet c _ _
      · exact s.handleConnection_quiet c _
      · exact hrefl
  | start k response =>
      simp only [next]
      split_ifs
      · exact quiet_setSession ⟨rfl, rfl, Or.inl ⟨rfl, rfl⟩⟩
      · exact hrefl.frame rfl rfl rfl rfl
      · exact failStart_quiet (.refl _)
  | fail k initialized => exact failStart_quiet ⟨rfl, rfl, Or.inl ⟨rfl, rfl⟩⟩
  | session k a =>
      exact (quiet_setSession ((s.sessions k).next_keeps s a)).trans (notifyChanged_quiet _ k)

/-! ### Steps that leave the reports of the servers alone -/

/-- From `s` to `s'`, the thread that accepts servers does not move, and no connection is
added. -/
structure Steady (s s' : Adapter) : Prop where
  accepted : s'.accepted = s.accepted
  acceptThread : s'.acceptThread = s.acceptThread
  connections : s'.connections.Sublist s.connections
  authorization : ∀ c, (s'.conns c).authorization = (s.conns c).authorization
  pid : ∀ c, (s'.conns c).pid = (s.conns c).pid
  ppid : ∀ c, (s'.conns c).ppid = (s.conns c).ppid

/-- Nothing happens. -/
protected theorem Steady.refl (s : Adapter) : s.Steady s :=
  ⟨rfl, rfl, .refl _, fun _ => rfl, fun _ => rfl, fun _ => rfl⟩

/-- One thing happens after the other. -/
protected theorem Steady.trans (h : s.Steady s') (h' : s'.Steady t) : s.Steady t :=
  ⟨h'.accepted.trans h.accepted, h'.acceptThread.trans h.acceptThread,
    h'.connections.trans h.connections, fun c => (h'.authorization c).trans (h.authorization c),
    fun c => (h'.pid c).trans (h.pid c), fun c => (h'.ppid c).trans (h.ppid c)⟩

/-- The parts of the state about servers and sessions do not matter. -/
theorem Steady.frame (h : s.Steady s') (haccepted : t.accepted = s'.accepted)
    (hthread : t.acceptThread = s'.acceptThread)
    (hconnections : t.connections.Sublist s'.connections) (hconns : t.conns = s'.conns) :
    s.Steady t :=
  ⟨haccepted.trans h.accepted, hthread.trans h.acceptThread, hconnections.trans h.connections,
    fun c => hconns ▸ h.authorization c, fun c => hconns ▸ h.pid c, fun c => hconns ▸ h.ppid c⟩

/-- A connection is changed, but not what is known of its process. -/
theorem steady_setConnection {conn : Connection}
    (hauthorization : conn.authorization = (s.conns c).authorization)
    (hpid : conn.pid = (s.conns c).pid) (hppid : conn.ppid = (s.conns c).ppid) :
    s.Steady (s.setConnection c conn) := by
  refine ⟨rfl, rfl, .refl _, fun c' => ?_, fun c' => ?_, fun c' => ?_⟩
  all_goals
    by_cases hc : c' = c
    · subst hc
      simpa [setConnection]
    · simp [setConnection, hc]

/-- A handler thread moves on. -/
theorem setHandling_steady (s : Adapter) (c : ℕ) (handling : Handling) :
    s.Steady (s.setHandling c handling) := steady_setConnection rfl rfl rfl

/-- A connection is removed from the list. -/
theorem deregister_steady (s : Adapter) (c v : ℕ) : s.Steady (s.deregister c v) := by
  rw [deregister]
  split_ifs
  · exact (s.setHandling_steady c _).frame rfl rfl List.erase_sublist rfl
  · exact (Steady.refl s).frame rfl rfl (.refl _) rfl

/-- The handlers of a connection do not change what is known of its process. -/
theorem handleConnection_steady (s : Adapter) (c : ℕ) (message : Message) :
    s.Steady (s.handleConnection c message) := by
  cases message with
  | event | request => exact s.setHandling_steady c _
  | disconnect =>
      have h : s.Steady (s.setConnection c { s.conns c with disconnected := true }) :=
        steady_setConnection rfl rfl rfl
      simp only [handleConnection]
      split
      · exact h.trans (deregister_steady _ c _)
      · exact (h.trans (setHandling_steady _ c .ended)).frame rfl rfl List.erase_sublist rfl

/-- Neither do those of a server. -/
theorem handleServer_steady (s : Adapter) (c v : ℕ) (message : Message) :
    s.Steady (s.handleServer c v message) := by
  cases message with
  | event name body =>
      have h : s.Steady (s.setHandling c .idle) := s.setHandling_steady c _
      simp only [handleServer]
      split_ifs
      · exact h.frame rfl rfl (.refl _) rfl
      · exact h
  | request => exact (Steady.refl s).frame rfl rfl (.refl _) rfl
  | disconnect => exact s.deregister_steady c v

/-- A start that fails changes the session only. -/
theorem failStart_steady : s.Steady (s.failStart k x) := by
  rw [failStart]
  split <;> exact (Steady.refl s).frame rfl rfl (.refl _) rfl

/-- The actions of the thread that accepts servers. -/
def Action.accepts : Action → Bool
  | .accept => true
  | .authorize _ _ => true
  | .report _ _ => true
  | .inject _ _ => true
  | .register _ => true
  | .lookUp _ _ => true
  | .notify _ _ => true
  | .send _ _ => true
  | _ => false

/-- **All other steps leave the reports of the servers alone.** -/
theorem steady_next (h : a.accepts = false) : s.Steady (s.next tokens a) := by
  have hrefl : s.Steady s := .refl s
  cases a with
  | accept | authorize | report | inject | register | lookUp | notify | send =>
      simp [Action.accepts] at h
  | exit | connectIDE | session => exact hrefl.frame rfl rfl (.refl _) rfl
  | receive c message => exact s.setHandling_steady c _
  | handle c =>
      simp only [next]
      split
      · exact s.handleServer_steady c _ _
      · exact s.handleConnection_steady c _
      · exact hrefl
  | disconnect c v => exact (s.setHandling_steady c .ended).frame rfl rfl (.refl _) rfl
  | attachToSession k c =>
      have h : s.Steady (s.setConnection c
          { s.conns c with server := some s.created, handlers := some s.created }) :=
        steady_setConnection rfl rfl rfl
      simp only [next]
      split_ifs
      · exact hrefl.frame rfl rfl (.refl _) rfl
      · exact h.frame rfl rfl (.refl _) rfl
  | start k response =>
      simp only [next]
      split_ifs
      · exact hrefl.frame rfl rfl (.refl _) rfl
      · exact hrefl.frame rfl rfl (.refl _) rfl
      · exact failStart_steady
  | fail k initialized => exact failStart_steady
  | detach k =>
      simp only [next]
      split
      · next v _ =>
          have h : s.Steady (s.setConnection (s.servers v).connection
              { s.conns (s.servers v).connection with server := none, handlers := none }) :=
            steady_setConnection rfl rfl rfl
          exact h.frame rfl rfl (.refl _) rfl
      · exact hrefl.frame rfl rfl (.refl _) rfl

/-! ### Steps that leave the handler threads alone -/

/-- The actions of the handler threads of the connections. -/
def Action.handles : Action → Bool
  | .receive _ _ => true
  | .handle _ => true
  | .disconnect _ _ => true
  | _ => false

/-- A connection is changed, but not its handler thread. -/
theorem handling_update {conns : ℕ → Connection} {conn : Connection}
    (h : conn.handling = (conns c).handling) (d : ℕ) :
    (Function.update conns c conn d).handling = (conns d).handling := by
  by_cases hd : d = c
  · subst hd
    simpa
  · simp [hd]

/-- A start that fails changes no connection. -/
theorem conns_failStart : (s.failStart k x).conns = s.conns := by
  rw [failStart]
  split <;> rfl

/-- The other threads do not move those threads. -/
theorem handling_next (h : a.handles = false) (d : ℕ) :
    ((s.next tokens a).conns d).handling = (s.conns d).handling := by
  cases a with
  | receive | handle | disconnect => simp [Action.handles] at h
  | exit | accept | inject | connectIDE | session => rfl
  | authorize c response => exact handling_update (by rfl) d
  | report c info =>
      cases info with
      | none => rfl
      | some info => exact handling_update (by rfl) d
  | register | notify | send =>
      simp only [next]
      split_ifs <;> rfl
  | start k response =>
      simp only [next]
      split_ifs
      · rfl
      · rfl
      · rw [conns_failStart]
  | fail k initialized => exact congrArg Connection.handling (congrFun conns_failStart d)
  | lookUp c k => cases k <;> rfl
  | attachToSession k c =>
      simp only [next]
      split_ifs
      · rfl
      · exact handling_update (by rfl) d
  | detach k =>
      simp only [next]
      split
      · exact handling_update (by rfl) d
      · rfl

/-! ### What can happen to a session -/

/-- From `x` to `x'`, a thread of the adapter in the state `s` has worked on the session, other
than the one that accepts servers. -/
inductive Session.Change (s : Adapter) (x : Session) : Session → Prop
  | act {k : ℕ} {a : SessionAction} : x.enabled s k a = true → Change s x (x.next s a)
  | propagate {c v : ℕ} {message : Message} {name : String} {body : Json} :
      (s.conns c).handling = .running message (some v) →
      Change s x (x.propagateAfterStart (.event (s.servers v).connection name body))
  | attach {c v : ℕ} : x.ide = .found c → x.server = none → x.pid = none →
      Change s x { x with pid := (s.conns c).pid, server := some v, ide := .starting }
  | start : x.ide = .starting →
      Change s x { x with initializeRequest := false, startRequest := true, ide := .idle }
  | fail {v : ℕ} {initializeRequest : Bool} : x.ide = .starting → x.server = some v →
      Change s x (Session.failStart { x with initializeRequest } (s.servers v).connection)
  | detach : x.detaching = true → Change s x { x with detaching := false }
  | finalize : Change s x x.finalize

/-- The session after `notify_changed`, if that is called at the end of the step. -/
structure Session.ChangeNotified (s : Adapter) (x x' : Session) : Prop where
  change : ∃ y active, Session.Change s x y ∧ (y.ideConnected = true → active = true) ∧
    x' = { y with registered := y.registered && active }

/-- A change after which `notify_changed` is not called. -/
theorem Session.Change.notified (h : Session.Change s x x') : Session.ChangeNotified s x x' :=
  ⟨x', true, h, fun _ => rfl, by simp⟩

/-- One session is set, the others stay. -/
theorem sessions_setSession (s : Adapter) (k k' : ℕ) (x : Session) :
    (s.setSession k x).sessions k' = if k' = k then x else s.sessions k' := by
  simp [setSession, Function.update_apply]

/-- At most one session changes. -/
theorem changed_setSession (h : Session.Change s (s.sessions k) x) (k' : ℕ)
    (hsessions : s'.sessions = s.sessions) :
    (s'.setSession k x).sessions k' = s.sessions k' ∨
      Session.ChangeNotified s (s.sessions k') ((s'.setSession k x).sessions k') := by
  rw [sessions_setSession, hsessions]
  split_ifs with hk
  · subst hk
    exact Or.inr h.notified
  · exact Or.inl rfl

/-- At most one session changes, also if `notify_changed` is called. -/
theorem changed_notifyChanged (h : Session.Change s (s.sessions k) x) (k' : ℕ)
    (hsessions : s'.sessions = s.sessions) :
    ((s'.setSession k x).notifyChanged k).sessions k' = s.sessions k' ∨
      Session.ChangeNotified s (s.sessions k')
        (((s'.setSession k x).notifyChanged k).sessions k') := by
  rw [notifyChanged, sessions_setSession, sessions_setSession, sessions_setSession, if_pos rfl,
    hsessions]
  split_ifs with hk
  · subst hk
    refine Or.inr ⟨x, _, h, fun hide => ?_, rfl⟩
    simp [active, hide]
  · exact Or.inl rfl

/-- A start that fails changes one session. -/
theorem changed_failStart (hide : (s.sessions k).ide = .starting) (initializeRequest : Bool)
    (k' : ℕ) :
    (s.failStart k { s.sessions k with initializeRequest }).sessions k' = s.sessions k' ∨
      Session.ChangeNotified s (s.sessions k')
        ((s.failStart k { s.sessions k with initializeRequest }).sessions k') := by
  rw [failStart]
  split
  · next v hserver => exact changed_setSession (.fail hide hserver) k' rfl
  · exact Or.inl rfl

/-- To remove a connection from the list changes no session. -/
theorem sessions_deregister (s : Adapter) (c v : ℕ) : (s.deregister c v).sessions = s.sessions := by
  rw [deregister]
  split_ifs <;> rfl

/-- **What a step does to a session**: nothing, or one of the changes. -/
theorem session_next (haccepts : a.accepts = false) (henabled : s.enabled a = true) (k' : ℕ) :
    (s.next tokens a).sessions k' = s.sessions k' ∨
      Session.ChangeNotified s (s.sessions k') ((s.next tokens a).sessions k') := by
  cases a with
  | accept | authorize | report | inject | register | lookUp | notify | send =>
      simp [Action.accepts] at haccepts
  | exit | receive | connectIDE => exact Or.inl rfl
  | handle c =>
      simp only [next]
      split
      · next message v hrunning =>
          cases message with
          | event name body =>
              simp only [handleServer]
              split_ifs
              · exact changed_setSession (.propagate hrunning) k' rfl
              · exact Or.inl rfl
          | request => exact Or.inl rfl
          | disconnect => exact Or.inl (congrFun (s.sessions_deregister c v) k')
      · next message hrunning =>
          left
          cases message with
          | event | request => rfl
          | disconnect =>
              simp only [handleConnection]
              split
              · rw [sessions_deregister]
                rfl
              · rfl
      · exact Or.inl rfl
  | disconnect c v => exact changed_notifyChanged .finalize k' rfl
  | attachToSession k c =>
      simp only [enabled, Bool.and_eq_true, decide_eq_true_eq] at henabled
      simp only [next]
      split_ifs with hif
      · exact Or.inl rfl
      · simp only [Bool.or_eq_true, Option.isSome_iff_ne_none, not_or, not_not] at hif
        exact changed_setSession (.attach henabled.2 hif.1.2 hif.2) k' rfl
  | start k response =>
      simp only [next]
      have hide : (s.sessions k).ide = .starting := by simpa [enabled] using henabled
      split_ifs
      · exact changed_setSession (.start hide) k' rfl
      · exact Or.inl rfl
      · exact changed_failStart hide (s.sessions k).initializeRequest k'
  | fail k initialized =>
      exact changed_failStart (by simpa [enabled] using henabled) _ k'
  | detach k =>
      simp only [next]
      split <;> exact changed_notifyChanged (.detach henabled) k' rfl
  | session k a =>
      simp only [enabled, Bool.and_eq_true] at henabled
      exact changed_notifyChanged (.act henabled.2) k' rfl

/-- What the thread that accepts servers does to a session. -/
theorem session_next_of_accepts (haccepts : a.accepts = true) (k : ℕ) :
    (s.next tokens a).sessions k = s.sessions k ∨
      (∃ c, a = .notify c k ∧ (s.next tokens a).sessions k = { s.sessions k with
        knownSubprocesses := c :: (s.sessions k).knownSubprocesses }) ∨
      ∃ c, a = .send c k ∧ (s.next tokens a).sessions k = { s.sessions k with
        written := (s.sessions k).written ++ [.attach c] } := by
  cases a with
  | accept | authorize | inject => exact Or.inl rfl
  | report c info => cases info <;> exact Or.inl rfl
  | lookUp c found => cases found <;> exact Or.inl rfl
  | register c =>
      left
      simp only [next]
      split_ifs <;> rfl
  | notify c k' =>
      simp only [next, setSession]
      split_ifs
      · by_cases hk : k = k'
        · subst hk
          exact Or.inr (Or.inl ⟨c, rfl, by simp⟩)
        · exact Or.inl (by simp [hk])
      · exact Or.inl rfl
  | send c k' =>
      simp only [next, setSession]
      split_ifs
      · by_cases hk : k = k'
        · subst hk
          exact Or.inr (Or.inr ⟨c, rfl, by simp⟩)
        · exact Or.inl (by simp [hk])
      · exact Or.inl rfl
  | _ => simp [Action.accepts] at haccepts

end Adapter

end Ptvsd
