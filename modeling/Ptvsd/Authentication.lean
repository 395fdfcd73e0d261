import Ptvsd.Ownership

/-!
# The Boundary Between the Servers and the IDEs

A process that connects to the port for debug servers can send any messages, from the start.
They are handled by the `Connection`, which ignores events and rejects requests, until a
session attaches to it; and it is only in the list from which sessions choose when it has
authenticated itself. The `Server` passes its events on, but no requests.

## Main results

* `trusted`: with access tokens, in every run, only connections that carried the token of the
  adapter are listed, or attached to a session, or written about to an IDE; and no request of
  any connection is.
-/

namespace Ptvsd

namespace Adapter

variable {tokens : Tokens} {s s' : Adapter} {a : Action} {c v k : ℕ} {x x' : Session}

/-- The response of the connection to "pydevdAuthorize" carried the token of the adapter: the one
that it is asked for by `Connection.__init__`, before it is listed. When a session starts, the
connection is asked once more; if it does not carry the token then, it stays listed and attached,
and only the start fails, or the process ends. -/
def Authorized (tokens : Tokens) (s : Adapter) (c : ℕ) : Prop :=
  ∃ body, (s.conns c).authorization = some body ∧ tokens.carriedBy body = true

/-- The connection that a message to an IDE comes from, or is about. -/
def IDEMessage.conn : IDEMessage → ℕ
  | .event source _ _ => source
  | .response source _ => source
  | .failure source => source
  | .request source _ => source
  | .attach conn => conn

/-- A request of a debug server. -/
def IDEMessage.isRequest : IDEMessage → Bool
  | .request _ _ => true
  | _ => false

/-! ### Sessions -/

/-- What a message to an IDE may be, if it is only about the connections in `P`. -/
def IDEMessage.Permitted (P : ℕ → Prop) (e : IDEMessage) : Prop :=
  P e.conn ∧ e.isRequest = false

/-- A session that deals with the connections in `P` only. -/
structure Session.Within (P : ℕ → Prop) (x : Session) : Prop where
  found : ∀ c, x.ide = .found c → P c
  announcing : ∀ rest, x.ide = .announcing rest → ∀ c ∈ rest, P c
  deferred : ∀ e ∈ x.deferredEvents.getD [], e.Permitted P
  written : ∀ e ∈ x.written, e.Permitted P

namespace Session.Within

variable {P Q : ℕ → Prop}

/-- A weaker condition on the connections. -/
theorem mono (hx : x.Within P) (h : ∀ c, P c → Q c) : x.Within Q :=
  ⟨fun c hc => h c (hx.found c hc), fun rest hrest c hc => h c (hx.announcing rest hrest c hc),
    fun e he => ⟨h _ (hx.deferred e he).1, (hx.deferred e he).2⟩,
    fun e he => ⟨h _ (hx.written e he).1, (hx.written e he).2⟩⟩

/-- The handler of the IDE gets hold of no connection, and nothing is written. -/
theorem frame (hx : x.Within P) (hfound : ∀ c, x'.ide = .found c → x.ide = .found c)
    (hannouncing : ∀ rest, x'.ide = .announcing rest → x.ide = .announcing rest)
    (hdeferred : x'.deferredEvents = x.deferredEvents) (hwritten : x'.written = x.written) :
    x'.Within P :=
  ⟨fun c hc => hx.found c (hfound c hc),
    fun rest hrest => hx.announcing rest (hannouncing rest hrest), hdeferred ▸ hx.deferred,
    hwritten ▸ hx.written⟩

/-- A session that is finalized writes nothing new. -/
theorem finalize (hx : x.Within P) : x.finalize.Within P := by
  rw [Session.finalize]
  split_ifs
  · exact hx
  · exact ⟨hx.found, hx.announcing, hx.deferred, hx.written⟩

/-- The events that were put off are written. -/
theorem propagateDeferredEvents (hx : x.Within P) : x.propagateDeferredEvents.Within P := by
  refine ⟨hx.found, hx.announcing, fun e he => ?_, fun e he => ?_⟩
  · simp [Session.propagateDeferredEvents] at he
  · rcases List.mem_append.mp he with he | he
    · exact hx.written e he
    · exact hx.deferred e he

/-- An event of a permitted connection is written, or put off. -/
theorem propagateAfterStart {event : IDEMessage} (hx : x.Within P) (h : event.Permitted P) :
    (x.propagateAfterStart event).Within P := by
  rw [Session.propagateAfterStart]
  split
  · next events hevents =>
      refine ⟨hx.found, hx.announcing, fun e he => ?_, hx.written⟩
      rcases List.mem_append.mp he with he | he
      · exact hx.deferred e (by simpa [hevents] using he)
      · exact List.mem_singleton.mp he ▸ h
  · split_ifs
    · refine ⟨hx.found, hx.announcing, hx.deferred, fun e he => ?_⟩
      rcases List.mem_append.mp he with he | he
      · exact hx.written e he
      · exact List.mem_singleton.mp he ▸ h
    · exact hx

/-- A message is written. -/
theorem write {event : IDEMessage} (hx : x.Within P) (h : event.Permitted P) :
    Session.Within P { x with written := x.written ++ [event] } := by
  refine ⟨hx.found, hx.announcing, hx.deferred, fun e he => ?_⟩
  rcases List.mem_append.mp he with he | he
  · exact hx.written e he
  · exact List.mem_singleton.mp he ▸ h

/-- A start that fails is reported because of a permitted connection. -/
theorem failStart (hx : x.Within P) (hc : P c) : (x.failStart c).Within P := by
  have hpermitted : (IDEMessage.failure c).Permitted P := ⟨hc, rfl⟩
  have hwrite := hx.write hpermitted
  refine ⟨by simp [Session.failStart], by simp [Session.failStart], hx.deferred, ?_⟩
  simp only [Session.failStart]
  split_ifs
  · exact hwrite.written
  · exact hx.written

/-- The session takes connections from the list, and writes about its server. -/
theorem act {a : SessionAction} (hx : x.Within P) (h : x.enabled s k a = true)
    (hconnections : ∀ c ∈ s.connections, P c)
    (hserver : ∀ v, x.server = some v → P (s.servers v).connection) : (x.next s a).Within P := by
  cases a with
  | launchRequest processId noDebug =>
      cases noDebug with
      | true =>
          refine propagateDeferredEvents ?_
          exact hx.frame (fun _ h => h) (fun _ h => h) rfl rfl
      | false => exact hx.frame (by simp [Session.next]) (by simp [Session.next]) rfl rfl
  | wait c =>
      refine ⟨fun c' hc' => ?_, by simp [Session.next], hx.deferred, hx.written⟩
      obtain rfl : c = c' := by simpa [Session.next] using hc'
      simp only [Session.enabled] at h
      split at h
      · exact hconnections _ (List.mem_of_find?_eq_some (of_decide_eq_true h))
      · simp at h
  | configured answered =>
      cases answered with
      | true =>
          refine propagateDeferredEvents ⟨by simp, fun rest hrest => ?_, hx.deferred, hx.written⟩
          obtain rfl : s.connections = rest := by simpa using hrest
          exact hconnections
      | false =>
          refine propagateDeferredEvents ?_
          exact hx.frame (by simp) (by simp) rfl rfl
  | announce =>
      simp only [Session.next]
      split
      · next c rest hide =>
          have hmem := hx.announcing _ hide
          have hrest : Session.Within P { x with ide := .announcing rest } := by
            refine ⟨by simp, fun rest' hrest' => ?_, hx.deferred, hx.written⟩
            obtain rfl : rest = rest' := by simpa using hrest'
            exact fun d hd => hmem d (List.mem_cons_of_mem c hd)
          split_ifs
          · have hpermitted : (IDEMessage.attach c).Permitted P := ⟨hmem c List.mem_cons_self, rfl⟩
            have hwrite := hrest.write hpermitted
            exact ⟨hwrite.found, hwrite.announcing, hwrite.deferred, hwrite.written⟩
          · exact ⟨hrest.found, hrest.announcing, hrest.deferred, hrest.written⟩
          · exact hrest
      · exact hx.frame (by simp) (by simp) rfl rfl
  | delegate body =>
      simp only [Session.next]
      split
      · next v hv =>
          split_ifs
          · exact hx.write ⟨hserver v hv, rfl⟩
          · exact hx
      · exact hx
  | finalize => exact hx.finalize
  | ideDisconnect => exact finalize (hx.frame (by simp) (by simp) rfl rfl)
  | launcherDisconnect => exact finalize ⟨hx.found, hx.announcing, hx.deferred, hx.written⟩
  | initializeRequest | lose => exact ⟨hx.found, hx.announcing, hx.deferred, hx.written⟩
  | launched | attachRequest | configurationDoneRequest =>
      exact hx.frame (by simp [Session.next]) (by simp [Session.next]) rfl rfl

/-- **What a thread does to a session** comes from permitted connections only. -/
theorem change (hx : x.Within P) (h : Session.ChangeNotified s x x')
    (hconnections : ∀ c ∈ s.connections, P c)
    (hserver : ∀ v, x.server = some v → P (s.servers v).connection)
    (hrunning : ∀ c message v, (s.conns c).handling = .running message (some v) →
      P (s.servers v).connection) : x'.Within P := by
  obtain ⟨y, active, hchange, -, rfl⟩ := h.change
  have hy : y.Within P := by
    cases hchange with
    | act henabled => exact hx.act henabled hconnections hserver
    | propagate hrun => exact hx.propagateAfterStart ⟨hrunning _ _ _ hrun, rfl⟩
    | attach | start => exact hx.frame (by simp) (by simp) rfl rfl
    | @fail v initializeRequest hide hserver' =>
        exact failStart (hx.frame (by simp) (by simp) rfl rfl) (hserver v hserver')
    | detach => exact ⟨hx.found, hx.announcing, hx.deferred, hx.written⟩
    | finalize => exact hx.finalize
  exact ⟨hy.found, hy.announcing, hy.deferred, hy.written⟩

end Session.Within

/-! ### The adapter -/

/-- The connection that the thread is dealing with, once that has authenticated itself. -/
def AcceptThread.authenticated : AcceptThread → Option ℕ
  | .querying c => some c
  | .injecting c => some c
  | .registering c => some c
  | .lookingUp c => some c
  | .notifying c _ => some c
  | .sending c _ => some c
  | _ => none

/-- Whatever the adapter holds on to has authenticated itself. -/
structure Guarded (tokens : Tokens) (s : Adapter) : Prop where
  unasked : ∀ c, s.accepted ≤ c ∨ s.acceptThread = .authenticating c →
    (s.conns c).authorization = none
  connections : ∀ c ∈ s.connections, s.Authorized tokens c
  thread : ∀ c, s.acceptThread.authenticated = some c → s.Authorized tokens c
  servers : ∀ v, v < s.created → s.Authorized tokens (s.servers v).connection
  running : ∀ c message v, (s.conns c).handling = .running message (some v) → v < s.created
  sessions : ∀ k, (s.sessions k).Within (s.Authorized tokens)

/-- A connection stays authorized. -/
theorem Authorized.steady (hc : s.Authorized tokens c) (h : s.Steady s') :
    s'.Authorized tokens c := by
  obtain ⟨body, hbody, hcarried⟩ := hc
  exact ⟨body, (h.authorization c).trans hbody, hcarried⟩

/-- From `s` to `s'`, no handler thread takes on a message. -/
def Settles (s s' : Adapter) : Prop :=
  ∀ d message handlers, (s'.conns d).handling = .running message handlers →
    (s.conns d).handling = .running message handlers

/-- A handler thread that does not run a handler takes on no message. -/
theorem settles_setHandling (s : Adapter) (c : ℕ) (handling : Handling)
    (h : ∀ message handlers, handling ≠ .running message handlers) :
    s.Settles (s.setHandling c handling) := by
  intro d message handlers hd
  rw [handling_setHandling] at hd
  split_ifs at hd
  · exact absurd hd (h message handlers)
  · exact hd

/-- To remove a connection from the list gives no thread a message. -/
theorem settles_deregister : s.Settles (s.deregister c v) := by
  rw [deregister]
  split_ifs
  · exact settles_setHandling s c (.deregistered v) (by simp)
  · exact fun _ _ _ hd => hd

/-- A handler of a server that runs gives no thread another message. -/
theorem settles_handleServer {message : Message} : s.Settles (s.handleServer c v message) := by
  cases message with
  | event name body =>
      have h : s.Settles (s.setHandling c .idle) := settles_setHandling s c _ nofun
      simp only [handleServer]
      split_ifs <;> exact h
  | request => exact fun _ _ _ hd => hd
  | disconnect => exact settles_deregister

/-- A handler of a connection that runs gives no thread another message. -/
theorem settles_handleConnection {message : Message} :
    s.Settles (s.handleConnection c message) := by
  cases message with
  | event | request => exact settles_setHandling s c _ nofun
  | disconnect =>
      have h : s.Settles (s.setConnection c { s.conns c with disconnected := true }) :=
        fun d message handlers hd => (handling_update (by rfl) d).symm.trans hd
      simp only [handleConnection]
      split
      · exact fun d message handlers hd => h d message handlers (settles_deregister d _ _ hd)
      · exact fun d message handlers hd =>
          h d message handlers (settles_setHandling _ c .ended (by simp) d _ _ hd)

/-- A handler thread takes on a message for the component that handles it at that time. -/
theorem running_next {d : ℕ} {message : Message} {v : ℕ}
    (h : ((s.next tokens a).conns d).handling = .running message (some v)) :
    (s.conns d).handling = .running message (some v) ∨ (s.conns d).handlers = some v := by
  by_cases hhandles : a.handles = true
  · cases a with
    | receive c m =>
        simp only [next, handling_setHandling] at h
        split_ifs at h with hd
        · simp only [Handling.running.injEq] at h
          exact Or.inr (hd ▸ h.2)
        · exact Or.inl h
    | handle c =>
        left
        simp only [next] at h
        split at h
        · exact settles_handleServer d message (some v) h
        · exact settles_handleConnection d message (some v) h
        · exact h
    | disconnect c v' =>
        exact Or.inl (settles_setHandling s c .ended (by simp) d message (some v) h)
    | _ => simp [Action.handles] at hhandles
  · rw [handling_next (Bool.eq_false_iff.mpr hhandles)] at h
    exact Or.inl h

/-- Servers are created for connections that a session has found, and keep them. -/
theorem servers_next (henabled : s.enabled a = true) :
    s.created ≤ (s.next tokens a).created ∧ ∀ v, v < (s.next tokens a).created →
      (∃ k, (s.sessions k).ide = .found ((s.next tokens a).servers v).connection) ∨
        v < s.created ∧
          ((s.next tokens a).servers v).connection = (s.servers v).connection := by
  by_cases howner : a.changesOwner = true
  · cases a with
    | attachToSession k c =>
        simp only [enabled, Bool.and_eq_true, decide_eq_true_eq] at henabled
        simp only [next]
        split_ifs
        · exact ⟨le_rfl, fun v hv => Or.inr ⟨hv, rfl⟩⟩
        · refine ⟨Nat.le_succ _, fun v hv => ?_⟩
          by_cases hnew : v = s.created
          · subst hnew
            exact Or.inl ⟨k, by simpa [setSession, setConnection, setServer] using henabled.2⟩
          · exact Or.inr ⟨Nat.lt_of_le_of_ne (Nat.lt_succ_iff.mp hv) hnew,
              by simp [setSession, setConnection, setServer, hnew]⟩
    | disconnect c v' =>
        refine ⟨le_rfl, fun v hv => Or.inr ⟨hv, ?_⟩⟩
        by_cases hv' : v = v'
        · subst hv'
          simp [next, notifyChanged, setSession, setServer, setHandling, setConnection]
        · simp [next, notifyChanged, setSession, setServer, setHandling, setConnection, hv']
    | detach k =>
        simp only [next]
        split
        · next v' _ =>
            refine ⟨le_rfl, fun v hv => Or.inr ⟨hv, ?_⟩⟩
            by_cases hv' : v = v'
            · subst hv'
              simp [notifyChanged, setSession, setServer, setConnection]
            · simp [notifyChanged, setSession, setServer, setConnection, hv']
        · exact ⟨le_rfl, fun v hv => Or.inr ⟨hv, rfl⟩⟩
    | _ => simp [Action.changesOwner] at howner
  · have hquiet : s.Quiet (s.next tokens a) := quiet_next (Bool.eq_false_iff.mpr howner)
    rw [hquiet.created, hquiet.servers]
    exact ⟨le_rfl, fun v hv => Or.inr ⟨hv, rfl⟩⟩

/-- The steps of all threads but the one that accepts servers. -/
theorem Guarded.steady (hs : s.Guarded tokens) (howned : s.Owned) (haccepts : a.accepts = false)
    (henabled : s.enabled a = true) : (s.next tokens a).Guarded tokens := by
  have hsteady : s.Steady (s.next tokens a) := steady_next haccepts
  have hmono : ∀ c, s.Authorized tokens c → (s.next tokens a).Authorized tokens c :=
    fun c hc => hc.steady hsteady
  obtain ⟨hcreated, hservers⟩ := @servers_next tokens s a henabled
  refine ⟨fun c hc => ?_, fun c hc => ?_, fun c hc => ?_, fun v hv => ?_,
    fun c message v hv => ?_, fun k => ?_⟩
  · rw [hsteady.accepted, hsteady.acceptThread] at hc
    exact (hsteady.authorization c).trans (hs.unasked c hc)
  · exact hmono c (hs.connections c (hsteady.connections.subset hc))
  · exact hmono c (hs.thread c (hsteady.acceptThread ▸ hc))
  · rcases hservers v hv with ⟨k, hk⟩ | ⟨hv, heq⟩
    · exact hmono _ ((hs.sessions k).found _ hk)
    · exact heq ▸ hmono _ (hs.servers v hv)
  · refine lt_of_lt_of_le ?_ hcreated
    rcases running_next hv with hrunning | hhandlers
    · exact hs.running c message v hrunning
    · exact (howned.owner c v (howned.handlers c ▸ hhandlers)).1
  · refine Session.Within.mono ?_ hmono
    rcases @session_next tokens s a haccepts henabled k with heq | hchange
    · exact heq ▸ hs.sessions k
    · exact (hs.sessions k).change hchange hs.connections
        (fun v hv => hs.servers v (howned.session k v hv).1)
        fun c message v hv => hs.servers v (hs.running c message v hv)

/-- The thread that accepts servers moves on. -/
theorem Guarded.accepts_frame (hs : s.Guarded tokens) (haccepts : a.accepts = true)
    (henabled : s.enabled a = true)
    (hunasked : ∀ c, (s.next tokens a).accepted ≤ c ∨
      (s.next tokens a).acceptThread = .authenticating c →
        ((s.next tokens a).conns c).authorization = none)
    (hmono : ∀ c, s.Authorized tokens c → (s.next tokens a).Authorized tokens c)
    (hconnections : ∀ c ∈ (s.next tokens a).connections, s.Authorized tokens c)
    (hthread : ∀ c, (s.next tokens a).acceptThread.authenticated = some c →
      (s.next tokens a).Authorized tokens c) : (s.next tokens a).Guarded tokens := by
  have hhandles : a.handles = false := by
    cases a <;> simp_all [Action.accepts, Action.handles]
  have howner : a.changesOwner = false := by
    cases a <;> simp_all [Action.accepts, Action.changesOwner]
  have hquiet : s.Quiet (s.next tokens a) := quiet_next howner
  refine ⟨hunasked, fun c hc => hmono c (hconnections c hc), hthread, fun v hv => ?_,
    fun c message v hv => ?_, fun k => ?_⟩
  · rw [hquiet.created] at hv
    rw [hquiet.servers]
    exact hmono _ (hs.servers v hv)
  · rw [handling_next hhandles] at hv
    rw [hquiet.created]
    exact hs.running c message v hv
  · refine Session.Within.mono ?_ hmono
    rcases @session_next_of_accepts tokens s a haccepts k with heq | ⟨c, rfl, heq⟩ | ⟨c, rfl, heq⟩
    · exact heq ▸ hs.sessions k
    · have hk := hs.sessions k
      exact heq ▸ ⟨hk.found, hk.announcing, hk.deferred, hk.written⟩
    · have hthread' : s.acceptThread = .sending c k := by simpa [enabled] using henabled
      have hpermitted : (IDEMessage.attach c).Permitted (s.Authorized tokens) :=
        ⟨hs.thread c (by rw [hthread']; rfl), rfl⟩
      exact heq ▸ (hs.sessions k).write hpermitted

/-- It moves on with a connection that has authenticated itself, or is done with it. -/
theorem Guarded.advance (hs : s.Guarded tokens) (haccepts : a.accepts = true)
    (henabled : s.enabled a = true) (haccepted : (s.next tokens a).accepted = s.accepted)
    (hauthorization : ∀ c, ((s.next tokens a).conns c).authorization =
      (s.conns c).authorization)
    (hconnections : ∀ c ∈ (s.next tokens a).connections, s.Authorized tokens c)
    (hthread : ∀ c, (s.next tokens a).acceptThread.authenticated = some c →
      s.acceptThread.authenticated = some c)
    (hauthenticating : ∀ c, (s.next tokens a).acceptThread ≠ .authenticating c) :
    (s.next tokens a).Guarded tokens := by
  have hmono : ∀ c, s.Authorized tokens c → (s.next tokens a).Authorized tokens c := by
    rintro c ⟨body, hbody, hcarried⟩
    exact ⟨body, (hauthorization c).trans hbody, hcarried⟩
  refine hs.accepts_frame haccepts henabled (fun c hc => ?_) hmono hconnections
    fun c hc => hmono c (hs.thread c (hthread c hc))
  rcases hc with hc | hc
  · exact (hauthorization c).trans (hs.unasked c (Or.inl (haccepted ▸ hc)))
  · exact absurd hc (hauthenticating c)

/-- The response to "pydevdAuthorize" decides. -/
theorem Guarded.authorize (hs : s.Guarded tokens) (htokens : tokens.configured = true)
    (hordered : s.Ordered) {response : Option Json}
    (hthread : s.acceptThread = .authenticating c) :
    (s.next tokens (.authorize c response)).Guarded tokens := by
  have hc := (hordered.pending c (by rw [hthread]; rfl)).1
  have hother : ∀ d, d ≠ c → ((s.next tokens (.authorize c response)).conns d) = s.conns d := by
    intro d hd
    simp [next, setConnection, hd]
  have hself : ((s.next tokens (.authorize c response)).conns c).authorization = response := by
    simp [next, setConnection]
  refine hs.accepts_frame rfl (by simpa [enabled] using hthread) ?_ ?_ hs.connections ?_
  · rintro d (hd | hd)
    · have hne : d ≠ c := fun heq => absurd (heq ▸ hc) (Nat.not_lt.mpr hd)
      rw [hother d hne]
      exact hs.unasked d (Or.inl hd)
    · simp only [next] at hd
      split_ifs at hd
  · rintro d ⟨body, hbody, hcarried⟩
    have hne : d ≠ c := by
      rintro rfl
      simp [hs.unasked d (Or.inr hthread)] at hbody
    exact ⟨body, by rw [hother d hne]; exact hbody, hcarried⟩
  · intro d hd
    have hauthenticate : tokens.authenticate response = true ∧ d = c := by
      simp only [next] at hd
      split_ifs at hd with h
      · exact ⟨h, (Option.some.inj hd).symm⟩
      · simp [AcceptThread.authenticated] at hd
    obtain ⟨hauthenticate, rfl⟩ := hauthenticate
    cases response with
    | none => simp [Tokens.authenticate, htokens] at hauthenticate
    | some body => exact ⟨body, hself, by simpa [Tokens.authenticate, htokens] using hauthenticate⟩

/-- The steps of the thread that accepts servers: only here is a connection added, with the token.
-/
theorem Guarded.accepts (hs : s.Guarded tokens) (htokens : tokens.configured = true)
    (hordered : s.Ordered) (haccepts : a.accepts = true) (henabled : s.enabled a = true) :
    (s.next tokens a).Guarded tokens := by
  have hadvance := hs.advance haccepts henabled
  cases a with
  | accept =>
      refine hs.accepts_frame haccepts henabled ?_ (fun c hc => hc) hs.connections
        (by simp [next, AcceptThread.authenticated])
      rintro c (hc | hc)
      · exact hs.unasked c (Or.inl (Nat.le_of_succ_le hc))
      · obtain rfl : s.accepted = c := by simpa [next] using hc
        exact hs.unasked _ (Or.inl le_rfl)
  | authorize c response =>
      exact hs.authorize htokens hordered (by simpa [enabled] using henabled)
  | report c info =>
      have hthread : s.acceptThread = .querying c := by simpa [enabled] using henabled
      cases info with
      | none =>
          exact hadvance rfl (fun _ => rfl) hs.connections
            (by simp [next, AcceptThread.authenticated]) (by simp [next])
      | some info =>
          refine hadvance rfl (fun d => ?_) hs.connections
            (by simp [next, hthread, AcceptThread.authenticated]) (by simp [next])
          by_cases hd : d = c
          · subst hd
            simp [next, setConnection]
          · simp [next, setConnection, hd]
  | inject c answered =>
      have hthread : s.acceptThread = .injecting c := by simpa [enabled] using henabled
      cases answered <;>
        exact hadvance rfl (fun _ => rfl) hs.connections
          (by simp [next, hthread, AcceptThread.authenticated]) (by simp [next])
  | register c =>
      have hthread : s.acceptThread = .registering c := by simpa [enabled] using henabled
      have hc := hs.thread c (by rw [hthread]; rfl)
      refine hadvance ?_ ?_ ?_ ?_ ?_ <;> simp only [next] <;> split_ifs
      all_goals
        simp +contextual [hthread, AcceptThread.authenticated, or_imp, hc, hs.connections]
  | lookUp c found =>
      have hthread : s.acceptThread = .lookingUp c := by
        cases found <;> simp_all [enabled]
      cases found <;>
        exact hadvance rfl (fun _ => rfl) hs.connections
          (by simp [next, hthread, AcceptThread.authenticated]) (by simp [next])
  | notify c k =>
      have hthread : s.acceptThread = .notifying c k := by simp_all [enabled]
      refine hadvance ?_ ?_ ?_ ?_ ?_ <;> simp only [next] <;> split_ifs
      all_goals
        first
        | exact hs.connections
        | simp [hthread, AcceptThread.authenticated, setSession]
  | send c k =>
      have hthread : s.acceptThread = .sending c k := by simpa [enabled] using henabled
      refine hadvance ?_ ?_ ?_ ?_ ?_ <;> simp only [next] <;> split_ifs
      all_goals
        first
        | exact hs.connections
        | simp [AcceptThread.authenticated, setSession]
  | _ => simp [Action.accepts] at haccepts

/-! ### Every interleaving -/

/-- A connection that did not carry the token of the adapter is not listed, is not the server
of any session, and nothing that it sends is written to an IDE; and no request of a debug
server is, at all. -/
structure Trusted (tokens : Tokens) (s : Adapter) : Prop where
  listed : ∀ c, ¬ s.Authorized tokens c → c ∉ s.connections
  attached : ∀ c, ¬ s.Authorized tokens c →
    ∀ k v, (s.sessions k).server = some v → (s.servers v).connection ≠ c
  written : ∀ c, ¬ s.Authorized tokens c → ∀ k, ∀ e ∈ (s.sessions k).written, e.conn ≠ c
  requests : ∀ k, ∀ e ∈ (s.sessions k).written, e.isRequest = false

/-- The guard and the ownership together are trust. -/
theorem trusted_of (hs : s.Guarded tokens) (howned : s.Owned) : s.Trusted tokens := by
  refine ⟨fun c hc hmem => hc (hs.connections c hmem), fun c hc k v hv heq => hc ?_,
    fun c hc k e he heq => hc ?_, fun k e he => ((hs.sessions k).written e he).2⟩
  · exact heq ▸ hs.servers v (howned.session k v hv).1
  · exact heq ▸ ((hs.sessions k).written e he).1

/-- There is no connection at first. -/
theorem init_guarded : init.Guarded tokens := by
  refine ⟨by simp [init, newConnection], by simp [init],
    by simp [init, AcceptThread.authenticated], by simp [init], by simp [init, newConnection],
    fun k => ⟨?_, ?_, ?_, ?_⟩⟩
  all_goals simp [init, newSession]

/-- **Only authorized connections get to sessions and IDEs**, in every run: whatever a process
that connects to the port for servers does, if there is an access token and the process does
not carry that of the adapter. -/
theorem trusted (htokens : tokens.configured = true) (h : (adapter tokens).Reachable s) :
    s.Trusted tokens := by
  have hinv : (adapter tokens).Invariant fun s =>
      (s.Ordered ∧ s.Owned) ∧ s.Guarded tokens := by
    refine ⟨?_, ?_⟩
    · rintro s rfl
      exact ⟨⟨init_ordered, init_owned⟩, init_guarded⟩
    · rintro s s' a ⟨⟨hordered, howned⟩, hs⟩ hstep
      refine ⟨⟨ordered_step hordered hstep, owned_step howned hstep⟩, ?_⟩
      obtain ⟨-, henabled, rfl⟩ := step_eq_some.mp hstep
      by_cases haccepts : a.accepts = true
      · exact hs.accepts htokens hordered haccepts henabled
      · exact hs.steady howned (Bool.eq_false_iff.mpr haccepts) henabled
  obtain ⟨⟨-, howned⟩, hs⟩ := hinv.of_reachable h
  exact trusted_of hs howned

/-- The body of a response to "pydevdAuthorize". -/
def authorization (token : String) : Json := .dict [("clientAccessToken", .str token)]

/-- A process with the wrong token sends an event; a debug server with the right one connects,
and a session attaches to it. -/
def servesTokens : List Action :=
  [.accept, .receive 0 (.event "output" .null), .handle 0,
    .authorize 0 (some (authorization "guess")), .accept,
    .authorize 1 (some (authorization "secret")), .report 1 (some (1234, none)), .inject 1 true,
    .register 1, .lookUp 1 none, .connectIDE, .session 0 (.initializeRequest "vscode"),
    .session 0 (.attachRequest none false), .session 0 (.wait 1), .attachToSession 0 1,
    .start 0 (some (authorization "secret")), .session 0 .configurationDoneRequest,
    .session 0 (.configured true), .session 0 .announce, .session 0 .announce,
    .receive 1 (.event "thread" .null), .handle 1]

theorem trusted_secret :
    ∃ s, (adapter ⟨none, some "secret"⟩).run init servesTokens = some s ∧
      s.connections = [1] ∧ (s.sessions 0).written = [.event 1 "thread" .null] ∧
      s.Trusted ⟨none, some "secret"⟩ := by
  have hrun : ∃ s, (adapter ⟨none, some "secret"⟩).run init servesTokens = some s ∧
      s.connections = [1] ∧ (s.sessions 0).written = [.event 1 "thread" .null] :=
    ⟨_, rfl, rfl, rfl⟩
  obtain ⟨s, hs, hconnections, hwritten⟩ := hrun
  have hreach := Machine.reachable_iff_run.mpr ⟨_, _, rfl, hs⟩
  exact ⟨s, hs, hconnections, hwritten, trusted rfl hreach⟩

end Adapter

end Ptvsd
