import Vigil.Deferrals
import Vigil.Ledger
import Vigil.SimulatorWatch

/-!
# Deferred replies

A PING that hits the latency fault leaves a pending reply behind, under the fd
of its client.  Fds are reused, ticks rebuild the list after they have reaped
clients, and clients are removed on three paths; still every pending reply
belongs to the client that sent the PING, and leaves the list once: it is sent
at the first tick that finds it due, or purged with its client.

`Served` says what a turn has called on a client that it keeps, and `Sheds`
that the replies of the clients it removed are gone, and no others.
-/

namespace Vigil

/-! ## Calls into a client -/

/-- The `send_pong` calls among these, with their arguments. -/
def pongCalls (calls : List (Call Desk)) : List (BitVec 64 × BitVec 64) :=
  calls.filterMap fun call =>
    match call.op with
    | .sendPong sequence timestampNs => some (sequence, timestampNs)
    | _ => none

namespace Client

variable {client client' client'' : Client} {pongs pongs' : List (BitVec 64 × BitVec 64)}

/-- The same `Connection` object, after calls of its methods; the `send_pong`
calls among them are `pongs`. -/
structure Served (pongs : List (BitVec 64 × BitVec 64)) (client client' : Client) : Prop where
  object : client'.object = client.object
  called : ∃ calls : List (Call Desk), (∀ call ∈ calls, call.isRebind = false) ∧
    pongCalls calls = pongs ∧ client'.connection =
      (calls.foldl Connection.call client.connection).withEnv client'.connection.env

theorem Served.refl (client : Client) : Served [] client client :=
  ⟨rfl, [], by simp, rfl, rfl⟩

theorem served_enter (client : Client) (env : Env Desk) : Served [] client (client.enter env) :=
  ⟨rfl, [], by simp, rfl, rfl⟩

theorem served_invoke (client : Client) (cfg : Config) (env : Env Desk) (op : ConnOp)
    (h : Call.isRebind (σ := Desk) ⟨cfg, env, op⟩ = false) :
    Served (pongCalls [⟨cfg, env, op⟩]) client (client.invoke cfg env op) := by
  refine ⟨rfl, [⟨cfg, env, op⟩], ?_, rfl, rfl⟩
  intro call hmem
  rw [List.mem_singleton.mp hmem]
  exact h

/-- A call does not depend on the answers left over from the one before. -/
theorem foldl_call_withEnv (calls : List (Call Desk)) (c : Connection Desk) (env : Env Desk) :
    ∃ env', calls.foldl Connection.call (c.withEnv env) =
      (calls.foldl Connection.call c).withEnv env' := by
  cases calls with
  | nil => exact ⟨env, rfl⟩
  | cons call rest => exact ⟨(rest.foldl Connection.call (c.call call)).env, rfl⟩

theorem Served.trans (h : Served pongs client client') (h' : Served pongs' client' client'') :
    Served (pongs ++ pongs') client client'' := by
  obtain ⟨calls, hrebind, hpongs, hconn⟩ := h.called
  obtain ⟨calls', hrebind', hpongs', hconn'⟩ := h'.called
  refine ⟨h'.object.trans h.object, calls ++ calls', ?_, ?_, ?_⟩
  · intro call hmem
    rcases List.mem_append.mp hmem with hmem | hmem
    · exact hrebind call hmem
    · exact hrebind' call hmem
  · rw [pongCalls, List.filterMap_append]
    exact congrArg₂ (· ++ ·) hpongs hpongs'
  · obtain ⟨env, henv⟩ := foldl_call_withEnv calls'
      (calls.foldl Connection.call client.connection) client'.connection.env
    rw [hconn', hconn, henv, List.foldl_append]
    rfl

theorem Served.identity (h : Served pongs client client') :
    client'.connection.identity = client.connection.identity := by
  obtain ⟨calls, hrebind, _, hconn⟩ := h.called
  rw [hconn]
  have hcalls : (calls.foldl Connection.call client.connection).identity =
      client.connection.identity := by
    refine List.foldlRecOn (motive := fun c => c.identity = client.connection.identity) calls
      Connection.call rfl ?_
    intro c hc call hmem
    exact (Connection.call_identity c call (hrebind call hmem)).trans hc
  exact hcalls

theorem Served.fd (h : Served pongs client client') :
    client'.connection.fd = client.connection.fd :=
  congrArg Prod.fst h.identity

theorem Served.pingInterceptor (h : Served pongs client client') :
    client'.connection.pingInterceptor = client.connection.pingInterceptor :=
  congrArg (fun x => x.2.2.2.2.2) h.identity

/-- An event calls no `send_pong`; automatic replies are sent from inside
`on_readable`. -/
theorem onEvent_served (client : Client) (cfg : Config) (events : EpollEvents) (now : Int)
    (io : ClientIo) : Served [] client (client.onEvent cfg events now io) := by
  unfold onEvent
  split
  · exact served_invoke client cfg _ (.onHangupOrError _ now) rfl
  · have hread : Served [] client (client.readIfReadable cfg events now io) := by
      unfold readIfReadable
      split
      · exact served_invoke client cfg _ (.onReadable io.recvs now) rfl
      · exact Served.refl client
    dsimp only
    split
    · exact hread.trans (served_invoke _ cfg _ (.onWritable io.soError now) rfl)
    · exact hread

end Client

namespace FeedSimulator

variable {s s' s'' : FeedSimulator} {fd : Int} {client client' : Client}
  {sent sent' added : List PendingReply} {p : PendingReply}

/-! ## Clients that are kept -/

/-- What is sent to the client on `fd` when these replies are. -/
def pongsTo (fd : Int) (replies : List PendingReply) : List (BitVec 64 × BitVec 64) :=
  (replies.filter fun p => p.fd = fd).map fun p => (p.sequence, p.timestampNs)

/-- Every client of `s'` was one of `s`, and the replies sent in between are
`sent`. -/
def Serves (sent : List PendingReply) (s s' : FeedSimulator) : Prop :=
  ∀ fd client', s'.clients.lookup fd = some client' →
    ∃ client, s.clients.lookup fd = some client ∧ Client.Served (pongsTo fd sent) client client'

theorem Serves.of_eq (h : s'.clients = s.clients) : Serves [] s s' := by
  intro fd client' hlookup
  rw [h] at hlookup
  exact ⟨client', hlookup, Client.Served.refl client'⟩

theorem Serves.trans (h : Serves sent s s') (h' : Serves sent' s' s'') :
    Serves (sent ++ sent') s s'' := by
  intro fd client'' hlookup
  obtain ⟨client', hlookup', hserved'⟩ := h' fd client'' hlookup
  obtain ⟨client, hlookup, hserved⟩ := h fd client' hlookup'
  refine ⟨client, hlookup, ?_⟩
  rw [pongsTo, List.filter_append, List.map_append]
  exact hserved.trans hserved'

/-- A client is put back where it was found, and all that was sent was for it. -/
theorem Serves.update (hlookup : s.clients.lookup fd = some client)
    (hserved : Client.Served (pongsTo fd sent) client client') (hsent : ∀ p ∈ sent, p.fd = fd)
    (h : s'.clients = s.clients.insert fd client') : Serves sent s s' := by
  intro other found hfound
  rw [h] at hfound
  by_cases heq : other = fd
  · subst heq
    rw [AList.lookup_insert] at hfound
    obtain rfl := Option.some.inj hfound
    exact ⟨client, hlookup, hserved⟩
  · rw [AList.lookup_insert_ne heq] at hfound
    have hnone : pongsTo other sent = [] := by
      have hfilter : (sent.filter fun p => p.fd = other) = [] := by
        apply List.filter_eq_nil_iff.mpr
        intro p hp
        simpa [hsent p hp] using Ne.symm heq
      rw [pongsTo, hfilter]
      rfl
    refine ⟨found, hfound, ?_⟩
    rw [hnone]
    exact Client.Served.refl found

/-- The client that the reply is for is tracked. -/
def Names (s : FeedSimulator) (p : PendingReply) : Prop :=
  (s.clients.lookup p.fd).map (·.object) = some p.owner

instance (s : FeedSimulator) (p : PendingReply) : Decidable (s.Names p) :=
  inferInstanceAs (Decidable (_ = _))

theorem names_of_lookup (hlookup : s.clients.lookup p.fd = some client)
    (howner : client.object = p.owner) : s.Names p := by
  rw [Names, hlookup]
  exact congrArg some howner

theorem Names.found (h : s.Names p) :
    ∃ client, s.clients.lookup p.fd = some client ∧ client.object = p.owner :=
  Option.map_eq_some_iff.mp h

theorem Serves.names (h : Serves sent s s') (hp : s'.Names p) : s.Names p := by
  obtain ⟨client', hlookup', howner⟩ := hp.found
  obtain ⟨client, hlookup, hserved⟩ := h p.fd client' hlookup'
  exact names_of_lookup hlookup (hserved.object.symm.trans howner)

/-- Putting a client back leaves everybody in place. -/
theorem Names.update (hp : s.Names p) (hlookup : s.clients.lookup fd = some client)
    (hobject : client'.object = client.object) (h : s'.clients = s.clients.insert fd client') :
    s'.Names p := by
  obtain ⟨found, hfound, howner⟩ := hp.found
  by_cases heq : p.fd = fd
  · rw [heq, hlookup] at hfound
    obtain rfl := Option.some.inj hfound
    rw [Names, h, heq, AList.lookup_insert]
    exact congrArg some (hobject.trans howner)
  · rw [Names, h, AList.lookup_insert_ne heq]
    exact hp

/-! ## The invariant -/

/-- Every client has the interceptor with its own fd and number, no two have
the same number, and every pending reply is for one of them. -/
structure Addressed (s : FeedSimulator) : Prop where
  keyed : s.Keyed
  intercepted : ∀ fd client, s.clients.lookup fd = some client →
    client.connection.pingInterceptor = some (onPingIntercept fd client.object)
  objects_lt : ∀ fd client, s.clients.lookup fd = some client → client.object < s.nextObject
  objects_inj : ∀ fd fd' client client', s.clients.lookup fd = some client →
    s.clients.lookup fd' = some client' → client.object = client'.object → fd = fd'
  named : ∀ p ∈ s.pendingReplies, s.Names p

theorem addressed_create (feedId : BitVec 32) (config : Config) (faults : FaultConfig)
    (listenFd wakeFd timerFd : Int) :
    (create feedId config faults listenFd wakeFd timerFd).Addressed where
  keyed := fun _ _ h => nomatch h
  intercepted := fun _ _ h => nomatch h
  objects_lt := fun _ _ h => nomatch h
  objects_inj := fun _ _ _ _ h => nomatch h
  named := fun _ h => nomatch h

theorem Addressed.serves (h : s.Addressed) (hserves : Serves sent s s')
    (hnext : s'.nextObject = s.nextObject) (hnamed : ∀ p ∈ s'.pendingReplies, s'.Names p) :
    s'.Addressed where
  keyed := by
    intro fd client' hlookup'
    obtain ⟨client, hlookup, hserved⟩ := hserves fd client' hlookup'
    exact hserved.fd.trans (h.keyed fd client hlookup)
  intercepted := by
    intro fd client' hlookup'
    obtain ⟨client, hlookup, hserved⟩ := hserves fd client' hlookup'
    rw [hserved.pingInterceptor, hserved.object]
    exact h.intercepted fd client hlookup
  objects_lt := by
    intro fd client' hlookup'
    obtain ⟨client, hlookup, hserved⟩ := hserves fd client' hlookup'
    rw [hserved.object, hnext]
    exact h.objects_lt fd client hlookup
  objects_inj := by
    intro fd fd' client' other' hlookup' hother' heq
    obtain ⟨client, hlookup, hserved⟩ := hserves fd client' hlookup'
    obtain ⟨other, hother, hservedOther⟩ := hserves fd' other' hother'
    rw [hserved.object, hservedOther.object] at heq
    exact h.objects_inj fd fd' client other hlookup hother heq
  named := hnamed

/-- The clients of `s'` are among those of `s`; the replies `added` have come
in, and those of the clients that are gone are purged. -/
structure Sheds (added : List PendingReply) (s s' : FeedSimulator) : Prop where
  serves : Serves [] s s'
  nextObject : s'.nextObject = s.nextObject
  pending : s'.pendingReplies = (s.pendingReplies ++ added).filter fun p => s'.Names p

theorem Sheds.addressed (h : Sheds added s s') (hs : s.Addressed) : s'.Addressed := by
  apply hs.serves h.serves h.nextObject
  intro p hp
  rw [h.pending] at hp
  exact of_decide_eq_true (List.mem_filter.mp hp).2

theorem Sheds.trans (h : Sheds added s s') (h' : Sheds [] s' s'') : Sheds added s s'' where
  serves := h.serves.trans h'.serves
  nextObject := h'.nextObject.trans h.nextObject
  pending := by
    rw [h'.pending, List.append_nil, h.pending, List.filter_filter]
    apply List.filter_congr
    intro p _
    by_cases hp : s''.Names p
    · simp [hp, h'.serves.names hp]
    · simp [hp]

/-- Nothing happened to clients and replies. -/
theorem Addressed.sheds_of_eq (h : s.Addressed) (hclients : s'.clients = s.clients)
    (hnext : s'.nextObject = s.nextObject) (hpending : s'.pendingReplies = s.pendingReplies) :
    Sheds [] s s' where
  serves := Serves.of_eq hclients
  nextObject := hnext
  pending := by
    rw [hpending, List.append_nil]
    refine (List.filter_eq_self.mpr ?_).symm
    intro p hp
    have hnamed := h.named p hp
    rw [Names, ← hclients] at hnamed
    exact decide_eq_true hnamed

/-! ## Removing clients -/

theorem removeClient_sheds (h : s.Addressed) (fd : Int) : Sheds [] s (s.removeClient fd) where
  serves := by
    intro other found hfound
    by_cases heq : other = fd
    · rw [heq, removeClient, AList.lookup_erase] at hfound
      cases hfound
    · rw [removeClient, AList.lookup_erase_ne heq] at hfound
      exact ⟨found, hfound, Client.Served.refl found⟩
  nextObject := rfl
  pending := by
    rw [List.append_nil]
    apply List.filter_congr
    intro p hp
    have hnamed := h.named p hp
    by_cases heq : p.fd = fd
    · have hgone : ¬ (s.removeClient fd).Names p := by
        rw [Names, removeClient, heq, AList.lookup_erase]
        exact (Option.some_ne_none p.owner).symm
      simp [heq, hgone]
    · have hkept : (s.removeClient fd).Names p := by
        rw [Names, removeClient, AList.lookup_erase_ne heq]
        exact hnamed
      simp [heq, hkept]

theorem checkClient_sheds (now : Int) (acc : FeedSimulator × List Int) (h : acc.1.Addressed)
    (fd : Int) : Sheds [] acc.1 (checkClient now acc fd).1 := by
  unfold checkClient
  split
  · exact h.sheds_of_eq rfl rfl rfl
  · next client hlookup =>
      have hserved := Client.served_invoke client acc.1.config (acc.1.env {}) (.checkTimeout now) rfl
      dsimp only
      generalize client.invoke acc.1.config (acc.1.env {}) (.checkTimeout now) = checked at hserved ⊢
      refine ⟨Serves.update hlookup hserved (fun _ hp => absurd hp List.not_mem_nil) rfl, rfl, ?_⟩
      rw [List.append_nil]
      refine (List.filter_eq_self.mpr ?_).symm
      intro p hp
      exact decide_eq_true ((h.named p hp).update hlookup hserved.object rfl)

theorem reapClients_sheds (h : s.Addressed) (now : Int) : Sheds [] s (s.reapClients now) := by
  have hchecked : Sheds [] s (s.clients.keys.foldl (checkClient now) (s, [])).1 :=
    List.foldlRecOn (motive := fun acc => Sheds [] s acc.1) s.clients.keys (checkClient now)
      (h.sheds_of_eq rfl rfl rfl)
      fun acc hacc fd _ => hacc.trans (checkClient_sheds now acc (hacc.addressed h) fd)
  unfold reapClients
  generalize s.clients.keys.foldl (checkClient now) (s, []) = checked at hchecked ⊢
  exact List.foldlRecOn (motive := Sheds [] s) checked.2 removeClient hchecked
    fun acc hacc fd _ => hacc.trans (removeClient_sheds (hacc.addressed h) fd)

theorem command_sheds (h : s.Addressed) (c : SimulatorCommand) : Sheds [] s (s.command c) := by
  cases c with
  | killRandomConnection pick =>
      simp only [command, killRandomConnection]
      split
      · exact h.sheds_of_eq rfl rfl rfl
      · exact removeClient_sheds h _
  | setFaultConfig faults => exact h.sheds_of_eq rfl rfl rfl
  | setCommandInput fd => exact h.sheds_of_eq rfl rfl rfl

theorem onCommandFdReadable_sheds (h : s.Addressed) (commands : List SimulatorCommand)
    (eof : Bool) : Sheds [] s (s.onCommandFdReadable commands eof) := by
  have hcommands : Sheds [] s (commands.foldl command s) :=
    List.foldlRecOn (motive := Sheds [] s) commands command (h.sheds_of_eq rfl rfl rfl)
      fun acc hacc c _ => hacc.trans (command_sheds (hacc.addressed h) c)
  unfold onCommandFdReadable
  dsimp only
  split
  · exact hcommands.trans ((hcommands.addressed h).sheds_of_eq rfl rfl rfl)
  · exact hcommands

/-! ## Events of clients -/

/-- The client's own PINGs are those that its event defers. -/
theorem handleClientEvent_sheds (h : s.Addressed) (fd : Int) (events : EpollEvents) (now : Int)
    (io : ClientIo) (hlookup : s.clients.lookup fd = some client) :
    Sheds (Desk.deferrals fd client.object
        ((client.enter (s.env io)).asked s.config events now io)) s
      (s.handleClientEvent fd events now io) := by
  have hserved : Client.Served [] client
      ((client.enter (s.env io)).onEvent s.config events now io) :=
    (Client.served_enter client (s.env io)).trans
      (Client.onEvent_served (client.enter (s.env io)) s.config events now io)
  have hpending := Client.onEvent_pendingReplies (client.enter (s.env io)) s.config events now io
    (h.intercepted fd client hlookup)
  rw [handleClientEvent, hlookup]
  dsimp only
  generalize (client.enter (s.env io)).onEvent s.config events now io = called at hserved hpending ⊢
  generalize hadded : Desk.deferrals fd client.object
    ((client.enter (s.env io)).asked s.config events now io) = added at hpending ⊢
  have hnamed : ∀ p ∈ s.pendingReplies ++ added, (s.store fd called).Names p := by
    intro p hp
    rcases List.mem_append.mp hp with hold | hnew
    · exact (h.named p hold).update hlookup hserved.object rfl
    · rw [← hadded] at hnew
      obtain ⟨question, _, rfl⟩ := List.mem_map.mp hnew
      simp [Names, store, Desk.deferral, hserved.object]
  have hstored : Sheds added s (s.store fd called) := by
    refine ⟨Serves.update hlookup hserved (fun _ hp => absurd hp List.not_mem_nil) rfl, rfl, ?_⟩
    refine Eq.trans hpending (List.filter_eq_self.mpr ?_).symm
    exact fun p hp => decide_eq_true (hnamed p hp)
  have hstoredAddressed := hstored.addressed h
  split
  · exact hstored.trans (removeClient_sheds hstoredAddressed fd)
  · exact hstored.trans (hstoredAddressed.sheds_of_eq rfl rfl rfl)

/-! ## Ticks -/

/-- The replies of the tick at `now`, up to `done`, have been gone through. -/
structure Fired (now : Int) (s : FeedSimulator) (done : List PendingReply)
    (acc : FeedSimulator × List PendingReply) : Prop where
  serves : Serves (done.filter fun p => p.fireAtNs ≤ now) s acc.1
  names : ∀ p, s.Names p → acc.1.Names p
  nextObject : acc.1.nextObject = s.nextObject
  still : acc.2 = done.filter fun p => now < p.fireAtNs

theorem fireReply_fired {now : Int} (io : Nat → ClientIo) {done : List PendingReply}
    {acc : FeedSimulator × List PendingReply} (h : Fired now s done acc)
    (p : PendingReply × Nat) (hp : s.Names p.1) :
    Fired now s (done ++ [p.1]) (fireReply now io acc p) := by
  obtain ⟨client, hlookup, howner⟩ := (h.names p.1 hp).found
  unfold fireReply
  split
  · next hearly =>
      have hdue : ¬ p.1.fireAtNs ≤ now := by omega
      refine ⟨?_, h.names, h.nextObject, ?_⟩
      · simpa [List.filter_append, hdue] using h.serves
      · simp [List.filter_append, hearly, h.still]
  · next hdue =>
      -- the client is there: the reply would have been purged with it
      rw [hlookup]
      dsimp only
      have hserved := Client.served_invoke client acc.1.config (acc.1.env (io p.2))
        (.sendPong p.1.sequence p.1.timestampNs) rfl
      have hone : pongsTo p.1.fd [p.1] = pongCalls [⟨acc.1.config, acc.1.env (io p.2),
          .sendPong p.1.sequence p.1.timestampNs⟩] := by
        simp [pongsTo, pongCalls]
      rw [← hone] at hserved
      generalize client.invoke acc.1.config (acc.1.env (io p.2))
        (.sendPong p.1.sequence p.1.timestampNs) = called at hserved ⊢
      have hsent : Serves [p.1] acc.1 (syncEpollInterest
          { acc.1 with clients := acc.1.clients.insert p.1.fd called } p.1.fd called.connection) :=
        Serves.update hlookup hserved (by simp) rfl
      refine ⟨?_, ?_, h.nextObject, ?_⟩
      · have hle : p.1.fireAtNs ≤ now := by omega
        rw [List.filter_append, List.filter_cons_of_pos (by simpa using hle), List.filter_nil]
        exact h.serves.trans hsent
      · intro q hq
        exact (h.names q hq).update hlookup hserved.object rfl
      · simp [List.filter_append, hdue, h.still]

theorem fireReplies_fired {now : Int} (io : Nat → ClientIo) {done : List PendingReply}
    {acc : FeedSimulator × List PendingReply} (h : Fired now s done acc)
    (replies : List PendingReply) (start : Nat) (hnamed : ∀ p ∈ replies, s.Names p) :
    Fired now s (done ++ replies) ((replies.zipIdx start).foldl (fireReply now io) acc) := by
  induction replies generalizing done acc start with
  | nil => simpa using h
  | cons p rest ih =>
      have hfirst := fireReply_fired io h (p, start) (hnamed p List.mem_cons_self)
      have hrest := ih hfirst (start + 1) fun q hq => hnamed q (List.mem_cons_of_mem p hq)
      rw [List.append_assoc] at hrest
      exact hrest

/-- **A tick.**  The replies of clients it reaps are purged; of the others,
those that are due are sent, each once and to its own client, and the rest
stay. -/
theorem onTimerTick_settles (h : s.Addressed) (now : Int) (io : Nat → ClientIo) :
    Serves (s.pendingReplies.filter fun p => (s.onTimerTick now io).Names p ∧ p.fireAtNs ≤ now) s
        (s.onTimerTick now io) ∧
      (s.onTimerTick now io).nextObject = s.nextObject ∧
      (s.onTimerTick now io).pendingReplies =
        s.pendingReplies.filter fun p => (s.onTimerTick now io).Names p ∧ ¬ p.fireAtNs ≤ now := by
  have hreaped := reapClients_sheds h now
  have haddressed := hreaped.addressed h
  have hstart : Fired now (s.reapClients now) [] (s.reapClients now, []) :=
    ⟨Serves.of_eq rfl, fun _ hp => hp, rfl, rfl⟩
  have hfired := fireReplies_fired io hstart (s.reapClients now).pendingReplies 0
    haddressed.named
  rw [List.nil_append] at hfired
  have hnames : ∀ p, (s.onTimerTick now io).Names p ↔ (s.reapClients now).Names p :=
    fun p => ⟨fun hp => hfired.serves.names hp, fun hp => hfired.names p hp⟩
  have hpending := hreaped.pending
  rw [List.append_nil] at hpending
  refine ⟨?_, hfired.nextObject.trans hreaped.nextObject, ?_⟩
  · have hsame : (s.pendingReplies.filter fun p =>
        (s.onTimerTick now io).Names p ∧ p.fireAtNs ≤ now) =
        (s.reapClients now).pendingReplies.filter fun p => p.fireAtNs ≤ now := by
      rw [hpending, List.filter_filter]
      apply List.filter_congr
      intro p _
      simp [hnames, and_comm]
    rw [hsame]
    exact hreaped.serves.trans hfired.serves
  · refine hfired.still.trans ?_
    rw [hpending, List.filter_filter]
    apply List.filter_congr
    intro p _
    simp [hnames, and_comm]

/-! ## Accepting -/

/-- The clients of `s` are clients of `s'`, and the replies are the same. -/
structure Extends (s s' : FeedSimulator) : Prop where
  clients : ∀ fd client, s.clients.lookup fd = some client → s'.clients.lookup fd = some client
  pending : s'.pendingReplies = s.pendingReplies

theorem Extends.names (h : Extends s s') (hp : s.Names p) : s'.Names p := by
  obtain ⟨client, hlookup, howner⟩ := hp.found
  exact names_of_lookup (h.clients p.fd client hlookup) howner

theorem acceptClient_extends (h : s.Addressed) (a : Accepted) (hnew : NewSocket s a.fd) :
    Extends s (s.acceptClient a) where
  clients := by
    intro fd client hlookup
    have hne : fd ≠ a.fd := by
      intro heq
      rw [heq, hnew.untracked h.keyed] at hlookup
      cases hlookup
    unfold acceptClient
    dsimp only
    split
    · rwa [AList.lookup_insert_ne hne]
    · rwa [AList.lookup_erase_ne hne, AList.lookup_insert_ne hne]
  pending := by
    unfold acceptClient
    dsimp only
    split <;> rfl

theorem acceptClient_addressed (h : s.Addressed) (a : Accepted) (hnew : NewSocket s a.fd) :
    (s.acceptClient a).Addressed := by
  have hextends := acceptClient_extends h a hnew
  have hnext : (s.acceptClient a).nextObject = s.nextObject + 1 := by
    unfold acceptClient
    dsimp only
    split <;> rfl
  refine ⟨acceptClient_keyed h.keyed a, ?_, ?_, ?_, ?_⟩
  · intro fd client hlookup
    rcases acceptClient_found h.keyed a hnew hlookup with ⟨rfl, _, rfl⟩ | ⟨_, hold⟩
    · rfl
    · exact h.intercepted fd client hold
  · intro fd client hlookup
    rw [hnext]
    rcases acceptClient_found h.keyed a hnew hlookup with ⟨rfl, _, rfl⟩ | ⟨_, hold⟩
    · exact Nat.lt_succ_self _
    · exact Nat.lt_succ_of_lt (h.objects_lt fd client hold)
  · -- the new client has a number that nobody had
    intro fd fd' client client' hlookup hlookup' heq
    rcases acceptClient_found h.keyed a hnew hlookup with ⟨rfl, _, rfl⟩ | ⟨_, hold⟩
    · rcases acceptClient_found h.keyed a hnew hlookup' with ⟨rfl, _, _⟩ | ⟨_, hold'⟩
      · rfl
      · exact absurd heq.symm (Nat.ne_of_lt (h.objects_lt fd' client' hold'))
    · rcases acceptClient_found h.keyed a hnew hlookup' with ⟨rfl, _, rfl⟩ | ⟨_, hold'⟩
      · exact absurd heq (Nat.ne_of_lt (h.objects_lt fd client hold))
      · exact h.objects_inj fd fd' client client' hold hold' heq
  · intro p hp
    rw [hextends.pending] at hp
    exact hextends.names (h.named p hp)

theorem acceptNewConnections_extends (h : s.Addressed) (accepted : List Accepted)
    (hnew : Runs.Along acceptClient (fun s a => NewSocket s a.fd) s accepted) :
    (s.acceptNewConnections accepted).Addressed ∧
      Extends s (s.acceptNewConnections accepted) := by
  refine Runs.invariant (I := fun s' => s'.Addressed ∧ Extends s s') ?_
    ⟨h, fun _ _ hlookup => hlookup, rfl⟩ hnew
  intro mid a hmid ha
  have hstep := acceptClient_extends hmid.1 a ha
  exact ⟨acceptClient_addressed hmid.1 a ha,
    fun fd client hlookup => hstep.clients fd client (hmid.2.clients fd client hlookup),
    hstep.pending.trans hmid.2.pending⟩

/-! ## Turns -/

/-- When the tick of this turn read the clock, if the turn is a tick. -/
def tickedAt (s : FeedSimulator) : SimulatorTurn → Option Int
  | .operation _ => none
  | .event _ e => if e.fd ≠ s.wakeFd ∧ e.fd = s.timerFd then some e.tickNow else none

/-- The turn is a tick that finds the reply due. -/
def DueIn (s : FeedSimulator) (t : SimulatorTurn) (p : PendingReply) : Prop :=
  ∃ now ∈ s.tickedAt t, p.fireAtNs ≤ now

instance (s : FeedSimulator) (t : SimulatorTurn) (p : PendingReply) : Decidable (s.DueIn t p) :=
  inferInstanceAs (Decidable (∃ now ∈ s.tickedAt t, p.fireAtNs ≤ now))

/-- One reply, under the fd and the number of the client that sent it, for each
PING that hits the latency fault in this turn. -/
def deferredIn (s : FeedSimulator) : SimulatorTurn → List PendingReply
  | .operation _ => []
  | .event now e =>
      match s.routed e with
      | none => []
      | some client => Desk.deferrals e.fd client.object
          ((client.enter (s.env e.io)).asked s.config e.events now e.io)

/-- The replies that are due while their client is still tracked. -/
def sentIn (s : FeedSimulator) (t : SimulatorTurn) : List PendingReply :=
  (s.pendingReplies ++ s.deferredIn t).filter fun p => (s.turn t).Names p ∧ s.DueIn t p

/-- The replies whose client is gone after the turn. -/
def purgedIn (s : FeedSimulator) (t : SimulatorTurn) : List PendingReply :=
  (s.pendingReplies ++ s.deferredIn t).filter fun p => ¬ (s.turn t).Names p

/-- What leaves the list in a turn. -/
def settledIn (s : FeedSimulator) (t : SimulatorTurn) : List PendingReply :=
  s.sentIn t ++ s.purgedIn t

/-- After the turn, the pending replies are those from before and those it
deferred, less those whose client is gone and those it found due; for the
latter, and for nothing else, the reactor has called `send_pong`, once each and
on their own client. -/
structure Accounted (s : FeedSimulator) (t : SimulatorTurn) : Prop where
  pending : (s.turn t).pendingReplies =
    (s.pendingReplies ++ s.deferredIn t).filter fun p => (s.turn t).Names p ∧ ¬ s.DueIn t p
  sent : ∀ fd client client', s.clients.lookup fd = some client →
    (s.turn t).clients.lookup fd = some client' →
    Client.Served (pongsTo fd (s.sentIn t)) client client'

/-- A new client has a number that no open fd has. -/
def AcceptsNew (s : FeedSimulator) : SimulatorTurn → Prop
  | .operation _ => True
  | .event _ e =>
      e.fd = s.listenFd → Runs.Along acceptClient (fun s a => NewSocket s a.fd) s e.accepted

instance (s : FeedSimulator) (t : SimulatorTurn) : Decidable (AcceptsNew s t) :=
  match t with
  | .operation _ => isTrue trivial
  | .event _ e => inferInstanceAs (Decidable (e.fd = s.listenFd → Runs.Along ..))

section

variable {t : SimulatorTurn}

theorem not_dueIn (h : s.tickedAt t = none) (p : PendingReply) : ¬ s.DueIn t p := by
  intro hdue
  obtain ⟨now, hnow, _⟩ := hdue
  rw [h] at hnow
  cases hnow

theorem sentIn_eq_nil (h : s.tickedAt t = none) : s.sentIn t = [] := by
  apply List.filter_eq_nil_iff.mpr
  intro p _
  simp [not_dueIn h p]

theorem Serves.served (h : Serves sent s s') {fd : Int} {client client' : Client}
    (hlookup : s.clients.lookup fd = some client) (hlookup' : s'.clients.lookup fd = some client') :
    Client.Served (pongsTo fd sent) client client' := by
  obtain ⟨found, hfound, hserved⟩ := h fd client' hlookup'
  rw [hlookup] at hfound
  obtain rfl := Option.some.inj hfound
  exact hserved

theorem Sheds.accounted (h : Sheds (s.deferredIn t) s (s.turn t)) (htick : s.tickedAt t = none) :
    Accounted s t where
  pending := by
    rw [h.pending]
    apply List.filter_congr
    intro p _
    simp [not_dueIn htick p]
  sent := by
    intro fd client client' hlookup hlookup'
    rw [sentIn_eq_nil htick]
    exact h.serves.served hlookup hlookup'

theorem Extends.accounted (h : Extends s (s.turn t)) (hs : s.Addressed)
    (htick : s.tickedAt t = none) (hdeferred : s.deferredIn t = []) : Accounted s t where
  pending := by
    rw [h.pending, hdeferred, List.append_nil]
    refine (List.filter_eq_self.mpr ?_).symm
    intro p hp
    simp [h.names (hs.named p hp), not_dueIn htick p]
  sent := by
    intro fd client client' hlookup hlookup'
    rw [h.clients fd client hlookup] at hlookup'
    obtain rfl := Option.some.inj hlookup'
    rw [sentIn_eq_nil htick]
    exact Client.Served.refl client

theorem tick_accounted (h : s.Addressed) {now : Int} {io : Nat → ClientIo}
    (hturn : s.turn t = s.onTimerTick now io) (htick : s.tickedAt t = some now)
    (hdeferred : s.deferredIn t = []) : Accounted s t ∧ (s.turn t).Addressed := by
  obtain ⟨hserves, hnext, hpending⟩ := onTimerTick_settles h now io
  rw [← hturn] at hserves hnext hpending
  have hdue : ∀ p, s.DueIn t p ↔ p.fireAtNs ≤ now := by
    intro p
    rw [DueIn, htick]
    simp
  have hsent : s.sentIn t = s.pendingReplies.filter fun p =>
      (s.turn t).Names p ∧ p.fireAtNs ≤ now := by
    rw [sentIn, hdeferred, List.append_nil]
    apply List.filter_congr
    intro p _
    simp [hdue]
  refine ⟨⟨?_, ?_⟩, ?_⟩
  · rw [hpending, hdeferred, List.append_nil]
    apply List.filter_congr
    intro p _
    simp [hdue]
  · intro fd client client' hlookup hlookup'
    rw [hsent]
    exact hserves.served hlookup hlookup'
  · apply h.serves hserves hnext
    intro p hp
    rw [hpending] at hp
    exact (of_decide_eq_true (List.mem_filter.mp hp).2).1

end

theorem turn_accounted (s : FeedSimulator) (t : SimulatorTurn) (h : s.Addressed)
    (hnew : AcceptsNew s t) : Accounted s t ∧ (s.turn t).Addressed := by
  cases t with
  | operation c =>
      have hsheds := command_sheds h c
      exact ⟨Sheds.accounted hsheds rfl, hsheds.addressed h⟩
  | event now e =>
      have hresult := dispatchEvent_result now s e
      generalize hturn : dispatchEvent now s e = result at hresult
      have hend : s.turn (.event now e) = result := hturn
      cases hresult with
      | woken hwake =>
          have hsheds : Sheds (s.deferredIn (.event now e)) s (s.turn (.event now e)) := by
            have hdeferred : s.deferredIn (.event now e) = [] := by
              simp [deferredIn, routed, hwake]
            rw [hend, hdeferred]
            exact h.sheds_of_eq rfl rfl rfl
          exact ⟨hsheds.accounted (if_neg (not_and.mpr fun hne => absurd hwake hne)),
            hsheds.addressed h⟩
      | ticked hwake htimer =>
          have hdeferred : s.deferredIn (.event now e) = [] := by
            simp [deferredIn, routed, htimer]
          exact tick_accounted h hend (if_pos ⟨hwake, htimer⟩) hdeferred
      | accepted hwake htimer hlisten =>
          have hdeferred : s.deferredIn (.event now e) = [] := by
            simp [deferredIn, routed, hlisten]
          have haccepted := acceptNewConnections_extends h e.accepted (hnew hlisten)
          rw [← hend] at haccepted
          exact ⟨haccepted.2.accounted h (if_neg (not_and.mpr fun _ => htimer)) hdeferred,
            haccepted.1⟩
      | commanded hwake htimer hlisten hcommand =>
          have hsheds : Sheds (s.deferredIn (.event now e)) s (s.turn (.event now e)) := by
            have hdeferred : s.deferredIn (.event now e) = [] := by
              simp [deferredIn, routed, hcommand]
            rw [hend, hdeferred]
            exact onCommandFdReadable_sheds h e.commands e.commandEof
          exact ⟨hsheds.accounted (if_neg (not_and.mpr fun _ => htimer)), hsheds.addressed h⟩
      | handled hwake htimer hlisten hcommand =>
          have hsheds : Sheds (s.deferredIn (.event now e)) s (s.turn (.event now e)) := by
            simp only [hend, deferredIn, routed, hwake, htimer, hlisten, hcommand, or_self, if_false]
            cases hlookup : s.clients.lookup e.fd with
            | none =>
                rw [handleClientEvent, hlookup]
                exact h.sheds_of_eq rfl rfl rfl
            | some client => exact handleClientEvent_sheds h e.fd e.events now e.io hlookup
          exact ⟨hsheds.accounted (if_neg (not_and.mpr fun _ => htimer)), hsheds.addressed h⟩

theorem turn_balance {t : SimulatorTurn} (h : Accounted s t) :
    (s.pendingReplies ++ s.deferredIn t).Perm (s.settledIn t ++ (s.turn t).pendingReplies) := by
  rw [h.pending]
  exact Ledger.split_perm (fun p => (s.turn t).Names p) (fun p => s.DueIn t p) _

/-! ## Runs -/

/-- The reply is for a tracked client, the one `Connection` object that sent the
PING. -/
def HasAddressee (s : FeedSimulator) (p : PendingReply) : Prop :=
  ∃ client, s.clients.lookup p.fd = some client ∧ client.object = p.owner ∧
    ∀ fd other, s.clients.lookup fd = some other → other.object = p.owner → fd = p.fd

theorem Addressed.hasAddressee (h : s.Addressed) (hp : p ∈ s.pendingReplies) :
    s.HasAddressee p := by
  obtain ⟨client, hlookup, howner⟩ := (h.named p hp).found
  refine ⟨client, hlookup, howner, ?_⟩
  intro fd other hother howner'
  exact h.objects_inj fd p.fd other client hother hlookup (howner'.trans howner.symm)

/-- **Deferred replies are neither lost, duplicated nor misdelivered.**  In
every run of a simulator, whatever the clients send and however fds are reused:
every pending reply is for a tracked client, the connection that sent the PING;
in each turn the PINGs that hit the latency fault leave one reply each, a reply
stays until a tick finds it due, which sends it once and to that connection, or
until its client is removed; and over the run, what was deferred is what was
sent, what was purged and what is still pending, each reply once. -/
theorem deferred_replies_settled (feedId : BitVec 32) (config : Config) (faults : FaultConfig)
    (listenFd wakeFd timerFd : Int) (turns : List SimulatorTurn)
    (hnew : Runs.Along turn AcceptsNew
      (create feedId config faults listenFd wakeFd timerFd) turns) :
    (∀ p ∈ (turns.foldl turn (create feedId config faults listenFd wakeFd timerFd)).pendingReplies,
      (turns.foldl turn (create feedId config faults listenFd wakeFd timerFd)).HasAddressee p) ∧
    Runs.Along turn Accounted (create feedId config faults listenFd wakeFd timerFd) turns ∧
    (Ownership.issuedAlong turn deferredIn
        (create feedId config faults listenFd wakeFd timerFd) turns).Perm
      (Ownership.issuedAlong turn settledIn
          (create feedId config faults listenFd wakeFd timerFd) turns ++
        (turns.foldl turn (create feedId config faults listenFd wakeFd timerFd)).pendingReplies) := by
  have hstart := addressed_create feedId config faults listenFd wakeFd timerFd
  have hinv : ∀ s t, Addressed s → AcceptsNew s t → (s.turn t).Addressed :=
    fun s t h ht => (turn_accounted s t h ht).2
  have hend := Runs.invariant hinv hstart hnew
  refine ⟨fun p hp => hend.hasAddressee hp, ?_, ?_⟩
  · exact Runs.along_of_invariant hinv (fun s t h ht => (turn_accounted s t h ht).1) hstart hnew
  · exact Ledger.balance pendingReplies hinv
      (fun s t h ht => turn_balance (turn_accounted s t h ht).1) hstart hnew

/-- What a client sends in one event. -/
def sends (chunk : RecvChunk) : SimulatorTurn :=
  .event 2 { fd := 8, events := { epollIn := true }, io := { recvs := [.data chunk] } }

/-- A client of feed 7 on fd 8 sends its HELLO and a PING; one tick is too early
for the reply and the next sends it; after a second PING the client is killed,
and fd 8 goes to a new one. -/
def fdReused : List SimulatorTurn :=
  [.event 1 (accepts 1),
    sends (frameChunk { type := MessageType.kConnectHello.toByte, feedId := 7 }),
    sends (frameChunk { type := MessageType.kPing.toByte, feedId := 7, sequence := 1 }),
    .event 3 { fd := 5, tickNow := 50000000 },
    .event 4 { fd := 5, tickNow := 100000000 },
    sends (frameChunk { type := MessageType.kPing.toByte, feedId := 7, sequence := 2 }),
    .operation (.killRandomConnection 0), .event 6 (accepts 6)]

/-- The first reply is sent and the second purged. -/
theorem deferred_replies_settled_fdReused :
    ((Ownership.issuedAlong turn sentIn (create 7 {} { extraLatency := 100 } 3 4 5) fdReused).map
        (·.sequence) = [1] ∧
      (Ownership.issuedAlong turn purgedIn (create 7 {} { extraLatency := 100 } 3 4 5)
        fdReused).map (·.sequence) = [2]) ∧
    Runs.Along turn Accounted (create 7 {} { extraLatency := 100 } 3 4 5) fdReused := by
  constructor
  · decide +kernel
  · refine (deferred_replies_settled 7 {} { extraLatency := 100 } 3 4 5 fdReused ?_).2.1
    decide +kernel

end FeedSimulator

end Vigil
