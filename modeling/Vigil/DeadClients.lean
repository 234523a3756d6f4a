import Vigil.SimulatorWatch

/-!
# Clients that have failed

A client that fails in an event handler or in the timeout check of a tick is
removed in the same step.  The third place where one can fail is the end of a
tick, when a deferred PONG is sent: nobody looks at the state there, and the
next tick does not either, since `check_timeout` reports only the connections it
fails itself.  So the simulator keeps no dead client exactly as long as every
deferred PONG can be sent (`no_dead_clients_iff`).
-/

namespace Vigil

namespace FeedSimulator

variable {s s' : FeedSimulator} {fd : Int} {client client' : Client}

/-- No client has failed. -/
def AllLive (s : FeedSimulator) : Prop :=
  ∀ fd client, s.clients.lookup fd = some client → client.connection.state ≠ .kFailed

theorem allLive_create (feedId : BitVec 32) (config : Config) (faults : FaultConfig)
    (listenFd wakeFd timerFd : Int) :
    (create feedId config faults listenFd wakeFd timerFd).AllLive :=
  fun _ _ h => nomatch h

theorem AllLive.of_eq (h : s.AllLive) (hclients : s'.clients = s.clients) : s'.AllLive := by
  intro fd client hlookup
  rw [hclients] at hlookup
  exact h fd client hlookup

/-- One entry is replaced. -/
theorem AllLive.insert (h : s.AllLive) (hclients : s'.clients = s.clients.insert fd client')
    (hlive : client'.connection.state ≠ .kFailed) : s'.AllLive := by
  intro other found hfound
  rw [hclients] at hfound
  by_cases heq : other = fd
  · subst heq
    rw [AList.lookup_insert] at hfound
    obtain rfl := Option.some.inj hfound
    exact hlive
  · rw [AList.lookup_insert_ne heq] at hfound
    exact h other found hfound

theorem lookup_removeClient_ne {other : Int} (s : FeedSimulator) (hne : other ≠ fd) :
    (s.removeClient fd).clients.lookup other = s.clients.lookup other :=
  AList.lookup_erase_ne hne

/-- The entries that failed may be among those removed. -/
theorem removeClients_live {fds : List Int}
    (h : ∀ fd client, s.clients.lookup fd = some client →
      client.connection.state = .kFailed → fd ∈ fds) : (fds.foldl removeClient s).AllLive := by
  induction fds generalizing s with
  | nil =>
      intro fd client hlookup hf
      exact absurd (h fd client hlookup hf) List.not_mem_nil
  | cons gone fds ih =>
      apply ih
      intro fd client hlookup hf
      by_cases heq : fd = gone
      · subst heq
        rw [removeClient, AList.lookup_erase] at hlookup
        cases hlookup
      · rw [lookup_removeClient_ne s heq] at hlookup
        exact (List.mem_cons.1 (h fd client hlookup hf)).resolve_left heq

theorem removeClient_live (h : s.AllLive) (fd : Int) : (s.removeClient fd).AllLive := by
  show ([fd].foldl removeClient s).AllLive
  apply removeClients_live
  intro other client hlookup hf
  exact absurd hf (h other client hlookup)

/-! ## Events, operations and new clients -/

theorem handleClientEvent_live (h : s.AllLive) (fd : Int) (events : EpollEvents) (now : Int)
    (io : ClientIo) : (s.handleClientEvent fd events now io).AllLive := by
  unfold handleClientEvent
  split
  · exact h
  · next client hlookup =>
      dsimp only
      generalize (client.enter (s.env io)).onEvent s.config events now io = called
      split
      · -- the failed client is the one that goes
        show ([fd].foldl removeClient _).AllLive
        apply removeClients_live
        intro other found hfound hf
        by_cases heq : other = fd
        · exact List.mem_singleton.2 heq
        · rw [store, AList.lookup_insert_ne heq] at hfound
          exact absurd hf (h other found hfound)
      · next hlive => exact h.insert rfl hlive

theorem command_live (h : s.AllLive) (c : SimulatorCommand) : (s.command c).AllLive := by
  cases c with
  | killRandomConnection pick =>
      simp only [command, killRandomConnection]
      split
      · exact h
      · exact removeClient_live h _
  | setFaultConfig faults => exact h.of_eq rfl
  | setCommandInput fd => exact h.of_eq rfl

theorem onCommandFdReadable_live (h : s.AllLive) (commands : List SimulatorCommand) (eof : Bool) :
    (s.onCommandFdReadable commands eof).AllLive := by
  have hdone : (commands.foldl command s).AllLive :=
    List.foldlRecOn commands command h fun _ hacc c _ => command_live hacc c
  unfold onCommandFdReadable
  dsimp only
  split
  · exact hdone.of_eq rfl
  · exact hdone

theorem acceptClient_live (h : s.AllLive) (a : Accepted) : (s.acceptClient a).AllLive := by
  have hlive : ((s.clients.lookup (a.fd : Int)).getD (s.newClient a)).connection.state ≠
      .kFailed := by
    cases hlookup : s.clients.lookup (a.fd : Int) with
    | none =>
        show ConnectionState.kHandshaking ≠ .kFailed
        nofun
    | some client => exact h _ client hlookup
  unfold acceptClient
  dsimp only
  generalize (s.clients.lookup (a.fd : Int)).getD (s.newClient a) = client at hlive ⊢
  have htracked : AllLive { s with
      clients := s.clients.insert (a.fd : Int) (intercept client a.fd)
      nextObject := s.nextObject + 1 } := h.insert rfl hlive
  split
  · exact htracked.of_eq rfl
  · exact (removeClient_live htracked a.fd).of_eq rfl

theorem acceptNewConnections_live (h : s.AllLive) (accepted : List Accepted) :
    (s.acceptNewConnections accepted).AllLive :=
  List.foldlRecOn accepted acceptClient h fun _ hacc a _ => acceptClient_live hacc a

/-! ## Ticks -/

/-- The failed clients so far are those collected. -/
def Collected (acc : FeedSimulator × List Int) : Prop :=
  ∀ fd client, acc.1.clients.lookup fd = some client →
    client.connection.state = .kFailed → fd ∈ acc.2

theorem checkClient_collected (now : Int) (acc : FeedSimulator × List Int) (h : Collected acc)
    (fd : Int) : Collected (checkClient now acc fd) := by
  unfold checkClient
  split
  · exact h
  · next client hlookup =>
      have hverdict := Connection.checkTimeout_verdict acc.1.config
        (client.connection.withEnv (acc.1.env {})) now
      intro other found hfound hf
      dsimp only at hfound ⊢
      by_cases heq : other = fd
      · subst heq
        rw [AList.lookup_insert] at hfound
        obtain rfl := Option.some.inj hfound
        by_cases hbefore : client.connection.state = .kFailed
        · have hold := h other client hlookup hbefore
          split
          · exact List.mem_append_left _ hold
          · exact hold
        · rw [if_pos (hverdict.2 ⟨hbefore, hf⟩)]
          exact List.mem_append_right _ (List.mem_singleton.2 rfl)
      · rw [AList.lookup_insert_ne heq] at hfound
        have hold := h other found hfound hf
        split
        · exact List.mem_append_left _ hold
        · exact hold

theorem reapClients_live (h : s.AllLive) (now : Int) : (s.reapClients now).AllLive := by
  have hchecked : Collected (s.clients.keys.foldl (checkClient now) (s, [])) :=
    List.foldlRecOn s.clients.keys (checkClient now)
      (fun fd client hlookup hf => absurd hf (h fd client hlookup))
      fun acc hacc fd _ => checkClient_collected now acc hacc fd
  unfold reapClients
  generalize s.clients.keys.foldl (checkClient now) (s, []) = checked at hchecked ⊢
  exact removeClients_live hchecked

/-- A deferred PONG is due, and sending it would fail its client. -/
def ReplyLost (now : Int) (io : Nat → ClientIo) (acc : FeedSimulator × List PendingReply)
    (p : PendingReply × Nat) : Prop :=
  p.1.fireAtNs ≤ now ∧ ∃ client, acc.1.clients.lookup p.1.fd = some client ∧
    client.connection.role = .kResponder ∧ client.connection.state = .kHealthy ∧
    Connection.sendFails (io p.2).sends client.connection.writePending.length = true

/-- The state `send_pong` leaves the connection in. -/
theorem sendPong_failed {σ : Type} {c : Connection σ} (hlive : c.state ≠ .kFailed)
    (sequence timestampNs : BitVec 64) :
    (c.sendPong sequence timestampNs).state = .kFailed ↔
      c.role = .kResponder ∧ c.state = .kHealthy ∧
        Connection.sendFails c.env.sends c.writePending.length = true := by
  unfold Connection.sendPong
  split
  · next hidle =>
      constructor
      · intro hf
        exact absurd hf hlive
      · intro h
        exact absurd hidle (by simp [h.1, h.2.1])
  · next hready =>
      rw [not_or, not_not, not_not] at hready
      rw [Connection.queueMessage_state]
      simp [hready.1, hready.2]

/-- One deferred PONG leaves the clients live exactly if it is not lost. -/
theorem fireReply_live (now : Int) (io : Nat → ClientIo) (acc : FeedSimulator × List PendingReply)
    (p : PendingReply × Nat) (h : acc.1.AllLive) :
    (fireReply now io acc p).1.AllLive ↔ ¬ ReplyLost now io acc p := by
  unfold fireReply ReplyLost
  by_cases hdue : now < p.1.fireAtNs
  · rw [if_pos hdue]
    have hearly : ¬ p.1.fireAtNs ≤ now := by omega
    simp only [hearly, false_and, not_false_eq_true, iff_true]
    exact h
  · have hlate : p.1.fireAtNs ≤ now := by omega
    rw [if_neg hdue]
    simp only [hlate, true_and]
    cases hlookup : acc.1.clients.lookup p.1.fd with
    | none => simpa using h
    | some client =>
        have hfails := sendPong_failed (c := client.connection.withEnv (acc.1.env (io p.2)))
          (h _ client hlookup) p.1.sequence p.1.timestampNs
        simp only [Option.some.injEq, exists_eq_left']
        constructor
        · intro hlive hlost
          exact hlive p.1.fd _ (AList.lookup_insert _) (hfails.2 hlost)
        · intro hkept
          exact h.insert rfl fun hf => hkept (hfails.1 hf)

/-- A dead client is not revived. -/
theorem fireReply_back (now : Int) (io : Nat → ClientIo) (acc : FeedSimulator × List PendingReply)
    (p : PendingReply × Nat) (h : (fireReply now io acc p).1.AllLive) : acc.1.AllLive := by
  intro fd client hlookup hf
  unfold fireReply at h
  split at h
  · exact h fd client hlookup hf
  · split at h
    · exact h fd client hlookup hf
    · next called hcalled =>
        by_cases heq : fd = p.1.fd
        · subst heq
          rw [hcalled] at hlookup
          obtain rfl := Option.some.inj hlookup
          exact h p.1.fd _ (AList.lookup_insert _) (Connection.call_stays_failed _ _ hf rfl)
        · exact h fd client ((AList.lookup_insert_ne heq).trans hlookup) hf

/-- Every deferred PONG of a tick can be sent when its turn comes. -/
def TickSendable (s : FeedSimulator) (now : Int) (io : Nat → ClientIo) : Prop :=
  Runs.Along (fireReply now io) (fun acc p => ¬ ReplyLost now io acc p) (s.reapClients now, [])
    (s.reapClients now).pendingReplies.zipIdx

theorem onTimerTick_live (h : s.AllLive) (now : Int) (io : Nat → ClientIo) :
    (s.onTimerTick now io).AllLive ↔ s.TickSendable now io := by
  have hreaped : (s.reapClients now, ([] : List PendingReply)).1.AllLive := reapClients_live h now
  calc (s.onTimerTick now io).AllLive
      ↔ ((s.reapClients now).pendingReplies.zipIdx.foldl (fireReply now io)
          (s.reapClients now, [])).1.AllLive :=
        ⟨fun hlive => hlive.of_eq rfl, fun hlive => hlive.of_eq rfl⟩
    _ ↔ Runs.Along (fireReply now io) (fun acc p => (fireReply now io acc p).1.AllLive)
          (s.reapClients now, []) (s.reapClients now).pendingReplies.zipIdx :=
        Runs.end_iff_along (I := fun acc : FeedSimulator × List PendingReply => acc.1.AllLive)
          (fireReply_back now io) hreaped
    _ ↔ s.TickSendable now io :=
        Runs.along_iff (I := fun acc : FeedSimulator × List PendingReply => acc.1.AllLive)
          (fireReply_live now io) hreaped

/-! ## Runs -/

/-- A turn that is a tick can send its deferred PONGs. -/
def RepliesSendable (s : FeedSimulator) : SimulatorTurn → Prop
  | .operation _ => True
  | .event _ e => e.fd ≠ s.wakeFd → e.fd = s.timerFd → s.TickSendable e.tickNow e.tickIo

theorem turn_live (s : FeedSimulator) (t : SimulatorTurn) (h : s.AllLive) :
    (s.turn t).AllLive ↔ s.RepliesSendable t := by
  cases t with
  | operation c => exact iff_of_true (command_live h c) trivial
  | event now e =>
      have hresult := dispatchEvent_result now s e
      rw [turn, RepliesSendable]
      generalize dispatchEvent now s e = result at hresult ⊢
      cases hresult with
      | woken hwake => exact iff_of_true h fun hne => absurd hwake hne
      | ticked hwake htimer =>
          rw [onTimerTick_live h]
          exact ⟨fun hsend _ _ => hsend, fun hsend => hsend hwake htimer⟩
      | accepted _ htimer =>
          exact iff_of_true (acceptNewConnections_live h e.accepted) fun _ heq => absurd heq htimer
      | commanded _ htimer =>
          exact iff_of_true (onCommandFdReadable_live h e.commands e.commandEof)
            fun _ heq => absurd heq htimer
      | handled _ htimer =>
          exact iff_of_true (handleClientEvent_live h e.fd e.events now e.io)
            fun _ heq => absurd heq htimer

/-- **No dead clients.**  In every run, each step leaves only live clients
exactly if no tick comes to a deferred PONG that fails its client: with nothing
queued before it, `send()` reports an error, or the write queue overflows. -/
theorem no_dead_clients_iff (feedId : BitVec 32) (config : Config) (faults : FaultConfig)
    (listenFd wakeFd timerFd : Int) (turns : List SimulatorTurn) :
    Runs.Along turn (fun s t => (s.turn t).AllLive)
        (create feedId config faults listenFd wakeFd timerFd) turns ↔
      Runs.Along turn RepliesSendable
        (create feedId config faults listenFd wakeFd timerFd) turns :=
  Runs.along_iff turn_live (allLive_create feedId config faults listenFd wakeFd timerFd)

/-- A client of feed 7 on fd 8 sends its HELLO, which is acknowledged, and a
PING.  The tick that sends the deferred PONG finds the connection reset. -/
def replyReset : List SimulatorTurn :=
  [.event 1 (accepts 1),
    .event 2 { fd := 8, events := { epollIn := true }, io :=
      { sends := [.sent 28]
        recvs := [.data (frameChunk { type := MessageType.kConnectHello.toByte, feedId := 7 })] } },
    .event 3 { fd := 8, events := { epollIn := true }, io :=
      { recvs := [.data (frameChunk
          { type := MessageType.kPing.toByte, feedId := 7, sequence := 1 })] } },
    .event 4 { fd := 5, tickNow := 100000000, tickIo := fun _ => { sends := [.error 104] } }]

/-- The client has failed and is still in the table. -/
theorem dead_client_kept :
    ¬ (replyReset.foldl turn (create 7 {} { extraLatency := 100 } 3 4 5)).AllLive := by
  have hfailed : ((replyReset.foldl turn
      (create 7 {} { extraLatency := 100 } 3 4 5)).clients.lookup 8).map
        (·.connection.state) = some .kFailed := by
    decide +kernel
  obtain ⟨client, hlookup, hstate⟩ := Option.map_eq_some_iff.1 hfailed
  intro hlive
  exact hlive 8 client hlookup hstate

end FeedSimulator

end Vigil
