import Vigil.MonitorWatch

/-!
# What the simulator registers with epoll

The simulator's counterpart of `FeedMonitor.Watched`.  Clients are found by
their fd, and every path that works on one of them, the deferred replies of a
tick included, ends with `sync_epoll_interest` or with its removal.
-/

namespace Vigil

/-- What happens between two looks at the simulator. -/
inductive SimulatorTurn where
  | operation (command : SimulatorCommand)
  | event (now : Int) (event : SimulatorEvent)

namespace FeedSimulator

variable {s s' : FeedSimulator} {fd : Int} {client client' : Client}

/-- The fd is registered for what the connection wants. -/
def Registered (s : FeedSimulator) (fd : Int) (client : Client) : Prop :=
  client.connection.state ≠ .kFailed → s.epollSet.lookup fd =
    some (epollInterestFlags true client.connection.wantsWrite s.config.edgeTriggered)

/-- Every client is found under its fd and, unless it has failed, registered
for what it wants. -/
structure Watched (s : FeedSimulator) : Prop where
  keyed : s.Keyed
  fd_nonneg : ∀ fd client, s.clients.lookup fd = some client → 0 ≤ fd
  registered : ∀ fd client, s.clients.lookup fd = some client → s.Registered fd client
  command : ∀ fd client, s.clients.lookup fd = some client →
    client.connection.state ≠ .kFailed → fd ≠ s.commandFd

theorem watched_create (feedId : BitVec 32) (config : Config) (faults : FaultConfig)
    (listenFd wakeFd timerFd : Int) :
    (create feedId config faults listenFd wakeFd timerFd).Watched where
  keyed := fun _ _ h => nomatch h
  fd_nonneg := fun _ _ h => nomatch h
  registered := fun _ _ h => nomatch h
  command := fun _ _ h => nomatch h

/-- A client is put back where it was found, and its registration renewed. -/
theorem Watched.update (h : s.Watched) (hlookup : s.clients.lookup fd = some client)
    (hplace : client'.place = client.place)
    (hlive : client'.connection.state ≠ .kFailed → client.connection.state ≠ .kFailed)
    (hclients : s'.clients = s.clients.insert fd client') (hcommand : s'.commandFd = s.commandFd)
    (hconfig : s'.config = s.config)
    (helse : ∀ other, other ≠ fd → s'.epollSet.lookup other = s.epollSet.lookup other)
    (hreg : s'.Registered fd client') : s'.Watched := by
  have hfound : ∀ other found, s'.clients.lookup other = some found →
      other = fd ∧ found = client' ∨ other ≠ fd ∧ s.clients.lookup other = some found := by
    intro other found hfound
    rw [hclients] at hfound
    by_cases heq : other = fd
    · subst heq
      rw [AList.lookup_insert] at hfound
      exact Or.inl ⟨rfl, (Option.some.inj hfound).symm⟩
    · rw [AList.lookup_insert_ne heq] at hfound
      exact Or.inr ⟨heq, hfound⟩
  refine ⟨h.keyed.retains (Retains.update hlookup hplace hclients), ?_, ?_, ?_⟩
  · intro other found hother
    rcases hfound other found hother with ⟨rfl, _⟩ | ⟨_, hold⟩
    · exact h.fd_nonneg _ client hlookup
    · exact h.fd_nonneg other found hold
  · intro other found hother
    rcases hfound other found hother with ⟨rfl, rfl⟩ | ⟨hne, hold⟩
    · exact hreg
    · intro hlive'
      rw [helse other hne, hconfig]
      exact h.registered other found hold hlive'
  · intro other found hother hlive'
    rw [hcommand]
    rcases hfound other found hother with ⟨rfl, rfl⟩ | ⟨_, hold⟩
    · exact h.command _ client hlookup (hlive hlive')
    · exact h.command other found hold hlive'

theorem removeClient_watched (h : s.Watched) (fd : Int) : (s.removeClient fd).Watched := by
  have hfound : ∀ other found, (s.removeClient fd).clients.lookup other = some found →
      other ≠ fd ∧ s.clients.lookup other = some found := by
    intro other found hfound
    by_cases heq : other = fd
    · subst heq
      rw [removeClient, AList.lookup_erase] at hfound
      cases hfound
    · rw [removeClient, AList.lookup_erase_ne heq] at hfound
      exact ⟨heq, hfound⟩
  refine ⟨h.keyed.retains (removeClient_retains s fd), ?_, ?_, ?_⟩
  · intro other found hother
    exact h.fd_nonneg other found (hfound other found hother).2
  · intro other found hother hlive
    obtain ⟨hne, hold⟩ := hfound other found hother
    exact (EpollSet.lookup_del_ne _ hne).trans (h.registered other found hold hlive)
  · intro other found hother
    exact h.command other found (hfound other found hother).2

/-- A client whose method ran, with its interest brought up to date. -/
theorem Watched.sync (h : s.Watched) (hlookup : s.clients.lookup fd = some client)
    (hplace : client'.place = client.place)
    (hlive : client'.connection.state ≠ .kFailed → client.connection.state ≠ .kFailed)
    (hclients : s'.clients = s.clients.insert fd client') (hcommand : s'.commandFd = s.commandFd)
    (hconfig : s'.config = s.config) (hset : s'.epollSet = s.epollSet) :
    (s'.syncEpollInterest fd client'.connection).Watched := by
  refine h.update hlookup hplace hlive hclients hcommand hconfig ?_ ?_
  · intro other hne
    rw [syncEpollInterest, hset]
    exact EpollSet.lookup_mod_ne _ _ hne
  · intro hlive'
    have hold := h.registered fd client hlookup (hlive hlive')
    rw [syncEpollInterest, hset]
    exact EpollSet.lookup_mod _ _ hold

theorem Client.onEvent_stays_failed (client : Client) (cfg : Config) (events : EpollEvents)
    (now : Int) (io : ClientIo) (hf : client.connection.state = .kFailed) :
    (client.onEvent cfg events now io).connection.state = .kFailed := by
  have hread : (client.readIfReadable cfg events now io).connection.state = .kFailed := by
    unfold Client.readIfReadable
    split
    · exact Connection.call_stays_failed client.connection
        ⟨cfg, client.connection.env, .onReadable io.recvs now⟩ hf rfl
    · exact hf
  unfold Client.onEvent
  split
  · rfl
  · dsimp only
    rw [if_neg (by simp [hread])]
    exact hread

/-! ## Events and ticks -/

theorem handleClientEvent_watched (h : s.Watched) (fd : Int) (events : EpollEvents) (now : Int)
    (io : ClientIo) : (s.handleClientEvent fd events now io).Watched := by
  unfold handleClientEvent
  split
  · exact h
  · next client hlookup =>
      have hplace : ((client.enter (s.env io)).onEvent s.config events now io).place =
          client.place := Client.onEvent_place (client.enter (s.env io)) s.config events now io
      have hstays : client.connection.state = .kFailed →
          ((client.enter (s.env io)).onEvent s.config events now io).connection.state =
            .kFailed :=
        Client.onEvent_stays_failed (client.enter (s.env io)) s.config events now io
      dsimp only
      generalize (client.enter (s.env io)).onEvent s.config events now io = called at hplace hstays ⊢
      split
      · next hf =>
          -- the client has failed, so nothing is asked of its registration
          have hstored : (s.store fd called).Watched :=
            h.update hlookup hplace (fun hlive => absurd hf hlive) rfl rfl rfl (fun _ _ => rfl)
              (fun hlive => absurd hf hlive)
          exact removeClient_watched hstored fd
      · exact h.sync hlookup hplace (fun hlive hf => hlive (hstays hf)) rfl rfl rfl rfl

theorem checkClient_watched (now : Int) (acc : FeedSimulator × List Int) (h : acc.1.Watched)
    (fd : Int) : (checkClient now acc fd).1.Watched := by
  unfold checkClient
  split
  · exact h
  · next client hlookup =>
      have hstays := Connection.call_stays_failed client.connection
        ⟨acc.1.config, acc.1.env {}, .checkTimeout now⟩
      refine h.update hlookup (Client.invoke_place client _ _ (.checkTimeout now) rfl)
        (fun hlive hf => hlive (hstays hf rfl)) rfl rfl rfl (fun _ _ => rfl) ?_
      intro hlive
      have hwants := Connection.checkTimeout_wantsWrite acc.1.config
        (client.connection.withEnv (acc.1.env {})) now hlive
      have hold := h.registered fd client hlookup (fun hf => hlive (hstays hf rfl))
      refine hold.trans ?_
      exact congrArg (fun w => some (epollInterestFlags true w acc.1.config.edgeTriggered))
        hwants.symm

theorem reapClients_watched (h : s.Watched) (now : Int) : (s.reapClients now).Watched := by
  have hchecked : (s.clients.keys.foldl (checkClient now) (s, [])).1.Watched :=
    List.foldlRecOn (motive := fun acc => Watched acc.1) s.clients.keys (checkClient now) h
      fun acc hacc fd _ => checkClient_watched now acc hacc fd
  unfold reapClients
  generalize s.clients.keys.foldl (checkClient now) (s, []) = checked at hchecked ⊢
  exact List.foldlRecOn checked.2 removeClient hchecked
    fun acc hacc fd _ => removeClient_watched hacc fd

theorem fireReply_watched (now : Int) (io : Nat → ClientIo)
    (acc : FeedSimulator × List PendingReply) (h : acc.1.Watched) (p : PendingReply × Nat) :
    (fireReply now io acc p).1.Watched := by
  unfold fireReply
  split
  · exact h
  · split
    · exact h
    · next client hlookup =>
        have hstays := Connection.call_stays_failed client.connection
          ⟨acc.1.config, acc.1.env (io p.2), .sendPong p.1.sequence p.1.timestampNs⟩
        exact h.sync hlookup
          (Client.invoke_place client _ _ (.sendPong p.1.sequence p.1.timestampNs) rfl)
          (fun hlive hf => hlive (hstays hf rfl)) rfl rfl rfl rfl

theorem onTimerTick_watched (h : s.Watched) (now : Int) (io : Nat → ClientIo) :
    (s.onTimerTick now io).Watched := by
  have hreaped := reapClients_watched h now
  have hfired : ((s.reapClients now).pendingReplies.zipIdx.foldl (fireReply now io)
      (s.reapClients now, [])).1.Watched :=
    List.foldlRecOn (motive := fun acc => Watched acc.1) _ (fireReply now io) hreaped
      fun acc hacc p _ => fireReply_watched now io acc hacc p
  exact ⟨hfired.keyed, hfired.fd_nonneg, hfired.registered, hfired.command⟩

/-! ## Accepting -/

theorem NewSocket.untracked (hnew : NewSocket s fd) (hkeyed : s.Keyed) :
    s.clients.lookup fd = none := by
  cases hlookup : s.clients.lookup fd with
  | none => rfl
  | some client =>
      have hentry := AList.mem_lookup_iff.mp hlookup
      exact absurd (hkeyed fd client hlookup) (hnew.clients _ hentry)

/-- Who is found after a turn of the accept loop. -/
theorem acceptClient_found (hkeyed : s.Keyed) (a : Accepted) (hnew : NewSocket s a.fd)
    (hfound : (s.acceptClient a).clients.lookup fd = some client) :
    (fd = a.fd ∧ a.registered = true ∧ client = intercept (s.newClient a) a.fd) ∨
      (fd ≠ a.fd ∧ s.clients.lookup fd = some client) := by
  by_cases heq : fd = a.fd
  · unfold acceptClient at hfound
    simp only [hnew.untracked hkeyed, Option.getD_none] at hfound
    rw [heq] at hfound
    split at hfound
    · next hreg =>
        rw [AList.lookup_insert] at hfound
        exact Or.inl ⟨heq, hreg, (Option.some.inj hfound).symm⟩
    · rw [AList.lookup_erase] at hfound
      cases hfound
  · exact Or.inr ⟨heq, acceptClient_lookup s a (Or.inl heq) hfound⟩

theorem acceptClient_watched (h : s.Watched) (a : Accepted) (hnew : NewSocket s a.fd) :
    (s.acceptClient a).Watched := by
  have hother : ∀ other found, (s.acceptClient a).clients.lookup other = some found →
      (other = a.fd ∧ a.registered = true ∧ found = intercept (s.newClient a) a.fd) ∨
        (other ≠ a.fd ∧ s.clients.lookup other = some found) :=
    fun _ _ hfound => acceptClient_found h.keyed a hnew hfound
  have hconfig : (s.acceptClient a).config = s.config := by
    unfold acceptClient
    dsimp only
    split <;> rfl
  have hcommand : (s.acceptClient a).commandFd = s.commandFd := by
    unfold acceptClient
    dsimp only
    split <;> rfl
  have hset : (s.acceptClient a).epollSet = if a.registered then
      s.epollSet.add a.fd (epollInterestFlags true false s.config.edgeTriggered)
      else s.epollSet := by
    unfold acceptClient
    dsimp only
    split <;> rfl
  refine ⟨acceptClient_keyed h.keyed a, ?_, ?_, ?_⟩
  · intro other found hfound
    rcases hother other found hfound with ⟨rfl, _, _⟩ | ⟨_, hold⟩
    · exact Int.natCast_nonneg a.fd
    · exact h.fd_nonneg other found hold
  · intro other found hfound hlive
    rw [hconfig, hset]
    rcases hother other found hfound with ⟨rfl, hreg, rfl⟩ | ⟨hne, hold⟩
    · rw [if_pos hreg]
      exact EpollSet.lookup_add _ _
    · have hkept := h.registered other found hold hlive
      split
      · exact (EpollSet.lookup_add_ne _ _ hne).trans hkept
      · exact hkept
  · intro other found hfound hlive
    rw [hcommand]
    rcases hother other found hfound with ⟨rfl, _, _⟩ | ⟨_, hold⟩
    · exact hnew.command
    · exact h.command other found hold hlive

/-- `EPOLL_CTL_ADD` of the command fd succeeds: it is not registered yet. -/
def CommandFdAdded (s : FeedSimulator) : SimulatorCommand → Prop
  | .setCommandInput fd => fd ∉ s.epollSet
  | _ => True

theorem command_watched (s : FeedSimulator) (c : SimulatorCommand) (h : s.Watched)
    (hadd : CommandFdAdded s c) : (s.command c).Watched := by
  cases c with
  | killRandomConnection pick =>
      simp only [command, killRandomConnection]
      split
      · exact h
      · exact removeClient_watched h _
  | setFaultConfig faults => exact ⟨h.keyed, h.fd_nonneg, h.registered, h.command⟩
  | setCommandInput fd =>
      have hne : ∀ other found, s.clients.lookup other = some found →
          found.connection.state ≠ .kFailed → other ≠ fd := by
        intro other found hfound hlive heq
        apply hadd
        rw [← heq, ← AList.lookup_isSome, h.registered other found hfound hlive]
        rfl
      refine ⟨h.keyed, h.fd_nonneg, ?_, hne⟩
      intro other found hfound hlive
      exact (EpollSet.lookup_add_ne _ _ (hne other found hfound hlive)).trans
        (h.registered other found hfound hlive)

/-! ## Runs -/

def turn (s : FeedSimulator) : SimulatorTurn → FeedSimulator
  | .operation c => s.command c
  | .event now e => dispatchEvent now s e

/-- New clients have new numbers, and the command fd can be registered. -/
def TurnAdmitted (s : FeedSimulator) : SimulatorTurn → Prop
  | .operation c => CommandFdAdded s c
  | .event _ e =>
      (e.fd = s.listenFd → Runs.Along acceptClient (fun s a => NewSocket s a.fd) s e.accepted) ∧
        (e.fd = s.commandFd → Runs.Along command CommandFdAdded s e.commands)

instance (s : FeedSimulator) (c : SimulatorCommand) : Decidable (CommandFdAdded s c) :=
  match c with
  | .setCommandInput fd => inferInstanceAs (Decidable (fd ∉ s.epollSet))
  | .killRandomConnection _ => isTrue trivial
  | .setFaultConfig _ => isTrue trivial

instance (s : FeedSimulator) (t : SimulatorTurn) : Decidable (TurnAdmitted s t) :=
  match t with
  | .operation c => inferInstanceAs (Decidable (CommandFdAdded s c))
  | .event _ e => inferInstanceAs (Decidable ((e.fd = s.listenFd → Runs.Along ..) ∧
      (e.fd = s.commandFd → Runs.Along ..)))

/-- The command fd is dropped at EOF. -/
theorem Watched.dropCommandFd (h : s.Watched) :
    Watched { s with epollSet := s.epollSet.del s.commandFd, commandFd := -1 } where
  keyed := h.keyed
  fd_nonneg := h.fd_nonneg
  registered := by
    intro fd client hlookup hlive
    exact (EpollSet.lookup_del_ne _ (h.command fd client hlookup hlive)).trans
      (h.registered fd client hlookup hlive)
  command := by
    intro fd client hlookup _ heq
    have hfd := h.fd_nonneg fd client hlookup
    have hneg : fd = -1 := heq
    omega

theorem turn_watched (s : FeedSimulator) (t : SimulatorTurn) (h : s.Watched)
    (hadm : TurnAdmitted s t) : (s.turn t).Watched := by
  cases t with
  | operation c => exact command_watched s c h hadm
  | event now e =>
      have hresult := dispatchEvent_result now s e
      rw [turn]
      generalize dispatchEvent now s e = result at hresult ⊢
      cases hresult with
      | woken => exact h
      | ticked => exact onTimerTick_watched h e.tickNow e.tickIo
      | accepted _ _ hlisten =>
          exact Runs.invariant (I := Watched) (fun _ a hs hnew => acceptClient_watched hs a hnew) h
            (hadm.1 hlisten)
      | commanded _ _ _ hcommand =>
          have hdone : (e.commands.foldl command s).Watched :=
            Runs.invariant command_watched h (hadm.2 hcommand)
          unfold onCommandFdReadable
          dsimp only
          split
          · exact hdone.dropCommandFd
          · exact hdone
      | handled => exact handleClientEvent_watched h e.fd e.events now e.io

theorem run_watched (feedId : BitVec 32) (config : Config) (faults : FaultConfig)
    (listenFd wakeFd timerFd : Int) (turns : List SimulatorTurn)
    (hadm : Runs.Along turn TurnAdmitted
      (create feedId config faults listenFd wakeFd timerFd) turns) :
    (turns.foldl turn (create feedId config faults listenFd wakeFd timerFd)).Watched :=
  Runs.invariant turn_watched (watched_create feedId config faults listenFd wakeFd timerFd) hadm

end FeedSimulator

end Vigil
