import Vigil.FeedSimulator

/-!
# What happens to the simulator's clients

Only the accept loop brings new clients.  Every other step works on clients it
has found under their fd, puts them back under it, or removes them: each client
afterwards was there before, with the same object and the same fd (`Retains`).
-/

namespace Vigil

namespace Client

/-- What no call changes: the fd of the connection and the number of its
object. -/
def place (client : Client) : Int × Nat :=
  (client.connection.fd, client.object)

theorem invoke_place (client : Client) (cfg : Config) (env : Env Desk) (op : ConnOp)
    (h : Call.isRebind (σ := Desk) ⟨cfg, env, op⟩ = false) :
    (client.invoke cfg env op).place = client.place := by
  have hfd : (client.connection.call ⟨cfg, env, op⟩).fd = client.connection.fd :=
    congrArg Prod.fst (Connection.call_identity client.connection ⟨cfg, env, op⟩ h)
  exact Prod.ext hfd rfl

theorem readIfReadable_place (client : Client) (cfg : Config) (events : EpollEvents) (now : Int)
    (io : ClientIo) : (client.readIfReadable cfg events now io).place = client.place := by
  unfold readIfReadable
  split
  · exact invoke_place client cfg _ _ rfl
  · rfl

theorem onEvent_place (client : Client) (cfg : Config) (events : EpollEvents) (now : Int)
    (io : ClientIo) : (client.onEvent cfg events now io).place = client.place := by
  unfold onEvent
  split
  · exact invoke_place client cfg _ _ rfl
  · have hread := readIfReadable_place client cfg events now io
    dsimp only
    split
    · exact (invoke_place _ cfg _ _ rfl).trans hread
    · exact hread

end Client

namespace FeedSimulator

/-- Every client of `s'` was one of `s`, under the same number. -/
def Retains (s s' : FeedSimulator) : Prop :=
  ∀ fd client', s'.clients.lookup fd = some client' →
    ∃ client, s.clients.lookup fd = some client ∧ client'.place = client.place

variable {s s' s'' : FeedSimulator} {fd : Int} {client client' : Client}

theorem Retains.of_eq (h : s'.clients = s.clients) : Retains s s' := by
  intro fd client' hlookup
  rw [h] at hlookup
  exact ⟨client', hlookup, rfl⟩

theorem Retains.trans (h : Retains s s') (h' : Retains s' s'') : Retains s s'' := by
  intro fd client'' hlookup
  obtain ⟨client', hlookup', hplace'⟩ := h' fd client'' hlookup
  obtain ⟨client, hlookup, hplace⟩ := h fd client' hlookup'
  exact ⟨client, hlookup, hplace'.trans hplace⟩

/-- A client is put back where it was found. -/
theorem Retains.update (hlookup : s.clients.lookup fd = some client)
    (hplace : client'.place = client.place) (h : s'.clients = s.clients.insert fd client') :
    Retains s s' := by
  intro other found hfound
  rw [h] at hfound
  by_cases heq : other = fd
  · subst heq
    rw [AList.lookup_insert] at hfound
    obtain rfl := Option.some.inj hfound
    exact ⟨client, hlookup, hplace⟩
  · rw [AList.lookup_insert_ne heq] at hfound
    exact ⟨found, hfound, rfl⟩

theorem removeClient_retains (s : FeedSimulator) (fd : Int) : Retains s (s.removeClient fd) := by
  intro other found hfound
  by_cases heq : other = fd
  · subst heq
    rw [removeClient, AList.lookup_erase] at hfound
    cases hfound
  · rw [removeClient, AList.lookup_erase_ne heq] at hfound
    exact ⟨found, hfound, rfl⟩

theorem handleClientEvent_retains (s : FeedSimulator) (fd : Int) (events : EpollEvents)
    (now : Int) (io : ClientIo) : Retains s (s.handleClientEvent fd events now io) := by
  unfold handleClientEvent
  split
  · exact Retains.of_eq rfl
  · next client hlookup =>
      have hplace : ((client.enter (s.env io)).onEvent s.config events now io).place =
          client.place := Client.onEvent_place (client.enter (s.env io)) s.config events now io
      dsimp only
      generalize (client.enter (s.env io)).onEvent s.config events now io = called at hplace ⊢
      have hstore : Retains s (s.store fd called) := Retains.update hlookup hplace rfl
      split
      · exact hstore.trans (removeClient_retains _ fd)
      · exact hstore.trans (Retains.of_eq rfl)

theorem checkClient_retains (now : Int) (acc : FeedSimulator × List Int) (fd : Int) :
    Retains acc.1 (checkClient now acc fd).1 := by
  unfold checkClient
  split
  · exact Retains.of_eq rfl
  · next client hlookup =>
      exact Retains.update hlookup (Client.invoke_place client _ _ (.checkTimeout now) rfl) rfl

theorem reapClients_retains (s : FeedSimulator) (now : Int) : Retains s (s.reapClients now) := by
  have hchecked : Retains s (s.clients.keys.foldl (checkClient now) (s, [])).1 :=
    List.foldlRecOn (motive := fun acc => Retains s acc.1) s.clients.keys (checkClient now)
      (Retains.of_eq rfl) fun acc h fd _ => h.trans (checkClient_retains now acc fd)
  unfold reapClients
  generalize s.clients.keys.foldl (checkClient now) (s, []) = checked at hchecked ⊢
  exact List.foldlRecOn checked.2 removeClient hchecked
    fun acc h fd _ => h.trans (removeClient_retains acc fd)

theorem fireReply_retains (now : Int) (io : Nat → ClientIo)
    (acc : FeedSimulator × List PendingReply) (p : PendingReply × Nat) :
    Retains acc.1 (fireReply now io acc p).1 := by
  unfold fireReply
  split
  · exact Retains.of_eq rfl
  · split
    · exact Retains.of_eq rfl
    · next client hlookup =>
        exact Retains.update hlookup
          (Client.invoke_place client _ _ (.sendPong p.1.sequence p.1.timestampNs) rfl) rfl

theorem onTimerTick_retains (s : FeedSimulator) (now : Int) (io : Nat → ClientIo) :
    Retains s (s.onTimerTick now io) := by
  have hfired : Retains (s.reapClients now) ((s.reapClients now).pendingReplies.zipIdx.foldl
      (fireReply now io) (s.reapClients now, [])).1 :=
    List.foldlRecOn (motive := fun acc => Retains (s.reapClients now) acc.1) _ (fireReply now io)
      (Retains.of_eq rfl) fun acc h p _ => h.trans (fireReply_retains now io acc p)
  exact ((reapClients_retains s now).trans hfired).trans (Retains.of_eq rfl)

theorem command_retains (s : FeedSimulator) (c : SimulatorCommand) : Retains s (s.command c) := by
  cases c with
  | killRandomConnection pick =>
      simp only [command, killRandomConnection]
      split
      · exact Retains.of_eq rfl
      · exact removeClient_retains s _
  | setFaultConfig faults => exact Retains.of_eq rfl
  | setCommandInput fd => exact Retains.of_eq rfl

theorem commands_retain (s : FeedSimulator) (commands : List SimulatorCommand) :
    Retains s (commands.foldl command s) :=
  List.foldlRecOn commands command (Retains.of_eq rfl)
    fun acc h c _ => h.trans (command_retains acc c)

theorem onCommandFdReadable_retains (s : FeedSimulator) (commands : List SimulatorCommand)
    (eof : Bool) : Retains s (s.onCommandFdReadable commands eof) := by
  have hcommands := commands_retain s commands
  unfold onCommandFdReadable
  dsimp only
  split
  · exact hcommands.trans (Retains.of_eq rfl)
  · exact hcommands

/-! ## Dispatching -/

/-- Everything that the dispatch of an event can do, with the guard of each
case. -/
inductive Dispatched (now : Int) (s : FeedSimulator) (e : SimulatorEvent) : FeedSimulator → Prop
  | woken (hwake : e.fd = s.wakeFd) : Dispatched now s e s
  | ticked (hwake : e.fd ≠ s.wakeFd) (htimer : e.fd = s.timerFd) :
      Dispatched now s e (s.onTimerTick e.tickNow e.tickIo)
  | accepted (hwake : e.fd ≠ s.wakeFd) (htimer : e.fd ≠ s.timerFd) (hlisten : e.fd = s.listenFd) :
      Dispatched now s e (s.acceptNewConnections e.accepted)
  | commanded (hwake : e.fd ≠ s.wakeFd) (htimer : e.fd ≠ s.timerFd) (hlisten : e.fd ≠ s.listenFd)
      (hcommand : e.fd = s.commandFd) :
      Dispatched now s e (s.onCommandFdReadable e.commands e.commandEof)
  | handled (hwake : e.fd ≠ s.wakeFd) (htimer : e.fd ≠ s.timerFd) (hlisten : e.fd ≠ s.listenFd)
      (hcommand : e.fd ≠ s.commandFd) :
      Dispatched now s e (s.handleClientEvent e.fd e.events now e.io)

theorem dispatchEvent_result (now : Int) (s : FeedSimulator) (e : SimulatorEvent) :
    Dispatched now s e (dispatchEvent now s e) := by
  unfold dispatchEvent
  split
  · next hwake => exact .woken hwake
  · next hwake =>
      split
      · next htimer => exact .ticked hwake htimer
      · next htimer =>
          split
          · next hlisten => exact .accepted hwake htimer hlisten
          · next hlisten =>
              split
              · next hcommand => exact .commanded hwake htimer hlisten hcommand
              · next hcommand => exact .handled hwake htimer hlisten hcommand

/-! ## Accepting -/

/-- A turn of the accept loop leaves the clients on other fds alone, and no
client under a number it could not register. -/
theorem acceptClient_lookup (s : FeedSimulator) (a : Accepted) (hne : fd ≠ a.fd ∨ ¬ a.registered)
    (hlookup : (s.acceptClient a).clients.lookup fd = some client') :
    s.clients.lookup fd = some client' := by
  unfold acceptClient at hlookup
  dsimp only at hlookup
  by_cases heq : fd = a.fd
  · have hreg : ¬ a.registered = true := hne.resolve_left (absurd heq)
    rw [if_neg hreg, heq, AList.lookup_erase] at hlookup
    cases hlookup
  · split at hlookup
    · rwa [AList.lookup_insert_ne heq] at hlookup
    · rwa [AList.lookup_erase_ne heq, AList.lookup_insert_ne heq] at hlookup

end FeedSimulator

end Vigil
