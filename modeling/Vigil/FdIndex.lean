import Vigil.MonitorSteps

/-!
# The fd map is exact

`index_of_fd_` should have one entry per slot whose connection has not failed,
pointing at that slot, and no other.  `WellFormed` adds what keeps this true
from step to step: the slots' fds are pairwise distinct, and the map of feed ids is exact too.

Every operation maintains it except one.  When `send_ping` fails the connection
inside a tick, `check_timeout` answers `false` for the failed connection, so
the tick goes on without `on_connection_failed` and the entry stays
(`failed_ping_keeps_entry`).  `fd_index_exact` is about the runs without such a
PING.
-/

namespace Vigil

open FlatIndex

namespace FeedMonitor

/-! ## What is assumed of the kernel -/

/-- A number that `socket()` can return: no open fd has it. -/
structure NewSocket (m : FeedMonitor) (fd : Int) : Prop where
  timer : fd ≠ m.timerFd
  wake : fd ≠ m.wakeFd
  command : fd ≠ m.commandFd
  slots : ∀ slot ∈ m.slots, slot.connection.fd ≠ fd

instance (m : FeedMonitor) (fd : Int) : Decidable (NewSocket m fd) :=
  decidable_of_iff (fd ≠ m.timerFd ∧ fd ≠ m.wakeFd ∧ fd ≠ m.commandFd ∧
    ∀ slot ∈ m.slots, slot.connection.fd ≠ fd)
    ⟨fun h => ⟨h.1, h.2.1, h.2.2.1, h.2.2.2⟩, fun h => ⟨h.timer, h.wake, h.command, h.slots⟩⟩

/-- If this turn of a tick asks for a socket, it gets a new number. -/
def TurnSocketNew (now : Int) (io : Nat → SlotIo) (m : FeedMonitor) (i : Nat) : Prop :=
  ∀ slot (fd : Nat), m.slots[i]? = some slot → slot.connection.state = .kFailed →
    slot.reconnectDue now = true → (io i).socket = some fd → NewSocket m fd

instance (now : Int) (io : Nat → SlotIo) (m : FeedMonitor) (i : Nat) :
    Decidable (TurnSocketNew now io m i) :=
  decidable_of_iff (∀ slot ∈ m.slots[i]?, slot.connection.state = .kFailed →
    slot.reconnectDue now = true → ∀ fd ∈ (io i).socket, NewSocket m fd)
    ⟨fun h slot fd hx hf hdue hsocket => h slot hx hf hdue fd hsocket,
      fun h slot hx hf hdue fd hsocket => h slot fd hx hf hdue hsocket⟩

/-- Every socket the step creates gets a new number. -/
def SocketsNew (m : FeedMonitor) : MonitorStep → Prop
  | .command (.addFeed endpoint (some fd) _) => endpoint.feedId ∉ m.indexOfFeedId → NewSocket m fd
  | .timerTick now io =>
      Runs.Along (tickSlot now io) (TurnSocketNew now io) m (List.range m.slots.length)
  | _ => True

instance (m : FeedMonitor) (s : MonitorStep) : Decidable (SocketsNew m s) :=
  match s with
  | .command (.addFeed endpoint (some fd) _) =>
      inferInstanceAs (Decidable (endpoint.feedId ∉ m.indexOfFeedId → NewSocket m fd))
  | .timerTick now io => inferInstanceAs (Decidable (Runs.Along (tickSlot now io)
      (TurnSocketNew now io) m (List.range m.slots.length)))
  | .command (.addFeed _ none _) => isTrue trivial
  | .command (.removeFeed _) => isTrue trivial
  | .command (.forceDisconnect _ _ _) => isTrue trivial
  | .command (.forceReconnect _) => isTrue trivial
  | .command (.setHeartbeatInterval _) => isTrue trivial
  | .command (.setHeartbeatTimeout _ _) => isTrue trivial
  | .command (.setCommandInput _) => isTrue trivial
  | .connectionEvent _ _ _ _ => isTrue trivial

/-- No PING that is due in this step would fail its connection. -/
def PingsSendable (m : FeedMonitor) : MonitorStep → Prop
  | .timerTick now io => ∀ (i : Nat) (slot : Slot), m.slots[i]? = some slot →
      ¬ slot.PingLost now (io i)
  | _ => True

instance (m : FeedMonitor) (s : MonitorStep) : Decidable (PingsSendable m s) :=
  match s with
  | .timerTick now io =>
      decidable_of_iff (∀ p ∈ m.slots.zipIdx, ¬ p.1.PingLost now (io p.2))
        ⟨fun h i slot hx => h (slot, i) (List.mem_zipIdx_iff_getElem?.mpr hx),
          fun h p hp => h p.2 p.1 (List.mem_zipIdx_iff_getElem?.mp hp)⟩
  | .command _ => isTrue trivial
  | .connectionEvent _ _ _ _ => isTrue trivial

/-! ## The invariant -/

structure FdsIndexed (m : FeedMonitor) : Prop where
  fdIndex : Indexes liveFd m.indexOfFd m.slots
  fds_nodup : (m.slots.map (·.connection.fd)).Nodup

structure WellFormed (m : FeedMonitor) : Prop extends Listed m, FdsIndexed m

variable {m m' : FeedMonitor} {i : Nat} {slot slot' : Slot} {tidy : Prop}

theorem wellFormed_create (config : Config) (timerFd wakeFd : Int) :
    (create config timerFd wakeFd).WellFormed where
  toListed := listed_create config timerFd wakeFd
  fdIndex := indexes_nil
  fds_nodup := List.nodup_nil

theorem liveFd_failed (h : slot.connection.state = .kFailed) : liveFd slot = none :=
  if_pos h

theorem liveFd_live (h : slot.connection.state ≠ .kFailed) :
    liveFd slot = some slot.connection.fd :=
  if_neg h

theorem liveFd_eq_some {fd : Int} (h : liveFd slot = some fd) :
    slot.connection.fd = fd ∧ slot.connection.state ≠ .kFailed := by
  by_cases hs : slot.connection.state = .kFailed
  · rw [liveFd_failed hs] at h
    cases h
  · rw [liveFd_live hs] at h
    exact ⟨Option.some.inj h, hs⟩

/-- Two positions with the same fd are one. -/
theorem fd_position_unique (h : (m.slots.map (·.connection.fd)).Nodup) {j : Nat}
    (hi : m.slots[i]? = some slot) (hj : m.slots[j]? = some slot')
    (hfd : slot'.connection.fd = slot.connection.fd) : j = i := by
  obtain ⟨hli, rfl⟩ := List.getElem?_eq_some_iff.mp hi
  obtain ⟨hlj, rfl⟩ := List.getElem?_eq_some_iff.mp hj
  have hlen : (m.slots.map (·.connection.fd)).length = m.slots.length := List.length_map _
  have hj' : j < (m.slots.map (·.connection.fd)).length := hlen.symm ▸ hlj
  have hi' : i < (m.slots.map (·.connection.fd)).length := hlen.symm ▸ hli
  have heq : (m.slots.map (·.connection.fd))[j] = (m.slots.map (·.connection.fd))[i] := by
    simpa using hfd
  exact h.getElem_inj_iff.mp heq

/-- No other slot is indexed under the fd of this one. -/
theorem FdsIndexed.other_fd (h : m.FdsIndexed) (hx : m.slots[i]? = some slot) (j : Nat)
    (z : Slot) (hji : j ≠ i) (hz : m.slots[j]? = some z) :
    liveFd z ≠ some slot.connection.fd := fun heq =>
  hji (fd_position_unique h.fds_nodup hx hz (liveFd_eq_some heq).1)

/-- **One slot changes.**  A tidy edit keeps the invariant if a slot that comes
back to life is on a new socket. -/
theorem Edit.fdsIndexed (hedit : Edit tidy m i slot slot' m') (htidy : tidy)
    (h : m.FdsIndexed) (hx : m.slots[i]? = some slot)
    (hnew : slot.connection.state = .kFailed → slot'.connection.state ≠ .kFailed →
      NewSocket m slot'.connection.fd) : m'.FdsIndexed := by
  cases hedit with
  | keep set hfd hlive =>
      refine ⟨h.fdIndex.set_same hx ?_, ?_⟩
      · simp only [liveFd, hlive htidy, hfd]
      · rw [edit, map_set_same hx hfd]
        exact h.fds_nodup
  | drop set hfd hfailed =>
      refine ⟨?_, ?_⟩
      · refine h.fdIndex.set_erase hx ?_ (liveFd_failed hfailed) (h.other_fd hx)
        by_cases hs : slot.connection.state = .kFailed
        · exact Or.inl (liveFd_failed hs)
        · exact Or.inr (liveFd_live hs)
      · rw [edit, map_set_same hx hfd]
        exact h.fds_nodup
  | gain set hfailed hlive =>
      have hfresh := hnew hfailed hlive
      refine ⟨?_, ?_⟩
      · refine h.fdIndex.set_insert hx (liveFd_failed hfailed) (liveFd_live hlive) ?_
        exact h.fdIndex.notMem_iff.mpr fun s hs heq =>
          hfresh.slots s hs (liveFd_eq_some heq).1
      · rw [edit, List.map_set]
        refine h.fds_nodup.set ?_
        intro hin
        obtain ⟨s, hs, heq⟩ := List.mem_map.mp hin
        exact hfresh.slots s hs heq

/-- A slot that is dead and then alive got its fd from `socket()`. -/
theorem ticked_socket {cfg : Config} {now : Int} {io : SlotIo}
    (hf : slot.connection.state = .kFailed)
    (hlive : (slot.ticked cfg now io).connection.state ≠ .kFailed) :
    slot.reconnectDue now = true ∧
      ∃ fd : Nat, io.socket = some fd ∧ (slot.ticked cfg now io).connection.fd = fd := by
  simp only [Slot.ticked, hf] at hlive ⊢
  split at hlive
  · next hdue =>
      refine ⟨hdue, ?_⟩
      rw [if_pos hdue]
      unfold Slot.reconnected at hlive ⊢
      cases hs : io.socket with
      | none =>
          rw [hs] at hlive
          rw [Slot.scheduleReconnect_connection] at hlive
          exact absurd hf hlive
      | some fd => exact ⟨fd, rfl, rfl⟩
  · exact absurd hf hlive

theorem tickSlot_fdsIndexed (h : m.FdsIndexed) (now : Int) (io : Nat → SlotIo) (i : Nat)
    (hsound : ∀ slot, m.slots[i]? = some slot → slot.Sound) (hnew : TurnSocketNew now io m i)
    (hping : ∀ slot, m.slots[i]? = some slot → ¬ slot.PingLost now (io i)) :
    (tickSlot now io m i).FdsIndexed := by
  cases hx : m.slots[i]? with
  | none =>
      have hsame : tickSlot now io m i = m := by rw [tickSlot, hx]
      rw [hsame]
      exact h
  | some slot =>
      have hslot := hsound slot hx
      refine (tickSlot_edit now io hx hslot.fd hslot.role).fdsIndexed (hping slot hx) h hx ?_
      intro hf hlive
      obtain ⟨hdue, fd, hsocket, hfd⟩ := ticked_socket hf hlive
      rw [hfd]
      exact hnew slot fd hx hf hdue hsocket

/-- The slot a turn of the tick works on is the one the tick found. -/
theorem tick_turn_slot (h : m.Sound) (now : Int) (io : Nat → SlotIo) (k : Nat) :
    ((List.range k).foldl (tickSlot now io) m).slots[k]? = m.slots[k]? := by
  rw [(tick_turns h now io k).2 k, if_neg (Nat.lt_irrefl k)]

/-- **Invariants of a tick.**  What every turn preserves, given the slot the
tick found and a new number for its socket, the whole tick preserves. -/
theorem onTimerTick_invariant {I : FeedMonitor → Prop} (hsound : m.Sound) (now : Int)
    (io : Nat → SlotIo) (hnew : SocketsNew m (.timerTick now io))
    (hturn : ∀ mid k, mid.slots[k]? = m.slots[k]? → TurnSocketNew now io mid k → I mid →
      I (tickSlot now io mid k)) (h : I m) : I (m.onTimerTick now io) := by
  have hprefix : ∀ k ≤ m.slots.length, I ((List.range k).foldl (tickSlot now io) m) := by
    intro k
    induction k with
    | zero => exact fun _ => h
    | succ k ih =>
        intro hk
        have hsplit : List.range m.slots.length = List.range k ++
            k :: (List.range (m.slots.length - (k + 1))).map (k + 1 + ·) := by
          conv_lhs => rw [show m.slots.length = k + 1 + (m.slots.length - (k + 1)) by omega]
          rw [List.range_add, List.range_succ, List.append_assoc]
          rfl
        have hsocket : TurnSocketNew now io ((List.range k).foldl (tickSlot now io) m) k := by
          have hall := hnew
          simp only [SocketsNew, hsplit] at hall
          exact Runs.along_at hall
        rw [List.range_succ, List.foldl_append]
        exact hturn _ k (tick_turn_slot hsound now io k) hsocket (ih (by omega))
  exact hprefix _ (Nat.le_refl _)

theorem onTimerTick_fdsIndexed (hsound : m.Sound) (h : m.FdsIndexed) (now : Int)
    (io : Nat → SlotIo) (hnew : SocketsNew m (.timerTick now io))
    (hping : PingsSendable m (.timerTick now io)) : (m.onTimerTick now io).FdsIndexed := by
  refine onTimerTick_invariant hsound now io hnew ?_ h
  intro mid k hslot hsocket hmid
  refine tickSlot_fdsIndexed hmid now io k ?_ hsocket ?_
  · intro slot hx
    exact hsound.at (hslot.symm.trans hx)
  · intro slot hx
    exact hping k slot (hslot.symm.trans hx)

theorem removeSlotAt_fdsIndexed (hsound : m.Sound) (h : m.FdsIndexed)
    (hx : m.slots[i]? = some slot) : (m.removeSlotAt i).FdsIndexed := by
  obtain ⟨hlt, _⟩ := List.getElem?_eq_some_iff.mp hx
  rw [removeSlotAt_eq hsound hx]
  refine ⟨h.fdIndex.swapRemove hx ?_ (h.other_fd hx), nodup_map_swapRemove hlt h.fds_nodup⟩
  by_cases hs : slot.connection.state = .kFailed
  · exact Or.inl (liveFd_failed hs)
  · exact Or.inr (liveFd_live hs)

theorem withFeed_fdsIndexed (h : m.FdsIndexed) (endpoint : FeedEndpoint) (fd : Nat) (now : Int)
    (hnew : NewSocket m fd) : (m.withFeed endpoint fd now).FdsIndexed := by
  refine ⟨?_, ?_⟩
  · refine h.fdIndex.push (liveFd_live (by nofun)) ?_
    exact h.fdIndex.notMem_iff.mpr fun s hs heq => hnew.slots s hs (liveFd_eq_some heq).1
  · rw [withFeed, List.map_append]
    refine h.fds_nodup.append (List.nodup_singleton _) ?_
    intro a ha hb
    obtain ⟨s, hs, rfl⟩ := List.mem_map.mp ha
    exact hnew.slots s hs (List.mem_singleton.mp hb)

theorem command_fdsIndexed (h : m.WellFormed) (c : MonitorCommand)
    (hnew : SocketsNew m (.command c)) : (m.command c).FdsIndexed := by
  have hm := h.toFdsIndexed
  have hresult := command_result h.sound c
  generalize m.command c = result at hresult ⊢
  cases hresult with
  | idle => exact hm
  | added endpoint fd now hfeed => exact withFeed_fdsIndexed hm endpoint fd now (hnew hfeed)
  | removed feedId i slot hlookup hx => exact removeSlotAt_fdsIndexed h.sound hm hx
  | disconnected feedId now io i slot hlookup hx hlive =>
      exact (disconnected_edit m i slot now io).fdsIndexed trivial hm hx
        (fun hf => absurd hf hlive)
  | renewed feedId i slot hlookup hx hfailed =>
      exact (renewed_edit m i slot).fdsIndexed trivial hm hx (fun hf hlive => absurd hf hlive)
  | intervalSet interval => exact ⟨hm.fdIndex, hm.fds_nodup⟩
  | timeoutSet timeout now =>
      refine ⟨?_, ?_⟩
      · refine hm.fdIndex.of_map_eq (f := liveFd) (g := id) (fun _ => rfl) ?_
        rw [setHeartbeatTimeout, List.map_map]
        rfl
      · rw [setHeartbeatTimeout, List.map_map]
        exact hm.fds_nodup
  | inputSet fd => exact ⟨hm.fdIndex, hm.fds_nodup⟩

theorem step_fdsIndexed (h : m.WellFormed) (s : MonitorStep) (hnew : SocketsNew m s)
    (hping : PingsSendable m s) : (m.step s).FdsIndexed := by
  cases s with
  | command c => exact command_fdsIndexed h c hnew
  | timerTick now io => exact onTimerTick_fdsIndexed h.sound h.toFdsIndexed now io hnew hping
  | connectionEvent fd events now io =>
      simp only [step]
      split
      · exact h.toFdsIndexed
      · next index hlookup =>
          obtain ⟨slot, hx, hkey⟩ := (h.fdIndex fd index).mp hlookup
          have hlive := (liveFd_eq_some hkey).2
          exact (handleConnectionEvent_edit events now io hx (h.sound.at hx).fd).fdsIndexed hlive
            h.toFdsIndexed hx (fun hf => absurd hf hlive)

theorem step_wellFormed (h : m.WellFormed) (s : MonitorStep) (hnew : SocketsNew m s)
    (hping : PingsSendable m s) : (m.step s).WellFormed :=
  ⟨step_listed h.toListed s, step_fdsIndexed h s hnew hping⟩

/-! ## Every run -/

/-- The map of fds as `run` relies on it. -/
structure FdIndexExact (m : FeedMonitor) : Prop where
  /-- One entry per slot that has not failed, and none besides. -/
  one_each : m.indexOfFd.keys.Perm (m.slots.filterMap liveFd)
  /-- Every entry leads to the slot that has the fd. -/
  routes : ∀ fd i, m.indexOfFd.lookup fd = some i →
    ∃ slot, m.slots[i]? = some slot ∧ slot.connection.fd = fd ∧ slot.connection.state ≠ .kFailed

theorem WellFormed.fdIndexExact (h : m.WellFormed) : FdIndexExact m where
  one_each := h.fdIndex.keys_perm
  routes := by
    intro fd i hlookup
    obtain ⟨slot, hx, hkey⟩ := (h.fdIndex fd i).mp hlookup
    exact ⟨slot, hx, liveFd_eq_some hkey⟩

theorem run_wellFormed (config : Config) (timerFd wakeFd : Int) (steps : List MonitorStep)
    (hnew : Runs.Along step SocketsNew (create config timerFd wakeFd) steps)
    (hping : Runs.Along step PingsSendable (create config timerFd wakeFd) steps) :
    (steps.foldl step (create config timerFd wakeFd)).WellFormed := by
  refine Runs.invariant ?_ (wellFormed_create config timerFd wakeFd) (Runs.along_and hnew hping)
  exact fun m s h hok => step_wellFormed h s hok.1 hok.2

/-- A tick that gets no socket asks for no new number. -/
theorem socketsNew_of_none (m : FeedMonitor) (now : Int) (io : Nat → SlotIo)
    (h : ∀ i, (io i).socket = none) : SocketsNew m (.timerTick now io) := by
  refine Runs.along_of_mem m fun i _ mid slot fd _ _ _ hsocket => ?_
  rw [h i] at hsocket
  cases hsocket

/-- Feed 7 is added on fd 5, connects and completes its handshake. -/
def feedConnects : List MonitorStep :=
  [.command (.addFeed { feedId := 7, name := "alpha", host := "127.0.0.1", port := 9000 } (some 5) 0),
    .connectionEvent 5 { epollOut := true } 1 { sends := [.sent 28] },
    .connectionEvent 5 { epollIn := true } 2 { recvs := [.data (frameChunk
      { type := MessageType.kConnectAck.toByte, feedId := 7 })] }]

/-- The next tick sends its first PING, and `send()` answers `outcome`. -/
def tickPing (outcome : SendOutcome) : MonitorStep :=
  .timerTick 10 fun _ => { sends := [outcome] }

theorem tickPing_socketsNew (m : FeedMonitor) (outcome : SendOutcome) :
    Runs.Along step SocketsNew m [tickPing outcome] :=
  ⟨socketsNew_of_none m 10 _ fun _ => rfl, trivial⟩

theorem feedConnects_socketsNew (outcome : SendOutcome) :
    Runs.Along step SocketsNew (create {} 3 4) (feedConnects ++ [tickPing outcome]) := by
  have hfresh : NewSocket (create {} 3 4) 5 :=
    ⟨by decide, by decide, by decide, fun _ h => absurd h List.not_mem_nil⟩
  exact Runs.along_append.mpr
    ⟨⟨fun _ => hfresh, trivial, trivial, trivial⟩, tickPing_socketsNew _ outcome⟩

end FeedMonitor

end Vigil
