import Vigil.FeedMonitor
import Vigil.FlatIndex

/-!
# What a reactor step does to the slots

Connection events, ticks and forced disconnects work on one slot at a time.
For each there is a function on slots (`handled`, `ticked`, `disconnected`)
that says what becomes of it, and a lemma that the reactor's function puts
exactly this slot in place of the old one.  `Edit` says what happens to the fd
map meanwhile: it is kept, or loses the slot's fd, or gains its new one.

A tick is then the same function applied at every position
(`onTimerTick_getElem?`).
-/

namespace Vigil

namespace Slot

/-- `on_connection_failed`, as far as it concerns the slot. -/
def fail (slot : Slot) (cfg : Config) (io : SlotIo) : Slot :=
  slot.emitFailureAlert.scheduleReconnect cfg io.failedAt io.jitter

/-- `handle_connection_event`. -/
def handled (slot : Slot) (cfg : Config) (events : EpollEvents) (now : Int) (io : SlotIo) :
    Slot :=
  if (slot.onEvent cfg events now io).connection.state = .kFailed then
    (slot.onEvent cfg events now io).fail cfg io
  else slot.onEvent cfg events now io

/-- `force_disconnect` on a connection that has not failed. -/
def disconnected (slot : Slot) (cfg : Config) (now : Int) (io : SlotIo) : Slot :=
  (slot.invoke cfg io.env (.onHangupOrError kEConnAborted now)).fail cfg io

/-- The timeout part of a tick. -/
def checked (slot : Slot) (cfg : Config) (now : Int) (io : SlotIo) : Slot :=
  if (slot.check cfg now io).1 then (slot.check cfg now io).2.fail cfg io
  else (slot.check cfg now io).2

/-- Is a reconnect scheduled and due? -/
def reconnectDue (slot : Slot) (now : Int) : Bool :=
  !slot.giveUp ∧ slot.reconnectReadyAtNs ≥ 0 ∧ now ≥ slot.reconnectReadyAtNs

/-- `initiate_connect`. -/
def reconnected (slot : Slot) (cfg : Config) (now : Int) (io : SlotIo) : Slot :=
  match io.socket with
  | some fd => { slot with reconnectReadyAtNs := -1 }.invoke cfg io.env (.rebind fd now)
  | none => { slot with reconnectReadyAtNs := -1 }.scheduleReconnect cfg now io.jitter

/-- One turn of the loop of `on_timer_tick`. -/
def ticked (slot : Slot) (cfg : Config) (now : Int) (io : SlotIo) : Slot :=
  match slot.connection.state with
  | .kHealthy | .kDegraded => (slot.pingIfDue cfg now io).checked cfg now io
  | .kConnecting | .kHandshaking => slot.checked cfg now io
  | .kFailed => if slot.reconnectDue now then slot.reconnected cfg now io else slot
  | _ => slot

/-- A PING is due at `now`, and sending it would fail the connection. -/
def PingLost (slot : Slot) (now : Int) (io : SlotIo) : Prop :=
  (slot.connection.state = .kHealthy ∨ slot.connection.state = .kDegraded) ∧
    slot.nextPingDueNs ≤ now ∧
    Connection.sendFails io.sends slot.connection.writePending.length = true

instance (slot : Slot) (now : Int) (io : SlotIo) : Decidable (slot.PingLost now io) :=
  inferInstanceAs (Decidable (_ ∧ _ ∧ _))

/-! ## What stays the same -/

/-- The fields of a slot that no step changes. -/
def sameness (slot : Slot) :
    Nat × (Role × BitVec 32 × String × BitVec 16 × Option (PingInterceptor Unit)) :=
  (slot.history.object, slot.connection.identity.2)

/-- The fields that only a reconnect changes. -/
def place (slot : Slot) : Int ×
    (Nat × (Role × BitVec 32 × String × BitVec 16 × Option (PingInterceptor Unit))) :=
  (slot.connection.fd, slot.sameness)

theorem invoke_place (slot : Slot) (cfg : Config) (env : Env Unit) (op : ConnOp)
    (h : Call.isRebind ⟨cfg, env, op⟩ = false) : (slot.invoke cfg env op).place = slot.place := by
  have hid := Connection.call_identity slot.connection ⟨cfg, env, op⟩ h
  have hfd : (slot.connection.call ⟨cfg, env, op⟩).fd = slot.connection.fd := congrArg Prod.fst hid
  have hrest : (slot.connection.call ⟨cfg, env, op⟩).identity.2 = slot.connection.identity.2 :=
    congrArg Prod.snd hid
  show (_, _, (slot.connection.call ⟨cfg, env, op⟩).identity.2) = _
  rw [hrest]
  show ((slot.connection.call ⟨cfg, env, op⟩).fd, _) = _
  rw [hfd]
  rfl

theorem scheduleReconnect_connection (slot : Slot) (cfg : Config) (now : Int)
    (jitter : JitterFactor) :
    (slot.scheduleReconnect cfg now jitter).connection = slot.connection := by
  unfold scheduleReconnect
  dsimp only
  split <;> rfl

theorem scheduleReconnect_history (slot : Slot) (cfg : Config) (now : Int)
    (jitter : JitterFactor) :
    (slot.scheduleReconnect cfg now jitter).history =
      { slot.history with schedules := slot.history.schedules + 1 } := by
  unfold scheduleReconnect
  dsimp only
  split <;> rfl

@[simp] theorem fail_connection (slot : Slot) (cfg : Config) (io : SlotIo) :
    (slot.fail cfg io).connection = slot.connection :=
  scheduleReconnect_connection slot.emitFailureAlert cfg io.failedAt io.jitter

theorem fail_history (slot : Slot) (cfg : Config) (io : SlotIo) :
    (slot.fail cfg io).history =
      { slot.history with
        alerts := slot.history.alerts + 1
        schedules := slot.history.schedules + 1 } :=
  scheduleReconnect_history slot.emitFailureAlert cfg io.failedAt io.jitter

theorem fail_place (slot : Slot) (cfg : Config) (io : SlotIo) :
    (slot.fail cfg io).place = slot.place := by
  simp only [place, sameness, fail_connection, fail_history]

theorem writeIfWritable_place (slot : Slot) (cfg : Config) (events : EpollEvents) (now : Int)
    (io : SlotIo) : (slot.writeIfWritable cfg events now io).place = slot.place := by
  unfold writeIfWritable
  split
  · exact invoke_place slot cfg io.env _ rfl
  · rfl

theorem onEvent_place (slot : Slot) (cfg : Config) (events : EpollEvents) (now : Int)
    (io : SlotIo) : (slot.onEvent cfg events now io).place = slot.place := by
  have hw := writeIfWritable_place slot cfg events now io
  unfold onEvent
  split
  · exact invoke_place slot cfg io.env _ rfl
  · dsimp only
    generalize slot.writeIfWritable cfg events now io = written at hw ⊢
    split
    · exact (invoke_place written cfg _ (.onReadable io.recvs now) rfl).trans hw
    · exact hw

theorem handled_place (slot : Slot) (cfg : Config) (events : EpollEvents) (now : Int)
    (io : SlotIo) : (slot.handled cfg events now io).place = slot.place := by
  unfold handled
  split
  · rw [fail_place, onEvent_place]
  · exact onEvent_place slot cfg events now io

theorem handled_state (slot : Slot) (cfg : Config) (events : EpollEvents) (now : Int)
    (io : SlotIo) : (slot.handled cfg events now io).connection.state =
      (slot.onEvent cfg events now io).connection.state := by
  unfold handled
  split
  · rw [fail_connection]
  · rfl

theorem disconnected_place (slot : Slot) (cfg : Config) (now : Int) (io : SlotIo) :
    (slot.disconnected cfg now io).place = slot.place := by
  rw [disconnected, fail_place, invoke_place _ _ _ _ rfl]

theorem disconnected_state (slot : Slot) (cfg : Config) (now : Int) (io : SlotIo) :
    (slot.disconnected cfg now io).connection.state = .kFailed := by
  rw [disconnected, fail_connection]
  rfl

theorem pingIfDue_place (slot : Slot) (cfg : Config) (now : Int) (io : SlotIo) :
    (slot.pingIfDue cfg now io).place = slot.place := by
  unfold pingIfDue
  split
  · exact invoke_place slot cfg io.env (.sendPing now) rfl
  · rfl

theorem check_place (slot : Slot) (cfg : Config) (now : Int) (io : SlotIo) :
    (slot.check cfg now io).2.place = slot.place :=
  invoke_place slot cfg io.env (.checkTimeout now) rfl

theorem checked_place (slot : Slot) (cfg : Config) (now : Int) (io : SlotIo) :
    (slot.checked cfg now io).place = slot.place := by
  unfold checked
  split
  · rw [fail_place, check_place]
  · exact check_place slot cfg now io

theorem reconnected_sameness (slot : Slot) (cfg : Config) (now : Int) (io : SlotIo) :
    (slot.reconnected cfg now io).sameness = slot.sameness := by
  unfold reconnected
  split
  · rfl
  · simp only [sameness, scheduleReconnect_connection, scheduleReconnect_history]

theorem ticked_sameness (slot : Slot) (cfg : Config) (now : Int) (io : SlotIo) :
    (slot.ticked cfg now io).sameness = slot.sameness := by
  have hsnd : ∀ {s t : Slot}, s.place = t.place → s.sameness = t.sameness :=
    fun h => congrArg Prod.snd h
  unfold ticked
  split
  · exact hsnd ((checked_place _ _ _ _).trans (pingIfDue_place slot cfg now io))
  · exact hsnd ((checked_place _ _ _ _).trans (pingIfDue_place slot cfg now io))
  · exact hsnd (checked_place slot cfg now io)
  · exact hsnd (checked_place slot cfg now io)
  · split
    · exact reconnected_sameness slot cfg now io
    · rfl
  · rfl

/-! ## Which steps fail a connection -/

/-- `check_timeout` returns `true` exactly if it fails a live connection. -/
theorem check_verdict (slot : Slot) (cfg : Config) (now : Int) (io : SlotIo) :
    (slot.check cfg now io).1 = true ↔
      slot.connection.state ≠ .kFailed ∧ (slot.check cfg now io).2.connection.state = .kFailed :=
  Connection.checkTimeout_verdict cfg (slot.connection.withEnv io.env) now

theorem checked_connection (slot : Slot) (cfg : Config) (now : Int) (io : SlotIo) :
    (slot.checked cfg now io).connection = (slot.check cfg now io).2.connection := by
  unfold checked
  split
  · rw [fail_connection]
  · rfl

/-- A PING that is not lost leaves the state alone. -/
theorem pingIfDue_state (slot : Slot) (cfg : Config) (now : Int) (io : SlotIo)
    (h : ¬ slot.PingLost now io) :
    (slot.pingIfDue cfg now io).connection.state = slot.connection.state := by
  unfold pingIfDue
  split
  · next hdue =>
      show ((slot.connection.withEnv io.env).sendPing now).state = slot.connection.state
      by_cases hg : (slot.connection.withEnv io.env).role = .kInitiator ∧
          ((slot.connection.withEnv io.env).state = .kHealthy ∨
            (slot.connection.withEnv io.env).state = .kDegraded)
      · rw [Connection.sendPing_eq _ now hg.1 hg.2]
        show ((slot.connection.withEnv io.env).bumpSequence.queueMessage _).state = _
        rw [Connection.queueMessage_state]
        have hok : ¬ Connection.sendFails io.sends slot.connection.writePending.length = true :=
          fun hfails => h ⟨hg.2, hdue, hfails⟩
        exact if_neg hok
      · rw [Connection.sendPing_idle _ now hg]
        rfl
  · rfl

/-! ## When the next PING is due -/

@[simp] theorem scheduleReconnect_nextPingDueNs (slot : Slot) (cfg : Config) (now : Int)
    (jitter : JitterFactor) :
    (slot.scheduleReconnect cfg now jitter).nextPingDueNs = slot.nextPingDueNs := by
  unfold scheduleReconnect
  dsimp only
  split <;> rfl

@[simp] theorem fail_nextPingDueNs (slot : Slot) (cfg : Config) (io : SlotIo) :
    (slot.fail cfg io).nextPingDueNs = slot.nextPingDueNs :=
  scheduleReconnect_nextPingDueNs slot.emitFailureAlert cfg io.failedAt io.jitter

@[simp] theorem onEvent_nextPingDueNs (slot : Slot) (cfg : Config) (events : EpollEvents)
    (now : Int) (io : SlotIo) :
    (slot.onEvent cfg events now io).nextPingDueNs = slot.nextPingDueNs := by
  unfold onEvent writeIfWritable
  split
  · rfl
  · dsimp only
    split <;> split <;> rfl

@[simp] theorem handled_nextPingDueNs (slot : Slot) (cfg : Config) (events : EpollEvents)
    (now : Int) (io : SlotIo) :
    (slot.handled cfg events now io).nextPingDueNs = slot.nextPingDueNs := by
  unfold handled
  split <;> simp

@[simp] theorem disconnected_nextPingDueNs (slot : Slot) (cfg : Config) (now : Int)
    (io : SlotIo) : (slot.disconnected cfg now io).nextPingDueNs = slot.nextPingDueNs :=
  fail_nextPingDueNs _ cfg io

@[simp] theorem checked_nextPingDueNs (slot : Slot) (cfg : Config) (now : Int) (io : SlotIo) :
    (slot.checked cfg now io).nextPingDueNs = slot.nextPingDueNs := by
  unfold checked
  split
  · exact fail_nextPingDueNs _ cfg io
  · rfl

@[simp] theorem reconnected_nextPingDueNs (slot : Slot) (cfg : Config) (now : Int)
    (io : SlotIo) : (slot.reconnected cfg now io).nextPingDueNs = slot.nextPingDueNs := by
  unfold reconnected
  split
  · rfl
  · exact scheduleReconnect_nextPingDueNs _ cfg now io.jitter

theorem pingIfDue_nextPingDueNs (slot : Slot) (cfg : Config) (now : Int) (io : SlotIo) :
    (slot.pingIfDue cfg now io).nextPingDueNs =
      if slot.nextPingDueNs ≤ now then now + cfg.intervalNs else slot.nextPingDueNs := by
  unfold pingIfDue
  split <;> rfl

/-- **Only a tick sets the time of the next PING**, and only that of an
established connection. -/
theorem ticked_nextPingDueNs (slot : Slot) (cfg : Config) (now : Int) (io : SlotIo) :
    (slot.ticked cfg now io).nextPingDueNs =
      if (slot.connection.state = .kHealthy ∨ slot.connection.state = .kDegraded) ∧
          slot.nextPingDueNs ≤ now then now + cfg.intervalNs
      else slot.nextPingDueNs := by
  unfold ticked
  cases hs : slot.connection.state with
  | kHealthy => simp [pingIfDue_nextPingDueNs]
  | kDegraded => simp [pingIfDue_nextPingDueNs]
  | kConnecting => simp
  | kHandshaking => simp
  | kFailed =>
      dsimp only
      split <;> simp
  | kDisconnected => simp
  | kReconnecting => simp

end Slot

/-! ## One slot at a time -/

namespace FeedMonitor

/-- The monitor with one slot, the fd map and the epoll set replaced. -/
def edit (m : FeedMonitor) (i : Nat) (slot : Slot) (index : AList fun _ : Int => Nat)
    (set : EpollSet) : FeedMonitor :=
  { m with slots := m.slots.set i slot, indexOfFd := index, epollSet := set }

/-- The slot at `i` changes from `slot` to `slot'`, and the fd map follows.
If `tidy` fails, it may be kept although the connection has failed. -/
inductive Edit (tidy : Prop) (m : FeedMonitor) (i : Nat) (slot slot' : Slot) : FeedMonitor → Prop
  | keep (set : EpollSet) (hfd : slot'.connection.fd = slot.connection.fd)
      (hlive : tidy → (slot'.connection.state = .kFailed ↔ slot.connection.state = .kFailed)) :
      Edit tidy m i slot slot' (m.edit i slot' m.indexOfFd set)
  | drop (set : EpollSet) (hfd : slot'.connection.fd = slot.connection.fd)
      (hfailed : slot'.connection.state = .kFailed) :
      Edit tidy m i slot slot' (m.edit i slot' (m.indexOfFd.erase slot.connection.fd) set)
  | gain (set : EpollSet) (hfailed : slot.connection.state = .kFailed)
      (hlive : slot'.connection.state ≠ .kFailed) :
      Edit tidy m i slot slot' (m.edit i slot' (m.indexOfFd.insert slot'.connection.fd i) set)

variable {m m' : FeedMonitor} {i : Nat} {slot slot' : Slot} {tidy : Prop}

theorem Edit.weaken (h : Edit True m i slot slot' m') : Edit tidy m i slot slot' m' := by
  cases h with
  | keep set hfd hlive => exact .keep set hfd fun _ => hlive trivial
  | drop set hfd hfailed => exact .drop set hfd hfailed
  | gain set hfailed hlive => exact .gain set hfailed hlive

theorem Edit.slots_eq (h : Edit tidy m i slot slot' m') : m'.slots = m.slots.set i slot' := by
  cases h <;> rfl

/-- The fields an edit does not touch. -/
def surroundings (m : FeedMonitor) :
    Config × Int × Int × Int × (AList fun _ : BitVec 32 => Nat) × Nat :=
  (m.config, m.timerFd, m.wakeFd, m.commandFd, m.indexOfFeedId, m.nextObject)

theorem Edit.surroundings_eq (h : Edit tidy m i slot slot' m') :
    m'.surroundings = m.surroundings := by
  cases h <;> rfl

theorem modifySlot_eq (f : Slot → Slot) (hx : m.slots[i]? = some slot) :
    m.modifySlot i f = { m with slots := m.slots.set i (f slot) } := by
  rw [modifySlot, List.modify_eq_set_getElem?, hx]
  rfl

theorem slots_set_self (hx : m.slots[i]? = some slot) : m.slots.set i slot = m.slots := by
  obtain ⟨hlt, rfl⟩ := List.getElem?_eq_some_iff.mp hx
  exact List.set_getElem_self hlt

theorem onConnectionFailed_eq (io : SlotIo) (hx : m.slots[i]? = some slot)
    (hfd : 0 ≤ slot.connection.fd) :
    m.onConnectionFailed i io = m.edit i (slot.fail m.config io)
      (m.indexOfFd.erase slot.connection.fd) (m.epollSet.del slot.connection.fd) := by
  obtain ⟨hlt, _⟩ := List.getElem?_eq_some_iff.mp hx
  have hforgotten : m.forgetFd slot.connection.fd = m.edit i slot
      (m.indexOfFd.erase slot.connection.fd) (m.epollSet.del slot.connection.fd) := by
    rw [forgetFd, if_pos hfd, edit, slots_set_self hx]
  have hat : ∀ (s : Slot) index set, (m.edit i s index set).slots[i]? = some s :=
    fun s index set => List.getElem?_set_self hlt
  have halerted : ((m.edit i slot (m.indexOfFd.erase slot.connection.fd)
      (m.epollSet.del slot.connection.fd)).slots.set i slot.emitFailureAlert)[i]? =
      some slot.emitFailureAlert := by
    simp [edit, hlt]
  simp only [onConnectionFailed, hx, hforgotten]
  rw [emitFailureAlert, modifySlot_eq _ (hat _ _ _), scheduleReconnect, modifySlot_eq _ halerted]
  simp only [edit, List.set_set]
  rfl

/-- Replace a slot and, if its connection has failed by then, run
`on_connection_failed` on it. -/
theorem onConnectionFailed_edit (tidy : Prop) (set : EpollSet) (io : SlotIo)
    (hx : m.slots[i]? = some slot)
    (hfd : 0 ≤ slot.connection.fd) (hplace : slot'.place = slot.place)
    (hfailed : slot'.connection.state = .kFailed) :
    Edit tidy m i slot (slot'.fail m.config io)
      ((m.edit i slot' m.indexOfFd set).onConnectionFailed i io) := by
  obtain ⟨hlt, _⟩ := List.getElem?_eq_some_iff.mp hx
  have hfd' : slot'.connection.fd = slot.connection.fd := congrArg Prod.fst hplace
  have hx' : (m.edit i slot' m.indexOfFd set).slots[i]? = some slot' := List.getElem?_set_self hlt
  rw [onConnectionFailed_eq io hx' (hfd'.symm ▸ hfd)]
  have heq : (m.edit i slot' m.indexOfFd set).edit i (slot'.fail m.config io)
      (m.indexOfFd.erase slot.connection.fd) (set.del slot.connection.fd) =
      m.edit i (slot'.fail m.config io) (m.indexOfFd.erase slot.connection.fd)
        (set.del slot.connection.fd) := by
    simp only [edit, List.set_set]
  rw [hfd']
  show Edit tidy m i slot (slot'.fail m.config io)
    ((m.edit i slot' m.indexOfFd set).edit i (slot'.fail m.config io)
      (m.indexOfFd.erase slot.connection.fd) (set.del slot.connection.fd))
  rw [heq]
  exact .drop _ (by rw [Slot.fail_connection, hfd']) (by rw [Slot.fail_connection, hfailed])

theorem handleConnectionEvent_edit (events : EpollEvents) (now : Int) (io : SlotIo)
    (hx : m.slots[i]? = some slot) (hfd : 0 ≤ slot.connection.fd) :
    Edit (slot.connection.state ≠ .kFailed) m i slot (slot.handled m.config events now io)
      (m.handleConnectionEvent i events now io) := by
  obtain ⟨hlt, _⟩ := List.getElem?_eq_some_iff.mp hx
  have hplace := Slot.onEvent_place slot m.config events now io
  unfold handleConnectionEvent Slot.handled
  simp only [modifySlot_eq _ hx, List.getElem?_set_self hlt]
  by_cases hf : (slot.onEvent m.config events now io).connection.state = .kFailed
  · rw [if_pos hf, if_pos hf]
    exact onConnectionFailed_edit _ m.epollSet io hx hfd hplace hf
  · rw [if_neg hf, if_neg hf]
    simp only [syncEpollInterest, List.getElem?_set_self hlt]
    exact .keep _ (congrArg Prod.fst hplace) fun hlive => by simp [hf, hlive]

theorem checkSlot_edit (now : Int) (io : SlotIo) (hx : m.slots[i]? = some slot)
    (hfd : 0 ≤ slot.connection.fd) :
    Edit True m i slot (slot.checked m.config now io) (m.checkSlot i now io) := by
  have hplace := Slot.check_place slot m.config now io
  have hverdict := Slot.check_verdict slot m.config now io
  have hstay := Connection.call_stays_failed slot.connection
    ⟨m.config, io.env, .checkTimeout now⟩
  simp only [checkSlot, hx, Slot.checked, modifySlot_eq _ hx]
  by_cases hv : (slot.check m.config now io).1 = true
  · rw [if_pos hv, if_pos hv]
    exact onConnectionFailed_edit _ m.epollSet io hx hfd hplace (hverdict.mp hv).2
  · rw [if_neg hv, if_neg hv]
    refine .keep m.epollSet (congrArg Prod.fst hplace) fun _ => ⟨fun hf => ?_, fun hf => ?_⟩
    · by_contra hlive
      exact hv (hverdict.mpr ⟨hlive, hf⟩)
    · exact hstay hf rfl

/-- An edit that keeps the map, followed by a second edit of the same slot. -/
theorem Edit.after_keep (mid : Slot) (set : EpollSet)
    (hfd : mid.connection.fd = slot.connection.fd)
    (hlive : tidy → (mid.connection.state = .kFailed ↔ slot.connection.state = .kFailed))
    (h : Edit True (m.edit i mid m.indexOfFd set) i mid slot' m')
    (hnogain : mid.connection.state = .kFailed → slot'.connection.state = .kFailed) :
    Edit tidy m i slot slot' m' := by
  have hset : ∀ s index set', (m.edit i mid m.indexOfFd set).edit i s index set' =
      m.edit i s index set' := by
    intro s index set'
    simp only [edit, List.set_set]
  cases h with
  | keep set' hfd' hlive' =>
      rw [hset]
      exact .keep set' (hfd'.trans hfd) fun ht => (hlive' trivial).trans (hlive ht)
  | drop set' hfd' hfailed =>
      rw [hset]
      have hmap : (m.edit i mid m.indexOfFd set).indexOfFd.erase mid.connection.fd =
          m.indexOfFd.erase slot.connection.fd := by
        rw [hfd]
        rfl
      rw [hmap]
      exact .drop set' (hfd'.trans hfd) hfailed
  | gain set' hfailed hlive' => exact absurd (hnogain hfailed) hlive'

theorem initiateConnect_edit (now : Int) (io : SlotIo) (hx : m.slots[i]? = some slot)
    (hfailed : slot.connection.state = .kFailed) (hrole : slot.connection.role = .kInitiator) :
    Edit tidy m i slot (slot.reconnected m.config now io) (m.initiateConnect i now io) := by
  obtain ⟨hlt, _⟩ := List.getElem?_eq_some_iff.mp hx
  have hbegun : ({ m with slots := m.slots.set i { slot with reconnectReadyAtNs := -1 } } :
      FeedMonitor).slots[i]? = some { slot with reconnectReadyAtNs := -1 } :=
    List.getElem?_set_self hlt
  simp only [initiateConnect, Slot.reconnected, modifySlot_eq _ hx, List.getElem?_set_self hlt]
  cases hs : io.socket with
  | none =>
      dsimp only
      rw [scheduleReconnect, modifySlot_eq _ hbegun]
      dsimp only
      rw [List.set_set]
      exact .keep m.epollSet (by rw [Slot.scheduleReconnect_connection])
        fun _ => by rw [Slot.scheduleReconnect_connection]
  | some fd =>
      dsimp only
      rw [List.set_set]
      have hlive : ({ slot with reconnectReadyAtNs := -1 }.invoke m.config io.env
          (.rebind fd now)).connection.state ≠ .kFailed := by
        show Connection.startState slot.connection.role ≠ .kFailed
        rw [hrole]
        nofun
      exact .gain _ hfailed hlive

/-- **One turn of the tick.**  If the slot's PING is not lost, the fd map
follows the slot. -/
theorem tickSlot_edit (now : Int) (io : Nat → SlotIo) (hx : m.slots[i]? = some slot)
    (hfd : 0 ≤ slot.connection.fd) (hrole : slot.connection.role = .kInitiator) :
    Edit (¬ slot.PingLost now (io i)) m i slot (slot.ticked m.config now (io i))
      (tickSlot now io m i) := by
  obtain ⟨hlt, _⟩ := List.getElem?_eq_some_iff.mp hx
  have hself := slots_set_self hx
  have hsame : Edit (¬ slot.PingLost now (io i)) m i slot slot m := by
    have hkeep : Edit (¬ slot.PingLost now (io i)) m i slot slot
        (m.edit i slot m.indexOfFd m.epollSet) := .keep m.epollSet rfl fun _ => Iff.rfl
    rwa [edit, hself] at hkeep
  -- the PING, then the timeout check
  have hping : Edit (¬ slot.PingLost now (io i)) m i slot
      ((slot.pingIfDue m.config now (io i)).checked m.config now (io i))
      ((if now ≥ slot.nextPingDueNs then
        (m.modifySlot i fun slot =>
          slot.pingIfDue m.config now (io i)).syncEpollInterest i
      else m).checkSlot i now (io i)) := by
    have hplace := Slot.pingIfDue_place slot m.config now (io i)
    have hfd' : (slot.pingIfDue m.config now (io i)).connection.fd = slot.connection.fd :=
      congrArg Prod.fst hplace
    obtain ⟨set, hset⟩ : ∃ set, (if now ≥ slot.nextPingDueNs then
        (m.modifySlot i fun slot =>
          slot.pingIfDue m.config now (io i)).syncEpollInterest i
      else m) = m.edit i (slot.pingIfDue m.config now (io i)) m.indexOfFd set := by
      split
      · rw [modifySlot_eq _ hx]
        simp only [syncEpollInterest, List.getElem?_set_self hlt]
        exact ⟨_, rfl⟩
      · next hdue =>
          refine ⟨m.epollSet, ?_⟩
          rw [Slot.pingIfDue, if_neg hdue, edit, hself]
    rw [hset]
    have hx' : (m.edit i (slot.pingIfDue m.config now (io i)) m.indexOfFd set).slots[i]? =
        some (slot.pingIfDue m.config now (io i)) := List.getElem?_set_self hlt
    refine Edit.after_keep (slot.pingIfDue m.config now (io i)) set hfd'
      (fun hkept => by rw [Slot.pingIfDue_state slot m.config now (io i) hkept])
      (checkSlot_edit now (io i) hx' (hfd'.symm ▸ hfd)) ?_
    intro hf
    rw [Slot.checked_connection]
    exact Connection.call_stays_failed _ ⟨m.config, (io i).env, .checkTimeout now⟩ hf rfl
  have hcheck : Edit (¬ slot.PingLost now (io i)) m i slot (slot.checked m.config now (io i))
      (m.checkSlot i now (io i)) := (checkSlot_edit now (io i) hx hfd).weaken
  simp only [tickSlot, hx, Slot.ticked]
  cases hs : slot.connection.state with
  | kHealthy => exact hping
  | kDegraded => exact hping
  | kConnecting => exact hcheck
  | kHandshaking => exact hcheck
  | kFailed =>
      dsimp only
      simp only [Slot.reconnectDue, decide_eq_true_eq]
      split
      · exact initiateConnect_edit now (io i) hx hs hrole
      · exact hsame
  | kDisconnected => exact hsame
  | kReconnecting => exact hsame

end FeedMonitor

end Vigil
