import Vigil.Evidence
import Vigil.IntervalChanges

/-!
# Changing the heartbeat timeout

`set_heartbeat_timeout` resets the stamp an established connection is judged
by, so that no feed is condemned for a silence that began under the old
timeout (`timeout_change_spares`).  `Since B` says of a connection that, if it
is established, this stamp is not older than `B`; every call keeps it that
reads the clock at `B` or later.  An attempt to connect is judged by
`stateEnteredNs`, which the change leaves alone.
-/

namespace Vigil

/-! ## The stamp of a connection -/

namespace Connection

variable {σ : Type} {c c' : Connection σ} {B : Int}

/-- The proof of life an established connection is judged by is not older than
`B`. -/
def Since (B : Int) (c : Connection σ) : Prop :=
  c.state = .kHealthy ∨ c.state = .kDegraded → B ≤ c.lastLivenessNs

theorem Since.still (h : Since B c) (hs : Still c c') : Since B c' := by
  intro hest
  rw [lastLivenessNs_of_evidence hs.evidence]
  exact h (hs.established hest ▸ hest)

theorem since_failed (hf : c.state = .kFailed) : Since B c := by
  intro hest
  rw [hf] at hest
  rcases hest with hs | hs <;> cases hs

theorem Since.handleMessage (h : Since B c) (cfg : Config) (msg : HeartbeatMessage) {now : Int}
    (hnow : B ≤ now) : Since B (c.handleMessage cfg msg now) := by
  have hresult := handleMessage_result cfg c msg now
  generalize c.handleMessage cfg msg now = result at hresult ⊢
  cases hresult with
  | violation => exact since_failed rfl
  | hello => exact fun _ => hnow
  | ack => exact fun _ => hnow
  | pingAnswered captured =>
      have hheard : Since B (c.heard now captured) := fun _ => hnow
      exact hheard.still (queueMessage_still _ _)
  | pingHeld captured => exact fun _ => hnow
  | duplicate => exact h
  | untimely => exact h
  | counted => exact fun _ => hnow
  | recovered => exact fun _ => hnow
  | closed => exact since_failed rfl
  | unknown => exact h

theorem Since.onReadable (h : Since B c) (cfg : Config) (recvs : List RecvOutcome) {now : Int}
    (hnow : B ≤ now) : Since B (c.onReadable cfg recvs now) := by
  refine onReadable_keeps (I := Since B) ?_ ?_ ?_ h recvs
  · exact fun d msg hd => Since.handleMessage (c := d.noteHandled msg) hd cfg msg hnow
  · exact fun d r _ => since_failed rfl
  · exact fun d buf hd => hd

/-- A miss moves the stamp forward. -/
theorem Since.checkTimeout (h : Since B c) (cfg : Config) (now : Int)
    (hcfg : 0 ≤ cfg.timeoutNs) : Since B (c.checkTimeout cfg now).2 := by
  have hresult := checkTimeout_result cfg c now
  generalize c.checkTimeout cfg now = result at hresult ⊢
  cases hresult with
  | idle => exact h
  | attempting => exact h
  | alive => exact h
  | attemptExpired => exact since_failed rfl
  | silent => exact since_failed rfl
  | lastMiss => exact since_failed rfl
  | miss hs =>
      intro _
      have hold := h hs
      show B ≤ c.lastLivenessNs + cfg.timeoutNs
      omega

/-- Within a timeout of that stamp, `check_timeout` only fails connections that
are not established yet. -/
theorem Since.checkTimeout_quiet (h : Since B c) (cfg : Config) {now : Int}
    (hlt : now < B + cfg.timeoutNs) :
    (c.checkTimeout cfg now).2.stats.missed = c.stats.missed ∧
      ((c.checkTimeout cfg now).2.state = .kDegraded → c.state = .kDegraded) ∧
      ((c.checkTimeout cfg now).1 = true ↔ (c.state = .kConnecting ∨ c.state = .kHandshaking) ∧
        cfg.timeoutNs ≤ now - c.stateEnteredNs) := by
  have hresult := checkTimeout_result cfg c now
  generalize c.checkTimeout cfg now = result at hresult ⊢
  have hyoung : c.state = .kHealthy ∨ c.state = .kDegraded →
      ¬ cfg.timeoutNs ≤ now - c.lastLivenessNs := by
    intro hest hexpired
    have hsince := h hest
    omega
  cases hresult with
  | idle hs =>
      refine ⟨rfl, id, nofun, ?_⟩
      rintro ⟨hopen | hopen, _⟩
      · exact absurd hopen hs.1
      · exact absurd hopen hs.2.1
  | attempting hs ht =>
      refine ⟨rfl, id, nofun, ?_⟩
      rintro ⟨_, hexpired⟩
      omega
  | attemptExpired hs ht => exact ⟨rfl, nofun, fun _ => ⟨hs, ht⟩, fun _ => rfl⟩
  | alive hs =>
      refine ⟨rfl, id, nofun, ?_⟩
      rintro ⟨hopen, _⟩
      rcases hs with hs | hs <;> simp [hs] at hopen
  | silent hs _ ht => exact absurd ht (hyoung hs)
  | lastMiss hs _ ht => exact absurd ht (hyoung hs)
  | miss hs _ ht => exact absurd ht (hyoung hs)

end Connection

/-! ## The stamp of a slot -/

namespace Slot

open Connection

variable {slot : Slot} {B : Int}

/-- `check_timeout` returns `true` in this turn of the tick. -/
def timesOut (slot : Slot) (cfg : Config) (now : Int) (io : SlotIo) : Bool :=
  match slot.connection.state with
  | .kHealthy | .kDegraded => ((slot.pingIfDue cfg now io).check cfg now io).1
  | .kConnecting | .kHandshaking => (slot.check cfg now io).1
  | _ => false

theorem pingIfDue_still (slot : Slot) (cfg : Config) (now : Int) (io : SlotIo) :
    Still slot.connection (slot.pingIfDue cfg now io).connection := by
  unfold pingIfDue
  split
  · exact call_still slot.connection ⟨cfg, io.env, .sendPing now⟩ rfl
  · exact ⟨rfl, Or.inl rfl⟩

theorem since_handled (h : slot.connection.Since B) (cfg : Config) (events : EpollEvents)
    {now : Int} (io : SlotIo) (hnow : B ≤ now) :
    (slot.handled cfg events now io).connection.Since B := by
  have hw : (slot.writeIfWritable cfg events now io).connection.Since B := by
    unfold writeIfWritable
    split
    · exact h.still (call_still slot.connection ⟨cfg, io.env, .onWritable io.soError now⟩ rfl)
    · exact h
  have hev : (slot.onEvent cfg events now io).connection.Since B := by
    unfold onEvent
    split
    · exact since_failed rfl
    · dsimp only
      generalize slot.writeIfWritable cfg events now io = written at hw ⊢
      split
      · have hin : ∀ env, (written.connection.withEnv env).Since B := fun _ => hw
        exact (hin _).onReadable cfg io.recvs hnow
      · exact hw
  unfold handled
  split
  · rw [fail_connection]
    exact hev
  · exact hev

theorem since_checked (h : slot.connection.Since B) (cfg : Config) (now : Int) (io : SlotIo)
    (hcfg : 0 ≤ cfg.timeoutNs) : (slot.checked cfg now io).connection.Since B := by
  have hin : (slot.connection.withEnv io.env).Since B := h
  rw [checked_connection]
  exact hin.checkTimeout cfg now hcfg

theorem since_reconnected (h : slot.connection.Since B) (hrole : slot.connection.role = .kInitiator)
    (cfg : Config) (now : Int) (io : SlotIo) :
    (slot.reconnected cfg now io).connection.Since B := by
  unfold reconnected
  split
  · intro hest
    have hstart : startState slot.connection.role = .kHealthy ∨
        startState slot.connection.role = .kDegraded := hest
    rw [hrole] at hstart
    rcases hstart with hs | hs <;> cases hs
  · rw [scheduleReconnect_connection]
    exact h

theorem since_ticked (h : slot.connection.Since B) (hsound : slot.Sound) (cfg : Config) (now : Int)
    (io : SlotIo) (hcfg : 0 ≤ cfg.timeoutNs) : (slot.ticked cfg now io).connection.Since B := by
  have hping := h.still (pingIfDue_still slot cfg now io)
  unfold ticked
  cases slot.connection.state with
  | kHealthy => exact since_checked hping cfg now io hcfg
  | kDegraded => exact since_checked hping cfg now io hcfg
  | kConnecting => exact since_checked h cfg now io hcfg
  | kHandshaking => exact since_checked h cfg now io hcfg
  | kFailed =>
      dsimp only
      split
      · exact since_reconnected h hsound.role cfg now io
      · exact h
  | kDisconnected => exact h
  | kReconnecting => exact h

theorem checked_spared (h : slot.connection.Since B) (cfg : Config) {now : Int} (io : SlotIo)
    (hlt : now < B + cfg.timeoutNs) :
    (slot.checked cfg now io).connection.stats.missed = slot.connection.stats.missed ∧
      ((slot.checked cfg now io).connection.state = .kDegraded →
        slot.connection.state = .kDegraded) ∧
      ((slot.check cfg now io).1 = true ↔
        (slot.connection.state = .kConnecting ∨ slot.connection.state = .kHandshaking) ∧
          cfg.timeoutNs ≤ now - slot.connection.stateEnteredNs) := by
  have hin : (slot.connection.withEnv io.env).Since B := h
  rw [checked_connection]
  exact hin.checkTimeout_quiet cfg hlt

/-- A PING, and a timeout check that finds the connection established or just
failed. -/
theorem pinged_spared (h : slot.connection.Since B)
    (hs : slot.connection.state = .kHealthy ∨ slot.connection.state = .kDegraded) (cfg : Config)
    {now : Int} (io : SlotIo) (hlt : now < B + cfg.timeoutNs) :
    ((slot.pingIfDue cfg now io).checked cfg now io).connection.stats.missed =
        slot.connection.stats.missed ∧
      (((slot.pingIfDue cfg now io).checked cfg now io).connection.state = .kDegraded →
        slot.connection.state = .kDegraded) ∧
      ((slot.pingIfDue cfg now io).check cfg now io).1 = false := by
  have hstill := pingIfDue_still slot cfg now io
  obtain ⟨hmissed, hdegraded, hverdict⟩ := checked_spared (h.still hstill) cfg io hlt
  have hstate : (slot.pingIfDue cfg now io).connection.state = slot.connection.state ∨
      (slot.pingIfDue cfg now io).connection.state = .kFailed := by
    rcases hstill.state with hsame | hfailed | ⟨hconnecting, _⟩
    · exact Or.inl hsame
    · exact Or.inr hfailed
    · rw [hconnecting] at hs
      rcases hs with hs | hs <;> cases hs
  refine ⟨hmissed.trans (missed_of_evidence hstill.evidence), fun hd => ?_, ?_⟩
  · have hmid := hdegraded hd
    exact (hstill.established (Or.inr hmid)).symm.trans hmid
  · rw [Bool.eq_false_iff]
    intro htrue
    have hopen := (hverdict.mp htrue).1
    rcases hstate with hsame | hfailed
    · rw [hsame] at hopen
      rcases hs with hs | hs <;> simp [hs] at hopen
    · simp [hfailed] at hopen

/-- **A tick within a timeout of `B`** condemns no established connection: it
only ends attempts that have lasted for the timeout. -/
theorem ticked_spared (h : slot.connection.Since B) (hsound : slot.Sound) (cfg : Config)
    {now : Int} (io : SlotIo) (hlt : now < B + cfg.timeoutNs) :
    (slot.ticked cfg now io).connection.stats.missed = slot.connection.stats.missed ∧
      ((slot.ticked cfg now io).connection.state = .kDegraded →
        slot.connection.state = .kDegraded) ∧
      (slot.timesOut cfg now io = true ↔
        (slot.connection.state = .kConnecting ∨ slot.connection.state = .kHandshaking) ∧
          cfg.timeoutNs ≤ now - slot.connection.stateEnteredNs) := by
  unfold ticked timesOut
  cases hs : slot.connection.state with
  | kHealthy =>
      obtain ⟨hmissed, hdegraded, hverdict⟩ := pinged_spared h (Or.inl hs) cfg io hlt
      rw [hs] at hdegraded
      exact ⟨hmissed, hdegraded, by simp [hverdict]⟩
  | kDegraded =>
      obtain ⟨hmissed, -, hverdict⟩ := pinged_spared h (Or.inr hs) cfg io hlt
      exact ⟨hmissed, fun _ => rfl, by simp [hverdict]⟩
  | kConnecting =>
      have hspared := checked_spared h cfg io hlt
      rwa [hs] at hspared
  | kHandshaking =>
      have hspared := checked_spared h cfg io hlt
      rwa [hs] at hspared
  | kFailed =>
      dsimp only
      split
      · refine ⟨?_, ?_, by simp⟩
        · unfold reconnected
          split
          · rfl
          · rw [scheduleReconnect_connection]
        · intro hd
          have hrole := hsound.role
          unfold reconnected at hd
          split at hd
          · have hstart : startState slot.connection.role = .kDegraded := hd
            rw [hrole] at hstart
            cases hstart
          · rw [scheduleReconnect_connection] at hd
            exact absurd (hs.symm.trans hd) nofun
      · exact ⟨rfl, fun hd => absurd (hs.symm.trans hd) nofun, by simp⟩
  | kDisconnected => exact ⟨rfl, fun hd => absurd (hs.symm.trans hd) nofun, by simp⟩
  | kReconnecting => exact ⟨rfl, fun hd => absurd (hs.symm.trans hd) nofun, by simp⟩

end Slot

/-! ## Runs after the change -/

namespace FeedMonitor

/-- The step sets no timeout. -/
def KeepsTimeout : MonitorStep → Prop
  | .command (.setHeartbeatTimeout _ _) => False
  | _ => True

/-- A connection event carries a reading that is not before `B`. -/
def ReadsFrom (B : Int) : MonitorStep → Prop
  | .connectionEvent _ _ now _ => B ≤ now
  | _ => True

/-- The timeout has been `T` since `B`, and established connections are judged
by what they have done since. -/
structure Rebased (T B : Int) (m : FeedMonitor) : Prop where
  sound : m.Sound
  timeout : m.config.heartbeatTimeout = T
  since : ∀ slot ∈ m.slots, slot.connection.Since B

theorem rebased_setHeartbeatTimeout {m : FeedMonitor} (h : m.Sound) (T B : Int) :
    Rebased T B (m.setHeartbeatTimeout T B) where
  sound := step_sound h (.command (.setHeartbeatTimeout T B))
  timeout := rfl
  since := by
    intro slot' hmem
    obtain ⟨slot, _, rfl⟩ := List.mem_map.mp hmem
    exact fun _ => Int.le_refl B

theorem Rebased.step {T B : Int} {m : FeedMonitor} (h : Rebased T B m) (hT : 0 ≤ T)
    {s : MonitorStep} (hkeeps : KeepsTimeout s) (hreads : ReadsFrom B s) :
    Rebased T B (m.step s) where
  sound := step_sound h.sound s
  timeout := by
    rw [step_config h.sound]
    unfold configure
    split
    · exact h.timeout
    · exact absurd hkeeps id
    · exact h.timeout
  since := by
    intro slot' hmem
    have hcfg : 0 ≤ m.config.timeoutNs := by
      rw [Config.timeoutNs, h.timeout]
      exact toNs_nonneg hT
    rcases step_origin h.sound s hmem with ⟨i, slot, hx, hstep⟩ | ⟨endpoint, fd, now, _, _, rfl⟩
    · have hslot := h.since slot (List.mem_of_getElem? hx)
      cases hstep with
      | kept => exact hslot
      | disconnected feedId now io =>
          exact Connection.since_failed (Slot.disconnected_state slot m.config now io)
      | forcedReconnect => exact hslot
      | rebased => exact absurd hkeeps id
      | handled fd events now io => exact Slot.since_handled hslot m.config events io hreads
      | ticked now io => exact Slot.since_ticked hslot (h.sound.at hx) m.config now (io i) hcfg
    · -- a new slot is connecting
      rintro (hs | hs) <;> cases hs

/-- The timeout is set to `T` at `B`, and the run goes on. -/
def retimed (m : FeedMonitor) (T B : Int) (after : List MonitorStep) : FeedMonitor :=
  after.foldl step (m.setHeartbeatTimeout T B)

/-- The timeout shrinks from 3 s to 1 s at 2 s, when the feed has been
connecting for 2 s. -/
def shrunkWhileConnecting : FeedMonitor :=
  ((feedConnects.take 1).foldl step (create {} 3 4)).retimed 1000 2000000000 []

/-- The timeout shrinks to 1 ms at 5 ms, and the CONNECT_ACK is handled after
that with the reading its wakeup began with. -/
def shrunkWithinWakeup : FeedMonitor :=
  ((feedConnects.take 2).foldl step (create {} 3 4)).retimed 1 5000000 (feedConnects.drop 2)

/-- The tick records no miss on any slot, and neither degrades one nor fails one
by timeout. -/
def Spares (m : FeedMonitor) (now : Int) (io : Nat → SlotIo) : Prop :=
  ∀ i < m.slots.length, ∀ slot ∈ m.slots[i]?, ∀ slot' ∈ (m.onTimerTick now io).slots[i]?,
    slot'.connection.stats.missed = slot.connection.stats.missed ∧
      (slot'.connection.state = .kDegraded → slot.connection.state = .kDegraded) ∧
      slot.timesOut m.config now (io i) = false

end FeedMonitor

end Vigil
