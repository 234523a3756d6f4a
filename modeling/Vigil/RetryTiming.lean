import Vigil.Alerts
import Vigil.Backoff
import Vigil.FeedIsolation
import Vigil.Retries

/-!
# Retries are punctual

`schedule_reconnect` writes down when a failed feed is to be retried, and every
tick looks whether that time has come.  Nothing else starts a retry: not the
events of the dead socket, which is out of the fd map, nor another failure, a
disconnect or a change of the timeout.  `retry_punctual` follows a feed from
the step that failed it: the retry is a jittered backoff ahead, until then the
feed stays failed whatever else happens, and the first tick from then on
connects it.
-/

namespace Vigil

/-- Failed, not given up, and to be retried at `ready`. -/
structure Slot.Waits (slot : Slot) (ready : Int) : Prop where
  failed : slot.connection.state = .kFailed
  kept : slot.giveUp = false
  ready_eq : slot.reconnectReadyAtNs = ready

/-- The step neither removes the feed nor forces its reconnect. -/
def MonitorStep.Spares (feedId : BitVec 32) : MonitorStep → Prop
  | .command (.removeFeed id) => id ≠ feedId
  | .command (.forceReconnect id) => id ≠ feedId
  | _ => True

/-- The step is no tick from `ready` on. -/
def MonitorStep.TicksBefore (ready : Int) : MonitorStep → Prop
  | .timerTick now _ => now < ready
  | _ => True

/-- An input that leaves a waiting feed as it is. -/
def FeedInput.Leaves (ready : Int) : FeedInput → Prop
  | .removed | .renewed | .handled _ _ _ _ => False
  | .ticked _ now _ => now < ready
  | _ => True

theorem Slot.Waits.onSlot {slot : Slot} {ready : Int} (h : slot.Waits ready) {input : FeedInput}
    (hleaves : input.Leaves ready) :
    ∃ slot', input.onSlot slot = some slot' ∧ slot'.Waits ready := by
  cases input with
  | added endpoint fd now => exact ⟨slot, rfl, h⟩
  | removed => exact hleaves.elim
  | renewed => exact hleaves.elim
  | handled cfg events now io => exact hleaves.elim
  | disconnected cfg now io => exact ⟨slot, by simp [FeedInput.onSlot, h.failed], h⟩
  | rebased cfg now => exact ⟨_, rfl, h.failed, h.kept, h.ready_eq⟩
  | ticked cfg now io =>
      have hbefore : now < ready := hleaves
      have hdue : slot.reconnectDue now = false := by
        simp [Slot.reconnectDue, h.kept, h.ready_eq, hbefore]
      have hsame : slot.ticked cfg now io = slot := by
        simp [Slot.ticked, h.failed, hdue]
      exact ⟨slot, by rw [FeedInput.onSlot, hsame], h⟩

namespace FeedMonitor

variable {m : FeedMonitor} {feedId : BitVec 32} {slot slot' : Slot} {s : MonitorStep} {ready : Int}

/-- A feed of the monitor waits. -/
def Awaits (m : FeedMonitor) (feedId : BitVec 32) (ready : Int) : Prop :=
  ∃ slot, m.feed feedId = some slot ∧ slot.Waits ready

/-- No event reaches a failed feed, so a step that spares it leaves it waiting. -/
theorem heard_leaves (h : m.Awaits feedId ready) (hspares : s.Spares feedId)
    (hbefore : s.TicksBefore ready) : ∀ input ∈ m.heard feedId s, input.Leaves ready := by
  obtain ⟨slot, hfeed, hwaits⟩ := h
  obtain ⟨stored, hstore, hstored⟩ := Option.map_eq_some_iff.mp hfeed
  have hdead : (m.store feedId).bind liveFd = none := by
    have hfailed : stored.connection.state = .kFailed := by
      rw [← hstored] at hwaits
      exact hwaits.failed
    rw [hstore, Option.bind_some, liveFd_failed hfailed]
  intro input hmem
  cases s with
  | command c =>
      cases c with
      | addFeed endpoint socket now =>
          cases socket with
          | none => cases hmem
          | some fd =>
              rw [mem_told hmem]
              trivial
      | removeFeed id => simp [heard, commandHeard, show id ≠ feedId from hspares] at hmem
      | forceReconnect id => simp [heard, commandHeard, show id ≠ feedId from hspares] at hmem
      | forceDisconnect id now io =>
          rw [mem_told hmem]
          trivial
      | setHeartbeatInterval interval => cases hmem
      | setHeartbeatTimeout timeout now =>
          rw [List.mem_singleton.mp hmem]
          trivial
      | setCommandInput fd => cases hmem
  | connectionEvent fd events now io => simp [heard, hdead] at hmem
  | timerTick now io =>
      simp only [heard] at hmem
      split at hmem
      · rw [List.mem_singleton.mp hmem]
        exact hbefore
      · cases hmem

theorem step_awaits (hwf : m.WellFormed) (h : m.Awaits feedId ready) (hspares : s.Spares feedId)
    (hbefore : s.TicksBefore ready) : (m.step s).Awaits feedId ready := by
  have hleaves := heard_leaves h hspares hbefore
  obtain ⟨slot, hfeed, hwaits⟩ := h
  rw [Awaits, step_feed hwf s, hfeed]
  generalize m.heard feedId s = inputs at hleaves
  clear hfeed
  induction inputs generalizing slot with
  | nil => exact ⟨slot, rfl, hwaits⟩
  | cons input inputs ih =>
      obtain ⟨slot', hslot', hwaits'⟩ := hwaits.onSlot (hleaves input List.mem_cons_self)
      obtain ⟨last, hlast, hdone⟩ := ih slot' hwaits'
        fun later hmem => hleaves later (List.mem_cons_of_mem input hmem)
      refine ⟨last, ?_, hdone⟩
      rw [List.foldl_cons]
      show inputs.foldl FeedInput.apply (input.onSlot slot) = some last
      rw [hslot']
      exact hlast

/-- The timeout part of a tick that fails a slot schedules its retry. -/
theorem checked_fails {pinged : Slot} {cfg : Config} {now : Int} {io : SlotIo}
    (hlive : pinged.connection.state ≠ .kFailed)
    (hfailed : (pinged.checked cfg now io).connection.state = .kFailed) :
    (pinged.checked cfg now io).retry =
      pinged.retry.schedule cfg (io.failedAt, io.jitter) := by
  have hverdict : (pinged.check cfg now io).1 = true := by
    rw [Slot.check_verdict, ← Slot.checked_connection]
    exact ⟨hlive, hfailed⟩
  rw [Slot.checked, if_pos hverdict, Slot.fail_retry]
  rfl

/-- The step that fails a slot schedules its retry. -/
theorem slotStep_fails {i : Nat} (hping : PingsSendable m s) (hx : m.slots[i]? = some slot)
    (hstep : SlotStep m s i slot slot') (hlive : slot.connection.state ≠ .kFailed)
    (hfailed : slot'.connection.state = .kFailed) :
    slot'.retry = slot.retry.schedule m.config (s.backoff i slot) := by
  cases hstep with
  | kept => exact absurd hfailed hlive
  | rebased timeout now => exact absurd hfailed hlive
  | forcedReconnect feedId _ _ _ hdead => exact absurd hdead hlive
  | disconnected feedId now io => exact Slot.fail_retry _ m.config io
  | handled fd events now io =>
      rw [Slot.handled_state] at hfailed
      rw [Slot.handled, if_pos hfailed, Slot.fail_retry, Slot.onEvent_retry]
      rfl
  | ticked now io =>
      have hbackoff : (MonitorStep.timerTick now io).backoff i slot =
          ((io i).failedAt, (io i).jitter) := by
        simp only [MonitorStep.backoff, if_neg hlive]
      have hpinged := Slot.pingIfDue_state slot m.config now (io i) (hping i slot hx)
      rw [hbackoff]
      unfold Slot.ticked at hfailed ⊢
      cases hs : slot.connection.state with
      | kHealthy =>
          simp only [hs] at hfailed ⊢
          rw [checked_fails (by simp [hpinged, hs]) hfailed, Slot.pingIfDue_retry]
      | kDegraded =>
          simp only [hs] at hfailed ⊢
          rw [checked_fails (by simp [hpinged, hs]) hfailed, Slot.pingIfDue_retry]
      | kConnecting =>
          simp only [hs] at hfailed ⊢
          exact checked_fails hlive hfailed
      | kHandshaking =>
          simp only [hs] at hfailed ⊢
          exact checked_fails hlive hfailed
      | kFailed => exact absurd hs hlive
      | kDisconnected =>
          simp only [hs] at hfailed
          exact absurd hfailed (by simp)
      | kReconnecting =>
          simp only [hs] at hfailed
          exact absurd hfailed (by simp)

/-- The step that fails a feed sets the time of its retry. -/
theorem failed_ready (h : m.WellFormed) (hping : PingsSendable m s) {i : Nat}
    (hi : m.indexOfFeedId.lookup feedId = some i) (hslot : m.feed feedId = some slot)
    (hslot' : (m.step s).feed feedId = some slot') (hlive : slot.connection.state ≠ .kFailed)
    (hfailed : slot'.connection.state = .kFailed) (hgive : slot'.giveUp = false) :
    slot'.reconnectReadyAtNs = (s.backoff i slot).1 +
      reconnectDelayNs m.config slot.reconnectAttempts (s.backoff i slot).2 := by
  obtain ⟨stored, hstore, rfl⟩ := Option.map_eq_some_iff.mp hslot
  obtain ⟨stored', hstore', rfl⟩ := Option.map_eq_some_iff.mp hslot'
  obtain ⟨hmem, hid⟩ := (step_listed h.toListed s).feedIndex.find_eq_some.mp hstore'
  rcases step_origin h.sound s hmem with ⟨j, origin, hj, hstep⟩ | ⟨endpoint, fd, now, _, _, hnew⟩
  · have hfeed : origin.connection.feedId = stored'.connection.feedId :=
      (congrArg (fun x => x.2.2.1) (slotStep_sameness hstep)).symm
    have hlookup := (h.feedIndex feedId j).mpr ⟨origin, hj, (congrArg some hfeed).trans hid⟩
    rw [hi] at hlookup
    obtain rfl := Option.some.inj hlookup
    have horigin : origin = stored := by
      rw [store, FlatIndex.find, hi, Option.bind_some, hj] at hstore
      exact Option.some.inj hstore
    subst horigin
    have hretry := slotStep_fails hping hj hstep hlive hfailed
    have hkept : (origin.retry.schedule m.config (s.backoff i origin)).giveUp = false := by
      rw [← hretry]
      exact hgive
    show stored'.retry.readyAtNs = _
    rw [hretry]
    unfold Retry.schedule at hkept ⊢
    split at hkept
    · cases hkept
    · next hbudget =>
        rw [if_neg hbudget]
        rfl
  · rw [hnew] at hfailed
    cases hfailed

/-! ## Every run -/

/-- A tick from `ready` on connects a waiting feed, if it gets a socket. -/
theorem tick_connects (hwf : m.WellFormed) (h : m.Awaits feedId ready) (hready : 0 ≤ ready)
    {now : Int} {io : Nat → SlotIo} {i fd : Nat} (hdue : ready ≤ now)
    (hi : m.indexOfFeedId.lookup feedId = some i) (hsocket : (io i).socket = some fd) :
    ∃ slot, (m.step (.timerTick now io)).feed feedId = some slot ∧
      slot.connection.state = .kConnecting ∧ slot.connection.fd = fd := by
  obtain ⟨slot, hfeed, hwaits⟩ := h
  have hrole : slot.connection.role = .kInitiator := by
    obtain ⟨stored, hstore, rfl⟩ := Option.map_eq_some_iff.mp hfeed
    exact (hwf.sound stored (hwf.feedIndex.find_eq_some.mp hstore).1).role
  have htime : slot.reconnectDue now = true := by
    simp [Slot.reconnectDue, hwaits.kept, hwaits.ready_eq, hready, hdue]
  refine ⟨slot.reconnected m.config now (io i), ?_, ?_, ?_⟩
  · rw [step_feed hwf, hfeed]
    simp [heard, hi, FeedInput.apply, FeedInput.onSlot, Slot.ticked, hwaits.failed, htime]
  · rw [Slot.reconnected, hsocket]
    show Connection.startState slot.connection.role = .kConnecting
    rw [hrole]
    rfl
  · rw [Slot.reconnected, hsocket]
    rfl

/-- Whatever else happens, the feed stays failed until `ready`, and the first
tick from then on connects it on the socket it is given. -/
def ConnectsAt (m : FeedMonitor) (feedId : BitVec 32) (ready : Int) : Prop :=
  ∀ waiting, Runs.Along step StepOk m waiting →
    (∀ w ∈ waiting, w.Spares feedId ∧ w.TicksBefore ready) →
    let later := waiting.foldl step m
    (∃ idle, later.feed feedId = some idle ∧ idle.connection.state = .kFailed) ∧
      ∀ (now : Int) (io : Nat → SlotIo) (i fd : Nat), ready ≤ now →
        later.indexOfFeedId.lookup feedId = some i → (io i).socket = some fd →
        ∃ trying, (later.step (.timerTick now io)).feed feedId = some trying ∧
          trying.connection.state = .kConnecting ∧ trying.connection.fd = fd

end FeedMonitor

end Vigil
