import Vigil.IntervalChanges
import Vigil.Network
import Vigil.Retries
import Vigil.Spacing
import Vigil.StatsHistory

/-!
# How often a feed is pinged

A tick pings an established connection whose next PING is due, and notes when
the one after it is: an interval later, by the interval then in force.  Nothing
else moves that time, neither a lost connection nor a new one.

`PingLog` is the monitor with the PINGs sent to every connection object.  They
are what `heartbeats_sent` counts, and they keep their distance
(`pings_paced`).
-/

namespace Vigil

open Spacing

/-- Is this the call that sends a PING? -/
def Call.isPing {σ : Type} (call : Call σ) : Bool :=
  match call.op with
  | .sendPing _ => true
  | _ => false

namespace Connection

variable {σ : Type}

theorem handleMessage_heartbeatsSent (cfg : Config) (c : Connection σ) (msg : HeartbeatMessage)
    (now : Int) : (c.handleMessage cfg msg now).stats.heartbeatsSent = c.stats.heartbeatsSent := by
  have hresult := handleMessage_result cfg c msg now
  generalize c.handleMessage cfg msg now = result at hresult ⊢
  cases hresult with
  | hello =>
      have hqueued := queueMessage_stats c (c.message .kConnectAck 0 (BitVec.ofInt 64 now))
      show (c.queueMessage _).stats.heartbeatsSent = _
      rw [hqueued]
  | pingAnswered captured =>
      exact congrArg ConnectionStats.heartbeatsSent (queueMessage_stats (c.heard now captured) _)
  | _ => rfl

/-- Only a PING is counted as sent, and only on an established connection. -/
theorem call_heartbeatsSent (c : Connection σ) (call : Call σ) :
    (c.call call).stats.heartbeatsSent = c.stats.heartbeatsSent +
      if call.isPing = true ∧ c.role = .kInitiator ∧ c.state.Established then 1 else 0 := by
  obtain ⟨cfg, env, op⟩ := call
  cases op with
  | sendPing now =>
      show ((c.withEnv env).sendPing now).stats.heartbeatsSent = _
      by_cases hg : c.role = .kInitiator ∧ c.state.Established
      · rw [if_pos ⟨rfl, hg⟩, sendPing_eq (c.withEnv env) now hg.1 hg.2]
        have hqueued := queueMessage_stats (c.withEnv env).bumpSequence
          ((c.withEnv env).pingMessage now)
        show (Connection.queueMessage _ _).stats.heartbeatsSent + 1 = _
        rw [hqueued]
        rfl
      · rw [if_neg (fun h => hg h.2), sendPing_idle (c.withEnv env) now hg]
        rfl
  | onReadable recvs now =>
      show ((c.withEnv env).onReadable cfg recvs now).stats.heartbeatsSent =
        c.stats.heartbeatsSent
      have hstart : (c.withEnv env).stats.heartbeatsSent = c.stats.heartbeatsSent := rfl
      refine onReadable_keeps (I := fun d => d.stats.heartbeatsSent = c.stats.heartbeatsSent)
        ?_ ?_ ?_ hstart recvs
      · exact fun d msg hd => (handleMessage_heartbeatsSent cfg (d.noteHandled msg) msg now).trans hd
      · exact fun d r hd => hd
      · exact fun d buf hd => hd
  | onWritable soError now =>
      exact congrArg ConnectionStats.heartbeatsSent (onWritable_stats (c.withEnv env) soError now)
  | sendPong sequence timestampNs =>
      exact congrArg ConnectionStats.heartbeatsSent
        (sendPong_stats (c.withEnv env) sequence timestampNs)
  | checkTimeout now =>
      have hresult := checkTimeout_result cfg (c.withEnv env) now
      show ((c.withEnv env).checkTimeout cfg now).2.stats.heartbeatsSent = _
      generalize (c.withEnv env).checkTimeout cfg now = result at hresult ⊢
      cases hresult <;> rfl
  | onHangupOrError errno now => rfl
  | resetLivenessBaseline now => rfl
  | rebind newFd now => rfl

/-- Calls among which there is no PING. -/
theorem calls_heartbeatsSent (c : Connection σ) {calls : List (Call σ)}
    (h : ∀ call ∈ calls, call.isPing = false) :
    (calls.foldl call c).stats.heartbeatsSent = c.stats.heartbeatsSent := by
  induction calls generalizing c with
  | nil => rfl
  | cons call calls ih =>
      obtain ⟨hfirst, hrest⟩ := List.forall_mem_cons.mp h
      rw [List.foldl_cons, ih _ hrest, call_heartbeatsSent, if_neg (by simp [hfirst]), Nat.add_zero]

end Connection

namespace Slot

/-- The next tick at `now` sends a PING. -/
def PingDue (slot : Slot) (now : Int) : Prop :=
  slot.connection.state.Established ∧ slot.nextPingDueNs ≤ now

instance (slot : Slot) (now : Int) : Decidable (slot.PingDue now) :=
  inferInstanceAs (Decidable (_ ∧ _))

theorem handled_heartbeatsSent (slot : Slot) (cfg : Config) (events : EpollEvents) (now : Int)
    (io : SlotIo) : (slot.handled cfg events now io).connection.stats.heartbeatsSent =
      slot.connection.stats.heartbeatsSent := by
  rw [handled_connection]
  apply Connection.calls_heartbeatsSent
  intro call hcall
  unfold eventCalls at hcall
  split at hcall
  · rw [List.mem_singleton.mp hcall]
    rfl
  · rcases List.mem_append.mp hcall with hwrite | hread
    · split at hwrite
      · rw [List.mem_singleton.mp hwrite]
        rfl
      · exact absurd hwrite List.not_mem_nil
    · split at hread
      · rw [List.mem_singleton.mp hread]
        rfl
      · exact absurd hread List.not_mem_nil

theorem ticked_heartbeatsSent {slot : Slot} (hrole : slot.connection.role = .kInitiator)
    (cfg : Config) (now : Int) (io : SlotIo) :
    (slot.ticked cfg now io).connection.stats.heartbeatsSent =
      slot.connection.stats.heartbeatsSent + if slot.PingDue now then 1 else 0 := by
  rw [ticked_connection]
  have hsession : slot.connection.state.Established →
      (((if now ≥ slot.nextPingDueNs then [(⟨cfg, io.env, .sendPing now⟩ : Call Unit)] else []) ++
        [(⟨cfg, io.env, .checkTimeout now⟩ : Call Unit)]).foldl Connection.call
          slot.connection).stats.heartbeatsSent =
        slot.connection.stats.heartbeatsSent + if slot.PingDue now then 1 else 0 := by
    intro hestablished
    have hcheck : ∀ call ∈ [(⟨cfg, io.env, .checkTimeout now⟩ : Call Unit)],
        call.isPing = false := by simp [Call.isPing]
    rw [List.foldl_append, Connection.calls_heartbeatsSent _ hcheck]
    by_cases hdue : slot.nextPingDueNs ≤ now
    · have hping : slot.PingDue now := ⟨hestablished, hdue⟩
      rw [if_pos hdue, if_pos hping, List.foldl_cons, List.foldl_nil,
        Connection.call_heartbeatsSent, if_pos ⟨rfl, hrole, hestablished⟩]
    · rw [if_neg hdue, if_neg fun h => hdue h.2]
      rfl
  have hquiet : ¬ slot.connection.state.Established → ∀ calls : List (Call Unit),
      (∀ call ∈ calls, call.isPing = false) →
      (calls.foldl Connection.call slot.connection).stats.heartbeatsSent =
        slot.connection.stats.heartbeatsSent + if slot.PingDue now then 1 else 0 := by
    intro hnot calls hcalls
    rw [Connection.calls_heartbeatsSent _ hcalls, if_neg fun h => hnot h.1]
    rfl
  unfold tickCalls
  cases hstate : slot.connection.state with
  | kHealthy => exact hsession (Or.inl hstate)
  | kDegraded => exact hsession (Or.inr hstate)
  | kConnecting => exact hquiet (by rw [hstate]; decide) _ (by simp [Call.isPing])
  | kHandshaking => exact hquiet (by rw [hstate]; decide) _ (by simp [Call.isPing])
  | kFailed =>
      refine hquiet (by rw [hstate]; decide) _ ?_
      dsimp only
      split
      · simp [Call.isPing]
      · exact fun _ hcall => absurd hcall List.not_mem_nil
  | kDisconnected =>
      exact hquiet (by rw [hstate]; decide) _ fun _ hcall => absurd hcall List.not_mem_nil
  | kReconnecting =>
      exact hquiet (by rw [hstate]; decide) _ fun _ hcall => absurd hcall List.not_mem_nil

end Slot

namespace FeedMonitor

variable {m : FeedMonitor} {s : MonitorStep} {i : Nat} {slot slot' : Slot}

/-- The PING that the step sends on the slot's connection, if it sends one. -/
def pinged (m : FeedMonitor) (slot : Slot) : MonitorStep → List Beat
  | .timerTick now _ => if slot.PingDue now then [⟨now, m.config.intervalNs⟩] else []
  | _ => []

/-- What a step does to the count and to the time of the next PING. -/
theorem slotStep_pinged (hslot : slot.Sound) (hstep : SlotStep m s i slot slot') :
    slot'.connection.stats.heartbeatsSent =
        slot.connection.stats.heartbeatsSent + (m.pinged slot s).length ∧
      ((m.pinged slot s = [] ∧ slot'.nextPingDueNs = slot.nextPingDueNs) ∨
        ∃ now, slot.nextPingDueNs ≤ now ∧ m.pinged slot s = [⟨now, m.config.intervalNs⟩] ∧
          slot'.nextPingDueNs = now + m.config.intervalNs) := by
  cases hstep with
  | kept s i slot hs =>
      have hnone : m.pinged slot s = [] := by
        cases s with
        | timerTick now io => exact absurd rfl (hs now io)
        | command c => rfl
        | connectionEvent fd events now io => rfl
      rw [hnone]
      exact ⟨rfl, Or.inl ⟨rfl, rfl⟩⟩
  | disconnected feedId now io =>
      refine ⟨?_, Or.inl ⟨rfl, Slot.disconnected_nextPingDueNs slot m.config now io⟩⟩
      rw [Slot.disconnected, Slot.fail_connection]
      rfl
  | forcedReconnect => exact ⟨rfl, Or.inl ⟨rfl, rfl⟩⟩
  | rebased => exact ⟨rfl, Or.inl ⟨rfl, rfl⟩⟩
  | handled fd events now io =>
      exact ⟨Slot.handled_heartbeatsSent slot m.config events now io,
        Or.inl ⟨rfl, Slot.handled_nextPingDueNs slot m.config events now io⟩⟩
  | ticked now io =>
      have hcount := Slot.ticked_heartbeatsSent hslot.role m.config now (io i)
      have hnext := Slot.ticked_nextPingDueNs slot m.config now (io i)
      by_cases hdue : slot.PingDue now
      · have hone : m.pinged slot (.timerTick now io) = [⟨now, m.config.intervalNs⟩] :=
          if_pos hdue
        rw [if_pos hdue] at hcount
        rw [hone]
        exact ⟨hcount, Or.inr ⟨now, hdue.2, rfl, hnext.trans (if_pos hdue)⟩⟩
      · have hnone : m.pinged slot (.timerTick now io) = [] := if_neg hdue
        rw [if_neg hdue] at hcount
        rw [hnone]
        exact ⟨hcount, Or.inl ⟨rfl, hnext.trans (if_neg hdue)⟩⟩

/-! ## The log -/

/-- The monitor, and for every connection object the PINGs sent on it. -/
structure PingLog where
  monitor : FeedMonitor
  sent : Nat → List Beat := fun _ => []

namespace PingLog

variable {l : PingLog}

/-- A step, with the PINGs noted. -/
def step (l : PingLog) (s : MonitorStep) : PingLog where
  monitor := l.monitor.step s
  sent object := l.sent object ++ (l.monitor.slotOf object).elim [] fun slot => l.monitor.pinged slot s

theorem run_monitor (l : PingLog) (steps : List MonitorStep) :
    (steps.foldl step l).monitor = steps.foldl FeedMonitor.step l.monitor := by
  induction steps generalizing l with
  | nil => rfl
  | cons s steps ih => exact ih (l.step s)

/-- The interval is never less than `interval`. -/
def Wide (interval : Int) : MonitorStep → Prop
  | .command (.setHeartbeatInterval ms) => interval ≤ ms
  | _ => True

/-- What a run keeps. -/
structure Paced (interval : Int) (l : PingLog) : Prop where
  listed : l.monitor.Listed
  wide : interval ≤ l.monitor.config.heartbeatInterval
  fresh : ∀ object, l.monitor.nextObject ≤ object → l.sent object = []
  counted : ∀ slot ∈ l.monitor.slots,
    slot.connection.stats.heartbeatsSent = (l.sent slot.history.object).length
  due : ∀ slot ∈ l.monitor.slots, ∀ b ∈ l.sent slot.history.object,
    b.time + b.gap ≤ slot.nextPingDueNs
  spaced : ∀ object, Spaced (l.sent object)
  gaps : ∀ object, ∀ b ∈ l.sent object, toNs interval ≤ b.gap

/-- Objects are numbered upwards. -/
theorem step_nextObject (h : m.Listed) (s : MonitorStep) : m.nextObject ≤ (m.step s).nextObject := by
  rcases step_shape h.sound s with
    hp | ⟨endpoint, fd, now, _, hnew, heq⟩ | ⟨feedId, i, slot, _, hx, heq⟩
  · rw [hp.next]
  · rw [heq]
    exact Nat.le_succ _
  · rw [heq, removeSlotAt_eq h.sound hx]

theorem step_sent (h : l.monitor.Listed) {slot : Slot} (hmem : slot ∈ l.monitor.slots)
    (s : MonitorStep) : (l.step s).sent slot.history.object =
      l.sent slot.history.object ++ l.monitor.pinged slot s := by
  show l.sent _ ++ (l.monitor.slotOf _).elim _ _ = _
  rw [h.slotOf_eq hmem]
  rfl

/-- On an object that no slot holds, nothing is sent. -/
theorem step_sent_nobody {object : Nat} (hnone : l.monitor.slotOf object = none)
    (s : MonitorStep) : (l.step s).sent object = l.sent object := by
  show l.sent _ ++ (l.monitor.slotOf _).elim _ _ = _
  rw [hnone]
  exact List.append_nil _

theorem step_sent_new (h : l.monitor.Listed) {object : Nat} (hle : l.monitor.nextObject ≤ object)
    (s : MonitorStep) : (l.step s).sent object = l.sent object := by
  refine step_sent_nobody (List.find?_eq_none.mpr fun slot hmem => ?_) s
  have hlt := h.objects_lt slot hmem
  simp only [decide_eq_true_eq]
  omega

/-- A slot after the step was there before, or is new and has sent nothing. -/
theorem Paced.origin {interval : Int} (h : l.Paced interval) (s : MonitorStep) {slot' : Slot}
    (hmem : slot' ∈ (l.step s).monitor.slots) :
    (∃ slot ∈ l.monitor.slots, slot.Sound ∧ slot'.history.object = slot.history.object ∧
        ∃ i, SlotStep l.monitor s i slot slot') ∨
      (l.step s).sent slot'.history.object = [] ∧ slot'.connection.stats.heartbeatsSent = 0 := by
  rcases step_origin h.listed.sound s hmem with
    ⟨i, slot, hx, hstep⟩ | ⟨endpoint, fd, now, _, _, rfl⟩
  · exact Or.inl ⟨slot, List.mem_of_getElem? hx, h.listed.sound.at hx,
      congrArg Prod.fst (slotStep_sameness hstep), i, hstep⟩
  · have hnew : l.monitor.nextObject ≤ l.monitor.nextObject := Nat.le_refl _
    exact Or.inr ⟨(step_sent_new h.listed hnew s).trans (h.fresh _ hnew), rfl⟩

/-- What is sent on an object is what is sent on the slot that holds it. -/
theorem mem_step_sent {object : Nat} {s : MonitorStep} {b : Beat}
    (hb : b ∈ (l.step s).sent object) : b ∈ l.sent object ∨
      b.gap = l.monitor.config.intervalNs := by
  rcases List.mem_append.mp hb with hearlier | hnew
  · exact Or.inl hearlier
  · cases hslot : l.monitor.slotOf object with
    | none =>
        rw [hslot] at hnew
        exact absurd hnew List.not_mem_nil
    | some slot =>
        rw [hslot, Option.elim_some] at hnew
        unfold pinged at hnew
        split at hnew
        · split at hnew
          · rw [List.mem_singleton.mp hnew]
            exact Or.inr rfl
          · exact absurd hnew List.not_mem_nil
        · exact absurd hnew List.not_mem_nil

theorem Paced.step_spaced {interval : Int} (h : l.Paced interval) (s : MonitorStep)
    (object : Nat) : Spaced ((l.step s).sent object) := by
  cases hslot : l.monitor.slotOf object with
  | none =>
      rw [step_sent_nobody hslot]
      exact h.spaced object
  | some slot =>
      have hold : slot ∈ l.monitor.slots := List.mem_of_find?_eq_some hslot
      have hobject : slot.history.object = object := by simpa using List.find?_some hslot
      subst hobject
      rw [step_sent h.listed hold]
      unfold pinged
      split
      · split
        · next now _ hdue =>
            refine spaced_concat (h.spaced _) fun b hb => ?_
            exact (h.due slot hold b hb).trans hdue.2
        · rw [List.append_nil]
          exact h.spaced _
      · rw [List.append_nil]
        exact h.spaced _

/-- **One step.** -/
theorem step_paced {interval : Int} (hpos : 0 ≤ interval) (l : PingLog) (s : MonitorStep)
    (h : l.Paced interval) (hwide : Wide interval s) : (l.step s).Paced interval := by
  have hgap : toNs interval ≤ l.monitor.config.intervalNs := by
    have hwide' := h.wide
    unfold Config.intervalNs toNs
    omega
  have hnonneg : 0 ≤ toNs interval := toNs_nonneg hpos
  refine ⟨step_listed h.listed s, ?_, ?_, ?_, ?_, h.step_spaced s, ?_⟩
  · show interval ≤ (l.monitor.step s).config.heartbeatInterval
    rw [step_config h.listed.sound]
    unfold configure
    split
    · exact hwide
    · exact h.wide
    · exact h.wide
  · intro object hle
    have hbefore := (step_nextObject h.listed s).trans hle
    rw [step_sent_new h.listed hbefore]
    exact h.fresh object hbefore
  · intro slot' hmem
    rcases h.origin s hmem with ⟨slot, hold, hslot, hobject, i, hstep⟩ | ⟨hnone, hzero⟩
    · rw [hobject, step_sent h.listed hold, List.length_append, ← h.counted slot hold]
      exact (slotStep_pinged hslot hstep).1
    · rw [hnone, hzero]
      rfl
  · intro slot' hmem b hb
    rcases h.origin s hmem with ⟨slot, hold, hslot, hobject, i, hstep⟩ | ⟨hnone, _⟩
    · rw [hobject, step_sent h.listed hold] at hb
      have hbefore := h.due slot hold
      rcases (slotStep_pinged hslot hstep).2 with ⟨hnone, hsame⟩ | ⟨now, hdue, hone, hnext⟩
      · rw [hnone, List.append_nil] at hb
        rw [hsame]
        exact hbefore b hb
      · rw [hone] at hb
        rw [hnext]
        rcases List.mem_append.mp hb with hearlier | hnew
        · have hearlier' := hbefore b hearlier
          omega
        · rw [List.mem_singleton.mp hnew]
    · rw [hnone] at hb
      exact absurd hb List.not_mem_nil
  · intro object b hb
    rcases mem_step_sent hb with hearlier | hnew
    · exact h.gaps object b hearlier
    · rw [hnew]
      exact hgap

end PingLog

/-- The PINGs sent on a connection object in a run from construction on. -/
def pingsSent (config : Config) (timerFd wakeFd : Int) (steps : List MonitorStep) :
    Nat → List Beat :=
  (steps.foldl PingLog.step { monitor := create config timerFd wakeFd }).sent

/-- The feed connects and is pinged; a tick half a second later finds nothing to
do, the interval is halved, and a second after the first comes another PING. -/
def twoPings : List MonitorStep :=
  firstPing ++ [.timerTick 500000000 fun _ => {}, .command (.setHeartbeatInterval 500),
    .timerTick 1000000010 fun _ => { sends := [.sent 28] }]

end FeedMonitor

end Vigil
