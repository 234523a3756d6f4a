import Vigil.FdIndex

/-!
# Changing the heartbeat interval

`set_heartbeat_interval` writes the configuration every tick reads, but a slot
carries the time of its next PING from before the change, computed under the
interval of the last PING.  `Ticking` adds the reading of the last tick to the
monitor.  As long as no change leaves a PING further ahead than the new
interval (`InReach`), every tick leaves the next PINGs within the interval in
force (`next_ping_within_interval`).
-/

namespace Vigil

namespace FeedMonitor

/-- The monitor and the reading of its last tick, which no step looks at. -/
structure Ticking where
  monitor : FeedMonitor
  lastTick : Int := 0

namespace Ticking

/-- A step, with the reading noted. -/
def step (s : Ticking) : MonitorStep → Ticking
  | .timerTick now io => ⟨s.monitor.onTimerTick now io, now⟩
  | e => ⟨s.monitor.step e, s.lastTick⟩

/-- Ticks do not run backwards, and intervals are positive. -/
def Orderly (s : Ticking) : MonitorStep → Prop
  | .timerTick now _ => s.lastTick ≤ now
  | .command (.setHeartbeatInterval interval) => 0 < interval
  | _ => True

/-- A new interval leaves no PING further from the last tick than itself. -/
def InReach (s : Ticking) : MonitorStep → Prop
  | .command (.setHeartbeatInterval interval) =>
      ∀ slot ∈ s.monitor.slots, slot.nextPingDueNs ≤ s.lastTick + toNs interval
  | _ => True

/-- After a tick, the next PING of an established connection is at most the
interval in force away. -/
def PingsSoon (s : Ticking) (e : MonitorStep) : Prop :=
  match e with
  | .timerTick now _ => ∀ slot ∈ (s.step e).monitor.slots,
      slot.connection.state = .kHealthy ∨ slot.connection.state = .kDegraded →
        slot.nextPingDueNs ≤ now + (s.step e).monitor.config.intervalNs
  | _ => True

/-- Every next PING is within an interval of the last tick. -/
structure Paced (s : Ticking) : Prop where
  sound : s.monitor.Sound
  started : 0 ≤ s.lastTick
  interval : 0 ≤ s.monitor.config.intervalNs
  within : ∀ slot ∈ s.monitor.slots,
    slot.nextPingDueNs ≤ s.lastTick + s.monitor.config.intervalNs

variable {s : Ticking} {e : MonitorStep}

theorem step_monitor (s : Ticking) (e : MonitorStep) :
    (s.step e).monitor = s.monitor.step e := by
  cases e <;> rfl

theorem run_monitor (s : Ticking) (steps : List MonitorStep) :
    (steps.foldl Ticking.step s).monitor = steps.foldl FeedMonitor.step s.monitor := by
  induction steps generalizing s with
  | nil => rfl
  | cons e steps ih => rw [List.foldl_cons, ih, step_monitor, List.foldl_cons]

theorem pingsSoon_iff (s : Ticking) (now : Int) (io : Nat → SlotIo) :
    s.PingsSoon (.timerTick now io) ↔ ∀ slot ∈ (s.monitor.onTimerTick now io).slots,
      slot.connection.state = .kHealthy ∨ slot.connection.state = .kDegraded →
        slot.nextPingDueNs ≤ now + (s.monitor.onTimerTick now io).config.intervalNs :=
  Iff.rfl

/-- Where the time of the next PING comes from, in any step. -/
theorem slotStep_nextPingDueNs {m : FeedMonitor} {i : Nat} {slot slot' : Slot}
    (h : SlotStep m e i slot slot') :
    slot'.nextPingDueNs = slot.nextPingDueNs ∨
      ∃ now io, e = .timerTick now io ∧ slot'.nextPingDueNs = now + m.config.intervalNs := by
  cases h with
  | kept => exact Or.inl rfl
  | disconnected => exact Or.inl (Slot.disconnected_nextPingDueNs _ _ _ _)
  | forcedReconnect => exact Or.inl rfl
  | rebased => exact Or.inl rfl
  | handled => exact Or.inl (Slot.handled_nextPingDueNs _ _ _ _ _)
  | ticked now io =>
      rw [Slot.ticked_nextPingDueNs]
      split
      · exact Or.inr ⟨now, io, rfl, rfl⟩
      · exact Or.inl rfl

/-- What bounds the old slots and the stamp of a tick bounds the new slots. -/
theorem due_le_of_step {m : FeedMonitor} (hsound : m.Sound) {bound : Int} (hbound : 0 ≤ bound)
    (hold : ∀ slot ∈ m.slots, slot.nextPingDueNs ≤ bound)
    (htick : ∀ now io, e = .timerTick now io → now + m.config.intervalNs ≤ bound) :
    ∀ slot ∈ (m.step e).slots, slot.nextPingDueNs ≤ bound := by
  intro slot' hmem
  rcases step_origin hsound e hmem with ⟨i, slot, hx, hstep⟩ | ⟨endpoint, fd, now, _, _, rfl⟩
  · rcases slotStep_nextPingDueNs hstep with heq | ⟨now, io, hnow, heq⟩
    · rw [heq]
      exact hold slot (List.mem_of_getElem? hx)
    · rw [heq]
      exact htick now io hnow
  · exact hbound

/-- The steps that neither tick nor set the interval. -/
theorem Paced.quiet (h : s.Paced) (hlast : (s.step e).lastTick = s.lastTick)
    (hinterval : (configure s.monitor.config e).intervalNs = s.monitor.config.intervalNs)
    (hquiet : ∀ now io, e ≠ .timerTick now io) : (s.step e).Paced := by
  have hsame : (s.step e).monitor.config.intervalNs = s.monitor.config.intervalNs := by
    rw [step_monitor, step_config h.sound, hinterval]
  refine ⟨?_, hlast ▸ h.started, hsame ▸ h.interval, ?_⟩
  · rw [step_monitor]
    exact step_sound h.sound e
  · rw [hlast, hsame, step_monitor]
    exact due_le_of_step h.sound (Int.add_nonneg h.started h.interval) h.within
      fun now io heq => absurd heq (hquiet now io)

theorem Paced.step (h : s.Paced) (horderly : s.Orderly e) (hreach : s.InReach e) :
    (s.step e).Paced := by
  cases e with
  | timerTick now io =>
      have hclock : s.lastTick ≤ now := horderly
      have hstarted := h.started
      have hcfg : (s.step (.timerTick now io)).monitor.config = s.monitor.config :=
        step_config h.sound (.timerTick now io)
      refine ⟨step_sound h.sound (.timerTick now io), ?_, by rw [hcfg]; exact h.interval, ?_⟩
      · show 0 ≤ now
        omega
      · rw [hcfg]
        show ∀ slot ∈ (s.monitor.step (.timerTick now io)).slots,
          slot.nextPingDueNs ≤ now + s.monitor.config.intervalNs
        have hinterval := h.interval
        refine due_le_of_step h.sound (by omega) ?_ ?_
        · intro slot hslot
          have hwithin := h.within slot hslot
          omega
        · rintro _ _ ⟨⟩
          exact Int.le_refl _
  | connectionEvent fd events now io => exact h.quiet rfl rfl nofun
  | command c =>
      cases c with
      | setHeartbeatInterval interval =>
          have hpos : 0 < interval := horderly
          exact ⟨h.sound, h.started, toNs_nonneg (Int.le_of_lt hpos), hreach⟩
      | _ => exact h.quiet rfl rfl nofun

theorem Paced.pingsSoon (h : s.Paced) (horderly : s.Orderly e) : s.PingsSoon e := by
  cases e with
  | timerTick now io =>
      intro slot hslot _
      exact (h.step horderly trivial).within slot hslot
  | _ => trivial

end Ticking

/-- A change that leaves the PING of an established connection further ahead
shows in a tick at the same reading, unless that tick fails the connection. -/
theorem late_ping_shows {s : Ticking} (hsound : s.monitor.Sound) {interval : Int} {i : Nat}
    {slot : Slot} (hx : s.monitor.slots[i]? = some slot)
    (hlate : s.lastTick + toNs interval < slot.nextPingDueNs) (hpos : 0 ≤ interval)
    (io : Nat → SlotIo) :
    ∃ slot', ((s.step (.command (.setHeartbeatInterval interval))).step
        (.timerTick s.lastTick io)).monitor.slots[i]? = some slot' ∧
      s.lastTick + toNs interval < slot'.nextPingDueNs := by
  have hset : (s.monitor.setHeartbeatInterval interval).Sound := hsound
  refine ⟨slot.ticked { s.monitor.config with heartbeatInterval := interval } s.lastTick (io i),
    ?_, ?_⟩
  · show ((s.monitor.setHeartbeatInterval interval).onTimerTick s.lastTick io).slots[i]? = _
    rw [onTimerTick_getElem? hset]
    show s.monitor.slots[i]?.map _ = _
    rw [hx]
    rfl
  · have hnonneg := toNs_nonneg hpos
    rw [Slot.ticked_nextPingDueNs, if_neg (by omega)]
    exact hlate

/-- **A changed interval takes effect at once** if no change leaves a PING
further ahead than the new interval: then every tick leaves the next PINGs
within the interval in force. -/
theorem next_ping_within_interval (config : Config) (timerFd wakeFd : Int)
    (steps : List MonitorStep) (hinterval : 0 < config.heartbeatInterval)
    (horderly : Runs.Along Ticking.step Ticking.Orderly ⟨create config timerFd wakeFd, 0⟩ steps)
    (hreach : Runs.Along Ticking.step Ticking.InReach ⟨create config timerFd wakeFd, 0⟩ steps) :
    Runs.Along Ticking.step Ticking.PingsSoon ⟨create config timerFd wakeFd, 0⟩ steps := by
  have hstart : Ticking.Paced ⟨create config timerFd wakeFd, 0⟩ :=
    ⟨sound_create config timerFd wakeFd, Int.le_refl 0,
      toNs_nonneg (Int.le_of_lt hinterval),
      fun _ h => absurd h List.not_mem_nil⟩
  refine Runs.along_of_invariant ?_ ?_ hstart (Runs.along_and horderly hreach)
  · exact fun s e h hok => h.step hok.1 hok.2
  · exact fun s e h hok => h.pingsSoon hok.1

/-- The feed connects, and 10 ns on the clock its first PING is sent. -/
def firstPing : List MonitorStep :=
  feedConnects ++ [tickPing (.sent 28)]

/-- The next tick, 50 ms later. -/
def nextTick : MonitorStep :=
  .timerTick 50000000 fun _ => {}

theorem intervalSet_orderly {interval : Int} (h : 0 < interval) :
    Runs.Along Ticking.step Ticking.Orderly ⟨create {} 3 4, 0⟩
      (firstPing ++ [.command (.setHeartbeatInterval interval), nextTick]) := by
  have hping : (0 : Int) ≤ 10 := by decide
  have htick : (10 : Int) ≤ 50000000 := by decide
  exact ⟨trivial, trivial, trivial, hping, h, htick, trivial⟩

/-- The interval grows from one second to two. -/
theorem next_ping_within_interval_grown :
    Runs.Along Ticking.step Ticking.PingsSoon ⟨create {} 3 4, 0⟩
      (firstPing ++ [.command (.setHeartbeatInterval 2000), nextTick]) := by
  apply next_ping_within_interval {} 3 4
  · decide
  · exact intervalSet_orderly (by decide)
  · refine Runs.along_append.mpr ⟨⟨trivial, trivial, trivial, trivial, trivial⟩, ?_, trivial, trivial⟩
    have hreach : ∀ slot ∈ (firstPing.foldl step (create {} 3 4)).slots,
        slot.nextPingDueNs ≤ 10 + toNs 2000 := by decide +kernel
    intro slot hslot
    rw [Ticking.run_monitor] at hslot
    exact hreach slot hslot

/-- The interval shrinks from one second to 10 ms, and the next PING stays due
a second after the first. -/
theorem shrunk_interval_waits :
    ¬ ∀ (config : Config) (timerFd wakeFd : Int) (steps : List MonitorStep),
      0 < config.heartbeatInterval →
        Runs.Along Ticking.step Ticking.Orderly ⟨create config timerFd wakeFd, 0⟩ steps →
          Runs.Along Ticking.step Ticking.PingsSoon ⟨create config timerFd wakeFd, 0⟩ steps := by
  intro hall
  have hrun := hall {} 3 4 (firstPing ++ [.command (.setHeartbeatInterval 10), nextTick])
    (by decide) (intervalSet_orderly (by decide))
  have hsoon := (Runs.along_append.mp hrun).2.2.1
  rw [nextTick, Ticking.pingsSoon_iff, Ticking.step_monitor, Ticking.run_monitor] at hsoon
  revert hsoon
  decide +kernel

end FeedMonitor

end Vigil
