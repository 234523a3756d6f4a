import Vigil.FdIndex

/-!
# No failure goes unanswered

When a slot's connection enters `kFailed`, the reactor should emit one alert
and schedule one reconnect for it in the same step; a failed slot then always
waits for its backoff or has given up.  `failures` counts the entries into
`kFailed` from the connection's own reports, and `Answered` compares it with
the slot's alerts and schedules.

The one step that misses a failure is a tick whose `send_ping` fails the
connection (`failed_ping_unanswered`).  `failures_answered` is about the runs
without such a PING.
-/

namespace Vigil

/-! ## Counting failures -/

/-- The report of entering `kFailed`. -/
def Report.isFailure : Report → Bool
  | .transition before after => before ≠ .kFailed ∧ after = .kFailed
  | _ => false

/-- How often a list of reports enters `kFailed`. -/
def countFailures (reports : List Report) : Nat :=
  (reports.filter Report.isFailure).length

@[simp] theorem countFailures_nil : countFailures [] = 0 := rfl

theorem countFailures_cons (r : Report) (rest : List Report) :
    countFailures (r :: rest) = countFailures rest + if r.isFailure then 1 else 0 := by
  unfold countFailures
  rw [List.filter_cons]
  split <;> rfl

theorem countFailures_append (first second : List Report) :
    countFailures (first ++ second) = countFailures first + countFailures second := by
  simp [countFailures]

/-- 1 if the move from `s` to `t` is a failure, else 0. -/
def failsFrom (s t : ConnectionState) : Nat :=
  if s ≠ .kFailed ∧ t = .kFailed then 1 else 0

theorem Edge.from_failed {role : Role} {t : ConnectionState} (h : Edge role .kFailed t) :
    t = .kFailed := by
  cases h <;> rfl

theorem Follows.from_failed {role : Role} {reports : List Report} {t : ConnectionState}
    (h : Follows (Edge role) .kFailed reports t) : t = .kFailed := by
  induction reports with
  | nil => exact Eq.symm h
  | cons r rest ih =>
      cases r with
      | transition before after =>
          obtain ⟨rfl, hedge, hrest⟩ := h
          rw [hedge.from_failed] at hrest
          exact ih hrest
      | socketError errno => exact ih h
      | peerClosed => exact ih h
      | protocolViolation reason => exact ih h

/-- Along the machine `kFailed` is entered at most once, and never left. -/
theorem Follows.countFailures {role : Role} {s t : ConnectionState} {reports : List Report}
    (h : Follows (Edge role) s reports t) : countFailures reports = failsFrom s t := by
  induction reports generalizing s with
  | nil =>
      have hst : s = t := h
      simp [failsFrom, hst]
  | cons r rest ih =>
      rw [countFailures_cons]
      cases r with
      | transition before after =>
          obtain ⟨rfl, hedge, hrest⟩ := h
          rw [ih hrest]
          by_cases hb : before = .kFailed
          · subst hb
            rw [hedge.from_failed]
            simp [failsFrom, Report.isFailure]
          · by_cases ha : after = .kFailed
            · subst ha
              simp [failsFrom, Report.isFailure, hb, hrest.from_failed]
            · simp [failsFrom, Report.isFailure, hb, ha]
      | socketError errno => simpa [Report.isFailure] using ih h
      | peerClosed => simpa [Report.isFailure] using ih h
      | protocolViolation reason => simpa [Report.isFailure] using ih h

namespace Connection

variable {σ : Type}

/-- How often the connection has entered `kFailed`. -/
def failures (c : Connection σ) : Nat :=
  countFailures c.trace.reports

theorem Walk.failures {role : Role} {c c' : Connection σ} (h : Walk (Edge role) c c') :
    c'.failures = c.failures + failsFrom c.state c'.state := by
  obtain ⟨new, hnew, hfollows⟩ := h
  rw [Connection.failures, hnew, countFailures_append, hfollows.countFailures]
  rfl

theorem rebind_failures (c : Connection σ) (fd now : Int) :
    (c.rebind fd now).failures = c.failures := by
  show countFailures (c.trace.reports ++ [.transition c.state (startState c.role)]) = _
  have hnone : countFailures [.transition c.state (startState c.role)] = 0 := by
    rw [countFailures_cons]
    cases c.role <;> simp [Report.isFailure, startState]
  rw [countFailures_append, hnone]
  rfl

end Connection

/-! ## The backoff is not negative -/

theorem doubleDelay_nonneg (maxDelay : Int) (turns : Nat) (delay : Int) (h : 0 ≤ delay) :
    0 ≤ doubleDelay maxDelay turns delay := by
  induction turns generalizing delay with
  | zero => exact h
  | succ turns ih =>
      unfold doubleDelay
      split
      · exact ih (delay * 2) (by omega)
      · exact h

/-- The delays as the configuration parser lets them through. -/
def Config.DelaysNonneg (cfg : Config) : Prop :=
  0 ≤ cfg.reconnectBaseDelay ∧ 0 ≤ cfg.reconnectMaxDelay

theorem reconnectDelayNs_nonneg {cfg : Config} (h : cfg.DelaysNonneg) (attempt : Int)
    (factor : JitterFactor) : 0 ≤ reconnectDelayNs cfg attempt factor := by
  unfold reconnectDelayNs
  dsimp only
  have hdelay : 0 ≤ min (doubleDelay (toNs cfg.reconnectMaxDelay) (min attempt 30).toNat
      (toNs cfg.reconnectBaseDelay)) (toNs cfg.reconnectMaxDelay) := by
    refine le_min (doubleDelay_nonneg _ _ _ ?_) ?_
    · exact toNs_nonneg h.1
    · exact toNs_nonneg h.2
  generalize min (doubleDelay (toNs cfg.reconnectMaxDelay) (min attempt 30).toNat
      (toNs cfg.reconnectBaseDelay)) (toNs cfg.reconnectMaxDelay) = delay at hdelay ⊢
  have hfactor : (0 : ℚ) ≤ factor.val := le_trans (by norm_num) factor.property.1
  have hq : (0 : ℚ) ≤ (delay : ℚ) * factor.val := mul_nonneg (Int.cast_nonneg hdelay) hfactor
  exact Int.tdiv_nonneg (Rat.num_nonneg.mpr hq) (Int.natCast_nonneg _)

/-! ## One slot -/

namespace Slot

/-- The failures of the step were each answered by one alert and one schedule. -/
def Answered (slot slot' : Slot) : Prop :=
  (slot'.connection.failures = slot.connection.failures ∧
      slot'.history.alerts = slot.history.alerts) ∨
    (slot'.connection.failures = slot.connection.failures + 1 ∧
      slot'.history.alerts = slot.history.alerts + 1 ∧
      slot'.history.schedules = slot.history.schedules + 1)

/-- A failed slot has given up or has a reconnect scheduled. -/
def NotStuck (slot : Slot) : Prop :=
  slot.connection.state = .kFailed → slot.giveUp = true ∨ 0 ≤ slot.reconnectReadyAtNs

theorem Sound.invoke_failures {slot : Slot} (h : slot.Sound) (cfg : Config) (env : Env Unit)
    (op : ConnOp) (hop : Call.isRebind (σ := Unit) ⟨cfg, env, op⟩ = false) :
    (slot.invoke cfg env op).connection.failures = slot.connection.failures +
      failsFrom slot.connection.state (slot.invoke cfg env op).connection.state :=
  (h.walk ⟨cfg, env, op⟩ hop).failures

/-- Answering a failure. -/
theorem answered_fail {slot slot' : Slot} (cfg : Config) (io : SlotIo)
    (hf : slot'.connection.failures = slot.connection.failures + 1)
    (halerts : slot'.history.alerts = slot.history.alerts)
    (hschedules : slot'.history.schedules = slot.history.schedules) :
    Answered slot (slot'.fail cfg io) := by
  refine Or.inr ⟨?_, ?_, ?_⟩
  · rw [fail_connection, hf]
  · rw [fail_history, ← halerts]
  · rw [fail_history, ← hschedules]

/-- A slot whose retries are not exhausted waits until its backoff is over. -/
theorem scheduleReconnect_notStuck (slot : Slot) {cfg : Config} (hcfg : cfg.DelaysNonneg)
    {now : Int} (hnow : 0 ≤ now) (jitter : JitterFactor) :
    (slot.scheduleReconnect cfg now jitter).NotStuck := by
  intro _
  have hdelay := reconnectDelayNs_nonneg hcfg slot.reconnectAttempts jitter
  unfold scheduleReconnect
  dsimp only
  split
  · exact Or.inl rfl
  · right
    show 0 ≤ now + reconnectDelayNs cfg slot.reconnectAttempts jitter
    omega

theorem fail_notStuck (slot : Slot) {cfg : Config} (hcfg : cfg.DelaysNonneg) {io : SlotIo}
    (hio : 0 ≤ io.failedAt) : (slot.fail cfg io).NotStuck :=
  scheduleReconnect_notStuck slot.emitFailureAlert hcfg hio io.jitter

/-- Invoking methods touches neither counter. -/
theorem onEvent_counters (slot : Slot) (cfg : Config) (events : EpollEvents) (now : Int)
    (io : SlotIo) : (slot.onEvent cfg events now io).history.alerts = slot.history.alerts ∧
      (slot.onEvent cfg events now io).history.schedules = slot.history.schedules := by
  have hw : (slot.writeIfWritable cfg events now io).history.alerts = slot.history.alerts ∧
      (slot.writeIfWritable cfg events now io).history.schedules = slot.history.schedules := by
    unfold writeIfWritable
    split <;> exact ⟨rfl, rfl⟩
  unfold onEvent
  split
  · exact ⟨rfl, rfl⟩
  · dsimp only
    generalize slot.writeIfWritable cfg events now io = written at hw ⊢
    split <;> exact hw

theorem Sound.onEvent_failures {slot : Slot} (h : slot.Sound) (cfg : Config)
    (events : EpollEvents) (now : Int) (io : SlotIo) (hlive : slot.connection.state ≠ .kFailed) :
    (slot.onEvent cfg events now io).connection.failures = slot.connection.failures +
      failsFrom slot.connection.state (slot.onEvent cfg events now io).connection.state := by
  have hsound := h.writeIfWritable cfg events now io
  have hcount : (slot.writeIfWritable cfg events now io).connection.failures =
      slot.connection.failures + failsFrom slot.connection.state
        (slot.writeIfWritable cfg events now io).connection.state := by
    unfold Slot.writeIfWritable
    split
    · exact h.invoke_failures cfg io.env (.onWritable io.soError now) rfl
    · simp [failsFrom]
  unfold Slot.onEvent
  split
  · exact h.invoke_failures cfg io.env _ rfl
  · dsimp only
    generalize slot.writeIfWritable cfg events now io = written at hsound hcount ⊢
    split
    · next hread =>
        -- `on_writable` left it alive, so the failure, if any, is the reader's
        rw [hsound.invoke_failures cfg _ (.onReadable io.recvs now) rfl, hcount]
        simp [failsFrom, hlive, hread.1]
    · exact hcount

theorem Sound.handled_answered {slot : Slot} (h : slot.Sound) (cfg : Config)
    (events : EpollEvents) (now : Int) (io : SlotIo) (hlive : slot.connection.state ≠ .kFailed) :
    Answered slot (slot.handled cfg events now io) := by
  have hcount := h.onEvent_failures cfg events now io hlive
  obtain ⟨halerts, hschedules⟩ := onEvent_counters slot cfg events now io
  unfold Slot.handled
  split
  · next hf =>
      refine answered_fail cfg io ?_ halerts hschedules
      rw [hcount, failsFrom, if_pos ⟨hlive, hf⟩]
  · next hf =>
      refine Or.inl ⟨?_, halerts⟩
      rw [hcount, failsFrom, if_neg (by simp [hf]), Nat.add_zero]

theorem handled_notStuck (slot : Slot) {cfg : Config} (hcfg : cfg.DelaysNonneg)
    (events : EpollEvents) (now : Int) {io : SlotIo} (hio : 0 ≤ io.failedAt) :
    (slot.handled cfg events now io).NotStuck := by
  unfold Slot.handled
  split
  · exact fail_notStuck _ hcfg hio
  · next hlive => exact fun hf => absurd hf hlive

theorem Sound.disconnected_answered {slot : Slot} (h : slot.Sound) (cfg : Config) (now : Int)
    (io : SlotIo) (hlive : slot.connection.state ≠ .kFailed) :
    Answered slot (slot.disconnected cfg now io) := by
  refine answered_fail cfg io ?_ rfl rfl
  rw [h.invoke_failures cfg io.env (.onHangupOrError kEConnAborted now) rfl, failsFrom,
    if_pos ⟨hlive, rfl⟩]

theorem Sound.checked_answered {slot : Slot} (h : slot.Sound) (cfg : Config) (now : Int)
    (io : SlotIo) : Answered slot (slot.checked cfg now io) := by
  have hverdict := check_verdict slot cfg now io
  have hcount : (slot.check cfg now io).2.connection.failures = slot.connection.failures +
      failsFrom slot.connection.state (slot.check cfg now io).2.connection.state :=
    h.invoke_failures cfg io.env (.checkTimeout now) rfl
  unfold Slot.checked
  split
  · next hv =>
      refine answered_fail cfg io ?_ rfl rfl
      rw [hcount, failsFrom, if_pos (hverdict.mp hv)]
  · next hv =>
      refine Or.inl ⟨?_, rfl⟩
      rw [hcount, failsFrom, if_neg (fun hf => hv (hverdict.mpr hf)), Nat.add_zero]

/-- After its check, a slot that was alive before it is not stuck. -/
theorem checked_notStuck {slot : Slot} {cfg : Config} (hcfg : cfg.DelaysNonneg) (now : Int)
    {io : SlotIo} (hio : 0 ≤ io.failedAt) (hlive : slot.connection.state ≠ .kFailed) :
    (slot.checked cfg now io).NotStuck := by
  unfold Slot.checked
  split
  · exact fail_notStuck _ hcfg hio
  · next hv => exact fun hf => absurd ((check_verdict slot cfg now io).mpr ⟨hlive, hf⟩) hv

/-- A PING that is not lost fails nothing. -/
theorem Sound.pingIfDue_failures {slot : Slot} (h : slot.Sound) (cfg : Config) (now : Int)
    (io : SlotIo) (hping : ¬ slot.PingLost now io) :
    (slot.pingIfDue cfg now io).connection.failures = slot.connection.failures := by
  have hstate := pingIfDue_state slot cfg now io hping
  unfold Slot.pingIfDue at hstate ⊢
  split at hstate
  · next hdue =>
      rw [if_pos hdue]
      have hcount := h.invoke_failures cfg io.env (.sendPing now) rfl
      have hsame : (slot.invoke cfg io.env (.sendPing now)).connection.state =
          slot.connection.state := hstate
      rw [hsame, failsFrom, if_neg (by tauto), Nat.add_zero] at hcount
      exact hcount
  · next hdue => rw [if_neg hdue]

theorem pingIfDue_counters (slot : Slot) (cfg : Config) (now : Int) (io : SlotIo) :
    (slot.pingIfDue cfg now io).history.alerts = slot.history.alerts ∧
      (slot.pingIfDue cfg now io).history.schedules = slot.history.schedules := by
  unfold Slot.pingIfDue
  split <;> exact ⟨rfl, rfl⟩

theorem reconnected_answered (slot : Slot) (cfg : Config) (now : Int) (io : SlotIo) :
    Answered slot (slot.reconnected cfg now io) := by
  unfold Slot.reconnected
  split
  · next fd _ =>
      exact Or.inl ⟨Connection.rebind_failures (slot.connection.withEnv io.env) fd now, rfl⟩
  · refine Or.inl ⟨?_, ?_⟩
    · rw [scheduleReconnect_connection]
    · rw [scheduleReconnect_history]

theorem Sound.ticked_answered {slot : Slot} (h : slot.Sound) (cfg : Config) (now : Int)
    (io : SlotIo) (hping : ¬ slot.PingLost now io) : Answered slot (slot.ticked cfg now io) := by
  have hpinged : Answered slot ((slot.pingIfDue cfg now io).checked cfg now io) := by
    have hchecked := (h.pingIfDue cfg now io).checked_answered cfg now io
    obtain ⟨halerts, hschedules⟩ := pingIfDue_counters slot cfg now io
    rwa [Answered, h.pingIfDue_failures cfg now io hping, halerts, hschedules] at hchecked
  unfold Slot.ticked
  cases slot.connection.state with
  | kHealthy => exact hpinged
  | kDegraded => exact hpinged
  | kConnecting => exact h.checked_answered cfg now io
  | kHandshaking => exact h.checked_answered cfg now io
  | kFailed =>
      dsimp only
      split
      · exact reconnected_answered slot cfg now io
      · exact Or.inl ⟨rfl, rfl⟩
  | kDisconnected => exact Or.inl ⟨rfl, rfl⟩
  | kReconnecting => exact Or.inl ⟨rfl, rfl⟩

theorem Sound.reconnected_notStuck {slot : Slot} (h : slot.Sound) {cfg : Config}
    (hcfg : cfg.DelaysNonneg) {now : Int} (hnow : 0 ≤ now) (io : SlotIo) :
    (slot.reconnected cfg now io).NotStuck := by
  unfold Slot.reconnected
  split
  · intro hf
    have hstart : Connection.startState slot.connection.role = .kFailed := hf
    rw [h.role] at hstart
    cases hstart
  · exact scheduleReconnect_notStuck _ hcfg hnow io.jitter

theorem Sound.ticked_notStuck {slot : Slot} (h : slot.Sound) {cfg : Config}
    (hcfg : cfg.DelaysNonneg) {now : Int} (hnow : 0 ≤ now) {io : SlotIo} (hio : 0 ≤ io.failedAt)
    (hping : ¬ slot.PingLost now io) (hslot : slot.NotStuck) :
    (slot.ticked cfg now io).NotStuck := by
  have hpinged (hlive : slot.connection.state ≠ .kFailed) :
      ((slot.pingIfDue cfg now io).checked cfg now io).NotStuck := by
    refine checked_notStuck hcfg now hio ?_
    rwa [pingIfDue_state slot cfg now io hping]
  unfold Slot.ticked
  cases hs : slot.connection.state with
  | kHealthy => exact hpinged (by simp [hs])
  | kDegraded => exact hpinged (by simp [hs])
  | kConnecting => exact checked_notStuck hcfg now hio (by simp [hs])
  | kHandshaking => exact checked_notStuck hcfg now hio (by simp [hs])
  | kFailed =>
      dsimp only
      split
      · exact h.reconnected_notStuck hcfg hnow io
      · exact hslot
  | kDisconnected => exact hslot
  | kReconnecting => exact hslot

end Slot

/-! ## Every run -/

/-- The clock readings a step uses for its backoffs are not negative. -/
def MonitorStep.ClockNonneg : MonitorStep → Prop
  | .command (.forceDisconnect _ _ io) => 0 ≤ io.failedAt
  | .connectionEvent _ _ _ io => 0 ≤ io.failedAt
  | .timerTick now io => 0 ≤ now ∧ ∀ i, 0 ≤ (io i).failedAt
  | _ => True

namespace FeedMonitor

variable {m : FeedMonitor}

theorem slotStep_answered {s : MonitorStep} {i : Nat} {slot slot' : Slot} (h : m.WellFormed)
    (hping : PingsSendable m s) (hx : m.slots[i]? = some slot)
    (hstep : SlotStep m s i slot slot') : Slot.Answered slot slot' := by
  have hsound := h.sound.at hx
  cases hstep with
  | kept => exact Or.inl ⟨rfl, rfl⟩
  | disconnected feedId now io _ _ _ hlive =>
      exact hsound.disconnected_answered m.config now io hlive
  | forcedReconnect => exact Or.inl ⟨rfl, rfl⟩
  | rebased => exact Or.inl ⟨rfl, rfl⟩
  | handled fd events now io _ _ hlookup =>
      obtain ⟨slot0, hx0, hkey⟩ := (h.fdIndex fd i).mp hlookup
      rw [hx] at hx0
      obtain rfl := Option.some.inj hx0
      exact hsound.handled_answered m.config events now io (liveFd_eq_some hkey).2
  | ticked now io => exact hsound.ticked_answered m.config now (io i) (hping i slot hx)

theorem slotStep_notStuck {s : MonitorStep} {i : Nat} {slot slot' : Slot} (h : m.WellFormed)
    (hcfg : m.config.DelaysNonneg) (hclock : s.ClockNonneg) (hping : PingsSendable m s)
    (hx : m.slots[i]? = some slot) (hslot : slot.NotStuck) (hstep : SlotStep m s i slot slot') :
    slot'.NotStuck := by
  have hsound := h.sound.at hx
  cases hstep with
  | kept => exact hslot
  | disconnected feedId now io => exact Slot.fail_notStuck _ hcfg hclock
  | forcedReconnect => exact fun _ => Or.inr (Int.le_refl 0)
  | rebased => exact hslot
  | handled fd events now io => exact Slot.handled_notStuck slot hcfg events now hclock
  | ticked now io =>
      exact hsound.ticked_notStuck hcfg hclock.1 (hclock.2 i) (hping i slot hx) hslot

/-- Seen from any slot after the step: if it was there before, its failures in
this step were answered; if it is new, it has none. -/
def FailuresAnswered (m : FeedMonitor) (s : MonitorStep) : Prop :=
  ∀ slot' ∈ (m.step s).slots,
    (∀ slot ∈ m.slots, slot.history.object = slot'.history.object → Slot.Answered slot slot') ∧
    ((∀ slot ∈ m.slots, slot.history.object ≠ slot'.history.object) →
      slot'.connection.failures = 0 ∧ slot'.history.alerts = 0)

theorem step_failuresAnswered (h : m.WellFormed) (s : MonitorStep) (hping : PingsSendable m s) :
    FailuresAnswered m s := by
  intro slot' hmem
  rcases step_origin h.sound s hmem with ⟨i, slot, hx, hstep⟩ | ⟨endpoint, fd, now, _, _, rfl⟩
  · have hobj : slot'.history.object = slot.history.object :=
      congrArg Prod.fst (slotStep_sameness hstep)
    refine ⟨fun slot0 h0 heq => ?_, fun hnone => ?_⟩
    · have hsame : slot0 = slot := List.inj_on_of_nodup_map h.objects_nodup h0
        (List.mem_of_getElem? hx) (heq.trans hobj)
      rw [hsame]
      exact slotStep_answered h hping hx hstep
    · exact absurd hobj.symm (hnone slot (List.mem_of_getElem? hx))
  · refine ⟨fun slot0 h0 heq => ?_, fun _ => ⟨rfl, rfl⟩⟩
    have hlt := h.objects_lt slot0 h0
    have hnew : slot0.history.object = m.nextObject := heq
    omega

/-- The delays of the configuration. -/
def delays (m : FeedMonitor) : Int × Int :=
  (m.config.reconnectBaseDelay, m.config.reconnectMaxDelay)

/-- No step changes the delays. -/
theorem step_delays (h : m.WellFormed) (s : MonitorStep) : (m.step s).delays = m.delays :=
  congrArg (fun cfg => (cfg.reconnectBaseDelay, cfg.reconnectMaxDelay)) (step_lasting h.sound s)

/-- What holds between the steps of a run without lost PINGs. -/
structure Attended (m : FeedMonitor) : Prop where
  wellFormed : m.WellFormed
  delays : m.config.DelaysNonneg
  notStuck : ∀ slot ∈ m.slots, slot.NotStuck

theorem step_attended (h : m.Attended) (s : MonitorStep) (hnew : SocketsNew m s)
    (hping : PingsSendable m s) (hclock : s.ClockNonneg) : (m.step s).Attended := by
  refine ⟨step_wellFormed h.wellFormed s hnew hping, ?_, ?_⟩
  · have hd := step_delays h.wellFormed s
    have hbase : (m.step s).config.reconnectBaseDelay = m.config.reconnectBaseDelay :=
      congrArg Prod.fst hd
    have hmax : (m.step s).config.reconnectMaxDelay = m.config.reconnectMaxDelay :=
      congrArg Prod.snd hd
    rw [Config.DelaysNonneg, hbase, hmax]
    exact h.delays
  · intro slot' hmem
    rcases step_origin h.wellFormed.sound s hmem with
      ⟨i, slot, hx, hstep⟩ | ⟨endpoint, fd, now, _, _, rfl⟩
    · exact slotStep_notStuck h.wellFormed h.delays hclock hping hx
        (h.notStuck slot (List.mem_of_getElem? hx)) hstep
    · exact fun hf => nomatch hf

/-- The peer of feed 7 hangs up. -/
def feedHangsUp : MonitorStep :=
  .connectionEvent 5 { epollHup := true } 20 { failedAt := 20 }

/-- What was counted for each slot: failures, alerts and schedules. -/
def tallies (m : FeedMonitor) : List (Nat × Nat × Nat) :=
  m.slots.map fun slot =>
    (slot.connection.failures, slot.history.alerts, slot.history.schedules)

end FeedMonitor

end Vigil
