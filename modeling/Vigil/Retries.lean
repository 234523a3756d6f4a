import Vigil.MonitorSteps
import Vigil.Runs

/-!
# Retries and the retry budget

A failed slot is retried from the tick, after a backoff, until
`max_reconnect_attempts` retries have been scheduled; then it is given up.
`force_reconnect` renews the budget.  Failures reach `schedule_reconnect` from
events, ticks, operators and from `initiate_connect` itself, so the first
result is `RetryMove`: the four things a step can do to the retry fields of a
slot.

To count calls over a run, `Audited` keeps a book beside the monitor, one page
per `Connection` object, which no step reads.
-/

namespace Vigil

/-! ## The retry fields -/

/-- The fields of a slot that `schedule_reconnect` reads and writes, and how
often it was called. -/
structure Retry where
  attempts : Int
  readyAtNs : Int
  giveUp : Bool
  schedules : Nat

/-- `schedule_reconnect`. -/
def Retry.schedule (r : Retry) (cfg : Config) (backoff : Int × JitterFactor) : Retry :=
  if cfg.maxReconnectAttempts ≥ 0 ∧ r.attempts ≥ cfg.maxReconnectAttempts then
    { r with giveUp := true, schedules := r.schedules + 1 }
  else
    { attempts := r.attempts + 1
      readyAtNs := backoff.1 + reconnectDelayNs cfg r.attempts backoff.2
      giveUp := r.giveUp
      schedules := r.schedules + 1 }

namespace Slot

def retry (slot : Slot) : Retry where
  attempts := slot.reconnectAttempts
  readyAtNs := slot.reconnectReadyAtNs
  giveUp := slot.giveUp
  schedules := slot.history.schedules

theorem scheduleReconnect_retry (slot : Slot) (cfg : Config) (now : Int) (jitter : JitterFactor) :
    (slot.scheduleReconnect cfg now jitter).retry = slot.retry.schedule cfg (now, jitter) := by
  by_cases h : cfg.maxReconnectAttempts ≥ 0 ∧ slot.reconnectAttempts ≥ cfg.maxReconnectAttempts
  · simp only [scheduleReconnect, if_pos h]
    exact (if_pos h).symm
  · simp only [scheduleReconnect, if_neg h]
    exact (if_neg h).symm

theorem fail_retry (slot : Slot) (cfg : Config) (io : SlotIo) :
    (slot.fail cfg io).retry = slot.retry.schedule cfg (io.failedAt, io.jitter) :=
  scheduleReconnect_retry slot.emitFailureAlert cfg io.failedAt io.jitter

theorem writeIfWritable_retry (slot : Slot) (cfg : Config) (events : EpollEvents) (now : Int)
    (io : SlotIo) : (slot.writeIfWritable cfg events now io).retry = slot.retry := by
  unfold writeIfWritable
  split <;> rfl

theorem onEvent_retry (slot : Slot) (cfg : Config) (events : EpollEvents) (now : Int)
    (io : SlotIo) : (slot.onEvent cfg events now io).retry = slot.retry := by
  have hw := writeIfWritable_retry slot cfg events now io
  unfold onEvent
  split
  · rfl
  · dsimp only
    generalize slot.writeIfWritable cfg events now io = written at hw ⊢
    split <;> exact hw

theorem pingIfDue_retry (slot : Slot) (cfg : Config) (now : Int) (io : SlotIo) :
    (slot.pingIfDue cfg now io).retry = slot.retry := by
  unfold pingIfDue
  split <;> rfl

/-- An event does not bring a failed connection back. -/
theorem onEvent_stays_failed {slot : Slot} (cfg : Config) (events : EpollEvents) (now : Int)
    (io : SlotIo) (hf : slot.connection.state = .kFailed) :
    (slot.onEvent cfg events now io).connection.state = .kFailed := by
  have hw : (slot.writeIfWritable cfg events now io).connection.state = .kFailed := by
    unfold writeIfWritable
    split
    · exact Connection.call_stays_failed slot.connection
        ⟨cfg, io.env, .onWritable io.soError now⟩ hf rfl
    · exact hf
  unfold onEvent
  split
  · rfl
  · dsimp only
    rw [if_neg (by simp [hw])]
    exact hw

/-- `force_reconnect` on a failed connection. -/
def renewed (slot : Slot) : Slot :=
  { slot with giveUp := false, reconnectAttempts := 0, reconnectReadyAtNs := 0 }

end Slot

/-! ## What a step does to them -/

namespace MonitorStep

/-- The step applies `force_reconnect` to this slot. -/
def forces (s : MonitorStep) (slot : Slot) : Bool :=
  match s with
  | .command (.forceReconnect feedId) =>
      slot.connection.feedId = feedId ∧ slot.connection.state = .kFailed
  | _ => false

/-- The number of `initiate_connect` calls the step makes on this slot. -/
def connects (s : MonitorStep) (slot : Slot) : Nat :=
  match s with
  | .timerTick now _ =>
      if slot.connection.state = .kFailed ∧ slot.reconnectDue now = true then 1 else 0
  | _ => 0

/-- The clock and the jitter as `schedule_reconnect` would see them if the step
called it on this slot: `initiate_connect` hands on the time of the tick,
`on_connection_failed` reads the clock. -/
def backoff (s : MonitorStep) (i : Nat) (slot : Slot) : Int × JitterFactor :=
  match s with
  | .command (.forceDisconnect _ _ io) => (io.failedAt, io.jitter)
  | .connectionEvent _ _ _ io => (io.failedAt, io.jitter)
  | .timerTick now io =>
      (if slot.connection.state = .kFailed then now else (io i).failedAt, (io i).jitter)
  | _ => (0, ⟨1, jitterFactor_one⟩)

end MonitorStep

/-- What a step other than `force_reconnect` does to a slot's retry fields:
nothing; schedule a retry after a failure, or give up; begin a retry and have
it refused by `socket()`; begin a retry. -/
inductive RetryMove (cfg : Config) (s : MonitorStep) (i : Nat) (slot slot' : Slot) : Prop
  | idle (hretry : slot'.retry = slot.retry) (hconnects : s.connects slot = 0)
      (hfd : slot'.connection.fd = slot.connection.fd)
      (hstays : slot.connection.state = .kFailed → slot'.connection.state = .kFailed)
  | failed (hretry : slot'.retry = slot.retry.schedule cfg (s.backoff i slot))
      (hconnects : s.connects slot = 0) (hfd : slot'.connection.fd = slot.connection.fd)
      (hfailed : slot'.connection.state = .kFailed)
  | refused (hretry : slot'.retry =
        Retry.schedule { slot.retry with readyAtNs := -1 } cfg (s.backoff i slot))
      (hconnects : s.connects slot = 1) (hlive : slot.giveUp = false)
      (hpending : 0 ≤ slot.reconnectReadyAtNs) (hfailed : slot'.connection.state = .kFailed)
  | connected (hretry : slot'.retry = { slot.retry with readyAtNs := -1 })
      (hconnects : s.connects slot = 1) (hlive : slot.giveUp = false)
      (hpending : 0 ≤ slot.reconnectReadyAtNs)

namespace Slot

variable {m : FeedMonitor} {i : Nat} {slot : Slot}

theorem handled_move (fd : Int) (events : EpollEvents) (now : Int) (io : SlotIo) :
    RetryMove m.config (.connectionEvent fd events now io) i slot
      (slot.handled m.config events now io) := by
  have hfd : (slot.handled m.config events now io).connection.fd = slot.connection.fd :=
    congrArg Prod.fst (handled_place slot m.config events now io)
  by_cases hf : (slot.onEvent m.config events now io).connection.state = .kFailed
  · refine .failed ?_ rfl hfd ?_
    · rw [handled, if_pos hf, fail_retry, onEvent_retry]
      rfl
    · rw [handled_state, hf]
  · refine .idle ?_ rfl hfd ?_
    · rw [handled, if_neg hf, onEvent_retry]
    · exact fun hs => absurd (onEvent_stays_failed m.config events now io hs) hf

/-- The timeout part of a tick, after a PING that leaves the retry fields and
the fd alone. -/
theorem checked_move {pinged : Slot} (now : Int) (io : Nat → SlotIo)
    (hlive : slot.connection.state ≠ .kFailed) (hretry : pinged.retry = slot.retry)
    (hfd : pinged.connection.fd = slot.connection.fd) :
    RetryMove m.config (.timerTick now io) i slot (pinged.checked m.config now (io i)) := by
  have hconnects : (MonitorStep.timerTick now io).connects slot = 0 := if_neg (by simp [hlive])
  have hbackoff : (MonitorStep.timerTick now io).backoff i slot =
      ((io i).failedAt, (io i).jitter) := by
    simp only [MonitorStep.backoff, if_neg hlive]
  have hfd' : (pinged.checked m.config now (io i)).connection.fd = slot.connection.fd :=
    (congrArg Prod.fst (checked_place pinged m.config now (io i))).trans hfd
  by_cases hv : (pinged.check m.config now (io i)).1 = true
  · refine .failed ?_ hconnects hfd' ?_
    · rw [checked, if_pos hv, fail_retry, hbackoff, ← hretry]
      rfl
    · rw [checked_connection]
      exact ((check_verdict pinged m.config now (io i)).mp hv).2
  · refine .idle ?_ hconnects hfd' (fun hs => absurd hs hlive)
    rw [checked, if_neg hv, ← hretry]
    rfl

theorem reconnected_move (now : Int) (io : Nat → SlotIo)
    (hf : slot.connection.state = .kFailed) (hdue : slot.reconnectDue now = true) :
    RetryMove m.config (.timerTick now io) i slot (slot.reconnected m.config now (io i)) := by
  have hconnects : (MonitorStep.timerTick now io).connects slot = 1 := if_pos ⟨hf, hdue⟩
  have hbackoff : (MonitorStep.timerTick now io).backoff i slot = (now, (io i).jitter) := by
    simp only [MonitorStep.backoff, if_pos hf]
  obtain ⟨hgive, hpending, _⟩ : slot.giveUp = false ∧ 0 ≤ slot.reconnectReadyAtNs ∧
      slot.reconnectReadyAtNs ≤ now := by
    simpa [reconnectDue] using hdue
  cases hs : (io i).socket with
  | none =>
      refine .refused ?_ hconnects hgive hpending ?_
      · rw [reconnected, hs, hbackoff]
        exact scheduleReconnect_retry _ m.config now (io i).jitter
      · rw [reconnected, hs]
        dsimp only
        rw [scheduleReconnect_connection]
        exact hf
  | some fd =>
      refine .connected ?_ hconnects hgive hpending
      rw [reconnected, hs]
      rfl

theorem ticked_move (now : Int) (io : Nat → SlotIo) :
    RetryMove m.config (.timerTick now io) i slot (slot.ticked m.config now (io i)) := by
  have hpinged (hlive : slot.connection.state ≠ .kFailed) :=
    checked_move (m := m) (i := i) now io hlive (pingIfDue_retry slot m.config now (io i))
      (congrArg Prod.fst (pingIfDue_place slot m.config now (io i)))
  have hsilent (hlive : slot.connection.state ≠ .kFailed) :
      RetryMove m.config (.timerTick now io) i slot slot :=
    .idle rfl (if_neg (by simp [hlive])) rfl (fun hs => hs)
  unfold ticked
  cases hs : slot.connection.state with
  | kHealthy => exact hpinged (by simp [hs])
  | kDegraded => exact hpinged (by simp [hs])
  | kConnecting => exact checked_move now io (by simp [hs]) rfl rfl
  | kHandshaking => exact checked_move now io (by simp [hs]) rfl rfl
  | kFailed =>
      dsimp only
      split
      · next hdue => exact reconnected_move now io hs hdue
      · next hdue => exact .idle rfl (if_neg (by simp [hdue])) rfl (fun hf => hf)
  | kDisconnected => exact hsilent (by simp [hs])
  | kReconnecting => exact hsilent (by simp [hs])

end Slot

namespace FeedMonitor

variable {m : FeedMonitor} {i : Nat} {slot slot' : Slot} {s : MonitorStep}

/-- **What a step does to the retry fields**, apart from a forced reconnect. -/
theorem slotStep_move (hfeed : m.Listed) (hx : m.slots[i]? = some slot)
    (h : SlotStep m s i slot slot') (hforce : s.forces slot = false) :
    RetryMove m.config s i slot slot' := by
  cases h with
  | kept _ _ _ hs =>
      refine .idle rfl ?_ rfl (fun hf => hf)
      cases s with
      | timerTick now io => exact absurd rfl (hs now io)
      | _ => rfl
  | disconnected feedId now io =>
      refine .failed ?_ rfl ?_ (Slot.disconnected_state slot m.config now io)
      · exact Slot.fail_retry _ m.config io
      · exact congrArg Prod.fst (Slot.disconnected_place slot m.config now io)
  | forcedReconnect feedId _ _ hlookup hfailed =>
      obtain ⟨slot0, hx0, hkey⟩ := (hfeed.feedIndex feedId i).mp hlookup
      rw [hx] at hx0
      obtain rfl := Option.some.inj hx0
      have hid : slot.connection.feedId = feedId := Option.some.inj hkey
      simp [MonitorStep.forces, hid, hfailed] at hforce
  | rebased timeout now => exact .idle rfl rfl rfl (fun hf => hf)
  | handled fd events now io => exact Slot.handled_move fd events now io
  | ticked now io => exact Slot.ticked_move now io

/-! ## Which slot is which -/

/-- The slot that holds a `Connection` object. -/
def slotOf (m : FeedMonitor) (object : Nat) : Option Slot :=
  m.slots.find? fun slot => slot.history.object = object

theorem Listed.object_inj (h : m.Listed) (hmem : slot ∈ m.slots) (hmem' : slot' ∈ m.slots)
    (heq : slot'.history.object = slot.history.object) : slot' = slot :=
  List.inj_on_of_nodup_map h.objects_nodup hmem' hmem heq

theorem Listed.slotOf_eq (h : m.Listed) (hmem : slot ∈ m.slots) :
    m.slotOf slot.history.object = some slot := by
  cases hfind : m.slotOf slot.history.object with
  | none =>
      have hnone := List.find?_eq_none.mp hfind slot hmem
      simp at hnone
  | some found =>
      have hobject : found.history.object = slot.history.object := by
        simpa using List.find?_some hfind
      rw [h.object_inj hmem (List.mem_of_find?_eq_some hfind) hobject]

/-- A forced reconnect renews the slot it is applied to. -/
theorem forced_slot (h : m.Listed) (hmem : slot ∈ m.slots) (hforce : s.forces slot = true)
    (hmem' : slot' ∈ (m.step s).slots) (heq : slot'.history.object = slot.history.object) :
    slot' = slot.renewed := by
  unfold MonitorStep.forces at hforce
  split at hforce
  · next feedId =>
      obtain ⟨hid, hf⟩ := of_decide_eq_true hforce
      obtain ⟨i, hx⟩ := List.mem_iff_getElem?.mp hmem
      obtain ⟨hlt, _⟩ := List.getElem?_eq_some_iff.mp hx
      have hlookup : m.indexOfFeedId.lookup feedId = some i :=
        (h.feedIndex feedId i).mpr ⟨slot, hx, congrArg some hid⟩
      have hslots : (m.step (.command (.forceReconnect feedId))).slots =
          m.slots.set i slot.renewed := by
        show (m.forceReconnect feedId).slots = _
        rw [forceReconnect, hlookup]
        dsimp only
        rw [modifySlot_eq _ hx, if_pos hf]
        rfl
      have hthere : slot.renewed ∈ (m.step (.command (.forceReconnect feedId))).slots := by
        rw [hslots]
        exact List.mem_of_getElem? (List.getElem?_set_self hlt)
      exact (step_listed h _).object_inj hthere hmem' heq
  · cases hforce

end FeedMonitor

/-! ## The book -/

/-- Does the report say that the connection became healthy? -/
def Report.entersHealthy : Report → Bool
  | .transition _ .kHealthy => true
  | _ => false

/-- The connection was healthy at some time during the step. -/
def Slot.wasHealthy (slot slot' : Slot) : Bool :=
  slot.connection.state = .kHealthy ||
    (slot'.connection.trace.reports.drop slot.connection.trace.reports.length).any
      Report.entersHealthy

/-- The step scheduled a retry: `schedule_reconnect` was called and did not
give up. -/
def Slot.retryScheduled (slot slot' : Slot) : Bool :=
  slot.history.schedules < slot'.history.schedules ∧ slot'.giveUp = false

/-- What is written down about one slot: whether `force_reconnect` was ever
applied to it, the `initiate_connect` calls since it last was, or since the
slot was added, and the retries scheduled since then or since its connection
was last healthy. -/
structure RetryPage where
  forced : Bool := false
  connects : Nat := 0
  retries : Nat := 0
  deriving DecidableEq, Repr

def RetryPage.post (page : RetryPage) (s : MonitorStep) (slot slot' : Slot) : RetryPage where
  forced := page.forced || s.forces slot
  connects := (if s.forces slot then 0 else page.connects) + s.connects slot
  retries := (if s.forces slot || slot.wasHealthy slot' then 0 else page.retries) +
    (if slot.retryScheduled slot' then 1 else 0)

/-- A monitor and the book about its slots, by `Connection` object. -/
structure Audited where
  monitor : FeedMonitor
  book : Nat → RetryPage := fun _ => {}

namespace Audited

open FeedMonitor

def step (a : Audited) (s : MonitorStep) : Audited where
  monitor := a.monitor.step s
  book object :=
    match a.monitor.slotOf object, (a.monitor.step s).slotOf object with
    | some slot, some slot' => (a.book object).post s slot slot'
    | _, _ => {}

/-- A new monitor and an empty book. -/
def start (config : Config) (timerFd wakeFd : Int) : Audited where
  monitor := create config timerFd wakeFd

/-- The book is only kept, never consulted. -/
theorem run_monitor (a : Audited) (steps : List MonitorStep) :
    (steps.foldl step a).monitor = steps.foldl FeedMonitor.step a.monitor := by
  induction steps generalizing a with
  | nil => rfl
  | cons s rest ih => exact ih (a.step s)

/-- A slot of the monitor, its page of the book and what a step makes of them. -/
structure Turn (a : Audited) (s : MonitorStep) (slot' : Slot) (i : Nat) (slot : Slot) : Prop where
  at_i : a.monitor.slots[i]? = some slot
  object : slot'.history.object = slot.history.object
  page : (a.step s).book slot'.history.object =
    (a.book slot.history.object).post s slot slot'
  move : s.forces slot = true ∧ slot' = slot.renewed ∨
    s.forces slot = false ∧ SlotStep a.monitor s i slot slot' ∧
      RetryMove a.monitor.config s i slot slot'

/-- **Origin, with the book.**  Every slot after a step has a page that was
carried on from the slot it comes from, or is new and has an empty one. -/
theorem step_turn {a : Audited} (h : a.monitor.Listed) (s : MonitorStep) {slot' : Slot}
    (hmem : slot' ∈ (a.step s).monitor.slots) :
    (∃ i slot, Turn a s slot' i slot) ∨
      (Added a.monitor s slot' ∧ (a.step s).book slot'.history.object = {}) := by
  have hafter : a.monitor.step s |>.Listed := step_listed h s
  have hfound : (a.monitor.step s).slotOf slot'.history.object = some slot' :=
    hafter.slotOf_eq hmem
  rcases step_origin h.sound s hmem with ⟨i, slot, hx, hstep⟩ | hadded
  · left
    have hslot : slot ∈ a.monitor.slots := List.mem_of_getElem? hx
    have hobject : slot'.history.object = slot.history.object :=
      congrArg Prod.fst (slotStep_sameness hstep)
    have hpage : (a.step s).book slot'.history.object =
        (a.book slot.history.object).post s slot slot' := by
      simp only [step, hfound]
      rw [hobject, h.slotOf_eq hslot]
    refine ⟨i, slot, hx, hobject, hpage, ?_⟩
    cases hforce : s.forces slot with
    | true => exact Or.inl ⟨rfl, forced_slot h hslot hforce hmem hobject⟩
    | false => exact Or.inr ⟨rfl, hstep, slotStep_move h hx hstep hforce⟩
  · right
    refine ⟨hadded, ?_⟩
    obtain ⟨endpoint, fd, now, _, _, rfl⟩ := hadded
    have hnone : a.monitor.slotOf a.monitor.nextObject = none := by
      apply List.find?_eq_none.mpr
      intro slot hslot
      have hlt := h.objects_lt slot hslot
      simpa using Nat.ne_of_lt hlt
    have hnone' : a.monitor.slotOf (a.monitor.newSlot endpoint fd now).history.object = none :=
      hnone
    simp only [step, hnone']

end Audited

end Vigil
