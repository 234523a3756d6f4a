import Vigil.MonitorBatches
import Vigil.Stamps

/-!
# Time as the connections see it

`run` reads the clock once per batch and hands that reading to every connection
event of the batch; ticks and commands read it again.  If a tick comes before
a connection event in the batch, the connection has already been handed a later
time, and a PONG that answers the PING of that very tick appears to come from
the future (`pong_from_the_future`).

`times_in_order` is about the batches in which no connection event follows a
later reading handed to the same connection: the times each connection is
handed never decrease, and every honest PONG has a nonnegative round-trip time.
-/

namespace Vigil

/-! ## What a step reads and hands out -/

/-- The clock readings a command makes and passes to connections. -/
def MonitorCommand.readings : MonitorCommand → List Int
  | .forceDisconnect _ now _ => [now]
  | .setHeartbeatTimeout _ now => [now]
  | _ => []

/-- The clock readings a step makes and passes to connections; a connection
event is passed the batch's. -/
def MonitorStep.readings : MonitorStep → List Int
  | .command c => c.readings
  | .timerTick now _ => [now]
  | .connectionEvent _ _ _ _ => []

/-- Those of its readings that can reach the connection of feed `feedId`. -/
def MonitorStep.hands (feedId : BitVec 32) : MonitorStep → List Int
  | .command (.forceDisconnect f now _) => if f = feedId then [now] else []
  | s => s.readings

namespace Slot

/-- From `slot` to `slot'` the connection was handed the time `t`, any number
of times. -/
structure Keeps (t : Int) (slot slot' : Slot) : Prop where
  handed : ∃ k, slot'.history.handed = slot.history.handed ++ List.replicate k t
  honest : Connection.Honest slot.history.handed slot.connection →
    Connection.Honest slot'.history.handed slot'.connection

variable {t : Int} {slot slot' : Slot}

theorem Keeps.of_eq (hc : slot'.connection = slot.connection)
    (hh : slot'.history.handed = slot.history.handed) : Keeps t slot slot' :=
  ⟨⟨0, by simp [hh]⟩, by rw [hc, hh]; exact id⟩

theorem Keeps.trans {slot'' : Slot} (h1 : Keeps t slot slot') (h2 : Keeps t slot' slot'') :
    Keeps t slot slot'' := by
  obtain ⟨k1, hk1⟩ := h1.handed
  obtain ⟨k2, hk2⟩ := h2.handed
  refine ⟨⟨k1 + k2, ?_⟩, fun h => h2.honest (h1.honest h)⟩
  rw [hk2, hk1, List.append_assoc, List.replicate_append_replicate]

theorem keeps_invoke (slot : Slot) (cfg : Config) (env : Env Unit) (op : ConnOp)
    (hop : op.now = some t) : Keeps t slot (slot.invoke cfg env op) := by
  have hhanded : (slot.invoke cfg env op).history.handed = slot.history.handed ++ [t] := by
    show slot.history.handed ++ op.now.toList = _
    rw [hop]
    rfl
  refine ⟨⟨1, hhanded⟩, fun h => ?_⟩
  exact h.call ⟨cfg, env, op⟩

theorem keeps_scheduleReconnect (slot : Slot) (cfg : Config) (now : Int) (jitter : JitterFactor) :
    Keeps t slot (slot.scheduleReconnect cfg now jitter) :=
  Keeps.of_eq (scheduleReconnect_connection slot cfg now jitter)
    (by rw [scheduleReconnect_history])

theorem keeps_fail (slot : Slot) (cfg : Config) (io : SlotIo) : Keeps t slot (slot.fail cfg io) :=
  Keeps.of_eq (fail_connection slot cfg io) (by rw [fail_history])

theorem keeps_writeIfWritable (slot : Slot) (cfg : Config) (events : EpollEvents) (now : Int)
    (io : SlotIo) : Keeps now slot (slot.writeIfWritable cfg events now io) := by
  unfold writeIfWritable
  split
  · exact keeps_invoke slot cfg io.env _ rfl
  · exact Keeps.of_eq rfl rfl

theorem keeps_onEvent (slot : Slot) (cfg : Config) (events : EpollEvents) (now : Int)
    (io : SlotIo) : Keeps now slot (slot.onEvent cfg events now io) := by
  have hw := keeps_writeIfWritable slot cfg events now io
  unfold onEvent
  split
  · exact keeps_invoke slot cfg io.env _ rfl
  · dsimp only
    generalize slot.writeIfWritable cfg events now io = written at hw ⊢
    split
    · exact hw.trans (keeps_invoke written cfg _ _ rfl)
    · exact hw

theorem keeps_handled (slot : Slot) (cfg : Config) (events : EpollEvents) (now : Int)
    (io : SlotIo) : Keeps now slot (slot.handled cfg events now io) := by
  unfold handled
  split
  · exact (keeps_onEvent slot cfg events now io).trans (keeps_fail _ cfg io)
  · exact keeps_onEvent slot cfg events now io

theorem keeps_disconnected (slot : Slot) (cfg : Config) (now : Int) (io : SlotIo) :
    Keeps now slot (slot.disconnected cfg now io) :=
  (keeps_invoke slot cfg io.env (.onHangupOrError kEConnAborted now) rfl).trans
    (keeps_fail _ cfg io)

theorem keeps_checked (slot : Slot) (cfg : Config) (now : Int) (io : SlotIo) :
    Keeps now slot (slot.checked cfg now io) := by
  have hc : Keeps now slot (slot.check cfg now io).2 :=
    keeps_invoke slot cfg io.env (.checkTimeout now) rfl
  unfold checked
  split
  · exact hc.trans (keeps_fail _ cfg io)
  · exact hc

theorem keeps_pingIfDue (slot : Slot) (cfg : Config) (now : Int) (io : SlotIo) :
    Keeps now slot (slot.pingIfDue cfg now io) := by
  unfold pingIfDue
  split
  · exact (keeps_invoke slot cfg io.env (.sendPing now) rfl).trans (Keeps.of_eq rfl rfl)
  · exact Keeps.of_eq rfl rfl

theorem keeps_reconnected (slot : Slot) (cfg : Config) (now : Int) (io : SlotIo) :
    Keeps now slot (slot.reconnected cfg now io) := by
  have hbegun : Keeps now slot { slot with reconnectReadyAtNs := -1 } := Keeps.of_eq rfl rfl
  unfold reconnected
  split
  · exact hbegun.trans (keeps_invoke _ cfg io.env _ rfl)
  · exact hbegun.trans (keeps_scheduleReconnect _ cfg now io.jitter)

theorem keeps_ticked (slot : Slot) (cfg : Config) (now : Int) (io : SlotIo) :
    Keeps now slot (slot.ticked cfg now io) := by
  have hping := (keeps_pingIfDue slot cfg now io).trans (keeps_checked _ cfg now io)
  unfold ticked
  cases slot.connection.state with
  | kHealthy => exact hping
  | kDegraded => exact hping
  | kConnecting => exact keeps_checked slot cfg now io
  | kHandshaking => exact keeps_checked slot cfg now io
  | kFailed =>
      dsimp only
      split
      · exact keeps_reconnected slot cfg now io
      · exact Keeps.of_eq rfl rfl
  | kDisconnected => exact Keeps.of_eq rfl rfl
  | kReconnecting => exact Keeps.of_eq rfl rfl

/-- The slot in the middle of a batch that was read at `now`: `done` are the
batch's steps so far, `future` the readings still to come. -/
structure OnTime (now : Int) (done : List MonitorStep) (future : List Int) (slot : Slot) :
    Prop where
  honest : Connection.Honest slot.history.handed slot.connection
  sorted : slot.history.handed.Pairwise (· ≤ ·)
  range : ∀ t ∈ slot.history.handed, IsInt64 t
  /-- Anything later than the batch's reading was handed over in this batch. -/
  past : ∀ t ∈ slot.history.handed, t ≤ now ∨
    ∃ s ∈ done, ∃ r ∈ s.hands slot.connection.feedId, t ≤ r
  future : ∀ t ∈ slot.history.handed, ∀ r ∈ future, t ≤ r

variable {now : Int} {done : List MonitorStep} {future : List Int}

/-- One more step, of which the slot notices nothing. -/
theorem OnTime.pass (h : slot.OnTime now done future) (s : MonitorStep) {later : List Int}
    (hsub : ∀ r ∈ later, r ∈ future) : slot.OnTime now (done ++ [s]) later where
  honest := h.honest
  sorted := h.sorted
  range := h.range
  past := by
    intro t ht
    rcases h.past t ht with hle | ⟨s', hs', r, hr, hle⟩
    · exact Or.inl hle
    · exact Or.inr ⟨s', List.mem_append_left _ hs', r, hr, hle⟩
  future := fun t ht r hr => h.future t ht r (hsub r hr)

/-- The connection is handed `t`, not earlier than anything before. -/
theorem OnTime.hand (h : slot.OnTime now done future) (hkeeps : Keeps t slot slot')
    (hfeed : slot'.connection.feedId = slot.connection.feedId)
    (hle : ∀ u ∈ slot.history.handed, u ≤ t) (hrange : IsInt64 t)
    (hpast : t ≤ now ∨ ∃ s ∈ done, ∃ r ∈ s.hands slot.connection.feedId, t ≤ r)
    (hfuture : ∀ r ∈ future, t ≤ r) : slot'.OnTime now done future := by
  obtain ⟨k, hk⟩ := hkeeps.handed
  have hmem : ∀ u ∈ slot'.history.handed, u ∈ slot.history.handed ∨ u = t := by
    intro u hu
    rw [hk] at hu
    rcases List.mem_append.mp hu with hu | hu
    · exact Or.inl hu
    · exact Or.inr (List.eq_of_mem_replicate hu)
  refine ⟨hkeeps.honest h.honest, ?_, ?_, ?_, ?_⟩
  · rw [hk]
    refine List.pairwise_append.mpr ⟨h.sorted, ?_, ?_⟩
    · exact List.pairwise_replicate.mpr (Or.inr (Int.le_refl t))
    · intro u hu v hv
      rw [List.eq_of_mem_replicate hv]
      exact hle u hu
  · intro u hu
    rcases hmem u hu with hu | rfl
    · exact h.range u hu
    · exact hrange
  · intro u hu
    rw [hfeed]
    rcases hmem u hu with hu | rfl
    · exact h.past u hu
    · exact hpast
  · intro u hu
    rcases hmem u hu with hu | rfl
    · exact h.future u hu
    · exact hfuture

end Slot

/-! ## One step -/

/-- Readings of a clock that does not run backwards. -/
structure Clock (readings : List Int) : Prop where
  sorted : readings.Pairwise (· ≤ ·)
  range : ∀ r ∈ readings, IsInt64 r

theorem Clock.append_right (first : List Int) {second : List Int} (h : Clock (first ++ second)) :
    Clock second :=
  ⟨(List.pairwise_append.mp h.sorted).2.1, fun r hr => h.range r (List.mem_append_right _ hr)⟩

/-- Without some readings in the middle. -/
theorem Clock.drop_middle {now : Int} {middle future : List Int}
    (h : Clock (now :: (middle ++ future))) : Clock (now :: future) := by
  obtain ⟨hnow, hrest⟩ := List.pairwise_cons.mp h.sorted
  refine ⟨List.pairwise_cons.mpr ⟨fun r hr => hnow r (List.mem_append_right _ hr),
    (List.pairwise_append.mp hrest).2.1⟩, ?_⟩
  intro r hr
  rcases List.mem_cons.mp hr with rfl | hr
  · exact h.range _ List.mem_cons_self
  · exact h.range r (List.mem_cons_of_mem _ (List.mem_append_right _ hr))

namespace FeedMonitor

variable {m : FeedMonitor} {now : Int} {done : List MonitorStep} {future : List Int}

/-- Every slot is on time. -/
structure OnTime (now : Int) (done : List MonitorStep) (future : List Int) (m : FeedMonitor) :
    Prop where
  listed : m.Listed
  slots : ∀ slot ∈ m.slots, slot.OnTime now done future

/-- A connection event finds only connections that were handed nothing later
than the batch's reading. -/
def EventInOrder (now : Int) (done : List MonitorStep) (m : FeedMonitor) : MonitorStep → Prop
  | .connectionEvent fd _ now' _ => now' = now ∧ ∀ (i : Nat) slot, m.indexOfFd.lookup fd = some i →
      m.slots[i]? = some slot → ∀ s ∈ done, ∀ r ∈ s.hands slot.connection.feedId, r ≤ now
  | _ => True

theorem newSlot_onTime (endpoint : FeedEndpoint) (fd : Nat) (t : Int) :
    (m.newSlot endpoint fd t).OnTime now done future := by
  have hnil : (m.newSlot endpoint fd t).history.handed = [] := rfl
  refine ⟨⟨rfl, fun _ h => absurd h List.not_mem_nil, fun ⟨_, h, _⟩ => absurd h List.not_mem_nil⟩,
    ?_, ?_, ?_, ?_⟩ <;> rw [hnil] <;> simp

theorem step_onTime (s : MonitorStep) (h : m.OnTime now done (s.readings ++ future))
    (hclock : Clock (now :: (s.readings ++ future))) (horder : EventInOrder now done m s) :
    (m.step s).OnTime now (done ++ [s]) future := by
  refine ⟨step_listed h.listed s, ?_⟩
  intro slot' hmem
  rcases step_origin h.listed.sound s hmem with
    ⟨i, slot, hx, hstep⟩ | ⟨endpoint, fd, t, _, _, rfl⟩
  · have hslot := h.slots slot (List.mem_of_getElem? hx)
    have hpass : slot.OnTime now (done ++ [s]) future :=
      hslot.pass s fun r hr => List.mem_append_right _ hr
    have hfeed : slot'.connection.feedId = slot.connection.feedId :=
      congrArg (fun p => p.2.2.1) (slotStep_sameness hstep)
    -- a reading of the step itself is handed over
    have hown : ∀ t, t ∈ s.readings → t ∈ s.hands slot.connection.feedId →
        Slot.Keeps t slot slot' → slot'.OnTime now (done ++ [s]) future := by
      intro t ht hhands hkeeps
      refine hpass.hand hkeeps hfeed (fun u hu => hslot.future u hu t (List.mem_append_left _ ht))
        (hclock.range t (List.mem_cons_of_mem _ (List.mem_append_left _ ht)))
        (Or.inr ⟨s, by simp, t, hhands, Int.le_refl t⟩) ?_
      intro r hr
      obtain ⟨_, hrest⟩ := List.pairwise_cons.mp hclock.sorted
      exact (List.pairwise_append.mp hrest).2.2 t ht r hr
    cases hstep with
    | kept => exact hpass
    | disconnected feedId t io _ _ hlookup =>
        obtain ⟨slot0, hx0, hkey⟩ := (h.listed.feedIndex feedId i).mp hlookup
        rw [hx] at hx0
        obtain rfl := Option.some.inj hx0
        have hfeedId : feedId = slot.connection.feedId := (Option.some.inj hkey).symm
        refine hown t List.mem_cons_self ?_ (Slot.keeps_disconnected slot m.config t io)
        simp [MonitorStep.hands, hfeedId]
    | forcedReconnect => exact ⟨hpass.honest, hpass.sorted, hpass.range, hpass.past, hpass.future⟩
    | rebased timeout t =>
        exact hown t List.mem_cons_self List.mem_cons_self (Slot.keeps_invoke slot _ _ _ rfl)
    | handled fd events t io _ _ hlookup =>
        obtain ⟨rfl, hearlier⟩ := horder
        refine hpass.hand (Slot.keeps_handled slot m.config events t io) hfeed ?_
          (hclock.range t List.mem_cons_self) (Or.inl (Int.le_refl t)) ?_
        · intro u hu
          rcases hslot.past u hu with hle | ⟨s', hs', r, hr, hle⟩
          · exact hle
          · exact Int.le_trans hle (hearlier i slot hlookup hx s' hs' r hr)
        · exact fun r hr => (List.pairwise_cons.mp hclock.sorted).1 r (List.mem_append_right _ hr)
    | ticked t io =>
        exact hown t List.mem_cons_self List.mem_cons_self
          (Slot.keeps_ticked slot m.config t (io i))
  · exact newSlot_onTime endpoint fd t

theorem steps_onTime (steps : List MonitorStep) (m : FeedMonitor) (done : List MonitorStep)
    (h : m.OnTime now done (steps.flatMap MonitorStep.readings ++ future))
    (hclock : Clock (now :: (steps.flatMap MonitorStep.readings ++ future)))
    (horder : ∀ s ∈ steps, ∀ m' done', EventInOrder now done' m' s) :
    (steps.foldl step m).OnTime now (done ++ steps) future := by
  induction steps generalizing m done with
  | nil => simpa using h
  | cons s rest ih =>
      rw [List.flatMap_cons, List.append_assoc] at h hclock
      have hnext := step_onTime s h hclock (horder s List.mem_cons_self m done)
      have hrest := ih (m.step s) (done ++ [s]) hnext hclock.drop_middle
        fun s' hs' => horder s' (List.mem_cons_of_mem _ hs')
      rwa [List.append_assoc] at hrest

/-! ## One batch -/

/-- The readings made while the events of a batch are dispatched. -/
def eventReadings (now : Int) : FeedMonitor → List MonitorEvent → List Int
  | _, [] => []
  | m, e :: rest => (eventSteps now m e).flatMap MonitorStep.readings ++
      eventReadings now (dispatchEvent now m e) rest

/-- No connection event comes after a step of the batch that handed the same
connection a reading later than the batch's. -/
def InOrder (now : Int) : List MonitorStep → FeedMonitor → List MonitorEvent → Prop
  | _, _, [] => True
  | done, m, e :: rest =>
      (∀ slot, m.routed e = some slot →
        ∀ s ∈ done, ∀ r ∈ s.hands slot.connection.feedId, r ≤ now) ∧
      InOrder now (done ++ eventSteps now m e) (dispatchEvent now m e) rest

/-- Whatever the peer has sent, a PONG read in this event that echoes a PING of
the same attempt has a nonnegative round-trip time, and is counted if it is new
and in time. -/
def PongsTimely (now : Int) (m : FeedMonitor) (e : MonitorEvent) : Prop :=
  ∀ slot, m.routed e = some slot → ∀ (env : Env Unit) (frames : List (List ByteOrder.Byte)),
    ∀ c, c = frames.foldl (Connection.feedFrame m.config now)
        ((slot.writeIfWritable m.config e.events now e.io).connection.withEnv env) →
      c.state ≠ .kFailed → ∀ ping ∈ c.trace.queued, ping.type = MessageType.kPing.toByte →
        ∀ msg, Connection.Echoes msg ping →
          0 ≤ Connection.rttNs msg now ∧
            (c.hasAckedSequence msg.sequence = false →
              Connection.rttNs msg now < m.config.timeoutNs →
              Connection.Counts m.config c msg now)

theorem pongsTimely (h : m.OnTime now done future) (hnow : IsInt64 now) (e : MonitorEvent)
    (horder : ∀ slot, m.routed e = some slot →
      ∀ s ∈ done, ∀ r ∈ s.hands slot.connection.feedId, r ≤ now) : PongsTimely now m e := by
  rintro slot hrouted env frames c rfl hlive ping hping htype msg hecho
  obtain ⟨i, _, hx⟩ := routed_eq_some hrouted
  have hslot := h.slots slot (List.mem_of_getElem? hx)
  have hkeeps := Slot.keeps_writeIfWritable slot m.config e.events now e.io
  obtain ⟨k, hk⟩ := hkeeps.handed
  have hwritten := hkeeps.honest hslot.honest
  generalize slot.writeIfWritable m.config e.events now e.io = written at *
  have hread : Connection.Honest written.history.handed (frames.foldl
      (Connection.feedFrame m.config now) (written.connection.withEnv env)) :=
    List.foldlRecOn frames _ (hwritten.quiet rfl rfl id) fun c hc frame _ =>
      hc.feedFrame m.config now frame
  generalize frames.foldl (Connection.feedFrame m.config now) (written.connection.withEnv env) = c
    at *
  have hbound : ∀ t ∈ written.history.handed, IsInt64 t ∧ t ≤ now := by
    intro t ht
    rw [hk] at ht
    rcases List.mem_append.mp ht with ht | ht
    · refine ⟨hslot.range t ht, ?_⟩
      rcases hslot.past t ht with hle | ⟨s, hs, r, hr, hle⟩
      · exact hle
      · exact Int.le_trans hle (horder slot hrouted s hs r hr)
    · rw [List.eq_of_mem_replicate ht]
      exact ⟨hnow, Int.le_refl now⟩
  have hrtt := hread.timely (fun t ht => (hbound t ht).1) (fun t ht => (hbound t ht).2) hping hecho
  refine ⟨hrtt, fun hnew hlate => ?_⟩
  refine Connection.pong_counted m.config c msg now hecho.type_eq hread.role ?_ hnew ⟨hrtt, hlate⟩
  rcases hread.pinged ⟨ping, hping, htype⟩ with hs | hs | hs
  · exact Or.inl hs
  · exact Or.inr hs
  · exact absurd hs hlive

theorem dispatchEvent_onTime (e : MonitorEvent)
    (h : m.OnTime now done ((eventSteps now m e).flatMap MonitorStep.readings ++ future))
    (hclock : Clock (now :: ((eventSteps now m e).flatMap MonitorStep.readings ++ future)))
    (horder : ∀ slot, m.routed e = some slot →
      ∀ s ∈ done, ∀ r ∈ s.hands slot.connection.feedId, r ≤ now) :
    (dispatchEvent now m e).OnTime now (done ++ eventSteps now m e) future := by
  have hsteps : ((eventSteps now m e).foldl step m).OnTime now (done ++ eventSteps now m e)
      future := by
    by_cases hinternal : e.fd = m.wakeFd ∨ e.fd = m.timerFd ∨ e.fd = m.commandFd
    · refine steps_onTime (eventSteps now m e) m done h hclock ?_
      intro s hs m' done'
      unfold eventSteps at hs
      split at hs
      · exact absurd hs List.not_mem_nil
      · split at hs
        · rw [List.mem_singleton.mp hs]
          trivial
        · rw [if_pos (by tauto)] at hs
          obtain ⟨c, _, rfl⟩ := List.mem_map.mp hs
          trivial
    · have hone : eventSteps now m e = [.connectionEvent e.fd e.events now e.io] := by
        unfold eventSteps
        rw [if_neg (by tauto), if_neg (by tauto), if_neg (by tauto)]
      rw [hone] at h hclock ⊢
      refine step_onTime _ h hclock ⟨rfl, ?_⟩
      intro i slot hlookup hx
      refine horder slot ?_
      rw [routed, if_neg hinternal, hlookup]
      exact hx
  obtain ⟨set, fd, heq⟩ := dispatchEvent_eq now m e
  rw [heq]
  exact ⟨⟨hsteps.listed.sound, hsteps.listed.feedIndex, hsteps.listed.objects_nodup,
    hsteps.listed.objects_lt⟩, hsteps.slots⟩

theorem events_onTime (events : List MonitorEvent) (m : FeedMonitor) (done : List MonitorStep)
    (h : m.OnTime now done (eventReadings now m events ++ future))
    (hclock : Clock (now :: (eventReadings now m events ++ future)))
    (horder : InOrder now done m events) :
    Runs.Along (dispatchEvent now) (PongsTimely now) m events ∧
      ∃ all, (events.foldl (dispatchEvent now) m).OnTime now all future := by
  induction events generalizing m done with
  | nil => exact ⟨trivial, done, h⟩
  | cons e rest ih =>
      have hnow : IsInt64 now := hclock.range now List.mem_cons_self
      rw [eventReadings, List.append_assoc] at h hclock
      have hnext := dispatchEvent_onTime e h hclock horder.1
      obtain ⟨hpongs, hend⟩ := ih _ _ hnext hclock.drop_middle horder.2
      exact ⟨⟨pongsTimely h hnow e horder.1, hpongs⟩, hend⟩

/-! ## Every run -/

/-- All readings of a run in the order they are made. -/
def runReadings : FeedMonitor → List (Batch MonitorEvent) → List Int
  | _, [] => []
  | m, b :: rest => b.now :: (eventReadings b.now m b.events ++ runReadings (m.wakeUp b) rest)

/-- The batch hands no connection a later time before an earlier one. -/
def BatchInOrder (m : FeedMonitor) (b : Batch MonitorEvent) : Prop :=
  InOrder b.now [] m b.events

/-- Every PONG handled in the batch is timely. -/
def BatchTimely (m : FeedMonitor) (b : Batch MonitorEvent) : Prop :=
  Runs.Along (dispatchEvent b.now) (PongsTimely b.now) m b.events

/-- Between batches: the next reading is later than all before. -/
theorem OnTime.next_batch (h : m.OnTime now done future) (b : Batch MonitorEvent)
    {rest : List Int} (hfuture : future = b.now :: rest) : m.OnTime b.now [] rest := by
  refine ⟨h.listed, fun slot hslot => ?_⟩
  have hs := h.slots slot hslot
  subst hfuture
  exact ⟨hs.honest, hs.sorted, hs.range,
    fun t ht => Or.inl (hs.future t ht b.now List.mem_cons_self),
    fun t ht r hr => hs.future t ht r (List.mem_cons_of_mem _ hr)⟩

theorem run_onTime (batches : List (Batch MonitorEvent)) (m : FeedMonitor) (now : Int)
    (done : List MonitorStep) (h : m.OnTime now done (runReadings m batches))
    (hclock : Clock (runReadings m batches))
    (horder : Runs.Along wakeUp BatchInOrder m batches) :
    Runs.Along wakeUp BatchTimely m batches ∧
      ∀ slot ∈ (batches.foldl wakeUp m).slots, slot.history.handed.Pairwise (· ≤ ·) := by
  induction batches generalizing m now done with
  | nil => exact ⟨trivial, fun slot hslot => (h.slots slot hslot).sorted⟩
  | cons b rest ih =>
      rw [runReadings] at hclock
      obtain ⟨hpongs, all, hend⟩ := events_onTime b.events m [] (h.next_batch b rfl) hclock horder.1
      have hrest : Clock (runReadings (m.wakeUp b) rest) :=
        Clock.append_right (b.now :: eventReadings b.now m b.events) hclock
      obtain ⟨htimely, hsorted⟩ := ih (m.wakeUp b) b.now all hend hrest horder.2
      exact ⟨⟨hpongs, htimely⟩, hsorted⟩

/-- Feed 7 is added on fd 5. -/
def addOneFeed : List MonitorCommand :=
  [.addFeed { feedId := 7, host := "127.0.0.1", port := 9000 } (some 5) 0]

/-- A monitor with this feed; its timer is fd 3. -/
def oneFeed : FeedMonitor :=
  addOneFeed.foldl command (create {} 3 4)

/-- Feed 7 becomes writable and sends its HELLO. -/
def helloGoesOut : MonitorEvent :=
  { fd := 5, events := { epollOut := true }, io := { sends := [.sent 28] } }

/-- A message of feed 7 arrives. -/
def arrives (type : MessageType) (timestampNs : BitVec 64) : MonitorEvent where
  fd := 5
  events := { epollIn := true }
  io := { recvs := [.data (frameChunk
    { type := type.toByte, feedId := 7, timestampNs := timestampNs })] }

/-- The timer fires, and the tick reads the clock at `now`. -/
def timerFires (now : Int) : MonitorEvent :=
  { fd := 3, tickNow := now, tickIo := fun _ => { sends := [.sent 28] } }

/-- What each connection was handed and how many PONGs it counted. -/
def outcome (m : FeedMonitor) : List (List Int × Nat) :=
  m.slots.map fun slot => (slot.history.handed, slot.connection.stats.heartbeatsAcked)

/-- The tick that sends the PING comes last in its batch; the PONG follows in
the next. -/
def tickLast : List (Batch MonitorEvent) :=
  [⟨1, [helloGoesOut]⟩, ⟨10, [arrives .kConnectAck 0, timerFires 12]⟩, ⟨15, [arrives .kPong 12]⟩]

/-- The tick comes first in the batch and reads a later time than the batch did;
the peer answers its PING at once, and the PONG is read in the same batch. -/
def tickFirst : List (Batch MonitorEvent) :=
  [⟨1, [helloGoesOut]⟩, ⟨2, [arrives .kConnectAck 0]⟩,
    ⟨10, [timerFires 20, arrives .kPong 20]⟩]

end FeedMonitor

end Vigil
