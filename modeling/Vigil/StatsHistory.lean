import Vigil.Evidence
import Vigil.Stamps

/-!
# Statistics over the life of a connection

The statistics outlive the socket: `rebind` keeps everything but
`connected_since_ns`.  No counter ever goes back (`counters_grow`).  The
round-trip part is a summary of all the times accepted since construction
(`Summarises`): their number, the last, the extremes, and a ring that holds
the last 256.

`min_rtt_ns` starts at the largest `int64_t` and `max_rtt_ns` at 0, so the
extremes are attained because every accepted time is a non-negative `int64_t`.
-/

namespace Vigil

/-! ## A running summary -/

namespace ConnectionStats

/-- The round-trip statistics are those of `rtts`, oldest first. -/
structure Summarises (s : ConnectionStats) (rtts : List Int) : Prop where
  acked : s.heartbeatsAcked = rtts.length
  ring : s.rttSamplesNs.Records rtts
  last : ∀ rtt, rtts.getLast? = some rtt → s.lastRttNs = rtt
  min_le : ∀ rtt ∈ rtts, s.minRttNs ≤ rtt
  min_mem : s.minRttNs = 2 ^ 63 - 1 ∨ s.minRttNs ∈ rtts
  le_max : ∀ rtt ∈ rtts, rtt ≤ s.maxRttNs
  max_mem : s.maxRttNs = 0 ∨ s.maxRttNs ∈ rtts

theorem summarises_new : Summarises {} [] where
  acked := rfl
  ring := RingBuffer.records_fresh 0 (by decide)
  last := by
    intro rtt h
    cases h
  min_le := fun rtt h => absurd h List.not_mem_nil
  min_mem := Or.inl rfl
  le_max := fun rtt h => absurd h List.not_mem_nil
  max_mem := Or.inl rfl

/-- One more round-trip time. -/
theorem Summarises.record {s : ConnectionStats} {rtts : List Int} (h : s.Summarises rtts)
    (rtt : Int) : (s.recordPongReceived rtt).Summarises (rtts ++ [rtt]) where
  acked := by
    rw [List.length_append, List.length_singleton, ← h.acked]
    rfl
  ring := h.ring.push rtt
  last := by
    intro r hlast
    rw [List.getLast?_append, List.getLast?_singleton, Option.some_or] at hlast
    exact Option.some.inj hlast
  min_le := by
    intro r hr
    show min s.minRttNs rtt ≤ r
    rcases List.mem_append.mp hr with hold | hnew
    · exact (min_le_left _ _).trans (h.min_le r hold)
    · rw [List.mem_singleton.mp hnew]
      exact min_le_right _ _
  min_mem := by
    show min s.minRttNs rtt = 2 ^ 63 - 1 ∨ min s.minRttNs rtt ∈ rtts ++ [rtt]
    rcases min_choice s.minRttNs rtt with hmin | hmin
    · rw [hmin]
      exact h.min_mem.imp_right (List.mem_append_left [rtt])
    · rw [hmin]
      exact Or.inr List.mem_concat_self
  le_max := by
    intro r hr
    show r ≤ max s.maxRttNs rtt
    rcases List.mem_append.mp hr with hold | hnew
    · exact (h.le_max r hold).trans (le_max_left _ _)
    · rw [List.mem_singleton.mp hnew]
      exact le_max_right _ _
  max_mem := by
    show max s.maxRttNs rtt = 0 ∨ max s.maxRttNs rtt ∈ rtts ++ [rtt]
    rcases max_choice s.maxRttNs rtt with hmax | hmax
    · rw [hmax]
      exact h.max_mem.imp_right (List.mem_append_left [rtt])
    · rw [hmax]
      exact Or.inr List.mem_concat_self

theorem Summarises.recordAll {s : ConnectionStats} {rtts : List Int} (h : s.Summarises rtts)
    (more : List Int) : (more.foldl recordPongReceived s).Summarises (rtts ++ more) := by
  induction more generalizing s rtts with
  | nil => simpa using h
  | cons rtt more ih => simpa [List.append_assoc] using ih (h.record rtt)

variable {s : ConnectionStats} {rtts : List Int}

/-- The least time is attained, as every `int64_t` is at most the initial value. -/
theorem Summarises.isLeast (h : s.Summarises rtts) (hsome : rtts ≠ [])
    (hrange : ∀ rtt ∈ rtts, IsInt64 rtt) : IsLeast {rtt | rtt ∈ rtts} s.minRttNs := by
  refine ⟨?_, h.min_le⟩
  rcases h.min_mem with hinit | hmem
  · obtain ⟨rtt, hrtt⟩ := List.exists_mem_of_ne_nil rtts hsome
    have hle := h.min_le rtt hrtt
    have hbound := (hrange rtt hrtt).2
    have heq : s.minRttNs = rtt := by omega
    exact heq ▸ hrtt
  · exact hmem

theorem Summarises.isGreatest (h : s.Summarises rtts) (hsome : rtts ≠ [])
    (hnonneg : ∀ rtt ∈ rtts, 0 ≤ rtt) : IsGreatest {rtt | rtt ∈ rtts} s.maxRttNs := by
  refine ⟨?_, h.le_max⟩
  rcases h.max_mem with hinit | hmem
  · obtain ⟨rtt, hrtt⟩ := List.exists_mem_of_ne_nil rtts hsome
    have hle := h.le_max rtt hrtt
    have hbound := hnonneg rtt hrtt
    have heq : s.maxRttNs = rtt := by omega
    exact heq ▸ hrtt
  · exact hmem

/-! ## Counters -/

/-- No counter has gone back. -/
structure Grows (s s' : ConnectionStats) : Prop where
  sent : s.heartbeatsSent ≤ s'.heartbeatsSent
  acked : s.heartbeatsAcked ≤ s'.heartbeatsAcked
  missed : s.missed ≤ s'.missed
  reconnects : s.reconnects ≤ s'.reconnects

theorem Grows.refl (s : ConnectionStats) : Grows s s :=
  ⟨Nat.le_refl _, Nat.le_refl _, Nat.le_refl _, Nat.le_refl _⟩

theorem Grows.trans {s s' s'' : ConnectionStats} (h : Grows s s') (h' : Grows s' s'') :
    Grows s s'' where
  sent := h.sent.trans h'.sent
  acked := h.acked.trans h'.acked
  missed := h.missed.trans h'.missed
  reconnects := h.reconnects.trans h'.reconnects

end ConnectionStats

namespace Connection

open ConnectionStats

variable {σ : Type}

theorem grows_of_eq {c c' : Connection σ} (h : c'.stats = c.stats) : Grows c.stats c'.stats := by
  rw [h]
  exact Grows.refl _

theorem grows_handleMessage (cfg : Config) (c : Connection σ) (msg : HeartbeatMessage)
    (now : Int) : Grows c.stats (c.handleMessage cfg msg now).stats := by
  have hresult := handleMessage_result cfg c msg now
  generalize c.handleMessage cfg msg now = result at hresult ⊢
  have hpong : Grows c.stats (c.stats.recordPongReceived (rttNs msg now)) :=
    ⟨Nat.le_refl _, Nat.le_succ _, Nat.le_refl _, Nat.le_refl _⟩
  cases hresult with
  | hello =>
      have hqueued := grows_of_eq
        (queueMessage_stats c (c.message .kConnectAck 0 (BitVec.ofInt 64 now)))
      exact hqueued.trans ⟨Nat.le_refl _, Nat.le_refl _, Nat.le_refl _, Nat.le_refl _⟩
  | ack => exact ⟨Nat.le_refl _, Nat.le_refl _, Nat.le_refl _, Nat.le_refl _⟩
  | pingAnswered captured =>
      exact grows_of_eq (c := c) (queueMessage_stats (c.heard now captured) _)
  | counted => exact hpong
  | recovered => exact hpong
  | _ => exact Grows.refl _

theorem grows_onReadable (cfg : Config) (c : Connection σ) (recvs : List RecvOutcome)
    (now : Int) : Grows c.stats (c.onReadable cfg recvs now).stats := by
  refine onReadable_keeps (I := fun d => Grows c.stats d.stats) ?_ ?_ ?_ (Grows.refl _) recvs
  · exact fun d msg hd => hd.trans (grows_handleMessage cfg (d.noteHandled msg) msg now)
  · exact fun d r hd => hd
  · exact fun d buf hd => hd

theorem grows_sendPing (c : Connection σ) (now : Int) : Grows c.stats (c.sendPing now).stats := by
  by_cases hg : c.role = .kInitiator ∧ (c.state = .kHealthy ∨ c.state = .kDegraded)
  · rw [sendPing_eq c now hg.1 hg.2]
    have hqueued := grows_of_eq (c := c) (queueMessage_stats c.bumpSequence (c.pingMessage now))
    exact hqueued.trans ⟨Nat.le_succ _, Nat.le_refl _, Nat.le_refl _, Nat.le_refl _⟩
  · rw [sendPing_idle c now hg]
    exact Grows.refl _

theorem onWritable_stats (c : Connection σ) (soError : Nat) (now : Int) :
    (c.onWritable soError now).stats = c.stats := by
  unfold onWritable
  split
  · split
    · rfl
    · dsimp only
      split
      · exact queueMessage_stats (c.transitionTo .kHandshaking now) _
      · rfl
  · exact flushWriteBuffer_stats c

theorem sendPong_stats (c : Connection σ) (sequence timestampNs : BitVec 64) :
    (c.sendPong sequence timestampNs).stats = c.stats := by
  unfold sendPong
  split
  · rfl
  · exact queueMessage_stats c _

theorem grows_checkTimeout (cfg : Config) (c : Connection σ) (now : Int) :
    Grows c.stats (c.checkTimeout cfg now).2.stats := by
  have hresult := checkTimeout_result cfg c now
  generalize c.checkTimeout cfg now = result at hresult ⊢
  have hmissed : Grows c.stats c.stats.recordMissed :=
    ⟨Nat.le_refl _, Nat.le_refl _, Nat.le_succ _, Nat.le_refl _⟩
  cases hresult with
  | lastMiss => exact hmissed
  | miss => exact hmissed
  | _ => exact Grows.refl _

theorem grows_call (c : Connection σ) (call : Call σ) : Grows c.stats (c.call call).stats := by
  obtain ⟨cfg, env, op⟩ := call
  cases op with
  | onReadable recvs now => exact grows_onReadable cfg (c.withEnv env) recvs now
  | onWritable soError now =>
      exact grows_of_eq (c := c) (onWritable_stats (c.withEnv env) soError now)
  | onHangupOrError errno now => exact Grows.refl _
  | sendPing now => exact grows_sendPing (c.withEnv env) now
  | sendPong sequence timestampNs =>
      exact grows_of_eq (c := c) (sendPong_stats (c.withEnv env) sequence timestampNs)
  | checkTimeout now => exact grows_checkTimeout cfg (c.withEnv env) now
  | resetLivenessBaseline now => exact Grows.refl _
  | rebind newFd now => exact ⟨Nat.le_refl _, Nat.le_refl _, Nat.le_refl _, Nat.le_succ _⟩

theorem counters_grow (c : Connection σ) (calls : List (Call σ)) :
    Grows c.stats (calls.foldl call c).stats :=
  List.foldlRecOn (motive := fun d => Grows c.stats d.stats) calls _ (Grows.refl _)
    fun d hd step _ => hd.trans (grows_call d step)

/-- Only accepted PONGs have a time, and it is not negative. -/
theorem rttsIn_nonneg (c : Connection σ) (call : Call σ) {rtt : Int} (h : rtt ∈ c.rttsIn call) :
    0 ≤ rtt := by
  obtain ⟨cfg, env, op⟩ := call
  cases op with
  | onReadable recvs now =>
      obtain ⟨d, msg, hpicked⟩ := mem_gather h
      split at hpicked
      · next haccepts =>
        rw [List.mem_singleton.mp hpicked]
        exact haccepts.timely.1
      · exact absurd hpicked List.not_mem_nil
  | _ => exact absurd h List.not_mem_nil

end Connection

/-! ## The whole life -/

/-- A connection and the round-trip times accepted since its construction,
oldest first. -/
structure StatsLog (σ : Type) where
  connection : Connection σ
  rtts : List Int := []

namespace StatsLog

variable {σ : Type}

open Connection

def call (l : StatsLog σ) (call : Call σ) : StatsLog σ where
  connection := l.connection.call call
  rtts := l.rtts ++ l.connection.rttsIn call

/-- The log follows the connection. -/
theorem run_connection (l : StatsLog σ) (calls : List (Call σ)) :
    (calls.foldl call l).connection = calls.foldl Connection.call l.connection := by
  induction calls generalizing l with
  | nil => rfl
  | cons step calls ih => exact ih (l.call step)

/-- The statistics are those of the times accepted so far. -/
structure Coherent (l : StatsLog σ) : Prop where
  acked : l.connection.stats.heartbeatsAcked = l.rtts.length
  samples : l.connection.stats.rttSamplesNs.entries.Perm
    (l.rtts.drop (l.rtts.length - 256))
  last : ∀ rtt, l.rtts.getLast? = some rtt → l.connection.stats.lastRttNs = rtt
  bounds : 1 ≤ l.connection.stats.heartbeatsAcked →
    0 ≤ l.connection.stats.minRttNs ∧
      ∀ rtt ∈ l.connection.stats.rttSamplesNs.entries,
        l.connection.stats.minRttNs ≤ rtt ∧ rtt ≤ l.connection.stats.maxRttNs
  greatest : 1 ≤ l.connection.stats.heartbeatsAcked →
    IsGreatest {rtt | rtt ∈ l.rtts} l.connection.stats.maxRttNs
  -- `rtt_ns` is an `int64_t`; a time beyond its range would leave the initial minimum
  least : 1 ≤ l.connection.stats.heartbeatsAcked → (∀ rtt ∈ l.rtts, IsInt64 rtt) →
    IsLeast {rtt | rtt ∈ l.rtts} l.connection.stats.minRttNs

/-- What a run keeps. -/
structure Kept (l : StatsLog σ) : Prop where
  summary : l.connection.roundTrips.Summarises l.rtts
  nonneg : ∀ rtt ∈ l.rtts, 0 ≤ rtt

theorem Kept.call {l : StatsLog σ} (h : l.Kept) (call : Call σ) : (l.call call).Kept where
  summary := by
    show (l.connection.call call).roundTrips.Summarises (l.rtts ++ l.connection.rttsIn call)
    rw [call_roundTrips]
    exact h.summary.recordAll _
  nonneg := by
    intro rtt hrtt
    rcases List.mem_append.mp hrtt with hold | hnew
    · exact h.nonneg rtt hold
    · exact rttsIn_nonneg l.connection call hnew

theorem kept_fresh {c : Connection σ} (h : Fresh c) : Kept ⟨c, []⟩ := by
  obtain ⟨fd, role, feedId, host, port, interceptor, env, now, rfl⟩ := h.created
  exact ⟨ConnectionStats.summarises_new, fun rtt h => absurd h List.not_mem_nil⟩

theorem Kept.accepted {l : StatsLog σ} (h : l.Kept)
    (hacked : 1 ≤ l.connection.stats.heartbeatsAcked) : l.rtts ≠ [] := by
  have hlength : l.connection.stats.heartbeatsAcked = l.rtts.length := h.summary.acked
  exact List.ne_nil_of_length_pos (hlength ▸ hacked)

theorem Kept.coherent {l : StatsLog σ} (h : l.Kept) : l.Coherent where
  acked := h.summary.acked
  samples := h.summary.ring.entries_perm
  last := h.summary.last
  bounds := by
    intro _
    constructor
    · rcases h.summary.min_mem with hinit | hmem
      · have hmin : l.connection.stats.minRttNs = 2 ^ 63 - 1 := hinit
        rw [hmin]
        decide
      · exact h.nonneg _ hmem
    · intro rtt hrtt
      have hmem := List.mem_of_mem_drop ((h.summary.ring.mem_entries rtt).mp hrtt)
      exact ⟨h.summary.min_le rtt hmem, h.summary.le_max rtt hmem⟩
  greatest := fun hacked => h.summary.isGreatest (h.accepted hacked) h.nonneg
  least := fun hacked hrange => h.summary.isLeast (h.accepted hacked) hrange

/-- **Statistics stay coherent**, in every run from construction on, however
often it reconnects, and none of the counters ever goes back. -/
theorem statistics_coherent (c : Connection σ) (h : Fresh c) (calls more : List (Call σ)) :
    Coherent (calls.foldl call ⟨c, []⟩) ∧
      (calls.foldl call ⟨c, []⟩).connection.stats.Grows
        ((calls ++ more).foldl call ⟨c, []⟩).connection.stats := by
  have hkept : Kept (calls.foldl call ⟨c, []⟩) :=
    List.foldlRecOn calls _ (kept_fresh h) fun _ hl step _ => hl.call step
  refine ⟨hkept.coherent, ?_⟩
  have hmore := counters_grow (calls.foldl call ⟨c, []⟩).connection more
  rw [← run_connection] at hmore
  rw [List.foldl_append]
  exact hmore

/-- A handshake, a PING answered after 300 ns, and a new socket. -/
def answeredThenRebound : List (Call Unit) :=
  let env : Env Unit := ⟨[.sent 28], fun _ => 0, ()⟩
  [⟨{}, env, .onWritable 0 1⟩,
    ⟨{}, env, .onReadable [.data (frameChunk { type := 2, feedId := 7 })] 2⟩,
    ⟨{}, env, .sendPing 100⟩,
    ⟨{}, env, .onReadable
      [.data (frameChunk { type := 4, feedId := 7, timestampNs := 100 })] 400⟩,
    ⟨{}, env, .rebind 6 1000⟩]

theorem statistics_coherent_rebound :
    let c : Connection Unit :=
      create 5 .kInitiator 7 "localhost" 9007 none ⟨[], fun _ => 0, ()⟩ 0
    let l := answeredThenRebound.foldl call ⟨c, []⟩
    l.rtts = [300] ∧ l.connection.stats.reconnects = 1 ∧ Coherent l :=
  ⟨by decide +kernel, by decide +kernel,
    (statistics_coherent _ ⟨⟨5, .kInitiator, 7, "localhost", 9007, none, _, 0, rfl⟩⟩
      answeredThenRebound []).1⟩

end StatsLog

end Vigil
