import Vigil.Evidence

/-!
# The trust level and the miss count

`state_` says how far a peer is trusted and `consecutive_missed_` counts the
heartbeats missed since the last proof of life.  They are written in different
functions.  `MissesMatch` is the link between them; every operation keeps it as
long as `max_missed_heartbeats` stays the same (`misses_match`).
-/

namespace Vigil

namespace Connection

variable {σ : Type} {n : Int} {c c' : Connection σ}

/-- The states of a connection under a constant `max_missed_heartbeats`,
between calls and between the messages handled in one call. -/
inductive ReachedWith (n : Int) : Connection σ → Prop
  | fresh {c : Connection σ} (h : Fresh c) : ReachedWith n c
  | call {c : Connection σ} (h : ReachedWith n c) (call : Call σ)
      (hn : call.cfg.maxMissedHeartbeats = n) : ReachedWith n (c.call call)
  | handled {c : Connection σ} (h : ReachedWith n c) (env : Env σ)
      (buf : List ByteOrder.Byte) (cfg : Config) (hn : cfg.maxMissedHeartbeats = n)
      (msg : HeartbeatMessage) (now : Int) :
      ReachedWith n (((c.withEnv env).withRead buf).dispatch cfg msg now)

/-- Nothing is missed up to `kHealthy`; in `kDegraded` something is, but less
than the limit. -/
structure MissesMatch (n : Int) (c : Connection σ) : Prop where
  none : c.state = .kConnecting ∨ c.state = .kHandshaking ∨ c.state = .kHealthy →
    c.consecutiveMissed = 0
  some : c.state = .kDegraded → 1 ≤ c.consecutiveMissed ∧ c.consecutiveMissed ≤ n - 1

theorem missesMatch_failed (h : c.state = .kFailed) : MissesMatch n c where
  none := by simp [h]
  some := by simp [h]

theorem missesMatch_zero {s : ConnectionState} (h : c.consecutiveMissed = 0) (hs : c.state = s)
    (hne : s ≠ .kDegraded) : MissesMatch n c where
  none := fun _ => h
  some := fun hd => absurd (hs.symm.trans hd) hne

theorem startState_ne_degraded (role : Role) : startState role ≠ .kDegraded := by
  cases role <;> decide

/-- Writing and failing keep the link. -/
theorem MissesMatch.still (h : MissesMatch n c) (hstill : Still c c') : MissesMatch n c' := by
  have hmissed := consecutiveMissed_of_evidence hstill.evidence
  rcases hstill.state with hsame | hfailed | ⟨hconnecting, hopen⟩
  · constructor
    · rw [hsame, hmissed]
      exact h.none
    · rw [hsame, hmissed]
      exact h.some
  · exact missesMatch_failed hfailed
  · exact missesMatch_zero (hmissed.trans (h.none (Or.inl hconnecting))) hopen (by decide)

theorem MissesMatch.handleMessage (h : MissesMatch n c) (cfg : Config) (msg : HeartbeatMessage)
    (now : Int) : MissesMatch n (c.handleMessage cfg msg now) := by
  have hresult := handleMessage_result cfg c msg now
  generalize c.handleMessage cfg msg now = result at hresult ⊢
  cases hresult with
  | violation => exact missesMatch_failed rfl
  | hello ht hr hs =>
      have hqueued := queueMessage_still c (c.message .kConnectAck 0 (BitVec.ofInt 64 now))
      have hmissed := (consecutiveMissed_of_evidence hqueued.evidence).trans
        (h.none (Or.inr (Or.inl hs)))
      exact missesMatch_zero (s := .kHealthy) hmissed rfl (by decide)
  | ack ht hr hs =>
      exact missesMatch_zero (s := .kHealthy) (h.none (Or.inr (Or.inl hs))) rfl (by decide)
  | pingAnswered captured ht hr hs =>
      have hheard : MissesMatch n (c.heard now captured) := ⟨h.none, h.some⟩
      exact hheard.still (queueMessage_still _ _)
  | pingHeld => exact ⟨h.none, h.some⟩
  | duplicate => exact h
  | untimely => exact ⟨h.none, h.some⟩
  | counted ht hr hs =>
      have hstate : ((c.rememberAckedSequence msg.sequence).countPong msg now).state =
          .kHealthy := hs
      exact missesMatch_zero rfl hstate (by decide)
  | recovered => exact missesMatch_zero (s := .kHealthy) rfl rfl (by decide)
  | closed => exact missesMatch_failed rfl
  | unknown => exact h

theorem MissesMatch.onReadable (h : MissesMatch n c) (cfg : Config) (recvs : List RecvOutcome)
    (now : Int) : MissesMatch n (c.onReadable cfg recvs now) := by
  refine onReadable_keeps (I := MissesMatch n) ?_ ?_ ?_ h recvs
  · intro d msg hd
    have hnoted : MissesMatch n (d.noteHandled msg) := ⟨hd.none, hd.some⟩
    exact hnoted.handleMessage cfg msg now
  · exact fun d r _ => missesMatch_failed rfl
  · exact fun d buf hd => ⟨hd.none, hd.some⟩

/-- A miss below the limit is the only way into `kDegraded`. -/
theorem MissesMatch.checkTimeout (h : MissesMatch n c) {cfg : Config}
    (hn : cfg.maxMissedHeartbeats = n) (now : Int) :
    MissesMatch n (c.checkTimeout cfg now).2 := by
  have hresult := checkTimeout_result cfg c now
  generalize c.checkTimeout cfg now = result at hresult ⊢
  cases hresult with
  | idle => exact h
  | attempting => exact h
  | attemptExpired => exact missesMatch_failed rfl
  | alive => exact h
  | silent => exact missesMatch_failed rfl
  | lastMiss => exact missesMatch_failed rfl
  | miss hs hr ht hbelow =>
      have hcount : 0 ≤ c.consecutiveMissed := by
        rcases hs with hs | hs
        · rw [h.none (Or.inr (Or.inr hs))]
        · exact Int.le_trans (by decide) (h.some hs).1
      constructor
      · rintro (hs | hs | hs) <;> cases hs
      · intro _
        show 1 ≤ c.consecutiveMissed + 1 ∧ c.consecutiveMissed + 1 ≤ n - 1
        omega

theorem MissesMatch.call (h : MissesMatch n c) (call : Call σ)
    (hn : call.cfg.maxMissedHeartbeats = n) : MissesMatch n (c.call call) := by
  obtain ⟨cfg, env, op⟩ := call
  have hin : MissesMatch n (c.withEnv env) := ⟨h.none, h.some⟩
  cases op with
  | onReadable recvs now => exact hin.onReadable cfg recvs now
  | checkTimeout now => exact hin.checkTimeout hn now
  | resetLivenessBaseline now => exact ⟨h.none, h.some⟩
  | rebind newFd now =>
      exact missesMatch_zero rfl rfl (startState_ne_degraded c.role)
  | _ => exact h.still (call_still c _ rfl)

/-- **The trust level matches the miss count**, in every state reachable under
a constant limit: whatever the peer sends, whatever ticks, PINGs, timeout
changes, failures and rebinds come in between. -/
theorem misses_match {n : Int} {c : Connection σ} (h : ReachedWith n c) : MissesMatch n c := by
  induction h with
  | fresh hfresh =>
      obtain ⟨fd, role, feedId, host, port, interceptor, env, now, rfl⟩ := hfresh.created
      exact missesMatch_zero rfl rfl (startState_ne_degraded role)
  | call _ call hn ih => exact ih.call call hn
  | @handled c _ env buf cfg hn msg now ih =>
      have hentered : MissesMatch n (((c.withEnv env).withRead buf).noteHandled msg) :=
        ⟨ih.none, ih.some⟩
      exact hentered.handleMessage cfg msg now

theorem ReachedWith.run {c : Connection σ} (h : ReachedWith n c) {calls : List (Call σ)}
    (hn : ∀ call ∈ calls, call.cfg.maxMissedHeartbeats = n) :
    ReachedWith n (calls.foldl Connection.call c) :=
  List.foldlRecOn calls _ h fun _ hd call hmem => hd.call call (hn call hmem)

/-- A handshake, and then nothing for longer than one timeout. -/
def silentPeer : List (Call Unit) :=
  let env : Env Unit := ⟨[.sent 28], fun _ => 0, ()⟩
  [⟨{}, env, .onWritable 0 1⟩,
    ⟨{}, env, .onReadable [.data (frameChunk { type := 2, feedId := 7 })] 2⟩,
    ⟨{}, env, .checkTimeout 4000000000⟩]

theorem misses_match_silent :
    let c : Connection Unit :=
      create 5 .kInitiator 7 "localhost" 9007 none ⟨[], fun _ => 0, ()⟩ 0
    (silentPeer.foldl Connection.call c).state = .kDegraded ∧
      MissesMatch 3 (silentPeer.foldl Connection.call c) :=
  ⟨by decide +kernel, misses_match (ReachedWith.run
    (.fresh ⟨⟨5, .kInitiator, 7, "localhost", 9007, none, _, 0, rfl⟩⟩)
    (by simp [silentPeer]))⟩

end Connection

end Vigil
