import Vigil.Reached
import Mathlib.Tactic.Linarith

/-!
# The failure-detection window

Let an initiator have shown proof of life at time `L`: its handshake completed
or it accepted a PONG.  From then on `check_timeout` moves `last_liveness_ns_`
forward by one timeout per miss, so with `k` misses counted the next one is due
at `L + (k + 1) * T`.  This is the invariant `Silent`; neither PINGs nor PONGs
that are duplicate, late or from the future disturb it.

`failure_window` reads the documented bounds off it.
-/

namespace Vigil

namespace Connection

variable {σ : Type}

/-- The initiator has just shown that it is alive, at time `L`. -/
structure Alive (L : Int) (c : Connection σ) : Prop where
  role : c.role = .kInitiator
  state : c.state = .kHealthy
  liveness : c.lastLivenessNs = L
  missed : c.consecutiveMissed = 0

/-- Handling `msg` at `now` completes the handshake or counts a PONG. -/
def ShowsLife (cfg : Config) (c : Connection σ) (msg : HeartbeatMessage) (now : Int) : Prop :=
  (c.state = .kHandshaking ∧ (c.dispatch cfg msg now).state = .kHealthy) ∨
    (c.dispatch cfg msg now).stats.heartbeatsAcked = c.stats.heartbeatsAcked + 1

theorem alive_of_showsLife (cfg : Config) {c : Connection σ} (msg : HeartbeatMessage) (now : Int)
    (hreached : Reached c) (hrole : c.role = .kInitiator) (h : ShowsLife cfg c msg now) :
    Alive now (c.dispatch cfg msg now) := by
  have hresult := handleMessage_result cfg (c.noteHandled msg) msg now
  unfold ShowsLife at h
  rw [dispatch] at h ⊢
  generalize (c.noteHandled msg).handleMessage cfg msg now = result at hresult h ⊢
  have silent : ∀ s : Nat, s ≠ s + 1 := fun s => by omega
  cases hresult with
  | ack ht hr hs =>
      exact ⟨hrole, rfl, rfl, (hreached.unused hrole (Or.inr hs)).1⟩
  | counted ht hr hs => exact ⟨hrole, hs, rfl, rfl⟩
  | recovered ht hr hs => exact ⟨hrole, rfl, rfl, rfl⟩
  | violation reason hreason hun =>
      rcases h with ⟨_, h⟩ | h
      · cases h
      · exact absurd h (silent _)
  | hello ht hr => exact absurd (hrole.symm.trans hr) nofun
  | pingAnswered captured ht hr => exact absurd (hrole.symm.trans hr) nofun
  | pingHeld captured ht hr => exact absurd (hrole.symm.trans hr) nofun
  | duplicate ht hr hs =>
      have hs' : c.state = .kHealthy ∨ c.state = .kDegraded := hs
      rcases h with ⟨h, _⟩ | h
      · simp [h] at hs'
      · exact absurd h (silent _)
  | untimely ht hr hs =>
      have hs' : c.state = .kHealthy ∨ c.state = .kDegraded := hs
      rcases h with ⟨h, _⟩ | h
      · simp [h] at hs'
      · exact absurd h (silent _)
  | closed =>
      rcases h with ⟨_, h⟩ | h
      · cases h
      · exact absurd h (silent _)
  | unknown =>
      rcases h with ⟨h, h'⟩ | h
      · have h'' : c.state = .kHealthy := h'
        rw [h] at h''
        cases h''
      · exact absurd h (silent _)

/-! ## The window -/

/-- What happens while nothing proves that the peer is alive. -/
inductive WindowEvent (σ : Type) where
  | checkTimeout (now : Int)
  | sendPing (env : Env σ) (now : Int)
  | pong (msg : HeartbeatMessage) (now : Int)

def windowStep (cfg : Config) (c : Connection σ) : WindowEvent σ → Connection σ
  | .checkTimeout now => (c.checkTimeout cfg now).2
  | .sendPing env now => (c.withEnv env).sendPing now
  | .pong msg now => c.dispatch cfg msg now

/-- PINGs are sent successfully; PONGs are duplicates, too old or from the
future. -/
def WindowAdmits (cfg : Config) (c : Connection σ) : WindowEvent σ → Prop
  | .checkTimeout _ => True
  | .sendPing env _ => sendFails env.sends c.writePending.length = false
  | .pong msg now => MessageType.ofByte msg.type = some .kPong ∧
      (c.hasAckedSequence msg.sequence = true ∨ rttNs msg now < 0 ∨ cfg.timeoutNs ≤ rttNs msg now)

/-- The invariant: `k` misses have moved the liveness clock to `L + k * T`, and
the state says how many they are. -/
structure Silent (cfg : Config) (L : Int) (c : Connection σ) : Prop where
  role : c.role = .kInitiator
  liveness : c.lastLivenessNs = L + c.consecutiveMissed * cfg.timeoutNs
  state : (c.state = .kHealthy ∧ c.consecutiveMissed = 0) ∨
    (c.state = .kDegraded ∧ 0 < c.consecutiveMissed ∧
      c.consecutiveMissed < cfg.maxMissedHeartbeats) ∨
    (c.state = .kFailed ∧ 0 ≤ c.consecutiveMissed)

variable {cfg : Config} {L : Int}

theorem Silent.missed_nonneg {c : Connection σ} (h : Silent cfg L c) :
    0 ≤ c.consecutiveMissed := by
  rcases h.state with ⟨_, h⟩ | ⟨_, h, _⟩ | ⟨_, h⟩ <;> omega

theorem Silent.of_alive {c : Connection σ} (h : Alive L c) : Silent cfg L c :=
  ⟨h.role, by rw [h.missed, h.liveness]; omega, Or.inl ⟨h.state, h.missed⟩⟩

/-- A successful PING leaves the window alone. -/
theorem sendPing_quiet (c : Connection σ) (now : Int)
    (h : sendFails c.env.sends c.writePending.length = false) :
    (c.sendPing now).role = c.role ∧ (c.sendPing now).state = c.state ∧
      (c.sendPing now).lastLivenessNs = c.lastLivenessNs ∧
      (c.sendPing now).consecutiveMissed = c.consecutiveMissed := by
  by_cases hg : c.role = .kInitiator ∧ (c.state = .kHealthy ∨ c.state = .kDegraded)
  · rw [sendPing_eq c now hg.1 hg.2]
    obtain ⟨w, hw, hspec⟩ := queueMessage_eq c.bumpSequence (c.pingMessage now)
    have hquiet : w.state = c.state := (hspec.quiet h).1
    rw [hw]
    exact ⟨rfl, hquiet, rfl, rfl⟩
  · rw [sendPing_idle c now hg]
    exact ⟨rfl, rfl, rfl, rfl⟩

/-- A PONG that proves nothing leaves the window alone. -/
theorem pong_quiet {c : Connection σ} {msg : HeartbeatMessage} {now : Int}
    (h : WindowAdmits cfg c (.pong msg now)) (hrole : c.role = .kInitiator)
    (hs : c.state = .kHealthy ∨ c.state = .kDegraded ∨ c.state = .kFailed) :
    (c.dispatch cfg msg now).role = c.role ∧ (c.dispatch cfg msg now).state = c.state ∧
      (c.dispatch cfg msg now).lastLivenessNs = c.lastLivenessNs ∧
      (c.dispatch cfg msg now).consecutiveMissed = c.consecutiveMissed := by
  obtain ⟨ht, hbogus⟩ := h
  have hresult := handleMessage_result cfg (c.noteHandled msg) msg now
  rw [dispatch]
  generalize (c.noteHandled msg).handleMessage cfg msg now = result at hresult ⊢
  have hrtt : ¬ (c.hasAckedSequence msg.sequence = false ∧
      0 ≤ rttNs msg now ∧ rttNs msg now < cfg.timeoutNs) := by
    rintro ⟨hseen, hlow, hhigh⟩
    rcases hbogus with h | h | h
    · simp [hseen] at h
    · omega
    · omega
  cases hresult with
  | violation reason hreason hun =>
      refine ⟨rfl, ?_, rfl, rfl⟩
      have hun' : c.Unexpected msg := hun
      simp only [Unexpected, ht] at hun'
      have hfailed : c.state = .kFailed := by tauto
      exact hfailed.symm
  | hello ht' => simp [ht] at ht'
  | ack ht' => simp [ht] at ht'
  | pingAnswered captured ht' => simp [ht] at ht'
  | pingHeld captured ht' => simp [ht] at ht'
  | duplicate => exact ⟨rfl, rfl, rfl, rfl⟩
  | untimely => exact ⟨rfl, rfl, rfl, rfl⟩
  | counted ht' hr hs' hseen hr' => exact absurd ⟨hseen, hr'⟩ hrtt
  | recovered ht' hr hs' hseen hr' => exact absurd ⟨hseen, hr'⟩ hrtt
  | closed ht' => simp [ht] at ht'
  | unknown ht' => simp [ht] at ht'

/-- What one `check_timeout` does inside the window: nothing, or one miss that
is due. -/
theorem Silent.check {c : Connection σ} (h : Silent cfg L c) (now : Int) :
    (c.checkTimeout cfg now = (false, c) ∧
        (c.state = .kFailed ∨ now < L + (c.consecutiveMissed + 1) * cfg.timeoutNs)) ∨
      (c.state ≠ .kFailed ∧ L + (c.consecutiveMissed + 1) * cfg.timeoutNs ≤ now ∧
        ((c.consecutiveMissed + 1 < cfg.maxMissedHeartbeats ∧
          c.checkTimeout cfg now = (false, (c.countMiss cfg).transitionTo .kDegraded now)) ∨
        (cfg.maxMissedHeartbeats ≤ c.consecutiveMissed + 1 ∧
          c.checkTimeout cfg now = (true, (c.countMiss cfg).transitionTo .kFailed now)))) := by
  have hdue : ∀ t : Int, cfg.timeoutNs ≤ t - c.lastLivenessNs →
      L + (c.consecutiveMissed + 1) * cfg.timeoutNs ≤ t := by
    intro t ht
    rw [h.liveness] at ht
    linarith
  have hresult := checkTimeout_result cfg c now
  generalize c.checkTimeout cfg now = result at hresult ⊢
  have hnot : ¬ (c.state = .kConnecting ∨ c.state = .kHandshaking) := by
    rcases h.state with ⟨hs, _⟩ | ⟨hs, _⟩ | ⟨hs, _⟩ <;> simp [hs]
  have hlive (hs : c.state = .kHealthy ∨ c.state = .kDegraded) : c.state ≠ .kFailed := by
    rcases hs with hs | hs <;> simp [hs]
  cases hresult with
  | idle hs =>
      refine Or.inl ⟨rfl, Or.inl ?_⟩
      rcases h.state with ⟨h', _⟩ | ⟨h', _⟩ | ⟨h', _⟩
      · exact absurd h' hs.2.2.1
      · exact absurd h' hs.2.2.2
      · exact h'
  | attempting hs => exact absurd hs hnot
  | attemptExpired hs => exact absurd hs hnot
  | alive hs ht =>
      refine Or.inl ⟨rfl, Or.inr ?_⟩
      rw [h.liveness] at ht
      linarith
  | silent hs hr => exact absurd (h.role.symm.trans hr) nofun
  | lastMiss hs hr ht hn => exact Or.inr ⟨hlive hs, hdue now ht, Or.inr ⟨hn, rfl⟩⟩
  | miss hs hr ht hn => exact Or.inr ⟨hlive hs, hdue now ht, Or.inl ⟨hn, rfl⟩⟩

theorem Silent.step {c : Connection σ} (h : Silent cfg L c) (e : WindowEvent σ)
    (hadm : WindowAdmits cfg c e) : Silent cfg L (windowStep cfg c e) := by
  have keep : ∀ d : Connection σ, (d.role = c.role ∧ d.state = c.state ∧
      d.lastLivenessNs = c.lastLivenessNs ∧ d.consecutiveMissed = c.consecutiveMissed) →
      Silent cfg L d := by
    rintro d ⟨hr, hs, hl, hm⟩
    exact ⟨hr.trans h.role, by rw [hl, hm, h.liveness], by rw [hs, hm]; exact h.state⟩
  have hliveness : c.lastLivenessNs + cfg.timeoutNs =
      L + (c.consecutiveMissed + 1) * cfg.timeoutNs := by
    rw [h.liveness]
    ring
  have hnonneg := h.missed_nonneg
  cases e with
  | checkTimeout now =>
      show Silent cfg L (c.checkTimeout cfg now).2
      rcases h.check now with ⟨he, _⟩ | ⟨_, _, ⟨hn, he⟩ | ⟨hn, he⟩⟩ <;> rw [he]
      · exact h
      · exact ⟨h.role, hliveness, Or.inr (Or.inl ⟨rfl, Int.lt_add_one_of_le hnonneg, hn⟩)⟩
      · exact ⟨h.role, hliveness, Or.inr (Or.inr ⟨rfl, by
          show 0 ≤ c.consecutiveMissed + 1
          omega⟩)⟩
  | sendPing env now => exact keep _ (sendPing_quiet (c.withEnv env) now hadm)
  | pong msg now =>
      refine keep _ (pong_quiet hadm h.role ?_)
      rcases h.state with ⟨hs, _⟩ | ⟨hs, _⟩ | ⟨hs, _⟩ <;> simp [hs]

/-! ## The bounds -/

/-- What the window promises of one step: no change of state before `L + T`, no
failure before `L + N * T`, and `true` from exactly the check that fails. -/
def InWindow (cfg : Config) (L : Int) (c : Connection σ) : WindowEvent σ → Prop
  | .checkTimeout now =>
      (now < L + cfg.timeoutNs → (c.checkTimeout cfg now).2.state = c.state) ∧
      (now < L + cfg.maxMissedHeartbeats * cfg.timeoutNs →
        (c.checkTimeout cfg now).2.state = .kFailed → c.state = .kFailed) ∧
      ((c.checkTimeout cfg now).1 = true ↔
        c.state ≠ .kFailed ∧ (c.checkTimeout cfg now).2.state = .kFailed)
  | e => (windowStep cfg c e).state = c.state

theorem Silent.inWindow {c : Connection σ} (h : Silent cfg L c) (hT : 0 < cfg.timeoutNs)
    (e : WindowEvent σ) (hadm : WindowAdmits cfg c e) : InWindow cfg L c e := by
  cases e with
  | checkTimeout now =>
      have hk := h.missed_nonneg
      have hfirst : L + cfg.timeoutNs ≤ L + (c.consecutiveMissed + 1) * cfg.timeoutNs := by
        have := mul_nonneg hk hT.le
        linarith
      show (_ → _) ∧ (_ → _) ∧ (_ ↔ _)
      rcases h.check now with ⟨he, _⟩ | ⟨hlive, hdue, ⟨hn, he⟩ | ⟨hn, he⟩⟩ <;> rw [he]
      · refine ⟨fun _ => rfl, fun _ hf => hf, ?_⟩
        simp
      · refine ⟨fun hearly => by omega, ?_, ?_⟩
        · intro _ hf
          cases hf
        · simp [transitionTo]
      · refine ⟨fun hearly => by omega, fun hearly _ => ?_, ?_⟩
        · have hmul := mul_le_mul_of_nonneg_right hn hT.le
          omega
        · simp [hlive, transitionTo]
  | sendPing env now => exact (sendPing_quiet (c.withEnv env) now hadm).2.1
  | pong msg now =>
      refine (pong_quiet hadm h.role ?_).2.1
      rcases h.state with ⟨hs, _⟩ | ⟨hs, _⟩ | ⟨hs, _⟩ <;> simp [hs]

/-- A check made at or after `deadline`. -/
def isLate (deadline : Int) : WindowEvent σ → Bool
  | .checkTimeout now => deadline ≤ now
  | _ => false

/-- Every late check of a connection that has not failed counts a miss. -/
theorem Silent.late {c : Connection σ} (h : Silent cfg L c) (hT : 0 < cfg.timeoutNs)
    (hN : 1 ≤ cfg.maxMissedHeartbeats) (e : WindowEvent σ) (hadm : WindowAdmits cfg c e) :
    (windowStep cfg c e).state = .kFailed ∨
      c.consecutiveMissed +
        (if isLate (L + cfg.maxMissedHeartbeats * cfg.timeoutNs) e then 1 else 0) ≤
          (windowStep cfg c e).consecutiveMissed := by
  cases e with
  | checkTimeout now =>
      show (c.checkTimeout cfg now).2.state = .kFailed ∨
        _ ≤ (c.checkTimeout cfg now).2.consecutiveMissed
      rcases h.check now with ⟨he, hfailed | hearly⟩ | ⟨hlive, hdue, ⟨hn, he⟩ | ⟨hn, he⟩⟩
      · left
        rw [he]
        exact hfailed
      · by_cases hfailed : c.state = .kFailed
        · left
          rw [he]
          exact hfailed
        · right
          have hk : c.consecutiveMissed + 1 ≤ cfg.maxMissedHeartbeats := by
            rcases h.state with ⟨_, hm⟩ | ⟨_, _, hm⟩ | ⟨hs, _⟩
            · omega
            · omega
            · exact absurd hs hfailed
          have hmul := mul_le_mul_of_nonneg_right hk hT.le
          have hnot : ¬ L + cfg.maxMissedHeartbeats * cfg.timeoutNs ≤ now := by omega
          rw [he]
          simp [isLate, hnot]
      · right
        rw [he]
        show _ ≤ c.consecutiveMissed + 1
        split <;> omega
      · left
        rw [he]
        rfl
  | sendPing env now =>
      right
      have hmissed : (windowStep cfg c (.sendPing env now)).consecutiveMissed =
          c.consecutiveMissed := (sendPing_quiet (c.withEnv env) now hadm).2.2.2
      simp [hmissed, isLate]
  | pong msg now =>
      right
      have hs : c.state = .kHealthy ∨ c.state = .kDegraded ∨ c.state = .kFailed := by
        rcases h.state with ⟨hs, _⟩ | ⟨hs, _⟩ | ⟨hs, _⟩ <;> simp [hs]
      have hmissed : (windowStep cfg c (.pong msg now)).consecutiveMissed =
          c.consecutiveMissed := (pong_quiet hadm h.role hs).2.2.2
      simp [hmissed, isLate]

/-- A failed connection stays failed. -/
theorem Silent.stays_failed {c : Connection σ} (h : Silent cfg L c) (hT : 0 < cfg.timeoutNs)
    (e : WindowEvent σ) (hadm : WindowAdmits cfg c e) (hfailed : c.state = .kFailed) :
    (windowStep cfg c e).state = .kFailed := by
  have hin := h.inWindow hT e hadm
  cases e with
  | checkTimeout now =>
      show (c.checkTimeout cfg now).2.state = .kFailed
      rcases h.check now with ⟨he, _⟩ | ⟨hlive, _⟩
      · rw [he]
        exact hfailed
      · exact absurd hfailed hlive
  | sendPing env now => exact hin.trans hfailed
  | pong msg now => exact hin.trans hfailed

/-- The number of misses after a run, if it did not fail. -/
theorem Silent.run_late (hT : 0 < cfg.timeoutNs) (hN : 1 ≤ cfg.maxMissedHeartbeats)
    (events : List (WindowEvent σ)) (c : Connection σ) (h : Silent cfg L c)
    (hrun : Runs.Along (windowStep cfg) (WindowAdmits cfg) c events) :
    (events.foldl (windowStep cfg) c).state = .kFailed ∨
      c.consecutiveMissed + ((events.filter
        (isLate (L + cfg.maxMissedHeartbeats * cfg.timeoutNs))).length : Int) ≤
          (events.foldl (windowStep cfg) c).consecutiveMissed := by
  induction events generalizing c with
  | nil => right; simp
  | cons e rest ih =>
      have hnext := h.step e hrun.1
      rcases ih (windowStep cfg c e) hnext hrun.2 with hend | hend
      · exact Or.inl hend
      · rcases h.late hT hN e hrun.1 with hfailed | hmiss
        · left
          have hstay := Runs.invariant (I := fun d => Silent cfg L d ∧ d.state = .kFailed)
            (fun d a hd hadm => ⟨hd.1.step a hadm, hd.1.stays_failed hT a hadm hd.2⟩)
            ⟨hnext, hfailed⟩ hrun.2
          exact hstay.2
        · right
          rw [List.foldl_cons, List.filter_cons]
          split at hmiss
          · next hlate =>
              rw [if_pos hlate, List.length_cons]
              push_cast
              omega
          · next hlate =>
              rw [if_neg hlate]
              omega

/-- What the `check_timeout` calls of a run return. -/
def verdicts (cfg : Config) : Connection σ → List (WindowEvent σ) → List Bool
  | _, [] => []
  | c, .checkTimeout now :: rest =>
      (c.checkTimeout cfg now).1 :: verdicts cfg (c.checkTimeout cfg now).2 rest
  | c, e :: rest => verdicts cfg (windowStep cfg c e) rest

theorem verdicts_count (hT : 0 < cfg.timeoutNs) (events : List (WindowEvent σ))
    (c : Connection σ) (h : Silent cfg L c)
    (hrun : Runs.Along (windowStep cfg) (WindowAdmits cfg) c events) :
    (verdicts cfg c events).count true ≤ if c.state = .kFailed then 0 else 1 := by
  induction events generalizing c with
  | nil => simp [verdicts]
  | cons e rest ih =>
      have hnext := ih (windowStep cfg c e) (h.step e hrun.1) hrun.2
      have hin := h.inWindow hT e hrun.1
      have hstay := h.stays_failed hT e hrun.1
      cases e with
      | checkTimeout now =>
          have hnext' : (verdicts cfg (c.checkTimeout cfg now).2 rest).count true ≤
              if (c.checkTimeout cfg now).2.state = .kFailed then 0 else 1 := hnext
          have hstay' : c.state = .kFailed → (c.checkTimeout cfg now).2.state = .kFailed := hstay
          rw [verdicts, List.count_cons]
          obtain ⟨_, _, hiff⟩ := hin
          by_cases htrue : (c.checkTimeout cfg now).1 = true
          · obtain ⟨hlive, hfailed⟩ := hiff.mp htrue
            rw [if_pos hfailed] at hnext'
            rw [if_neg hlive, htrue]
            simpa using hnext'
          · simp only [htrue]
            by_cases hfailed : c.state = .kFailed
            · rw [if_pos (hstay' hfailed)] at hnext'
              rw [if_pos hfailed]
              simpa using hnext'
            · rw [if_neg hfailed]
              split at hnext' <;> simp <;> omega
      | sendPing env now =>
          rw [hin] at hnext
          exact hnext
      | pong msg now =>
          rw [hin] at hnext
          exact hnext

/-- An initiator whose HELLO is out. -/
def helloSent : Connection Unit :=
  (create 5 .kInitiator 7 "127.0.0.1" 9000 none ⟨[], fun _ => 0, ()⟩ 0).call
    ⟨{}, ⟨[.sent 28], fun _ => 1, ()⟩, .onWritable 0 1⟩

/-- The CONNECT_ACK of feed 7. -/
def ackMessage : HeartbeatMessage :=
  { type := MessageType.kConnectAck.toByte, feedId := 7 }

/-- A PING, a PONG from the future and, after a stall, one check per allowed
miss. -/
def stalledFeed : List (WindowEvent Unit) :=
  [.sendPing ⟨[.sent 28], fun _ => 0, ()⟩ 10,
    .pong { type := MessageType.kPong.toByte, feedId := 7, timestampNs := 500 } 20,
    .checkTimeout 2999999999, .checkTimeout 90000000000, .checkTimeout 90000000000,
    .checkTimeout 90000000000]

end Connection

end Vigil
