import Vigil.Calls

/-!
# Reachable states of a connection

`Reached` is every state a connection can be in, between calls and also
between two messages of one read.  What the later modules need of it is
`Reached.unused`: when a handshake completes, nothing of the previous attempt
is left.
-/

namespace Vigil

namespace Connection

variable {σ : Type}

/-- The states of a connection between calls and between the messages handled
in one call. -/
inductive Reached : Connection σ → Prop
  | fresh {c : Connection σ} (h : Fresh c) : Reached c
  | call {c : Connection σ} (h : Reached c) (call : Call σ) : Reached (c.call call)
  | handled {c : Connection σ} (h : Reached c) (env : Env σ) (buf : List ByteOrder.Byte)
      (cfg : Config) (msg : HeartbeatMessage) (now : Int) :
      Reached (((c.withEnv env).withRead buf).dispatch cfg msg now)

/-- The part of the state that is reset for every attempt and first used after
the handshake. -/
def attempt (c : Connection σ) :
    Int × BitVec 64 × RingBuffer (BitVec 64) kAckedSequenceWindow :=
  (c.consecutiveMissed, c.nextSequence, c.ackedSequences)

/-- Before its handshake is done, an initiator has counted no miss, sent no
PING and acked nothing. -/
def Unused (c : Connection σ) : Prop :=
  c.role = .kInitiator → c.state = .kConnecting ∨ c.state = .kHandshaking →
    c.consecutiveMissed = 0 ∧ c.nextSequence = 0 ∧ RingBuffer.Records c.ackedSequences []

/-- A step that can only leave the handshake, and otherwise keeps the fields. -/
theorem Unused.step {c c' : Connection σ} (h : Unused c) (hrole : c'.role = c.role)
    (hs : c'.state = .kConnecting ∨ c'.state = .kHandshaking →
      (c.state = .kConnecting ∨ c.state = .kHandshaking) ∧ c'.attempt = c.attempt) :
    Unused c' := by
  intro hr hopen
  obtain ⟨hbefore, heq⟩ := hs hopen
  obtain ⟨h1, h2, h3⟩ := h (hrole ▸ hr) hbefore
  refine ⟨?_, ?_, ?_⟩
  · exact (congrArg (fun a => a.1) heq).trans h1
  · exact (congrArg (fun a => a.2.1) heq).trans h2
  · have hring : c'.ackedSequences = c.ackedSequences := congrArg (fun a => a.2.2) heq
    rw [hring]
    exact h3

theorem queueMessage_attempt (c : Connection σ) (msg : HeartbeatMessage) :
    (c.queueMessage msg).attempt = c.attempt := by
  obtain ⟨w, hw, _⟩ := queueMessage_eq c msg
  rw [hw]
  rfl

theorem flushWriteBuffer_attempt (c : Connection σ) :
    c.flushWriteBuffer.attempt = c.attempt := by
  obtain ⟨w, hw, _⟩ := flushLoop_eq c.env.sends c
  rw [flushWriteBuffer, hw]
  rfl

theorem Unused.handleMessage {c : Connection σ} (h : Unused c) (cfg : Config)
    (msg : HeartbeatMessage) (now : Int) : Unused (c.handleMessage cfg msg now) := by
  refine h.step (role_of_identity (identity_of_core (handleMessage_core cfg c msg now))) ?_
  have hresult := handleMessage_result cfg c msg now
  generalize c.handleMessage cfg msg now = result at hresult ⊢
  cases hresult with
  | violation reason hreason hun => exact fun hopen => by rcases hopen with h | h <;> cases h
  | hello => exact fun hopen => by rcases hopen with h | h <;> cases h
  | ack => exact fun hopen => by rcases hopen with h | h <;> cases h
  | pingAnswered captured ht hr hs =>
      intro hopen
      rw [queueMessage_state] at hopen
      have hs' : (c.heard now captured).state = .kHealthy := hs
      rw [hs'] at hopen
      split at hopen <;> simp at hopen
  | pingHeld captured ht hr hs =>
      intro hopen
      have hopen' : c.state = .kConnecting ∨ c.state = .kHandshaking := hopen
      simp [hs] at hopen'
  | duplicate => exact fun hopen => ⟨hopen, rfl⟩
  | untimely ht hr hs =>
      intro hopen
      have hopen' : c.state = .kConnecting ∨ c.state = .kHandshaking := hopen
      rcases hs with hs | hs <;> simp [hs] at hopen'
  | counted ht hr hs =>
      intro hopen
      have hopen' : c.state = .kConnecting ∨ c.state = .kHandshaking := hopen
      simp [hs] at hopen'
  | recovered => exact fun hopen => by rcases hopen with h | h <;> cases h
  | closed => exact fun hopen => by rcases hopen with h | h <;> cases h
  | unknown => exact fun hopen => ⟨hopen, rfl⟩

theorem Unused.onReadable {c : Connection σ} (h : Unused c) (cfg : Config)
    (recvs : List RecvOutcome) (now : Int) : Unused (c.onReadable cfg recvs now) := by
  refine onReadable_keeps (I := Unused) ?_ ?_ ?_ h recvs
  · exact fun d msg hd => Unused.handleMessage (c := d.noteHandled msg) hd cfg msg now
  · exact fun d r _ _ hopen => by rcases hopen with h | h <;> cases h
  · exact fun d buf hd => hd

theorem Unused.onWritable {c : Connection σ} (h : Unused c) (soError : Nat) (now : Int) :
    Unused (c.onWritable soError now) := by
  refine h.step (role_of_identity (identity_of_core (onWritable_core c soError now))) ?_
  intro hopen
  unfold Connection.onWritable at hopen ⊢
  split at hopen
  · next hc =>
      refine ⟨Or.inl hc, ?_⟩
      rw [if_pos hc]
      split
      · rfl
      · dsimp only
        split
        · exact queueMessage_attempt (c.transitionTo .kHandshaking now) _
        · rfl
  · next hc =>
      rw [if_neg hc]
      refine ⟨?_, flushWriteBuffer_attempt c⟩
      rw [flushWriteBuffer_state] at hopen
      split at hopen
      · simp at hopen
      · exact hopen

theorem Unused.sendPing {c : Connection σ} (h : Unused c) (now : Int) :
    Unused (c.sendPing now) := by
  by_cases hg : c.role = .kInitiator ∧ (c.state = .kHealthy ∨ c.state = .kDegraded)
  · rw [sendPing_eq c now hg.1 hg.2]
    intro _ hopen
    have hopen' : (c.bumpSequence.queueMessage (c.pingMessage now)).state = .kConnecting ∨
        (c.bumpSequence.queueMessage (c.pingMessage now)).state = .kHandshaking := hopen
    have hs : c.bumpSequence.state = c.state := rfl
    rw [queueMessage_state, hs] at hopen'
    split at hopen'
    · simp at hopen'
    · rcases hg.2 with hg | hg <;> simp [hg] at hopen'
  · rw [sendPing_idle c now hg]
    exact h

theorem Unused.call {c : Connection σ} (h : Unused c) (call : Call σ) : Unused (c.call call) := by
  obtain ⟨cfg, env, op⟩ := call
  have hin : Unused (c.withEnv env) := h
  cases op with
  | onReadable recvs now => exact hin.onReadable cfg recvs now
  | onWritable soError now => exact hin.onWritable soError now
  | onHangupOrError errno now => exact fun _ hopen => by rcases hopen with h | h <;> cases h
  | sendPing now => exact hin.sendPing now
  | sendPong sequence timestampNs =>
      show Unused ((c.withEnv env).sendPong sequence timestampNs)
      intro hr
      have hcore := sendPong_core (c.withEnv env) sequence timestampNs
      have hrole := (role_of_identity (identity_of_core hcore)).symm.trans hr
      rw [sendPong, if_pos (by simp [hrole])]
      exact hin hrole
  | checkTimeout now =>
      show Unused ((c.withEnv env).checkTimeout cfg now).2
      have hresult := checkTimeout_result cfg (c.withEnv env) now
      generalize (c.withEnv env).checkTimeout cfg now = result at hresult ⊢
      cases hresult with
      | idle => exact hin
      | attempting => exact hin
      | alive => exact hin
      | _ => exact fun _ hopen => by rcases hopen with h | h <;> cases h
  | resetLivenessBaseline now => exact h
  | rebind newFd now => exact fun _ _ => ⟨rfl, rfl, RingBuffer.records_reset _⟩

theorem Reached.unused {c : Connection σ} (h : Reached c) : Unused c := by
  induction h with
  | fresh hfresh =>
      obtain ⟨fd, role, feedId, host, port, interceptor, env, now, rfl⟩ := hfresh.created
      exact fun _ _ => ⟨rfl, rfl, RingBuffer.records_fresh 0 (by decide)⟩
  | call _ call ih => exact ih.call call
  | @handled c _ env buf cfg msg now ih =>
      exact Unused.handleMessage (c := ((c.withEnv env).withRead buf).noteHandled msg) ih cfg msg now

end Connection

end Vigil
