import Vigil.Calls
import Vigil.Runs

/-!
# A rebound connection is as good as new

`rebind` leaves some of the old attempt behind: the array of acked sequences,
the statistics, the reports of earlier state changes, and a liveness stamp that
the constructor does not set.  `Alike past c f` relates a connection `c` with
such leftovers to one without: they agree in everything that decides what they
do, and differ by the constants `past` in what they have counted.  Every
operation keeps two alike connections alike.
-/

namespace Vigil

open ByteOrder

/-- What a connection has counted and reported before it was rebound. -/
structure Totals where
  reports : List Report
  heartbeatsSent : Nat
  heartbeatsAcked : Nat
  missed : Nat
  reconnects : Nat

namespace Connection

variable {σ : Type}

/-- `c` behaves as `f` does, and has `past` on top of its counts. -/
structure Alike (past : Totals) (c f : Connection σ) : Prop where
  fd : c.fd = f.fd
  role : c.role = f.role
  feedId : c.feedId = f.feedId
  state : c.state = f.state
  stateEnteredNs : c.stateEnteredNs = f.stateEnteredNs
  nextSequence : c.nextSequence = f.nextSequence
  consecutiveMissed : c.consecutiveMissed = f.consecutiveMissed
  /-- The stamp is first read after the handshake, which sets it. -/
  liveness : c.state = .kHealthy ∨ c.state = .kDegraded → c.lastLivenessNs = f.lastLivenessNs
  acked : ∃ xs, RingBuffer.Records c.ackedSequences xs ∧ RingBuffer.Records f.ackedSequences xs
  readAccum : c.readAccum = f.readAccum
  writePending : c.writePending = f.writePending
  pingInterceptor : c.pingInterceptor = f.pingInterceptor
  env : c.env = f.env
  queued : c.trace.queued = f.trace.queued
  accepted : c.trace.accepted = f.trace.accepted
  handled : c.trace.handled = f.trace.handled
  reports : c.trace.reports = past.reports ++ f.trace.reports
  connectedSinceNs : c.stats.connectedSinceNs = f.stats.connectedSinceNs
  heartbeatsSent : c.stats.heartbeatsSent = past.heartbeatsSent + f.stats.heartbeatsSent
  heartbeatsAcked : c.stats.heartbeatsAcked = past.heartbeatsAcked + f.stats.heartbeatsAcked
  missed : c.stats.missed = past.missed + f.stats.missed
  reconnects : c.stats.reconnects = past.reconnects + f.stats.reconnects

namespace Alike

variable {past : Totals} {c f c' f' : Connection σ}

/-- Both take the same branch. -/
theorem ite {P : Prop} [Decidable P] (hpos : P → Alike past c f) (hneg : ¬ P → Alike past c' f') :
    Alike past (if P then c else c') (if P then f else f') := by
  split
  · exact hpos ‹P›
  · exact hneg ‹¬ P›

theorem withEnv (h : Alike past c f) (env : Env σ) :
    Alike past (c.withEnv env) (f.withEnv env) :=
  { h with env := rfl }

theorem report (h : Alike past c f) (r : Report) : Alike past (c.report r) (f.report r) :=
  { h with reports := by simp [Connection.report, h.reports] }

/-- The two go on to the same state; if it is an established one, their
liveness stamps agree. -/
theorem transitionTo (h : Alike past c f) (s : ConnectionState) (now : Int)
    (hlive : s = .kHealthy ∨ s = .kDegraded → c.lastLivenessNs = f.lastLivenessNs) :
    Alike past (c.transitionTo s now) (f.transitionTo s now) :=
  { h with
    state := rfl
    stateEnteredNs := rfl
    liveness := hlive
    reports := by simp [Connection.transitionTo, Connection.report, h.reports, h.state] }

theorem handleSocketError (h : Alike past c f) (now : Int) (errno : Nat) :
    Alike past (c.handleSocketError now errno) (f.handleSocketError now errno) :=
  (h.report _).transitionTo .kFailed now (by simp)

theorem handlePeerClosed (h : Alike past c f) (now : Int) :
    Alike past (c.handlePeerClosed now) (f.handlePeerClosed now) :=
  (h.report _).transitionTo .kFailed now (by simp)

theorem handleProtocolViolation (h : Alike past c f) (reason : ViolationReason) (now : Int) :
    Alike past (c.handleProtocolViolation reason now) (f.handleProtocolViolation reason now) :=
  (h.report _).transitionTo .kFailed now (by simp)

/-! ## The write path -/

theorem withSends (h : Alike past c f) (sends : List SendOutcome) :
    Alike past (c.withSends sends) (f.withSends sends) :=
  { h with env := by simp [Connection.withSends, h.env] }

theorem tickClock (h : Alike past c f) : Alike past c.tickClock f.tickClock :=
  { h with env := by simp [Connection.tickClock, h.env] }

theorem acceptBytes (h : Alike past c f) (n : Nat) :
    Alike past (c.acceptBytes n) (f.acceptBytes n) :=
  { h with
    writePending := by simp [Connection.acceptBytes, h.writePending]
    accepted := by simp [Connection.acceptBytes, h.writePending, h.accepted] }

theorem flushLoop (outcomes : List SendOutcome) (h : Alike past c f) :
    Alike past (Connection.flushLoop outcomes c) (Connection.flushLoop outcomes f) := by
  induction outcomes generalizing c f with
  | nil => exact h.withSends []
  | cons outcome rest ih =>
      unfold Connection.flushLoop
      rw [h.writePending]
      refine Alike.ite (fun _ => h.withSends _) fun _ => ?_
      cases outcome with
      | sent n =>
          refine Alike.ite (fun _ => ?_) fun _ => ?_
          · exact Alike.ite (fun _ => (h.acceptBytes n).withSends rest) fun _ => ih (h.acceptBytes n)
          · rw [h.env]
            exact (h.withSends rest).tickClock.handleSocketError _ 0
      | eagain => exact h.withSends rest
      | eintr => exact ih h
      | error errno =>
          dsimp only
          rw [h.env]
          exact (h.withSends rest).tickClock.handleSocketError _ errno

theorem flushWriteBuffer (h : Alike past c f) :
    Alike past c.flushWriteBuffer f.flushWriteBuffer := by
  unfold Connection.flushWriteBuffer
  rw [h.env]
  exact flushLoop _ h

theorem queueMessage (h : Alike past c f) (msg : HeartbeatMessage) :
    Alike past (c.queueMessage msg) (f.queueMessage msg) := by
  have hqueued : Alike past
      { c.noteQueued msg with writePending := c.writePending ++ (encodeHeartbeat msg).bytes }
      { f.noteQueued msg with writePending := f.writePending ++ (encodeHeartbeat msg).bytes } :=
    { h with
      queued := by simp [noteQueued, h.queued]
      writePending := by simp [h.writePending] }
  have hbranch : ∀ {qc qf : Connection σ}, Alike past qc qf →
      Alike past
        (if (c.writePending ++ (encodeHeartbeat msg).bytes).length > kMaxWritePendingBytes then
          qc.tickClock.handleProtocolViolation .writePendingExceeded (c.env.clock 0)
        else if c.writePending = [] then qc.flushWriteBuffer else qc)
        (if (f.writePending ++ (encodeHeartbeat msg).bytes).length > kMaxWritePendingBytes then
          qf.tickClock.handleProtocolViolation .writePendingExceeded (f.env.clock 0)
        else if f.writePending = [] then qf.flushWriteBuffer else qf) := by
    intro qc qf hq
    rw [h.writePending, h.env]
    refine Alike.ite (fun _ => hq.tickClock.handleProtocolViolation _ _) fun _ => ?_
    exact Alike.ite (fun _ => hq.flushWriteBuffer) fun _ => hq
  exact hbranch hqueued

theorem message (h : Alike past c f) (type : MessageType) (sequence timestampNs : BitVec 64) :
    c.message type sequence timestampNs = f.message type sequence timestampNs := by
  simp [Connection.message, h.feedId]

theorem sendPong (h : Alike past c f) (sequence timestampNs : BitVec 64) :
    Alike past (c.sendPong sequence timestampNs) (f.sendPong sequence timestampNs) := by
  unfold Connection.sendPong
  rw [h.role, h.state, h.message]
  exact Alike.ite (fun _ => h) fun _ => h.queueMessage _

/-! ## Messages -/

theorem completeHandshake (h : Alike past c f) (now : Int) :
    Alike past (c.completeHandshake now) (f.completeHandshake now) := by
  have hstamped : Alike past
      { c with lastLivenessNs := now, stats := { c.stats with connectedSinceNs := now } }
      { f with lastLivenessNs := now, stats := { f.stats with connectedSinceNs := now } } :=
    { h with liveness := fun _ => rfl, connectedSinceNs := rfl }
  exact hstamped.transitionTo .kHealthy now fun _ => rfl

theorem handleConnectHello (h : Alike past c f) (msg : HeartbeatMessage) (now : Int) :
    Alike past (c.handleConnectHello msg now) (f.handleConnectHello msg now) := by
  unfold Connection.handleConnectHello
  rw [h.role, h.state, h.feedId, h.message]
  refine Alike.ite (fun _ => h.handleProtocolViolation _ now) fun _ => ?_
  refine Alike.ite (fun _ => h.handleProtocolViolation _ now) fun _ => ?_
  exact (h.queueMessage _).completeHandshake now

theorem handleConnectAck (h : Alike past c f) (msg : HeartbeatMessage) (now : Int) :
    Alike past (c.handleConnectAck msg now) (f.handleConnectAck msg now) := by
  have hcode : ∀ d : Connection σ, d.handleConnectAck msg now =
      if d.role ≠ .kInitiator ∨ d.state ≠ .kHandshaking then
        d.handleProtocolViolation .unexpectedConnectAck now
      else if msg.feedId ≠ d.feedId then d.handleProtocolViolation .connectAckMismatch now
      else d.completeHandshake now := fun _ => rfl
  rw [hcode, hcode, h.role, h.state, h.feedId]
  refine Alike.ite (fun _ => h.handleProtocolViolation _ now) fun _ => ?_
  exact Alike.ite (fun _ => h.handleProtocolViolation _ now) fun _ => h.completeHandshake now

theorem askInterceptor (h : Alike past c f) (msg : HeartbeatMessage) (now : Int) :
    (c.askInterceptor msg now).1 = (f.askInterceptor msg now).1 ∧
      Alike past (c.askInterceptor msg now).2 (f.askInterceptor msg now).2 := by
  have hc := h.pingInterceptor
  cases hf : f.pingInterceptor with
  | none =>
      rw [hf] at hc
      simp only [Connection.askInterceptor, hc, hf]
      exact ⟨trivial, { h with liveness := fun _ => rfl, pingInterceptor := rfl }⟩
  | some intercept =>
      rw [hf] at hc
      simp only [Connection.askInterceptor, hc, hf, h.env]
      exact ⟨trivial, { h with
        liveness := fun _ => rfl
        pingInterceptor := rfl
        env := rfl }⟩

theorem handlePing (h : Alike past c f) (msg : HeartbeatMessage) (now : Int) :
    Alike past (c.handlePing msg now) (f.handlePing msg now) := by
  obtain ⟨hanswer, hasked⟩ := h.askInterceptor msg now
  unfold Connection.handlePing
  rw [h.role, h.state, hanswer]
  refine Alike.ite (fun _ => h.handleProtocolViolation _ now) fun _ => ?_
  exact Alike.ite (fun _ => hasked.sendPong _ _) fun _ => hasked

theorem rememberAckedSequence (h : Alike past c f) (sequence : BitVec 64) :
    Alike past (c.rememberAckedSequence sequence) (f.rememberAckedSequence sequence) := by
  obtain ⟨xs, hc, hf⟩ := h.acked
  exact { h with acked := ⟨xs ++ [sequence], hc.push sequence, hf.push sequence⟩ }

theorem hasAckedSequence (h : Alike past c f) (sequence : BitVec 64) :
    c.hasAckedSequence sequence = f.hasAckedSequence sequence := by
  obtain ⟨xs, hc, hf⟩ := h.acked
  exact hc.contains_eq hf sequence

theorem countPong (h : Alike past c f) (msg : HeartbeatMessage) (now : Int) :
    Alike past (c.countPong msg now) (f.countPong msg now) :=
  { h with
    consecutiveMissed := rfl
    liveness := fun _ => rfl
    heartbeatsAcked := by
      show c.stats.heartbeatsAcked + 1 = past.heartbeatsAcked + (f.stats.heartbeatsAcked + 1)
      rw [h.heartbeatsAcked]
      omega }

theorem handlePong (cfg : Config) (h : Alike past c f) (msg : HeartbeatMessage) (now : Int) :
    Alike past (c.handlePong cfg msg now) (f.handlePong cfg msg now) := by
  have hremembered := h.rememberAckedSequence msg.sequence
  unfold Connection.handlePong
  rw [h.role, h.state, h.hasAckedSequence]
  refine Alike.ite (fun _ => h.handleProtocolViolation _ now) fun _ => ?_
  refine Alike.ite (fun _ => h) fun _ => ?_
  refine Alike.ite (fun _ => hremembered) fun _ => ?_
  have hcounted := hremembered.countPong msg now
  exact Alike.ite (fun _ => hcounted.transitionTo .kHealthy now fun _ => rfl) fun _ => hcounted

theorem handleMessage (cfg : Config) (h : Alike past c f) (msg : HeartbeatMessage) (now : Int) :
    Alike past (c.handleMessage cfg msg now) (f.handleMessage cfg msg now) := by
  unfold Connection.handleMessage
  cases MessageType.ofByte msg.type with
  | none => exact h
  | some type =>
      cases type with
      | kConnectHello => exact h.handleConnectHello msg now
      | kConnectAck => exact h.handleConnectAck msg now
      | kPing => exact h.handlePing msg now
      | kPong => exact h.handlePong cfg msg now
      | kDisconnect => exact h.handlePeerClosed now

theorem dispatch (cfg : Config) (h : Alike past c f) (msg : HeartbeatMessage) (now : Int) :
    Alike past (c.dispatch cfg msg now) (f.dispatch cfg msg now) := by
  have hnoted : Alike past (c.noteHandled msg) (f.noteHandled msg) :=
    { h with handled := by simp [noteHandled, h.handled] }
  exact hnoted.handleMessage cfg msg now

/-! ## Reading -/

theorem feedFrame (cfg : Config) (now : Int) (h : Alike past c f) (frame : List Byte) :
    Alike past (Connection.feedFrame cfg now c frame) (Connection.feedFrame cfg now f frame) := by
  unfold Connection.feedFrame
  split
  · exact Alike.ite (fun _ => h.dispatch cfg _ now) fun _ => h.handleProtocolViolation _ now
  · exact h

theorem withRead (h : Alike past c f) (buf : List Byte) :
    Alike past (c.withRead buf) (f.withRead buf) :=
  { h with readAccum := rfl }

theorem drainReadBuffer (cfg : Config) (h : Alike past c f) (now : Int) :
    Alike past (c.drainReadBuffer cfg now) (f.drainReadBuffer cfg now) := by
  have hdead : ∀ d e : Connection σ, Alike past d e → d.failed = e.failed := by
    intro d e hde
    simp only [Connection.failed, hde.state]
  obtain ⟨hfed, hrest⟩ := Framing.drain_lockstep (n := kHeartbeatMessageSize) (by decide)
    (fun d e frame hde => hde.feedFrame cfg now frame) hdead f.readAccum h
  rw [drainReadBuffer_eq, drainReadBuffer_eq, h.readAccum, hrest]
  exact hfed.withRead _

theorem recvLoop (now : Int) (recvs : List RecvOutcome) (h : Alike past c f) :
    Alike past (Connection.recvLoop now recvs c).1 (Connection.recvLoop now recvs f).1 ∧
      (Connection.recvLoop now recvs c).2 = (Connection.recvLoop now recvs f).2 := by
  induction recvs generalizing c f with
  | nil => exact ⟨h, rfl⟩
  | cons outcome rest ih =>
      cases outcome with
      | data chunk =>
          have happended : Alike past (c.withRead (f.readAccum ++ chunk.val))
              (f.withRead (f.readAccum ++ chunk.val)) := h.withRead _
          by_cases hcap : (f.readAccum ++ chunk.val).length > kMaxReadAccumBytes
          · simp only [Connection.recvLoop, h.readAccum, if_pos hcap]
            exact ⟨happended.handleProtocolViolation _ now, trivial⟩
          · simp only [Connection.recvLoop, h.readAccum, if_neg hcap]
            exact ih happended
      | eof => exact ⟨h, rfl⟩
      | eagain => exact ⟨h, rfl⟩
      | eintr => exact ih h
      | error errno => exact ⟨h, rfl⟩

theorem finishRead (h : Alike past c f) (ending : RecvEnd) (now : Int) :
    Alike past (c.finishRead ending now) (f.finishRead ending now) := by
  unfold Connection.finishRead
  rw [h.state]
  refine Alike.ite (fun _ => h) fun _ => ?_
  cases ending with
  | drained => exact h
  | peerClosed => exact h.handlePeerClosed now
  | socketError errno => exact h.handleSocketError now errno

theorem onReadable (cfg : Config) (h : Alike past c f) (recvs : List RecvOutcome) (now : Int) :
    Alike past (c.onReadable cfg recvs now) (f.onReadable cfg recvs now) := by
  obtain ⟨hreceived, hend⟩ := h.recvLoop now recvs
  unfold Connection.onReadable
  generalize Connection.recvLoop now recvs c = rc at hreceived hend ⊢
  generalize Connection.recvLoop now recvs f = rf at hreceived hend ⊢
  obtain ⟨received, ending⟩ := rc
  obtain ⟨received', ending'⟩ := rf
  subst hend
  cases ending with
  | none => exact hreceived
  | some ending => exact (hreceived.drainReadBuffer cfg now).finishRead ending now

/-! ## The other operations -/

theorem onWritable (h : Alike past c f) (soError : Nat) (now : Int) :
    Alike past (c.onWritable soError now) (f.onWritable soError now) := by
  unfold Connection.onWritable
  rw [h.state, h.role, h.message]
  refine Alike.ite (fun _ => ?_) fun _ => h.flushWriteBuffer
  refine Alike.ite (fun _ => h.handleSocketError now soError) fun _ => ?_
  have hconnected := h.transitionTo .kHandshaking now (by simp)
  exact Alike.ite (fun _ => hconnected.queueMessage _) fun _ => hconnected

theorem sendPing (h : Alike past c f) (now : Int) : Alike past (c.sendPing now) (f.sendPing now) := by
  by_cases hguard : f.role = .kInitiator ∧ (f.state = .kHealthy ∨ f.state = .kDegraded)
  · have hguard' : c.role = .kInitiator ∧ (c.state = .kHealthy ∨ c.state = .kDegraded) := by
      rw [h.role, h.state]
      exact hguard
    have hmessage : c.pingMessage now = f.pingMessage now := by
      rw [pingMessage, pingMessage, h.message, h.nextSequence]
    have hbumped : Alike past c.bumpSequence f.bumpSequence :=
      { h with nextSequence := by simp [bumpSequence, h.nextSequence] }
    have hsent := hbumped.queueMessage (f.pingMessage now)
    rw [sendPing_eq c now hguard'.1 hguard'.2, sendPing_eq f now hguard.1 hguard.2, hmessage]
    exact { hsent with
      heartbeatsSent := by
        have hcount := hsent.heartbeatsSent
        simp only [countPing, ConnectionStats.recordPingSent]
        omega }
  · have hguard' : ¬ (c.role = .kInitiator ∧ (c.state = .kHealthy ∨ c.state = .kDegraded)) := by
      rw [h.role, h.state]
      exact hguard
    rw [sendPing_idle c now hguard', sendPing_idle f now hguard]
    exact h

theorem countMiss (cfg : Config) (h : Alike past c f)
    (hlive : c.lastLivenessNs = f.lastLivenessNs) :
    Alike past (c.countMiss cfg) (f.countMiss cfg) :=
  { h with
    consecutiveMissed := by simp [Connection.countMiss, h.consecutiveMissed]
    liveness := fun _ => by simp [Connection.countMiss, hlive]
    missed := by
      have hcount := h.missed
      simp only [Connection.countMiss, ConnectionStats.recordMissed]
      omega }

/-- While a connection is being set up, both wait since they entered the state. -/
theorem attemptTimeout (cfg : Config) (h : Alike past c f) (now : Int) :
    (if now - c.stateEnteredNs ≥ cfg.timeoutNs then (true, c.transitionTo .kFailed now)
      else (false, c)).1 =
      (if now - f.stateEnteredNs ≥ cfg.timeoutNs then (true, f.transitionTo .kFailed now)
      else (false, f)).1 ∧
    Alike past
      (if now - c.stateEnteredNs ≥ cfg.timeoutNs then (true, c.transitionTo .kFailed now)
        else (false, c)).2
      (if now - f.stateEnteredNs ≥ cfg.timeoutNs then (true, f.transitionTo .kFailed now)
        else (false, f)).2 := by
  rw [h.stateEnteredNs]
  split
  · exact ⟨rfl, h.transitionTo .kFailed now (by simp)⟩
  · exact ⟨rfl, h⟩

/-- Once it is established, both wait since the last sign of life. -/
theorem silenceTimeout (cfg : Config) (h : Alike past c f) (now : Int)
    (hlive : c.lastLivenessNs = f.lastLivenessNs) :
    let verdict (d : Connection σ) : Bool × Connection σ :=
      if d.role = .kInitiator then
        if now - d.lastLivenessNs ≥ cfg.timeoutNs then
          if (d.countMiss cfg).consecutiveMissed ≥ cfg.maxMissedHeartbeats then
            (true, (d.countMiss cfg).transitionTo .kFailed now)
          else (false, (d.countMiss cfg).transitionTo .kDegraded now)
        else (false, d)
      else if now - d.lastLivenessNs ≥ cfg.timeoutNs then (true, d.transitionTo .kFailed now)
      else (false, d)
    (verdict c).1 = (verdict f).1 ∧ Alike past (verdict c).2 (verdict f).2 := by
  have hcounted := h.countMiss cfg hlive
  have hstamp : (c.countMiss cfg).lastLivenessNs = (f.countMiss cfg).lastLivenessNs := by
    simp [Connection.countMiss, hlive]
  dsimp only
  rw [h.role, hlive, hcounted.consecutiveMissed]
  split
  · split
    · split
      · exact ⟨rfl, hcounted.transitionTo .kFailed now (by simp)⟩
      · exact ⟨rfl, hcounted.transitionTo .kDegraded now fun _ => hstamp⟩
    · exact ⟨rfl, h⟩
  · split
    · exact ⟨rfl, h.transitionTo .kFailed now (by simp)⟩
    · exact ⟨rfl, h⟩

theorem checkTimeout (cfg : Config) (h : Alike past c f) (now : Int) :
    (c.checkTimeout cfg now).1 = (f.checkTimeout cfg now).1 ∧
      Alike past (c.checkTimeout cfg now).2 (f.checkTimeout cfg now).2 := by
  cases hf : f.state with
  | kConnecting =>
      have hc : c.state = .kConnecting := h.state.trans hf
      simp only [Connection.checkTimeout, hc, hf]
      exact h.attemptTimeout cfg now
  | kHandshaking =>
      have hc : c.state = .kHandshaking := h.state.trans hf
      simp only [Connection.checkTimeout, hc, hf]
      exact h.attemptTimeout cfg now
  | kHealthy =>
      have hc : c.state = .kHealthy := h.state.trans hf
      simp only [Connection.checkTimeout, hc, hf]
      exact h.silenceTimeout cfg now (h.liveness (Or.inl hc))
  | kDegraded =>
      have hc : c.state = .kDegraded := h.state.trans hf
      simp only [Connection.checkTimeout, hc, hf]
      exact h.silenceTimeout cfg now (h.liveness (Or.inr hc))
  | kFailed =>
      have hc : c.state = .kFailed := h.state.trans hf
      simp only [Connection.checkTimeout, hc, hf]
      exact ⟨trivial, h⟩
  | kDisconnected =>
      have hc : c.state = .kDisconnected := h.state.trans hf
      simp only [Connection.checkTimeout, hc, hf]
      exact ⟨trivial, h⟩
  | kReconnecting =>
      have hc : c.state = .kReconnecting := h.state.trans hf
      simp only [Connection.checkTimeout, hc, hf]
      exact ⟨trivial, h⟩

theorem rebind (h : Alike past c f) (newFd now : Int) :
    Alike past (c.rebind newFd now) (f.rebind newFd now) := by
  unfold Connection.rebind
  rw [h.role]
  refine Alike.transitionTo ?_ _ now fun _ => rfl
  exact { h with
    fd := rfl
    role := rfl
    nextSequence := rfl
    consecutiveMissed := rfl
    liveness := fun _ => rfl
    acked := ⟨[], RingBuffer.records_reset _, RingBuffer.records_reset _⟩
    readAccum := rfl
    writePending := rfl
    queued := rfl
    accepted := rfl
    handled := rfl
    connectedSinceNs := rfl
    reconnects := by
      have hcount := h.reconnects
      simp only [ConnectionStats.recordReconnect]
      omega }

/-- **Every operation** keeps them alike. -/
theorem call (h : Alike past c f) (call : Call σ) : Alike past (c.call call) (f.call call) := by
  obtain ⟨cfg, env, op⟩ := call
  have hin := h.withEnv env
  cases op with
  | onReadable recvs now => exact hin.onReadable cfg recvs now
  | onWritable soError now => exact hin.onWritable soError now
  | onHangupOrError errno now => exact hin.handleSocketError now errno
  | sendPing now => exact hin.sendPing now
  | sendPong sequence timestampNs => exact hin.sendPong sequence timestampNs
  | checkTimeout now => exact (hin.checkTimeout cfg now).2
  | resetLivenessBaseline now => exact { hin with liveness := fun _ => rfl }
  | rebind newFd now => exact hin.rebind newFd now

end Alike

/-! ## Every later run -/

def setPingInterceptor (c : Connection σ) (interceptor : Option (PingInterceptor σ)) :
    Connection σ :=
  { c with pingInterceptor := interceptor }

/-- Whatever can be done to a connection. -/
inductive Operation (σ : Type) where
  | call (call : Call σ)
  | setPingInterceptor (interceptor : Option (PingInterceptor σ))

def operate (c : Connection σ) : Operation σ → Connection σ
  | .call call => c.call call
  | .setPingInterceptor interceptor => c.setPingInterceptor interceptor

/-- The totals of a connection, and its reports, when it is rebound. -/
def past (c : Connection σ) : Totals where
  reports := c.trace.reports ++ [.transition c.state (startState c.role)]
  heartbeatsSent := c.stats.heartbeatsSent
  heartbeatsAcked := c.stats.heartbeatsAcked
  missed := c.stats.missed
  reconnects := c.stats.reconnects + 1

theorem rebind_alike (c : Connection σ) (env : Env σ) (newFd now : Int) (host : String)
    (port : BitVec 16) :
    Alike c.past ((c.withEnv env).rebind newFd now)
      (create newFd c.role c.feedId host port c.pingInterceptor env now) where
  fd := rfl
  role := rfl
  feedId := rfl
  state := rfl
  stateEnteredNs := rfl
  nextSequence := rfl
  consecutiveMissed := rfl
  liveness := by
    -- neither starts out established
    intro hlive
    have hstart : startState c.role = .kHealthy ∨ startState c.role = .kDegraded := hlive
    cases hrole : c.role with
    | kInitiator => simp [startState, hrole] at hstart
    | kResponder => simp [startState, hrole] at hstart
  acked := ⟨[], RingBuffer.records_reset _, RingBuffer.records_fresh 0 (by decide)⟩
  readAccum := rfl
  writePending := rfl
  pingInterceptor := rfl
  env := rfl
  queued := rfl
  accepted := rfl
  handled := rfl
  reports := (List.append_nil _).symm
  connectedSinceNs := rfl
  heartbeatsSent := rfl
  heartbeatsAcked := rfl
  missed := rfl
  reconnects := rfl

/-- What can be seen of two connections is the same, up to what the first had
counted and reported before. -/
structure Indistinguishable (past : Totals) (c f : Connection σ) : Prop where
  state : c.state = f.state
  transitions : c.trace.reports = past.reports ++ f.trace.reports
  output : c.trace.accepted = f.trace.accepted
  pending : c.writePending = f.writePending
  intercepted : c.env.captured = f.env.captured
  timeouts : ∀ cfg env now, ((c.withEnv env).checkTimeout cfg now).1 =
    ((f.withEnv env).checkTimeout cfg now).1
  heartbeatsSent : c.stats.heartbeatsSent = past.heartbeatsSent + f.stats.heartbeatsSent
  heartbeatsAcked : c.stats.heartbeatsAcked = past.heartbeatsAcked + f.stats.heartbeatsAcked
  missed : c.stats.missed = past.missed + f.stats.missed
  reconnects : c.stats.reconnects = past.reconnects + f.stats.reconnects

theorem Alike.indistinguishable {past : Totals} {c f : Connection σ} (h : Alike past c f) :
    Indistinguishable past c f where
  state := h.state
  transitions := h.reports
  output := h.accepted
  pending := h.writePending
  intercepted := congrArg Env.captured h.env
  timeouts := fun cfg env now => ((h.withEnv env).checkTimeout cfg now).1
  heartbeatsSent := h.heartbeatsSent
  heartbeatsAcked := h.heartbeatsAcked
  missed := h.missed
  reconnects := h.reconnects

theorem Alike.operate {past : Totals} {c f : Connection σ} (h : Alike past c f)
    (operation : Operation σ) : Alike past (c.operate operation) (f.operate operation) := by
  cases operation with
  | call call => exact h.call call
  | setPingInterceptor interceptor => exact { h with pingInterceptor := rfl }

/-- **A rebound connection is as good as new.**  After `rebind` of any
connection, whatever state it was in, and after every sequence of operations and
socket answers, it has gone through the same states as a connection that was
constructed on that fd at that time with the same role, feed and interceptor, has
put out the same bytes and gives the same verdict on timeouts; its counters are
those of the new connection plus its totals before, and one reconnect. -/
theorem rebound_as_new (c : Connection σ) (cfg : Config) (env : Env σ) (newFd now : Int)
    (host : String) (port : BitVec 16) (operations : List (Operation σ)) :
    Indistinguishable c.past
      (operations.foldl operate (c.call ⟨cfg, env, .rebind newFd now⟩))
      (operations.foldl operate
        (create newFd c.role c.feedId host port c.pingInterceptor env now)) := by
  have halike : Alike c.past
      (operations.foldl operate (c.call ⟨cfg, env, .rebind newFd now⟩))
      (operations.foldl operate
        (create newFd c.role c.feedId host port c.pingInterceptor env now)) :=
    Runs.lockstep (R := Alike c.past) (fun _ _ operation h => h.operate operation)
      (rebind_alike c env newFd now host port) operations
  exact halike.indistinguishable

end Connection

end Vigil
