import Vigil.Evidence

/-!
# Uptime

`connected_since_ns` is stamped when a handshake completes, and the display
counts the uptime from it.  Of the ways out of a session only `rebind` clears
it: a connection that fails keeps the stamp of its last session, for good if it
is given up (`failed_feed_keeps_uptime`).

An `UptimeLog` keeps beside the connection the time at which the handshake of
the current attempt was completed.  The stamp is that time in every run
(`Accurate`), so what is shown is right exactly as long as no failure meets an
established connection (`uptime_shown_iff`).  `Spares` says this of one call,
in terms of what the call finds.
-/

namespace Vigil

open ByteOrder

namespace Connection

variable {σ : Type} {c : Connection σ}

/-! ## What completes and what ends a session -/

/-- The message completes the handshake. -/
def Completes (c : Connection σ) (msg : HeartbeatMessage) : Prop :=
  c.state = .kHandshaking ∧ msg.feedId = c.feedId ∧
    (c.role = .kResponder ∧ MessageType.ofByte msg.type = some .kConnectHello ∨
      c.role = .kInitiator ∧ MessageType.ofByte msg.type = some .kConnectAck)

instance (c : Connection σ) (msg : HeartbeatMessage) : Decidable (Completes c msg) :=
  inferInstanceAs (Decidable (_ ∧ _ ∧ _))

/-- The times at which a call completes a handshake. -/
def completionsIn (c : Connection σ) (call : Call σ) : List Int :=
  match call.op with
  | .onReadable recvs now =>
      gather (fun d msg => if Completes d msg then [now] else []) call.cfg now
        (c.withEnv call.env) ((c.withEnv call.env).readMessages call.cfg recvs now)
  | _ => []

/-- The message fails an established connection: it does not belong there, it
says goodbye, or its answer cannot be sent. -/
def MessageFails (c : Connection σ) (msg : HeartbeatMessage) (now : Int) : Prop :=
  c.Unexpected msg ∨ MessageType.ofByte msg.type = some .kDisconnect ∨
    MessageType.ofByte msg.type = some .kPing ∧ (c.askInterceptor msg now).1 = true ∧
      sendFails c.env.sends c.writePending.length = true

/-- So does the frame, which may also be corrupt. -/
def FrameFails (now : Int) (c : Connection σ) (frame : List Byte) : Prop :=
  ∃ h : frame.length = kHeartbeatMessageSize,
    (decodeHeartbeat ⟨frame, h⟩ {}).1 = false ∨
      c.MessageFails (decodeHeartbeat ⟨frame, h⟩ {}).2 now

/-- The read does not fail the connection while it is established: not at the
cap, not at any frame in the state the frames before it leave, and not at the
end of the stream. -/
def ReadSpares (cfg : Config) (c : Connection σ) (recvs : List RecvOutcome) (now : Int) : Prop :=
  c.state ≠ .kFailed →
    if kMaxReadAccumBytes < (c.readAccum ++ recvBytes recvs).length then ¬ c.state.Established
    else
      Framing.DrainAlong kHeartbeatMessageSize (feedFrame cfg now) failed
        (fun d frame => d.state.Established → ¬ FrameFails now d frame)
        (c.readAccum ++ recvBytes recvs) c ∧
      ((feedBuffer cfg now (c.readAccum ++ recvBytes recvs) c).1.state.Established →
        recvEnd recvs = .drained)

/-- The call does not fail the connection while it is established. -/
def Spares (c : Connection σ) (call : Call σ) : Prop :=
  match call.op with
  | .onReadable recvs now => (c.withEnv call.env).ReadSpares call.cfg recvs now
  | .onWritable _ _ =>
      c.state.Established → flushFails call.env.sends c.writePending.length = false
  | .onHangupOrError _ _ => ¬ c.state.Established
  | .sendPing _ =>
      c.state.Established → c.role = .kInitiator →
        sendFails call.env.sends c.writePending.length = false
  | .sendPong _ _ =>
      c.state = .kHealthy → c.role = .kResponder →
        sendFails call.env.sends c.writePending.length = false
  | .checkTimeout now =>
      c.state.Established → call.cfg.timeoutNs ≤ now - c.lastLivenessNs →
        c.role = .kInitiator ∧ c.consecutiveMissed + 1 < call.cfg.maxMissedHeartbeats
  | .resetLivenessBaseline _ => True
  | .rebind _ _ => True

/-! ## The stamp -/

/-- Unless it has failed, the connection is stamped exactly if it is
established. -/
def Stamped (c : Connection σ) : Prop :=
  c.state ≠ .kFailed → (c.stats.connectedSinceNs ≠ 0 ↔ c.state.Established)

/-- A failed connection carries no stamp. -/
def Cleared (c : Connection σ) : Prop :=
  c.state = .kFailed → c.stats.connectedSinceNs = 0

theorem not_established_failed {s : ConnectionState} (h : s = .kFailed) : ¬ s.Established := by
  rw [h]
  decide

theorem Stamped.zero (h : Stamped c) (hc : Cleared c) (hs : ¬ c.state.Established) :
    c.stats.connectedSinceNs = 0 := by
  by_cases hfailed : c.state = .kFailed
  · exact hc hfailed
  · by_contra hne
    exact hs ((h hfailed).mp hne)

theorem Stamped.nonzero (h : Stamped c) (hs : c.state.Established) :
    c.stats.connectedSinceNs ≠ 0 :=
  (h fun hfailed => not_established_failed hfailed hs).mpr hs

/-- A connection that fails with its stamp is cleared only if it was not
established. -/
theorem Stamped.failing_iff (h : Stamped c) (hc : Cleared c) {d : Connection σ}
    (hs : d.state = .kFailed) (hstats : d.stats.connectedSinceNs = c.stats.connectedSinceNs) :
    Cleared d ↔ ¬ c.state.Established := by
  constructor
  · intro hd hest
    exact h.nonzero hest (hstats.symm.trans (hd hs))
  · intro hest _
    exact hstats.trans (h.zero hc hest)

/-- An established connection that keeps its stamp is cleared exactly if it
does not fail. -/
theorem Stamped.kept_iff (h : Stamped c) (hest : c.state.Established) {d : Connection σ}
    (hstats : d.stats.connectedSinceNs = c.stats.connectedSinceNs) :
    Cleared d ↔ d.state ≠ .kFailed := by
  constructor
  · intro hd hs
    exact h.nonzero hest (hstats.symm.trans (hd hs))
  · exact fun hs hfailed => absurd hfailed hs

theorem connectedSinceNs_of_evidence {c' : Connection σ} (h : c'.evidence = c.evidence) :
    c'.stats.connectedSinceNs = c.stats.connectedSinceNs :=
  congrArg (fun e => e.2.2.2.connectedSinceNs) h

/-! ## Messages -/

theorem handleMessage_completes {msg : HeartbeatMessage} (h : Completes c msg) (cfg : Config)
    (now : Int) :
    (c.handleMessage cfg msg now).state = .kHealthy ∧
      (c.handleMessage cfg msg now).stats.connectedSinceNs = now := by
  obtain ⟨hs, hfeed, ⟨hr, ht⟩ | ⟨hr, ht⟩⟩ := h
  · rw [handleMessage, ht]
    dsimp only
    rw [handleConnectHello, if_neg (by simp [hr, hs]), if_neg (by simp [hfeed])]
    exact ⟨rfl, rfl⟩
  · rw [handleMessage, ht]
    dsimp only
    rw [handleConnectAck, if_neg (by simp [hr, hs]), if_neg (by simp [hfeed])]
    exact ⟨rfl, rfl⟩

theorem handleMessage_uncompleted {msg : HeartbeatMessage} (h : ¬ Completes c msg)
    (cfg : Config) (now : Int) :
    (c.handleMessage cfg msg now).stats.connectedSinceNs = c.stats.connectedSinceNs ∧
      ((c.handleMessage cfg msg now).state = .kFailed ∨
        ((c.handleMessage cfg msg now).state.Established ↔ c.state.Established)) := by
  have hresult := handleMessage_result cfg c msg now
  generalize c.handleMessage cfg msg now = result at hresult ⊢
  cases hresult with
  | violation => exact ⟨rfl, Or.inl rfl⟩
  | hello ht hr hs hf => exact absurd ⟨hs, hf, Or.inl ⟨hr, ht⟩⟩ h
  | ack ht hr hs hf => exact absurd ⟨hs, hf, Or.inr ⟨hr, ht⟩⟩ h
  | pingAnswered captured ht hr hs =>
      have hstill := queueMessage_still (c.heard now captured)
        (c.message .kPong msg.sequence msg.timestampNs)
      refine ⟨connectedSinceNs_of_evidence (c := c.heard now captured) hstill.evidence, ?_⟩
      rcases hstill.state with hsame | hfailed | ⟨hconnecting, _⟩
      · rw [hsame]
        exact Or.inr Iff.rfl
      · exact Or.inl hfailed
      · have hconnecting' : c.state = .kConnecting := hconnecting
        rw [hs] at hconnecting'
        cases hconnecting'
  | pingHeld => exact ⟨rfl, Or.inr Iff.rfl⟩
  | duplicate => exact ⟨rfl, Or.inr Iff.rfl⟩
  | untimely => exact ⟨rfl, Or.inr Iff.rfl⟩
  | counted => exact ⟨rfl, Or.inr Iff.rfl⟩
  | recovered ht hr hs =>
      refine ⟨rfl, Or.inr (iff_of_true (Or.inl rfl) ?_)⟩
      rw [hs]
      decide
  | closed => exact ⟨rfl, Or.inl rfl⟩
  | unknown => exact ⟨rfl, Or.inr Iff.rfl⟩

theorem handlePing_failed_iff {msg : HeartbeatMessage}
    (ht : MessageType.ofByte msg.type = some .kPing) (now : Int) :
    (c.handlePing msg now).state = .kFailed ↔
      c.Unexpected msg ∨ (c.askInterceptor msg now).1 = true ∧
        sendFails c.env.sends c.writePending.length = true := by
  by_cases hguard : c.role ≠ .kResponder ∨ c.state ≠ .kHealthy
  · rw [handlePing, if_pos hguard]
    exact iff_of_true rfl (Or.inl (by simpa [Unexpected, ht] using hguard))
  · have hexpected : ¬ c.Unexpected msg := by simpa [Unexpected, ht] using hguard
    push Not at hguard
    obtain ⟨hr, hs⟩ := hguard
    -- the interceptor leaves everything but its own state and the time alone
    obtain ⟨captured, hask⟩ : ∃ captured, (c.askInterceptor msg now).2 = c.heard now captured := by
      unfold askInterceptor
      split
      · exact ⟨c.env.captured, rfl⟩
      · exact ⟨_, rfl⟩
    have hheard : (c.heard now captured).state = .kHealthy := hs
    have hrole : (c.heard now captured).role = .kResponder := hr
    have hsends : sendFails (c.heard now captured).env.sends
        (c.heard now captured).writePending.length =
        sendFails c.env.sends c.writePending.length := rfl
    rw [handlePing, if_neg (by simp [hr, hs]), hask]
    cases (c.askInterceptor msg now).1 with
    | false => simp [hexpected, hheard]
    | true =>
        rw [if_pos rfl, sendPong, if_neg (by simp [hrole, hheard]), queueMessage_state, hheard,
          hsends]
        cases sendFails c.env.sends c.writePending.length <;> simp [hexpected]

theorem handlePong_failed_iff {msg : HeartbeatMessage}
    (ht : MessageType.ofByte msg.type = some .kPong) (cfg : Config) (now : Int)
    (hlive : c.state ≠ .kFailed) :
    (c.handlePong cfg msg now).state = .kFailed ↔ c.Unexpected msg := by
  unfold handlePong
  split
  · next hguard => exact iff_of_true rfl (by simpa [Unexpected, ht] using hguard)
  · next hguard =>
      have hexpected : ¬ c.Unexpected msg := by simpa [Unexpected, ht] using hguard
      refine iff_of_false ?_ hexpected
      split
      · exact hlive
      · dsimp only
        split
        · exact hlive
        · split
          · simp [transitionTo]
          · exact hlive

/-- **Which messages end a session.** -/
theorem handleMessage_failed_iff (cfg : Config) (msg : HeartbeatMessage) (now : Int)
    (hest : c.state.Established) :
    (c.handleMessage cfg msg now).state = .kFailed ↔ c.MessageFails msg now := by
  have hlive : c.state ≠ .kFailed := fun hfailed => not_established_failed hfailed hest
  have hopen : c.state ≠ .kHandshaking := by
    intro hs
    rw [hs] at hest
    exact absurd hest (by decide)
  unfold MessageFails handleMessage
  cases ht : MessageType.ofByte msg.type with
  | none => simp [Unexpected, ht, hlive]
  | some type =>
      cases type with
      | kConnectHello =>
          dsimp only
          rw [handleConnectHello, if_pos (Or.inr hopen)]
          exact iff_of_true rfl (Or.inl (by simp [Unexpected, ht, hopen]))
      | kConnectAck =>
          dsimp only
          rw [handleConnectAck, if_pos (Or.inr hopen)]
          exact iff_of_true rfl (Or.inl (by simp [Unexpected, ht, hopen]))
      | kPing => simpa using handlePing_failed_iff ht now
      | kPong => simpa using handlePong_failed_iff ht cfg now hlive
      | kDisconnect => exact iff_of_true rfl (Or.inr (Or.inl rfl))

theorem Stamped.handleMessage (h : Stamped c) (cfg : Config) (msg : HeartbeatMessage) {now : Int}
    (hnow : 0 < now) : Stamped (c.handleMessage cfg msg now) := by
  intro hlive
  by_cases hcompletes : Completes c msg
  · obtain ⟨hstate, hstamp⟩ := handleMessage_completes hcompletes cfg now
    rw [hstate, hstamp]
    exact iff_of_true (by omega) (by decide)
  · obtain ⟨hstamp, hfailed | hest⟩ := handleMessage_uncompleted hcompletes cfg now
    · exact absurd hfailed hlive
    · rw [hstamp, hest]
      exact h fun hfailed => hlive (handleMessage_stays_failed cfg c msg now hfailed)

theorem Stamped.message_cleared_iff (h : Stamped c) (hc : Cleared c) (cfg : Config)
    (msg : HeartbeatMessage) (now : Int) :
    Cleared (c.handleMessage cfg msg now) ↔ (c.state.Established → ¬ c.MessageFails msg now) := by
  by_cases hest : c.state.Established
  · have hopen : ¬ Completes c msg := by
      rintro ⟨hs, -⟩
      rw [hs] at hest
      exact absurd hest (by decide)
    rw [h.kept_iff hest (handleMessage_uncompleted hopen cfg now).1,
      ← handleMessage_failed_iff cfg msg now hest]
    exact ⟨fun hlive _ => hlive, fun hlive => hlive hest⟩
  · refine iff_of_true ?_ fun hs => absurd hs hest
    intro hfailed
    by_cases hcompletes : Completes c msg
    · rw [(handleMessage_completes hcompletes cfg now).1] at hfailed
      cases hfailed
    · rw [(handleMessage_uncompleted hcompletes cfg now).1]
      exact h.zero hc hest

/-! ## Reads -/

theorem Stamped.dispatch (h : Stamped c) (cfg : Config) (msg : HeartbeatMessage) {now : Int}
    (hnow : 0 < now) : Stamped (c.dispatch cfg msg now) := by
  have hnoted : Stamped (c.noteHandled msg) := h
  exact hnoted.handleMessage cfg msg hnow

/-- Noting a message does not change what it does. -/
theorem noteHandled_messageFails (c : Connection σ) (msg : HeartbeatMessage) (now : Int) :
    (c.noteHandled msg).MessageFails msg now ↔ c.MessageFails msg now := by
  have hask : ((c.noteHandled msg).askInterceptor msg now).1 = (c.askInterceptor msg now).1 := by
    unfold askInterceptor
    have hsame : (c.noteHandled msg).pingInterceptor = c.pingInterceptor := rfl
    rw [hsame]
    cases c.pingInterceptor <;> rfl
  unfold MessageFails
  rw [hask]
  exact Iff.rfl

theorem Stamped.feedFrame (h : Stamped c) (cfg : Config) {now : Int} (hnow : 0 < now)
    (frame : List Byte) (hlen : frame.length = kHeartbeatMessageSize) :
    Stamped (feedFrame cfg now c frame) := by
  rw [Connection.feedFrame, dif_pos hlen]
  dsimp only
  split
  · exact h.dispatch cfg _ hnow
  · exact fun hlive => absurd rfl hlive

theorem Stamped.frame_cleared_iff (h : Stamped c) (hc : Cleared c) (cfg : Config) (now : Int)
    (frame : List Byte) (hlen : frame.length = kHeartbeatMessageSize) :
    Cleared (Connection.feedFrame cfg now c frame) ↔
      (c.state.Established → ¬ FrameFails now c frame) := by
  rw [Connection.feedFrame, dif_pos hlen]
  dsimp only
  split
  · next hdec =>
      have hnoted : Stamped (c.noteHandled (decodeHeartbeat ⟨frame, hlen⟩ {}).2) := h
      have hfails : FrameFails now c frame ↔
          c.MessageFails (decodeHeartbeat ⟨frame, hlen⟩ {}).2 now := by
        constructor
        · rintro ⟨_, hcorrupt | hmsg⟩
          · exact absurd (hcorrupt.symm.trans hdec) (by decide)
          · exact hmsg
        · exact fun hmsg => ⟨hlen, Or.inr hmsg⟩
      rw [hfails, ← noteHandled_messageFails]
      exact hnoted.message_cleared_iff hc cfg _ now
  · next hdec =>
      have hcorrupt : FrameFails now c frame := ⟨hlen, Or.inl (Bool.eq_false_iff.mpr hdec)⟩
      refine (h.failing_iff hc
        (d := c.handleProtocolViolation .corruptMessage now) rfl rfl).trans ?_
      exact ⟨fun hest hs => absurd hs hest, fun hok hest => hok hest hcorrupt⟩

theorem Stamped.feedBuffer (h : Stamped c) (cfg : Config) {now : Int} (hnow : 0 < now)
    (buf : List Byte) (hlive : c.state ≠ .kFailed) : Stamped (feedBuffer cfg now buf c).1 :=
  Framing.drain_invariant (Connection.feedFrame cfg now) failed (by decide)
    (fun _ frame hlen _ hd => hd.feedFrame cfg hnow frame hlen) buf c
    ((failed_eq_false c).mpr hlive) h

theorem Stamped.finishRead_cleared_iff (h : Stamped c) (ending : RecvEnd) (now : Int) :
    Cleared (c.finishRead ending now) ↔
      Cleared c ∧ (c.state.Established → ending = .drained) := by
  by_cases hfailed : c.state = .kFailed
  · rw [finishRead_failed c ending now hfailed]
    exact (and_iff_left fun hest => absurd hest (not_established_failed hfailed)).symm
  · have hc : Cleared c := fun hf => absurd hf hfailed
    unfold finishRead
    rw [if_neg hfailed]
    cases ending with
    | drained => exact (and_iff_left fun _ => rfl).symm
    | peerClosed =>
        refine (h.failing_iff hc (d := c.handlePeerClosed now) rfl rfl).trans ?_
        exact ⟨fun hest => ⟨hc, fun hs => absurd hs hest⟩, fun hok hs => by cases hok.2 hs⟩
    | socketError errno =>
        refine (h.failing_iff hc (d := c.handleSocketError now errno) rfl rfl).trans ?_
        exact ⟨fun hest => ⟨hc, fun hs => absurd hs hest⟩, fun hok hs => by cases hok.2 hs⟩

theorem Stamped.onReadable (h : Stamped c) (cfg : Config) (recvs : List RecvOutcome) {now : Int}
    (hnow : 0 < now) : Stamped (c.onReadable cfg recvs now) :=
  onReadable_keeps (fun _ msg hd => hd.dispatch cfg msg hnow)
    (fun _ _ _ hlive => absurd rfl hlive) (fun _ _ hd => hd) h recvs

/-- Nothing is stamped once the connection has failed. -/
theorem Cleared.onReadable_failed (hc : Cleared c) (hfailed : c.state = .kFailed) (cfg : Config)
    (recvs : List RecvOutcome) (now : Int) : Cleared (c.onReadable cfg recvs now) := by
  have hdead : (c.onReadable cfg recvs now).state = .kFailed ∧
      (c.onReadable cfg recvs now).stats.connectedSinceNs = 0 := by
    refine onReadable_keeps (I := fun d => d.state = .kFailed ∧ d.stats.connectedSinceNs = 0)
      ?_ (fun _ _ hd => ⟨rfl, hd.2⟩) (fun _ _ hd => hd) ⟨hfailed, hc hfailed⟩ recvs
    rintro d msg ⟨hs, hstamp⟩
    have hopen : ¬ Completes (d.noteHandled msg) msg := by
      rintro ⟨hopen, -⟩
      exact absurd (hs.symm.trans hopen) (by decide)
    exact ⟨handleMessage_stays_failed cfg (d.noteHandled msg) msg now hs,
      (handleMessage_uncompleted hopen cfg now).1.trans hstamp⟩
  exact fun _ => hdead.2

/-- **Which reads end a session.** -/
theorem Stamped.onReadable_cleared_iff (h : Stamped c) (hc : Cleared c) (hleft : Leftover c)
    (cfg : Config) (recvs : List RecvOutcome) {now : Int} (hnow : 0 < now) :
    Cleared (c.onReadable cfg recvs now) ↔ c.ReadSpares cfg recvs now := by
  by_cases hfailed : c.state = .kFailed
  · exact iff_of_true (hc.onReadable_failed hfailed cfg recvs now)
      fun hlive => absurd hfailed hlive
  · have hshort := hleft hfailed
    rw [ReadSpares, imp_iff_right hfailed]
    rcases onReadable_eq cfg c recvs now with ⟨all, ⟨rfl, hcap⟩, heq⟩ | ⟨buf, hlen, hpre, heq⟩
    · have hroom := hcap (by simp only [kHeartbeatMessageSize, kMaxReadAccumBytes] at *; omega)
      have hfed := h.feedBuffer cfg hnow (c.readAccum ++ recvBytes recvs) hfailed
      have hread : Stamped ((Connection.feedBuffer cfg now (c.readAccum ++ recvBytes recvs)
          c).1.withRead (Connection.feedBuffer cfg now (c.readAccum ++ recvBytes recvs) c).2) :=
        hfed
      have hframes := Framing.drain_iff_along (n := kHeartbeatMessageSize) (J := Stamped)
        (I := Cleared) (by decide)
        (fun d frame hlen hd => hd.feedFrame cfg hnow frame hlen)
        (fun d frame hlen hd hcd => hd.frame_cleared_iff hcd cfg now frame hlen)
        (fun d hlive hf => absurd hf ((failed_eq_false d).mp hlive))
        (c.readAccum ++ recvBytes recvs) c h hc
      rw [heq, if_neg (by omega), hread.finishRead_cleared_iff]
      exact and_congr hframes Iff.rfl
    · have hover := hpre.length_le
      rw [heq, if_pos (by omega)]
      exact h.failing_iff hc rfl rfl

/-! ## Calls -/

/-- Writing and failing keep the stamp. -/
theorem Stamped.still (h : Stamped c) {c' : Connection σ} (hstill : Still c c') : Stamped c' := by
  intro hlive
  rw [connectedSinceNs_of_evidence hstill.evidence]
  rcases hstill.state with hsame | hfailed | ⟨hconnecting, hopen⟩
  · rw [hsame]
    exact h (hsame ▸ hlive)
  · exact absurd hfailed hlive
  · rw [hopen, h (by simp [hconnecting]), hconnecting]
    decide

/-- What keeps the stamp clears it exactly if it does not end a session. -/
theorem Stamped.cleared_iff (h : Stamped c) (hc : Cleared c) {c' : Connection σ}
    (hstamp : c'.stats.connectedSinceNs = c.stats.connectedSinceNs) :
    Cleared c' ↔ (c.state.Established → c'.state ≠ .kFailed) := by
  by_cases hest : c.state.Established
  · exact (h.kept_iff hest hstamp).trans (imp_iff_right hest).symm
  · exact iff_of_true (fun _ => hstamp.trans (h.zero hc hest)) fun hs => absurd hs hest

theorem Stamped.checkTimeout (h : Stamped c) (cfg : Config) (now : Int) :
    Stamped (c.checkTimeout cfg now).2 := by
  have hresult := checkTimeout_result cfg c now
  generalize c.checkTimeout cfg now = result at hresult ⊢
  cases hresult with
  | idle => exact h
  | attempting => exact h
  | attemptExpired => exact fun hlive => absurd rfl hlive
  | alive => exact h
  | silent => exact fun hlive => absurd rfl hlive
  | lastMiss => exact fun hlive => absurd rfl hlive
  | miss hs => exact fun _ => iff_of_true (h.nonzero hs) (Or.inr rfl)

theorem rebind_unstamped (c : Connection σ) (newFd now : Int) :
    (c.rebind newFd now).stats.connectedSinceNs = 0 ∧
      (c.rebind newFd now).state ≠ .kFailed ∧ ¬ (c.rebind newFd now).state.Established := by
  have hstate : (c.rebind newFd now).state = startState c.role := rfl
  rw [hstate]
  refine ⟨rfl, ?_⟩
  cases c.role <;> decide

theorem Stamped.call (h : Stamped c) (call : Call σ)
    (hpos : ∀ now, call.op.now = some now → 0 < now) : Stamped (c.call call) := by
  obtain ⟨cfg, env, op⟩ := call
  have hin : Stamped (c.withEnv env) := h
  cases op with
  | onReadable recvs now => exact hin.onReadable cfg recvs (hpos now rfl)
  | checkTimeout now => exact hin.checkTimeout cfg now
  | resetLivenessBaseline now => exact h
  | rebind newFd now =>
      obtain ⟨hzero, _, hclosed⟩ := rebind_unstamped (c.withEnv env) newFd now
      exact fun _ => iff_of_false (fun hne => hne hzero) hclosed
  | _ => exact h.still (call_still c _ rfl)

/-- No call but a read or `rebind` touches the stamp. -/
theorem call_connectedSinceNs (c : Connection σ) (call : Call σ) (hread : call.isRead = false)
    (hrebind : call.isRebind = false) :
    (c.call call).stats.connectedSinceNs = c.stats.connectedSinceNs :=
  congrArg (fun v => v.2.connectedSinceNs) (call_standing c call hread hrebind)

/-- The stamp is the time of the last handshake the call completes, if it
completes any. -/
theorem call_stamp (c : Connection σ) (call : Call σ) (hrebind : call.isRebind = false) :
    (c.call call).stats.connectedSinceNs =
      (c.completionsIn call).foldl (fun _ now => now) c.stats.connectedSinceNs := by
  obtain ⟨cfg, env, op⟩ := call
  cases op with
  | onReadable recvs now =>
      refine (connectedSinceNs_of_evidence
        (onReadable_messages cfg (c.withEnv env) recvs now).1).trans ?_
      refine dispatchAll_gather (fun d => d.stats.connectedSinceNs) ?_ (c.withEnv env) _
      intro d msg
      split
      · next hdone =>
          exact (handleMessage_completes (c := d.noteHandled msg) hdone cfg now).2
      · next hdone =>
          exact (handleMessage_uncompleted (c := d.noteHandled msg) hdone cfg now).1
  | _ => exact call_connectedSinceNs c _ rfl hrebind

/-- An established connection survives exactly if nothing fails. -/
theorem ite_failed_ne_iff {fails : Bool} {s : ConnectionState} (hest : s.Established) :
    (if fails then .kFailed else s) ≠ ConnectionState.kFailed ↔ fails = false := by
  cases fails with
  | true => simp
  | false => exact iff_of_true (fun hs => not_established_failed hs hest) rfl

theorem onWritable_spares_iff (c : Connection σ) (soError : Nat) (now : Int)
    (hest : c.state.Established) :
    (c.onWritable soError now).state ≠ .kFailed ↔
      flushFails c.env.sends c.writePending.length = false := by
  have hopen : c.state ≠ .kConnecting := by
    intro hs
    rw [hs] at hest
    exact absurd hest (by decide)
  rw [onWritable, if_neg hopen, flushWriteBuffer_state]
  exact ite_failed_ne_iff hest

theorem sendPing_spares_iff (c : Connection σ) (now : Int) (hest : c.state.Established) :
    (c.sendPing now).state ≠ .kFailed ↔
      (c.role = .kInitiator → sendFails c.env.sends c.writePending.length = false) := by
  by_cases hrole : c.role = .kInitiator
  · rw [sendPing_eq c now hrole hest, imp_iff_right hrole]
    show (c.bumpSequence.queueMessage (c.pingMessage now)).state ≠ .kFailed ↔ _
    rw [queueMessage_state]
    exact ite_failed_ne_iff hest
  · rw [sendPing_idle c now fun hguard => hrole hguard.1]
    exact iff_of_true (fun hs => not_established_failed hs hest) fun hr => absurd hr hrole

theorem sendPong_spares_iff (c : Connection σ) (sequence timestampNs : BitVec 64)
    (hest : c.state.Established) :
    (c.sendPong sequence timestampNs).state ≠ .kFailed ↔
      (c.state = .kHealthy → c.role = .kResponder →
        sendFails c.env.sends c.writePending.length = false) := by
  unfold sendPong
  split
  · next hguard =>
      refine iff_of_true (fun hs => not_established_failed hs hest) fun hs hr => ?_
      exact absurd hguard (not_or.mpr ⟨not_not.mpr hr, not_not.mpr hs⟩)
  · next hguard =>
      push Not at hguard
      rw [queueMessage_state, imp_iff_right hguard.2, imp_iff_right hguard.1]
      exact ite_failed_ne_iff hest

theorem checkTimeout_spares_iff (cfg : Config) (c : Connection σ) (now : Int)
    (hest : c.state.Established) :
    (c.checkTimeout cfg now).2.state ≠ .kFailed ↔
      (cfg.timeoutNs ≤ now - c.lastLivenessNs →
        c.role = .kInitiator ∧ c.consecutiveMissed + 1 < cfg.maxMissedHeartbeats) := by
  have hlive : c.state ≠ .kFailed := fun hfailed => not_established_failed hfailed hest
  have hopen : ¬ (c.state = .kConnecting ∨ c.state = .kHandshaking) := by
    intro hs
    rcases hs with hs | hs
    · rw [hs] at hest
      exact absurd hest (by decide)
    · rw [hs] at hest
      exact absurd hest (by decide)
  have hresult := checkTimeout_result cfg c now
  generalize c.checkTimeout cfg now = result at hresult ⊢
  cases hresult with
  | idle hs => exact (hest.elim hs.2.2.1 hs.2.2.2).elim
  | attempting hs => exact absurd hs hopen
  | attemptExpired hs => exact absurd hs hopen
  | alive hs ht => exact iff_of_true hlive fun hlate => absurd ht (Int.not_lt.mpr hlate)
  | silent hs hr ht =>
      refine iff_of_false (fun hne => hne rfl) fun hok => ?_
      exact absurd ((hok ht).1.symm.trans hr) (by decide)
  | lastMiss hs hr ht hn =>
      refine iff_of_false (fun hne => hne rfl) fun hok => ?_
      exact absurd (hok ht).2 (Int.not_lt.mpr hn)
  | miss hs hr ht hn => exact iff_of_true (by simp [transitionTo]) fun _ => ⟨hr, hn⟩

/-- **Which calls end a session.** -/
theorem Stamped.call_cleared_iff (h : Stamped c) (hc : Cleared c) (hleft : Leftover c)
    (call : Call σ) (hpos : ∀ now, call.op.now = some now → 0 < now) :
    Cleared (c.call call) ↔ c.Spares call := by
  obtain ⟨cfg, env, op⟩ := call
  have hin : Stamped (c.withEnv env) := h
  have hcin : Cleared (c.withEnv env) := hc
  cases op with
  | onReadable recvs now =>
      exact hin.onReadable_cleared_iff hcin hleft cfg recvs (hpos now rfl)
  | onWritable soError now =>
      have hstamp := call_connectedSinceNs c ⟨cfg, env, .onWritable soError now⟩ rfl rfl
      refine (h.cleared_iff hc hstamp).trans (forall_congr' fun hest => ?_)
      exact onWritable_spares_iff (c.withEnv env) soError now hest
  | onHangupOrError errno now =>
      have hstamp := call_connectedSinceNs c ⟨cfg, env, .onHangupOrError errno now⟩ rfl rfl
      refine (h.cleared_iff hc hstamp).trans (forall_congr' fun hest => ?_)
      exact iff_of_false (fun hne => hne rfl) id
  | sendPing now =>
      have hstamp := call_connectedSinceNs c ⟨cfg, env, .sendPing now⟩ rfl rfl
      refine (h.cleared_iff hc hstamp).trans (forall_congr' fun hest => ?_)
      exact sendPing_spares_iff (c.withEnv env) now hest
  | sendPong sequence timestampNs =>
      have hstamp := call_connectedSinceNs c ⟨cfg, env, .sendPong sequence timestampNs⟩ rfl rfl
      refine (h.cleared_iff hc hstamp).trans ⟨fun hkept hs => ?_, fun hok hest => ?_⟩
      · have hest : c.state.Established := Or.inl hs
        exact (sendPong_spares_iff (c.withEnv env) sequence timestampNs hest).mp (hkept hest) hs
      · exact (sendPong_spares_iff (c.withEnv env) sequence timestampNs hest).mpr hok
  | checkTimeout now =>
      have hstamp := call_connectedSinceNs c ⟨cfg, env, .checkTimeout now⟩ rfl rfl
      refine (h.cleared_iff hc hstamp).trans (forall_congr' fun hest => ?_)
      exact checkTimeout_spares_iff cfg (c.withEnv env) now hest
  | resetLivenessBaseline now => exact iff_of_true hc trivial
  | rebind newFd now =>
      exact iff_of_true (fun hs => absurd hs (rebind_unstamped (c.withEnv env) newFd now).2.1)
        trivial

end Connection

/-! ## Runs -/

/-- A connection and the time at which the handshake of its current attempt was
completed. -/
structure UptimeLog (σ : Type) where
  connection : Connection σ
  completed : Option Int := none

namespace UptimeLog

variable {σ : Type} {l : UptimeLog σ}

open Connection

def call (l : UptimeLog σ) (call : Call σ) : UptimeLog σ where
  connection := l.connection.call call
  completed :=
    if call.isRebind then none
    else (l.connection.completionsIn call).foldl (fun _ now => some now) l.completed

/-- An uptime is shown exactly if the session is established, and counted from
the end of its handshake. -/
def ShowsUptime (l : UptimeLog σ) : Prop :=
  (l.connection.stats.connectedSinceNs ≠ 0 ↔ l.connection.state.Established) ∧
    (l.connection.state.Established →
      l.completed = some l.connection.stats.connectedSinceNs)

instance (l : UptimeLog σ) : Decidable (ShowsUptime l) :=
  inferInstanceAs (Decidable (_ ∧ _))

/-- The stamp is the time at which the handshake was completed, also after the
end of the session. -/
structure Accurate (l : UptimeLog σ) : Prop where
  stamp : l.connection.stats.connectedSinceNs = l.completed.getD 0
  stamped : Stamped l.connection
  leftover : Leftover l.connection

theorem accurate_fresh {c : Connection σ} (h : Fresh c) : Accurate ⟨c, none⟩ := by
  obtain ⟨fd, role, feedId, host, port, interceptor, env, now, rfl⟩ := h.created
  refine ⟨rfl, fun _ => iff_of_false (fun hne => hne rfl) ?_, fun _ => Nat.zero_lt_succ 27⟩
  show ¬ (startState role).Established
  cases role <;> decide

theorem foldl_completed (times : List Int) (completed : Option Int) :
    (times.foldl (fun _ now => some now) completed).getD 0 =
      times.foldl (fun _ now => now) (completed.getD 0) := by
  induction times generalizing completed with
  | nil => rfl
  | cons now times ih => exact ih (some now)

theorem Accurate.call (h : l.Accurate) (call : Call σ)
    (hpos : ∀ now, call.op.now = some now → 0 < now) : (l.call call).Accurate where
  stamp := by
    by_cases hrebind : call.isRebind = true
    · obtain ⟨cfg, env, op⟩ := call
      cases op with
      | rebind newFd now => rfl
      | _ => cases hrebind
    · show (l.connection.call call).stats.connectedSinceNs =
        (if call.isRebind then none
          else (l.connection.completionsIn call).foldl _ l.completed).getD 0
      rw [if_neg hrebind, foldl_completed, ← h.stamp]
      exact call_stamp l.connection call (by simpa using hrebind)
  stamped := h.stamped.call call hpos
  leftover := call_leftover l.connection call h.leftover

/-- What is shown is right exactly if a failed connection carries no stamp. -/
theorem Accurate.showsUptime_iff (h : l.Accurate) : l.ShowsUptime ↔ Cleared l.connection := by
  constructor
  · intro hshows hfailed
    by_contra hne
    exact not_established_failed hfailed (hshows.1.mp hne)
  · intro hc
    refine ⟨⟨fun hne => ?_, h.stamped.nonzero⟩, fun hest => ?_⟩
    · by_contra hest
      exact hne (h.stamped.zero hc hest)
    · have hne := h.stamped.nonzero hest
      rw [h.stamp] at hne ⊢
      cases hdone : l.completed with
      | none => exact absurd (by rw [hdone]; rfl) hne
      | some now => rfl

def freshInitiator : Connection Unit :=
  create 5 .kInitiator 7 "localhost" 9007 none ⟨[], fun _ => 0, ()⟩ 0

theorem fresh_freshInitiator : Fresh freshInitiator :=
  ⟨⟨5, .kInitiator, 7, "localhost", 9007, none, _, 0, rfl⟩⟩

/-- An initiator connects at 1, completes its handshake at 2 and takes another
attempt at 3. -/
def handshakeThenRebind : List (Call Unit) :=
  let env : Env Unit := ⟨[.sent 28], fun _ => 0, ()⟩
  [⟨{}, env, .onWritable 0 1⟩,
    ⟨{}, env, .onReadable [.data (frameChunk { type := 2, feedId := 7 })] 2⟩,
    ⟨{}, env, .rebind 6 3⟩]

/-- The same handshake, after which the peer closes the connection. -/
def handshakeThenClose : List (Call Unit) :=
  let env : Env Unit := ⟨[.sent 28], fun _ => 0, ()⟩
  [⟨{}, env, .onWritable 0 1⟩,
    ⟨{}, env, .onReadable [.data (frameChunk { type := 2, feedId := 7 })] 2⟩,
    ⟨{}, env, .onReadable [.eof] 3⟩]

end UptimeLog

end Vigil
