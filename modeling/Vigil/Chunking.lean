import Vigil.Calls

/-!
# The receive path does not depend on chunking

A peer's bytes reach `on_readable` in calls and `recv()` results cut by the
kernel.  While every `send()` takes all it is offered, the cuts do not matter:
`readAll_eq` says that any series of calls leaves the connection as one pass
of the frame machine over the whole byte string would, followed by the end of
the stream.  `chunking_independent` compares two series; `complete_frames`
says which frames were handled before the end was acted on.
-/

namespace Vigil

open ByteOrder

/-- One `on_readable` call: what `recv()` and `send()` answer during it. -/
structure Read where
  recvs : List RecvOutcome
  sends : List SendOutcome

namespace Connection

variable {σ : Type}

/-- `send()` takes a whole frame. -/
def wholeFrame : SendOutcome := .sent kHeartbeatMessageSize

/-- A call at the fixed time `now`; what the interceptor captured stays. -/
def enter (c : Connection σ) (now : Int) (sends : List SendOutcome) : Connection σ :=
  c.withEnv ⟨sends, fun _ => now, c.env.captured⟩

@[simp] theorem enter_enter (c : Connection σ) (now : Int) (sends sends' : List SendOutcome) :
    (c.enter now sends).enter now sends' = c.enter now sends' := rfl

@[simp] theorem enter_failed (c : Connection σ) (now : Int) (sends : List SendOutcome) :
    (c.enter now sends).failed = c.failed := rfl

/-- `on_readable` calls one after the other, until the connection has failed. -/
def readAll (cfg : Config) (now : Int) : List Read → Connection σ → Connection σ
  | [], c => c
  | r :: rest, c =>
      if c.state = .kFailed then c
      else readAll cfg now rest ((c.enter now r.sends).onReadable cfg r.recvs now)

/-- One frame, received while sends are fully accepted. -/
def receiveFrame (cfg : Config) (now : Int) (c : Connection σ) (frame : List Byte) :
    Connection σ :=
  feedFrame cfg now (c.enter now [wholeFrame]) frame

/-! ## Sends that take everything -/

/-- What queueing a message comes to when every send is fully accepted. -/
def queueAccepted (c : Connection σ) (now : Int) (msg : HeartbeatMessage) : Connection σ :=
  if c.writePending.length + kHeartbeatMessageSize > kMaxWritePendingBytes then
    { c.noteQueued msg with
      writePending := c.writePending ++ (encodeHeartbeat msg).bytes }.handleProtocolViolation
        .writePendingExceeded now
  else if c.writePending = [] then
    { c.noteQueued msg with
      trace := { (c.noteQueued msg).trace with
        accepted := c.trace.accepted ++ (encodeHeartbeat msg).bytes } }
  else { c.noteQueued msg with writePending := c.writePending ++ (encodeHeartbeat msg).bytes }

theorem flushLoop_empty (sends : List SendOutcome) (c : Connection σ) (h : c.writePending = []) :
    flushLoop sends c = c.withSends sends := by
  cases sends with
  | nil => rfl
  | cons outcome rest => simp only [flushLoop, h, if_true]

/-- A single frame is taken by the first send. -/
theorem flushLoop_accepts (k : Nat) (c : Connection σ)
    (h : c.writePending.length = kHeartbeatMessageSize) :
    flushLoop (List.replicate (k + 1) wholeFrame) c =
      (c.acceptBytes kHeartbeatMessageSize).withSends (List.replicate k wholeFrame) := by
  have hne : c.writePending ≠ [] := by
    intro hnil
    simp [hnil, kHeartbeatMessageSize] at h
  have hwhole : ¬ kHeartbeatMessageSize < min 512 kHeartbeatMessageSize := by decide
  have hpos : 0 < kHeartbeatMessageSize := by decide
  have hrest : (c.acceptBytes kHeartbeatMessageSize).writePending = [] := by
    show c.writePending.drop kHeartbeatMessageSize = []
    rw [← h, List.drop_length]
  rw [List.replicate_succ]
  simp only [wholeFrame, flushLoop, hne, if_false, hpos, if_true, h, hwhole]
  exact flushLoop_empty _ _ hrest

/-- With nothing else to send, a message goes out at once. -/
theorem queueMessage_taken (c : Connection σ) (msg : HeartbeatMessage) (k : Nat)
    (hpending : c.writePending = []) (hsends : c.env.sends = List.replicate (k + 1) wholeFrame) :
    c.queueMessage msg =
      { c.noteQueued msg with
        trace := { (c.noteQueued msg).trace with
          accepted := c.trace.accepted ++ (encodeHeartbeat msg).bytes } }.withSends
            (List.replicate k wholeFrame) := by
  have hsize := (encodeHeartbeat msg).length_eq
  have hsmall : ¬ (encodeHeartbeat msg).bytes.length > kMaxWritePendingBytes := by
    rw [hsize]
    decide
  have htake : (encodeHeartbeat msg).bytes.take kHeartbeatMessageSize =
      (encodeHeartbeat msg).bytes := by
    rw [← hsize, List.take_length]
  have hdrop : (encodeHeartbeat msg).bytes.drop kHeartbeatMessageSize = [] := by
    rw [← hsize, List.drop_length]
  simp only [queueMessage, queueWrite, noteQueued, hpending, List.nil_append, if_neg hsmall,
    if_true, flushWriteBuffer, hsends]
  rw [flushLoop_accepts k _ hsize]
  simp only [acceptBytes, htake, hdrop]

theorem queueMessage_accepted (c : Connection σ) (now : Int) (msg : HeartbeatMessage) (k : Nat) :
    ∃ k', k ≤ k' ∧
      (c.enter now (List.replicate (k + 1) wholeFrame)).queueMessage msg =
        (c.queueAccepted now msg).enter now (List.replicate k' wholeFrame) := by
  have hsize := (encodeHeartbeat msg).length_eq
  by_cases hcap : c.writePending.length + kHeartbeatMessageSize > kMaxWritePendingBytes
  · refine ⟨k + 1, by omega, ?_⟩
    simp only [queueMessage, queueWrite, queueAccepted, noteQueued, enter, withEnv,
      List.length_append, hsize, if_pos hcap]
    rfl
  · by_cases hempty : c.writePending = []
    · refine ⟨k, le_refl k, ?_⟩
      rw [queueMessage_taken (c.enter now (List.replicate (k + 1) wholeFrame)) msg k hempty rfl,
        queueAccepted, if_neg hcap, if_pos hempty]
      rfl
    · refine ⟨k + 1, by omega, ?_⟩
      simp only [queueMessage, queueWrite, queueAccepted, noteQueued, enter, withEnv,
        List.length_append, hsize, hcap, if_false, hempty]

/-- Two calls that differ in the number of sends left. -/
theorem queueMessage_replicate (c : Connection σ) (now : Int) (msg : HeartbeatMessage) (k : Nat) :
    ∃ k', k ≤ k' ∧
      (c.enter now (List.replicate (k + 1) wholeFrame)).queueMessage msg =
        ((c.enter now [wholeFrame]).queueMessage msg).enter now (List.replicate k' wholeFrame) := by
  obtain ⟨k', hk, h⟩ := queueMessage_accepted c now msg k
  obtain ⟨j, _, hone⟩ := queueMessage_accepted c now msg 0
  have hone' : (c.enter now [wholeFrame]).queueMessage msg =
      (c.queueAccepted now msg).enter now (List.replicate j wholeFrame) := hone
  exact ⟨k', hk, by rw [h, hone', enter_enter]⟩

theorem handleConnectHello_enter (c : Connection σ) (msg : HeartbeatMessage) (now : Int)
    (sends : List SendOutcome) :
    (c.enter now sends).handleConnectHello msg now =
      if c.role ≠ .kResponder ∨ c.state ≠ .kHandshaking then
        (c.handleProtocolViolation .unexpectedConnectHello now).enter now sends
      else if msg.feedId ≠ c.feedId then
        (c.handleProtocolViolation .connectHelloMismatch now).enter now sends
      else ((c.enter now sends).queueMessage
        (c.message .kConnectAck 0 (BitVec.ofInt 64 now))).completeHandshake now :=
  rfl

theorem handleConnectAck_enter (c : Connection σ) (msg : HeartbeatMessage) (now : Int)
    (sends : List SendOutcome) :
    (c.enter now sends).handleConnectAck msg now =
      (c.handleConnectAck msg now).enter now sends := by
  unfold handleConnectAck
  simp only [apply_ite (fun d : Connection σ => d.enter now sends)]
  rfl

theorem handlePong_enter (cfg : Config) (c : Connection σ) (msg : HeartbeatMessage) (now : Int)
    (sends : List SendOutcome) :
    (c.enter now sends).handlePong cfg msg now =
      (c.handlePong cfg msg now).enter now sends := by
  unfold handlePong
  simp only [apply_ite (fun d : Connection σ => d.enter now sends)]
  rfl

theorem askInterceptor_enter (c : Connection σ) (msg : HeartbeatMessage) (now : Int)
    (sends : List SendOutcome) :
    (c.enter now sends).askInterceptor msg now =
      ((c.askInterceptor msg now).1, (c.askInterceptor msg now).2.enter now sends) := by
  unfold askInterceptor enter withEnv
  cases c.pingInterceptor <;> rfl

theorem sendPong_enter (c : Connection σ) (sequence timestampNs : BitVec 64) (now : Int)
    (sends : List SendOutcome) :
    (c.enter now sends).sendPong sequence timestampNs =
      if c.role ≠ .kResponder ∨ c.state ≠ .kHealthy then c.enter now sends
      else (c.enter now sends).queueMessage (c.message .kPong sequence timestampNs) :=
  rfl

theorem handlePing_enter (c : Connection σ) (msg : HeartbeatMessage) (now : Int)
    (sends : List SendOutcome) :
    (c.enter now sends).handlePing msg now =
      if c.role ≠ .kResponder ∨ c.state ≠ .kHealthy then
        (c.handleProtocolViolation .unexpectedPing now).enter now sends
      else if (c.askInterceptor msg now).1 then
        ((c.askInterceptor msg now).2.enter now sends).sendPong msg.sequence msg.timestampNs
      else (c.askInterceptor msg now).2.enter now sends := by
  unfold handlePing
  rw [askInterceptor_enter]
  rfl

/-- Handling a message uses at most one send and depends on no more. -/
theorem handleMessage_replicate (cfg : Config) (c : Connection σ) (msg : HeartbeatMessage)
    (now : Int) (k : Nat) :
    ∃ k', k ≤ k' ∧
      (c.enter now (List.replicate (k + 1) wholeFrame)).handleMessage cfg msg now =
        ((c.enter now [wholeFrame]).handleMessage cfg msg now).enter now
          (List.replicate k' wholeFrame) := by
  have untouched : ∀ d : Connection σ, ∃ k', k ≤ k' ∧
      d.enter now (List.replicate (k + 1) wholeFrame) =
        (d.enter now [wholeFrame]).enter now (List.replicate k' wholeFrame) :=
    fun d => ⟨k + 1, Nat.le_succ k, rfl⟩
  unfold handleMessage
  cases MessageType.ofByte msg.type with
  | none => exact untouched c
  | some type =>
      cases type with
      | kConnectHello =>
          dsimp only
          rw [handleConnectHello_enter, handleConnectHello_enter]
          split
          · exact untouched _
          · split
            · exact untouched _
            · obtain ⟨k', hk, h⟩ := queueMessage_replicate c now
                (c.message .kConnectAck 0 (BitVec.ofInt 64 now)) k
              exact ⟨k', hk, by rw [h]; rfl⟩
      | kConnectAck =>
          dsimp only
          rw [handleConnectAck_enter, handleConnectAck_enter]
          exact untouched _
      | kPing =>
          dsimp only
          rw [handlePing_enter, handlePing_enter]
          split
          · exact untouched _
          · split
            · rw [sendPong_enter, sendPong_enter]
              split
              · exact untouched _
              · exact queueMessage_replicate (c.askInterceptor msg now).2 now _ k
            · exact untouched _
      | kPong =>
          dsimp only
          rw [handlePong_enter, handlePong_enter]
          exact untouched _
      | kDisconnect => exact untouched (c.handlePeerClosed now)

/-- A frame, too. -/
theorem feedFrame_replicate (cfg : Config) (now : Int) (c : Connection σ) (frame : List Byte)
    (k : Nat) :
    ∃ k', k ≤ k' ∧
      feedFrame cfg now (c.enter now (List.replicate (k + 1) wholeFrame)) frame =
        (receiveFrame cfg now c frame).enter now (List.replicate k' wholeFrame) := by
  unfold receiveFrame feedFrame
  split
  · dsimp only
    split
    · exact handleMessage_replicate cfg (c.noteHandled _) _ now k
    · exact ⟨k + 1, Nat.le_succ k, rfl⟩
  · exact ⟨k + 1, Nat.le_succ k, rfl⟩

/-- Draining with enough sends is the frame machine of `receiveFrame`. -/
theorem feedBuffer_accepted (cfg : Config) (now : Int) (buf : List Byte) (c : Connection σ)
    (k : Nat) (hk : buf.length / kHeartbeatMessageSize ≤ k) :
    ∃ k', feedBuffer cfg now buf (c.enter now (List.replicate k wholeFrame)) =
      ((Framing.drain kHeartbeatMessageSize (receiveFrame cfg now) failed buf c).1.enter now
          (List.replicate k' wholeFrame),
        (Framing.drain kHeartbeatMessageSize (receiveFrame cfg now) failed buf c).2) := by
  have hn : 0 < kHeartbeatMessageSize := by decide
  induction buf, c using Framing.drain_rec (receiveFrame cfg now) failed hn
    generalizing k with
  | short buf c h => exact ⟨k, by rw [feedBuffer, Framing.drain_short _ h, Framing.drain_short _ h]⟩
  | last buf c h hd =>
      obtain ⟨j, rfl⟩ : ∃ j, k = j + 1 := ⟨k - 1, by
        have := Nat.div_pos h hn
        omega⟩
      obtain ⟨k', _, hf⟩ := feedFrame_replicate cfg now c (buf.take kHeartbeatMessageSize) j
      refine ⟨k', ?_⟩
      rw [feedBuffer, Framing.drain_frame hn _ h, Framing.drain_frame hn _ h, hf, enter_failed,
        if_pos hd, if_pos hd]
  | next buf c h hd ih =>
      obtain ⟨j, rfl⟩ : ∃ j, k = j + 1 := ⟨k - 1, by
        have := Nat.div_pos h hn
        omega⟩
      obtain ⟨i, hi, hf⟩ := feedFrame_replicate cfg now c (buf.take kHeartbeatMessageSize) j
      have hrest : (buf.drop kHeartbeatMessageSize).length / kHeartbeatMessageSize ≤ i := by
        simp only [List.length_drop, kHeartbeatMessageSize] at hk ⊢
        omega
      obtain ⟨k', hk'⟩ := ih i hrest
      refine ⟨k', ?_⟩
      have hlive : ¬ (receiveFrame cfg now c (buf.take kHeartbeatMessageSize)).failed = true := by
        simp [hd]
      rw [feedBuffer, Framing.drain_frame hn _ h, Framing.drain_frame hn _ h, hf, enter_failed,
        if_neg hlive, if_neg hlive]
      exact hk'

/-! ## One pass over the whole string -/

/-- One pass of the frame machine over everything received. -/
def receive (cfg : Config) (now : Int) (b : List Byte) (c : Connection σ) :
    Connection σ × List Byte :=
  Framing.drain kHeartbeatMessageSize (receiveFrame cfg now) failed b c

/-- The bytes `b` and then the end of the stream, in one pass. -/
def receiveAll (cfg : Config) (now : Int) (b : List Byte) (ending : RecvEnd) (c : Connection σ) :
    Connection σ :=
  ((receive cfg now (c.readAccum ++ b) c).1.withRead
    (receive cfg now (c.readAccum ++ b) c).2).finishRead ending now

theorem finishRead_enter (c : Connection σ) (ending : RecvEnd) (now : Int)
    (sends : List SendOutcome) :
    (c.enter now sends).finishRead ending now = (c.finishRead ending now).enter now sends := by
  unfold finishRead
  by_cases h : c.state = .kFailed
  · rw [if_pos h, if_pos (show (c.enter now sends).state = .kFailed from h)]
  · rw [if_neg h, if_neg (show ¬ (c.enter now sends).state = .kFailed from h)]
    cases ending <;> rfl

/-- The send script and the receive buffer play no part in the pass. -/
theorem receive_enter (cfg : Config) (now : Int) (b : List Byte) (c : Connection σ)
    (buf : List Byte) (sends : List SendOutcome) :
    (receive cfg now b ((c.withRead buf).enter now sends)).1.enter now [] =
        ((receive cfg now b c).1.withRead buf).enter now [] ∧
      (receive cfg now b ((c.withRead buf).enter now sends)).2 = (receive cfg now b c).2 := by
  have hn : 0 < kHeartbeatMessageSize := by decide
  have hframe : ∀ (d : Connection σ) (frame : List Byte), receiveFrame cfg now
      ((d.withRead buf).enter now sends) frame = (receiveFrame cfg now d frame).withRead buf :=
    fun d frame => feedFrame_withRead cfg now (d.enter now [wholeFrame]) frame buf
  have hread : ∀ (d : Connection σ) (frame : List Byte), receiveFrame cfg now
      (d.withRead buf) frame = (receiveFrame cfg now d frame).withRead buf :=
    fun d frame => feedFrame_withRead cfg now (d.enter now [wholeFrame]) frame buf
  have hrest : ∀ (b : List Byte) (d : Connection σ), receive cfg now b (d.withRead buf) =
      ((receive cfg now b d).1.withRead buf, (receive cfg now b d).2) := by
    intro b d
    induction b, d using Framing.drain_rec (receiveFrame cfg now) failed hn with
    | short b d h => rw [receive, receive, Framing.drain_short _ h, Framing.drain_short _ h]
    | last b d h hd =>
        have hd' : ((receiveFrame cfg now d (b.take kHeartbeatMessageSize)).withRead buf).failed =
            true := hd
        rw [receive, receive, Framing.drain_frame hn _ h, Framing.drain_frame hn _ h, hread,
          if_pos hd', if_pos hd]
    | next b d h hd ih =>
        have hl : ¬ (receiveFrame cfg now d (b.take kHeartbeatMessageSize)).failed = true := by
          simp [hd]
        have hl' : ¬ ((receiveFrame cfg now d (b.take kHeartbeatMessageSize)).withRead buf).failed =
            true := hl
        rw [receive, receive, Framing.drain_frame hn _ h, Framing.drain_frame hn _ h, hread,
          if_neg hl', if_neg hl]
        exact ih
  by_cases h : kHeartbeatMessageSize ≤ b.length
  · have hsame : receive cfg now b ((c.withRead buf).enter now sends) =
        receive cfg now b (c.withRead buf) := by
      rw [receive, receive, Framing.drain_frame hn _ h, Framing.drain_frame hn _ h, hframe, hread]
    rw [hsame, hrest]
    exact ⟨rfl, rfl⟩
  · rw [receive, receive, Framing.drain_short _ (by omega), Framing.drain_short _ (by omega)]
    exact ⟨rfl, rfl⟩

theorem receiveAll_enter (cfg : Config) (now : Int) (b : List Byte) (ending : RecvEnd)
    (c : Connection σ) (buf : List Byte) (sends : List SendOutcome) :
    (receiveAll cfg now b ending ((c.withRead buf).enter now sends)).enter now [] =
      (((receive cfg now (buf ++ b) c).1.withRead (receive cfg now (buf ++ b) c).2).finishRead
        ending now).enter now [] := by
  obtain ⟨h1, h2⟩ := receive_enter cfg now (buf ++ b) c buf sends
  unfold receiveAll
  show ((((receive cfg now (buf ++ b) ((c.withRead buf).enter now sends)).1.withRead
    (receive cfg now (buf ++ b) ((c.withRead buf).enter now sends)).2).finishRead
      ending now).enter now []) = _
  rw [h2, ← finishRead_enter, ← finishRead_enter]
  have hcommute : ∀ (d : Connection σ) (l : List Byte),
      (d.withRead l).enter now [] = (d.enter now []).withRead l := fun _ _ => rfl
  rw [hcommute, hcommute, h1]
  rfl

/-! ## Series of calls -/

/-- During the call every send takes all it is offered, and the buffer stays
within its cap. -/
structure Smooth (c : Connection σ) (r : Read) : Prop where
  accepted : ∃ k, (c.readAccum ++ recvBytes r.recvs).length / kHeartbeatMessageSize ≤ k ∧
    r.sends = List.replicate k wholeFrame
  within : (c.readAccum ++ recvBytes r.recvs).length ≤ kMaxReadAccumBytes

/-- Every call that is made is smooth. -/
def SmoothReads (cfg : Config) (now : Int) : List Read → Connection σ → Prop
  | [], _ => True
  | r :: rest, c => c.state ≠ .kFailed → Smooth c r ∧
      SmoothReads cfg now rest ((c.enter now r.sends).onReadable cfg r.recvs now)

/-- The calls carry the bytes `b`; all drain the socket but the last, which
ends with `ending`. -/
inductive Splits (ending : RecvEnd) : List Byte → List Read → Prop
  | last (r : Read) (h : recvEnd r.recvs = ending) : Splits ending (recvBytes r.recvs) [r]
  | more (r : Read) (h : recvEnd r.recvs = .drained) {b : List Byte} {rest : List Read}
      (hrest : Splits ending b rest) : Splits ending (recvBytes r.recvs ++ b) (r :: rest)

theorem onReadable_smooth (cfg : Config) (now : Int) (c : Connection σ) (r : Read)
    (h : Smooth c r) :
    ∃ k, (c.enter now r.sends).onReadable cfg r.recvs now =
      (receiveAll cfg now (recvBytes r.recvs) (recvEnd r.recvs) c).enter now
        (List.replicate k wholeFrame) := by
  obtain ⟨k, hk, hsends⟩ := h.accepted
  obtain ⟨k', hfeed⟩ := feedBuffer_accepted cfg now (c.readAccum ++ recvBytes r.recvs) c k hk
  refine ⟨k', ?_⟩
  rw [onReadable_within cfg (c.enter now r.sends) r.recvs now h.within, receiveAll,
    ← finishRead_enter, hsends]
  show ((feedBuffer cfg now (c.readAccum ++ recvBytes r.recvs) _).1.withRead
    (feedBuffer cfg now (c.readAccum ++ recvBytes r.recvs) _).2).finishRead _ now = _
  rw [hfeed]
  rfl

/-- **One pass.**  Whatever the cuts, the calls leave the connection as one
pass over the whole string would, up to unused send outcomes. -/
theorem readAll_eq (cfg : Config) (now : Int) {ending : RecvEnd} {b : List Byte}
    {reads : List Read} (hsplit : Splits ending b reads) (c : Connection σ)
    (hlive : c.state ≠ .kFailed) (hsmooth : SmoothReads cfg now reads c) :
    (readAll cfg now reads c).enter now [] = (receiveAll cfg now b ending c).enter now [] := by
  have hn : 0 < kHeartbeatMessageSize := by decide
  have hdead : failed c = false := (failed_eq_false c).mpr hlive
  induction hsplit generalizing c with
  | last r h =>
      obtain ⟨k, hk⟩ := onReadable_smooth cfg now c r (hsmooth hlive).1
      rw [readAll, if_neg hlive, readAll, hk, h, enter_enter]
  | @more r h b rest _ ih =>
      obtain ⟨hr, hrest⟩ := hsmooth hlive
      obtain ⟨k, hk⟩ := onReadable_smooth cfg now c r hr
      have hdrained : receiveAll cfg now (recvBytes r.recvs) .drained c =
          (receive cfg now (c.readAccum ++ recvBytes r.recvs) c).1.withRead
            (receive cfg now (c.readAccum ++ recvBytes r.recvs) c).2 := by
        rw [receiveAll]
        unfold finishRead
        exact ite_self _
      rw [h, hdrained] at hk
      rw [readAll, if_neg hlive]
      generalize (c.enter now r.sends).onReadable cfg r.recvs now = next at hk hrest ⊢
      cases hfailed : failed (receive cfg now (c.readAccum ++ recvBytes r.recvs) c).1 with
      | true =>
          -- the rest is not read, and one pass would not look at it either
          have hstop : receive cfg now (c.readAccum ++ (recvBytes r.recvs ++ b)) c =
              receive cfg now (c.readAccum ++ recvBytes r.recvs) c := by
            rw [← List.append_assoc]
            exact Framing.drain_append_dead hn _ _ c hdead hfailed
          have hstate := (failed_eq_true _).mp hfailed
          have hnext : readAll cfg now rest next = next := by
            cases rest with
            | nil => rfl
            | cons r' rest' => rw [readAll, if_pos (by rw [hk]; exact hstate)]
          rw [hnext, hk, receiveAll, hstop, enter_enter, finishRead_failed _ ending now]
          exact hstate
      | false =>
          have hgo : receive cfg now (c.readAccum ++ (recvBytes r.recvs ++ b)) c =
              receive cfg now ((receive cfg now (c.readAccum ++ recvBytes r.recvs) c).2 ++ b)
                (receive cfg now (c.readAccum ++ recvBytes r.recvs) c).1 := by
            rw [← List.append_assoc]
            exact Framing.drain_append hn _ _ c hfailed
          have hnext : next.failed = false := by
            rw [hk]
            exact hfailed
          rw [ih next ((failed_eq_false _).mp hnext) hrest hnext, hk, receiveAll_enter, receiveAll,
            hgo]

/-- The message a frame decodes to. -/
def decodedFrame (frame : List Byte) : Option HeartbeatMessage :=
  if h : frame.length = kHeartbeatMessageSize then
    if (decodeHeartbeat ⟨frame, h⟩ {}).1 then some (decodeHeartbeat ⟨frame, h⟩ {}).2 else none
  else none

theorem receiveFrame_handled (cfg : Config) (now : Int) (c : Connection σ) (frame : List Byte) :
    (receiveFrame cfg now c frame).trace.handled =
      c.trace.handled ++ (decodedFrame frame).toList := by
  unfold receiveFrame feedFrame decodedFrame
  split
  · dsimp only
    split
    · exact handled_of_core (handleMessage_core cfg ((c.enter now [wholeFrame]).noteHandled _) _ now)
    · simp [handleProtocolViolation, transitionTo, report, enter, withEnv]
  · simp [enter, withEnv]

theorem foldl_handled (cfg : Config) (now : Int) (frames : List (List Byte)) (c : Connection σ) :
    (frames.foldl (receiveFrame cfg now) c).trace.handled =
      c.trace.handled ++ frames.filterMap decodedFrame := by
  induction frames generalizing c with
  | nil => simp
  | cons frame rest ih =>
      rw [List.foldl_cons, ih, receiveFrame_handled, List.append_assoc]
      cases h : decodedFrame frame <;> simp [h]

/-- **Chunking does not matter.**  A connection that has not failed reads the
bytes `b` and then meets `ending`, at a fixed time and with every send fully
accepted, in any two ways the kernel may cut them.  The two results agree in
every field but the unused send outcomes; and the frames handled, the same in
both, are the complete ones up to the first that fails the connection, or all
of them. -/
theorem chunking_independent (cfg : Config) (now : Int) (c : Connection σ) (b : List Byte)
    (ending : RecvEnd) (reads reads' : List Read) (hlive : c.state ≠ .kFailed)
    (hsplit : Splits ending b reads) (hsplit' : Splits ending b reads')
    (hsmooth : SmoothReads cfg now reads c) (hsmooth' : SmoothReads cfg now reads' c) :
    (readAll cfg now reads c).enter now [] = (readAll cfg now reads' c).enter now [] ∧
      ∃ fed : List (List Byte), (∀ f ∈ fed, f.length = kHeartbeatMessageSize) ∧
        fed.flatten <+: c.readAccum ++ b ∧
        (readAll cfg now reads c).trace.handled = c.trace.handled ++ fed.filterMap decodedFrame ∧
        (∀ early later, fed = early ++ later → later ≠ [] →
          (early.foldl (receiveFrame cfg now) c).state ≠ .kFailed) ∧
        ((fed.foldl (receiveFrame cfg now) c).state = .kFailed ∨
          (c.readAccum ++ b).length < fed.flatten.length + kHeartbeatMessageSize) := by
  have hone := readAll_eq cfg now hsplit c hlive hsmooth
  refine ⟨hone.trans (readAll_eq cfg now hsplit' c hlive hsmooth').symm, ?_⟩
  obtain ⟨fed, hlen, hpre, hfold, hearly, hall⟩ := Framing.drain_frames
    (receiveFrame cfg now) failed (n := kHeartbeatMessageSize) (by decide)
    (c.readAccum ++ b) c ((failed_eq_false c).mpr hlive)
  refine ⟨fed, hlen, hpre, ?_, fun early later he hne =>
    (failed_eq_false _).mp (hearly early later he hne), ?_⟩
  · have hhandled : (readAll cfg now reads c).trace.handled =
        (receiveAll cfg now b ending c).trace.handled := by
      have h := congrArg (fun d : Connection σ => d.trace.handled) hone
      exact h
    rw [hhandled, receiveAll, handled_of_core (finishRead_core _ _ now), ← foldl_handled cfg now,
      ← hfold]
    rfl
  · rw [← hfold]
    cases hf : failed (Framing.drain kHeartbeatMessageSize (receiveFrame cfg now) failed
        (c.readAccum ++ b) c).1 with
    | true => exact Or.inl ((failed_eq_true _).mp hf)
    | false => exact Or.inr (hall hf)

/-- A client that has just been accepted. -/
def newClient : Connection Unit :=
  create 9 .kResponder 7 "127.0.0.1" 40000 none ⟨[], fun _ => 0, ()⟩ 0

/-- The client's HELLO and the end of its stream, in one call. -/
def helloAtOnce : List Read :=
  [⟨[.data (frameChunk { type := MessageType.kConnectHello.toByte, feedId := 7 }), .eof],
    [wholeFrame]⟩]

/-- The same in two calls and three chunks. -/
def helloInPieces : List Read :=
  let wire := (encodeHeartbeat { type := MessageType.kConnectHello.toByte, feedId := 7 }).bytes
  [⟨[.data ⟨wire.take 10, by decide +kernel⟩], []⟩,
    ⟨[.data ⟨(wire.drop 10).take 5, by decide +kernel⟩, .eintr,
      .data ⟨wire.drop 15, by decide +kernel⟩, .eof], [wholeFrame]⟩]

/-- Both ways the HELLO is handled before the EOF fails the connection. -/
theorem chunking_hello :
    (readAll {} 5 helloAtOnce newClient).enter 5 [] =
        (readAll {} 5 helloInPieces newClient).enter 5 [] ∧
      (readAll {} 5 helloInPieces newClient).trace.handled.length = 1 := by
  refine ⟨(chunking_independent {} 5 newClient
    (encodeHeartbeat { type := MessageType.kConnectHello.toByte, feedId := 7 }).bytes .peerClosed
    helloAtOnce helloInPieces (by decide +kernel) ?_ ?_ ?_ ?_).1, by decide +kernel⟩
  · have h : Splits .peerClosed _ _ := .last (helloAtOnce.head (by decide)) rfl
    rwa [show recvBytes (helloAtOnce.head (by decide)).recvs =
      (encodeHeartbeat { type := MessageType.kConnectHello.toByte, feedId := 7 }).bytes by
        decide +kernel] at h
  · have h : Splits .peerClosed _ _ := .more (helloInPieces.head (by decide)) rfl
      (.last (helloInPieces.getLast (by decide)) rfl)
    rwa [show recvBytes (helloInPieces.head (by decide)).recvs ++
        recvBytes (helloInPieces.getLast (by decide)).recvs =
      (encodeHeartbeat { type := MessageType.kConnectHello.toByte, feedId := 7 }).bytes by
        decide +kernel] at h
  · exact fun _ => ⟨⟨⟨1, by decide +kernel, rfl⟩, by decide +kernel⟩, trivial⟩
  · exact fun _ => ⟨⟨⟨0, by decide +kernel, rfl⟩, by decide +kernel⟩,
      fun _ => ⟨⟨⟨1, by decide +kernel, rfl⟩, by decide +kernel⟩, trivial⟩⟩

end Connection

end Vigil
