import Vigil.Framing
import Vigil.WritePath

/-!
# What the read path can do

`drain_read_buffer` is the frame machine of `Framing` run on `read_accum_`:
each complete frame is decoded and dispatched, an undecodable one is a protocol
violation, and a failed connection drops the rest (`drainReadBuffer_eq`).  The
handlers neither read nor write `read_accum_`, which the `_withRead` lemmas
record.

`recvLoop_eq` describes the receive loop: it either takes in everything the
call was given or stops at the cap.
-/

namespace Vigil

open ByteOrder

namespace Connection

variable {σ : Type}

/-- The connection with another receive buffer. -/
def withRead (c : Connection σ) (buf : List Byte) : Connection σ :=
  { c with readAccum := buf }

@[simp] theorem withRead_readAccum (c : Connection σ) (buf : List Byte) :
    (c.withRead buf).readAccum = buf := rfl

@[simp] theorem withRead_state (c : Connection σ) (buf : List Byte) :
    (c.withRead buf).state = c.state := rfl

@[simp] theorem withRead_trace (c : Connection σ) (buf : List Byte) :
    (c.withRead buf).trace = c.trace := rfl

@[simp] theorem withRead_withRead (c : Connection σ) (buf buf' : List Byte) :
    (c.withRead buf).withRead buf' = c.withRead buf' := rfl

@[simp] theorem withRead_self (c : Connection σ) : c.withRead c.readAccum = c := rfl

/-! ## Handlers ignore the receive buffer -/

theorem flushLoop_withRead (outcomes : List SendOutcome) (c : Connection σ) (buf : List Byte) :
    flushLoop outcomes (c.withRead buf) = (flushLoop outcomes c).withRead buf := by
  induction outcomes generalizing c with
  | nil => rfl
  | cons outcome rest ih =>
      cases outcome with
      | sent n =>
          have hacc : (c.withRead buf).acceptBytes n = (c.acceptBytes n).withRead buf := rfl
          simp only [flushLoop, hacc, ih, apply_ite (fun d : Connection σ => d.withRead buf)]
          rfl
      | eagain =>
          simp only [flushLoop, apply_ite (fun d : Connection σ => d.withRead buf)]
          rfl
      | eintr =>
          simp only [flushLoop, ih, apply_ite (fun d : Connection σ => d.withRead buf)]
          rfl
      | error errno =>
          simp only [flushLoop, apply_ite (fun d : Connection σ => d.withRead buf)]
          rfl

theorem queueMessage_withRead (c : Connection σ) (msg : HeartbeatMessage) (buf : List Byte) :
    (c.withRead buf).queueMessage msg = (c.queueMessage msg).withRead buf := by
  unfold queueMessage queueWrite flushWriteBuffer
  dsimp only
  simp only [apply_ite (fun d : Connection σ => d.withRead buf), ← flushLoop_withRead]
  rfl

theorem sendPong_withRead (c : Connection σ) (sequence timestampNs : BitVec 64)
    (buf : List Byte) :
    (c.withRead buf).sendPong sequence timestampNs =
      (c.sendPong sequence timestampNs).withRead buf := by
  unfold sendPong
  simp only [apply_ite (fun d : Connection σ => d.withRead buf), ← queueMessage_withRead]
  rfl

theorem handleConnectHello_withRead (c : Connection σ) (msg : HeartbeatMessage) (now : Int)
    (buf : List Byte) :
    (c.withRead buf).handleConnectHello msg now =
      (c.handleConnectHello msg now).withRead buf := by
  unfold handleConnectHello
  simp only [queueMessage_withRead, apply_ite (fun d : Connection σ => d.withRead buf)]
  rfl

theorem askInterceptor_withRead (c : Connection σ) (msg : HeartbeatMessage) (now : Int)
    (buf : List Byte) :
    (c.withRead buf).askInterceptor msg now =
      ((c.askInterceptor msg now).1, (c.askInterceptor msg now).2.withRead buf) := by
  unfold askInterceptor withRead
  cases c.pingInterceptor <;> rfl

theorem handlePing_withRead (c : Connection σ) (msg : HeartbeatMessage) (now : Int)
    (buf : List Byte) :
    (c.withRead buf).handlePing msg now = (c.handlePing msg now).withRead buf := by
  unfold handlePing
  simp only [askInterceptor_withRead, sendPong_withRead,
    apply_ite (fun d : Connection σ => d.withRead buf)]
  rfl

theorem handleConnectAck_withRead (c : Connection σ) (msg : HeartbeatMessage) (now : Int)
    (buf : List Byte) :
    (c.withRead buf).handleConnectAck msg now = (c.handleConnectAck msg now).withRead buf := by
  unfold handleConnectAck
  simp only [apply_ite (fun d : Connection σ => d.withRead buf)]
  rfl

theorem handlePong_withRead (cfg : Config) (c : Connection σ) (msg : HeartbeatMessage)
    (now : Int) (buf : List Byte) :
    (c.withRead buf).handlePong cfg msg now = (c.handlePong cfg msg now).withRead buf := by
  unfold handlePong
  simp only [apply_ite (fun d : Connection σ => d.withRead buf)]
  rfl

theorem handleMessage_withRead (cfg : Config) (c : Connection σ) (msg : HeartbeatMessage)
    (now : Int) (buf : List Byte) :
    (c.withRead buf).handleMessage cfg msg now = (c.handleMessage cfg msg now).withRead buf := by
  unfold handleMessage
  cases MessageType.ofByte msg.type with
  | none => rfl
  | some type =>
      cases type with
      | kConnectHello => exact handleConnectHello_withRead c msg now buf
      | kConnectAck => exact handleConnectAck_withRead c msg now buf
      | kPing => exact handlePing_withRead c msg now buf
      | kPong => exact handlePong_withRead cfg c msg now buf
      | kDisconnect => rfl

theorem dispatch_withRead (cfg : Config) (c : Connection σ) (msg : HeartbeatMessage) (now : Int)
    (buf : List Byte) :
    (c.withRead buf).dispatch cfg msg now = (c.dispatch cfg msg now).withRead buf :=
  handleMessage_withRead cfg (c.noteHandled msg) msg now buf

/-- Dispatching a message leaves the receive buffer as it was. -/
@[simp] theorem dispatch_readAccum (cfg : Config) (c : Connection σ) (msg : HeartbeatMessage)
    (now : Int) : (c.dispatch cfg msg now).readAccum = c.readAccum := by
  have h := dispatch_withRead cfg c msg now c.readAccum
  rw [withRead_self] at h
  rw [h, withRead_readAccum]

/-! ## Draining is a frame machine -/

/-- What one frame does: dispatch it, or report it as undecodable. -/
def feedFrame (cfg : Config) (now : Int) (c : Connection σ) (frame : List Byte) : Connection σ :=
  if h : frame.length = kHeartbeatMessageSize then
    let decoded := decodeHeartbeat ⟨frame, h⟩ {}
    if decoded.1 then c.dispatch cfg decoded.2 now
    else c.handleProtocolViolation .corruptMessage now
  else c

theorem feedFrame_bytes (cfg : Config) (now : Int) (c : Connection σ)
    (wire : HeartbeatWireBuffer) :
    feedFrame cfg now c wire.bytes =
      if (decodeHeartbeat wire {}).1 then c.dispatch cfg (decodeHeartbeat wire {}).2 now
      else c.handleProtocolViolation .corruptMessage now := by
  rw [feedFrame, dif_pos wire.length_eq]

/-- Has the connection failed? -/
def failed (c : Connection σ) : Bool :=
  c.state = .kFailed

@[simp] theorem failed_eq_true (c : Connection σ) : c.failed = true ↔ c.state = .kFailed := by
  simp [failed]

@[simp] theorem failed_eq_false (c : Connection σ) : c.failed = false ↔ c.state ≠ .kFailed := by
  simp [failed]

/-- All complete frames of a buffer, fed in order. -/
abbrev feedBuffer (cfg : Config) (now : Int) (buf : List Byte) (c : Connection σ) :
    Connection σ × List Byte :=
  Framing.drain kHeartbeatMessageSize (feedFrame cfg now) failed buf c

theorem feedFrame_withRead (cfg : Config) (now : Int) (c : Connection σ) (frame buf : List Byte) :
    feedFrame cfg now (c.withRead buf) frame = (feedFrame cfg now c frame).withRead buf := by
  unfold feedFrame
  split
  · simp only [dispatch_withRead, apply_ite (fun d : Connection σ => d.withRead buf)]
    rfl
  · rfl

/-- The receive buffer plays no part while frames are fed. -/
theorem feedBuffer_withRead (cfg : Config) (now : Int) (frames : List Byte) (c : Connection σ)
    (buf : List Byte) :
    feedBuffer cfg now frames (c.withRead buf) =
      ((feedBuffer cfg now frames c).1.withRead buf, (feedBuffer cfg now frames c).2) := by
  have hn : 0 < kHeartbeatMessageSize := by decide
  have hdead : ∀ d : Connection σ, (d.withRead buf).failed = d.failed := fun _ => rfl
  induction frames, c using Framing.drain_rec (feedFrame cfg now) failed hn with
  | short frames c h => simp only [feedBuffer, Framing.drain_short _ h]
  | last frames c h hd =>
      simp only [feedBuffer, Framing.drain_frame hn _ h, feedFrame_withRead, hdead, hd, if_true]
  | next frames c h hd ih =>
      simp only [feedBuffer, Framing.drain_frame hn _ h, feedFrame_withRead, hdead, hd] at ih ⊢
      exact ih

theorem drainLoop_eq (cfg : Config) (now : Int) (turns offset : Nat) (c : Connection σ) :
    drainLoop cfg now turns offset c =
      (Framing.consume kHeartbeatMessageSize (feedFrame cfg now) failed turns
        (c.readAccum.drop offset) c).1.withRead
      (Framing.consume kHeartbeatMessageSize (feedFrame cfg now) failed turns
        (c.readAccum.drop offset) c).2 := by
  induction turns generalizing offset c with
  | zero => rfl
  | succ turns ih =>
      by_cases h : kHeartbeatMessageSize ≤ c.readAccum.length - offset
      · have hlen : kHeartbeatMessageSize ≤ (c.readAccum.drop offset).length := by simpa using h
        have hfeed : feedFrame cfg now c ((c.readAccum.drop offset).take kHeartbeatMessageSize) =
            _ := feedFrame_bytes cfg now c (frameAt c.readAccum offset h)
        simp only [drainLoop, dif_pos h, Framing.consume, if_pos hlen, hfeed]
        by_cases hdec : (decodeHeartbeat (frameAt c.readAccum offset h) {}).1 = true
        · simp only [if_pos hdec, ih, dispatch_readAccum, List.drop_drop]
          by_cases hf : (c.dispatch cfg
              (decodeHeartbeat (frameAt c.readAccum offset h) {}).2 now).state = .kFailed
          · rw [if_pos hf, if_pos ((failed_eq_true _).mpr hf)]
            rfl
          · rw [if_neg hf, if_neg (mt (failed_eq_true _).mp hf)]
        · simp only [if_neg hdec]
          rfl
      · have hlen : ¬ kHeartbeatMessageSize ≤ (c.readAccum.drop offset).length := by simpa using h
        simp only [drainLoop, dif_neg h, Framing.consume, if_neg hlen]
        rfl

/-- **Draining.**  `drain_read_buffer` feeds the complete frames of
`read_accum_` in order and keeps what is left. -/
theorem drainReadBuffer_eq (cfg : Config) (c : Connection σ) (now : Int) :
    c.drainReadBuffer cfg now =
      (feedBuffer cfg now c.readAccum c).1.withRead (feedBuffer cfg now c.readAccum c).2 :=
  drainLoop_eq cfg now c.readAccum.length 0 c

/-! ## The receive loop -/

/-- All bytes a list of `recv()` outcomes yields before the loop ends. -/
def recvBytes : List RecvOutcome → List Byte
  | .data chunk :: rest => chunk.val ++ recvBytes rest
  | .eintr :: rest => recvBytes rest
  | _ => []

/-- How the loop over a list of `recv()` outcomes ends if the cap permits. -/
def recvEnd : List RecvOutcome → RecvEnd
  | .data _ :: rest => recvEnd rest
  | .eintr :: rest => recvEnd rest
  | .eof :: _ => .peerClosed
  | .error errno :: _ => .socketError errno
  | _ => .drained

/-- The loop takes in all bytes, or stops in the middle once the buffer is
over the cap. -/
theorem recvLoop_eq (now : Int) (recvs : List RecvOutcome) (c : Connection σ) :
    ((c.readAccum.length ≤ kMaxReadAccumBytes →
        (c.readAccum ++ recvBytes recvs).length ≤ kMaxReadAccumBytes) ∧
      recvLoop now recvs c =
        (c.withRead (c.readAccum ++ recvBytes recvs), some (recvEnd recvs))) ∨
      ∃ buf, kMaxReadAccumBytes < buf.length ∧ buf <+: c.readAccum ++ recvBytes recvs ∧
        recvLoop now recvs c =
          ((c.withRead buf).handleProtocolViolation .readAccumExceeded now, none) := by
  induction recvs generalizing c with
  | nil => left; simp [recvLoop, recvBytes, recvEnd]
  | cons outcome rest ih =>
      cases outcome with
      | data chunk =>
          by_cases hcap : (c.readAccum ++ chunk.val).length > kMaxReadAccumBytes
          · right
            refine ⟨c.readAccum ++ chunk.val, hcap, ?_, ?_⟩
            · rw [recvBytes, ← List.append_assoc]
              exact List.prefix_append _ _
            · simp only [recvLoop, if_pos hcap]
              rfl
          · have hnext := ih (c.withRead (c.readAccum ++ chunk.val))
            simp only [withRead_readAccum, withRead_withRead] at hnext
            simp only [recvLoop, if_neg hcap, recvBytes, recvEnd, ← List.append_assoc]
            rcases hnext with ⟨hle, heq⟩ | hover
            · exact Or.inl ⟨fun _ => hle (Nat.not_lt.mp hcap), heq⟩
            · exact Or.inr hover
      | eof => left; simp [recvLoop, recvBytes, recvEnd]
      | eagain => left; simp [recvLoop, recvBytes, recvEnd]
      | eintr => simpa [recvLoop, recvBytes, recvEnd] using ih c
      | error errno => left; simp [recvLoop, recvBytes, recvEnd]

/-- **Reading.**  `on_readable` either takes in all bytes, feeds the complete
frames and then acts on the end of the stream, or fails at the cap. -/
theorem onReadable_eq (cfg : Config) (c : Connection σ) (recvs : List RecvOutcome) (now : Int) :
    (∃ all, (all = c.readAccum ++ recvBytes recvs ∧
        (c.readAccum.length ≤ kMaxReadAccumBytes → all.length ≤ kMaxReadAccumBytes)) ∧
      c.onReadable cfg recvs now =
        ((feedBuffer cfg now all c).1.withRead (feedBuffer cfg now all c).2).finishRead
          (recvEnd recvs) now) ∨
      ∃ buf, kMaxReadAccumBytes < buf.length ∧ buf <+: c.readAccum ++ recvBytes recvs ∧
        c.onReadable cfg recvs now =
          (c.withRead buf).handleProtocolViolation .readAccumExceeded now := by
  unfold onReadable
  rcases recvLoop_eq now recvs c with ⟨hle, h⟩ | ⟨buf, hlen, hpre, h⟩
  · left
    refine ⟨_, ⟨rfl, hle⟩, ?_⟩
    rw [h]
    dsimp only
    rw [drainReadBuffer_eq, withRead_readAccum, feedBuffer_withRead, withRead_withRead]
  · right
    exact ⟨buf, hlen, hpre, by rw [h]⟩

theorem onReadable_within (cfg : Config) (c : Connection σ) (recvs : List RecvOutcome) (now : Int)
    (hcap : (c.readAccum ++ recvBytes recvs).length ≤ kMaxReadAccumBytes) :
    c.onReadable cfg recvs now =
      ((feedBuffer cfg now (c.readAccum ++ recvBytes recvs) c).1.withRead
        (feedBuffer cfg now (c.readAccum ++ recvBytes recvs) c).2).finishRead
          (recvEnd recvs) now := by
  rcases onReadable_eq cfg c recvs now with ⟨all, ⟨rfl, _⟩, h⟩ | ⟨buf, hlen, hpre, _⟩
  · exact h
  · have := hpre.length_le
    omega

/-! ## A read is a run of messages -/

/-- The messages, handled one after the other. -/
def dispatchAll (cfg : Config) (now : Int) (c : Connection σ) (msgs : List HeartbeatMessage) :
    Connection σ :=
  msgs.foldl (fun c msg => c.dispatch cfg msg now) c

/-- Everything a read can do: it handles some messages, keeps some bytes, and
may fail the connection after that. -/
inductive ReadResult (cfg : Config) (now : Int) (c : Connection σ) : Connection σ → Prop
  | through (msgs : List HeartbeatMessage) (buf : List Byte) :
      ReadResult cfg now c ((c.dispatchAll cfg now msgs).withRead buf)
  | failing (msgs : List HeartbeatMessage) (buf : List Byte) (r : Report) :
      ReadResult cfg now c
        ((((c.dispatchAll cfg now msgs).withRead buf).report r).transitionTo .kFailed now)

theorem feedBuffer_dispatchAll (cfg : Config) (now : Int) (buf : List Byte) (c : Connection σ) :
    ∃ msgs, (feedBuffer cfg now buf c).1 = c.dispatchAll cfg now msgs ∨
      (feedBuffer cfg now buf c).1 =
        (c.dispatchAll cfg now msgs).handleProtocolViolation .corruptMessage now := by
  have hframe : ∀ (d : Connection σ) (buf : List Byte), kHeartbeatMessageSize ≤ buf.length →
      (∃ msg, feedFrame cfg now d (buf.take kHeartbeatMessageSize) = d.dispatch cfg msg now) ∨
        feedFrame cfg now d (buf.take kHeartbeatMessageSize) =
          d.handleProtocolViolation .corruptMessage now := by
    intro d buf hlen
    rw [feedFrame, dif_pos (List.length_take_of_le hlen)]
    dsimp only
    split
    · exact Or.inl ⟨_, rfl⟩
    · exact Or.inr rfl
  induction buf, c using Framing.drain_rec (feedFrame cfg now) failed
    (n := kHeartbeatMessageSize) (by decide) with
  | short buf c h =>
      rw [feedBuffer, Framing.drain_short c h]
      exact ⟨[], Or.inl rfl⟩
  | last buf c h hd =>
      rw [feedBuffer, Framing.drain_frame (by decide) c h, if_pos hd]
      rcases hframe c buf h with ⟨msg, heq⟩ | heq
      · exact ⟨[msg], Or.inl heq⟩
      · exact ⟨[], Or.inr heq⟩
  | next buf c h hd ih =>
      rw [feedBuffer, Framing.drain_frame (by decide) c h, if_neg (by simp [hd])]
      rcases hframe c buf h with ⟨msg, heq⟩ | heq
      · rw [heq] at ih ⊢
        obtain ⟨msgs, hmsgs⟩ := ih
        exact ⟨msg :: msgs, hmsgs⟩
      · -- a frame that fails the connection is the last one
        rw [heq] at hd
        exact absurd hd (by simp [handleProtocolViolation, transitionTo])

theorem finishRead_cases (c : Connection σ) (ending : RecvEnd) (now : Int) :
    c.finishRead ending now = c ∨ c.finishRead ending now = c.handlePeerClosed now ∨
      ∃ errno, c.finishRead ending now = c.handleSocketError now errno := by
  unfold finishRead
  split
  · exact Or.inl rfl
  · cases ending with
    | drained => exact Or.inl rfl
    | peerClosed => exact Or.inr (Or.inl rfl)
    | socketError errno => exact Or.inr (Or.inr ⟨errno, rfl⟩)

theorem finishRead_failed (c : Connection σ) (ending : RecvEnd) (now : Int)
    (h : c.state = .kFailed) : c.finishRead ending now = c := by
  unfold finishRead
  exact if_pos h

theorem onReadable_result (cfg : Config) (c : Connection σ) (recvs : List RecvOutcome)
    (now : Int) : ReadResult cfg now c (c.onReadable cfg recvs now) := by
  rcases onReadable_eq cfg c recvs now with ⟨all, _, heq⟩ | ⟨buf, _, _, heq⟩
  · rw [heq]
    obtain ⟨msgs, hmsgs | hmsgs⟩ := feedBuffer_dispatchAll cfg now all c
    · rw [hmsgs]
      rcases finishRead_cases ((c.dispatchAll cfg now msgs).withRead
        (feedBuffer cfg now all c).2) (recvEnd recvs) now with he | he | ⟨errno, he⟩
      · rw [he]
        exact .through msgs _
      · rw [he]
        exact .failing msgs _ .peerClosed
      · rw [he]
        exact .failing msgs _ (.socketError errno)
    · rw [hmsgs, finishRead_failed _ _ now rfl]
      exact .failing msgs _ (.protocolViolation .corruptMessage)
  · rw [heq]
    exact .failing [] buf (.protocolViolation .readAccumExceeded)

/-- **Read rule.**  A read keeps what every message keeps, what failing keeps
and what does not depend on the receive buffer. -/
theorem onReadable_keeps {cfg : Config} {now : Int} {I : Connection σ → Prop}
    (hdispatch : ∀ c msg, I c → I (c.dispatch cfg msg now))
    (hfail : ∀ c r, I c → I ((c.report r).transitionTo .kFailed now))
    (hread : ∀ c buf, I c → I (c.withRead buf)) {c : Connection σ} (hc : I c)
    (recvs : List RecvOutcome) : I (c.onReadable cfg recvs now) := by
  have hall : ∀ msgs : List HeartbeatMessage, I (c.dispatchAll cfg now msgs) :=
    fun msgs => List.foldlRecOn msgs _ hc fun d hd msg _ => hdispatch d msg hd
  have hresult := onReadable_result cfg c recvs now
  generalize c.onReadable cfg recvs now = result at hresult ⊢
  cases hresult with
  | through msgs buf => exact hread _ buf (hall msgs)
  | failing msgs buf r => exact hfail _ r (hread _ buf (hall msgs))

end Connection

end Vigil
