import Vigil.FeedSimulator

/-!
# Which PINGs are deferred

The interceptor of a client is asked in the middle of `on_readable`, once for
each PING that the connection accepts, and what it does to the pending replies
is all that happens to them during the call.  `readAsked` lists the questions
of one call, each with the desk as the interceptor finds it; the PING hits the
latency fault if that desk `defers`.
-/

namespace Vigil

namespace Connection

variable {σ : Type}

/-! ## The questions of a call -/

/-- Inside `handle_message`: the PING, and what the interceptor has captured. -/
def messageAsked (c : Connection σ) (msg : HeartbeatMessage) : List (HeartbeatMessage × σ) :=
  match MessageType.ofByte msg.type with
  | some .kPing =>
      if c.role ≠ .kResponder ∨ c.state ≠ .kHealthy then [] else [(msg, c.env.captured)]
  | _ => []

/-- Inside `drain_read_buffer`. -/
def drainAsked (cfg : Config) (now : Int) :
    Nat → Nat → Connection σ → List (HeartbeatMessage × σ)
  | 0, _, _ => []
  | turns + 1, offset, c =>
      if h : kHeartbeatMessageSize ≤ c.readAccum.length - offset then
        let decoded := decodeHeartbeat (frameAt c.readAccum offset h) {}
        if decoded.1 then
          let handled := c.dispatch cfg decoded.2 now
          c.messageAsked decoded.2 ++
            if handled.state = .kFailed then []
            else drainAsked cfg now turns (offset + kHeartbeatMessageSize) handled
        else []
      else []

/-- Inside `on_readable`. -/
def readAsked (cfg : Config) (c : Connection σ) (recvs : List RecvOutcome) (now : Int) :
    List (HeartbeatMessage × σ) :=
  match recvLoop now recvs c with
  | (_, none) => []
  | (received, some _) => received.drainAsked cfg now received.readAccum.length 0

/-! ## What else reaches the captured state -/

theorem queueMessage_captured (c : Connection σ) (msg : HeartbeatMessage) :
    (c.queueMessage msg).env.captured = c.env.captured := by
  obtain ⟨w, hw, _⟩ := queueMessage_eq c msg
  rw [hw]
  rfl

theorem flushWriteBuffer_captured (c : Connection σ) :
    c.flushWriteBuffer.env.captured = c.env.captured := by
  obtain ⟨w, hw, _⟩ := flushLoop_eq c.env.sends c
  rw [flushWriteBuffer, hw]
  rfl

theorem sendPong_captured (c : Connection σ) (sequence timestampNs : BitVec 64) :
    (c.sendPong sequence timestampNs).env.captured = c.env.captured := by
  unfold sendPong
  split
  · rfl
  · exact queueMessage_captured c _

theorem onWritable_captured (c : Connection σ) (soError : Nat) (now : Int) :
    (c.onWritable soError now).env.captured = c.env.captured := by
  unfold onWritable
  split
  · split
    · rfl
    · dsimp only
      split
      · exact queueMessage_captured (c.transitionTo .kHandshaking now) _
      · rfl
  · exact flushWriteBuffer_captured c

theorem finishRead_captured (c : Connection σ) (ending : RecvEnd) (now : Int) :
    (c.finishRead ending now).env.captured = c.env.captured := by
  rcases finishRead_cases c ending now with h | h | ⟨errno, h⟩
  · rw [h]
  · rw [h]
    rfl
  · rw [h]
    rfl

theorem recvLoop_captured (now : Int) (recvs : List RecvOutcome) (c : Connection σ) :
    (recvLoop now recvs c).1.env.captured = c.env.captured ∧
      (recvLoop now recvs c).1.pingInterceptor = c.pingInterceptor := by
  rcases recvLoop_eq now recvs c with ⟨_, h⟩ | ⟨buf, _, _, h⟩
  · rw [h]
    exact ⟨rfl, rfl⟩
  · rw [h]
    exact ⟨rfl, rfl⟩

/-- Only a PING reaches the interceptor. -/
theorem handleMessage_captured (cfg : Config) (c : Connection σ) (msg : HeartbeatMessage)
    (now : Int) (hping : MessageType.ofByte msg.type ≠ some .kPing) :
    (c.handleMessage cfg msg now).env.captured = c.env.captured := by
  have h := handleMessage_result cfg c msg now
  generalize c.handleMessage cfg msg now = result at h ⊢
  cases h with
  | hello => exact queueMessage_captured c _
  | pingAnswered captured ht => exact absurd ht hping
  | pingHeld captured ht => exact absurd ht hping
  | _ => rfl

/-- The interceptor answers each question once, and nothing else changes what it
has captured. -/
theorem handleMessage_asked (cfg : Config) (c : Connection σ) (msg : HeartbeatMessage) (now : Int)
    {intercept : PingInterceptor σ} (h : c.pingInterceptor = some intercept) :
    (c.messageAsked msg = [] ∧ (c.handleMessage cfg msg now).env.captured = c.env.captured) ∨
      (c.messageAsked msg = [(msg, c.env.captured)] ∧
        (c.handleMessage cfg msg now).env.captured =
          (intercept msg.sequence msg.timestampNs c.env.captured).2) := by
  by_cases hping : MessageType.ofByte msg.type = some .kPing
  · have hmessage : c.handleMessage cfg msg now = c.handlePing msg now := by
      rw [handleMessage, hping]
    rw [hmessage, handlePing, messageAsked, hping]
    dsimp only
    split
    · exact Or.inl ⟨rfl, rfl⟩
    · refine Or.inr ⟨rfl, ?_⟩
      have hasked : (c.askInterceptor msg now).2.env.captured =
          (intercept msg.sequence msg.timestampNs c.env.captured).2 := by
        rw [askInterceptor, h]
      split
      · exact (sendPong_captured _ msg.sequence msg.timestampNs).trans hasked
      · exact hasked
  · refine Or.inl ⟨?_, handleMessage_captured cfg c msg now hping⟩
    unfold messageAsked
    split
    · next heq => exact absurd heq hping
    · rfl

end Connection

/-! ## What the interceptor answers -/

namespace Desk

/-- The PING hits the latency fault: it is not dropped, and there is a delay. -/
def defers (desk : Desk) : Bool :=
  !desk.drops.1 && 0 < desk.faults.extraLatency

/-- The reply that is then pending. -/
def deferral (desk : Desk) (fd : Int) (owner : Nat) (msg : HeartbeatMessage) : PendingReply :=
  ⟨desk.clock 0 + desk.delay.1, fd, msg.sequence, msg.timestampNs, owner⟩

/-- One pending reply for each PING of these that hits the fault. -/
def deferrals (fd : Int) (owner : Nat) (asked : List (HeartbeatMessage × Desk)) :
    List PendingReply :=
  (asked.filter fun question => question.2.defers).map fun question =>
    question.2.deferral fd owner question.1

theorem deferrals_append (fd : Int) (owner : Nat) (asked asked' : List (HeartbeatMessage × Desk)) :
    deferrals fd owner (asked ++ asked') = deferrals fd owner asked ++ deferrals fd owner asked' := by
  simp [deferrals]

theorem drops_keeps (desk : Desk) :
    desk.drops.2.faults = desk.faults ∧ desk.drops.2.factors = desk.factors ∧
      desk.drops.2.clock = desk.clock ∧ desk.drops.2.pendingReplies = desk.pendingReplies := by
  unfold drops
  split <;> exact ⟨rfl, rfl, rfl, rfl⟩

theorem delay_keeps (desk : Desk) :
    desk.delay.2.clock = desk.clock ∧ desk.delay.2.pendingReplies = desk.pendingReplies := by
  unfold delay
  dsimp only
  split
  · exact ⟨rfl, rfl⟩
  · exact ⟨rfl, rfl⟩

theorem onPingIntercept_pendingReplies (fd : Int) (owner : Nat) (msg : HeartbeatMessage)
    (desk : Desk) : (onPingIntercept fd owner msg.sequence msg.timestampNs desk).2.pendingReplies =
      desk.pendingReplies ++ deferrals fd owner [(msg, desk)] := by
  obtain ⟨hfaults, hfactors, hclock, hpending⟩ := desk.drops_keeps
  obtain ⟨hclock', hpending'⟩ := desk.drops.2.delay_keeps
  have hdelay : desk.drops.2.delay.1 = desk.delay.1 := by
    simp only [delay, hfaults, hfactors]
    split <;> rfl
  have hdrawn : desk.drops.2.delay.2.clock = desk.clock ∧
      desk.drops.2.delay.2.pendingReplies = desk.pendingReplies :=
    ⟨hclock'.trans hclock, hpending'.trans hpending⟩
  unfold onPingIntercept
  cases hdrop : desk.drops.1 with
  | true => simp [hdrop, hpending, deferrals, defers]
  | false =>
      by_cases hlatency : 0 < desk.faults.extraLatency
      · simp [hdrop, hfaults, hlatency, hdrawn, hdelay, deferrals, defers, deferral]
      · simp [hdrop, hfaults, hlatency, hpending, deferrals, defers]

end Desk

/-! ## What a call does to the pending replies -/

namespace Connection

/-- The pending replies, as the connection's interceptor sees them. -/
def pendingReplies (c : Connection Desk) : List PendingReply :=
  c.env.captured.pendingReplies

variable {fd : Int} {owner : Nat}

theorem handleMessage_pendingReplies (cfg : Config) (c : Connection Desk) (msg : HeartbeatMessage)
    (now : Int) (h : c.pingInterceptor = some (onPingIntercept fd owner)) :
    (c.handleMessage cfg msg now).pendingReplies =
      c.pendingReplies ++ Desk.deferrals fd owner (c.messageAsked msg) := by
  unfold pendingReplies
  rcases handleMessage_asked cfg c msg now h with ⟨hasked, hcaptured⟩ | ⟨hasked, hcaptured⟩
  · rw [hasked, hcaptured]
    exact (List.append_nil _).symm
  · rw [hasked, hcaptured]
    exact Desk.onPingIntercept_pendingReplies fd owner msg c.env.captured

theorem dispatch_pendingReplies (cfg : Config) (c : Connection Desk) (msg : HeartbeatMessage)
    (now : Int) (h : c.pingInterceptor = some (onPingIntercept fd owner)) :
    (c.dispatch cfg msg now).pendingReplies =
      c.pendingReplies ++ Desk.deferrals fd owner (c.messageAsked msg) :=
  handleMessage_pendingReplies cfg (c.noteHandled msg) msg now h

theorem drainLoop_pendingReplies (cfg : Config) (now : Int) (turns offset : Nat)
    (c : Connection Desk) (h : c.pingInterceptor = some (onPingIntercept fd owner)) :
    (drainLoop cfg now turns offset c).pendingReplies =
      c.pendingReplies ++ Desk.deferrals fd owner (c.drainAsked cfg now turns offset) := by
  induction turns generalizing offset c with
  | zero => exact (List.append_nil _).symm
  | succ turns ih =>
      unfold drainLoop drainAsked
      split
      · next hlen =>
          dsimp only
          generalize decodeHeartbeat (frameAt c.readAccum offset hlen) {} = decoded
          split
          · have hdispatch := dispatch_pendingReplies cfg c decoded.2 now h
            have hinterceptor : (c.dispatch cfg decoded.2 now).pingInterceptor =
                some (onPingIntercept fd owner) :=
              (congrArg (fun x => x.2.2.2.2.2) (dispatch_identity cfg c decoded.2 now)).trans h
            split
            · rw [List.append_nil]
              exact hdispatch
            · rw [ih _ _ hinterceptor, hdispatch, Desk.deferrals_append, List.append_assoc]
          · exact (List.append_nil _).symm
      · exact (List.append_nil _).symm

/-- **Reading.**  `on_readable` appends one pending reply for each PING that
hits the latency fault, and does nothing else to them. -/
theorem onReadable_pendingReplies (cfg : Config) (c : Connection Desk) (recvs : List RecvOutcome)
    (now : Int) (h : c.pingInterceptor = some (onPingIntercept fd owner)) :
    (c.onReadable cfg recvs now).pendingReplies =
      c.pendingReplies ++ Desk.deferrals fd owner (c.readAsked cfg recvs now) := by
  have hrecv := recvLoop_captured now recvs c
  unfold onReadable readAsked
  generalize recvLoop now recvs c = received at hrecv ⊢
  obtain ⟨received, ending⟩ := received
  have hbefore : received.pendingReplies = c.pendingReplies :=
    congrArg Desk.pendingReplies hrecv.1
  cases ending with
  | none => exact hbefore.trans (List.append_nil _).symm
  | some ending =>
      have hdrained := drainLoop_pendingReplies cfg now received.readAccum.length 0 received
        (hrecv.2.trans h)
      rw [hbefore] at hdrained
      rw [← hdrained]
      exact congrArg Desk.pendingReplies (finishRead_captured _ ending now)

end Connection

namespace Client

/-- The questions that an event of the client puts to its interceptor. -/
def asked (client : Client) (cfg : Config) (events : EpollEvents) (now : Int) (io : ClientIo) :
    List (HeartbeatMessage × Desk) :=
  if events.epollHup || events.epollErr then []
  else if events.epollIn then client.connection.readAsked cfg io.recvs now
  else []

theorem onEvent_pendingReplies (client : Client) (cfg : Config) (events : EpollEvents) (now : Int)
    (io : ClientIo) {fd : Int} {owner : Nat}
    (h : client.connection.pingInterceptor = some (onPingIntercept fd owner)) :
    (client.onEvent cfg events now io).connection.pendingReplies =
      client.connection.pendingReplies ++
        Desk.deferrals fd owner (client.asked cfg events now io) := by
  unfold onEvent asked
  split
  · exact (List.append_nil _).symm
  · have hread : (client.readIfReadable cfg events now io).connection.pendingReplies =
        client.connection.pendingReplies ++ Desk.deferrals fd owner
          (if events.epollIn then client.connection.readAsked cfg io.recvs now else []) := by
      unfold readIfReadable
      split
      · exact Connection.onReadable_pendingReplies cfg client.connection io.recvs now h
      · exact (List.append_nil _).symm
    dsimp only
    split
    · rw [← hread]
      exact congrArg Desk.pendingReplies (Connection.onWritable_captured _ io.soError now)
    · exact hread

end Client

end Vigil
