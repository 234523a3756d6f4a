import Vigil.Calls

/-!
# The connection state machine

The documented machine is `Edge`: connect, handshake, miss, recover, and
failure from any live state; only `rebind` leaves `kFailed`.  Every state
change goes through `transition_to`, which reports it, so the reports of a
call list the edges it took, intermediate ones included.

`lifecycle` shows that all calls follow the machine, whatever the sockets do,
as long as a responder's CONNECT_ACK can be sent when the CONNECT_HELLO
arrives.  Without that proviso it is false (`failed_hello_revived`): the HELLO
handler ends in `kHealthy` even when queueing the ACK has just failed the
connection.
-/

namespace Vigil

open ByteOrder

/-- The edges of the documented state machine. -/
inductive Edge (role : Role) : ConnectionState → ConnectionState → Prop
  | stay (s : ConnectionState) : Edge role s s
  | connected : role = .kInitiator → Edge role .kConnecting .kHandshaking
  | handshake : Edge role .kHandshaking .kHealthy
  | missed : role = .kInitiator → Edge role .kHealthy .kDegraded
  | recovered : role = .kInitiator → Edge role .kDegraded .kHealthy
  | fail (s : ConnectionState)
      (live : s = .kConnecting ∨ s = .kHandshaking ∨ s = .kHealthy ∨ s = .kDegraded) :
      Edge role s .kFailed

/-- `rebind` goes from any state to the starting state of the role. -/
def RebindEdge (role : Role) (_ after : ConnectionState) : Prop :=
  after = Connection.startState role

/-- The states a connection can be in. -/
def Occupies : Role → ConnectionState → Prop
  | .kInitiator, s => s = .kConnecting ∨ s = .kHandshaking ∨ s = .kHealthy ∨ s = .kDegraded ∨
      s = .kFailed
  | .kResponder, s => s = .kHandshaking ∨ s = .kHealthy ∨ s = .kFailed

theorem Occupies.fail {role : Role} {s : ConnectionState} (h : Occupies role s) :
    Edge role s .kFailed := by
  by_cases hs : s = .kFailed
  · rw [hs]
    exact .stay _
  · apply Edge.fail
    cases role <;> simp_all [Occupies]
    tauto

theorem Edge.occupies {role : Role} {s t : ConnectionState} (h : Edge role s t)
    (hs : Occupies role s) : Occupies role t := by
  cases h with
  | stay => exact hs
  | connected hr => simp [hr, Occupies]
  | handshake => cases role <;> simp [Occupies]
  | missed hr => simp [hr, Occupies]
  | recovered hr => simp [hr, Occupies]
  | fail => cases role <;> simp [Occupies]

/-- The reported transitions lead from `s` to `t` along edges of `E`. -/
def Follows (E : ConnectionState → ConnectionState → Prop) :
    ConnectionState → List Report → ConnectionState → Prop
  | s, [], t => s = t
  | s, .transition before after :: rest, t => before = s ∧ E before after ∧ Follows E after rest t
  | s, _ :: rest, t => Follows E s rest t

theorem Follows.append {E : ConnectionState → ConnectionState → Prop}
    {s t u : ConnectionState} {first second : List Report} (h1 : Follows E s first t)
    (h2 : Follows E t second u) : Follows E s (first ++ second) u := by
  induction first generalizing s with
  | nil =>
      have hst : s = t := h1
      rw [hst]
      exact h2
  | cons r rest ih =>
      cases r with
      | transition before after => exact ⟨h1.1, h1.2.1, ih h1.2.2⟩
      | socketError errno => exact ih h1
      | peerClosed => exact ih h1
      | protocolViolation reason => exact ih h1

theorem Follows.occupies {role : Role} {s t : ConnectionState} {reports : List Report}
    (h : Follows (Edge role) s reports t) (hs : Occupies role s) : Occupies role t := by
  induction reports generalizing s with
  | nil =>
      have hst : s = t := h
      rwa [← hst]
  | cons r rest ih =>
      cases r with
      | transition before after =>
          obtain ⟨rfl, hedge, hrest⟩ := h
          exact ih hrest (hedge.occupies hs)
      | socketError errno => exact ih h hs
      | peerClosed => exact ih h hs
      | protocolViolation reason => exact ih h hs

namespace Connection

variable {σ : Type} {E : ConnectionState → ConnectionState → Prop}

/-- `c'` is reached from `c` by reported transitions along edges of `E`. -/
def Walk (E : ConnectionState → ConnectionState → Prop) (c c' : Connection σ) : Prop :=
  ∃ new, c'.trace.reports = c.trace.reports ++ new ∧ Follows E c.state new c'.state

theorem Walk.of_eq {c c' : Connection σ} (hreports : c'.trace.reports = c.trace.reports)
    (hstate : c'.state = c.state) : Walk E c c' :=
  ⟨[], by simpa using hreports, hstate.symm⟩

theorem Walk.trans {a b c : Connection σ} (h1 : Walk E a b) (h2 : Walk E b c) : Walk E a c := by
  obtain ⟨r1, he1, hf1⟩ := h1
  obtain ⟨r2, he2, hf2⟩ := h2
  exact ⟨r1 ++ r2, by rw [he2, he1, List.append_assoc], hf1.append hf2⟩

theorem Walk.occupies {role : Role} {c c' : Connection σ} (h : Walk (Edge role) c c')
    (hc : Occupies role c.state) : Occupies role c'.state := by
  obtain ⟨_, _, hf⟩ := h
  exact hf.occupies hc

theorem walk_transitionTo (c : Connection σ) {s : ConnectionState} (now : Int)
    (h : E c.state s) : Walk E c (c.transitionTo s now) :=
  ⟨[.transition c.state s], rfl, rfl, h, rfl⟩

theorem walk_handleSocketError (c : Connection σ) (now : Int) (errno : Nat)
    (h : E c.state .kFailed) : Walk E c (c.handleSocketError now errno) :=
  ⟨[.socketError errno, .transition c.state .kFailed],
    by simp [handleSocketError, transitionTo, report], rfl, h, rfl⟩

theorem walk_handlePeerClosed (c : Connection σ) (now : Int) (h : E c.state .kFailed) :
    Walk E c (c.handlePeerClosed now) :=
  ⟨[.peerClosed, .transition c.state .kFailed],
    by simp [handlePeerClosed, transitionTo, report], rfl, h, rfl⟩

theorem walk_handleProtocolViolation (c : Connection σ) (reason : ViolationReason) (now : Int)
    (h : E c.state .kFailed) : Walk E c (c.handleProtocolViolation reason now) :=
  ⟨[.protocolViolation reason, .transition c.state .kFailed],
    by simp [handleProtocolViolation, transitionTo, report], rfl, h, rfl⟩

theorem WriteFailure.follows {before : ConnectionState} {new : List Report}
    (h : WriteFailure before new) (hE : E before .kFailed) : Follows E before new .kFailed := by
  cases h with
  | socket errno => exact ⟨rfl, hE, rfl⟩
  | cap => exact ⟨rfl, hE, rfl⟩

theorem WriteSpec.walk {c : Connection σ} {msgs : List HeartbeatMessage} {fails : Bool}
    {w : WriteEffect} (h : WriteSpec c msgs fails w) (hE : E c.state .kFailed) :
    Walk E c (c.wrote w) := by
  cases fails with
  | false =>
      obtain ⟨hstate, _, hreports⟩ := h.quiet rfl
      exact Walk.of_eq hreports hstate
  | true =>
      obtain ⟨hstate, new, hfail, hreports⟩ := h.failed rfl
      refine ⟨new, hreports, ?_⟩
      show Follows E c.state new w.state
      rw [hstate]
      exact hfail.follows hE

theorem walk_queueMessage (c : Connection σ) (msg : HeartbeatMessage) (hE : E c.state .kFailed) :
    Walk E c (c.queueMessage msg) := by
  obtain ⟨w, hw, hspec⟩ := queueMessage_eq c msg
  rw [hw]
  exact hspec.walk hE

theorem walk_flushWriteBuffer (c : Connection σ) (hE : E c.state .kFailed) :
    Walk E c c.flushWriteBuffer := by
  obtain ⟨w, hw, hspec⟩ := flushLoop_eq c.env.sends c
  rw [flushWriteBuffer, hw]
  exact hspec.walk hE

theorem walk_sendPong (c : Connection σ) (sequence timestampNs : BitVec 64)
    (hE : E c.state .kFailed) : Walk E c (c.sendPong sequence timestampNs) := by
  unfold sendPong
  split
  · exact Walk.of_eq rfl rfl
  · exact walk_queueMessage c _ hE

theorem walk_askInterceptor (c : Connection σ) (msg : HeartbeatMessage) (now : Int) :
    Walk E c (c.askInterceptor msg now).2 := by
  unfold askInterceptor
  split <;> exact Walk.of_eq rfl rfl

/-! ## Handlers -/

/-- The HELLO handler is about to accept, and its ACK cannot be sent. -/
def HelloAckFails (c : Connection σ) (msg : HeartbeatMessage) : Prop :=
  c.role = .kResponder ∧ c.state = .kHandshaking ∧
    MessageType.ofByte msg.type = some .kConnectHello ∧ msg.feedId = c.feedId ∧
    sendFails c.env.sends c.writePending.length = true

theorem walk_handleConnectHello (c : Connection σ) (msg : HeartbeatMessage) (now : Int)
    (hocc : Occupies c.role c.state)
    (hack : c.role = .kResponder → c.state = .kHandshaking → msg.feedId = c.feedId →
      sendFails c.env.sends c.writePending.length = false) :
    Walk (Edge c.role) c (c.handleConnectHello msg now) := by
  unfold handleConnectHello
  split
  · exact walk_handleProtocolViolation c _ now hocc.fail
  · next hguard =>
      push Not at hguard
      split
      · exact walk_handleProtocolViolation c _ now hocc.fail
      · next hfeed =>
          have hsend := hack hguard.1 hguard.2 (by simpa using hfeed)
          have hqueue := walk_queueMessage c (c.message .kConnectAck 0 (BitVec.ofInt 64 now))
            hocc.fail
          have hstate := queueMessage_state c (c.message .kConnectAck 0 (BitVec.ofInt 64 now))
          rw [hsend, if_neg (by simp), hguard.2] at hstate
          refine hqueue.trans (Walk.trans (Walk.of_eq rfl rfl) (walk_transitionTo _ now ?_))
          show Edge c.role (c.queueMessage _).state .kHealthy
          rw [hstate]
          exact .handshake

theorem walk_handleConnectAck (c : Connection σ) (msg : HeartbeatMessage) (now : Int)
    (hocc : Occupies c.role c.state) : Walk (Edge c.role) c (c.handleConnectAck msg now) := by
  unfold handleConnectAck
  split
  · exact walk_handleProtocolViolation c _ now hocc.fail
  · next hguard =>
      push Not at hguard
      split
      · exact walk_handleProtocolViolation c _ now hocc.fail
      · refine Walk.trans (Walk.of_eq rfl rfl) (walk_transitionTo _ now ?_)
        show Edge c.role c.state .kHealthy
        rw [hguard.2]
        exact .handshake

theorem walk_handlePing (c : Connection σ) (msg : HeartbeatMessage) (now : Int)
    (hocc : Occupies c.role c.state) : Walk (Edge c.role) c (c.handlePing msg now) := by
  unfold handlePing
  split
  · exact walk_handleProtocolViolation c _ now hocc.fail
  · have hask : Walk (Edge c.role) c (c.askInterceptor msg now).2 :=
      walk_askInterceptor c msg now
    split
    · exact hask.trans (walk_sendPong _ _ _ (hask.occupies hocc).fail)
    · exact hask

theorem walk_handlePong (cfg : Config) (c : Connection σ) (msg : HeartbeatMessage) (now : Int)
    (hocc : Occupies c.role c.state) : Walk (Edge c.role) c (c.handlePong cfg msg now) := by
  unfold handlePong
  split
  · exact walk_handleProtocolViolation c _ now hocc.fail
  · next hguard =>
      push Not at hguard
      split
      · exact Walk.of_eq rfl rfl
      · split
        · exact Walk.of_eq rfl rfl
        · dsimp only
          split
          · next hdegraded =>
              refine Walk.trans (Walk.of_eq rfl rfl) (walk_transitionTo _ now ?_)
              show Edge c.role c.state .kHealthy
              rw [hdegraded]
              exact .recovered hguard.1
          · exact Walk.of_eq rfl rfl

theorem walk_handleMessage (cfg : Config) (c : Connection σ) (msg : HeartbeatMessage) (now : Int)
    (hocc : Occupies c.role c.state) (hack : ¬ HelloAckFails c msg) :
    Walk (Edge c.role) c (c.handleMessage cfg msg now) := by
  unfold handleMessage
  cases htype : MessageType.ofByte msg.type with
  | none => exact Walk.of_eq rfl rfl
  | some type =>
      cases type with
      | kConnectHello =>
          apply walk_handleConnectHello c msg now hocc
          intro hrole hstate hfeed
          apply Bool.eq_false_iff.mpr
          exact fun hfails => hack ⟨hrole, hstate, htype, hfeed, hfails⟩
      | kConnectAck => exact walk_handleConnectAck c msg now hocc
      | kPing => exact walk_handlePing c msg now hocc
      | kPong => exact walk_handlePong cfg c msg now hocc
      | kDisconnect => exact walk_handlePeerClosed c now hocc.fail

/-- A responder leaves `kHandshaking` with the first message it is handed. -/
theorem handleMessage_not_handshaking (cfg : Config) (c : Connection σ) (msg : HeartbeatMessage)
    (now : Int) (hrole : c.role = .kResponder)
    (hknown : isKnownMessageType msg.type = true) :
    (c.handleMessage cfg msg now).state ≠ .kHandshaking := by
  have hni : c.role ≠ .kInitiator := by simp [hrole]
  unfold handleMessage
  cases htype : MessageType.ofByte msg.type with
  | none => simp [isKnownMessageType, htype] at hknown
  | some type =>
      cases type with
      | kConnectHello =>
          show (c.handleConnectHello msg now).state ≠ _
          unfold handleConnectHello
          split
          · nofun
          · split <;> nofun
      | kConnectAck =>
          show (c.handleConnectAck msg now).state ≠ _
          rw [handleConnectAck, if_pos (Or.inl hni)]
          nofun
      | kPing =>
          show (c.handlePing msg now).state ≠ _
          unfold handlePing
          split
          · nofun
          · next hguard =>
              push Not at hguard
              have hask : (c.askInterceptor msg now).2.state = .kHealthy := by
                rw [← hguard.2]
                unfold askInterceptor
                split <;> rfl
              split
              · unfold sendPong
                split
                · simp [hask]
                · rw [queueMessage_state, hask]
                  split <;> nofun
              · simp [hask]
      | kPong =>
          show (c.handlePong cfg msg now).state ≠ _
          rw [handlePong, if_pos (Or.inl hni)]
          nofun
      | kDisconnect => nofun

/-! ## Draining a buffer -/

/-- The buffer starts with a HELLO that is about to be accepted while its ACK
cannot be sent. -/
def HelloAckLost (c : Connection σ) (buf : List Byte) : Prop :=
  ∃ wire : HeartbeatWireBuffer, wire.bytes <+: buf ∧ (decodeHeartbeat wire {}).1 = true ∧
    HelloAckFails c (decodeHeartbeat wire {}).2

theorem walk_dispatch (cfg : Config) (c : Connection σ) (msg : HeartbeatMessage) (now : Int)
    (hocc : Occupies c.role c.state) (hack : ¬ HelloAckFails c msg) :
    Walk (Edge c.role) c (c.dispatch cfg msg now) :=
  Walk.trans (Walk.of_eq rfl rfl) (walk_handleMessage cfg (c.noteHandled msg) msg now hocc hack)

theorem feedFrame_role (cfg : Config) (now : Int) (c : Connection σ) (frame : List Byte) :
    (feedFrame cfg now c frame).role = c.role :=
  role_of_identity (feedFrame_identity cfg now c frame)

theorem walk_feedFrame (cfg : Config) (now : Int) (c : Connection σ)
    (wire : HeartbeatWireBuffer) (hocc : Occupies c.role c.state)
    (hack : (decodeHeartbeat wire {}).1 = true → ¬ HelloAckFails c (decodeHeartbeat wire {}).2) :
    Walk (Edge c.role) c (feedFrame cfg now c wire.bytes) := by
  rw [feedFrame_bytes]
  split
  · next hdec => exact walk_dispatch cfg c _ now hocc (hack hdec)
  · exact walk_handleProtocolViolation c _ now hocc.fail

theorem feedFrame_not_handshaking (cfg : Config) (now : Int) (c : Connection σ)
    (wire : HeartbeatWireBuffer) (hrole : c.role = .kResponder) :
    (feedFrame cfg now c wire.bytes).state ≠ .kHandshaking := by
  rw [feedFrame_bytes]
  split
  · next hdec =>
      exact handleMessage_not_handshaking cfg (c.noteHandled _) _ now hrole
        (decode_type_known wire {} hdec)
  · nofun

/-- Past the handshake, every frame follows the machine. -/
theorem walk_feedBuffer_established (cfg : Config) (now : Int) (buf : List Byte)
    (c : Connection σ) (hlive : c.failed = false) (hocc : Occupies c.role c.state)
    (hpast : c.role = .kResponder → c.state ≠ .kHandshaking) :
    Walk (Edge c.role) c (feedBuffer cfg now buf c).1 := by
  have hinv := Framing.drain_invariant (feedFrame cfg now) failed
    (I := fun d : Connection σ => d.role = c.role ∧ Walk (Edge c.role) c d ∧
      (d.role = .kResponder → d.state ≠ .kHandshaking))
    (n := kHeartbeatMessageSize) (by decide)
    (by
      rintro d frame hlen _ ⟨hrole, hwalk, hd⟩
      refine ⟨(feedFrame_role cfg now d frame).trans hrole, ?_, ?_⟩
      · have hstep := walk_feedFrame cfg now d ⟨frame, hlen⟩
          (by rw [hrole]; exact hwalk.occupies hocc)
          (fun _ hfails => hd hfails.1 hfails.2.1)
        rw [hrole] at hstep
        exact hwalk.trans hstep
      · intro hr
        rw [feedFrame_role] at hr
        exact feedFrame_not_handshaking cfg now d ⟨frame, hlen⟩ hr)
    buf c hlive ⟨rfl, Walk.of_eq rfl rfl, hpast⟩
  exact hinv.2.1

theorem walk_feedBuffer (cfg : Config) (now : Int) (buf : List Byte) (c : Connection σ)
    (hocc : Occupies c.role c.state) (hack : ¬ HelloAckLost c buf) :
    Walk (Edge c.role) c (feedBuffer cfg now buf c).1 := by
  by_cases hlen : kHeartbeatMessageSize ≤ buf.length
  · -- only the first frame can meet a responder that is still handshaking
    have hfirst := walk_feedFrame cfg now c
      ⟨buf.take kHeartbeatMessageSize, List.length_take_of_le hlen⟩ hocc
      (fun hdec hfails => hack ⟨_, List.take_prefix _ _, hdec, hfails⟩)
    rw [feedBuffer, Framing.drain_frame (by decide) c hlen]
    split
    · exact hfirst
    · next hnot =>
        have hrole := feedFrame_role cfg now c (buf.take kHeartbeatMessageSize)
        have hrest := walk_feedBuffer_established cfg now (buf.drop kHeartbeatMessageSize)
          (feedFrame cfg now c (buf.take kHeartbeatMessageSize)) (by simpa using hnot)
          (by rw [hrole]; exact hfirst.occupies hocc)
          (fun hr => feedFrame_not_handshaking cfg now c
            ⟨buf.take kHeartbeatMessageSize, List.length_take_of_le hlen⟩ (hrole.symm.trans hr))
        rw [hrole] at hrest
        exact hfirst.trans hrest
  · rw [feedBuffer, Framing.drain_short c (by omega)]
    exact Walk.of_eq rfl rfl

/-! ## Calls and runs -/

theorem walk_finishRead (c : Connection σ) (ending : RecvEnd) (now : Int)
    (h : E c.state .kFailed) : Walk E c (c.finishRead ending now) := by
  unfold finishRead
  split
  · exact Walk.of_eq rfl rfl
  · cases ending with
    | drained => exact Walk.of_eq rfl rfl
    | peerClosed => exact walk_handlePeerClosed c now h
    | socketError errno => exact walk_handleSocketError c now errno h

theorem walk_onReadable (cfg : Config) (c : Connection σ) (recvs : List RecvOutcome) (now : Int)
    (hocc : Occupies c.role c.state) (hleft : Leftover c)
    (hack : (c.readAccum ++ recvBytes recvs).length ≤ kMaxReadAccumBytes →
      ¬ HelloAckLost c (c.readAccum ++ recvBytes recvs)) :
    Walk (Edge c.role) c (c.onReadable cfg recvs now) := by
  rcases onReadable_eq cfg c recvs now with ⟨all, ⟨rfl, hcap⟩, h⟩ | ⟨buf, _, _, h⟩
  · have hsafe : ¬ HelloAckLost c (c.readAccum ++ recvBytes recvs) := by
      intro hlost
      obtain ⟨_, _, _, hfails⟩ := id hlost
      have hshort := hleft (by simp [hfails.2.1])
      exact hack (hcap (by simp only [kHeartbeatMessageSize, kMaxReadAccumBytes] at *; omega)) hlost
    have hfeed := walk_feedBuffer cfg now _ c hocc hsafe
    rw [h]
    refine (hfeed.trans (Walk.of_eq rfl rfl)).trans (walk_finishRead _ _ now ?_)
    exact (hfeed.occupies hocc).fail
  · rw [h]
    exact Walk.trans (Walk.of_eq rfl rfl) (walk_handleProtocolViolation _ _ now hocc.fail)

theorem walk_onWritable (c : Connection σ) (soError : Nat) (now : Int)
    (hocc : Occupies c.role c.state) : Walk (Edge c.role) c (c.onWritable soError now) := by
  unfold onWritable
  split
  · next hconnecting =>
      have hrole : c.role = .kInitiator := by
        cases hr : c.role with
        | kInitiator => rfl
        | kResponder => simp [hr, hconnecting, Occupies] at hocc
      split
      · exact walk_handleSocketError c now soError hocc.fail
      · have hconnected : Walk (Edge c.role) c (c.transitionTo .kHandshaking now) := by
          apply walk_transitionTo
          rw [hconnecting]
          exact .connected hrole
        exact hconnected.trans (walk_queueMessage _ _ (hconnected.occupies hocc).fail)
  · exact walk_flushWriteBuffer c hocc.fail

theorem walk_sendPing (c : Connection σ) (now : Int) (hE : E c.state .kFailed) :
    Walk E c (c.sendPing now) := by
  by_cases h : c.role = .kInitiator ∧ (c.state = .kHealthy ∨ c.state = .kDegraded)
  · rw [sendPing_eq c now h.1 h.2]
    have hbump : Walk E c c.bumpSequence := Walk.of_eq rfl rfl
    have hqueue := walk_queueMessage c.bumpSequence (c.pingMessage now) hE
    exact hbump.trans (hqueue.trans (Walk.of_eq rfl rfl))
  · rw [sendPing_idle c now h]
    exact Walk.of_eq rfl rfl

theorem walk_checkTimeout (cfg : Config) (c : Connection σ) (now : Int)
    (hocc : Occupies c.role c.state) : Walk (Edge c.role) c (c.checkTimeout cfg now).2 := by
  have h := checkTimeout_result cfg c now
  generalize c.checkTimeout cfg now = result at h ⊢
  cases h with
  | idle => exact Walk.of_eq rfl rfl
  | attempting => exact Walk.of_eq rfl rfl
  | alive => exact Walk.of_eq rfl rfl
  | attemptExpired => exact walk_transitionTo c now hocc.fail
  | silent => exact walk_transitionTo c now hocc.fail
  | lastMiss => exact Walk.trans (Walk.of_eq rfl rfl) (walk_transitionTo _ now hocc.fail)
  | miss h hr =>
      refine Walk.trans (Walk.of_eq rfl rfl) (walk_transitionTo _ now ?_)
      show Edge c.role c.state .kDegraded
      rcases h with h | h
      · rw [h]
        exact .missed hr
      · rw [h]
        exact .stay _

/-- The state changes of one call follow the machine and end in one of its
states. -/
def LawfulCall (c : Connection σ) (call : Call σ) : Prop :=
  Walk (if call.isRebind then RebindEdge c.role else Edge c.role) c (c.call call) ∧
    Occupies c.role (c.call call).state

/-- The call does not make a responder accept a HELLO whose ACK cannot be
sent. -/
def AckSendable (c : Connection σ) (call : Call σ) : Prop :=
  match call.op with
  | .onReadable recvs _ =>
      (c.readAccum ++ recvBytes recvs).length ≤ kMaxReadAccumBytes →
        ¬ HelloAckLost (c.withEnv call.env) (c.readAccum ++ recvBytes recvs)
  | _ => True

theorem call_walk (c : Connection σ) (call : Call σ) (hocc : Occupies c.role c.state)
    (hleft : Leftover c) (hack : AckSendable c call) :
    Walk (if call.isRebind then RebindEdge c.role else Edge c.role) c (c.call call) := by
  obtain ⟨cfg, env, op⟩ := call
  have hin : Walk (Edge c.role) c (c.withEnv env) := Walk.of_eq rfl rfl
  cases op with
  | onReadable recvs now =>
      exact hin.trans (walk_onReadable cfg (c.withEnv env) recvs now hocc hleft hack)
  | onWritable soError now => exact hin.trans (walk_onWritable (c.withEnv env) soError now hocc)
  | onHangupOrError errno now =>
      exact hin.trans (walk_handleSocketError (c.withEnv env) now errno hocc.fail)
  | sendPing now => exact hin.trans (walk_sendPing (c.withEnv env) now hocc.fail)
  | sendPong sequence timestampNs =>
      exact hin.trans (walk_sendPong (c.withEnv env) sequence timestampNs hocc.fail)
  | checkTimeout now => exact hin.trans (walk_checkTimeout cfg (c.withEnv env) now hocc)
  | resetLivenessBaseline now => exact Walk.of_eq rfl rfl
  | rebind newFd now => exact ⟨[.transition c.state (startState c.role)], rfl, rfl, rfl, rfl⟩

theorem occupies_startState (role : Role) : Occupies role (startState role) := by
  cases role <;> simp [Occupies, startState]

theorem call_role (c : Connection σ) (call : Call σ) : (c.call call).role = c.role := by
  by_cases h : call.isRebind = false
  · exact role_of_identity (call_identity c call h)
  · obtain ⟨cfg, env, op⟩ := call
    cases op <;> first | rfl | exact absurd rfl h

theorem call_lawful (c : Connection σ) (call : Call σ) (hocc : Occupies c.role c.state)
    (hleft : Leftover c) (hack : AckSendable c call) : LawfulCall c call := by
  have hwalk := call_walk c call hocc hleft hack
  refine ⟨hwalk, ?_⟩
  by_cases hrebind : call.isRebind = true
  · obtain ⟨cfg, env, op⟩ := call
    cases op with
    | rebind newFd now => exact occupies_startState c.role
    | _ => simp [Call.isRebind] at hrebind
  · rw [if_neg hrebind] at hwalk
    exact hwalk.occupies hocc

/-- **Lifecycle.**  In every run of a new connection in which no responder
accepts a HELLO it cannot acknowledge, every state change of every call is an
edge of the documented machine, and only its states are ever occupied. -/
theorem lifecycle (c : Connection σ) (calls : List (Call σ)) (hfresh : Fresh c)
    (hack : Runs.Along call AckSendable c calls) :
    Runs.Along call LawfulCall c calls ∧
      Occupies (calls.foldl call c).role (calls.foldl call c).state := by
  have hstart : Occupies c.role c.state ∧ Leftover c := by
    obtain ⟨fd, role, feedId, host, port, interceptor, env, now, rfl⟩ := hfresh.created
    exact ⟨occupies_startState role, fun _ => by show 0 < 28; decide⟩
  have hstep : ∀ (d : Connection σ) (a : Call σ), Occupies d.role d.state ∧ Leftover d →
      AckSendable d a → Occupies (d.call a).role (d.call a).state ∧ Leftover (d.call a) := by
    rintro d a ⟨hocc, hleft⟩ hd
    rw [call_role]
    exact ⟨(call_lawful d a hocc hleft hd).2, call_leftover d a hleft⟩
  exact ⟨Runs.along_of_invariant hstep (fun d a hd => call_lawful d a hd.1 hd.2) hstart hack,
    (Runs.invariant hstep hstart hack).1⟩

/-- An accepted client of feed 7. -/
def acceptedClient : Connection Unit :=
  create 9 .kResponder 7 "127.0.0.1" 40000 none ⟨[], fun _ => 0, ()⟩ 0

/-- The CONNECT_HELLO of feed 7, read while the next `send()` answers `outcome`. -/
def readHello (outcome : SendOutcome) : Call Unit where
  cfg := {}
  env := ⟨[outcome], fun _ => 2, ()⟩
  op := .onReadable [.data (frameChunk { type := MessageType.kConnectHello.toByte, feedId := 7 })] 1

theorem acceptedClient_fresh : Fresh acceptedClient :=
  ⟨_, _, _, _, _, _, _, _, rfl⟩

/-- A client that says HELLO and can be answered is healthy, by lawful steps. -/
theorem lifecycle_hello_acked :
    Runs.Along call LawfulCall acceptedClient [readHello (.sent 28)] ∧
      (acceptedClient.call (readHello (.sent 28))).state = .kHealthy := by
  refine ⟨(lifecycle acceptedClient [readHello (.sent 28)] acceptedClient_fresh ⟨?_, trivial⟩).1,
    by decide +kernel⟩
  rintro _ ⟨_, _, _, _, _, _, _, hfails⟩
  revert hfails
  decide

/-- The peer resets the connection just before its ACK is sent: `send()`
fails, the connection enters `kFailed`, and the HELLO handler then puts it back
into `kHealthy`. -/
theorem failed_hello_revived :
    ¬ ∀ (c : Connection Unit) (calls : List (Call Unit)), Fresh c →
      Runs.Along call LawfulCall c calls := by
  intro hall
  obtain ⟨⟨⟨new, hnew, hfollows⟩, _⟩, _⟩ :=
    hall acceptedClient [readHello (.error 104)] acceptedClient_fresh
  have hreports : (acceptedClient.call (readHello (.error 104))).trace.reports =
      [.socketError 104, .transition .kHandshaking .kFailed, .transition .kFailed .kHealthy] := by
    decide +kernel
  rw [hreports] at hnew
  have hlist : new = [.socketError 104, .transition .kHandshaking .kFailed,
      .transition .kFailed .kHealthy] := hnew.symm
  rw [hlist] at hfollows
  obtain ⟨_, _, _, hedge, _⟩ := hfollows
  cases hedge

end Connection

end Vigil
