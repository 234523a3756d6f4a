import Vigil.Answers
import Vigil.FeedSimulator
import Vigil.Session

/-!
# The heartbeat exchange

A session whose responder answers every PING while it handles it: its
interceptor, if it has one, always asks for the automatic reply, which is what
the simulator's does without faults.  Then the PINGs are answered exactly
once and in the order they were sent; what has not come back yet is in flight,
the last ones as PINGs and those before them as PONGs.

`Session.session` allows replies in any order or none and so says only that
each PONG echoes some PING.
-/

namespace Vigil

open ByteOrder

theorem echoes_other {type : MessageType} {msg : HeartbeatMessage}
    (h : MessageType.ofByte msg.type ≠ some type) : echoes type [msg] = [] := by
  simp [echoes, h]

/-- While the captured state is in `Open` the interceptor asks for the
automatic reply, and leaves the captured state in `Open`. -/
def Obliging {τ : Type} (Open : τ → Prop) (intercept : PingInterceptor τ) : Prop :=
  ∀ sequence timestampNs captured, Open captured →
    (intercept sequence timestampNs captured).1 = true ∧
      Open (intercept sequence timestampNs captured).2

/-- Neither drops nor delays. -/
def Desk.Faultless (desk : Desk) : Prop :=
  desk.faults.dropProbability ≤ 0 ∧ desk.faults.extraLatency ≤ 0

/-- Without faults the simulator's interceptor lets every reply through. -/
theorem onPingIntercept_obliging (fd : Int) (owner : Nat) :
    Obliging Desk.Faultless (onPingIntercept fd owner) := by
  rintro sequence timestampNs desk ⟨hdrop, hlatency⟩
  have hkept : desk.drops = (false, desk) := by
    rw [Desk.drops, if_neg (not_lt.mpr hdrop)]
  have hanswer : onPingIntercept fd owner sequence timestampNs desk = (true, desk) := by
    rw [onPingIntercept, hkept]
    simp [hlatency]
  rw [hanswer]
  exact ⟨rfl, hdrop, hlatency⟩

/-- The type of the message that a call other than a read may queue. -/
def ConnOp.speaks : ConnOp → Option MessageType
  | .onWritable _ _ => some .kConnectHello
  | .sendPing _ => some .kPing
  | .sendPong _ _ => some .kPong
  | _ => none

namespace Connection

variable {σ τ : Type}

/-! ## What a call queues -/

theorem checkTimeout_queued (cfg : Config) (c : Connection σ) (now : Int) :
    (c.checkTimeout cfg now).2.trace.queued = c.trace.queued := by
  have hresult := checkTimeout_result cfg c now
  generalize c.checkTimeout cfg now = result at hresult ⊢
  cases hresult <;> rfl

theorem onWritable_queued (c : Connection σ) (soError : Nat) (now : Int) :
    (c.onWritable soError now).trace.queued = c.trace.queued ∨
      ∃ msg, MessageType.ofByte msg.type = some .kConnectHello ∧
        (c.onWritable soError now).trace.queued = c.trace.queued ++ [msg] := by
  unfold onWritable
  split
  · split
    · exact Or.inl rfl
    · dsimp only
      split
      · exact Or.inr ⟨_, (c.message_carries .kConnectHello 0 _).1, queueMessage_queued _ _⟩
      · exact Or.inl rfl
  · have hq := (queues_flushWriteBuffer c).queued_eq
    rw [List.append_nil] at hq
    exact Or.inl hq

/-- A call other than a read queues one message at most, of the type it
speaks. -/
theorem call_queued (c : Connection σ) (call : Call σ) (hread : call.isRead = false)
    (hrebind : call.isRebind = false) :
    (c.call call).trace.queued = c.trace.queued ∨
      ∃ type msg, call.op.speaks = some type ∧ MessageType.ofByte msg.type = some type ∧
        (c.call call).trace.queued = c.trace.queued ++ [msg] := by
  obtain ⟨cfg, env, op⟩ := call
  cases op with
  | onReadable recvs now => simp [Call.isRead] at hread
  | onWritable soError now =>
      rcases onWritable_queued (c.withEnv env) soError now with h | ⟨msg, htype, h⟩
      · exact Or.inl h
      · exact Or.inr ⟨_, msg, rfl, htype, h⟩
  | onHangupOrError errno now => exact Or.inl rfl
  | sendPing now =>
      by_cases hguard : c.role = .kInitiator ∧ (c.state = .kHealthy ∨ c.state = .kDegraded)
      · have hcall : c.call ⟨cfg, env, .sendPing now⟩ =
            ((c.withEnv env).bumpSequence.queueMessage (c.pingMessage now)).countPing :=
          sendPing_eq (c.withEnv env) now hguard.1 hguard.2
        rw [hcall]
        exact Or.inr ⟨_, _, rfl, (c.message_carries .kPing _ _).1, queueMessage_queued _ _⟩
      · have hcall : c.call ⟨cfg, env, .sendPing now⟩ = c.withEnv env :=
          sendPing_idle (c.withEnv env) now hguard
        rw [hcall]
        exact Or.inl rfl
  | sendPong sequence timestampNs =>
      show ((c.withEnv env).sendPong sequence timestampNs).trace.queued = _ ∨ _
      unfold Connection.sendPong
      split
      · exact Or.inl rfl
      · next hguard =>
          refine Or.inr ⟨_, _, rfl, (c.message_carries .kPong sequence timestampNs).1, ?_⟩
          show ((c.withEnv env).sendPong sequence timestampNs).trace.queued = _
          rw [Connection.sendPong, if_neg hguard]
          exact queueMessage_queued (c.withEnv env) _
  | checkTimeout now => exact Or.inl (checkTimeout_queued cfg (c.withEnv env) now)
  | resetLivenessBaseline now => exact Or.inl rfl
  | rebind newFd now => simp [Call.isRebind] at hrebind

/-- Messages of a type that the call does not speak are queued by none. -/
theorem call_echoes (c : Connection σ) (call : Call σ) (hread : call.isRead = false)
    (hrebind : call.isRebind = false) {type : MessageType} (hspeaks : call.op.speaks ≠ some type) :
    echoes type (c.call call).trace.queued = echoes type c.trace.queued := by
  rcases call_queued c call hread hrebind with h | ⟨other, msg, hother, htype, h⟩
  · rw [h]
  · have hne : other ≠ type := by
      rintro rfl
      exact hspeaks hother
    rw [h, echoes_append, echoes_single_ne type htype hne, List.append_nil]

/-! ## The PINGs are numbered -/

/-- The PINGs queued on this socket are numbered from `first` on. -/
structure NumberedFrom (first : BitVec 64) (c : Connection σ) : Prop where
  numbers : (echoes .kPing c.trace.queued).map Prod.fst =
    (List.range (echoes .kPing c.trace.queued).length).map fun k => first + BitVec.ofNat 64 k
  next : c.nextSequence = first + BitVec.ofNat 64 (echoes .kPing c.trace.queued).length

variable {first : BitVec 64}

theorem NumberedFrom.keep {c c' : Connection σ} (h : NumberedFrom first c)
    (hq : echoes .kPing c'.trace.queued = echoes .kPing c.trace.queued)
    (hnext : c'.nextSequence = c.nextSequence) : NumberedFrom first c' := by
  constructor
  · rw [hq]
    exact h.numbers
  · rw [hq, hnext]
    exact h.next

theorem queueMessage_nextSequence (c : Connection σ) (msg : HeartbeatMessage) :
    (c.queueMessage msg).nextSequence = c.nextSequence := by
  obtain ⟨w, hw, _⟩ := queueMessage_eq c msg
  rw [hw]
  rfl

theorem NumberedFrom.sendPing {c : Connection σ} (h : NumberedFrom first c) (now : Int) :
    NumberedFrom first (c.sendPing now) := by
  by_cases hguard : c.role = .kInitiator ∧ (c.state = .kHealthy ∨ c.state = .kDegraded)
  · rw [sendPing_eq c now hguard.1 hguard.2]
    have hqueued : (c.bumpSequence.queueMessage (c.pingMessage now)).countPing.trace.queued =
        c.trace.queued ++ [c.pingMessage now] := queueMessage_queued c.bumpSequence _
    have hnext : (c.bumpSequence.queueMessage (c.pingMessage now)).countPing.nextSequence =
        c.nextSequence + 1 := queueMessage_nextSequence c.bumpSequence _
    have hping : echoes .kPing [c.pingMessage now] =
        [(c.nextSequence, BitVec.ofInt 64 now)] :=
      echoes_single .kPing (c.message_carries .kPing _ _).1
    generalize (c.bumpSequence.queueMessage (c.pingMessage now)).countPing = d at *
    have hgrown : echoes .kPing d.trace.queued =
        echoes .kPing c.trace.queued ++ [(c.nextSequence, BitVec.ofInt 64 now)] := by
      rw [hqueued, echoes_append, hping]
    constructor
    · rw [hgrown, List.map_append, h.numbers, List.length_append, List.length_singleton,
        List.range_succ, List.map_append, List.map_singleton, List.map_singleton, h.next]
    · rw [hgrown, hnext, h.next, List.length_append, List.length_singleton, BitVec.ofNat_add,
        ← BitVec.add_assoc]
      rfl
  · rw [sendPing_idle c now hguard]
    exact h

theorem NumberedFrom.dispatch {c : Connection σ} (h : NumberedFrom first c)
    (hrole : c.role = .kInitiator) (cfg : Config) (msg : HeartbeatMessage) (now : Int) :
    NumberedFrom first (c.dispatch cfg msg now) := by
  have hnext : (c.dispatch cfg msg now).nextSequence = c.nextSequence := by
    have hresult := handleMessage_result cfg (c.noteHandled msg) msg now
    rw [Connection.dispatch]
    generalize (c.noteHandled msg).handleMessage cfg msg now = result at hresult ⊢
    cases hresult with
    | hello ht hr => exact absurd (hrole.symm.trans hr) (by decide)
    | pingAnswered captured ht hr => exact absurd (hrole.symm.trans hr) (by decide)
    | _ => rfl
  exact h.keep (congrArg _ (dispatch_queued cfg c msg now hrole)) hnext

/-- An initiator numbers its PINGs in every call of an attempt. -/
theorem NumberedFrom.call {c : Connection σ} (h : NumberedFrom first c)
    (hrole : c.role = .kInitiator) (call : Call σ) (hrebind : call.isRebind = false) :
    NumberedFrom first (c.call call) := by
  have hquiet (hread : call.isRead = false) (hspeaks : call.op.speaks ≠ some .kPing)
      (hnext : (c.call call).nextSequence = c.nextSequence) : NumberedFrom first (c.call call) :=
    h.keep (call_echoes c call hread hrebind hspeaks) hnext
  obtain ⟨cfg, env, op⟩ := call
  cases op with
  | onReadable recvs now =>
      have hkept : ((c.withEnv env).onReadable cfg recvs now).role = .kInitiator ∧
          NumberedFrom first ((c.withEnv env).onReadable cfg recvs now) := by
        refine onReadable_keeps
          (I := fun d : Connection σ => d.role = .kInitiator ∧ NumberedFrom first d) ?_ ?_ ?_
          (c := c.withEnv env) ⟨hrole, h.keep rfl rfl⟩ recvs
        · exact fun d msg hd => ⟨(role_of_identity (dispatch_identity cfg d msg now)).trans hd.1,
            hd.2.dispatch hd.1 cfg msg now⟩
        · exact fun d r hd => ⟨hd.1, hd.2.keep rfl rfl⟩
        · exact fun d buf hd => ⟨hd.1, hd.2.keep rfl rfl⟩
      exact hkept.2
  | onWritable soError now =>
      refine hquiet rfl (by simp [ConnOp.speaks]) ?_
      show ((c.withEnv env).onWritable soError now).nextSequence = _
      unfold Connection.onWritable
      split
      · split
        · rfl
        · dsimp only
          split
          · exact queueMessage_nextSequence _ _
          · rfl
      · obtain ⟨w, hw, _⟩ := flushLoop_eq (c.withEnv env).env.sends (c.withEnv env)
        rw [flushWriteBuffer, hw]
        rfl
  | onHangupOrError errno now => exact hquiet rfl (by simp [ConnOp.speaks]) rfl
  | sendPing now =>
      have hin : NumberedFrom first (c.withEnv env) := h.keep rfl rfl
      exact hin.sendPing now
  | sendPong sequence timestampNs =>
      refine hquiet rfl (by simp [ConnOp.speaks]) ?_
      show ((c.withEnv env).sendPong sequence timestampNs).nextSequence = _
      rw [Connection.sendPong, if_pos (by simp [withEnv, hrole])]
      rfl
  | checkTimeout now =>
      refine hquiet rfl (by simp [ConnOp.speaks]) ?_
      have hresult := checkTimeout_result cfg (c.withEnv env) now
      show ((c.withEnv env).checkTimeout cfg now).2.nextSequence = (c.withEnv env).nextSequence
      generalize (c.withEnv env).checkTimeout cfg now = result at hresult ⊢
      cases hresult <;> rfl
  | resetLivenessBaseline now => exact hquiet rfl (by simp [ConnOp.speaks]) rfl
  | rebind newFd now => simp [Call.isRebind] at hrebind

/-! ## The PINGs are answered -/

variable {Open : τ → Prop}

/-- Every PING handled has been answered, in the order of arrival. -/
structure Serving (Open : τ → Prop) (c : Connection τ) : Prop where
  obliging : ∀ intercept, c.pingInterceptor = some intercept → Obliging Open intercept
  echoed : echoes .kPong c.trace.queued = echoes .kPing c.trace.handled

theorem Serving.keep {c c' : Connection τ} (h : Serving Open c)
    (hid : c'.identity = c.identity)
    (hq : echoes .kPong c'.trace.queued = echoes .kPong c.trace.queued)
    (hh : echoes .kPing c'.trace.handled = echoes .kPing c.trace.handled) : Serving Open c' := by
  have hsame : c'.pingInterceptor = c.pingInterceptor := congrArg (fun i => i.2.2.2.2.2) hid
  constructor
  · rw [hsame]
    exact h.obliging
  · rw [hq, hh]
    exact h.echoed

/-- A PING heard by a healthy responder is answered at once. -/
theorem Serving.ping {c : Connection τ} (h : Serving Open c) (hopen : Open c.env.captured)
    {msg : HeartbeatMessage} (now : Int) (ht : MessageType.ofByte msg.type = some .kPing)
    (hrole : c.role = .kResponder) (hstate : c.state = .kHealthy) :
    Serving Open ((c.noteHandled msg).handlePing msg now) ∧
      Open ((c.noteHandled msg).handlePing msg now).env.captured := by
  obtain ⟨captured, hask, hstill⟩ : ∃ captured,
      (c.noteHandled msg).askInterceptor msg now =
        (true, (c.noteHandled msg).heard now captured) ∧ Open captured := by
    unfold askInterceptor
    split
    · exact ⟨c.env.captured, rfl, hopen⟩
    · next intercept hi =>
        have hanswer := h.obliging intercept hi msg.sequence msg.timestampNs c.env.captured hopen
        exact ⟨_, Prod.ext hanswer.1 rfl, hanswer.2⟩
  have hsent : (c.noteHandled msg).handlePing msg now =
      ((c.noteHandled msg).heard now captured).queueMessage
        (c.message .kPong msg.sequence msg.timestampNs) := by
    rw [handlePing, if_neg (by simp [noteHandled, hrole, hstate]), hask, if_pos rfl, sendPong,
      if_neg (by simp [noteHandled, heard, hrole, hstate])]
    rfl
  obtain ⟨w, hw, hspec⟩ := queueMessage_eq ((c.noteHandled msg).heard now captured)
    (c.message .kPong msg.sequence msg.timestampNs)
  rw [hsent, hw]
  refine ⟨⟨h.obliging, ?_⟩, hstill⟩
  have hpong : echoes .kPong [c.message .kPong msg.sequence msg.timestampNs] =
      [(msg.sequence, msg.timestampNs)] :=
    echoes_single .kPong (c.message_carries .kPong _ _).1
  show echoes .kPong w.queued = echoes .kPing (c.trace.handled ++ [msg])
  rw [hspec.queued_eq, echoes_append, echoes_append, hpong, echoes_single .kPing ht]
  exact congrArg (· ++ _) h.echoed

theorem Serving.dispatch {c : Connection τ} (h : Serving Open c) (hopen : Open c.env.captured)
    (cfg : Config) {msg : HeartbeatMessage} (now : Int) (hexp : ¬ c.Unexpected msg) :
    Serving Open (c.dispatch cfg msg now) ∧ Open (c.dispatch cfg msg now).env.captured := by
  by_cases ht : MessageType.ofByte msg.type = some .kPing
  · simp only [Unexpected, ht, not_or, not_not] at hexp
    have heq : c.dispatch cfg msg now = (c.noteHandled msg).handlePing msg now := by
      rw [Connection.dispatch, handleMessage, ht]
    rw [heq]
    exact h.ping hopen now ht hexp.1 hexp.2
  · have hnone : echoes .kPing (c.trace.handled ++ [msg]) = echoes .kPing c.trace.handled := by
      rw [echoes_append, echoes_other ht, List.append_nil]
    have hquiet (d : Connection τ) (hid : d.identity = c.identity)
        (hq : echoes .kPong d.trace.queued = echoes .kPong c.trace.queued)
        (hh : d.trace.handled = c.trace.handled ++ [msg])
        (hcaptured : d.env.captured = c.env.captured) :
        Serving Open d ∧ Open d.env.captured := by
      rw [← hh] at hnone
      rw [hcaptured]
      exact ⟨h.keep hid hq hnone, hopen⟩
    have hresult := handleMessage_result cfg (c.noteHandled msg) msg now
    rw [Connection.dispatch]
    generalize (c.noteHandled msg).handleMessage cfg msg now = result at hresult ⊢
    cases hresult with
    | violation reason hreason hun => exact absurd hun hexp
    | hello hhello =>
        obtain ⟨w, hw, hspec⟩ := queueMessage_eq (c.noteHandled msg)
          ((c.noteHandled msg).message .kConnectAck 0 (BitVec.ofInt 64 now))
        have hack : echoes .kPong [(c.noteHandled msg).message .kConnectAck 0
            (BitVec.ofInt 64 now)] = [] :=
          echoes_single_ne _ (c.message_carries .kConnectAck 0 _).1 (by decide)
        rw [hw]
        refine hquiet _ rfl ?_ rfl rfl
        show echoes .kPong w.queued = _
        rw [hspec.queued_eq, echoes_append, hack, List.append_nil]
        rfl
    | pingAnswered captured hping => exact absurd hping ht
    | pingHeld captured hping => exact absurd hping ht
    | ack => exact hquiet _ rfl rfl rfl rfl
    | duplicate => exact hquiet _ rfl rfl rfl rfl
    | untimely => exact hquiet _ rfl rfl rfl rfl
    | counted => exact hquiet _ rfl rfl rfl rfl
    | recovered =>
        have hid := identity_of_core (transitionTo_core
          (((c.noteHandled msg).rememberAckedSequence msg.sequence).countPong msg now) .kHealthy now)
        exact hquiet _ (hid.trans rfl) rfl rfl rfl
    | closed => exact hquiet _ rfl rfl rfl rfl
    | unknown => exact hquiet _ rfl rfl rfl rfl

end Connection

open Connection

/-! ## The session -/

namespace Session

variable {σ τ : Type} {Open : τ → Prop} {first : BitVec 64}

/-- The call on the responder defers nothing: it is no PONG of its own accord,
and finds the captured state in `Open`. -/
def Undeferred (Open : τ → Prop) : SessionStep σ τ → Prop
  | .initiator _ => True
  | .responder call => call.op.speaks ≠ some .kPong ∧ Open call.env.captured

/-- A session that conforms, numbers its PINGs and answers them. -/
structure Exchanges (first : BitVec 64) (Open : τ → Prop) (s₀ s : Session σ τ) : Prop where
  conforms : Conforms s₀ s
  numbered : NumberedFrom first s.initiator
  serving : Serving Open s.responder

/-- The responder reads. -/
theorem Exchanges.read {s₀ s : Session σ τ} (h : Exchanges first Open s₀ s) (cfg : Config)
    (env : Env τ) (recvs : List RecvOutcome) (now : Int)
    (hadm : s.Admits (.responder ⟨cfg, env, .onReadable recvs now⟩))
    (hopen : Open env.captured) :
    Serving Open (s.responder.call ⟨cfg, env, .onReadable recvs now⟩) := by
  have hentered : ResponderReading s₀ s (s.responder.withEnv env) :=
    ⟨h.conforms.responder_ok.move rfl rfl rfl (Or.inl rfl), h.conforms.responder_accuses,
      h.conforms.feed.symm⟩
  have hrequests : Linked s.initiator (s.responder.withEnv env) s.toResponder :=
    ⟨h.conforms.requests.valid, h.conforms.requests.conserved, h.conforms.requests.delivered_le,
      h.conforms.requests.leftover, h.conforms.requests.stream⟩
  refine (Linked.receiver_read (s.responder.withEnv env)
    (J := fun c => ResponderReading s₀ s c ∧ Serving Open c ∧ Open c.env.captured)
    hrequests cfg recvs now (hadm.2.1 rfl) hadm.2.2.1 ?_ ?_ ?_ ?_
    ⟨hentered, h.serving.keep rfl rfl rfl, hopen⟩).2.2.1
  · rintro m c _ hlive hpre ⟨hc, hserving, hstill⟩
    have hnext := h.conforms.initiator_ok.queue.next hpre
    rw [← hc.feed] at hnext
    exact ⟨hc.dispatch h.conforms cfg now hlive hpre,
      hserving.dispatch hstill cfg now (hc.ok.expected hlive hnext)⟩
  · rintro c buf ⟨hc, hserving, hstill⟩
    exact ⟨⟨hc.ok.move rfl rfl rfl (Or.inl rfl), hc.accuses, hc.feed⟩,
      hserving.keep rfl rfl rfl, hstill⟩
  · rintro c ending ⟨hc, hserving, hstill⟩
    have hends := hc.finishRead ending now
    rcases finishRead_cases c ending now with he | he | ⟨errno, he⟩ <;> rw [he] at hends ⊢
    · exact ⟨hc, hserving, hstill⟩
    · exact ⟨hends, hserving.keep rfl rfl rfl, hstill⟩
    · exact ⟨hends, hserving.keep rfl rfl rfl, hstill⟩
  · rintro c ⟨hc, hserving, hstill⟩
    exact ⟨hc.overrun now, hserving.keep rfl rfl rfl, hstill⟩

theorem step_exchanges {s₀ s : Session σ τ} (h : Exchanges first Open s₀ s)
    (a : SessionStep σ τ) (hadm : s.Admits a) (hprompt : Undeferred Open a) :
    Exchanges first Open s₀ (s.step a) := by
  have hconforms := step_conforms s₀ s a h.conforms hadm
  cases a with
  | initiator call =>
      exact ⟨hconforms, h.numbered.call h.conforms.initiator_ok.role call hadm.1, h.serving⟩
  | responder call =>
      refine ⟨hconforms, h.numbered, ?_⟩
      by_cases hread : call.isRead = true
      · obtain ⟨cfg, env, op⟩ := call
        cases op with
        | onReadable recvs now => exact h.read cfg env recvs now hadm hprompt.2
        | _ => simp [Call.isRead] at hread
      · simp only [Bool.not_eq_true] at hread
        exact h.serving.keep (call_identity s.responder call hadm.1)
          (call_echoes s.responder call hread hadm.1 hprompt.1)
          (congrArg (echoes .kPing) (handled_of_core (call_core s.responder call hread hadm.1)))

/-- Once the socket has taken everything and delivered it, everything queued
has been handled. -/
theorem Linked.all_handled {sender : Connection σ} {receiver : Connection τ} {delivered : Nat}
    (h : Linked sender receiver delivered) (hlive : receiver.state ≠ .kFailed)
    (hwritten : sender.writePending = []) (hread : delivered = sender.trace.accepted.length) :
    receiver.trace.handled = sender.trace.queued.map HeartbeatMessage.stamped := by
  obtain ⟨done, rest, hqueued, hhandled, hstream⟩ := h.stream
  have hbytes : receiver.readAccum = wireBytes rest := by
    rw [← hstream hlive, hwritten, hread, List.append_nil, List.drop_length, List.append_nil]
  have hshort := h.leftover hlive
  have hrest : rest = [] := by
    cases rest with
    | nil => rfl
    | cons m rest =>
        -- a whole frame would not have been left in the buffer
        rw [hbytes, wireBytes, List.flatMap_cons, List.length_append,
          HeartbeatWireBuffer.length_eq] at hshort
        omega
  rw [hhandled, hqueued, hrest, List.append_nil]

theorem Begins.exchanges {s : Session σ τ} (h : Begins s)
    (hobliging : ∀ intercept, s.responder.pingInterceptor = some intercept →
      Obliging Open intercept) : Exchanges s.initiator.nextSequence Open s s where
  conforms := h.conforms
  numbered := by
    constructor
    · simp [h.initiator_new.queued_eq, echoes]
    · simp [h.initiator_new.queued_eq, echoes]
  serving := by
    refine ⟨hobliging, ?_⟩
    simp [h.responder_new.queued_eq, h.responder_new.handled_eq, echoes]

/-- **Every PING is answered once, in order.**  In every interleaving of the
calls on two endpoints of which the responder defers no reply, the PINGs carry
consecutive sequence numbers; the PONGs the initiator has handled echo the
first of them one by one, and the others are on their way, some as PONGs and
the rest as PINGs.  So once both sockets have delivered everything to live
endpoints, the PONGs handled are exactly the echoes of the PINGs sent. -/
theorem heartbeats_in_order (Open : τ → Prop) (s : Session σ τ) (steps : List (SessionStep σ τ))
    (hbegin : Begins s)
    (hobliging : ∀ intercept, s.responder.pingInterceptor = some intercept →
      Obliging Open intercept)
    (hrun : Runs.Along step Admits s steps) (hprompt : ∀ a ∈ steps, Undeferred Open a) :
    let q := steps.foldl step s
    let pings := echoes .kPing q.initiator.trace.queued
    let pongs := echoes .kPong q.initiator.trace.handled
    pings.map Prod.fst =
        (List.range pings.length).map (fun k => s.initiator.nextSequence + BitVec.ofNat 64 k) ∧
      (∃ returning leaving, pings = pongs ++ returning ++ leaving ∧
        echoes .kPong q.responder.trace.queued = pongs ++ returning ∧
        echoes .kPing q.responder.trace.handled = pongs ++ returning) ∧
      (q.initiator.state ≠ .kFailed → q.responder.state ≠ .kFailed →
        q.initiator.writePending = [] → q.toResponder = q.initiator.trace.accepted.length →
        q.responder.writePending = [] → q.toInitiator = q.responder.trace.accepted.length →
        pongs = pings) := by
  intro q pings pongs
  have hend : Exchanges s.initiator.nextSequence Open s q :=
    Runs.invariant (I := fun r => Exchanges s.initiator.nextSequence Open s r)
      (fun r a hr hadm => step_exchanges hr a hadm.1 hadm.2)
      (hbegin.exchanges hobliging)
      (Runs.along_and hrun (Runs.along_of_mem s fun a ha _ => hprompt a ha))
  have hserved := hend.serving.echoed
  refine ⟨hend.numbered.numbers, ?_, ?_⟩
  · obtain ⟨returning, hreturning⟩ :=
      echoes_extend .kPong (Linked.handled_upToNow hend.conforms.replies)
    obtain ⟨leaving, hleaving⟩ :=
      echoes_extend .kPing (Linked.handled_upToNow hend.conforms.requests)
    rw [echoes_stamped] at hreturning hleaving
    refine ⟨returning, leaving, ?_, hreturning.symm, hserved.symm.trans hreturning.symm⟩
    show echoes .kPing q.initiator.trace.queued = _
    rw [← hleaving, ← hserved, ← hreturning]
  · intro hi hr hwritten hread hanswered hback
    have hrequests := Linked.all_handled hend.conforms.requests hr hwritten hread
    have hreplies := Linked.all_handled hend.conforms.replies hi hanswered hback
    show echoes .kPong q.initiator.trace.handled = echoes .kPing q.initiator.trace.queued
    rw [hreplies, echoes_stamped, hserved, hrequests, echoes_stamped]

/-- The simulator's end of a new attempt on feed 7, free of faults. -/
def faultlessDesk : Desk :=
  ⟨{}, [], fun _ => ⟨0, coin_zero⟩, fun _ => ⟨1, latencyFactor_one⟩, fun _ => 0⟩

def faultlessSession : Session Unit Desk where
  initiator := create 5 .kInitiator 7 "127.0.0.1" 9000 none ⟨[], fun _ => 0, ()⟩ 0
  responder := create 9 .kResponder 7 "127.0.0.1" 40000 (some (onPingIntercept 9 0))
    ⟨[], fun _ => 0, faultlessDesk⟩ 0
  toResponder := 0
  toInitiator := 0

/-- The simulator reads while `send()` takes everything. -/
def serve (frames : List RecvOutcome) (now : Int) : Call Desk :=
  ⟨{}, ⟨frames.map fun _ => .sent 28, fun _ => 0, faultlessDesk⟩, .onReadable frames now⟩

/-- Handshake, and one PING answered in the same read. -/
def promptReply : List (SessionStep Unit Desk) :=
  [.initiator (smooth (.onWritable 0 1)),
    .responder (serve [oneFrame .kConnectHello 1] 2),
    .initiator (smooth (.onReadable [oneFrame .kConnectAck 2] 3)),
    .initiator (smooth (.sendPing 4)),
    .responder (serve [oneFrame .kPing 4] 5),
    .initiator (smooth (.onReadable [oneFrame .kPong 4] 6))]

theorem promptReply_admitted : Runs.Along step Admits faultlessSession promptReply := by
  decide +kernel

theorem promptReply_undeferred : ∀ a ∈ promptReply, Undeferred Desk.Faultless a := by
  have hfaultless : Desk.Faultless faultlessDesk := ⟨le_refl _, le_refl _⟩
  simp [promptReply, Undeferred, serve, ConnOp.speaks, hfaultless]

theorem faultlessSession_begins : Begins faultlessSession :=
  ⟨Fresh.newSocket ⟨_, _, _, _, _, _, _, _, rfl⟩, Fresh.newSocket ⟨_, _, _, _, _, _, _, _, rfl⟩,
    rfl, rfl, rfl, rfl, rfl, rfl, rfl⟩

/-- Everything has been delivered, so the one PONG handled is the echo of the
one PING sent. -/
theorem heartbeats_in_order_promptReply :
    let q := promptReply.foldl step faultlessSession
    echoes .kPong q.initiator.trace.handled = echoes .kPing q.initiator.trace.queued ∧
      echoes .kPing q.initiator.trace.queued = [(0, 4)] :=
  ⟨(heartbeats_in_order Desk.Faultless faultlessSession promptReply faultlessSession_begins
      (fun intercept h => by cases h; exact onPingIntercept_obliging 9 0)
      promptReply_admitted promptReply_undeferred).2.2 (by decide +kernel) (by decide +kernel)
      (by decide +kernel) (by decide +kernel) (by decide +kernel) (by decide +kernel),
    by decide +kernel⟩

end Session

end Vigil
