import Vigil.Integrity
import Vigil.Lifecycle
import Mathlib.Data.List.Perm.Subperm

/-!
# Two conforming endpoints

An initiator and a responder of one feed, joined by two byte pipes.  Either
side may be called at any time; replies to PINGs may go out at once, later, in
any order, or never, but none twice.

By `Linked`, each side handles a prefix of what the other queued, so the joint
invariant splits into one property per side: what it has queued so far
(`InitiatorOk`, `ResponderOk`) and how far its state is along what it has
handled.  `session` reads off that neither side is ever accused, that a
healthy initiator has been acknowledged, and that PONGs are echoes.
-/

namespace Vigil

open ByteOrder

/-- The message has this type and belongs to this feed. -/
def Carries (type : MessageType) (feedId : BitVec 32) (msg : HeartbeatMessage) : Prop :=
  MessageType.ofByte msg.type = some type ∧ msg.feedId = feedId

/-- Sequence and timestamp of the messages of one type: what a PONG echoes. -/
def echoes (type : MessageType) (msgs : List HeartbeatMessage) : List (BitVec 64 × BitVec 64) :=
  (msgs.filter fun m => MessageType.ofByte m.type = some type).map
    fun m => (m.sequence, m.timestampNs)

theorem echoes_append (type : MessageType) (msgs msgs' : List HeartbeatMessage) :
    echoes type (msgs ++ msgs') = echoes type msgs ++ echoes type msgs' := by
  simp [echoes]

theorem echoes_single (type : MessageType) {msg : HeartbeatMessage}
    (h : MessageType.ofByte msg.type = some type) :
    echoes type [msg] = [(msg.sequence, msg.timestampNs)] := by
  simp [echoes, h]

theorem echoes_single_ne (type : MessageType) {type' : MessageType} {msg : HeartbeatMessage}
    (h : MessageType.ofByte msg.type = some type') (hne : type' ≠ type) :
    echoes type [msg] = [] := by
  simp [echoes, h, hne]

theorem echoes_stamped (type : MessageType) (msgs : List HeartbeatMessage) :
    echoes type (msgs.map HeartbeatMessage.stamped) = echoes type msgs := by
  induction msgs with
  | nil => rfl
  | cons m msgs ih =>
      have hsplit : ∀ (x : HeartbeatMessage) xs, echoes type (x :: xs) =
          echoes type [x] ++ echoes type xs := fun x xs => echoes_append type [x] xs
      have hone : echoes type [m.stamped] = echoes type [m] := by
        by_cases h : MessageType.ofByte m.type = some type
        · have h' : MessageType.ofByte m.stamped.type = some type := h
          rw [echoes_single type h, echoes_single type h']
          rfl
        · have h' : MessageType.ofByte m.stamped.type ≠ some type := h
          simp [echoes, h, h']
      rw [List.map_cons, hsplit m.stamped, hsplit m msgs, ih, hone]

theorem echoes_extend (type : MessageType) {msgs msgs' : List HeartbeatMessage}
    (h : msgs <+: msgs') : echoes type msgs <+: echoes type msgs' := by
  obtain ⟨rest, rfl⟩ := h
  rw [echoes_append]
  exact List.prefix_append _ _

/-- The handshake message, then heartbeats. -/
def Opens (first later : MessageType) (feedId : BitVec 32) (msgs : List HeartbeatMessage) : Prop :=
  msgs = [] ∨ ∃ head tail, msgs = head :: tail ∧ Carries first feedId head ∧
    ∀ m ∈ tail, Carries later feedId m

theorem Opens.append {first later : MessageType} {feedId : BitVec 32}
    {msgs : List HeartbeatMessage} {msg : HeartbeatMessage} (h : Opens first later feedId msgs)
    (hne : msgs ≠ []) (hm : Carries later feedId msg) :
    Opens first later feedId (msgs ++ [msg]) := by
  obtain ⟨head, tail, rfl, hhead, htail⟩ := h.resolve_left hne
  refine Or.inr ⟨head, tail ++ [msg], rfl, hhead, fun m hmem => ?_⟩
  rcases List.mem_append.mp hmem with hmem | hmem
  · exact htail m hmem
  · rw [List.mem_singleton.mp hmem]
    exact hm

/-- The message that follows a prefix of such a list. -/
theorem Opens.next {first later : MessageType} {feedId : BitVec 32}
    {msgs done : List HeartbeatMessage} {msg : HeartbeatMessage}
    (h : Opens first later feedId msgs)
    (hpre : done ++ [msg] <+: msgs.map HeartbeatMessage.stamped) :
    (done = [] → Carries first feedId msg) ∧ (done ≠ [] → Carries later feedId msg) := by
  rcases h with rfl | ⟨head, tail, rfl, hhead, htail⟩
  · simp at hpre
  · cases done with
    | nil =>
        have heq : msg = head.stamped := by simpa using hpre
        refine ⟨fun _ => ?_, by simp⟩
        rw [heq]
        exact hhead
    | cons d done =>
        have hmem : msg ∈ tail.map HeartbeatMessage.stamped := by
          rw [List.cons_append, List.map_cons, List.cons_prefix_cons] at hpre
          exact hpre.2.subset (by simp)
        obtain ⟨m, hm, rfl⟩ := List.mem_map.mp hmem
        exact ⟨by simp, fun _ => htail m hm⟩

namespace Connection

variable {σ τ : Type}

theorem message_carries (c : Connection σ) (type : MessageType)
    (sequence timestampNs : BitVec 64) :
    Carries type c.feedId (c.message type sequence timestampNs) :=
  ⟨MessageType.ofByte_toByte type, rfl⟩

theorem queueMessage_queued (c : Connection σ) (msg : HeartbeatMessage) :
    (c.queueMessage msg).trace.queued = c.trace.queued ++ [msg] :=
  (queues_queueMessage c msg).queued_eq

theorem queueMessage_state_or (c : Connection σ) (msg : HeartbeatMessage) :
    (c.queueMessage msg).state = c.state ∨ (c.queueMessage msg).state = .kFailed := by
  rw [queueMessage_state]
  split
  · exact Or.inr rfl
  · exact Or.inl rfl

/-! ## The initiator -/

/-- Handshake done, not failed. -/
def Established (s : ConnectionState) : Prop :=
  s = .kHealthy ∨ s = .kDegraded

/-- An initiator that speaks the protocol; `sent₀` and `acked₀` are its
counters when the attempt began. -/
structure InitiatorOk (sent₀ acked₀ : Nat) (c : Connection σ) : Prop where
  role : c.role = .kInitiator
  queue : Opens .kConnectHello .kPing c.feedId c.trace.queued
  states : Occupies .kInitiator c.state
  connecting : c.state = .kConnecting → c.trace.queued = []
  begun : c.state = .kHandshaking ∨ Established c.state → c.trace.queued ≠ []
  opening : c.state = .kConnecting ∨ c.state = .kHandshaking → c.trace.handled = []
  established : Established c.state → c.trace.handled ≠ []
  sent : c.stats.heartbeatsSent = sent₀ + (echoes .kPing c.trace.queued).length
  acked : c.stats.heartbeatsAcked ≤ acked₀ + (echoes .kPong c.trace.handled).length

variable {sent₀ acked₀ : Nat}

/-- Only the state moved, and only to a state the same history fits. -/
theorem InitiatorOk.move {c c' : Connection σ} (h : InitiatorOk sent₀ acked₀ c)
    (hid : c'.identity = c.identity) (hq : c'.trace.queued = c.trace.queued)
    (hh : c'.trace.handled = c.trace.handled)
    (hsent : c'.stats.heartbeatsSent = c.stats.heartbeatsSent)
    (hacked : c'.stats.heartbeatsAcked = c.stats.heartbeatsAcked)
    (hs : c'.state = c.state ∨ c'.state = .kFailed ∨
      (Established c.state ∧ Established c'.state)) : InitiatorOk sent₀ acked₀ c' := by
  have hrole : c'.role = c.role := role_of_identity hid
  have hfeed : c'.feedId = c.feedId := congrArg (fun i => i.2.2.1) hid
  have hrest : c'.state ≠ .kFailed → (c'.state = .kConnecting ↔ c.state = .kConnecting) ∧
      (c'.state = .kHandshaking ↔ c.state = .kHandshaking) ∧
      (Established c'.state ↔ Established c.state) := by
    intro hne
    rcases hs with hs | hs | ⟨h1, h2⟩
    · simp [hs]
    · exact absurd hs hne
    · have h3 := h1
      have h4 := h2
      rcases h1 with h1 | h1 <;> rcases h2 with h2 | h2 <;> simp [h1, h2, Established]
  constructor
  · rw [hrole, h.role]
  · rw [hfeed, hq]
    exact h.queue
  · rcases hs with hs | hs | ⟨_, hs | hs⟩ <;> rw [hs]
    · exact h.states
    all_goals simp [Occupies]
  · intro hc
    rw [hq]
    exact h.connecting ((hrest (by simp [hc])).1.mp hc)
  · intro hc
    have hne : c'.state ≠ .kFailed := by rcases hc with hc | hc | hc <;> simp [hc]
    rw [hq]
    exact h.begun (hc.imp (hrest hne).2.1.mp (hrest hne).2.2.mp)
  · intro hc
    have hne : c'.state ≠ .kFailed := by rcases hc with hc | hc <;> simp [hc]
    rw [hh]
    exact h.opening (hc.imp (hrest hne).1.mp (hrest hne).2.1.mp)
  · intro hc
    have hne : c'.state ≠ .kFailed := by rcases hc with hc | hc <;> simp [hc]
    rw [hh]
    exact h.established ((hrest hne).2.2.mp hc)
  · rw [hsent, hq, h.sent]
  · rw [hacked, hh]
    exact h.acked

theorem InitiatorOk.fail {c c' : Connection σ} (h : InitiatorOk sent₀ acked₀ c)
    (hid : c'.identity = c.identity) (hq : c'.trace.queued = c.trace.queued)
    (hh : c'.trace.handled = c.trace.handled)
    (hsent : c'.stats.heartbeatsSent = c.stats.heartbeatsSent)
    (hacked : c'.stats.heartbeatsAcked = c.stats.heartbeatsAcked)
    (hs : c'.state = .kFailed) : InitiatorOk sent₀ acked₀ c' :=
  h.move hid hq hh hsent hacked (Or.inr (Or.inl hs))

theorem InitiatorOk.onWritable {c : Connection σ} (h : InitiatorOk sent₀ acked₀ c) (soError : Nat)
    (now : Int) : InitiatorOk sent₀ acked₀ (c.onWritable soError now) := by
  unfold Connection.onWritable
  split
  · next hconnecting =>
      split
      · exact h.fail rfl rfl rfl rfl rfl rfl
      · rw [if_pos h.role]
        have hempty := h.connecting hconnecting
        have hhandled := h.opening (Or.inl hconnecting)
        have hcore := queueMessage_core (c.transitionTo .kHandshaking now)
          (c.message .kConnectHello 0 (BitVec.ofInt 64 now))
        have hqueued := queueMessage_queued (c.transitionTo .kHandshaking now)
          (c.message .kConnectHello 0 (BitVec.ofInt 64 now))
        have hstate := queueMessage_state_or (c.transitionTo .kHandshaking now)
          (c.message .kConnectHello 0 (BitVec.ofInt 64 now))
        have hstats := queueMessage_stats (c.transitionTo .kHandshaking now)
          (c.message .kConnectHello 0 (BitVec.ofInt 64 now))
        generalize (c.transitionTo .kHandshaking now).queueMessage
          (c.message .kConnectHello 0 (BitVec.ofInt 64 now)) = d at *
        have hdq : d.trace.queued = [c.message .kConnectHello 0 (BitVec.ofInt 64 now)] := by
          rw [hqueued]
          show c.trace.queued ++ _ = _
          rw [hempty]
          rfl
        have hdh : d.trace.handled = [] := (handled_of_core hcore).trans hhandled
        have hfeed : d.feedId = c.feedId := congrArg (fun i => i.1.2.2.1) hcore
        constructor
        · exact (role_of_identity (identity_of_core hcore)).trans h.role
        · rw [hdq, hfeed]
          exact Or.inr ⟨_, [], rfl, c.message_carries .kConnectHello 0 _, by simp⟩
        · rcases hstate with hs | hs <;> rw [hs] <;> simp [Occupies, transitionTo]
        · intro hc
          rcases hstate with hs | hs <;> rw [hs] at hc <;> simp [transitionTo] at hc
        · intro _
          simp [hdq]
        · intro _
          exact hdh
        · intro hc
          rcases hstate with hs | hs <;> rw [hs] at hc <;> simp [transitionTo, Established] at hc
        · have hnone : echoes .kPing [c.message .kConnectHello 0 (BitVec.ofInt 64 now)] = [] :=
            echoes_single_ne _ (c.message_carries .kConnectHello 0 _).1 (by decide)
          have hsent := h.sent
          rw [hstats, hdq, hnone]
          rw [hempty] at hsent
          exact hsent
        · have hacked := h.acked
          rw [hstats, hdh]
          rw [hhandled] at hacked
          exact hacked
  · obtain ⟨w, hw, hspec⟩ := flushLoop_eq c.env.sends c
    rw [flushWriteBuffer, hw]
    refine h.move rfl (by simpa [wrote] using hspec.queued_eq) rfl rfl rfl ?_
    cases hf : flushFails c.env.sends c.writePending.length with
    | false => exact Or.inl (hspec.quiet hf).1
    | true => exact Or.inr (Or.inl (hspec.failed hf).1)

theorem InitiatorOk.sendPing {c : Connection σ} (h : InitiatorOk sent₀ acked₀ c) (now : Int) :
    InitiatorOk sent₀ acked₀ (c.sendPing now) := by
  by_cases hguard : c.role = .kInitiator ∧ (c.state = .kHealthy ∨ c.state = .kDegraded)
  · rw [sendPing_eq c now hguard.1 hguard.2]
    have hcore := queueMessage_core c.bumpSequence (c.pingMessage now)
    have hqueued := queueMessage_queued c.bumpSequence (c.pingMessage now)
    have hstate := queueMessage_state_or c.bumpSequence (c.pingMessage now)
    have hstats := queueMessage_stats c.bumpSequence (c.pingMessage now)
    have hne := h.begun (Or.inr hguard.2)
    have hping : Carries .kPing c.feedId (c.pingMessage now) := c.message_carries .kPing _ _
    have hsent : echoes .kPing (c.trace.queued ++ [c.pingMessage now]) =
        echoes .kPing c.trace.queued ++ [(c.nextSequence, BitVec.ofInt 64 now)] := by
      rw [echoes_append, echoes_single .kPing hping.1]
      rfl
    generalize c.bumpSequence.queueMessage (c.pingMessage now) = d at *
    have hdh : d.trace.handled = c.trace.handled := handled_of_core hcore
    have hdq : d.trace.queued = c.trace.queued ++ [c.pingMessage now] := hqueued
    have hfeed : d.feedId = c.feedId := congrArg (fun i => i.1.2.2.1) hcore
    have hlive : d.state = c.state ∨ d.state = .kFailed := hstate
    constructor
    · exact (role_of_identity (identity_of_core hcore)).trans h.role
    · show Opens .kConnectHello .kPing d.feedId d.trace.queued
      rw [hdq, hfeed]
      exact h.queue.append hne hping
    · show Occupies .kInitiator d.state
      rcases hlive with hs | hs <;> rw [hs]
      · exact h.states
      · simp [Occupies]
    · intro hc
      have hc' : d.state = .kConnecting := hc
      rcases hlive with hs | hs <;> rw [hs] at hc'
      · rcases hguard.2 with hg | hg <;> rw [hg] at hc' <;> cases hc'
      · cases hc'
    · intro _
      show d.trace.queued ≠ []
      simp [hdq]
    · intro hc
      have hc' : d.state = .kConnecting ∨ d.state = .kHandshaking := hc
      rcases hlive with hs | hs <;> rw [hs] at hc'
      · rcases hguard.2 with hg | hg <;> rw [hg] at hc' <;> simp at hc'
      · simp at hc'
    · intro _
      show d.trace.handled ≠ []
      rw [hdh]
      exact h.established hguard.2
    · show d.stats.heartbeatsSent + 1 = _
      have hd : d.countPing.trace.queued = c.trace.queued ++ [c.pingMessage now] := hdq
      rw [hd, hsent, hstats, List.length_append]
      have := h.sent
      show c.stats.heartbeatsSent + 1 = _
      simp only [List.length_singleton]
      omega
    · show d.stats.heartbeatsAcked ≤ acked₀ + (echoes .kPong d.trace.handled).length
      rw [hstats, hdh]
      exact h.acked
  · rw [sendPing_idle c now hguard]
    exact h

theorem InitiatorOk.checkTimeout {c : Connection σ} (h : InitiatorOk sent₀ acked₀ c) (cfg : Config)
    (now : Int) : InitiatorOk sent₀ acked₀ (c.checkTimeout cfg now).2 := by
  have hresult := checkTimeout_result cfg c now
  generalize c.checkTimeout cfg now = result at hresult ⊢
  cases hresult with
  | idle => exact h
  | attempting => exact h
  | alive => exact h
  | attemptExpired => exact h.fail rfl rfl rfl rfl rfl rfl
  | silent => exact h.fail rfl rfl rfl rfl rfl rfl
  | lastMiss => exact h.fail rfl rfl rfl rfl rfl rfl
  | miss hs => exact h.move rfl rfl rfl rfl rfl (Or.inr (Or.inr ⟨hs, Or.inr rfl⟩))

/-- What an initiator does without reading. -/
theorem InitiatorOk.call {c : Connection σ} (h : InitiatorOk sent₀ acked₀ c) (call : Call σ)
    (hread : call.isRead = false) (hrebind : call.isRebind = false) :
    InitiatorOk sent₀ acked₀ (c.call call) := by
  obtain ⟨cfg, env, op⟩ := call
  have hin : InitiatorOk sent₀ acked₀ (c.withEnv env) :=
    h.move rfl rfl rfl rfl rfl (Or.inl rfl)
  cases op with
  | onReadable recvs now => simp [Call.isRead] at hread
  | onWritable soError now => exact hin.onWritable soError now
  | onHangupOrError errno now =>
      have hid := identity_of_core (handleSocketError_core (c.withEnv env) now errno)
      exact hin.fail hid rfl rfl rfl rfl rfl
  | sendPing now => exact hin.sendPing now
  | sendPong sequence timestampNs =>
      show InitiatorOk sent₀ acked₀ ((c.withEnv env).sendPong sequence timestampNs)
      rw [sendPong, if_pos (by simp [hin.role])]
      exact hin
  | checkTimeout now => exact hin.checkTimeout cfg now
  | resetLivenessBaseline now => exact h.move rfl rfl rfl rfl rfl (Or.inl rfl)
  | rebind newFd now => simp [Call.isRebind] at hrebind

/-- The message an initiator may be handed next. -/
def InitiatorExpects (c : Connection σ) (msg : HeartbeatMessage) : Prop :=
  c.state ≠ .kConnecting ∧ (c.trace.handled = [] → Carries .kConnectAck c.feedId msg) ∧
    (c.trace.handled ≠ [] → Carries .kPong c.feedId msg)

theorem InitiatorOk.expected {c : Connection σ} (h : InitiatorOk sent₀ acked₀ c)
    {msg : HeartbeatMessage} (hlive : c.state ≠ .kFailed) (hmsg : InitiatorExpects c msg) :
    ¬ c.Unexpected msg := by
  obtain ⟨hnc, hack, hpong⟩ := hmsg
  by_cases hhandled : c.trace.handled = []
  · -- not established yet, so this is the ACK
    have hs : c.state = .kHandshaking := by
      have hne : ¬ Established c.state := fun he => h.established he hhandled
      have := h.states
      simp only [Occupies, Established] at this hne
      tauto
    simp [Unexpected, (hack hhandled).1, (hack hhandled).2, h.role, hs]
  · have hs : Established c.state := by
      have hno : ¬ (c.state = .kConnecting ∨ c.state = .kHandshaking) :=
        fun ho => hhandled (h.opening ho)
      have := h.states
      simp only [Occupies, Established] at this ⊢
      tauto
    simp only [Unexpected, (hpong hhandled).1, h.role]
    simp only [Established] at hs
    tauto

theorem InitiatorOk.recover {c : Connection σ} (h : InitiatorOk sent₀ acked₀ c)
    (hs : Established c.state) (now : Int) :
    InitiatorOk sent₀ acked₀ (c.transitionTo .kHealthy now) :=
  h.move rfl rfl rfl rfl rfl (Or.inr (Or.inr ⟨hs, Or.inl rfl⟩))

/-- One more message has been handled, and nothing was queued: an established
state stays so. -/
theorem InitiatorOk.hear {c d : Connection σ} (h : InitiatorOk sent₀ acked₀ c)
    {msg : HeartbeatMessage} (hid : d.identity = c.identity)
    (hq : d.trace.queued = c.trace.queued) (hh : d.trace.handled = c.trace.handled ++ [msg])
    (hsent : d.stats.heartbeatsSent = c.stats.heartbeatsSent)
    (hacked : d.stats.heartbeatsAcked ≤
      acked₀ + (echoes .kPong (c.trace.handled ++ [msg])).length)
    (hs : d.state = .kFailed ∨ Established d.state ∧ c.trace.queued ≠ []) :
    InitiatorOk sent₀ acked₀ d := by
  have hfeed : d.feedId = c.feedId := congrArg (fun i => i.2.2.1) hid
  have hnot : d.state ≠ .kConnecting ∧ d.state ≠ .kHandshaking := by
    rcases hs with hs | ⟨hs | hs, _⟩ <;> simp [hs]
  constructor
  · rw [role_of_identity hid, h.role]
  · rw [hfeed, hq]
    exact h.queue
  · rcases hs with hs | ⟨hs | hs, _⟩ <;> simp [hs, Occupies]
  · exact fun hc => absurd hc hnot.1
  · intro hc
    rw [hq]
    rcases hs with hs | ⟨_, hne⟩
    · rcases hc with hc | hc | hc <;> rw [hs] at hc <;> cases hc
    · exact hne
  · intro hc
    exact absurd hc (by tauto)
  · intro _
    simp [hh]
  · rw [hsent, hq, h.sent]
  · rw [hh]
    exact hacked

theorem InitiatorOk.dispatch {c : Connection σ} (h : InitiatorOk sent₀ acked₀ c) (cfg : Config)
    {msg : HeartbeatMessage} (now : Int) (hlive : c.state ≠ .kFailed)
    (hmsg : InitiatorExpects c msg) : InitiatorOk sent₀ acked₀ (c.dispatch cfg msg now) := by
  have hexp := h.expected hlive hmsg
  have hpongs : echoes .kPong c.trace.handled <+: echoes .kPong (c.trace.handled ++ [msg]) :=
    echoes_extend .kPong (List.prefix_append _ _)
  have hlen := hpongs.length_le
  have hbase := h.acked
  have hcount (ht : MessageType.ofByte msg.type = some .kPong) : c.stats.heartbeatsAcked + 1 ≤
      acked₀ + (echoes .kPong (c.trace.handled ++ [msg])).length := by
    rw [echoes_append, echoes_single .kPong ht, List.length_append, List.length_singleton]
    omega
  have hresult := handleMessage_result cfg (c.noteHandled msg) msg now
  rw [Connection.dispatch]
  generalize (c.noteHandled msg).handleMessage cfg msg now = result at hresult ⊢
  cases hresult with
  | violation reason hreason hun => exact absurd hun hexp
  | hello ht hr => exact absurd (h.role.symm.trans hr) (by decide)
  | ack ht hr hs =>
      exact h.hear rfl rfl rfl rfl (hbase.trans (by omega))
        (Or.inr ⟨Or.inl rfl, h.begun (Or.inl hs)⟩)
  | pingAnswered captured ht hr => exact absurd (h.role.symm.trans hr) (by decide)
  | pingHeld captured ht hr => exact absurd (h.role.symm.trans hr) (by decide)
  | duplicate ht hr hs =>
      exact h.hear rfl rfl rfl rfl (hbase.trans (by omega)) (Or.inr ⟨hs, h.begun (Or.inr hs)⟩)
  | untimely ht hr hs =>
      exact h.hear rfl rfl rfl rfl (hbase.trans (by omega)) (Or.inr ⟨hs, h.begun (Or.inr hs)⟩)
  | counted ht hr hs =>
      exact h.hear rfl rfl rfl rfl (hcount ht)
        (Or.inr ⟨Or.inl hs, h.begun (Or.inr (Or.inl hs))⟩)
  | recovered ht hr hs =>
      have hcounted : InitiatorOk sent₀ acked₀
          (((c.noteHandled msg).rememberAckedSequence msg.sequence).countPong msg now) :=
        h.hear rfl rfl rfl rfl (hcount ht) (Or.inr ⟨Or.inr hs, h.begun (Or.inr (Or.inr hs))⟩)
      exact hcounted.recover (Or.inr hs) now
  | closed =>
      have hid := identity_of_core (handlePeerClosed_core (c.noteHandled msg) now)
      exact h.hear hid rfl rfl rfl (hbase.trans (by omega)) (Or.inl rfl)
  | unknown ht =>
      have hhandled : c.trace.handled = [] := by
        by_contra hne
        simp [(hmsg.2.2 hne).1] at ht
      simp [(hmsg.2.1 hhandled).1] at ht

/-! ## The responder -/

/-- A responder that speaks the protocol: every PONG it queued echoes a PING
it handled, and none is echoed twice. -/
structure ResponderOk (c : Connection τ) : Prop where
  role : c.role = .kResponder
  queue : Opens .kConnectAck .kPong c.feedId c.trace.queued
  states : Occupies .kResponder c.state
  opening : c.state = .kHandshaking → c.trace.handled = [] ∧ c.trace.queued = []
  healthy : c.state = .kHealthy → c.trace.handled ≠ [] ∧ c.trace.queued ≠ []
  answered : c.trace.queued ≠ [] → c.trace.handled ≠ []
  echoed : (echoes .kPong c.trace.queued).Subperm (echoes .kPing c.trace.handled)

/-- Some PING with this sequence and timestamp has not been answered yet. -/
def Owed (c : Connection τ) (echo : BitVec 64 × BitVec 64) : Prop :=
  (echoes .kPong c.trace.queued).count echo < (echoes .kPing c.trace.handled).count echo

instance (c : Connection τ) (echo : BitVec 64 × BitVec 64) : Decidable (Owed c echo) :=
  inferInstanceAs (Decidable (_ < _))

/-- The history stayed, and so did the state unless it failed. -/
theorem ResponderOk.move {c c' : Connection τ} (h : ResponderOk c)
    (hid : c'.identity = c.identity) (hq : c'.trace.queued = c.trace.queued)
    (hh : c'.trace.handled = c.trace.handled)
    (hs : c'.state = c.state ∨ c'.state = .kFailed) : ResponderOk c' := by
  have hfeed : c'.feedId = c.feedId := congrArg (fun i => i.2.2.1) hid
  have hback : c'.state ≠ .kFailed → c'.state = c.state := hs.resolve_right
  constructor
  · rw [role_of_identity hid, h.role]
  · rw [hfeed, hq]
    exact h.queue
  · rcases hs with hs | hs <;> rw [hs]
    · exact h.states
    · simp [Occupies]
  · intro hc
    rw [hh, hq]
    exact h.opening ((hback (by simp [hc])).symm.trans hc)
  · intro hc
    rw [hh, hq]
    exact h.healthy ((hback (by simp [hc])).symm.trans hc)
  · rw [hh, hq]
    exact h.answered
  · rw [hh, hq]
    exact h.echoed

/-- A healthy responder queues one more PONG. -/
theorem ResponderOk.queuePong {c c' : Connection τ} {pong : HeartbeatMessage}
    (h : ResponderOk c) (hstate : c.state = .kHealthy) (hpong : Carries .kPong c.feedId pong)
    (howed : Owed c (pong.sequence, pong.timestampNs)) (hid : c'.identity = c.identity)
    (hq : c'.trace.queued = c.trace.queued ++ [pong]) (hh : c'.trace.handled = c.trace.handled)
    (hs : c'.state = c.state ∨ c'.state = .kFailed) : ResponderOk c' := by
  have hfeed : c'.feedId = c.feedId := congrArg (fun i => i.2.2.1) hid
  have hne := h.healthy hstate
  constructor
  · rw [role_of_identity hid, h.role]
  · rw [hfeed, hq]
    exact h.queue.append hne.2 hpong
  · rcases hs with hs | hs <;> rw [hs]
    · exact h.states
    · simp [Occupies]
  · intro hc
    rcases hs with hs | hs <;> rw [hs] at hc
    · rw [hstate] at hc
      cases hc
    · cases hc
  · intro _
    rw [hh, hq]
    exact ⟨hne.1, by simp⟩
  · intro _
    rw [hh]
    exact hne.1
  · rw [hh, hq, echoes_append, echoes_single .kPong hpong.1]
    exact (List.perm_append_singleton _ _).subperm.trans (h.echoed.cons_left _ howed)

theorem ResponderOk.sendPong {c : Connection τ} (h : ResponderOk c)
    {sequence timestampNs : BitVec 64} (howed : Owed c (sequence, timestampNs)) :
    ResponderOk (c.sendPong sequence timestampNs) := by
  unfold Connection.sendPong
  split
  · exact h
  · next hguard =>
      push Not at hguard
      exact h.queuePong hguard.2 (c.message_carries .kPong sequence timestampNs) howed
        (identity_of_core (queueMessage_core c _)) (queueMessage_queued c _)
        (handled_of_core (queueMessage_core c _)) (queueMessage_state_or c _)

/-- What a responder does without reading; a PONG it is asked to send must be
owed. -/
theorem ResponderOk.call {c : Connection τ} (h : ResponderOk c) (call : Call τ)
    (hread : call.isRead = false) (hrebind : call.isRebind = false)
    (howed : ∀ sequence timestampNs, call.op = .sendPong sequence timestampNs →
      Owed c (sequence, timestampNs)) : ResponderOk (c.call call) := by
  obtain ⟨cfg, env, op⟩ := call
  have hin : ResponderOk (c.withEnv env) := h.move rfl rfl rfl (Or.inl rfl)
  cases op with
  | onReadable recvs now => simp [Call.isRead] at hread
  | onWritable soError now =>
      show ResponderOk ((c.withEnv env).onWritable soError now)
      have hnc : (c.withEnv env).state ≠ .kConnecting := by
        intro hc
        have := hin.states
        simp [Occupies, hc] at this
      rw [onWritable, if_neg hnc]
      obtain ⟨w, hw, hspec⟩ := flushLoop_eq (c.withEnv env).env.sends (c.withEnv env)
      rw [flushWriteBuffer, hw]
      refine hin.move rfl (by simpa [wrote] using hspec.queued_eq) rfl ?_
      cases hf : flushFails (c.withEnv env).env.sends (c.withEnv env).writePending.length with
      | false => exact Or.inl (hspec.quiet hf).1
      | true => exact Or.inr (hspec.failed hf).1
  | onHangupOrError errno now =>
      have hid := identity_of_core (handleSocketError_core (c.withEnv env) now errno)
      exact hin.move hid rfl rfl (Or.inr rfl)
  | sendPing now =>
      show ResponderOk ((c.withEnv env).sendPing now)
      rw [sendPing_idle _ now (by simp [hin.role])]
      exact hin
  | sendPong sequence timestampNs =>
      exact hin.sendPong (howed sequence timestampNs rfl)
  | checkTimeout now =>
      show ResponderOk ((c.withEnv env).checkTimeout cfg now).2
      have hresult := checkTimeout_result cfg (c.withEnv env) now
      generalize (c.withEnv env).checkTimeout cfg now = result at hresult ⊢
      cases hresult with
      | attemptExpired => exact hin.move rfl rfl rfl (Or.inr rfl)
      | silent => exact hin.move rfl rfl rfl (Or.inr rfl)
      | lastMiss hs hr => exact absurd (hin.role.symm.trans hr) (by decide)
      | miss hs hr => exact absurd (hin.role.symm.trans hr) (by decide)
      | _ => exact hin
  | resetLivenessBaseline now => exact h.move rfl rfl rfl (Or.inl rfl)
  | rebind newFd now => simp [Call.isRebind] at hrebind

/-- The message a responder may be handed next. -/
def ResponderExpects (c : Connection τ) (msg : HeartbeatMessage) : Prop :=
  (c.trace.handled = [] → Carries .kConnectHello c.feedId msg) ∧
    (c.trace.handled ≠ [] → Carries .kPing c.feedId msg)

theorem ResponderOk.expected {c : Connection τ} (h : ResponderOk c) {msg : HeartbeatMessage}
    (hlive : c.state ≠ .kFailed) (hmsg : ResponderExpects c msg) : ¬ c.Unexpected msg := by
  have hstates := h.states
  by_cases hhandled : c.trace.handled = []
  · have hs : c.state = .kHandshaking := by
      have hne : c.state ≠ .kHealthy := fun hc => (h.healthy hc).1 hhandled
      simp only [Occupies] at hstates
      tauto
    simp [Unexpected, (hmsg.1 hhandled).1, (hmsg.1 hhandled).2, h.role, hs]
  · have hs : c.state = .kHealthy := by
      have hne : c.state ≠ .kHandshaking := fun hc => hhandled (h.opening hc).1
      simp only [Occupies] at hstates
      tauto
    simp [Unexpected, (hmsg.2 hhandled).1, h.role, hs]

/-- A PING was heard by a healthy responder and not answered yet. -/
theorem ResponderOk.hear {c : Connection τ} (h : ResponderOk c) (msg : HeartbeatMessage)
    (now : Int) (captured : τ) (hs : c.state = .kHealthy) :
    ResponderOk ((c.noteHandled msg).heard now captured) where
  role := h.role
  queue := h.queue
  states := h.states
  opening := fun hc => by
    have hc' : c.state = .kHandshaking := hc
    rw [hs] at hc'
    cases hc'
  healthy := fun _ => ⟨by simp [noteHandled, heard], (h.healthy hs).2⟩
  answered := fun _ => by simp [noteHandled, heard]
  echoed := h.echoed.trans
    (echoes_extend .kPing (List.prefix_append c.trace.handled [msg])).sublist.subperm

/-- The CONNECT_HELLO has been handled and its CONNECT_ACK queued. -/
theorem ResponderOk.greet {c d : Connection τ} (h : ResponderOk c)
    {msg ack : HeartbeatMessage} (hs : c.state = .kHandshaking)
    (hack : Carries .kConnectAck c.feedId ack) (hid : d.identity = c.identity)
    (hq : d.trace.queued = c.trace.queued ++ [ack])
    (hh : d.trace.handled = c.trace.handled ++ [msg]) (now : Int) :
    ResponderOk (d.completeHandshake now) := by
  obtain ⟨hhandled, hqueued⟩ := h.opening hs
  rw [hqueued, List.nil_append] at hq
  rw [hhandled, List.nil_append] at hh
  have hfeed : d.feedId = c.feedId := congrArg (fun i => i.2.2.1) hid
  exact {
    role := (role_of_identity hid).trans h.role
    queue := by
      show Opens _ _ d.feedId d.trace.queued
      rw [hq, hfeed]
      exact Or.inr ⟨_, [], rfl, hack, by simp⟩
    states := by simp [completeHandshake, transitionTo, Occupies]
    opening := fun hc => by simp [completeHandshake, transitionTo] at hc
    healthy := fun _ => ⟨by show d.trace.handled ≠ []; simp [hh],
      by show d.trace.queued ≠ []; simp [hq]⟩
    answered := fun _ => by show d.trace.handled ≠ []; simp [hh]
    echoed := by
      show (echoes _ d.trace.queued).Subperm _
      rw [hq, echoes_single_ne .kPong hack.1 (by decide)]
      exact List.nil_subperm }

theorem ResponderOk.dispatch {c : Connection τ} (h : ResponderOk c) (cfg : Config)
    {msg : HeartbeatMessage} (now : Int) (hlive : c.state ≠ .kFailed)
    (hmsg : ResponderExpects c msg) : ResponderOk (c.dispatch cfg msg now) := by
  have hexp := h.expected hlive hmsg
  have hresult := handleMessage_result cfg (c.noteHandled msg) msg now
  rw [Connection.dispatch]
  generalize (c.noteHandled msg).handleMessage cfg msg now = result at hresult ⊢
  cases hresult with
  | violation reason hreason hun => exact absurd hun hexp
  | hello ht hr hs hf =>
      have hcore := queueMessage_core (c.noteHandled msg)
        ((c.noteHandled msg).message .kConnectAck 0 (BitVec.ofInt 64 now))
      have hid := identity_of_core hcore
      have hack : Carries .kConnectAck c.feedId
          ((c.noteHandled msg).message .kConnectAck 0 (BitVec.ofInt 64 now)) :=
        c.message_carries .kConnectAck 0 _
      exact h.greet hs hack hid (queueMessage_queued _ _) (handled_of_core hcore) now
  | ack ht hr => exact absurd (h.role.symm.trans hr) (by decide)
  | pingAnswered captured ht hr hs =>
      have hheard := h.hear msg now captured hs
      have hpong : Carries .kPong ((c.noteHandled msg).heard now captured).feedId
          ((c.noteHandled msg).message .kPong msg.sequence msg.timestampNs) :=
        c.message_carries .kPong _ _
      refine hheard.queuePong hs hpong ?_ (identity_of_core (queueMessage_core _ _))
        (queueMessage_queued _ _) (handled_of_core (queueMessage_core _ _))
        (queueMessage_state_or _ _)
      -- the PING just handled is one more than has been answered
      have hle := h.echoed.count_le (msg.sequence, msg.timestampNs)
      show (echoes .kPong c.trace.queued).count _ <
        (echoes .kPing (c.trace.handled ++ [msg])).count (msg.sequence, msg.timestampNs)
      rw [echoes_append, echoes_single .kPing ht, List.count_append, List.count_singleton_self]
      exact Nat.lt_succ_of_le hle
  | pingHeld captured ht hr hs => exact h.hear msg now captured hs
  | duplicate ht hr => exact absurd (h.role.symm.trans hr) (by decide)
  | untimely ht hr => exact absurd (h.role.symm.trans hr) (by decide)
  | counted ht hr => exact absurd (h.role.symm.trans hr) (by decide)
  | recovered ht hr => exact absurd (h.role.symm.trans hr) (by decide)
  | closed ht =>
      by_cases hhandled : c.trace.handled = []
      · simp [(hmsg.1 hhandled).1] at ht
      · simp [(hmsg.2 hhandled).1] at ht
  | unknown ht =>
      by_cases hhandled : c.trace.handled = []
      · simp [(hmsg.1 hhandled).1] at ht
      · simp [(hmsg.2 hhandled).1] at ht

end Connection

open Connection

/-! ## The session -/

/-- The two endpoints, with the number of bytes each direction has delivered. -/
structure Session (σ τ : Type) where
  initiator : Connection σ
  responder : Connection τ
  toResponder : Nat
  toInitiator : Nat

/-- A call on one of the endpoints. -/
inductive SessionStep (σ τ : Type) where
  | initiator (call : Call σ)
  | responder (call : Call τ)

namespace Session

variable {σ τ : Type}

def step (s : Session σ τ) : SessionStep σ τ → Session σ τ
  | .initiator call =>
      { s with
        initiator := s.initiator.call call
        toInitiator := s.toInitiator + call.received.length }
  | .responder call =>
      { s with
        responder := s.responder.call call
        toResponder := s.toResponder + call.received.length }

/-- The channels are lossless and in order, only endpoints that have not
failed are read, and a deferred PONG answers a PING not answered before. -/
def Admits (s : Session σ τ) : SessionStep σ τ → Prop
  | .initiator call => call.isRebind = false ∧
      (call.isRead = true → s.initiator.state ≠ .kFailed) ∧
      call.received <+: s.responder.trace.accepted.drop s.toInitiator
  | .responder call => call.isRebind = false ∧
      (call.isRead = true → s.responder.state ≠ .kFailed) ∧
      call.received <+: s.initiator.trace.accepted.drop s.toResponder ∧
      ∀ sequence timestampNs, call.op = .sendPong sequence timestampNs →
        Owed s.responder (sequence, timestampNs)

instance decidableOwedBy (c : Connection τ) (op : ConnOp) :
    Decidable (∀ sequence timestampNs, op = .sendPong sequence timestampNs →
      Owed c (sequence, timestampNs)) :=
  match op with
  | .sendPong sequence timestampNs =>
      decidable_of_iff (Owed c (sequence, timestampNs))
        ⟨fun h _ _ heq => by cases heq; exact h, fun h => h sequence timestampNs rfl⟩
  | .onReadable _ _ => isTrue nofun
  | .onWritable _ _ => isTrue nofun
  | .onHangupOrError _ _ => isTrue nofun
  | .sendPing _ => isTrue nofun
  | .checkTimeout _ => isTrue nofun
  | .resetLivenessBaseline _ => isTrue nofun
  | .rebind _ _ => isTrue nofun

instance (s : Session σ τ) (a : SessionStep σ τ) : Decidable (s.Admits a) :=
  match a with
  | .initiator call => inferInstanceAs (Decidable (call.isRebind = false ∧ _ ∧ _))
  | .responder call => inferInstanceAs (Decidable (call.isRebind = false ∧ _ ∧ _ ∧ _))

/-- A connection attempt begins: new sockets on both sides, for one feed. -/
structure Begins (s : Session σ τ) : Prop where
  initiator_new : NewSocket s.initiator
  responder_new : NewSocket s.responder
  initiator_role : s.initiator.role = .kInitiator
  responder_role : s.responder.role = .kResponder
  initiator_state : s.initiator.state = .kConnecting
  responder_state : s.responder.state = .kHandshaking
  feed : s.initiator.feedId = s.responder.feedId
  toResponder_eq : s.toResponder = 0
  toInitiator_eq : s.toInitiator = 0

/-- The joint invariant of an attempt that began as `s₀`. -/
structure Conforms (s₀ s : Session σ τ) : Prop where
  initiator_ok : InitiatorOk s₀.initiator.stats.heartbeatsSent
    s₀.initiator.stats.heartbeatsAcked s.initiator
  responder_ok : ResponderOk s.responder
  feed : s.initiator.feedId = s.responder.feedId
  requests : Linked s.initiator s.responder s.toResponder
  replies : Linked s.responder s.initiator s.toInitiator
  initiator_accuses : Accuses IsCap s₀.initiator s.initiator
  responder_accuses : Accuses IsCap s₀.responder s.responder

theorem Begins.conforms {s : Session σ τ} (h : Begins s) : Conforms s s where
  initiator_ok := {
    role := h.initiator_role
    queue := Or.inl h.initiator_new.queued_eq
    states := Or.inl h.initiator_state
    connecting := fun _ => h.initiator_new.queued_eq
    begun := fun hc => by simp [h.initiator_state, Established] at hc
    opening := fun _ => h.initiator_new.handled_eq
    established := fun hc => by simp [h.initiator_state, Established] at hc
    sent := by simp [h.initiator_new.queued_eq, echoes]
    acked := by simp }
  responder_ok := {
    role := h.responder_role
    queue := Or.inl h.responder_new.queued_eq
    states := Or.inl h.responder_state
    opening := fun _ => ⟨h.responder_new.handled_eq, h.responder_new.queued_eq⟩
    healthy := fun hc => by simp [h.responder_state] at hc
    answered := fun hne => absurd h.responder_new.queued_eq hne
    echoed := by simp [h.responder_new.queued_eq, echoes] }
  feed := h.feed
  requests := by
    rw [h.toResponder_eq]
    exact linked_newSocket h.initiator_new h.responder_new
  replies := by
    rw [h.toInitiator_eq]
    exact linked_newSocket h.responder_new h.initiator_new
  initiator_accuses := Accuses.of_eq rfl
  responder_accuses := Accuses.of_eq rfl

/-- The responder has spoken only if the initiator has. -/
theorem Conforms.spoken {s₀ s : Session σ τ} (h : Conforms s₀ s)
    (hne : s.responder.trace.queued ≠ []) : s.initiator.state ≠ .kConnecting := by
  intro hc
  have hempty := h.initiator_ok.connecting hc
  obtain ⟨done, rest, hqueued, hhandled, _⟩ := h.requests.stream
  apply h.responder_ok.answered hne
  rw [hempty] at hqueued
  rw [hhandled, (List.append_eq_nil_iff.mp hqueued.symm).1]
  rfl

theorem received_of_not_read (call : Call σ) (h : call.isRead = false) : call.received = [] := by
  obtain ⟨cfg, env, op⟩ := call
  cases op with
  | onReadable recvs now => simp [Call.isRead] at h
  | _ => rfl

theorem feedId_call (c : Connection σ) (call : Call σ) (h : call.isRebind = false) :
    (c.call call).feedId = c.feedId :=
  congrArg (fun i => i.2.2.1) (call_identity c call h)

/-- What the initiator keeps while it handles the messages of a read. -/
structure InitiatorReading (s₀ s : Session σ τ) (c : Connection σ) : Prop where
  ok : InitiatorOk s₀.initiator.stats.heartbeatsSent s₀.initiator.stats.heartbeatsAcked c
  accuses : Accuses IsCap s₀.initiator c
  feed : c.feedId = s.responder.feedId
  spoken : s.responder.trace.queued ≠ [] → c.state ≠ .kConnecting

theorem InitiatorReading.dispatch {s₀ s : Session σ τ} (h : Conforms s₀ s) {c : Connection σ}
    (hc : InitiatorReading s₀ s c) (cfg : Config) (now : Int) {m : HeartbeatMessage}
    (hm : m ∈ s.responder.trace.queued) (hlive : c.state ≠ .kFailed)
    (hpre : c.trace.handled ++ [m.stamped] <+:
      s.responder.trace.queued.map HeartbeatMessage.stamped) :
    InitiatorReading s₀ s (c.dispatch cfg m.stamped now) := by
  have hnext := h.responder_ok.queue.next hpre
  rw [← hc.feed] at hnext
  have hexp : InitiatorExpects c m.stamped :=
    ⟨hc.spoken (List.ne_nil_of_mem hm), hnext.1, hnext.2⟩
  have hdone := hc.ok.dispatch cfg now hlive hexp
  constructor
  · exact hdone
  · exact hc.accuses.trans (accuses_handleMessage cfg (c.noteHandled m.stamped) m.stamped now
      (Or.inr rfl) fun hun => absurd hun (hc.ok.expected hlive hexp))
  · rw [← hc.feed]
    exact congrArg (fun i => i.2.2.1) (dispatch_identity cfg c m.stamped now)
  · intro _ hconnecting
    have hnone := hdone.opening (Or.inl hconnecting)
    rw [dispatch_handled] at hnone
    simp at hnone

theorem InitiatorReading.finishRead {s₀ s : Session σ τ} {c : Connection σ}
    (hc : InitiatorReading s₀ s c) (ending : RecvEnd) (now : Int) :
    InitiatorReading s₀ s (c.finishRead ending now) := by
  rcases finishRead_cases c ending now with he | he | ⟨errno, he⟩
  · rw [he]
    exact hc
  · rw [he]
    exact ⟨hc.ok.fail rfl rfl rfl rfl rfl rfl,
      hc.accuses.trans (accuses_handlePeerClosed c now), hc.feed, fun _ hs => by cases hs⟩
  · rw [he]
    exact ⟨hc.ok.fail rfl rfl rfl rfl rfl rfl,
      hc.accuses.trans (accuses_handleSocketError c now errno), hc.feed, fun _ hs => by cases hs⟩

theorem InitiatorReading.overrun {s₀ s : Session σ τ} {c : Connection σ}
    (hc : InitiatorReading s₀ s c) (now : Int) :
    InitiatorReading s₀ s (c.handleProtocolViolation .readAccumExceeded now) :=
  ⟨hc.ok.fail rfl rfl rfl rfl rfl rfl,
    hc.accuses.trans (accuses_handleProtocolViolation c _ now (Or.inl rfl)), hc.feed,
    fun _ hs => by cases hs⟩

theorem step_initiator {s₀ s : Session σ τ} (h : Conforms s₀ s) (call : Call σ)
    (hadm : s.Admits (.initiator call)) : Conforms s₀ (s.step (.initiator call)) := by
  have hrequests := h.requests.sender_call call hadm.1
  have hfeed : (s.initiator.call call).feedId = s.responder.feedId :=
    (feedId_call s.initiator call hadm.1).trans h.feed
  by_cases hread : call.isRead = true
  · obtain ⟨cfg, env, op⟩ := call
    cases op with
    | onReadable recvs now =>
        have hentered : InitiatorReading s₀ s (s.initiator.withEnv env) :=
          ⟨h.initiator_ok.move rfl rfl rfl rfl rfl (Or.inl rfl), h.initiator_accuses, h.feed,
            h.spoken⟩
        obtain ⟨hreplies, hdone⟩ := Linked.receiver_read (s.initiator.withEnv env)
          (J := InitiatorReading s₀ s)
          ⟨h.replies.valid, h.replies.conserved, h.replies.delivered_le, h.replies.leftover,
            h.replies.stream⟩
          cfg recvs now (hadm.2.1 rfl) hadm.2.2
          (fun m c hm hlive hpre hc => hc.dispatch h cfg now hm hlive hpre)
          (fun c buf hc => ⟨hc.ok.move rfl rfl rfl rfl rfl (Or.inl rfl), hc.accuses, hc.feed,
            hc.spoken⟩)
          (fun c ending hc => hc.finishRead ending now) (fun c hc => hc.overrun now) hentered
        exact ⟨hdone.ok, h.responder_ok, hfeed, hrequests, hreplies, hdone.accuses,
          h.responder_accuses⟩
    | _ => simp [Call.isRead] at hread
  · simp only [Bool.not_eq_true] at hread
    have hnone := received_of_not_read call hread
    exact {
      initiator_ok := h.initiator_ok.call call hread hadm.1
      responder_ok := h.responder_ok
      feed := hfeed
      requests := hrequests
      replies := by
        show Linked s.responder (s.initiator.call call) (s.toInitiator + call.received.length)
        rw [hnone]
        exact h.replies.receiver_call call hread hadm.1
      initiator_accuses := h.initiator_accuses.trans
        (accuses_call s.initiator call hread (Or.inr rfl))
      responder_accuses := h.responder_accuses }

/-- What the responder keeps while it handles the messages of a read. -/
structure ResponderReading (s₀ s : Session σ τ) (c : Connection τ) : Prop where
  ok : ResponderOk c
  accuses : Accuses IsCap s₀.responder c
  feed : c.feedId = s.initiator.feedId

theorem ResponderReading.dispatch {s₀ s : Session σ τ} (h : Conforms s₀ s) {c : Connection τ}
    (hc : ResponderReading s₀ s c) (cfg : Config) (now : Int) {m : HeartbeatMessage}
    (hlive : c.state ≠ .kFailed)
    (hpre : c.trace.handled ++ [m.stamped] <+:
      s.initiator.trace.queued.map HeartbeatMessage.stamped) :
    ResponderReading s₀ s (c.dispatch cfg m.stamped now) := by
  have hnext := h.initiator_ok.queue.next hpre
  rw [← hc.feed] at hnext
  constructor
  · exact hc.ok.dispatch cfg now hlive hnext
  · exact hc.accuses.trans (accuses_handleMessage cfg (c.noteHandled m.stamped) m.stamped now
      (Or.inr rfl) fun hun => absurd hun (hc.ok.expected hlive hnext))
  · rw [← hc.feed]
    exact congrArg (fun i => i.2.2.1) (dispatch_identity cfg c m.stamped now)

theorem ResponderReading.finishRead {s₀ s : Session σ τ} {c : Connection τ}
    (hc : ResponderReading s₀ s c) (ending : RecvEnd) (now : Int) :
    ResponderReading s₀ s (c.finishRead ending now) := by
  rcases finishRead_cases c ending now with he | he | ⟨errno, he⟩
  · rw [he]
    exact hc
  · rw [he]
    exact ⟨hc.ok.move rfl rfl rfl (Or.inr rfl),
      hc.accuses.trans (accuses_handlePeerClosed c now), hc.feed⟩
  · rw [he]
    exact ⟨hc.ok.move rfl rfl rfl (Or.inr rfl),
      hc.accuses.trans (accuses_handleSocketError c now errno), hc.feed⟩

theorem ResponderReading.overrun {s₀ s : Session σ τ} {c : Connection τ}
    (hc : ResponderReading s₀ s c) (now : Int) :
    ResponderReading s₀ s (c.handleProtocolViolation .readAccumExceeded now) :=
  ⟨hc.ok.move rfl rfl rfl (Or.inr rfl),
    hc.accuses.trans (accuses_handleProtocolViolation c _ now (Or.inl rfl)), hc.feed⟩

theorem step_responder {s₀ s : Session σ τ} (h : Conforms s₀ s) (call : Call τ)
    (hadm : s.Admits (.responder call)) : Conforms s₀ (s.step (.responder call)) := by
  have hreplies := h.replies.sender_call call hadm.1
  have hfeed : s.initiator.feedId = (s.responder.call call).feedId :=
    h.feed.trans (feedId_call s.responder call hadm.1).symm
  by_cases hread : call.isRead = true
  · obtain ⟨cfg, env, op⟩ := call
    cases op with
    | onReadable recvs now =>
        have hentered : ResponderReading s₀ s (s.responder.withEnv env) :=
          ⟨h.responder_ok.move rfl rfl rfl (Or.inl rfl), h.responder_accuses, h.feed.symm⟩
        obtain ⟨hrequests, hdone⟩ := Linked.receiver_read (s.responder.withEnv env)
          (J := ResponderReading s₀ s)
          ⟨h.requests.valid, h.requests.conserved, h.requests.delivered_le, h.requests.leftover,
            h.requests.stream⟩
          cfg recvs now (hadm.2.1 rfl) hadm.2.2.1
          (fun m c _ hlive hpre hc => hc.dispatch h cfg now hlive hpre)
          (fun c buf hc => ⟨hc.ok.move rfl rfl rfl (Or.inl rfl), hc.accuses, hc.feed⟩)
          (fun c ending hc => hc.finishRead ending now) (fun c hc => hc.overrun now) hentered
        exact ⟨h.initiator_ok, hdone.ok, hfeed, hrequests, hreplies, h.initiator_accuses,
          hdone.accuses⟩
    | _ => simp [Call.isRead] at hread
  · simp only [Bool.not_eq_true] at hread
    have hnone := received_of_not_read call hread
    exact {
      initiator_ok := h.initiator_ok
      responder_ok := h.responder_ok.call call hread hadm.1 hadm.2.2.2
      feed := hfeed
      requests := by
        show Linked s.initiator (s.responder.call call) (s.toResponder + call.received.length)
        rw [hnone]
        exact h.requests.receiver_call call hread hadm.1
      replies := hreplies
      initiator_accuses := h.initiator_accuses
      responder_accuses := h.responder_accuses.trans
        (accuses_call s.responder call hread (Or.inr rfl)) }

theorem step_conforms (s₀ s : Session σ τ) (a : SessionStep σ τ) (h : Conforms s₀ s)
    (hadm : s.Admits a) : Conforms s₀ (s.step a) := by
  cases a with
  | initiator call => exact step_initiator h call hadm
  | responder call => exact step_responder h call hadm

/-! ## What the invariant says -/

theorem Linked.handled_upToNow {sender : Connection σ} {receiver : Connection τ} {delivered : Nat}
    (h : Linked sender receiver delivered) :
    receiver.trace.handled <+: sender.trace.queued.map HeartbeatMessage.stamped := by
  obtain ⟨done, rest, hqueued, hhandled, _⟩ := h.stream
  rw [hhandled, hqueued, List.map_append]
  exact List.prefix_append _ _

/-- An established initiator's HELLO was the first message the responder
processed. -/
theorem Conforms.acknowledged {s₀ s : Session σ τ} (h : Conforms s₀ s)
    (hs : Established s.initiator.state) :
    ∃ hello, s.initiator.trace.queued.head? = some hello ∧
      Carries .kConnectHello s.initiator.feedId hello ∧
      s.responder.trace.handled.head? = some hello.stamped := by
  obtain ⟨hello, pings, hqueued, hcarries, _⟩ :=
    h.initiator_ok.queue.resolve_left (h.initiator_ok.begun (Or.inr hs))
  have hreplied : s.responder.trace.queued ≠ [] := by
    intro hempty
    apply h.initiator_ok.established hs
    have hpre := Linked.handled_upToNow h.replies
    rw [hempty] at hpre
    exact List.prefix_nil.mp hpre
  obtain ⟨first, more, hhandled⟩ :=
    List.exists_cons_of_ne_nil (h.responder_ok.answered hreplied)
  have hpre := Linked.handled_upToNow h.requests
  rw [hqueued, hhandled, List.map_cons, List.cons_prefix_cons] at hpre
  exact ⟨hello, by rw [hqueued]; rfl, hcarries, by rw [hhandled, hpre.1]; rfl⟩

/-- The PONGs the initiator handled are among the PINGs it queued. -/
theorem Conforms.pongs_echo {s₀ s : Session σ τ} (h : Conforms s₀ s) :
    (echoes .kPong s.initiator.trace.handled).Subperm (echoes .kPing s.initiator.trace.queued) := by
  have hpongs := echoes_extend .kPong (Linked.handled_upToNow h.replies)
  have hpings := echoes_extend .kPing (Linked.handled_upToNow h.requests)
  rw [echoes_stamped] at hpongs hpings
  exact hpongs.sublist.subperm.trans (h.responder_ok.echoed.trans hpings.sublist.subperm)

/-- **Two conforming endpoints.**  From the beginning of an attempt, for every
interleaving of calls on the two ends: neither side reports a protocol
violation other than an exceeded buffer cap; an established initiator's HELLO
has been processed by the responder; every PONG the initiator handled carries
the sequence and timestamp of a PING it queued on this attempt; and no more
PINGs were acknowledged than sent. -/
theorem session (s : Session σ τ) (steps : List (SessionStep σ τ)) (hbegin : Begins s)
    (hrun : Runs.Along step Admits s steps) :
    let q := steps.foldl step s
    (Accuses IsCap s.initiator q.initiator ∧ Accuses IsCap s.responder q.responder) ∧
      (Established q.initiator.state → ∃ hello, q.initiator.trace.queued.head? = some hello ∧
        Carries .kConnectHello q.initiator.feedId hello ∧
        q.responder.trace.handled.head? = some hello.stamped) ∧
      (∀ pong ∈ q.initiator.trace.handled, MessageType.ofByte pong.type = some .kPong →
        ∃ ping ∈ q.initiator.trace.queued, MessageType.ofByte ping.type = some .kPing ∧
          ping.sequence = pong.sequence ∧ ping.timestampNs = pong.timestampNs) ∧
      (s.initiator.stats.heartbeatsAcked ≤ s.initiator.stats.heartbeatsSent →
        q.initiator.stats.heartbeatsAcked ≤ q.initiator.stats.heartbeatsSent) := by
  intro q
  have hend : Conforms s q :=
    Runs.invariant (fun r a hr hadm => step_conforms s r a hr hadm) hbegin.conforms hrun
  refine ⟨⟨hend.initiator_accuses, hend.responder_accuses⟩, hend.acknowledged, ?_, ?_⟩
  · intro pong hpong htype
    have hmem : (pong.sequence, pong.timestampNs) ∈ echoes .kPong q.initiator.trace.handled :=
      List.mem_map.mpr ⟨pong, List.mem_filter.mpr ⟨hpong, by simpa using htype⟩, rfl⟩
    obtain ⟨ping, hping, heq⟩ := List.mem_map.mp (hend.pongs_echo.subset hmem)
    obtain ⟨hin, hkind⟩ := List.mem_filter.mp hping
    exact ⟨ping, hin, by simpa using hkind, congrArg Prod.fst heq, congrArg Prod.snd heq⟩
  · intro hstart
    have hacked := hend.initiator_ok.acked
    have hsent := hend.initiator_ok.sent
    have hlen := hend.pongs_echo.length_le
    omega

/-- A new attempt on feed 7, against a peer that defers every reply. -/
def newSession : Session Unit Unit where
  initiator := create 5 .kInitiator 7 "127.0.0.1" 9000 none ⟨[], fun _ => 0, ()⟩ 0
  responder := create 9 .kResponder 7 "127.0.0.1" 40000 (some fun _ _ s => (false, s))
    ⟨[], fun _ => 0, ()⟩ 0
  toResponder := 0
  toInitiator := 0

/-- A call during which `send()` takes everything. -/
def smooth (op : ConnOp) : Call Unit :=
  ⟨{}, ⟨[.sent 28], fun _ => 0, ()⟩, op⟩

/-- The frame of one message of feed 7, as one `recv()` yields it. -/
def oneFrame (type : MessageType) (timestampNs : BitVec 64) : RecvOutcome :=
  .data (frameChunk { type := type.toByte, feedId := 7, timestampNs := timestampNs })

/-- Handshake, one PING, and its PONG sent later by the fault injection. -/
def deferredReply : List (SessionStep Unit Unit) :=
  [.initiator (smooth (.onWritable 0 1)),
    .responder (smooth (.onReadable [oneFrame .kConnectHello 1] 2)),
    .initiator (smooth (.onReadable [oneFrame .kConnectAck 2] 3)),
    .initiator (smooth (.sendPing 4)),
    .responder (smooth (.onReadable [oneFrame .kPing 4] 5)),
    .responder (smooth (.sendPong 0 4)),
    .initiator (smooth (.onReadable [oneFrame .kPong 4] 6))]

theorem deferredReply_admitted : Runs.Along step Admits newSession deferredReply := by
  decide +kernel

theorem newSession_begins : Begins newSession :=
  ⟨Fresh.newSocket ⟨_, _, _, _, _, _, _, _, rfl⟩, Fresh.newSocket ⟨_, _, _, _, _, _, _, _, rfl⟩,
    rfl, rfl, rfl, rfl, rfl, rfl, rfl⟩

/-- The deferred PONG is counted, and nobody is accused. -/
theorem session_deferredReply :
    (deferredReply.foldl step newSession).initiator.stats.heartbeatsAcked = 1 ∧
      Accuses IsCap newSession.responder (deferredReply.foldl step newSession).responder :=
  ⟨by decide +kernel,
    (session newSession deferredReply newSession_begins deferredReply_admitted).1.2⟩

end Session

end Vigil
