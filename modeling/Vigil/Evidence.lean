import Vigil.Calls

/-!
# Evidence of health

What an initiator has concluded about its peer stands in a few fields: the
remembered sequences, the misses, the time of the last proof of life and the
statistics.  Writing and failing leave them alone (`Still`).  A read changes
them through the messages it handles (`onReadable_messages`), and among these
only through a PONG that passes every check of `handle_pong` (`Accepts`), the
end of the handshake apart.
-/

namespace Vigil

namespace Connection

variable {σ : Type} {c c' : Connection σ}

/-! ## What writing leaves alone -/

/-- The fields that only messages, timeouts and `rebind` change. -/
def evidence (c : Connection σ) :
    RingBuffer (BitVec 64) kAckedSequenceWindow × Int × Int × ConnectionStats :=
  (c.ackedSequences, c.consecutiveMissed, c.lastLivenessNs, { c.stats with heartbeatsSent := 0 })

theorem consecutiveMissed_of_evidence (h : c'.evidence = c.evidence) :
    c'.consecutiveMissed = c.consecutiveMissed :=
  congrArg (fun e => e.2.1) h

theorem lastLivenessNs_of_evidence (h : c'.evidence = c.evidence) :
    c'.lastLivenessNs = c.lastLivenessNs :=
  congrArg (fun e => e.2.2.1) h

theorem missed_of_evidence (h : c'.evidence = c.evidence) : c'.stats.missed = c.stats.missed :=
  congrArg (fun e => e.2.2.2.missed) h

/-- What a counted PONG leaves behind for good: the remembered sequences, the
number of answered PINGs and the round-trip samples. -/
def tallied (c : Connection σ) :
    RingBuffer (BitVec 64) kAckedSequenceWindow × Nat × RingBuffer Int 256 :=
  (c.ackedSequences, c.stats.heartbeatsAcked, c.stats.rttSamplesNs)

theorem tallied_of_evidence (h : c'.evidence = c.evidence) : c'.tallied = c.tallied :=
  congrArg (fun e => (e.1, e.2.2.2.heartbeatsAcked, e.2.2.2.rttSamplesNs)) h

/-- The statistics that only a counted PONG writes. -/
def roundTrips (c : Connection σ) : ConnectionStats :=
  { c.stats with heartbeatsSent := 0, missed := 0, reconnects := 0, connectedSinceNs := 0 }

/-- What only PONGs and `rebind` change. -/
def learned (c : Connection σ) :
    RingBuffer (BitVec 64) kAckedSequenceWindow × ConnectionStats :=
  (c.ackedSequences, c.roundTrips)

theorem learned_of_evidence (h : c'.evidence = c.evidence) : c'.learned = c.learned :=
  congrArg (fun e => (e.1,
    { e.2.2.2 with heartbeatsSent := 0, missed := 0, reconnects := 0, connectedSinceNs := 0 })) h

/-- What neither a PING nor a miss changes. -/
def standing (c : Connection σ) :
    RingBuffer (BitVec 64) kAckedSequenceWindow × ConnectionStats :=
  (c.ackedSequences, { c.stats with heartbeatsSent := 0, missed := 0 })

theorem standing_of_evidence (h : c'.evidence = c.evidence) : c'.standing = c.standing :=
  congrArg (fun e => (e.1, { e.2.2.2 with heartbeatsSent := 0, missed := 0 })) h

theorem learned_of_standing (h : c'.standing = c.standing) : c'.learned = c.learned :=
  congrArg (fun v => (v.1, { v.2 with reconnects := 0, connectedSinceNs := 0 })) h

theorem tallied_of_learned (h : c'.learned = c.learned) : c'.tallied = c.tallied :=
  congrArg (fun l => (l.1, l.2.heartbeatsAcked, l.2.rttSamplesNs)) h

/-- Evidence neither came nor went: the connection is in the state it was in,
has failed, or has just connected. -/
structure Still (c c' : Connection σ) : Prop where
  evidence : c'.evidence = c.evidence
  state : c'.state = c.state ∨ c'.state = .kFailed ∨
    (c.state = .kConnecting ∧ c'.state = .kHandshaking)

theorem Still.trans {d : Connection σ} (h : Still c d) (h' : Still d c') : Still c c' where
  evidence := h'.evidence.trans h.evidence
  state := by
    rcases h'.state with hsame | hfailed | ⟨hconnecting, hopen⟩
    · rw [hsame]
      exact h.state
    · exact Or.inr (Or.inl hfailed)
    · rcases h.state with hsame | hfailed | ⟨_, hopen'⟩
      · exact Or.inr (Or.inr ⟨hsame ▸ hconnecting, hopen⟩)
      · exact absurd (hfailed.symm.trans hconnecting) nofun
      · exact absurd (hopen'.symm.trans hconnecting) nofun

theorem Still.established (h : Still c c') (hs : c'.state = .kHealthy ∨ c'.state = .kDegraded) :
    c'.state = c.state := by
  rcases h.state with hsame | hfailed | ⟨_, hopen⟩
  · exact hsame
  · rw [hfailed] at hs
    rcases hs with hs | hs <;> cases hs
  · rw [hopen] at hs
    rcases hs with hs | hs <;> cases hs

theorem still_failed (h : c'.evidence = c.evidence) (hf : c'.state = .kFailed) : Still c c' :=
  ⟨h, Or.inr (Or.inl hf)⟩

/-- The state is the old one, or `kFailed`. -/
theorem still_of_ite {fails : Bool} (h : c'.evidence = c.evidence)
    (hs : c'.state = if fails then .kFailed else c.state) : Still c c' := by
  cases fails with
  | true => exact still_failed h hs
  | false => exact ⟨h, Or.inl hs⟩

theorem queueMessage_still (c : Connection σ) (msg : HeartbeatMessage) :
    Still c (c.queueMessage msg) := by
  refine still_of_ite ?_ (queueMessage_state c msg)
  obtain ⟨w, hw, _⟩ := queueMessage_eq c msg
  rw [hw]
  rfl

theorem queueMessage_learned (c : Connection σ) (msg : HeartbeatMessage) :
    (c.queueMessage msg).learned = c.learned :=
  learned_of_evidence (queueMessage_still c msg).evidence

theorem flushWriteBuffer_still (c : Connection σ) : Still c c.flushWriteBuffer := by
  refine still_of_ite ?_ (flushWriteBuffer_state c)
  obtain ⟨w, hw, _⟩ := flushLoop_eq c.env.sends c
  rw [flushWriteBuffer, hw]
  rfl

theorem onWritable_still (c : Connection σ) (soError : Nat) (now : Int) :
    Still c (c.onWritable soError now) := by
  unfold onWritable
  split
  · next hconnecting =>
    have hconnected : Still c (c.transitionTo .kHandshaking now) :=
      ⟨rfl, Or.inr (Or.inr ⟨hconnecting, rfl⟩)⟩
    split
    · exact still_failed rfl rfl
    · dsimp only
      split
      · exact hconnected.trans (queueMessage_still _ _)
      · exact hconnected
  · exact flushWriteBuffer_still c

theorem sendPing_still (c : Connection σ) (now : Int) : Still c (c.sendPing now) := by
  by_cases hg : c.role = .kInitiator ∧ (c.state = .kHealthy ∨ c.state = .kDegraded)
  · rw [sendPing_eq c now hg.1 hg.2]
    have hbump : Still c c.bumpSequence := ⟨rfl, Or.inl rfl⟩
    have hsent := hbump.trans (queueMessage_still c.bumpSequence (c.pingMessage now))
    exact ⟨hsent.evidence, hsent.state⟩
  · rw [sendPing_idle c now hg]
    exact ⟨rfl, Or.inl rfl⟩

theorem sendPong_still (c : Connection σ) (sequence timestampNs : BitVec 64) :
    Still c (c.sendPong sequence timestampNs) := by
  unfold sendPong
  split
  · exact ⟨rfl, Or.inl rfl⟩
  · exact queueMessage_still c _

/-! ## PONGs that prove something -/

/-- The PONG passes the checks of `handle_pong`: it comes to an established
initiator, its sequence is not remembered, and its timestamp lies less than
the timeout back. -/
structure Accepts (cfg : Config) (now : Int) (c : Connection σ) (msg : HeartbeatMessage) :
    Prop where
  type : MessageType.ofByte msg.type = some .kPong
  role : c.role = .kInitiator
  established : c.state = .kHealthy ∨ c.state = .kDegraded
  unseen : c.hasAckedSequence msg.sequence = false
  timely : 0 ≤ rttNs msg now ∧ rttNs msg now < cfg.timeoutNs

instance (cfg : Config) (now : Int) (c : Connection σ) (msg : HeartbeatMessage) :
    Decidable (Accepts cfg now c msg) :=
  decidable_of_iff (MessageType.ofByte msg.type = some .kPong ∧ c.role = .kInitiator ∧
    (c.state = .kHealthy ∨ c.state = .kDegraded) ∧ c.hasAckedSequence msg.sequence = false ∧
      (0 ≤ rttNs msg now ∧ rttNs msg now < cfg.timeoutNs))
    ⟨fun ⟨ht, hr, hs, hseen, hrtt⟩ => ⟨ht, hr, hs, hseen, hrtt⟩,
      fun h => ⟨h.type, h.role, h.established, h.unseen, h.timely⟩⟩

/-- The PONG comes to an established initiator that does not remember its
sequence, and will from now on. -/
structure Remembers (c : Connection σ) (msg : HeartbeatMessage) : Prop where
  type : MessageType.ofByte msg.type = some .kPong
  role : c.role = .kInitiator
  established : c.state = .kHealthy ∨ c.state = .kDegraded
  unseen : c.hasAckedSequence msg.sequence = false

instance (c : Connection σ) (msg : HeartbeatMessage) : Decidable (Remembers c msg) :=
  decidable_of_iff (MessageType.ofByte msg.type = some .kPong ∧ c.role = .kInitiator ∧
    (c.state = .kHealthy ∨ c.state = .kDegraded) ∧ c.hasAckedSequence msg.sequence = false)
    ⟨fun ⟨ht, hr, hs, hseen⟩ => ⟨ht, hr, hs, hseen⟩,
      fun h => ⟨h.type, h.role, h.established, h.unseen⟩⟩

/-- What a message should leave behind: it is remembered if it can be, and
counted and sampled if it is accepted. -/
def tallyAfter (cfg : Config) (now : Int) (c : Connection σ) (msg : HeartbeatMessage) :
    RingBuffer (BitVec 64) kAckedSequenceWindow × Nat × RingBuffer Int 256 :=
  (if Remembers c msg then c.ackedSequences.push msg.sequence else c.ackedSequences,
    if Accepts cfg now c msg then c.stats.heartbeatsAcked + 1 else c.stats.heartbeatsAcked,
    if Accepts cfg now c msg then c.stats.rttSamplesNs.push (rttNs msg now)
    else c.stats.rttSamplesNs)

theorem Accepts.remembers {cfg : Config} {now : Int} {msg : HeartbeatMessage}
    (h : Accepts cfg now c msg) : Remembers c msg :=
  ⟨h.type, h.role, h.established, h.unseen⟩

/-- The same for all that is learned from a message. -/
def learnedAfter (cfg : Config) (now : Int) (c : Connection σ) (msg : HeartbeatMessage) :
    RingBuffer (BitVec 64) kAckedSequenceWindow × ConnectionStats :=
  (if Remembers c msg then c.ackedSequences.push msg.sequence else c.ackedSequences,
    if Accepts cfg now c msg then c.roundTrips.recordPongReceived (rttNs msg now)
    else c.roundTrips)

theorem learnedAfter_eq {cfg : Config} {now : Int} {msg : HeartbeatMessage}
    (hno : ¬ Remembers c msg) : learnedAfter cfg now c msg = c.learned := by
  have hno' : ¬ Accepts cfg now c msg := fun h => hno h.remembers
  rw [learnedAfter, if_neg hno, if_neg hno']
  rfl

/-- **What a message proves.** -/
theorem dispatch_learned (cfg : Config) (c : Connection σ) (msg : HeartbeatMessage) (now : Int) :
    (c.dispatch cfg msg now).learned = learnedAfter cfg now c msg := by
  have hresult := handleMessage_result cfg (c.noteHandled msg) msg now
  rw [dispatch]
  generalize (c.noteHandled msg).handleMessage cfg msg now = result at hresult ⊢
  have hnothing : ¬ Remembers c msg → result.learned = c.learned →
      result.learned = learnedAfter cfg now c msg :=
    fun hno heq => heq.trans (learnedAfter_eq hno).symm
  have hother : ∀ {type : Option MessageType}, MessageType.ofByte msg.type = type →
      type ≠ some .kPong → ¬ Remembers c msg := fun ht hne h => hne (ht.symm.trans h.type)
  cases hresult with
  | violation reason hreason hun =>
      refine hnothing (fun h => ?_) rfl
      simp only [Unexpected, h.type] at hun
      have hun' : c.role ≠ .kInitiator ∨ (c.state ≠ .kHealthy ∧ c.state ≠ .kDegraded) := hun
      rcases hun' with hrole | hs
      · exact hrole h.role
      · exact h.established.elim hs.1 hs.2
  | hello ht =>
      exact hnothing (hother ht (by decide)) (queueMessage_learned (c.noteHandled msg)
        ((c.noteHandled msg).message .kConnectAck 0 (BitVec.ofInt 64 now)))
  | ack ht => exact hnothing (hother ht (by decide)) rfl
  | pingAnswered captured ht =>
      exact hnothing (hother ht (by decide))
        (queueMessage_learned ((c.noteHandled msg).heard now captured)
          ((c.noteHandled msg).message .kPong msg.sequence msg.timestampNs))
  | pingHeld captured ht => exact hnothing (hother ht (by decide)) rfl
  | duplicate ht hr hs hseen =>
      refine hnothing (fun h => ?_) rfl
      have hunseen : (c.noteHandled msg).hasAckedSequence msg.sequence = false := h.unseen
      exact absurd (hseen.symm.trans hunseen) (by decide)
  | untimely ht hr hs hseen hrtt =>
      have hno : ¬ Accepts cfg now c msg := by
        intro h
        have htimely := h.timely
        omega
      have hyes : Remembers c msg := ⟨ht, hr, hs, hseen⟩
      rw [learnedAfter, if_pos hyes, if_neg hno]
      rfl
  | counted ht hr hs hseen hrtt =>
      have hyes : Accepts cfg now c msg := ⟨ht, hr, Or.inl hs, hseen, hrtt⟩
      rw [learnedAfter, if_pos hyes.remembers, if_pos hyes]
      rfl
  | recovered ht hr hs hseen hrtt =>
      have hyes : Accepts cfg now c msg := ⟨ht, hr, Or.inr hs, hseen, hrtt⟩
      rw [learnedAfter, if_pos hyes.remembers, if_pos hyes]
      rfl
  | closed ht => exact hnothing (hother ht (by decide)) rfl
  | unknown ht => exact hnothing (hother ht (by decide)) rfl

theorem dispatch_tallied (cfg : Config) (c : Connection σ) (msg : HeartbeatMessage) (now : Int) :
    (c.dispatch cfg msg now).tallied = tallyAfter cfg now c msg := by
  have hlearned := dispatch_learned cfg c msg now
  have hring : (c.dispatch cfg msg now).ackedSequences = _ := congrArg Prod.fst hlearned
  have hstats : (c.dispatch cfg msg now).roundTrips = _ := congrArg Prod.snd hlearned
  have hview : (c.dispatch cfg msg now).tallied = ((c.dispatch cfg msg now).ackedSequences,
      (c.dispatch cfg msg now).roundTrips.heartbeatsAcked,
      (c.dispatch cfg msg now).roundTrips.rttSamplesNs) := rfl
  rw [hview, hring, hstats]
  unfold learnedAfter tallyAfter
  dsimp only
  split
  · split <;> rfl
  · split <;> rfl

/-! ## Reads -/

/-- The messages a read hands to `handle_message`. -/
def readMessages (cfg : Config) (c : Connection σ) (recvs : List RecvOutcome) (now : Int) :
    List HeartbeatMessage :=
  (c.onReadable cfg recvs now).trace.handled.drop c.trace.handled.length

theorem dispatchAll_handled (cfg : Config) (now : Int) (c : Connection σ)
    (msgs : List HeartbeatMessage) :
    (c.dispatchAll cfg now msgs).trace.handled = c.trace.handled ++ msgs := by
  induction msgs generalizing c with
  | nil => exact (List.append_nil _).symm
  | cons msg msgs ih =>
      show ((c.dispatch cfg msg now).dispatchAll cfg now msgs).trace.handled = _
      rw [ih, dispatch_handled, List.append_assoc, List.singleton_append]

theorem readMessages_eq {cfg : Config} {recvs : List RecvOutcome} {now : Int}
    {msgs : List HeartbeatMessage}
    (h : (c.onReadable cfg recvs now).trace.handled = (c.dispatchAll cfg now msgs).trace.handled) :
    c.readMessages cfg recvs now = msgs := by
  rw [readMessages, h, dispatchAll_handled, List.drop_left]

/-- **A read proves what its messages prove.** -/
theorem onReadable_messages (cfg : Config) (c : Connection σ) (recvs : List RecvOutcome)
    (now : Int) :
    (c.onReadable cfg recvs now).evidence =
        (c.dispatchAll cfg now (c.readMessages cfg recvs now)).evidence ∧
      (c.onReadable cfg recvs now).trace.handled =
        c.trace.handled ++ c.readMessages cfg recvs now := by
  have hmsgs : ∀ msgs, (c.onReadable cfg recvs now).trace.handled =
      (c.dispatchAll cfg now msgs).trace.handled → c.readMessages cfg recvs now = msgs :=
    fun _ => readMessages_eq
  have hresult := onReadable_result cfg c recvs now
  generalize c.onReadable cfg recvs now = result at hresult hmsgs ⊢
  cases hresult with
  | through msgs buf =>
      rw [hmsgs msgs rfl]
      exact ⟨rfl, dispatchAll_handled cfg now c msgs⟩
  | failing msgs buf r =>
      rw [hmsgs msgs rfl]
      exact ⟨rfl, dispatchAll_handled cfg now c msgs⟩

/-! ## Calls -/

theorem call_still (c : Connection σ) (call : Call σ) (h : call.isWrite = true) :
    Still c (c.call call) := by
  obtain ⟨cfg, env, op⟩ := call
  have henv : Still c (c.withEnv env) := ⟨rfl, Or.inl rfl⟩
  cases op with
  | onWritable soError now => exact henv.trans (onWritable_still _ soError now)
  | onHangupOrError errno now => exact still_failed rfl rfl
  | sendPing now => exact henv.trans (sendPing_still _ now)
  | sendPong sequence timestampNs => exact henv.trans (sendPong_still _ sequence timestampNs)
  | _ => simp [Call.isWrite] at h

/-- A call that neither reads nor rebinds leaves the standing alone. -/
theorem call_standing (c : Connection σ) (call : Call σ) (hread : call.isRead = false)
    (hrebind : call.isRebind = false) : (c.call call).standing = c.standing := by
  obtain ⟨cfg, env, op⟩ := call
  cases op with
  | onReadable recvs now => simp [Call.isRead] at hread
  | rebind newFd now => simp [Call.isRebind] at hrebind
  | resetLivenessBaseline now => rfl
  | checkTimeout now =>
      show ((c.withEnv env).checkTimeout cfg now).2.standing = c.standing
      have hresult := checkTimeout_result cfg (c.withEnv env) now
      generalize (c.withEnv env).checkTimeout cfg now = result at hresult ⊢
      cases hresult <;> rfl
  | _ => exact standing_of_evidence (call_still c _ rfl).evidence

theorem call_learned (c : Connection σ) (call : Call σ) (hread : call.isRead = false)
    (hrebind : call.isRebind = false) : (c.call call).learned = c.learned :=
  learned_of_standing (call_standing c call hread hrebind)

/-- What `pick` takes from each of the messages, in the state the message finds. -/
def gather {β : Type} (pick : Connection σ → HeartbeatMessage → List β) (cfg : Config)
    (now : Int) : Connection σ → List HeartbeatMessage → List β
  | _, [] => []
  | c, msg :: msgs => pick c msg ++ gather pick cfg now (c.dispatch cfg msg now) msgs

/-- What every message writes, all of them write one after the other. -/
theorem dispatchAll_gather {β V : Type} (view : Connection σ → V)
    {pick : Connection σ → HeartbeatMessage → List β} {write : V → β → V} {cfg : Config} {now : Int}
    (h : ∀ d msg, view (d.dispatch cfg msg now) = (pick d msg).foldl write (view d))
    (c : Connection σ) (msgs : List HeartbeatMessage) :
    view (c.dispatchAll cfg now msgs) = (gather pick cfg now c msgs).foldl write (view c) := by
  induction msgs generalizing c with
  | nil => rfl
  | cons msg msgs ih =>
      show view ((c.dispatch cfg msg now).dispatchAll cfg now msgs) = _
      rw [ih, h, gather, List.foldl_append]

theorem mem_gather {β : Type} {pick : Connection σ → HeartbeatMessage → List β} {cfg : Config}
    {now : Int} {msgs : List HeartbeatMessage} {b : β} (h : b ∈ gather pick cfg now c msgs) :
    ∃ d msg, b ∈ pick d msg := by
  induction msgs generalizing c with
  | nil => exact absurd h List.not_mem_nil
  | cons msg msgs ih =>
      rcases List.mem_append.mp h with hhere | hlater
      · exact ⟨c, msg, hhere⟩
      · exact ih hlater

/-- The arguments of the `remember_acked_sequence` calls made in a call. -/
def rememberedIn (c : Connection σ) (call : Call σ) : List (BitVec 64) :=
  match call.op with
  | .onReadable recvs now =>
      gather (fun d msg => if Remembers d msg then [msg.sequence] else []) call.cfg now
        (c.withEnv call.env) ((c.withEnv call.env).readMessages call.cfg recvs now)
  | _ => []

/-- The round-trip times accepted in a call. -/
def rttsIn (c : Connection σ) (call : Call σ) : List Int :=
  match call.op with
  | .onReadable recvs now =>
      gather (fun d msg => if Accepts call.cfg now d msg then [rttNs msg now] else []) call.cfg now
        (c.withEnv call.env) ((c.withEnv call.env).readMessages call.cfg recvs now)
  | _ => []

/-- **What a call remembers.** -/
theorem call_ackedSequences (c : Connection σ) (call : Call σ) (hrebind : call.isRebind = false) :
    (c.call call).ackedSequences =
      (c.rememberedIn call).foldl RingBuffer.push c.ackedSequences := by
  obtain ⟨cfg, env, op⟩ := call
  cases op with
  | onReadable recvs now =>
      have hread := learned_of_evidence (onReadable_messages cfg (c.withEnv env) recvs now).1
      refine (congrArg Prod.fst hread).trans ?_
      refine dispatchAll_gather ackedSequences ?_ (c.withEnv env) _
      intro d msg
      refine (congrArg Prod.fst (dispatch_learned cfg d msg now)).trans ?_
      dsimp only [learnedAfter]
      split <;> rfl
  | _ => exact congrArg Prod.fst (call_learned c _ rfl hrebind)

/-- **What a call counts.** -/
theorem call_roundTrips (c : Connection σ) (call : Call σ) :
    (c.call call).roundTrips =
      (c.rttsIn call).foldl ConnectionStats.recordPongReceived c.roundTrips := by
  obtain ⟨cfg, env, op⟩ := call
  cases op with
  | onReadable recvs now =>
      have hread := learned_of_evidence (onReadable_messages cfg (c.withEnv env) recvs now).1
      refine (congrArg Prod.snd hread).trans ?_
      refine dispatchAll_gather roundTrips ?_ (c.withEnv env) _
      intro d msg
      refine (congrArg Prod.snd (dispatch_learned cfg d msg now)).trans ?_
      dsimp only [learnedAfter]
      split <;> rfl
  | rebind newFd now => rfl
  | _ => exact congrArg Prod.snd (call_learned c _ rfl rfl)

end Connection

end Vigil
