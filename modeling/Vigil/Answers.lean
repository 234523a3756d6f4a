import Vigil.MonitorSlots
import Vigil.Stamps

/-!
# PINGs and their answers

The monitor's side of the exchange, while every PING is answered within `R`.
`Prompt` follows a healthy initiator: `sent` are the times of the PINGs of this
attempt, one sequence number each; every answered PING is older than the last
proof of life; and the oldest PING that is not, if there is one, was sent less
than `gap` after it.

The peer is assumed to send no PONG but answers (`Answering`); it may repeat
them.  An answer that comes again when the ring of acked sequences has
forgotten it is counted or too late, and does no harm either way.
-/

namespace Vigil

namespace Connection

variable {σ : Type} {c c' : Connection σ}

/-- Every PONG handled so far echoes a PING queued before. -/
def Answering (c : Connection σ) : Prop :=
  ∀ msg ∈ c.trace.handled, msg.type = MessageType.kPong.toByte →
    ∃ ping ∈ c.trace.queued, ping.type = MessageType.kPing.toByte ∧ Echoes msg ping

instance (c : Connection σ) : Decidable c.Answering :=
  inferInstanceAs (Decidable (∀ msg ∈ c.trace.handled, _))

/-- Nothing changed from `c` to `c'` that matters for heartbeats. -/
structure Quiet (c c' : Connection σ) : Prop where
  role : c'.role = c.role
  state : c'.state = c.state
  consecutive : c'.consecutiveMissed = c.consecutiveMissed
  missed : c'.stats.missed = c.stats.missed
  liveness : c'.lastLivenessNs = c.lastLivenessNs
  next : c'.nextSequence = c.nextSequence
  acked : c'.ackedSequences = c.ackedSequences
  queued : c'.trace.queued = c.trace.queued
  handled : c'.trace.handled = c.trace.handled

theorem flushWriteBuffer_quiet (c : Connection σ) (hlive : c.flushWriteBuffer.state ≠ .kFailed) :
    Quiet c c.flushWriteBuffer := by
  have hstate := flushWriteBuffer_state c
  obtain ⟨w, hw, hspec⟩ := flushLoop_eq c.env.sends c
  have hquiet : flushFails c.env.sends c.writePending.length = false := by
    cases hf : flushFails c.env.sends c.writePending.length with
    | false => rfl
    | true =>
        rw [hf] at hstate
        exact absurd hstate hlive
  have hqueued : w.queued = c.trace.queued := hspec.queued_eq.trans (List.append_nil _)
  rw [flushWriteBuffer, hw]
  exact ⟨rfl, (hspec.quiet hquiet).1, rfl, rfl, rfl, rfl, rfl, hqueued, rfl⟩

/-- An initiator queues nothing while it handles a message. -/
theorem dispatch_queued (cfg : Config) (c : Connection σ) (msg : HeartbeatMessage) (now : Int)
    (hrole : c.role = .kInitiator) :
    (c.dispatch cfg msg now).trace.queued = c.trace.queued := by
  have hresult := handleMessage_result cfg (c.noteHandled msg) msg now
  rw [dispatch]
  generalize (c.noteHandled msg).handleMessage cfg msg now = result at hresult ⊢
  cases hresult with
  | hello ht hr => exact absurd (hrole.symm.trans hr) (by decide)
  | pingAnswered captured ht hr => exact absurd (hrole.symm.trans hr) (by decide)
  | pingHeld captured ht hr => exact absurd (hrole.symm.trans hr) (by decide)
  | violation => rfl
  | ack => rfl
  | duplicate => rfl
  | untimely => rfl
  | counted => rfl
  | recovered => rfl
  | closed => rfl
  | unknown => rfl

/-- What is answering after a message was so before it. -/
theorem answering_before (cfg : Config) (msg : HeartbeatMessage) (now : Int)
    (hrole : c.role = .kInitiator) (h : (c.dispatch cfg msg now).Answering) :
    c.Answering ∧ (msg.type = MessageType.kPong.toByte →
      ∃ ping ∈ c.trace.queued, ping.type = MessageType.kPing.toByte ∧ Echoes msg ping) := by
  unfold Answering at h
  rw [dispatch_queued cfg c msg now hrole, dispatch_handled] at h
  exact ⟨fun earlier hmem => h earlier (List.mem_append_left _ hmem), h msg (by simp)⟩

/-! ## Reads -/

/-- A property of initiators past `connect()` that quiet steps keep, and every
handled message unless it fails the connection. -/
structure Kept (cfg : Config) (now : Int) (K : Connection σ → Prop) : Prop where
  role : ∀ c, K c → c.role = .kInitiator
  state : ∀ c, K c → c.state ≠ .kConnecting ∧ c.state ≠ .kFailed
  quiet : ∀ c c', K c → Quiet c c' → K c'
  dispatch : ∀ c msg, K c → (c.dispatch cfg msg now).state ≠ .kFailed →
    (c.dispatch cfg msg now).Answering → K (c.dispatch cfg msg now)

variable {cfg : Config} {now : Int} {K : Connection σ → Prop}

theorem Kept.withEnv (h : Kept cfg now K) (env : Env σ) (hc : K c) : K (c.withEnv env) :=
  h.quiet c _ hc ⟨rfl, rfl, rfl, rfl, rfl, rfl, rfl, rfl, rfl⟩

theorem Kept.withRead (h : Kept cfg now K) (buf : List ByteOrder.Byte) (hc : K c) :
    K (c.withRead buf) :=
  h.quiet c _ hc ⟨rfl, rfl, rfl, rfl, rfl, rfl, rfl, rfl, rfl⟩

theorem Kept.onReadable (h : Kept cfg now K) (hc : K c) (recvs : List RecvOutcome)
    (hlive : (c.onReadable cfg recvs now).state ≠ .kFailed)
    (hanswering : (c.onReadable cfg recvs now).Answering) : K (c.onReadable cfg recvs now) := by
  suffices hread : (c.onReadable cfg recvs now).role = .kInitiator ∧
      ((c.onReadable cfg recvs now).state ≠ .kFailed →
        (c.onReadable cfg recvs now).Answering → K (c.onReadable cfg recvs now)) from
    hread.2 hlive hanswering
  refine onReadable_keeps
    (I := fun d => d.role = .kInitiator ∧ (d.state ≠ .kFailed → d.Answering → K d)) ?_ ?_ ?_
    ⟨h.role c hc, fun _ _ => hc⟩ recvs
  · rintro d msg ⟨hrole, hd⟩
    refine ⟨(role_of_identity (dispatch_identity cfg d msg now)).trans hrole, ?_⟩
    intro hlive' hanswering'
    have hbefore := answering_before cfg msg now hrole hanswering'
    have hwas : d.state ≠ .kFailed := fun hf =>
      hlive' (handleMessage_stays_failed cfg (d.noteHandled msg) msg now hf)
    exact h.dispatch d msg (hd hwas hbefore.1) hlive' hanswering'
  · exact fun d r hd => ⟨hd.1, fun hlive' => absurd rfl hlive'⟩
  · exact fun d buf hd => ⟨hd.1, fun hlive' hanswering' => h.withRead buf (hd.2 hlive' hanswering')⟩

theorem Kept.onWritable (h : Kept cfg now K) (hc : K c) (soError : Nat)
    (hlive : (c.onWritable soError now).state ≠ .kFailed) : K (c.onWritable soError now) := by
  unfold Connection.onWritable at hlive ⊢
  rw [if_neg (h.state c hc).1] at hlive ⊢
  exact h.quiet c _ hc (flushWriteBuffer_quiet c hlive)

/-! ## Prompt answers -/

/-- The PINGs of this attempt were sent at the times `sent`, under the sequence
numbers 0, 1, 2, ... -/
structure Pinged (sent : List Int) (c : Connection σ) : Prop where
  next : c.nextSequence = BitVec.ofNat 64 sent.length
  numbered : sent.length ≤ 2 ^ 64
  listed : ∀ ping ∈ c.trace.queued, ping.type = MessageType.kPing.toByte →
    ∃ i : Nat, sent[i]? = some ping.timestampNs.toInt ∧ ping.sequence = BitVec.ofNat 64 i
  queued : ∀ s ∈ sent, ∃ ping ∈ c.trace.queued,
    ping.type = MessageType.kPing.toByte ∧ ping.timestampNs.toInt = s

/-- A healthy initiator at time `now` whose PINGs are answered within `R`.
`base` is when it last sent one, or when its handshake completed. -/
structure Prompt (gap R now base : Int) (misses : Nat) (sent : List Int) (c : Connection σ) :
    Prop where
  role : c.role = .kInitiator
  state : c.state = .kHealthy
  consecutive : c.consecutiveMissed = 0
  missed : c.stats.missed = misses
  pinged : Pinged sent c
  past : ∀ s ∈ sent, s ≤ now
  base_le : base ≤ now
  answering : c.Answering
  answered : ∀ msg ∈ c.trace.handled, ∀ ping ∈ c.trace.queued,
    ping.type = MessageType.kPing.toByte → Echoes msg ping →
      ping.timestampNs.toInt ≤ c.lastLivenessNs
  acked : ∃ acks, RingBuffer.Records c.ackedSequences acks ∧ ∀ x ∈ acks,
    ∃ (i : Nat) (s : Int), sent[i]? = some s ∧ x = BitVec.ofNat 64 i ∧ s ≤ c.lastLivenessNs
  inTime : ∀ s ∈ sent, s + R < now → s ≤ c.lastLivenessNs
  recent : base ≤ c.lastLivenessNs ∨
    ∃ s ∈ sent, c.lastLivenessNs < s ∧ s < c.lastLivenessNs + gap

variable {gap R base : Int} {misses : Nat} {sent : List Int} {msg : HeartbeatMessage}

theorem Pinged.quiet (h : Pinged sent c) (hnext : c'.nextSequence = c.nextSequence)
    (hqueued : c'.trace.queued = c.trace.queued) : Pinged sent c' where
  next := hnext.trans h.next
  numbered := h.numbered
  listed := by
    rw [hqueued]
    exact h.listed
  queued := by
    rw [hqueued]
    exact h.queued

theorem Pinged.stamp_mem (h : Pinged sent c) {ping : HeartbeatMessage}
    (hping : ping ∈ c.trace.queued) (htype : ping.type = MessageType.kPing.toByte) :
    ping.timestampNs.toInt ∈ sent := by
  obtain ⟨i, hi, _⟩ := h.listed ping hping htype
  exact List.mem_of_getElem? hi

/-- Sequence numbers do not repeat. -/
theorem Pinged.number_inj (h : Pinged sent c) {i j : Nat} {s t : Int} (hi : sent[i]? = some s)
    (hj : sent[j]? = some t) (heq : BitVec.ofNat 64 i = BitVec.ofNat 64 j) : s = t := by
  obtain ⟨hilt, _⟩ := List.getElem?_eq_some_iff.mp hi
  obtain ⟨hjlt, _⟩ := List.getElem?_eq_some_iff.mp hj
  have hnum := h.numbered
  have hnat := congrArg BitVec.toNat heq
  rw [BitVec.toNat_ofNat, BitVec.toNat_ofNat, Nat.mod_eq_of_lt (by omega),
    Nat.mod_eq_of_lt (by omega)] at hnat
  rw [hnat, hj] at hi
  exact (Option.some.inj hi).symm

theorem Prompt.quiet (h : Prompt gap R now base misses sent c) (hq : Quiet c c') :
    Prompt gap R now base misses sent c' where
  role := hq.role.trans h.role
  state := hq.state.trans h.state
  consecutive := hq.consecutive.trans h.consecutive
  missed := hq.missed.trans h.missed
  pinged := h.pinged.quiet hq.next hq.queued
  past := h.past
  base_le := h.base_le
  answering := by
    unfold Answering
    rw [hq.handled, hq.queued]
    exact h.answering
  answered := by
    rw [hq.handled, hq.queued, hq.liveness]
    exact h.answered
  acked := by
    rw [hq.acked, hq.liveness]
    exact h.acked
  inTime := by
    rw [hq.liveness]
    exact h.inTime
  recent := by
    rw [hq.liveness]
    exact h.recent

/-- A PONG was handled: the liveness clock is kept or set to `now`, and the PING
it answers is not later. -/
theorem Prompt.hear (h : Prompt gap R now base misses sent c) (hanswering : c'.Answering)
    (hrole : c'.role = c.role)
    (hstate : c'.state = c.state) (hconsecutive : c'.consecutiveMissed = 0)
    (hmissed : c'.stats.missed = c.stats.missed) (hnext : c'.nextSequence = c.nextSequence)
    (hqueued : c'.trace.queued = c.trace.queued)
    (hhandled : c'.trace.handled = c.trace.handled ++ [msg])
    (hlater : c'.lastLivenessNs = c.lastLivenessNs ∨ c'.lastLivenessNs = now)
    (hmsg : ∀ ping ∈ c.trace.queued, ping.type = MessageType.kPing.toByte → Echoes msg ping →
      ping.timestampNs.toInt ≤ c'.lastLivenessNs)
    (hring : c'.ackedSequences = c.ackedSequences ∨
      c'.ackedSequences = c.ackedSequences.push msg.sequence ∧
        ∃ ping ∈ c.trace.queued, ping.type = MessageType.kPing.toByte ∧ Echoes msg ping) :
    Prompt gap R now base misses sent c' := by
  -- what was before the old liveness is before the new one
  have hkeep : ∀ s ∈ sent, s ≤ c.lastLivenessNs → s ≤ c'.lastLivenessNs := by
    intro s hs hle
    rcases hlater with heq | heq
    · rw [heq]
      exact hle
    · rw [heq]
      exact h.past s hs
  refine ⟨hrole.trans h.role, hstate.trans h.state, hconsecutive, hmissed.trans h.missed,
    h.pinged.quiet hnext hqueued, h.past, h.base_le, hanswering, ?_, ?_, ?_, ?_⟩
  · rw [hhandled, hqueued]
    intro earlier hearlier ping hping htype hecho
    rcases List.mem_append.mp hearlier with hmem | hmem
    · exact hkeep _ (h.pinged.stamp_mem hping htype) (h.answered earlier hmem ping hping htype hecho)
    · rw [List.mem_singleton.mp hmem] at hecho
      exact hmsg ping hping htype hecho
  · obtain ⟨acks, hrecords, hacks⟩ := h.acked
    have hold : ∀ x ∈ acks, ∃ (i : Nat) (s : Int), sent[i]? = some s ∧ x = BitVec.ofNat 64 i ∧
        s ≤ c'.lastLivenessNs := by
      intro x hx
      obtain ⟨i, s, hi, hxi, hle⟩ := hacks x hx
      exact ⟨i, s, hi, hxi, hkeep s (List.mem_of_getElem? hi) hle⟩
    rcases hring with heq | ⟨heq, ping, hping, htype, hecho⟩
    · rw [heq]
      exact ⟨acks, hrecords, hold⟩
    · rw [heq]
      refine ⟨acks ++ [msg.sequence], hrecords.push msg.sequence, ?_⟩
      intro x hx
      rcases List.mem_append.mp hx with hx | hx
      · exact hold x hx
      · obtain ⟨i, hi, hseq⟩ := h.pinged.listed ping hping htype
        rw [List.mem_singleton.mp hx]
        exact ⟨i, _, hi, hecho.sequence_eq.trans hseq, hmsg ping hping htype hecho⟩
  · exact fun s hs hlate => hkeep s hs (h.inTime s hs hlate)
  · rcases hlater with heq | heq
    · rw [heq]
      exact h.recent
    · rw [heq]
      exact Or.inl h.base_le

/-- A sequence number in the ring is that of an answered PING. -/
theorem Prompt.acked_of_seen (h : Prompt gap R now base misses sent c) {x : BitVec 64}
    (hseen : c.hasAckedSequence x = true) :
    ∃ (i : Nat) (s : Int), sent[i]? = some s ∧ x = BitVec.ofNat 64 i ∧ s ≤ c.lastLivenessNs := by
  obtain ⟨acks, hrecords, hacks⟩ := h.acked
  have hmem : x ∈ c.ackedSequences.entries := List.contains_iff_mem.mp hseen
  exact hacks x (List.mem_of_mem_drop ((hrecords.mem_entries x).mp hmem))

/-- **An answer keeps the exchange prompt**, whether it is the first or comes
again. -/
theorem Prompt.dispatch (h : Prompt gap R now base misses sent c) (hR : R < cfg.timeoutNs)
    (hlive : (c.dispatch cfg msg now).state ≠ .kFailed)
    (hanswering : (c.dispatch cfg msg now).Answering) :
    Prompt gap R now base misses sent (c.dispatch cfg msg now) := by
  have hanswer := (answering_before cfg msg now h.role hanswering).2
  have hresult := handleMessage_result cfg (c.noteHandled msg) msg now
  rw [Connection.dispatch] at hlive ⊢
  rw [Connection.dispatch] at hanswering
  generalize (c.noteHandled msg).handleMessage cfg msg now = result
    at hresult hlive hanswering ⊢
  cases hresult with
  | violation => exact absurd rfl hlive
  | closed => exact absurd rfl hlive
  | hello ht hr => exact absurd (h.role.symm.trans hr) (by decide)
  | pingAnswered captured ht hr => exact absurd (h.role.symm.trans hr) (by decide)
  | pingHeld captured ht hr => exact absurd (h.role.symm.trans hr) (by decide)
  | ack ht hr hs => exact absurd (h.state.symm.trans hs) (by decide)
  | recovered ht hr hs => exact absurd (h.state.symm.trans hs) (by decide)
  | unknown ht =>
      refine h.hear hanswering rfl rfl h.consecutive rfl rfl rfl rfl (Or.inl rfl) ?_ (Or.inl rfl)
      intro ping _ _ hecho
      rw [hecho.type_eq, MessageType.ofByte_toByte] at ht
      cases ht
  | duplicate ht hr hs hseen =>
      refine h.hear hanswering rfl rfl h.consecutive rfl rfl rfl rfl (Or.inl rfl) ?_ (Or.inl rfl)
      intro ping hping htype hecho
      obtain ⟨i, s, hi, hseq, hle⟩ := h.acked_of_seen hseen
      obtain ⟨j, hj, hnum⟩ := h.pinged.listed ping hping htype
      have hsame : ping.timestampNs.toInt = s :=
        h.pinged.number_inj hj hi (by rw [← hnum, ← hecho.sequence_eq, hseq])
      rw [hsame]
      exact hle
  | untimely ht hr hs hseen hrtt =>
      obtain ⟨ping, hping, htype, hecho⟩ := hanswer (MessageType.eq_toByte ht)
      have hsent := h.pinged.stamp_mem hping htype
      have hpast := h.past _ hsent
      -- it came too late to be the first answer
      have hle : msg.timestampNs.toInt ≤ c.lastLivenessNs := by
        rw [hecho.timestamp_eq]
        rw [rttNs, hecho.timestamp_eq] at hrtt
        exact h.inTime _ hsent (by omega)
      refine h.hear hanswering rfl rfl h.consecutive rfl rfl rfl rfl (Or.inl rfl) ?_
        (Or.inr ⟨rfl, ping, hping, htype, hecho⟩)
      intro other _ _ hother
      rw [← hother.timestamp_eq]
      exact hle
  | counted ht hr hs hseen hrtt =>
      obtain ⟨ping, hping, htype, hecho⟩ := hanswer (MessageType.eq_toByte ht)
      refine h.hear hanswering rfl rfl rfl rfl rfl rfl rfl (Or.inr rfl) ?_
        (Or.inr ⟨rfl, ping, hping, htype, hecho⟩)
      intro other hother htype' _
      exact h.past _ (h.pinged.stamp_mem hother htype')

theorem prompt_kept (hR : R < cfg.timeoutNs) :
    Kept cfg now (Prompt (σ := σ) gap R now base misses sent) where
  role c h := h.role
  state c h := by
    rw [h.state]
    exact ⟨nofun, nofun⟩
  quiet c c' h hq := h.quiet hq
  dispatch c msg h hlive hanswering := h.dispatch hR hlive hanswering

/-- Time goes on to `later`; the PINGs that are by then older than `R` have
their answers. -/
theorem Prompt.advance (h : Prompt gap R now base misses sent c) {later : Int} (hle : now ≤ later)
    (hanswers : ∀ ping ∈ c.trace.queued, ping.type = MessageType.kPing.toByte →
      ping.timestampNs.toInt + R < later → ∃ msg ∈ c.trace.handled, Echoes msg ping) :
    Prompt gap R later base misses sent c where
  role := h.role
  state := h.state
  consecutive := h.consecutive
  missed := h.missed
  pinged := h.pinged
  past := fun s hs => Int.le_trans (h.past s hs) hle
  base_le := Int.le_trans h.base_le hle
  answering := h.answering
  answered := h.answered
  acked := h.acked
  inTime := by
    intro s hs hlate
    obtain ⟨ping, hping, htype, rfl⟩ := h.pinged.queued s hs
    obtain ⟨msg, hmsg, hecho⟩ := hanswers ping hping htype hlate
    exact h.answered msg hmsg ping hping htype hecho
  recent := h.recent

/-- The queue after a PING that was not lost. -/
theorem sendPing_sent (c : Connection σ) (now : Int) (hrole : c.role = .kInitiator)
    (hstate : c.state = .kHealthy) (hsend : sendFails c.env.sends c.writePending.length = false) :
    (c.sendPing now).role = c.role ∧ (c.sendPing now).state = c.state ∧
      (c.sendPing now).consecutiveMissed = c.consecutiveMissed ∧
      (c.sendPing now).stats.missed = c.stats.missed ∧
      (c.sendPing now).lastLivenessNs = c.lastLivenessNs ∧
      (c.sendPing now).nextSequence = c.nextSequence + 1 ∧
      (c.sendPing now).ackedSequences = c.ackedSequences ∧
      (c.sendPing now).trace.queued = c.trace.queued ++ [c.pingMessage now] ∧
      (c.sendPing now).trace.handled = c.trace.handled := by
  rw [sendPing_eq c now hrole (Or.inl hstate)]
  obtain ⟨w, hw, hspec⟩ := queueMessage_eq c.bumpSequence (c.pingMessage now)
  have hquiet : w.state = c.state := (hspec.quiet hsend).1
  rw [hw]
  exact ⟨rfl, hquiet, rfl, rfl, rfl, rfl, rfl, hspec.queued_eq, rfl⟩

theorem Pinged.push (h : Pinged sent c) (hcount : sent.length < 2 ^ 64) (hnow : IsInt64 now)
    (hnext : c'.nextSequence = c.nextSequence + 1)
    (hqueued : c'.trace.queued = c.trace.queued ++ [c.pingMessage now]) :
    Pinged (sent ++ [now]) c' := by
  have hstamp : (c.pingMessage now).timestampNs.toInt = now :=
    BitVec.toInt_ofInt_eq_self (by decide) hnow.1 hnow.2
  constructor
  · rw [hnext, h.next, List.length_append, List.length_singleton, BitVec.ofNat_add]
    rfl
  · rw [List.length_append, List.length_singleton]
    omega
  · rw [hqueued]
    intro ping hping htype
    rcases List.mem_append.mp hping with hmem | hmem
    · obtain ⟨i, hi, hseq⟩ := h.listed ping hmem htype
      obtain ⟨hlt, _⟩ := List.getElem?_eq_some_iff.mp hi
      exact ⟨i, (List.getElem?_append_left hlt).trans hi, hseq⟩
    · rw [List.mem_singleton.mp hmem, hstamp]
      exact ⟨sent.length, List.getElem?_concat_length, h.next⟩
  · rw [hqueued]
    intro s hs
    rcases List.mem_append.mp hs with hmem | hmem
    · obtain ⟨ping, hping, hrest⟩ := h.queued s hmem
      exact ⟨ping, List.mem_append_left _ hping, hrest⟩
    · rw [List.mem_singleton.mp hmem]
      exact ⟨c.pingMessage now, by simp, rfl, hstamp⟩

/-- A PING goes out less than `gap` after the previous one. -/
theorem Prompt.sendPing (h : Prompt gap R now base misses sent c) (hR : 0 ≤ R)
    (hsend : sendFails c.env.sends c.writePending.length = false)
    (hcount : sent.length < 2 ^ 64) (hnow : IsInt64 now) (hgap : now < base + gap) :
    Prompt gap R now now misses (sent ++ [now]) (c.sendPing now) := by
  obtain ⟨hrole, hstate, hconsecutive, hmissed, hlive, hnext, hacked, hqueued, hhandled⟩ :=
    sendPing_sent c now h.role h.state hsend
  have hpinged := h.pinged.push hcount hnow hnext hqueued
  refine ⟨hrole.trans h.role, hstate.trans h.state, hconsecutive.trans h.consecutive,
    hmissed.trans h.missed, hpinged, ?_, Int.le_refl now, ?_, ?_, ?_, ?_, ?_⟩
  · intro s hs
    rcases List.mem_append.mp hs with hmem | hmem
    · exact h.past s hmem
    · exact Int.le_of_eq (List.mem_singleton.mp hmem)
  · unfold Answering
    rw [hhandled, hqueued]
    intro msg hmsg htype
    obtain ⟨ping, hping, hrest⟩ := h.answering msg hmsg htype
    exact ⟨ping, List.mem_append_left _ hping, hrest⟩
  · rw [hhandled, hqueued, hlive]
    intro msg hmsg ping hping htype hecho
    rcases List.mem_append.mp hping with hmem | hmem
    · exact h.answered msg hmsg ping hmem htype hecho
    · -- a message that would echo the new PING echoes an old one of the same time
      obtain ⟨old, hold, holdType, holdEcho⟩ := h.answering msg hmsg hecho.type_eq
      have hle := h.answered msg hmsg old hold holdType holdEcho
      rw [hecho.timestamp_eq.symm.trans holdEcho.timestamp_eq]
      exact hle
  · rw [hacked, hlive]
    obtain ⟨acks, hrecords, hacks⟩ := h.acked
    refine ⟨acks, hrecords, fun x hx => ?_⟩
    obtain ⟨i, s, hi, hseq, hle⟩ := hacks x hx
    obtain ⟨hlt, _⟩ := List.getElem?_eq_some_iff.mp hi
    exact ⟨i, s, (List.getElem?_append_left hlt).trans hi, hseq, hle⟩
  · rw [hlive]
    intro s hs hlate
    rcases List.mem_append.mp hs with hmem | hmem
    · exact h.inTime s hmem hlate
    · rw [List.mem_singleton.mp hmem] at hlate
      omega
  · rw [hlive]
    rcases h.recent with hbase | ⟨s, hs, hrecent⟩
    · by_cases hle : now ≤ c.lastLivenessNs
      · exact Or.inl hle
      · exact Or.inr ⟨now, by simp, by omega, by omega⟩
    · exact Or.inr ⟨s, List.mem_append_left _ hs, hrecent⟩

end Connection

/-- What survives every message survives a connection event that does not fail
the connection. -/
theorem Slot.handled_keeps {cfg : Config} {now : Int} {K : Connection Unit → Prop} {slot : Slot}
    (h : Connection.Kept cfg now K) (hc : K slot.connection) (events : EpollEvents) (io : SlotIo)
    (hlive : (slot.handled cfg events now io).connection.state ≠ .kFailed)
    (hanswering : (slot.handled cfg events now io).connection.Answering) :
    K (slot.handled cfg events now io).connection := by
  have hstate := handled_state slot cfg events now io
  have heq : slot.handled cfg events now io = slot.onEvent cfg events now io := by
    unfold handled
    rw [if_neg (hstate ▸ hlive)]
  rw [heq] at hlive hanswering ⊢
  unfold onEvent at hlive hanswering ⊢
  split at hlive
  · exact absurd rfl hlive
  · next hup =>
      rw [if_neg hup] at hanswering ⊢
      dsimp only at hlive hanswering ⊢
      have hwritten : (slot.writeIfWritable cfg events now io).connection.state ≠ .kFailed →
          K (slot.writeIfWritable cfg events now io).connection := by
        intro hw
        unfold writeIfWritable at hw ⊢
        split at hw
        · next hout =>
            rw [if_pos hout]
            exact h.onWritable (h.withEnv io.env hc) io.soError hw
        · next hout =>
            rw [if_neg hout]
            exact hc
      split at hlive
      · next hread =>
          rw [if_pos hread] at hanswering ⊢
          exact h.onReadable (h.withEnv _ (hwritten hread.1)) io.recvs hlive hanswering
      · next hread =>
          rw [if_neg hread] at hanswering ⊢
          exact hwritten hlive

end Vigil
