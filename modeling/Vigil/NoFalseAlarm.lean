import Vigil.Answers
import Vigil.Lifecycle
import Vigil.Reached

/-!
# A healthy feed raises no alarm

One slot after its handshake, with heartbeat interval `I` and timeout `T`: the
ticks come at most `D` apart and every PING has its PONG within `R`, where
`I + D + R ≤ T`.  A PING is then sent less than `I + D` after the one before,
so proof of life is never as old as `T` when a tick looks at it.

`no_false_alarm` covers ticks and answers in any order and at any times, for
runs of any length.
-/

namespace Vigil

/-! ## The handshake -/

namespace Connection

variable {σ : Type} {c c' : Connection σ}

/-- What an initiator has queued carries times it was handed. -/
theorem Reached.honest (h : Reached c) (hrole : c.role = .kInitiator) :
    ∃ handed, Honest handed c := by
  induction h with
  | fresh hfresh =>
      obtain ⟨fd, role, feedId, host, port, interceptor, env, now, rfl⟩ := hfresh.created
      refine ⟨[], hrole, ?_, ?_⟩
      · exact fun m hm => absurd hm List.not_mem_nil
      · intro hping
        obtain ⟨m, hm, _⟩ := hping
        exact absurd hm List.not_mem_nil
  | @call c _ call ih =>
      obtain ⟨handed, hhonest⟩ := ih ((call_role c call).symm.trans hrole)
      exact ⟨_, hhonest.call call⟩
  | @handled c _ env buf cfg msg now ih =>
      have hbefore : c.role = .kInitiator :=
        (role_of_identity (dispatch_identity cfg ((c.withEnv env).withRead buf) msg now)).symm.trans
          hrole
      obtain ⟨handed, hhonest⟩ := ih hbefore
      have hread : Honest handed ((c.withEnv env).withRead buf) := hhonest.quiet rfl rfl id
      exact ⟨handed, hread.dispatch cfg msg now⟩

/-- An initiator that waits for the answer to its HELLO. -/
structure Opening (misses : Nat) (c : Connection σ) : Prop where
  role : c.role = .kInitiator
  state : c.state = .kHandshaking
  consecutive : c.consecutiveMissed = 0
  missed : c.stats.missed = misses
  next : c.nextSequence = 0
  acked : RingBuffer.Records c.ackedSequences []
  unpinged : ∀ m ∈ c.trace.queued, m.type ≠ MessageType.kPing.toByte

theorem Reached.opening (h : Reached c) (hrole : c.role = .kInitiator)
    (hstate : c.state = .kHandshaking) : Opening c.stats.missed c := by
  obtain ⟨hconsecutive, hnext, hacked⟩ := h.unused hrole (Or.inr hstate)
  refine ⟨hrole, hstate, hconsecutive, rfl, hnext, hacked, ?_⟩
  intro m hm htype
  obtain ⟨handed, hhonest⟩ := h.honest hrole
  have hpast := hhonest.pinged ⟨m, hm, htype⟩
  rw [hstate] at hpast
  rcases hpast with h | h | h <;> cases h

variable {cfg : Config} {gap R now : Int} {misses : Nat} {msg : HeartbeatMessage}

theorem Opening.quiet (h : Opening misses c) (hq : Quiet c c') : Opening misses c' where
  role := hq.role.trans h.role
  state := hq.state.trans h.state
  consecutive := hq.consecutive.trans h.consecutive
  missed := hq.missed.trans h.missed
  next := hq.next.trans h.next
  acked := by
    rw [hq.acked]
    exact h.acked
  unpinged := by
    rw [hq.queued]
    exact h.unpinged

/-- With the handshake the exchange of heartbeats begins. -/
theorem Opening.dispatch (h : Opening misses c)
    (hlive : (c.dispatch cfg msg now).state ≠ .kFailed)
    (hanswering : (c.dispatch cfg msg now).Answering) :
    Opening misses (c.dispatch cfg msg now) ∨
      Prompt gap R now now misses [] (c.dispatch cfg msg now) := by
  have hresult := handleMessage_result cfg (c.noteHandled msg) msg now
  rw [Connection.dispatch] at hlive hanswering ⊢
  generalize (c.noteHandled msg).handleMessage cfg msg now = result
    at hresult hlive hanswering ⊢
  have hopen : ¬ ((c.noteHandled msg).state = .kHealthy ∨
      (c.noteHandled msg).state = .kDegraded) := by
    have hs : (c.noteHandled msg).state = .kHandshaking := h.state
    rw [hs]
    decide
  cases hresult with
  | violation => exact absurd rfl hlive
  | closed => exact absurd rfl hlive
  | hello ht hr => exact absurd (h.role.symm.trans hr) (by decide)
  | pingAnswered captured ht hr => exact absurd (h.role.symm.trans hr) (by decide)
  | pingHeld captured ht hr => exact absurd (h.role.symm.trans hr) (by decide)
  | duplicate ht hr hs => exact absurd hs hopen
  | untimely ht hr hs => exact absurd hs hopen
  | counted ht hr hs => exact absurd (Or.inl hs) hopen
  | recovered ht hr hs => exact absurd (Or.inr hs) hopen
  | unknown ht =>
      exact Or.inl ⟨h.role, h.state, h.consecutive, h.missed, h.next, h.acked, h.unpinged⟩
  | ack ht hr hs =>
      refine Or.inr ⟨h.role, rfl, h.consecutive, h.missed, ⟨h.next, by simp, ?_, ?_⟩, ?_,
        Int.le_refl now, hanswering, ?_, ⟨[], h.acked, ?_⟩, ?_, Or.inl (Int.le_refl now)⟩
      · exact fun ping hping htype => absurd htype (h.unpinged ping hping)
      · exact fun s hs => absurd hs List.not_mem_nil
      · exact fun s hs => absurd hs List.not_mem_nil
      · exact fun m _ ping hping htype => absurd htype (h.unpinged ping hping)
      · exact fun x hx => absurd hx List.not_mem_nil
      · exact fun s hs => absurd hs List.not_mem_nil

theorem opening_kept (hR : R < cfg.timeoutNs) :
    Kept cfg now fun c : Connection σ => Opening misses c ∨ Prompt gap R now now misses [] c where
  role c h := by
    rcases h with h | h
    · exact h.role
    · exact h.role
  state c h := by
    rcases h with h | h
    · rw [h.state]
      exact ⟨nofun, nofun⟩
    · rw [h.state]
      exact ⟨nofun, nofun⟩
  quiet c c' h hq := by
    rcases h with h | h
    · exact Or.inl (h.quiet hq)
    · exact Or.inr (h.quiet hq)
  dispatch c msg h hlive hanswering := by
    rcases h with h | h
    · exact h.dispatch hlive hanswering
    · exact Or.inr (h.dispatch hR hlive hanswering)

end Connection

/-! ## Runs of one slot -/

/-- A tick or a connection event, as it reaches one slot. -/
inductive SlotEvent where
  | tick (now : Int) (io : SlotIo)
  | event (events : EpollEvents) (now : Int) (io : SlotIo)

def SlotEvent.now : SlotEvent → Int
  | .tick now _ => now
  | .event _ now _ => now

/-- Times do not decrease, and each tick comes at most `D` after the one
before; `tick` and `now` are the times of the last tick and the last step. -/
def Paced (D : Int) : Int → Int → List SlotEvent → Prop
  | _, _, [] => True
  | tick, now, .tick t _ :: rest => now ≤ t ∧ t ≤ tick + D ∧ Paced D t t rest
  | tick, now, .event _ t _ :: rest => now ≤ t ∧ Paced D tick t rest

namespace Slot

/-- What a step makes of the slot. -/
def react (cfg : Config) (slot : Slot) : SlotEvent → Slot
  | .tick now io => slot.ticked cfg now io
  | .event events now io => slot.handled cfg events now io

/-- The socket does its part: the PING of a tick is not lost, and a connection
event does not fail the connection. -/
def Intact (cfg : Config) (slot : Slot) : SlotEvent → Prop
  | .tick now io => ¬ slot.PingLost now io
  | .event events now io => (slot.handled cfg events now io).connection.state ≠ .kFailed

instance (cfg : Config) (slot : Slot) (e : SlotEvent) : Decidable (slot.Intact cfg e) :=
  match e with
  | .tick now io => inferInstanceAs (Decidable (¬ slot.PingLost now io))
  | .event _ _ _ => inferInstanceAs (Decidable (_ ≠ ConnectionState.kFailed))

/-- The peer and the socket do their part: before a step at time `now`, every
PING sent before `now - R` has its PONG handled; the step is not disturbed by
a failure; and the peer sends no PONG but answers. -/
structure Undisturbed (cfg : Config) (R : Int) (slot : Slot) (e : SlotEvent) : Prop where
  answered : ∀ ping ∈ slot.connection.trace.queued, ping.type = MessageType.kPing.toByte →
    ping.timestampNs.toInt + R < e.now →
      ∃ msg ∈ slot.connection.trace.handled, Connection.Echoes msg ping
  intact : slot.Intact cfg e
  answering : (slot.react cfg e).connection.Answering

instance (cfg : Config) (R : Int) (slot : Slot) (e : SlotEvent) :
    Decidable (slot.Undisturbed cfg R e) :=
  decidable_of_iff ((∀ ping ∈ slot.connection.trace.queued,
      ping.type = MessageType.kPing.toByte → ping.timestampNs.toInt + R < e.now →
        ∃ msg ∈ slot.connection.trace.handled, Connection.Echoes msg ping) ∧
      slot.Intact cfg e ∧ (slot.react cfg e).connection.Answering)
    ⟨fun h => ⟨h.1, h.2.1, h.2.2⟩, fun h => ⟨h.answered, h.intact, h.answering⟩⟩

/-- Healthy, and no miss recorded since there were `misses`. -/
structure Unalarmed (misses : Nat) (slot : Slot) : Prop where
  state : slot.connection.state = .kHealthy
  consecutive : slot.connection.consecutiveMissed = 0
  missed : slot.connection.stats.missed = misses

/-- The invariant of a run that began at `start`; the last tick was at `tick`
and the last step at `now`. -/
structure OnSchedule (cfg : Config) (D R start tick now base : Int) (misses : Nat)
    (sent : List Int) (slot : Slot) : Prop where
  prompt : Connection.Prompt (cfg.intervalNs + D) R now base misses sent slot.connection
  start_le : start ≤ now
  tick_lt : tick < base + cfg.intervalNs
  due_le : slot.nextPingDueNs ≤ base + cfg.intervalNs
  /-- The PINGs are at least an interval apart. -/
  spaced : sent = [] ∨ start + sent.length * cfg.intervalNs ≤ slot.nextPingDueNs

variable {cfg : Config} {D R start tick now base : Int} {misses : Nat} {sent : List Int}
  {slot : Slot}

theorem OnSchedule.unalarmed (h : slot.OnSchedule cfg D R start tick now base misses sent) :
    slot.Unalarmed misses :=
  ⟨h.prompt.state, h.prompt.consecutive, h.prompt.missed⟩

/-- Time is too short for the sequence numbers to wrap around. -/
theorem OnSchedule.count_lt (h : slot.OnSchedule cfg D R start tick now base misses sent)
    (hI : 0 < cfg.intervalNs) {t : Int} (hstart : IsInt64 start) (ht : IsInt64 t)
    (hdue : slot.nextPingDueNs ≤ t) : sent.length < 2 ^ 64 := by
  obtain ⟨hlow, _⟩ := hstart
  obtain ⟨_, hhigh⟩ := ht
  rcases h.spaced with hnil | hspaced
  · rw [hnil]
    decide
  · have hone : (sent.length : Int) * 1 ≤ sent.length * cfg.intervalNs :=
      Int.mul_le_mul_of_nonneg_left (by omega) (by omega)
    omega

/-- The timeout check finds proof of life younger than the timeout. -/
theorem checked_alive (hstate : slot.connection.state = .kHealthy)
    (hlive : now - slot.connection.lastLivenessNs < cfg.timeoutNs) (io : SlotIo) :
    Connection.Quiet slot.connection (slot.checked cfg now io).connection := by
  have hresult := Connection.checkTimeout_result cfg (slot.connection.withEnv io.env) now
  have hcheck : (slot.connection.withEnv io.env).checkTimeout cfg now =
      (false, slot.connection.withEnv io.env) := by
    generalize (slot.connection.withEnv io.env).checkTimeout cfg now = result at hresult ⊢
    have hs : (slot.connection.withEnv io.env).state = .kHealthy := hstate
    have hl : now - (slot.connection.withEnv io.env).lastLivenessNs < cfg.timeoutNs := hlive
    cases hresult with
    | idle h => rfl
    | attempting h => rfl
    | alive => rfl
    | attemptExpired h => simp [hs] at h
    | silent h hr ht => omega
    | lastMiss h hr ht => omega
    | miss h hr ht => omega
  have hfalse : (slot.check cfg now io).1 = false := congrArg Prod.fst hcheck
  have hconn : (slot.check cfg now io).2.connection = slot.connection.withEnv io.env :=
    congrArg Prod.snd hcheck
  unfold checked
  rw [if_neg (by rw [hfalse]; nofun), hconn]
  exact ⟨rfl, rfl, rfl, rfl, rfl, rfl, rfl, rfl, rfl⟩

/-- The PING part of a tick; `t` is before the next PING will be due. -/
theorem OnSchedule.pingIfDue (h : slot.OnSchedule cfg D R start tick now base misses sent)
    (hI : 0 < cfg.intervalNs) (hR : 0 ≤ R) {t : Int} (io : SlotIo) (hstart : IsInt64 start)
    (ht : IsInt64 t) (hle : now ≤ t) (hpace : t ≤ tick + D)
    (hprompt : Connection.Prompt (cfg.intervalNs + D) R t base misses sent slot.connection)
    (hsend : ¬ slot.PingLost t io) :
    ∃ base' sent', (slot.pingIfDue cfg t io).OnSchedule cfg D R start t t base' misses sent' := by
  have hfrom := h.start_le
  have hlast := h.tick_lt
  unfold Slot.pingIfDue
  by_cases hdue : slot.nextPingDueNs ≤ t
  · rw [if_pos hdue]
    have hcount := h.count_lt hI hstart ht hdue
    have hsent : Connection.sendFails io.sends slot.connection.writePending.length = false := by
      cases hf : Connection.sendFails io.sends slot.connection.writePending.length with
      | false => rfl
      | true => exact absurd ⟨Or.inl h.prompt.state, hdue, hf⟩ hsend
    have hentered : Connection.Prompt (cfg.intervalNs + D) R t base misses sent
        (slot.connection.withEnv io.env) :=
      hprompt.quiet ⟨rfl, rfl, rfl, rfl, rfl, rfl, rfl, rfl, rfl⟩
    have hpinged := hentered.sendPing hR hsent hcount ht (by omega)
    refine ⟨t, sent ++ [t], hpinged, by omega, by omega, Int.le_refl _, Or.inr ?_⟩
    have hbefore : start + sent.length * cfg.intervalNs ≤ t := by
      rcases h.spaced with hnil | hspaced
      · rw [hnil, List.length_nil]
        omega
      · exact Int.le_trans hspaced hdue
    rw [List.length_append, List.length_singleton, Int.natCast_add, Int.add_mul]
    show _ ≤ t + cfg.intervalNs
    omega
  · rw [if_neg hdue]
    have hdueLe := h.due_le
    exact ⟨base, sent, hprompt, by omega, by omega, hdueLe, h.spaced⟩

/-- Right after the PING part of a tick, proof of life is younger than the
timeout. -/
theorem OnSchedule.young (h : slot.OnSchedule cfg D R start now now base misses sent) (hD : 0 ≤ D)
    (hR : 0 ≤ R) (hT : cfg.intervalNs + D + R ≤ cfg.timeoutNs) :
    now - slot.connection.lastLivenessNs < cfg.timeoutNs := by
  have hlast := h.tick_lt
  rcases h.prompt.recent with hbase | ⟨s, hs, hafter, hbefore⟩
  · omega
  · -- `s` has no answer yet, so it is not older than `R`
    have hwait : now ≤ s + R := by
      by_contra hlate
      have := h.prompt.inTime s hs (by omega)
      omega
    omega

theorem OnSchedule.ticked (h : slot.OnSchedule cfg D R start tick now base misses sent)
    (hI : 0 < cfg.intervalNs) (hD : 0 ≤ D) (hR : 0 ≤ R)
    (hT : cfg.intervalNs + D + R ≤ cfg.timeoutNs) {t : Int} (io : SlotIo)
    (hstart : IsInt64 start) (ht : IsInt64 t) (hle : now ≤ t) (hpace : t ≤ tick + D)
    (hok : slot.Undisturbed cfg R (.tick t io)) :
    ∃ base' sent', (slot.ticked cfg t io).OnSchedule cfg D R start t t base' misses sent' := by
  obtain ⟨base', sent', hpinged⟩ := h.pingIfDue hI hR io hstart ht hle hpace
    (h.prompt.advance hle hok.answered) hok.intact
  have hyoung := hpinged.young hD hR hT
  have hquiet := checked_alive hpinged.prompt.state hyoung io
  have hticked : slot.ticked cfg t io = (slot.pingIfDue cfg t io).checked cfg t io := by
    unfold Slot.ticked
    rw [h.prompt.state]
  rw [hticked]
  refine ⟨base', sent', hpinged.prompt.quiet hquiet, hpinged.start_le, hpinged.tick_lt, ?_, ?_⟩
  · rw [checked_nextPingDueNs]
    exact hpinged.due_le
  · rw [checked_nextPingDueNs]
    exact hpinged.spaced

theorem OnSchedule.handled (h : slot.OnSchedule cfg D R start tick now base misses sent)
    (hR : R < cfg.timeoutNs) {t : Int} (events : EpollEvents) (io : SlotIo) (hle : now ≤ t)
    (hok : slot.Undisturbed cfg R (.event events t io)) :
    (slot.handled cfg events t io).OnSchedule cfg D R start tick t base misses sent := by
  have hstart := h.start_le
  have hdue := handled_nextPingDueNs slot cfg events t io
  refine ⟨?_, by omega, h.tick_lt, ?_, ?_⟩
  · exact handled_keeps (Connection.prompt_kept hR) (h.prompt.advance hle hok.answered) events io
      hok.intact hok.answering
  · rw [hdue]
    exact h.due_le
  · rw [hdue]
    exact h.spaced

theorem OnSchedule.run (events : List SlotEvent) (tick now base : Int) (sent : List Int)
    (slot : Slot) (h : slot.OnSchedule cfg D R start tick now base misses sent)
    (hI : 0 < cfg.intervalNs) (hD : 0 ≤ D) (hR : 0 ≤ R)
    (hT : cfg.intervalNs + D + R ≤ cfg.timeoutNs) (hstart : IsInt64 start)
    (hrange : ∀ e ∈ events, IsInt64 e.now) (hpaced : Paced D tick now events)
    (hok : Runs.Along (react cfg) (Undisturbed cfg R) slot events) :
    Runs.Along (react cfg) (fun slot e => (slot.react cfg e).Unalarmed misses) slot events := by
  induction events generalizing tick now base sent slot with
  | nil => trivial
  | cons e rest ih =>
      have hrest : ∀ e ∈ rest, IsInt64 e.now := fun e he => hrange e (List.mem_cons_of_mem _ he)
      have ht := hrange e List.mem_cons_self
      cases e with
      | tick t io =>
          obtain ⟨hle, hpace, hlater⟩ := hpaced
          obtain ⟨base', sent', hnext⟩ :=
            h.ticked hI hD hR hT io hstart ht hle hpace hok.1
          exact ⟨hnext.unalarmed, ih _ _ _ _ _ hnext hrest hlater hok.2⟩
      | event events t io =>
          obtain ⟨hle, hlater⟩ := hpaced
          have hnext := h.handled (by omega) events io hle hok.1
          exact ⟨hnext.unalarmed, ih _ _ _ _ _ hnext hrest hlater hok.2⟩

/-- A connection whose HELLO has gone out. -/
def helloSent : Connection Unit :=
  (Connection.create 5 .kInitiator 7 "127.0.0.1" 9000 none ⟨[], fun _ => 0, ()⟩ 0).call
    ⟨{}, ⟨[.sent 28], fun _ => 0, ()⟩, .onWritable 0 1⟩

theorem helloSent_reached : helloSent.Reached :=
  .call (.fresh ⟨_, _, _, _, _, _, _, _, rfl⟩) _

/-- The slot with this connection. -/
def handshaking : Slot :=
  { connection := helloSent, name := "alpha", history := { object := 0 } }

/-- A message of the peer arrives. -/
def hears (type : MessageType) (sequence timestampNs : BitVec 64) : SlotIo where
  recvs := [.data (frameChunk
    { type := type.toByte, feedId := 7, sequence := sequence, timestampNs := timestampNs })]

/-- Two PINGs, each answered half a second later. -/
def twoRounds : List SlotEvent :=
  [.tick 10 { sends := [.sent 28] },
    .event { epollIn := true } 500000000 (hears .kPong 0 10),
    .tick 1000000005 {},
    .tick 1500000000 { sends := [.sent 28] },
    .event { epollIn := true } 2000000000 (hears .kPong 1 1500000000),
    .tick 2400000000 {}]

end Slot

end Vigil
