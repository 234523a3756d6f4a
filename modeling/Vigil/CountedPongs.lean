import Vigil.Answers
import Vigil.Evidence

/-!
# Counted PONGs

A `Tally` keeps account of one connection: the PONGs counted since the last
`rebind`, in order, and the sequences remembered.  The account is what the code
has: the remembered sequences are those in the ring as long as they are among
the last 32, every counted PONG is one answered PING and one round-trip sample,
and each is one of the PONGs handled (`Tracks`).

The ring is the only guard against counting a PING twice.  It holds exactly as
long as every timely repeat of a counted PONG still finds its sequence among
the last 32 remembered (`pings_counted_once_iff`).
-/

namespace Vigil

namespace Connection

variable {σ : Type}

/-- The PONG passes the guard of `handle_pong`. -/
def Arrives (c : Connection σ) (msg : HeartbeatMessage) : Prop :=
  MessageType.ofByte msg.type = some .kPong ∧ c.role = .kInitiator ∧
    (c.state = .kHealthy ∨ c.state = .kDegraded)

instance (c : Connection σ) (msg : HeartbeatMessage) : Decidable (Arrives c msg) :=
  inferInstanceAs (Decidable (_ ∧ _ ∧ _))

theorem remembers_iff {c : Connection σ} {msg : HeartbeatMessage} :
    Remembers c msg ↔ Arrives c msg ∧ c.hasAckedSequence msg.sequence = false :=
  ⟨fun h => ⟨⟨h.type, h.role, h.established⟩, h.unseen⟩,
    fun ⟨⟨ht, hr, hs⟩, hseen⟩ => ⟨ht, hr, hs, hseen⟩⟩

theorem accepts_iff {cfg : Config} {now : Int} {c : Connection σ} {msg : HeartbeatMessage} :
    Accepts cfg now c msg ↔
      Remembers c msg ∧ 0 ≤ rttNs msg now ∧ rttNs msg now < cfg.timeoutNs :=
  ⟨fun h => ⟨h.remembers, h.timely⟩,
    fun ⟨h, hrtt⟩ => ⟨h.type, h.role, h.established, h.unseen, hrtt⟩⟩

/-- The message makes the connection look healthier. -/
def Heartens (cfg : Config) (now : Int) (c : Connection σ) (msg : HeartbeatMessage) : Prop :=
  c.stats.heartbeatsAcked < (c.dispatch cfg msg now).stats.heartbeatsAcked ∨
    (c.dispatch cfg msg now).lastLivenessNs ≠ c.lastLivenessNs ∨
    (c.dispatch cfg msg now).consecutiveMissed ≠ c.consecutiveMissed ∨
    c.state = .kDegraded ∧ (c.dispatch cfg msg now).state = .kHealthy

/-- A PONG that is not accepted leaves no trace of health. -/
theorem Heartens.accepts {cfg : Config} {now : Int} {c : Connection σ} {msg : HeartbeatMessage}
    (h : Heartens cfg now c msg) (hpong : MessageType.ofByte msg.type = some .kPong) :
    Accepts cfg now c msg := by
  have hresult := handleMessage_result cfg (c.noteHandled msg) msg now
  unfold Heartens dispatch at h
  generalize (c.noteHandled msg).handleMessage cfg msg now = result at hresult h
  have hsame : result.evidence = c.evidence →
      (result.state = .kFailed ∨ result.state = c.state) → False := by
    intro hevidence hstate
    have hacked : result.stats.heartbeatsAcked = c.stats.heartbeatsAcked :=
      congrArg (fun x => x.2.1) (tallied_of_evidence hevidence)
    rcases h with h | h | h | ⟨hdegraded, hhealthy⟩
    · omega
    · exact h (lastLivenessNs_of_evidence hevidence)
    · exact h (consecutiveMissed_of_evidence hevidence)
    · rcases hstate with hs | hs
      · exact absurd (hs.symm.trans hhealthy) nofun
      · exact absurd (hdegraded.symm.trans (hs.symm.trans hhealthy)) nofun
  cases hresult with
  | violation => exact absurd (hsame rfl (Or.inl rfl)) id
  | duplicate => exact absurd (hsame rfl (Or.inr rfl)) id
  | untimely ht hr hs =>
      -- only the ring has changed
      rcases h with h | h | h | ⟨hdegraded, hhealthy⟩
      · exact absurd h (Nat.lt_irrefl _)
      · exact absurd rfl h
      · exact absurd rfl h
      · have hhealthy' : c.state = .kHealthy := hhealthy
        exact absurd (hdegraded.symm.trans hhealthy') nofun
  | counted ht hr hs hseen hrtt => exact ⟨ht, hr, Or.inl hs, hseen, hrtt⟩
  | recovered ht hr hs hseen hrtt => exact ⟨ht, hr, Or.inr hs, hseen, hrtt⟩
  | hello ht => exact absurd (ht.symm.trans hpong) nofun
  | ack ht => exact absurd (ht.symm.trans hpong) nofun
  | pingAnswered captured ht => exact absurd (ht.symm.trans hpong) nofun
  | pingHeld captured ht => exact absurd (ht.symm.trans hpong) nofun
  | closed ht => exact absurd (ht.symm.trans hpong) nofun
  | unknown ht => exact absurd (ht.symm.trans hpong) nofun

end Connection

/-- A connection and the account of its PONGs since the last `rebind`: the
sequences remembered, the PONGs counted with the time of each, and where the
statistics stood. -/
structure Tally (σ : Type) where
  connection : Connection σ
  remembered : List (BitVec 64) := []
  counted : List (HeartbeatMessage × Int) := []
  acked : Nat
  samples : RingBuffer Int 256

namespace Tally

variable {σ : Type}

open Connection

/-- The account of an attempt that begins. -/
def start (c : Connection σ) : Tally σ where
  connection := c
  acked := c.stats.heartbeatsAcked
  samples := c.stats.rttSamplesNs

/-- The last 32 sequences remembered. -/
def recent (t : Tally σ) : List (BitVec 64) :=
  t.remembered.drop (t.remembered.length - kAckedSequenceWindow)

/-- The PING a PONG answers, by its sequence and timestamp. -/
def pingOf (msg : HeartbeatMessage) : BitVec 64 × BitVec 64 :=
  (msg.sequence, msg.timestampNs)

/-- The PINGs of the counted PONGs. -/
def answered (t : Tally σ) : List (BitVec 64 × BitVec 64) :=
  t.counted.map fun pong => pingOf pong.1

/-- One message of a read.  A PONG is counted if `heartbeats_acked` goes up,
and remembered if it is not among the last 32. -/
def handle (cfg : Config) (now : Int) (t : Tally σ) (msg : HeartbeatMessage) : Tally σ :=
  { t with
    connection := t.connection.dispatch cfg msg now
    remembered :=
      if t.connection.Arrives msg ∧ msg.sequence ∉ t.recent then
        t.remembered ++ [msg.sequence]
      else t.remembered
    counted :=
      if t.connection.stats.heartbeatsAcked <
          (t.connection.dispatch cfg msg now).stats.heartbeatsAcked then
        t.counted ++ [(msg, now)]
      else t.counted }

/-- The connection as a call enters it. -/
def enter (t : Tally σ) (env : Env σ) : Tally σ :=
  { t with connection := t.connection.withEnv env }

/-- The messages of a call, one after the other. -/
def handleAll (cfg : Config) (now : Int) (t : Tally σ) (msgs : List HeartbeatMessage) :
    Tally σ :=
  msgs.foldl (handle cfg now) t

/-- One call; `rebind` begins a new account. -/
def call (t : Tally σ) (call : Call σ) : Tally σ :=
  match call.op with
  | .onReadable recvs now =>
      { (t.enter call.env).handleAll call.cfg now
          ((t.connection.withEnv call.env).readMessages call.cfg recvs now) with
        connection := t.connection.call call }
  | .rebind _ _ => start (t.connection.call call)
  | _ => { t with connection := t.connection.call call }

/-! ## The account is right -/

/-- The account agrees with the connection. -/
structure Tracks (t : Tally σ) : Prop where
  window : t.connection.ackedSequences.Records t.remembered
  acked : t.connection.stats.heartbeatsAcked = t.acked + t.counted.length
  samples : t.connection.stats.rttSamplesNs =
    t.counted.foldl (fun ring pong => ring.push (rttNs pong.1 pong.2)) t.samples
  handled : (t.counted.map Prod.fst).Sublist
    (t.connection.trace.handled.filter fun msg => MessageType.ofByte msg.type = some .kPong)

variable {t : Tally σ} {cfg : Config} {now : Int}

theorem Tracks.seen_iff (h : t.Tracks) (sequence : BitVec 64) :
    t.connection.hasAckedSequence sequence = true ↔ sequence ∈ t.recent :=
  h.window.contains_iff sequence

/-- What the account says of a connection only depends on its tallied fields
and on the messages it has handled. -/
theorem Tracks.move (h : t.Tracks) {c : Connection σ}
    (htallied : c.tallied = t.connection.tallied)
    (hhandled : c.trace.handled = t.connection.trace.handled) :
    Tracks { t with connection := c } where
  window := by
    have hring : c.ackedSequences = t.connection.ackedSequences := congrArg Prod.fst htallied
    show c.ackedSequences.Records t.remembered
    rw [hring]
    exact h.window
  acked := (congrArg (fun x => x.2.1) htallied).trans h.acked
  samples := (congrArg (fun x => x.2.2) htallied).trans h.samples
  handled := by
    show (t.counted.map Prod.fst).Sublist (c.trace.handled.filter _)
    rw [hhandled]
    exact h.handled

theorem tracks_start {c : Connection σ} (h : c.ackedSequences.Records []) : (start c).Tracks where
  window := h
  acked := rfl
  samples := rfl
  handled := List.nil_sublist _

/-- A message is counted exactly if it is accepted. -/
theorem handle_counted (t : Tally σ) (msg : HeartbeatMessage) :
    (t.handle cfg now msg).counted =
      if Accepts cfg now t.connection msg then t.counted ++ [(msg, now)] else t.counted := by
  have hacked : (t.connection.dispatch cfg msg now).stats.heartbeatsAcked = _ :=
    congrArg (fun x => x.2.1) (dispatch_tallied cfg t.connection msg now)
  simp only [handle, hacked, tallyAfter]
  by_cases h : Accepts cfg now t.connection msg
  · simp [h]
  · simp [h]

theorem Tracks.handle_remembered (h : t.Tracks) (msg : HeartbeatMessage) :
    (t.handle cfg now msg).remembered =
      if Remembers t.connection msg then t.remembered ++ [msg.sequence] else t.remembered := by
  have hiff : (t.connection.Arrives msg ∧ msg.sequence ∉ t.recent) ↔
      Remembers t.connection msg := by
    rw [remembers_iff, ← h.seen_iff, Bool.not_eq_true]
  simp only [handle, hiff]

theorem Tracks.handle (h : t.Tracks) (msg : HeartbeatMessage) : (t.handle cfg now msg).Tracks := by
  have htallied := dispatch_tallied cfg t.connection msg now
  have hring : (t.handle cfg now msg).connection.ackedSequences = _ := congrArg Prod.fst htallied
  have hacked : (t.handle cfg now msg).connection.stats.heartbeatsAcked = _ :=
    congrArg (fun x => x.2.1) htallied
  have hsamples : (t.handle cfg now msg).connection.stats.rttSamplesNs = _ :=
    congrArg (fun x => x.2.2) htallied
  have hhandled : (t.handle cfg now msg).connection.trace.handled =
      t.connection.trace.handled ++ [msg] := dispatch_handled cfg t.connection msg now
  constructor
  · rw [hring, h.handle_remembered]
    dsimp only [tallyAfter]
    split
    · exact h.window.push msg.sequence
    · exact h.window
  · rw [hacked, handle_counted]
    show _ = t.acked + _
    dsimp only [tallyAfter]
    have hbefore := h.acked
    split
    · rw [List.length_append, List.length_singleton]
      omega
    · exact hbefore
  · rw [hsamples, handle_counted]
    show _ = List.foldl _ t.samples _
    dsimp only [tallyAfter]
    split
    · rw [List.foldl_append, ← h.samples]
      rfl
    · exact h.samples
  · rw [hhandled, handle_counted, List.filter_append]
    split
    · next haccepts =>
        have hone : [msg].filter (fun m => MessageType.ofByte m.type = some .kPong) = [msg] := by
          simp [haccepts.type]
        rw [List.map_append, hone]
        exact h.handled.append (List.Sublist.refl _)
    · exact h.handled.trans (List.sublist_append_left _ _)

theorem Tracks.handleAll (h : t.Tracks) (cfg : Config) (now : Int)
    (msgs : List HeartbeatMessage) : (t.handleAll cfg now msgs).Tracks :=
  List.foldlRecOn msgs _ h fun _ hd msg _ => Tracks.handle hd msg

theorem handleAll_connection (cfg : Config) (now : Int) (t : Tally σ)
    (msgs : List HeartbeatMessage) :
    (t.handleAll cfg now msgs).connection = t.connection.dispatchAll cfg now msgs := by
  induction msgs generalizing t with
  | nil => rfl
  | cons msg msgs ih => exact ih (t.handle cfg now msg)

theorem Tracks.enter (h : t.Tracks) (env : Env σ) : (t.enter env).Tracks :=
  h.move rfl rfl

/-- **The account stays right**, whatever is called. -/
theorem Tracks.call (h : t.Tracks) (call : Call σ) : (t.call call).Tracks := by
  obtain ⟨cfg, env, op⟩ := call
  cases op with
  | onReadable recvs now =>
      obtain ⟨hevidence, hhandled⟩ := onReadable_messages cfg (t.connection.withEnv env) recvs now
      have hall := (h.enter env).handleAll cfg now
        ((t.connection.withEnv env).readMessages cfg recvs now)
      have hconnection := handleAll_connection cfg now (t.enter env)
        ((t.connection.withEnv env).readMessages cfg recvs now)
      refine hall.move ?_ ?_
      · rw [hconnection]
        exact tallied_of_evidence hevidence
      · rw [hconnection, dispatchAll_handled]
        exact hhandled
  | rebind newFd now => exact tracks_start (RingBuffer.records_reset _)
  | _ =>
      exact h.move (tallied_of_learned (call_learned t.connection _ rfl rfl))
        (handled_of_core (call_core t.connection _ rfl rfl))

/-- A read of which it is known what it handles. -/
theorem call_read (t : Tally σ) {env : Env σ} {recvs : List RecvOutcome}
    {msgs : List HeartbeatMessage} {buf : List ByteOrder.Byte}
    (h : (t.connection.withEnv env).onReadable cfg recvs now =
      ((t.connection.withEnv env).dispatchAll cfg now msgs).withRead buf) :
    t.call ⟨cfg, env, .onReadable recvs now⟩ =
      { (t.enter env).handleAll cfg now msgs with
        connection := ((t.connection.withEnv env).dispatchAll cfg now msgs).withRead buf } := by
  have hmsgs : (t.connection.withEnv env).readMessages cfg recvs now = msgs :=
    readMessages_eq (by rw [h]; rfl)
  show { (t.enter env).handleAll cfg now _ with
    connection := (t.connection.withEnv env).onReadable cfg recvs now } = _
  rw [hmsgs, h]

/-- A new connection. -/
theorem tracks_fresh {c : Connection σ} (h : Fresh c) : (start c).Tracks := by
  obtain ⟨fd, role, feedId, host, port, interceptor, env, now, rfl⟩ := h.created
  exact tracks_start (RingBuffer.records_fresh 0 (by decide))

/-! ## Counted once -/

/-- A PONG that arrives in time for a PING already counted is still among the
last 32 remembered. -/
def RepeatRecent (cfg : Config) (now : Int) (t : Tally σ) (msg : HeartbeatMessage) : Prop :=
  t.connection.Arrives msg → pingOf msg ∈ t.answered → 0 ≤ rttNs msg now →
    rttNs msg now < cfg.timeoutNs → msg.sequence ∈ t.recent

/-- So are all the PONGs of a call. -/
def RepeatsRecent (t : Tally σ) (call : Call σ) : Prop :=
  match call.op with
  | .onReadable recvs now =>
      Runs.Along (handle call.cfg now) (RepeatRecent call.cfg now) (t.enter call.env)
        ((t.connection.withEnv call.env).readMessages call.cfg recvs now)
  | _ => True

instance (cfg : Config) (now : Int) (t : Tally σ) (msg : HeartbeatMessage) :
    Decidable (RepeatRecent cfg now t msg) :=
  inferInstanceAs (Decidable (_ → _ → _ → _ → _))

instance decidableRepeatsRecent (t : Tally σ) : (call : Call σ) → Decidable (t.RepeatsRecent call)
  | ⟨_, _, .onReadable _ _⟩ => inferInstanceAs (Decidable (Runs.Along _ (RepeatRecent _ _) _ _))
  | ⟨_, _, .onWritable _ _⟩ => isTrue trivial
  | ⟨_, _, .onHangupOrError _ _⟩ => isTrue trivial
  | ⟨_, _, .sendPing _⟩ => isTrue trivial
  | ⟨_, _, .sendPong _ _⟩ => isTrue trivial
  | ⟨_, _, .checkTimeout _⟩ => isTrue trivial
  | ⟨_, _, .resetLivenessBaseline _⟩ => isTrue trivial
  | ⟨_, _, .rebind _ _⟩ => isTrue trivial

/-- No PING of the attempt has been counted twice. -/
def CountedOnce (t : Tally σ) : Prop :=
  ∀ ping ∈ t.connection.trace.queued, ping.type = MessageType.kPing.toByte →
    t.answered.count (pingOf ping) ≤ 1

theorem countedOnce_of_connection (t : Tally σ) (c : Connection σ) :
    CountedOnce { t with connection := c } ↔ ∀ ping ∈ c.trace.queued,
      ping.type = MessageType.kPing.toByte → t.answered.count (pingOf ping) ≤ 1 :=
  Iff.rfl

theorem handle_answered (t : Tally σ) (msg : HeartbeatMessage) :
    (t.handle cfg now msg).answered =
      if Accepts cfg now t.connection msg then t.answered ++ [pingOf msg] else t.answered := by
  rw [answered, handle_counted]
  split
  · rw [List.map_append]
    rfl
  · rfl

theorem Tracks.handle_nodup_iff (h : t.Tracks) (msg : HeartbeatMessage) (hnodup : t.answered.Nodup) :
    (t.handle cfg now msg).answered.Nodup ↔ RepeatRecent cfg now t msg := by
  rw [handle_answered]
  by_cases haccepts : Accepts cfg now t.connection msg
  · have hunseen := haccepts.unseen
    rw [if_pos haccepts, List.nodup_append_comm, List.singleton_append, List.nodup_cons]
    constructor
    · rintro ⟨hnew, _⟩ _ hrepeat
      exact absurd hrepeat hnew
    · intro hrecent
      refine ⟨fun hrepeat => ?_, hnodup⟩
      have hseen := (h.seen_iff msg.sequence).mpr (hrecent (remembers_iff.mp haccepts.remembers).1
        hrepeat haccepts.timely.1 haccepts.timely.2)
      exact absurd (hunseen.symm.trans hseen) nofun
  · rw [if_neg haccepts]
    refine iff_of_true hnodup ?_
    intro harrives _ hpast hrtt
    rw [← h.seen_iff]
    by_contra hunseen
    exact haccepts (accepts_iff.mpr
      ⟨remembers_iff.mpr ⟨harrives, by simpa using hunseen⟩, hpast, hrtt⟩)

/-- A message takes nothing out of the account. -/
theorem nodup_of_handle (msg : HeartbeatMessage) (h : (t.handle cfg now msg).answered.Nodup) :
    t.answered.Nodup := by
  rw [handle_answered] at h
  split at h
  · exact h.of_append_left
  · exact h

theorem Tracks.call_nodup_iff (h : t.Tracks) (call : Call σ) (hnodup : t.answered.Nodup) :
    (t.call call).answered.Nodup ↔ t.RepeatsRecent call := by
  obtain ⟨cfg, env, op⟩ := call
  cases op with
  | onReadable recvs now =>
      show ((t.enter env).handleAll cfg now _).answered.Nodup ↔ _
      have hnodup' : (t.enter env).answered.Nodup := hnodup
      rw [Tally.handleAll, Runs.end_iff_along (I := fun t : Tally σ => t.answered.Nodup)
        (fun _ msg hafter => nodup_of_handle msg hafter) hnodup']
      exact Runs.along_iff_of_invariant (J := Tracks) (I := fun t : Tally σ => t.answered.Nodup)
        (fun _ msg ht => Tracks.handle ht msg) (fun _ msg ht hs => ht.handle_nodup_iff msg hs)
        (h.enter env) hnodup'
  | rebind newFd now => exact iff_of_true List.nodup_nil trivial
  | _ => exact iff_of_true hnodup trivial

/-- With a peer that only answers PINGs, the counted PONGs answer different
PINGs exactly if no PING has been counted twice. -/
theorem Tracks.countedOnce_iff (h : t.Tracks) (hanswering : t.connection.Answering) :
    t.CountedOnce ↔ t.answered.Nodup := by
  constructor
  · intro honce
    rw [List.nodup_iff_count_le_one]
    intro key
    by_cases hkey : key ∈ t.answered
    · obtain ⟨⟨msg, now⟩, hpong, rfl⟩ := List.mem_map.mp hkey
      have hmem := h.handled.subset (List.mem_map_of_mem (f := Prod.fst) hpong)
      obtain ⟨hhandled, htype⟩ := List.mem_filter.mp hmem
      have htype' : MessageType.ofByte msg.type = some .kPong := by simpa using htype
      obtain ⟨ping, hping, hpinged, hecho⟩ :=
        hanswering msg hhandled (MessageType.eq_toByte htype')
      have hsame : pingOf msg = pingOf ping :=
        Prod.ext hecho.sequence_eq hecho.timestamp_eq
      show t.answered.count (pingOf msg) ≤ 1
      rw [hsame]
      exact honce ping hping hpinged
    · rw [List.count_eq_zero_of_not_mem hkey]
      exact Nat.zero_le 1
  · intro hnodup ping _ _
    exact List.nodup_iff_count_le_one.mp hnodup _

/-- After the call, every PONG handled since the last `rebind` echoes a PING
sent since then. -/
def AnswersPings (t : Tally σ) (call : Call σ) : Prop :=
  (t.call call).connection.Answering

/-- **No PING is counted twice** exactly if the ring is large enough.  With a
peer that only answers PINGs: the account is right in every state, and in every
state each PING has been counted at most once, if and only if every timely
repeat of a counted PONG is still among the last 32 remembered when it
arrives. -/
theorem pings_counted_once_iff (c : Connection σ) (hfresh : Fresh c) (calls : List (Call σ))
    (hanswers : Runs.Along Tally.call AnswersPings (start c) calls) :
    Runs.Along Tally.call (fun t call => (t.call call).Tracks) (start c) calls ∧
      (Runs.Along Tally.call (fun t call => (t.call call).CountedOnce) (start c) calls ↔
        Runs.Along Tally.call RepeatsRecent (start c) calls) := by
  have htracks : Runs.Along Tally.call (fun t call => (t.call call).Tracks) (start c) calls :=
    Runs.along_of_invariant (fun _ call h _ => Tracks.call h call)
      (fun _ call h _ => Tracks.call h call) (tracks_fresh hfresh) hanswers
  refine ⟨htracks, ?_⟩
  calc Runs.Along Tally.call (fun t call => (t.call call).CountedOnce) (start c) calls
      ↔ Runs.Along Tally.call (fun t call => (t.call call).answered.Nodup) (start c) calls :=
        Runs.along_congr (fun _ _ h => h.1.countedOnce_iff h.2) (Runs.along_and htracks hanswers)
    _ ↔ Runs.Along Tally.call RepeatsRecent (start c) calls :=
        Runs.along_iff_of_invariant (J := Tracks) (I := fun t : Tally σ => t.answered.Nodup)
          (fun _ call h => Tracks.call h call)
          (fun _ call h hnodup => h.call_nodup_iff call hnodup) (tracks_fresh hfresh)
          List.nodup_nil

/-! ## What counts as evidence -/

/-- A PONG that makes the connection look healthier came to an established
initiator, with a sequence that is not among the last 32 remembered and a
timestamp less than the timeout back. -/
def ProvenFresh (cfg : Config) (now : Int) (t : Tally σ) (msg : HeartbeatMessage) : Prop :=
  MessageType.ofByte msg.type = some .kPong → Heartens cfg now t.connection msg →
    t.connection.Arrives msg ∧ msg.sequence ∉ t.recent ∧
      0 ≤ rttNs msg now ∧ rttNs msg now < cfg.timeoutNs

theorem Tracks.provenFresh (h : t.Tracks) (msg : HeartbeatMessage) :
    ProvenFresh cfg now t msg := by
  intro hpong hheartens
  have haccepts := hheartens.accepts hpong
  refine ⟨(remembers_iff.mp haccepts.remembers).1, fun hrecent => ?_, haccepts.timely⟩
  have hunseen := haccepts.unseen
  exact absurd (hunseen.symm.trans ((h.seen_iff msg.sequence).mpr hrecent)) nofun

/-- **Only fresh PONGs count as evidence.**  In every state a new connection
can reach, for everything a read can bring: each PONG that is counted, renews
the liveness, clears the misses or ends `kDegraded` passes the checks on its
state, its sequence and its timestamp.  Since the last `rebind` no more PONGs
have been counted than handled. -/
theorem evidence_is_fresh (c : Connection σ) (hfresh : Fresh c) (calls : List (Call σ)) :
    (∀ (env : Env σ) (cfg : Config) (recvs : List RecvOutcome) (now : Int),
      Runs.Along (handle cfg now) (ProvenFresh cfg now)
        ((calls.foldl Tally.call (start c)).enter env)
        (((calls.foldl Tally.call (start c)).connection.withEnv env).readMessages cfg recvs now)) ∧
      (calls.foldl Tally.call (start c)).connection.stats.heartbeatsAcked ≤
        (calls.foldl Tally.call (start c)).acked +
          ((calls.foldl Tally.call (start c)).connection.trace.handled.filter fun msg =>
            MessageType.ofByte msg.type = some .kPong).length := by
  have htracks : (calls.foldl Tally.call (start c)).Tracks :=
    List.foldlRecOn calls Tally.call (tracks_fresh hfresh) fun _ h call _ => Tracks.call h call
  generalize calls.foldl Tally.call (start c) = t at htracks ⊢
  constructor
  · intro env cfg recvs now
    exact Runs.along_of_kept (I := Tracks) (fun _ msg h => Tracks.handle h msg)
      (fun _ msg h => h.provenFresh msg) (htracks.enter env) _
  · have hle := htracks.handled.length_le
    rw [List.length_map] at hle
    have hacked := htracks.acked
    omega

/-! ### A ring that is too small -/

/-- A new attempt on feed 7. -/
def newAttempt : Connection Unit :=
  create 5 .kInitiator 7 "127.0.0.1" 9000 none ⟨[], fun _ => 0, ()⟩ 0

/-- A call with PINGs due every 10 ms, during which `send()` takes everything. -/
def unhindered (op : ConnOp) : Call Unit :=
  ⟨{ heartbeatInterval := 10 }, ⟨[.sent 28], fun _ => 0, ()⟩, op⟩

/-- The PONG for the `i`-th of PINGs sent every 10 ms from 0 on. -/
def pong (i : Nat) : HeartbeatMessage where
  type := MessageType.kPong.toByte
  feedId := 7
  sequence := BitVec.ofNat 64 i
  timestampNs := BitVec.ofNat 64 (i * 10000000)

/-- `connect()` completes, and the CONNECT_ACK arrives. -/
def opened : List (Call Unit) :=
  [unhindered (.onWritable 0 0), unhindered (.onReadable [.data (frameChunk
    { type := MessageType.kConnectAck.toByte, feedId := 7 })] 0)]

/-- `n` PINGs are sent, one every 10 ms. -/
def pings (n : Nat) : List (Call Unit) :=
  (List.range n).map fun i => unhindered (.sendPing (i * 10000000))

/-- The answers to 33 PINGs, and the first of them again. -/
def crowdedPongs : List HeartbeatMessage :=
  (List.range 33).map pong ++ [pong 0]

def crowdedChunk : RecvChunk :=
  ⟨crowdedPongs.flatMap fun msg => (encodeHeartbeat msg).bytes, by decide +kernel⟩

/-- They arrive together, 400 ms after the first PING. -/
def crowded : Call Unit :=
  unhindered (.onReadable [.data crowdedChunk] 400000000)

theorem crowded_read (c : Connection Unit) (hempty : c.readAccum = [])
    (hlive : (c.dispatchAll crowded.cfg 400000000 (crowdedPongs.map (·.stamped))).state ≠ .kFailed) :
    c.onReadable crowded.cfg [.data crowdedChunk] 400000000 =
      (c.dispatchAll crowded.cfg 400000000 (crowdedPongs.map (·.stamped))).withRead [] := by
  refine onReadable_encoded _ _ crowdedPongs ?_ c crowdedChunk rfl hempty hlive
  intro msg hmsg
  have hpong : ∃ i, msg = pong i := by
    rcases List.mem_append.mp hmsg with hm | hm
    · obtain ⟨i, _, rfl⟩ := List.mem_map.mp hm
      exact ⟨i, rfl⟩
    · exact ⟨0, List.mem_singleton.mp hm⟩
  obtain ⟨i, rfl⟩ := hpong
  exact ⟨rfl, rfl, isKnownMessageType_toByte .kPong⟩

/-- The state in which they arrive. -/
def crowdedTally : Tally Unit :=
  (opened ++ pings 33).foldl Tally.call (start newAttempt)

/-- The connection as they find it. -/
def crowdedConnection : Connection Unit :=
  crowdedTally.connection.withEnv crowded.env

/-- What the kernel computes about the run: the PONGs find an empty buffer and
fail nothing, they echo PINGs, and the first PING is counted twice. -/
theorem crowded_run :
    crowdedConnection.readAccum = [] ∧
      (crowdedConnection.dispatchAll crowded.cfg 400000000
        (crowdedPongs.map (·.stamped))).state ≠ .kFailed ∧
      ((crowdedConnection.dispatchAll crowded.cfg 400000000
        (crowdedPongs.map (·.stamped))).withRead []).Answering ∧
      ∃ ping ∈ (crowdedConnection.dispatchAll crowded.cfg 400000000
          (crowdedPongs.map (·.stamped))).trace.queued,
        ping.type = MessageType.kPing.toByte ∧
          ((crowdedTally.enter crowded.env).handleAll crowded.cfg 400000000
            (crowdedPongs.map (·.stamped))).answered.count (pingOf ping) = 2 := by
  decide +kernel

theorem crowded_call :
    crowdedTally.call crowded =
      { (crowdedTally.enter crowded.env).handleAll crowded.cfg 400000000
          (crowdedPongs.map (·.stamped)) with
        connection := (crowdedConnection.dispatchAll crowded.cfg 400000000
          (crowdedPongs.map (·.stamped))).withRead [] } := by
  exact call_read crowdedTally (crowded_read crowdedConnection crowded_run.1 crowded_run.2.1)

/-- While PINGs are sent and nothing is read, no PONG is handled. -/
theorem answersPings_sending {t : Tally σ} {calls : List (Call σ)}
    (hnone : ∀ msg ∈ t.connection.trace.handled, msg.type ≠ MessageType.kPong.toByte)
    (hpings : ∀ call ∈ calls, ∃ now, call.op = .sendPing now) :
    Runs.Along Tally.call AnswersPings t calls := by
  have hkept : ∀ (t : Tally σ) (call : Call σ), (∃ now, call.op = .sendPing now) →
      (t.call call).connection.trace.handled = t.connection.trace.handled := by
    rintro t ⟨cfg, env, _⟩ ⟨now, rfl⟩
    exact handled_of_core (sendPing_core (t.connection.withEnv env) now)
  have hsent : Runs.Along Tally.call (fun _ call => ∃ now, call.op = .sendPing now) t calls :=
    Runs.along_of_mem t fun call hcall _ => hpings call hcall
  refine Runs.along_of_invariant
    (I := fun t => ∀ msg ∈ t.connection.trace.handled, msg.type ≠ MessageType.kPong.toByte)
    ?_ ?_ hnone hsent
  · intro t call hnone hping
    rwa [hkept t call hping]
  · intro t call hnone hping msg hmsg htype
    rw [hkept t call hping] at hmsg
    exact absurd htype (hnone msg hmsg)

/-- The peer only answers PINGs. -/
theorem crowded_answers :
    Runs.Along Tally.call AnswersPings (start newAttempt) ((opened ++ pings 33) ++ [crowded]) := by
  have hopened : ∀ msg ∈ (opened.foldl Tally.call (start newAttempt)).connection.trace.handled,
      msg.type ≠ MessageType.kPong.toByte := by decide +kernel
  refine Runs.along_append.mpr
    ⟨Runs.along_append.mpr ⟨?_, answersPings_sending hopened ?_⟩, ?_, trivial⟩
  · unfold AnswersPings
    decide +kernel
  · intro call hcall
    obtain ⟨i, _, rfl⟩ := List.mem_map.mp hcall
    exact ⟨_, rfl⟩
  · show (crowdedTally.call crowded).connection.Answering
    rw [crowded_call]
    exact crowded_run.2.2.1

/-- The 32 answers in between push the first out of the ring, and its repeat is
counted again. -/
theorem ping_counted_twice :
    ¬ ∀ (c : Connection Unit) (calls : List (Call Unit)), Fresh c → c.role = .kInitiator →
      Runs.Along Tally.call AnswersPings (start c) calls →
        Runs.Along Tally.call (fun t call => (t.call call).CountedOnce) (start c) calls := by
  intro hall
  have hrun := hall newAttempt ((opened ++ pings 33) ++ [crowded]) ⟨_, _, _, _, _, _, _, _, rfl⟩ rfl
    crowded_answers
  have honce : (crowdedTally.call crowded).CountedOnce := (Runs.along_append.mp hrun).2.1
  rw [crowded_call, countedOnce_of_connection, withRead_trace] at honce
  obtain ⟨ping, hmem, htype, htwice⟩ := crowded_run.2.2.2
  have hle := honce ping hmem htype
  omega

/-- One PING, answered twice in a row. -/
def repeated : Call Unit :=
  unhindered (.onReadable [.data ⟨(encodeHeartbeat (pong 0)).bytes ++
    (encodeHeartbeat (pong 0)).bytes, by decide +kernel⟩] 400000000)

theorem pings_counted_once_repeated :
    Runs.Along Tally.call (fun t call => (t.call call).CountedOnce) (start newAttempt)
      ((opened ++ pings 1) ++ [repeated]) := by
  refine (pings_counted_once_iff newAttempt ⟨_, _, _, _, _, _, _, _, rfl⟩
    ((opened ++ pings 1) ++ [repeated]) ?_).2.mpr ?_
  · unfold AnswersPings
    decide +kernel
  · decide +kernel

/-! ### A PONG for nothing -/

/-- The peer makes up a PONG. -/
def forged : Call Unit :=
  unhindered (.onReadable [.data ⟨(encodeHeartbeat (pong 0)).bytes, by decide +kernel⟩] 400000000)

theorem evidence_is_fresh_forged :
    ((opened ++ [forged]).foldl Tally.call (start newAttempt)).connection.stats.heartbeatsAcked ≤
      ((opened ++ [forged]).foldl Tally.call (start newAttempt)).acked +
        (((opened ++ [forged]).foldl Tally.call
          (start newAttempt)).connection.trace.handled.filter fun msg =>
            MessageType.ofByte msg.type = some .kPong).length :=
  (evidence_is_fresh newAttempt ⟨_, _, _, _, _, _, _, _, rfl⟩ (opened ++ [forged])).2

/-- It is counted although no PING was sent. -/
theorem forged_pong_counted :
    ¬ ∀ (c : Connection Unit) (calls : List (Call Unit)), Fresh c → c.role = .kInitiator →
      (calls.foldl Tally.call (start c)).counted.length ≤
        ((calls.foldl Tally.call (start c)).connection.trace.queued.filter fun msg =>
          msg.type = MessageType.kPing.toByte).length := by
  intro hall
  have hforged := hall newAttempt (opened ++ [forged]) ⟨_, _, _, _, _, _, _, _, rfl⟩ rfl
  revert hforged
  decide +kernel

end Tally

end Vigil
