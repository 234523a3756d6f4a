import Vigil.Chunking
import Vigil.CountedPongs
import Vigil.Deferrals
import Vigil.Stamps

/-!
# Undefined behaviour on the receive path

Signed overflow and accesses outside an array are undefined in C++.  The
functions named `…Ops` list, in order, what `on_readable` and everything it
calls do of this kind to 64-bit numbers, to `read_accum_` and to the two rings.
Readings of the clock are taken as the 64-bit numbers they are.

No access is ever out of range, whatever the bytes.  The arithmetic is another
matter: `receive_defined_iff` says for which PONGs it overflows.
-/

namespace Vigil

open ByteOrder

/-- A step that is undefined for some operands. -/
inductive Primitive where
  /-- Signed arithmetic with this mathematical result. -/
  | signed (result : Int)
  /-- An unsigned difference, taken not to wrap around. -/
  | difference (minuend subtrahend : Nat)
  /-- An element of an array. -/
  | access (index size : Nat)
  /-- The elements of a vector from `first` up to `last`. -/
  | span (first last size : Nat)

/-- The accesses are in range, and signed results satisfy `fits`. -/
def Primitive.DefinedIf (fits : Int → Prop) : Primitive → Prop
  | .signed result => fits result
  | .difference minuend subtrahend => subtrahend ≤ minuend
  | .access index size => index < size
  | .span first last size => first ≤ last ∧ last ≤ size

instance (fits : Int → Prop) [DecidablePred fits] :
    DecidablePred (Primitive.DefinedIf fits)
  | .signed result => inferInstanceAs (Decidable (fits result))
  | .difference minuend subtrahend => inferInstanceAs (Decidable (subtrahend ≤ minuend))
  | .access index size => inferInstanceAs (Decidable (index < size))
  | .span first last size => inferInstanceAs (Decidable (first ≤ last ∧ last ≤ size))

/-- The step has defined behaviour. -/
abbrev Primitive.Defined : Primitive → Prop :=
  Primitive.DefinedIf IsInt64

/-- The step stays inside its array. -/
abbrev Primitive.InRange : Primitive → Prop :=
  Primitive.DefinedIf fun _ => True

/-- `data_[next_] = value`. -/
def pushOps {α : Type} {n : Nat} (ring : RingBuffer α n) : List Primitive :=
  [.access ring.next n]

/-- The loop of `has_acked_sequence` from entry `i` on, with `left` entries to
go. -/
def scanOps (ring : RingBuffer (BitVec 64) kAckedSequenceWindow) (sequence : BitVec 64) :
    Nat → Nat → List Primitive
  | 0, _ => []
  | left + 1, i =>
      .access i kAckedSequenceWindow ::
        if ring.data[i]? = some sequence then [] else scanOps ring sequence left (i + 1)

/-- The signed results of an interceptor's own arithmetic, by its arguments
and what it has captured. -/
abbrev InterceptorSums (σ : Type) := BitVec 64 → BitVec 64 → σ → List Int

namespace Connection

variable {σ : Type}

/-! ## What the functions do -/

def handlePongOps (cfg : Config) (c : Connection σ) (msg : HeartbeatMessage) (now : Int) :
    List Primitive :=
  if c.role ≠ .kInitiator ∨ (c.state ≠ .kHealthy ∧ c.state ≠ .kDegraded) then []
  else
    scanOps c.ackedSequences msg.sequence c.ackedSequences.count 0 ++
      if c.hasAckedSequence msg.sequence then []
      else
        pushOps c.ackedSequences ++ [.signed (rttNs msg now), .signed cfg.timeoutNs] ++
          if rttNs msg now ≥ cfg.timeoutNs ∨ rttNs msg now < 0 then []
          else pushOps c.stats.rttSamplesNs

def handlePingOps (sums : InterceptorSums σ) (c : Connection σ) (msg : HeartbeatMessage) :
    List Primitive :=
  if c.role ≠ .kResponder ∨ c.state ≠ .kHealthy then []
  else if c.pingInterceptor.isSome then
    (sums msg.sequence msg.timestampNs c.env.captured).map .signed
  else []

/-- The other handlers compute nothing. -/
def handleMessageOps (sums : InterceptorSums σ) (cfg : Config) (c : Connection σ)
    (msg : HeartbeatMessage) (now : Int) : List Primitive :=
  match MessageType.ofByte msg.type with
  | some .kPing => c.handlePingOps sums msg
  | some .kPong => c.handlePongOps cfg msg now
  | _ => []

/-- The end of `drain_read_buffer`. -/
def eraseOps (offset : Nat) (c : Connection σ) : List Primitive :=
  if offset > 0 then [.span 0 offset c.readAccum.length] else []

/-- The loop of `drain_read_buffer`, turn by turn as in `drainLoop`. -/
def drainOps (sums : InterceptorSums σ) (cfg : Config) (now : Int) :
    Nat → Nat → Connection σ → List Primitive
  | 0, offset, c => .difference c.readAccum.length offset :: eraseOps offset c
  | turns + 1, offset, c =>
      .difference c.readAccum.length offset ::
        if h : kHeartbeatMessageSize ≤ c.readAccum.length - offset then
          .span offset (offset + kHeartbeatMessageSize) c.readAccum.length ::
            let decoded := decodeHeartbeat (frameAt c.readAccum offset h) {}
            if decoded.1 then
              let handled := c.dispatch cfg decoded.2 now
              c.handleMessageOps sums cfg decoded.2 now ++
                if handled.state = .kFailed then []
                else drainOps sums cfg now turns (offset + kHeartbeatMessageSize) handled
            else []
        else eraseOps offset c

def onReadableOps (sums : InterceptorSums σ) (cfg : Config) (c : Connection σ)
    (recvs : List RecvOutcome) (now : Int) : List Primitive :=
  match recvLoop now recvs c with
  | (_, none) => []
  | (received, some _) => received.drainOps sums cfg now received.readAccum.length 0

/-! ## When they are defined -/

/-- The interceptor is asked about the message. -/
def Asks (c : Connection σ) (msg : HeartbeatMessage) : Prop :=
  MessageType.ofByte msg.type = some .kPing ∧ c.role = .kResponder ∧ c.state = .kHealthy ∧
    c.pingInterceptor.isSome

instance (c : Connection σ) (msg : HeartbeatMessage) : Decidable (Asks c msg) :=
  inferInstanceAs (Decidable (_ ∧ _))

/-- The arithmetic on a message fits: of a PONG that is not remembered yet,
and of a PING about which the interceptor is asked. -/
def MessageFits (fits : Int → Prop) (sums : InterceptorSums σ) (cfg : Config) (now : Int)
    (c : Connection σ) (msg : HeartbeatMessage) : Prop :=
  (Remembers c msg → fits (rttNs msg now) ∧ fits cfg.timeoutNs) ∧
    (Asks c msg → ∀ r ∈ sums msg.sequence msg.timestampNs c.env.captured, fits r)

/-- The messages at the front of a buffer, up to the first frame that does not
decode. -/
def decodedMessages : Nat → List Byte → List HeartbeatMessage
  | 0, _ => []
  | turns + 1, buf =>
      match decodedFrame (buf.take kHeartbeatMessageSize) with
      | some msg => msg :: decodedMessages turns (buf.drop kHeartbeatMessageSize)
      | none => []

/-- All operations are defined if the signed results satisfy `fits`. -/
def AllDefinedIf (fits : Int → Prop) (ops : List Primitive) : Prop :=
  ∀ op ∈ ops, op.DefinedIf fits

variable {fits : Int → Prop}

theorem allDefinedIf_cons {op : Primitive} {ops : List Primitive} :
    AllDefinedIf fits (op :: ops) ↔ op.DefinedIf fits ∧ AllDefinedIf fits ops :=
  List.forall_mem_cons

theorem allDefinedIf_append {ops ops' : List Primitive} :
    AllDefinedIf fits (ops ++ ops') ↔ AllDefinedIf fits ops ∧ AllDefinedIf fits ops' :=
  List.forall_mem_append

theorem pushOps_defined {α : Type} {n : Nat} (ring : RingBuffer α n) :
    AllDefinedIf fits (pushOps ring) := by
  rintro op hop
  rw [List.mem_singleton.mp hop]
  exact ring.next_lt

theorem scanOps_defined (ring : RingBuffer (BitVec 64) kAckedSequenceWindow)
    (sequence : BitVec 64) (left i : Nat) (h : i + left ≤ kAckedSequenceWindow) :
    AllDefinedIf fits (scanOps ring sequence left i) := by
  induction left generalizing i with
  | zero => exact nofun
  | succ left ih =>
      have hin : (Primitive.access i kAckedSequenceWindow).DefinedIf fits :=
        show i < kAckedSequenceWindow by omega
      refine allDefinedIf_cons.mpr ⟨hin, ?_⟩
      split
      · exact nofun
      · exact ih (i + 1) (by omega)

theorem handlePongOps_defined (cfg : Config) (c : Connection σ) (msg : HeartbeatMessage)
    (now : Int) (hpong : MessageType.ofByte msg.type = some .kPong) :
    AllDefinedIf fits (c.handlePongOps cfg msg now) ↔
      (Remembers c msg → fits (rttNs msg now) ∧ fits cfg.timeoutNs) := by
  have hscan : AllDefinedIf fits
      (scanOps c.ackedSequences msg.sequence c.ackedSequences.count 0) :=
    scanOps_defined c.ackedSequences msg.sequence c.ackedSequences.count 0
      (by rw [Nat.zero_add]; exact c.ackedSequences.count_le)
  unfold handlePongOps
  by_cases hguard : c.role ≠ .kInitiator ∨ (c.state ≠ .kHealthy ∧ c.state ≠ .kDegraded)
  · rw [if_pos hguard]
    refine iff_of_true nofun fun h => ?_
    rcases hguard with hrole | hs
    · exact absurd h.role hrole
    · exact absurd h.established (not_or.mpr hs)
  · rw [if_neg hguard, allDefinedIf_append]
    by_cases hseen : c.hasAckedSequence msg.sequence = true
    · rw [if_pos hseen]
      refine iff_of_true ⟨hscan, nofun⟩ fun h => ?_
      exact absurd (hseen.symm.trans h.unseen) nofun
    · rw [if_neg hseen, allDefinedIf_append, allDefinedIf_append]
      have hlast : AllDefinedIf fits
          (if rttNs msg now ≥ cfg.timeoutNs ∨ rttNs msg now < 0 then []
            else pushOps c.stats.rttSamplesNs) := by
        split
        · exact nofun
        · exact pushOps_defined c.stats.rttSamplesNs
      obtain ⟨hrole, hs⟩ := not_or.mp hguard
      have hremembers : Remembers c msg :=
        ⟨hpong, not_not.mp hrole, (not_and_or.mp hs).imp not_not.mp not_not.mp,
          eq_false_of_ne_true hseen⟩
      constructor
      · rintro ⟨_, ⟨_, harith⟩, _⟩ _
        exact ⟨harith _ List.mem_cons_self, harith _ (List.mem_cons_of_mem _ List.mem_cons_self)⟩
      · intro h
        obtain ⟨hrtt, htimeout⟩ := h hremembers
        refine ⟨hscan, ⟨pushOps_defined c.ackedSequences, ?_⟩, hlast⟩
        exact allDefinedIf_cons.mpr ⟨hrtt, allDefinedIf_cons.mpr ⟨htimeout, nofun⟩⟩

theorem handlePingOps_defined (sums : InterceptorSums σ) (c : Connection σ)
    (msg : HeartbeatMessage) (hping : MessageType.ofByte msg.type = some .kPing) :
    AllDefinedIf fits (c.handlePingOps sums msg) ↔
      (Asks c msg → ∀ r ∈ sums msg.sequence msg.timestampNs c.env.captured, fits r) := by
  unfold handlePingOps
  by_cases hguard : c.role ≠ .kResponder ∨ c.state ≠ .kHealthy
  · rw [if_pos hguard]
    refine iff_of_true nofun fun h => ?_
    obtain ⟨_, hrole, hs, _⟩ := h
    exact absurd hguard (not_or.mpr ⟨not_not.mpr hrole, not_not.mpr hs⟩)
  · obtain ⟨hrole, hs⟩ := not_or.mp hguard
    rw [if_neg hguard]
    by_cases hset : c.pingInterceptor.isSome = true
    · have hasks : Asks c msg := ⟨hping, not_not.mp hrole, not_not.mp hs, hset⟩
      rw [if_pos hset]
      constructor
      · exact fun h _ r hr => h (.signed r) (List.mem_map_of_mem hr)
      · intro h op hop
        obtain ⟨r, hr, rfl⟩ := List.mem_map.mp hop
        exact h hasks r hr
    · rw [if_neg hset]
      exact iff_of_true nofun fun h => absurd h.2.2.2 hset

theorem handleMessageOps_defined (sums : InterceptorSums σ) (cfg : Config) (c : Connection σ)
    (msg : HeartbeatMessage) (now : Int) :
    AllDefinedIf fits (c.handleMessageOps sums cfg msg now) ↔
      MessageFits fits sums cfg now c msg := by
  have hpong : MessageType.ofByte msg.type ≠ some .kPong → ¬ Remembers c msg :=
    fun hne h => hne h.type
  have hping : MessageType.ofByte msg.type ≠ some .kPing → ¬ Asks c msg := fun hne h => hne h.1
  have hidle : MessageType.ofByte msg.type ≠ some .kPong →
      MessageType.ofByte msg.type ≠ some .kPing →
        (AllDefinedIf fits [] ↔ MessageFits fits sums cfg now c msg) :=
    fun hne hne' => iff_of_true nofun
      ⟨fun h => absurd h (hpong hne), fun h => absurd h (hping hne')⟩
  unfold handleMessageOps
  cases ht : MessageType.ofByte msg.type with
  | none =>
      rw [ht] at hidle
      exact hidle nofun nofun
  | some type =>
      rw [ht] at hpong hping hidle
      cases type with
      | kPing =>
          rw [handlePingOps_defined sums c msg ht]
          exact (and_iff_right fun h => absurd h (hpong nofun)).symm
      | kPong =>
          rw [handlePongOps_defined cfg c msg now ht]
          exact (and_iff_left fun h => absurd h (hping nofun)).symm
      | _ => exact hidle nofun nofun

theorem messageFits_failed (sums : InterceptorSums σ) (cfg : Config) (now : Int)
    {c : Connection σ} (hfailed : c.state = .kFailed) (msg : HeartbeatMessage) :
    MessageFits fits sums cfg now c msg := by
  constructor
  · intro h
    rcases h.established with hs | hs
    · exact absurd (hfailed.symm.trans hs) nofun
    · exact absurd (hfailed.symm.trans hs) nofun
  · exact fun h => absurd (hfailed.symm.trans h.2.2.1) nofun

/-- A failed connection computes nothing. -/
theorem fits_failed (sums : InterceptorSums σ) (cfg : Config) (now : Int) {c : Connection σ}
    (hfailed : c.state = .kFailed) (msgs : List HeartbeatMessage) :
    Runs.Along (fun c msg => c.dispatch cfg msg now) (MessageFits fits sums cfg now) c msgs :=
  Runs.along_of_kept (I := fun d => d.state = .kFailed)
    (fun d msg hd => handleMessage_stays_failed cfg (d.noteHandled msg) msg now hd)
    (fun _ msg hd => messageFits_failed sums cfg now hd msg) hfailed msgs

theorem eraseOps_defined (offset : Nat) (c : Connection σ) (h : offset ≤ c.readAccum.length) :
    AllDefinedIf fits (eraseOps offset c) := by
  unfold eraseOps
  split
  · exact allDefinedIf_cons.mpr ⟨⟨Nat.zero_le offset, h⟩, nofun⟩
  · exact nofun

/-- **The drain loop** stays inside the buffer, and its arithmetic is that on
the messages. -/
theorem drainOps_defined (sums : InterceptorSums σ) (cfg : Config) (now : Int)
    (turns offset : Nat) (c : Connection σ) (hoffset : offset ≤ c.readAccum.length) :
    AllDefinedIf fits (drainOps sums cfg now turns offset c) ↔
      Runs.Along (fun c msg => c.dispatch cfg msg now) (MessageFits fits sums cfg now) c
        (decodedMessages turns (c.readAccum.drop offset)) := by
  have hdifference : (Primitive.difference c.readAccum.length offset).DefinedIf fits := hoffset
  induction turns generalizing offset c with
  | zero =>
      exact iff_of_true (allDefinedIf_cons.mpr ⟨hdifference, eraseOps_defined offset c hoffset⟩)
        trivial
  | succ turns ih =>
      unfold drainOps
      rw [allDefinedIf_cons, and_iff_right hdifference]
      by_cases hlen : kHeartbeatMessageSize ≤ c.readAccum.length - offset
      · have hspan : (Primitive.span offset (offset + kHeartbeatMessageSize)
            c.readAccum.length).DefinedIf fits := ⟨by omega, by omega⟩
        have hframe : decodedFrame ((c.readAccum.drop offset).take kHeartbeatMessageSize) =
            if (decodeHeartbeat (frameAt c.readAccum offset hlen) {}).1 then
              some (decodeHeartbeat (frameAt c.readAccum offset hlen) {}).2 else none :=
          dif_pos (frameAt c.readAccum offset hlen).length_eq
        rw [dif_pos hlen, allDefinedIf_cons, and_iff_right hspan, decodedMessages, hframe]
        dsimp only
        by_cases hdecodes : (decodeHeartbeat (frameAt c.readAccum offset hlen) {}).1 = true
        · rw [if_pos hdecodes, if_pos hdecodes, allDefinedIf_append, handleMessageOps_defined]
          refine and_congr Iff.rfl ?_
          generalize (decodeHeartbeat (frameAt c.readAccum offset hlen) {}).2 = msg
          have hsame := dispatch_readAccum cfg c msg now
          by_cases hfailed : (c.dispatch cfg msg now).state = .kFailed
          · rw [if_pos hfailed]
            exact iff_of_true nofun (fits_failed sums cfg now hfailed _)
          · rw [if_neg hfailed, List.drop_drop]
            have hnext := ih (offset + kHeartbeatMessageSize) (c.dispatch cfg msg now)
              (by rw [hsame]; omega) (by rw [hsame]; exact hspan.2)
            rwa [hsame] at hnext
        · rw [if_neg hdecodes, if_neg hdecodes]
          exact iff_of_true nofun trivial
      · have hshort : decodedFrame ((c.readAccum.drop offset).take kHeartbeatMessageSize) = none :=
          dif_neg (by rw [List.length_take, List.length_drop]; omega)
        rw [dif_neg hlen, decodedMessages, hshort]
        exact iff_of_true (eraseOps_defined offset c hoffset) trivial

/-! ## Whole reads -/

/-- All messages at the front of a buffer. -/
def messagesIn (buf : List Byte) : List HeartbeatMessage :=
  decodedMessages buf.length buf

theorem messageFits_withRead (sums : InterceptorSums σ) (cfg : Config) (now : Int)
    (c : Connection σ) (buf : List Byte) (msg : HeartbeatMessage) :
    MessageFits fits sums cfg now (c.withRead buf) msg ↔ MessageFits fits sums cfg now c msg := by
  refine and_congr (imp_congr ?_ Iff.rfl) Iff.rfl
  exact ⟨fun ⟨ht, hr, hs, hseen⟩ => ⟨ht, hr, hs, hseen⟩,
    fun ⟨ht, hr, hs, hseen⟩ => ⟨ht, hr, hs, hseen⟩⟩

theorem fits_withRead (sums : InterceptorSums σ) (cfg : Config) (now : Int) (c : Connection σ)
    (buf : List Byte) (msgs : List HeartbeatMessage) :
    Runs.Along (fun c msg => c.dispatch cfg msg now) (MessageFits fits sums cfg now)
        (c.withRead buf) msgs ↔
      Runs.Along (fun c msg => c.dispatch cfg msg now) (MessageFits fits sums cfg now) c msgs := by
  induction msgs generalizing c with
  | nil => exact Iff.rfl
  | cons msg msgs ih =>
      refine and_congr (messageFits_withRead sums cfg now c buf msg) ?_
      dsimp only
      rw [dispatch_withRead]
      exact ih (c.dispatch cfg msg now)

theorem onReadableOps_defined (sums : InterceptorSums σ) (cfg : Config) (now : Int)
    (c : Connection σ) (recvs : List RecvOutcome)
    (hread : c.readAccum.length ≤ kMaxReadAccumBytes ∨ c.state = .kFailed) :
    AllDefinedIf fits (c.onReadableOps sums cfg recvs now) ↔
      ((c.readAccum ++ recvBytes recvs).length ≤ kMaxReadAccumBytes →
        Runs.Along (fun c msg => c.dispatch cfg msg now) (MessageFits fits sums cfg now) c
          (messagesIn (c.readAccum ++ recvBytes recvs))) := by
  unfold onReadableOps
  rcases recvLoop_eq now recvs c with ⟨hle, heq⟩ | ⟨buf, hover, hpre, heq⟩
  · rw [heq]
    dsimp only
    rw [drainOps_defined sums cfg now _ 0 _ (Nat.zero_le _), fits_withRead]
    rcases hread with hsmall | hfailed
    · exact ⟨fun h _ => h, fun h => h (hle hsmall)⟩
    · exact iff_of_true (fits_failed sums cfg now hfailed _)
        fun _ => fits_failed sums cfg now hfailed _
  · rw [heq]
    refine iff_of_true nofun fun hwithin => ?_
    have hlonger := hpre.length_le
    omega

theorem isInt64_rttNs {now : Int} (hnow : 0 ≤ now ∧ now < 2 ^ 63) (msg : HeartbeatMessage) :
    IsInt64 (rttNs msg now) ↔ now < msg.timestampNs.toInt + 2 ^ 63 := by
  have hupper : msg.timestampNs.toInt < 2 ^ 63 := BitVec.toInt_lt
  unfold IsInt64 rttNs
  omega

/-- The arithmetic on a message does not overflow: a PONG that is not
remembered yet is stamped less than 2^63 ns back, with a timeout that fits, and
so are the interceptor's own results. -/
structure Harmless (sums : InterceptorSums σ) (cfg : Config) (now : Int) (c : Connection σ)
    (msg : HeartbeatMessage) : Prop where
  pong : Remembers c msg → now < msg.timestampNs.toInt + 2 ^ 63 ∧
    -9223372036854 ≤ cfg.heartbeatTimeout ∧ cfg.heartbeatTimeout ≤ 9223372036854
  ping : Asks c msg → ∀ r ∈ sums msg.sequence msg.timestampNs c.env.captured, IsInt64 r

instance (sums : InterceptorSums σ) (cfg : Config) (now : Int) (c : Connection σ)
    (msg : HeartbeatMessage) : Decidable (Harmless sums cfg now c msg) :=
  decidable_of_iff ((Remembers c msg → now < msg.timestampNs.toInt + 2 ^ 63 ∧
      -9223372036854 ≤ cfg.heartbeatTimeout ∧ cfg.heartbeatTimeout ≤ 9223372036854) ∧
    (Asks c msg → ∀ r ∈ sums msg.sequence msg.timestampNs c.env.captured, IsInt64 r))
    ⟨fun ⟨hpong, hping⟩ => ⟨hpong, hping⟩, fun h => ⟨h.pong, h.ping⟩⟩

theorem messageFits_iff {sums : InterceptorSums σ} {cfg : Config} {now : Int}
    (hnow : 0 ≤ now ∧ now < 2 ^ 63) (c : Connection σ) (msg : HeartbeatMessage) :
    MessageFits IsInt64 sums cfg now c msg ↔ Harmless sums cfg now c msg := by
  have htimeout : IsInt64 cfg.timeoutNs ↔
      -9223372036854 ≤ cfg.heartbeatTimeout ∧ cfg.heartbeatTimeout ≤ 9223372036854 := by
    unfold IsInt64 Config.timeoutNs toNs
    omega
  rw [MessageFits, isInt64_rttNs hnow, htimeout]
  exact ⟨fun ⟨hpong, hping⟩ => ⟨hpong, hping⟩, fun h => ⟨h.pong, h.ping⟩⟩

/-- The state a run of calls has reached, as the next call finds it. -/
def reachedBy (c : Connection σ) (calls : List (Call σ)) (env : Env σ) : Connection σ :=
  (calls.foldl call c).withEnv env

theorem reachedBy_readAccum {c : Connection σ} (hfresh : Fresh c) (calls : List (Call σ))
    (env : Env σ) : (c.reachedBy calls env).readAccum.length ≤ kMaxReadAccumBytes ∨
      (c.reachedBy calls env).state = .kFailed := by
  have hleftover : Leftover (calls.foldl call c) := by
    refine List.foldlRecOn calls call ?_ fun d hd next _ => call_leftover d next hd
    obtain ⟨fd, role, feedId, host, port, interceptor, env, now, rfl⟩ := hfresh.created
    exact fun _ => show 0 < kHeartbeatMessageSize by decide
  by_cases hfailed : (calls.foldl call c).state = .kFailed
  · exact Or.inr hfailed
  · have hshort : (calls.foldl call c).readAccum.length < kHeartbeatMessageSize :=
      hleftover hfailed
    have hsize : kHeartbeatMessageSize ≤ kMaxReadAccumBytes := by decide
    exact Or.inl (by show (calls.foldl call c).readAccum.length ≤ _; omega)

/-- **When a read is defined.**  In every state a new connection can reach, for
every stream, every outcome of `recv()` and every time: no access is out of
range, and no arithmetic overflows if and only if the read exceeds its cap or
every message handled is harmless. -/
theorem receive_defined_iff (sums : InterceptorSums σ) (c : Connection σ) (hfresh : Fresh c)
    (calls : List (Call σ)) (env : Env σ) (cfg : Config) (recvs : List RecvOutcome) (now : Int)
    (hnow : 0 ≤ now ∧ now < 2 ^ 63) :
    (∀ op ∈ (c.reachedBy calls env).onReadableOps sums cfg recvs now, op.InRange) ∧
      ((∀ op ∈ (c.reachedBy calls env).onReadableOps sums cfg recvs now, op.Defined) ↔
        (((c.reachedBy calls env).readAccum ++ recvBytes recvs).length ≤ kMaxReadAccumBytes →
          Runs.Along (fun c msg => c.dispatch cfg msg now) (Harmless sums cfg now)
            (c.reachedBy calls env)
            (messagesIn ((c.reachedBy calls env).readAccum ++ recvBytes recvs)))) := by
  have hread := reachedBy_readAccum hfresh calls env
  generalize c.reachedBy calls env = d at hread ⊢
  constructor
  · refine (onReadableOps_defined sums cfg now d recvs hread).mpr fun _ => ?_
    exact Runs.along_of_mem d fun _ _ _ =>
      ⟨fun _ => ⟨trivial, trivial⟩, fun _ _ _ => trivial⟩
  · refine (onReadableOps_defined sums cfg now d recvs hread).trans (imp_congr_right fun _ => ?_)
    exact ⟨Runs.along_mono fun d msg => (messageFits_iff hnow d msg).mp,
      Runs.along_mono fun d msg => (messageFits_iff hnow d msg).mpr⟩

/-- The call needs no `send()`. -/
def noAnswers : Env Unit := ⟨[], fun _ => 0, ()⟩

/-- The PONG `msg` in one `recv()`. -/
def pongRead (msg : HeartbeatMessage) : List RecvOutcome :=
  [.data (frameChunk msg)]

theorem receive_defined_iff_timely :
    AllDefinedIf IsInt64 ((Tally.newAttempt.reachedBy Tally.opened noAnswers).onReadableOps
      (fun _ _ _ => []) {} (pongRead (Tally.pong 0)) 400000000) :=
  (receive_defined_iff (fun _ _ _ => []) Tally.newAttempt ⟨_, _, _, _, _, _, _, _, rfl⟩
    Tally.opened noAnswers {} (pongRead (Tally.pong 0)) 400000000 (by decide)).2.mpr
      fun _ => by decide +kernel

/-- A PONG stamped as early as a stamp can be. -/
def ancientPong : HeartbeatMessage where
  type := MessageType.kPong.toByte
  feedId := 7
  sequence := 0
  timestampNs := BitVec.ofInt 64 (-2 ^ 63)

/-- No time from 0 on can be compared with it. -/
theorem ancient_pong_overflows :
    ¬ ∀ (c : Connection Unit) (calls : List (Call Unit)) (env : Env Unit) (cfg : Config)
      (recvs : List RecvOutcome) (now : Int), Fresh c → 0 ≤ now ∧ now < 2 ^ 63 →
        ∀ op ∈ (c.reachedBy calls env).onReadableOps (fun _ _ _ => []) cfg recvs now,
          op.Defined := by
  intro hall
  have hread := hall Tally.newAttempt Tally.opened noAnswers {} (pongRead ancientPong) 400000000
    ⟨_, _, _, _, _, _, _, _, rfl⟩ (by decide)
  revert hread
  decide +kernel

end Connection

/-! ## The simulator's interceptor -/

/-- The signed results of `on_ping_intercept`. -/
def onPingInterceptSums : InterceptorSums Desk :=
  fun _ _ desk =>
    let (dropped, flipped) := desk.drops
    if dropped then []
    else if flipped.faults.extraLatency > 0 then
      let (delayNs, drawn) := flipped.delay
      [toNs flipped.faults.extraLatency, delayNs, drawn.clock 0 + delayNs]
    else []

/-- Jitter adds at most half of the latency. -/
theorem delay_bounds (desk : Desk) (hpos : 0 < desk.faults.extraLatency) :
    0 ≤ desk.delay.1 ∧ 2 * desk.delay.1 ≤ 3 * toNs desk.faults.extraLatency := by
  have hns : 0 < toNs desk.faults.extraLatency := Int.mul_pos hpos (by decide)
  unfold Desk.delay
  dsimp only
  split
  · obtain ⟨factor, hlow, hhigh⟩ := desk.factors 0
    dsimp only
    have hns' : (0 : ℚ) < toNs desk.faults.extraLatency := by exact_mod_cast hns
    have hprod : 0 ≤ (toNs desk.faults.extraLatency : ℚ) * factor := by positivity
    rw [truncateToInt_eq_floor hprod]
    refine ⟨Int.floor_nonneg.mpr hprod, ?_⟩
    have hfloor := Int.floor_le ((toNs desk.faults.extraLatency : ℚ) * factor)
    have hle : (toNs desk.faults.extraLatency : ℚ) * factor ≤
        toNs desk.faults.extraLatency * (3 / 2) := by gcongr
    have hcast : ((2 * ⌊(toNs desk.faults.extraLatency : ℚ) * factor⌋ : Int) : ℚ) ≤
        ((3 * toNs desk.faults.extraLatency : Int) : ℚ) := by
      push_cast
      linarith
    exact_mod_cast hcast
  · dsimp only
    omega

/-- A latency of up to 73 years does not overflow the clock within 146 years of
booting. -/
theorem onPingInterceptSums_int64 (sequence timestampNs : BitVec 64) (desk : Desk)
    (hlatency : toNs desk.faults.extraLatency < 2 ^ 61) (hclock : 0 ≤ desk.clock 0)
    (hbooted : desk.clock 0 < 2 ^ 62) :
    ∀ r ∈ onPingInterceptSums sequence timestampNs desk, IsInt64 r := by
  obtain ⟨hfaults, -, hsame, -⟩ := desk.drops_keeps
  obtain ⟨hdrawn, -⟩ := desk.drops.2.delay_keeps
  unfold onPingInterceptSums
  dsimp only
  split
  · exact nofun
  · split
    · next hpos =>
      obtain ⟨hlow, hhigh⟩ := delay_bounds desk.drops.2 hpos
      rw [hfaults] at hhigh ⊢
      rw [hdrawn, hsame]
      have hns : 0 ≤ toNs desk.faults.extraLatency :=
        toNs_nonneg (Int.le_of_lt (hfaults ▸ hpos))
      simp only [List.forall_mem_cons, IsInt64]
      refine ⟨by omega, by omega, by omega, nofun⟩
    · exact nofun

theorem onPingIntercept_keeps (fd : Int) (owner : Nat) (sequence timestampNs : BitVec 64)
    (desk : Desk) :
    (onPingIntercept fd owner sequence timestampNs desk).2.faults = desk.faults ∧
      ∃ k, ∀ n, (onPingIntercept fd owner sequence timestampNs desk).2.clock n =
        desk.clock (n + k) := by
  obtain ⟨hfaults, -, hclock, -⟩ := desk.drops_keeps
  obtain ⟨hclock', -⟩ := desk.drops.2.delay_keeps
  have hfaults' : desk.drops.2.delay.2.faults = desk.drops.2.faults := by
    unfold Desk.delay
    dsimp only
    split <;> rfl
  unfold onPingIntercept
  dsimp only
  split
  · exact ⟨hfaults, 0, fun n => congrFun hclock n⟩
  · split
    · exact ⟨hfaults'.trans hfaults, 1, fun n => congrFun (hclock'.trans hclock) (n + 1)⟩
    · exact ⟨hfaults, 0, fun n => congrFun hclock n⟩

namespace Connection

/-- A client of the simulator, with a latency and clock readings far from the
ends of the range. -/
structure Moderate (fd : Int) (owner : Nat) (c : Connection Desk) : Prop where
  role : c.role = .kResponder
  interceptor : c.pingInterceptor = some (onPingIntercept fd owner)
  latency : toNs c.env.captured.faults.extraLatency < 2 ^ 61
  clock : ∀ n, 0 ≤ c.env.captured.clock n ∧ c.env.captured.clock n < 2 ^ 62

variable {fd : Int} {owner : Nat} {c : Connection Desk}

theorem Moderate.dispatch (h : Moderate fd owner c) (cfg : Config) (msg : HeartbeatMessage)
    (now : Int) : Moderate fd owner (c.dispatch cfg msg now) := by
  have hidentity := dispatch_identity cfg c msg now
  have hrole : (c.dispatch cfg msg now).role = .kResponder :=
    (role_of_identity hidentity).trans h.role
  have hinterceptor : (c.dispatch cfg msg now).pingInterceptor = some (onPingIntercept fd owner) :=
    (congrArg (fun x => x.2.2.2.2.2) hidentity).trans h.interceptor
  have hset : (c.noteHandled msg).pingInterceptor = some (onPingIntercept fd owner) :=
    h.interceptor
  rcases handleMessage_asked cfg (c.noteHandled msg) msg now hset with ⟨-, heq⟩ | ⟨-, heq⟩
  · exact ⟨hrole, hinterceptor, heq ▸ h.latency, heq ▸ h.clock⟩
  · obtain ⟨hfaults, k, hclock⟩ :=
      onPingIntercept_keeps fd owner msg.sequence msg.timestampNs c.env.captured
    refine ⟨hrole, hinterceptor, ?_, fun n => ?_⟩
    · rw [Connection.dispatch, heq]
      exact hfaults ▸ h.latency
    · rw [Connection.dispatch, heq]
      exact hclock n ▸ h.clock (n + k)

/-- **Clients of the simulator** are read without overflow, whatever they send. -/
theorem Moderate.reads_defined (h : Moderate fd owner c)
    (hread : c.readAccum.length ≤ kMaxReadAccumBytes) (cfg : Config) (recvs : List RecvOutcome)
    (now : Int) :
    ∀ op ∈ c.onReadableOps onPingInterceptSums cfg recvs now, op.Defined := by
  refine (onReadableOps_defined onPingInterceptSums cfg now c recvs (Or.inl hread)).mpr fun _ => ?_
  refine Runs.along_of_kept (I := Moderate fd owner)
    (fun _ msg hd => hd.dispatch cfg msg now) (fun d msg hd => ?_) h _
  constructor
  · exact fun hremembers => absurd (hd.role.symm.trans hremembers.role) nofun
  · exact fun _ => onPingInterceptSums_int64 msg.sequence msg.timestampNs d.env.captured hd.latency
      (hd.clock 0).1 (hd.clock 0).2

end Connection
end Vigil
