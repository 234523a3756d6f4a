import Vigil.Chunking

/-!
# What a peer may say

While every `send()` takes all it is offered and nothing but `on_readable` is
called, a connection in `kHandshaking` listens for one greeting with its own
`feed_id` and then for heartbeats; anything else fails it.  `listen` is this
listener, without a connection: an automaton over frames.

The connection and the automaton stay in step (`heeds_onReadable`), so the
strings that leave the connection alive are exactly the ones the automaton
accepts (`accepted_language`), however they are cut.
-/

namespace Vigil

open ByteOrder

namespace Connection

variable {σ : Type}

/-! ## The listener -/

/-- The message that opens the stream to a connection of this role. -/
def greeting : Role → MessageType
  | .kInitiator => .kConnectAck
  | .kResponder => .kConnectHello

/-- The messages after it. -/
def heartbeat : Role → MessageType
  | .kInitiator => .kPong
  | .kResponder => .kPing

/-- The message comes when it is expected: the greeting first, with the feed
of the connection, and then heartbeats. -/
def Expected (role : Role) (feedId : BitVec 32) (greeted : Bool) (msg : HeartbeatMessage) : Prop :=
  if greeted then MessageType.ofByte msg.type = some (heartbeat role)
  else MessageType.ofByte msg.type = some (greeting role) ∧ msg.feedId = feedId

instance (role : Role) (feedId : BitVec 32) (greeted : Bool) (msg : HeartbeatMessage) :
    Decidable (Expected role feedId greeted msg) := by
  unfold Expected
  infer_instance

/-- One frame: has the greeting come?  Nothing is heard after a frame that was
not expected. -/
def listen (role : Role) (feedId : BitVec 32) : Option Bool → List Byte → Option Bool
  | none, _ => none
  | some greeted, frame =>
      match decodedFrame frame with
      | some msg => if Expected role feedId greeted msg then some true else none
      | none => none

/-- The complete frames of a buffer. -/
abbrev listenAll (role : Role) (feedId : BitVec 32) (buf : List Byte) (s : Option Bool) :
    Option Bool × List Byte :=
  Framing.drain kHeartbeatMessageSize (listen role feedId) Option.isNone buf s

/-- The connection is where the listener is, with nothing left to send. -/
structure Listening (role : Role) (feedId : BitVec 32) (greeted : Bool) (c : Connection σ) :
    Prop where
  role : c.role = role
  feedId : c.feedId = feedId
  state : c.state = if greeted then .kHealthy else .kHandshaking
  pending : c.writePending = []

/-- It has failed exactly if the listener has stopped. -/
def Heeds (role : Role) (feedId : BitVec 32) (c : Connection σ) : Option Bool → Prop
  | none => c.state = .kFailed
  | some greeted => Listening role feedId greeted c

/-- `send()` takes `k` more replies whole, or more. -/
def Takes (k : Nat) (c : Connection σ) : Prop :=
  ∃ k', k ≤ k' ∧ c.env.sends = List.replicate k' wholeFrame

variable {role : Role} {feedId : BitVec 32} {greeted : Bool} {k : Nat} {c : Connection σ}

/-! ## One message -/

theorem Listening.live (h : Listening role feedId greeted c) : c.state ≠ .kFailed := by
  rw [h.state]
  split <;> nofun

/-- A reply uses up one send and leaves nothing to write. -/
theorem Listening.reply (h : Listening role feedId greeted c) (htakes : Takes (k + 1) c)
    (msg : HeartbeatMessage) :
    Listening role feedId greeted (c.queueMessage msg) ∧ Takes k (c.queueMessage msg) := by
  obtain ⟨k', hk', hsends⟩ := htakes
  obtain ⟨j, rfl⟩ : ∃ j, k' = j + 1 := ⟨k' - 1, by omega⟩
  rw [queueMessage_taken c msg j h.pending hsends]
  exact ⟨⟨h.role, h.feedId, h.state, h.pending⟩, j, by omega, rfl⟩

theorem Takes.weaken (h : Takes (k + 1) c) : Takes k c := by
  obtain ⟨k', hk', hsends⟩ := h
  exact ⟨k', by omega, hsends⟩

/-- A message is expected exactly if it passes the guards of its handler. -/
theorem Listening.expected_iff (h : Listening role feedId greeted c) {msg : HeartbeatMessage}
    {type : MessageType} (ht : MessageType.ofByte msg.type = some type) :
    Expected role feedId greeted msg ↔ type ≠ .kDisconnect ∧ ¬ c.Unexpected msg := by
  obtain ⟨rfl, rfl, hstate, -⟩ := h
  simp only [Expected, Unexpected, ht]
  cases greeted with
  | false => cases hrole : c.role <;> cases type <;> simp [greeting, hstate]
  | true => cases hrole : c.role <;> cases type <;> simp [heartbeat, hstate]

/-- **One message** does to the connection what it does to the listener. -/
theorem heeds_handleMessage (cfg : Config) (now : Int) {msg : HeartbeatMessage}
    (h : Listening role feedId greeted c) (htakes : Takes (k + 1) c)
    (hknown : isKnownMessageType msg.type = true) :
    Heeds role feedId (c.handleMessage cfg msg now)
        (if Expected role feedId greeted msg then some true else none) ∧
      Takes k (c.handleMessage cfg msg now) := by
  have hexpected : ∀ {type : MessageType}, MessageType.ofByte msg.type = some type →
      type ≠ .kDisconnect → ¬ c.Unexpected msg → Expected role feedId greeted msg :=
    fun ht hne hun => (h.expected_iff ht).mpr ⟨hne, hun⟩
  have hheard : c.state = .kHealthy → greeted = true := by
    intro hs
    cases greeted with
    | true => rfl
    | false => exact absurd (h.state.symm.trans hs) (by decide)
  have hnever : c.state ≠ .kDegraded := by
    rw [h.state]
    split <;> decide
  have hresult := handleMessage_result cfg c msg now
  generalize c.handleMessage cfg msg now = result at hresult ⊢
  cases hresult with
  | violation reason hreason hun =>
      obtain ⟨type, ht⟩ := Option.isSome_iff_exists.mp hknown
      rw [if_neg fun hexp => ((h.expected_iff ht).mp hexp).2 hun]
      exact ⟨rfl, htakes.weaken⟩
  | hello ht hr hs hf =>
      rw [if_pos (hexpected ht (by decide) (by simp [Unexpected, ht, hr, hs, hf]))]
      obtain ⟨hreply, hleft⟩ :=
        h.reply htakes (c.message .kConnectAck 0 (BitVec.ofInt 64 now))
      exact ⟨⟨hreply.role, hreply.feedId, rfl, hreply.pending⟩, hleft⟩
  | ack ht hr hs hf =>
      rw [if_pos (hexpected ht (by decide) (by simp [Unexpected, ht, hr, hs, hf]))]
      exact ⟨⟨h.role, h.feedId, rfl, h.pending⟩, htakes.weaken⟩
  | pingAnswered captured ht hr hs =>
      rw [if_pos (hexpected ht (by decide) (by simp [Unexpected, ht, hr, hs]))]
      obtain rfl := hheard hs
      have hheard' : Listening role feedId true (c.heard now captured) :=
        ⟨h.role, h.feedId, h.state, h.pending⟩
      exact hheard'.reply htakes (c.message .kPong msg.sequence msg.timestampNs)
  | pingHeld captured ht hr hs =>
      rw [if_pos (hexpected ht (by decide) (by simp [Unexpected, ht, hr, hs]))]
      obtain rfl := hheard hs
      exact ⟨⟨h.role, h.feedId, h.state, h.pending⟩, htakes.weaken⟩
  | duplicate ht hr hs hseen =>
      have hhealthy := hs.resolve_right hnever
      rw [if_pos (hexpected ht (by decide) (by simp [Unexpected, ht, hr, hhealthy]))]
      obtain rfl := hheard hhealthy
      exact ⟨h, htakes.weaken⟩
  | untimely ht hr hs hseen hrtt =>
      have hhealthy := hs.resolve_right hnever
      rw [if_pos (hexpected ht (by decide) (by simp [Unexpected, ht, hr, hhealthy]))]
      obtain rfl := hheard hhealthy
      exact ⟨⟨h.role, h.feedId, h.state, h.pending⟩, htakes.weaken⟩
  | counted ht hr hs hseen hrtt =>
      rw [if_pos (hexpected ht (by decide) (by simp [Unexpected, ht, hr, hs]))]
      obtain rfl := hheard hs
      exact ⟨⟨h.role, h.feedId, h.state, h.pending⟩, htakes.weaken⟩
  | recovered ht hr hs => exact absurd hs hnever
  | closed ht =>
      rw [if_neg fun hexp => ((h.expected_iff ht).mp hexp).1 rfl]
      exact ⟨rfl, htakes.weaken⟩
  | unknown ht => simp [isKnownMessageType, ht] at hknown

/-! ## Whole reads -/

theorem heeds_feedFrame (cfg : Config) (now : Int) (h : Listening role feedId greeted c)
    (htakes : Takes (k + 1) c) {frame : List Byte} (hlen : frame.length = kHeartbeatMessageSize) :
    Heeds role feedId (feedFrame cfg now c frame) (listen role feedId (some greeted) frame) ∧
      Takes k (feedFrame cfg now c frame) := by
  rw [feedFrame, dif_pos hlen, listen, decodedFrame, dif_pos hlen]
  dsimp only
  by_cases hdecodes : (decodeHeartbeat ⟨frame, hlen⟩ {}).1 = true
  · rw [if_pos hdecodes, if_pos hdecodes]
    have hnoted : Listening role feedId greeted
        (c.noteHandled (decodeHeartbeat ⟨frame, hlen⟩ {}).2) :=
      ⟨h.role, h.feedId, h.state, h.pending⟩
    exact heeds_handleMessage cfg now hnoted htakes (decode_type_known ⟨frame, hlen⟩ {} hdecodes)
  · rw [if_neg hdecodes, if_neg hdecodes]
    exact ⟨rfl, htakes.weaken⟩

/-- The connection is dead exactly if the listener is. -/
theorem Heeds.failed_eq {s : Option Bool} (h : Heeds role feedId c s) : c.failed = s.isNone := by
  cases s with
  | none => exact (failed_eq_true c).mpr h
  | some greeted => exact (failed_eq_false c).mpr (Listening.live h)

theorem heeds_feedBuffer (cfg : Config) (now : Int) (buf : List Byte)
    (h : Listening role feedId greeted c) (htakes : Takes (buf.length / kHeartbeatMessageSize) c) :
    Heeds role feedId (feedBuffer cfg now buf c).1
        (listenAll role feedId buf (some greeted)).1 ∧
      (feedBuffer cfg now buf c).2 = (listenAll role feedId buf (some greeted)).2 := by
  have hn : 0 < kHeartbeatMessageSize := by decide
  induction buf, c using Framing.drain_rec (feedFrame cfg now) failed hn generalizing greeted with
  | short buf c hshort =>
      rw [feedBuffer, listenAll, Framing.drain_short c hshort, Framing.drain_short _ hshort]
      exact ⟨h, rfl⟩
  | last buf c hlen hd =>
      rw [Nat.div_eq_sub_div hn hlen] at htakes
      obtain ⟨hfed, _⟩ := heeds_feedFrame cfg now h htakes (List.length_take_of_le hlen)
      have hd' := hfed.failed_eq.symm.trans hd
      rw [feedBuffer, listenAll, Framing.drain_frame hn c hlen, Framing.drain_frame hn _ hlen,
        if_pos hd, if_pos hd']
      exact ⟨hfed, rfl⟩
  | next buf c hlen hd ih =>
      rw [Nat.div_eq_sub_div hn hlen] at htakes
      obtain ⟨hfed, hleft⟩ := heeds_feedFrame cfg now h htakes (List.length_take_of_le hlen)
      have hd' := hfed.failed_eq.symm.trans hd
      rw [feedBuffer, listenAll, Framing.drain_frame hn c hlen, Framing.drain_frame hn _ hlen,
        if_neg (by simp [hd]), if_neg (by simp [hd'])]
      cases hlisten : listen role feedId (some greeted) (buf.take kHeartbeatMessageSize) with
      | none => simp [hlisten] at hd'
      | some greeted' =>
          rw [hlisten] at hfed
          exact ih hfed (by rwa [List.length_drop])

/-- One call of `on_readable`. -/
structure ReadCall (σ : Type) where
  cfg : Config
  env : Env σ
  recvs : List RecvOutcome
  now : Int

/-- Calls stop once the connection has failed. -/
def hear (c : Connection σ) (r : ReadCall σ) : Connection σ :=
  if c.state = .kFailed then c else c.call ⟨r.cfg, r.env, .onReadable r.recvs r.now⟩

/-- The call meets neither EOF nor a socket error, it stays within the cap, and
`send()` takes every reply. -/
def Clear (c : Connection σ) (r : ReadCall σ) : Prop :=
  c.state ≠ .kFailed → recvEnd r.recvs = .drained ∧
    (c.readAccum ++ recvBytes r.recvs).length ≤ kMaxReadAccumBytes ∧
    (∀ outcome ∈ r.env.sends, outcome = wholeFrame) ∧
    (c.readAccum ++ recvBytes r.recvs).length / kHeartbeatMessageSize ≤ r.env.sends.length

instance (c : Connection σ) (r : ReadCall σ) : Decidable (Clear c r) := by
  unfold Clear
  infer_instance

/-- The bytes a list of calls yields. -/
def stream (calls : List (ReadCall σ)) : List Byte :=
  calls.flatMap fun r => recvBytes r.recvs

/-- The connection stands where the listener stands after the bytes `b`, and
keeps what is left of them. -/
structure InStep (role : Role) (feedId : BitVec 32) (b : List Byte) (c : Connection σ) :
    Prop where
  heeds : Heeds role feedId c (listenAll role feedId b (some false)).1
  leftover : c.state ≠ .kFailed → c.readAccum = (listenAll role feedId b (some false)).2

theorem onReadable_clear (cfg : Config) (env : Env σ) (recvs : List RecvOutcome) (now : Int)
    (h : Listening role feedId greeted c) (hclear : Clear c ⟨cfg, env, recvs, now⟩) :
    Heeds role feedId ((c.withEnv env).onReadable cfg recvs now)
        (listenAll role feedId (c.readAccum ++ recvBytes recvs) (some greeted)).1 ∧
      ((c.withEnv env).onReadable cfg recvs now).readAccum =
        (listenAll role feedId (c.readAccum ++ recvBytes recvs) (some greeted)).2 := by
  obtain ⟨hdrained, hwithin, haccepted, henough⟩ := hclear h.live
  have hentered : Listening role feedId greeted (c.withEnv env) :=
    ⟨h.role, h.feedId, h.state, h.pending⟩
  have htakes : Takes ((c.readAccum ++ recvBytes recvs).length / kHeartbeatMessageSize)
      (c.withEnv env) :=
    ⟨env.sends.length, henough, List.eq_replicate_iff.mpr ⟨rfl, haccepted⟩⟩
  obtain ⟨hheeds, hrest⟩ := heeds_feedBuffer cfg now (c.readAccum ++ recvBytes recvs)
    hentered htakes
  have hread : (c.withEnv env).onReadable cfg recvs now =
      (feedBuffer cfg now (c.readAccum ++ recvBytes recvs) (c.withEnv env)).1.withRead
        (feedBuffer cfg now (c.readAccum ++ recvBytes recvs) (c.withEnv env)).2 := by
    rw [onReadable_within cfg (c.withEnv env) recvs now hwithin, hdrained]
    exact ite_self _
  rw [hread]
  refine ⟨?_, hrest⟩
  cases hlisten : (listenAll role feedId (c.readAccum ++ recvBytes recvs) (some greeted)).1 with
  | none =>
      rw [hlisten] at hheeds
      exact hheeds
  | some greeted' =>
      rw [hlisten] at hheeds
      exact ⟨hheeds.role, hheeds.feedId, hheeds.state, hheeds.pending⟩

/-- **One call** keeps the connection and the listener in step. -/
theorem InStep.hear {b : List Byte} (h : InStep role feedId b c) {r : ReadCall σ}
    (hclear : Clear c r) : InStep role feedId (b ++ recvBytes r.recvs) (c.hear r) := by
  have hn : 0 < kHeartbeatMessageSize := by decide
  have hheeds := h.heeds
  cases hlisten : (listenAll role feedId b (some false)).1 with
  | none =>
      rw [hlisten] at hheeds
      have hfailed : c.state = .kFailed := hheeds
      have hdead : listenAll role feedId (b ++ recvBytes r.recvs) (some false) =
          listenAll role feedId b (some false) :=
        Framing.drain_append_dead hn b (recvBytes r.recvs) _ rfl (by rw [hlisten]; rfl)
      have hsame : c.hear r = c := if_pos hfailed
      rw [hsame]
      refine ⟨?_, fun hlive => absurd hfailed hlive⟩
      rw [hdead, hlisten]
      exact hfailed
  | some greeted =>
      rw [hlisten] at hheeds
      have hlive : c.state ≠ .kFailed := Listening.live hheeds
      have hnext : listenAll role feedId (b ++ recvBytes r.recvs) (some false) =
          listenAll role feedId (c.readAccum ++ recvBytes r.recvs) (some greeted) := by
        rw [h.leftover hlive, ← hlisten]
        exact Framing.drain_append hn b (recvBytes r.recvs) _ (by rw [hlisten]; rfl)
      obtain ⟨hkept, hrest⟩ := onReadable_clear r.cfg r.env r.recvs r.now hheeds hclear
      have hcall : c.hear r = (c.withEnv r.env).onReadable r.cfg r.recvs r.now := if_neg hlive
      rw [hcall]
      exact ⟨by rw [hnext]; exact hkept, fun _ => by rw [hnext]; exact hrest⟩

theorem InStep.hearAll {b : List Byte} (h : InStep role feedId b c) {calls : List (ReadCall σ)}
    (hclear : Runs.Along Connection.hear Clear c calls) :
    InStep role feedId (b ++ stream calls) (calls.foldl Connection.hear c) := by
  induction calls generalizing b c with
  | nil =>
      rw [stream, List.flatMap_nil, List.append_nil]
      exact h
  | cons r calls ih =>
      rw [stream, List.flatMap_cons, ← List.append_assoc]
      exact ih (h.hear hclear.1) hclear.2

/-! ## What is accepted -/

/-- All frames decode, the first to the greeting for this feed and the others
to heartbeats. -/
structure Conversation (role : Role) (feedId : BitVec 32) (frames : List (List Byte)) :
    Prop where
  first : ∀ frame ∈ frames.head?, ∃ msg, decodedFrame frame = some msg ∧
    MessageType.ofByte msg.type = some (greeting role) ∧ msg.feedId = feedId
  others : ∀ frame ∈ frames.tail, ∃ msg, decodedFrame frame = some msg ∧
    MessageType.ofByte msg.type = some (heartbeat role)

/-- A conversation, and less than a frame after it. -/
def AcceptedStream (role : Role) (feedId : BitVec 32) (b : List Byte) : Prop :=
  ∃ frames rest, b = frames.flatten ++ rest ∧ rest.length < kHeartbeatMessageSize ∧
    Conversation role feedId frames

theorem listen_live_iff (role : Role) (feedId : BitVec 32) (greeted : Bool) (frame : List Byte) :
    (listen role feedId (some greeted) frame).isNone = false ↔
      ∃ msg, decodedFrame frame = some msg ∧ Expected role feedId greeted msg := by
  rw [listen]
  cases decodedFrame frame with
  | none => simp
  | some msg =>
      by_cases hexpected : Expected role feedId greeted msg
      · simp [hexpected]
      · simp [hexpected]

theorem listen_greeted {frame : List Byte}
    (h : (listen role feedId (some greeted) frame).isNone = false) :
    listen role feedId (some greeted) frame = some true := by
  obtain ⟨msg, hdecoded, hexpected⟩ := (listen_live_iff role feedId greeted frame).mp h
  rw [listen, hdecoded]
  exact if_pos hexpected

/-- After the greeting only heartbeats are heard. -/
theorem along_heartbeats (role : Role) (feedId : BitVec 32) (frames : List (List Byte)) :
    Runs.Along (listen role feedId) (fun s f => (listen role feedId s f).isNone = false)
        (some true) frames ↔
      ∀ frame ∈ frames, ∃ msg, decodedFrame frame = some msg ∧
        MessageType.ofByte msg.type = some (heartbeat role) := by
  induction frames with
  | nil => exact iff_of_true trivial nofun
  | cons frame frames ih =>
      rw [List.forall_mem_cons, ← ih]
      constructor
      · rintro ⟨hfirst, hrest⟩
        rw [listen_greeted hfirst] at hrest
        exact ⟨(listen_live_iff role feedId true frame).mp hfirst, hrest⟩
      · rintro ⟨hfirst, hrest⟩
        have hlive := (listen_live_iff role feedId true frame).mpr hfirst
        refine ⟨hlive, ?_⟩
        rw [listen_greeted hlive]
        exact hrest

theorem along_conversation (role : Role) (feedId : BitVec 32) (frames : List (List Byte)) :
    Runs.Along (listen role feedId) (fun s f => (listen role feedId s f).isNone = false)
        (some false) frames ↔ Conversation role feedId frames := by
  cases frames with
  | nil => exact iff_of_true trivial ⟨nofun, nofun⟩
  | cons frame frames =>
      constructor
      · rintro ⟨hfirst, hrest⟩
        rw [listen_greeted hfirst, along_heartbeats] at hrest
        refine ⟨fun f hf => ?_, hrest⟩
        obtain rfl := Option.some.inj hf
        exact (listen_live_iff role feedId false frame).mp hfirst
      · rintro ⟨hfirst, hrest⟩
        have hlive := (listen_live_iff role feedId false frame).mpr (hfirst frame rfl)
        refine ⟨hlive, ?_⟩
        rw [listen_greeted hlive, along_heartbeats]
        exact hrest

theorem decodedFrame_length {frame : List Byte} {msg : HeartbeatMessage}
    (h : decodedFrame frame = some msg) : frame.length = kHeartbeatMessageSize := by
  by_contra hlen
  rw [decodedFrame, dif_neg hlen] at h
  exact absurd h nofun

theorem Conversation.length_eq {frames : List (List Byte)} (h : Conversation role feedId frames) :
    ∀ frame ∈ frames, frame.length = kHeartbeatMessageSize := by
  cases frames with
  | nil => exact nofun
  | cons frame frames =>
      obtain ⟨msg, hdecoded, _⟩ := h.first frame rfl
      refine List.forall_mem_cons.mpr ⟨decodedFrame_length hdecoded, fun f hf => ?_⟩
      obtain ⟨msg', hdecoded', _⟩ := h.others f hf
      exact decodedFrame_length hdecoded'

/-- **The listener's language.** -/
theorem listenAll_live_iff (role : Role) (feedId : BitVec 32) (b : List Byte) :
    (listenAll role feedId b (some false)).1.isNone = false ↔ AcceptedStream role feedId b := by
  rw [listenAll, Framing.drain_live_iff _ _ (by decide) b _ rfl]
  constructor
  · rintro ⟨frames, rest, hb, _, hrest, halong⟩
    exact ⟨frames, rest, hb, hrest, (along_conversation role feedId frames).mp halong⟩
  · rintro ⟨frames, rest, hb, hrest, hconversation⟩
    exact ⟨frames, rest, hb, hconversation.length_eq, hrest,
      (along_conversation role feedId frames).mpr hconversation⟩

/-- The greeting has come exactly if a frame has. -/
theorem listenAll_greeted_iff {b : List Byte}
    (h : (listenAll role feedId b (some false)).1 = some greeted) :
    greeted = true ↔ kHeartbeatMessageSize ≤ b.length := by
  have hn : 0 < kHeartbeatMessageSize := by decide
  by_cases hlen : kHeartbeatMessageSize ≤ b.length
  · refine iff_of_true ?_ hlen
    rw [listenAll, Framing.drain_frame hn _ hlen] at h
    split at h
    · next hdead =>
      rw [show listen role feedId (some false) (b.take kHeartbeatMessageSize) = some greeted from h]
        at hdead
      exact absurd hdead nofun
    · next hlive =>
      rw [listen_greeted (eq_false_of_ne_true hlive)] at h
      have hkept : (listenAll role feedId (b.drop kHeartbeatMessageSize) (some true)).1 ≠
          some false := by
        refine Framing.drain_invariant (I := fun s => s ≠ some false) _ _ hn ?_ _ _ rfl nofun
        intro s frame _ _ _
        unfold listen
        split
        · exact nofun
        · split
          · split <;> nofun
          · exact nofun
      cases greeted with
      | true => rfl
      | false => exact absurd h hkept
  · refine iff_of_false ?_ hlen
    rw [listenAll, Framing.drain_short _ (by omega)] at h
    cases h
    nofun

/-- **The accepted language.**  A connection in `kHandshaking` with empty
buffers reads the bytes `b`, in any calls that stay within the cap and in any
pieces, while every reply is taken whole and the stream does not end.  It has
not failed exactly if `b` is a conversation for its role and feed with less
than a frame after it; and then it is `kHealthy` exactly if a complete frame
has come. -/
theorem accepted_language (c : Connection σ) (hstate : c.state = .kHandshaking)
    (hread : c.readAccum = []) (hwrite : c.writePending = []) (calls : List (ReadCall σ))
    (hclear : Runs.Along hear Clear c calls) :
    ((calls.foldl hear c).state ≠ .kFailed ↔ AcceptedStream c.role c.feedId (stream calls)) ∧
      ((calls.foldl hear c).state ≠ .kFailed →
        ((calls.foldl hear c).state = .kHealthy ↔
          kHeartbeatMessageSize ≤ (stream calls).length)) := by
  have hshort : listenAll c.role c.feedId [] (some false) = (some false, []) :=
    Framing.drain_short _ (by decide)
  have hstart : InStep c.role c.feedId [] c := by
    constructor
    · rw [hshort]
      exact ⟨rfl, rfl, hstate, hwrite⟩
    · intro _
      rw [hshort]
      exact hread
  have hend := hstart.hearAll hclear
  rw [List.nil_append] at hend
  have hheeds := hend.heeds
  have hlive_iff : (calls.foldl hear c).state ≠ .kFailed ↔
      (listenAll c.role c.feedId (stream calls) (some false)).1.isNone = false := by
    rw [← hheeds.failed_eq, failed_eq_false]
  refine ⟨hlive_iff.trans (listenAll_live_iff c.role c.feedId (stream calls)), fun hlive => ?_⟩
  cases hlisten : (listenAll c.role c.feedId (stream calls) (some false)).1 with
  | none =>
      rw [hlisten] at hheeds
      exact absurd hheeds hlive
  | some greeted =>
      rw [hlisten] at hheeds
      rw [← listenAll_greeted_iff hlisten, hheeds.state]
      cases greeted <;> simp

/-- A HELLO and a PING, as one string. -/
def helloThenPing : List Byte :=
  (encodeHeartbeat { type := MessageType.kConnectHello.toByte, feedId := 7 }).bytes ++
    (encodeHeartbeat { type := MessageType.kPing.toByte, feedId := 7, sequence := 1 }).bytes

/-- It comes in two calls, cut in the middle of the PING. -/
def pingInPieces : List (ReadCall Unit) :=
  [⟨{}, ⟨[wholeFrame], fun _ => 0, ()⟩, [.data ⟨helloThenPing.take 40, by decide +kernel⟩], 5⟩,
    ⟨{}, ⟨[wholeFrame], fun _ => 0, ()⟩, [.data ⟨helloThenPing.drop 40, by decide +kernel⟩], 9⟩]

theorem accepted_language_pieces :
    AcceptedStream .kResponder 7 (stream pingInPieces) ∧
      (pingInPieces.foldl hear newClient).state = .kHealthy := by
  have h := accepted_language newClient rfl rfl rfl pingInPieces (by decide +kernel)
  have hlive : (pingInPieces.foldl hear newClient).state ≠ .kFailed := by decide +kernel
  exact ⟨h.1.mp hlive, (h.2 hlive).mpr (by decide +kernel)⟩

end Connection

end Vigil
