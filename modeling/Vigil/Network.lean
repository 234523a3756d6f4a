import Vigil.FeedIsolation
import Vigil.Session

/-!
# A monitor and its peers

Every feed of a monitor is joined to a responder of its own by two byte pipes.
A new socket, of a feed that is added or reconnected, meets a responder just
constructed for it; from then on either end may act at any time.

A step of the monitor tells a feed at most one thing, which is a list of calls
on its connection (`FeedInput.calls`).  So what happens on the socket of a feed
between two connects is a `Session`, and what holds of every session holds of
every feed of the monitor, however its steps, those of the peers and those of
the other feeds are interleaved (`network_agrees`).
-/

namespace Vigil

open Connection

/-! ## The calls of one feed -/

namespace Slot

/-- The calls `handle_connection_event` makes. -/
def eventCalls (slot : Slot) (cfg : Config) (events : EpollEvents) (now : Int) (io : SlotIo) :
    List (Call Unit) :=
  if events.epollHup || events.epollErr then
    [⟨cfg, io.env, .onHangupOrError (if io.soError ≠ 0 then io.soError else kEConnReset) now⟩]
  else
    let written := slot.writeIfWritable cfg events now io
    let env := if events.epollOut then written.connection.env else io.env
    (if events.epollOut then [⟨cfg, io.env, .onWritable io.soError now⟩] else []) ++
      if written.connection.state ≠ .kFailed ∧ events.epollIn then
        [⟨cfg, env, .onReadable io.recvs now⟩]
      else []

/-- The calls of one turn of the loop of `on_timer_tick`. -/
def tickCalls (slot : Slot) (cfg : Config) (now : Int) (io : SlotIo) : List (Call Unit) :=
  match slot.connection.state with
  | .kHealthy | .kDegraded =>
      (if now ≥ slot.nextPingDueNs then [⟨cfg, io.env, .sendPing now⟩] else []) ++
        [⟨cfg, io.env, .checkTimeout now⟩]
  | .kConnecting | .kHandshaking => [⟨cfg, io.env, .checkTimeout now⟩]
  | .kFailed =>
      match slot.reconnectDue now, io.socket with
      | true, some fd => [⟨cfg, io.env, .rebind fd now⟩]
      | _, _ => []
  | _ => []

end Slot

/-- The calls an input makes on the connection of a feed that exists. -/
def FeedInput.calls (slot : Slot) : FeedInput → List (Call Unit)
  | .disconnected cfg now io =>
      if slot.connection.state ≠ .kFailed then
        [⟨cfg, io.env, .onHangupOrError kEConnAborted now⟩]
      else []
  | .rebased cfg now => [⟨cfg, slot.connection.env, .resetLivenessBaseline now⟩]
  | .handled cfg events now io => slot.eventCalls cfg events now io
  | .ticked cfg now io => slot.tickCalls cfg now io
  | _ => []

namespace Slot

theorem handled_connection (slot : Slot) (cfg : Config) (events : EpollEvents) (now : Int)
    (io : SlotIo) : (slot.handled cfg events now io).connection =
      (slot.eventCalls cfg events now io).foldl Connection.call slot.connection := by
  have hevent : (slot.onEvent cfg events now io).connection =
      (slot.eventCalls cfg events now io).foldl Connection.call slot.connection := by
    unfold onEvent eventCalls
    split
    · rfl
    · dsimp only
      have hwritten : (slot.writeIfWritable cfg events now io).connection =
          (if events.epollOut then [(⟨cfg, io.env, .onWritable io.soError now⟩ : Call Unit)]
            else []).foldl Connection.call slot.connection := by
        unfold writeIfWritable
        split <;> rfl
      rw [List.foldl_append, ← hwritten]
      split <;> rfl
  unfold handled
  split
  · rw [fail_connection, hevent]
  · exact hevent

theorem ticked_connection (slot : Slot) (cfg : Config) (now : Int) (io : SlotIo) :
    (slot.ticked cfg now io).connection =
      (slot.tickCalls cfg now io).foldl Connection.call slot.connection := by
  have hpinged : (slot.pingIfDue cfg now io).connection =
      (if now ≥ slot.nextPingDueNs then [(⟨cfg, io.env, .sendPing now⟩ : Call Unit)]
        else []).foldl Connection.call slot.connection := by
    unfold pingIfDue
    split <;> rfl
  unfold ticked tickCalls
  cases slot.connection.state with
  | kHealthy =>
      dsimp only
      rw [checked_connection, List.foldl_append, ← hpinged]
      rfl
  | kDegraded =>
      dsimp only
      rw [checked_connection, List.foldl_append, ← hpinged]
      rfl
  | kConnecting => exact checked_connection slot cfg now io
  | kHandshaking => exact checked_connection slot cfg now io
  | kFailed =>
      dsimp only
      unfold reconnected
      cases slot.reconnectDue now with
      | false => rfl
      | true =>
          cases io.socket with
          | some fd => rfl
          | none => exact scheduleReconnect_connection _ cfg now io.jitter
  | kDisconnected => rfl
  | kReconnecting => rfl

end Slot

/-- An input acts on the connection of a feed through its calls alone. -/
theorem FeedInput.onSlot_connection {slot slot' : Slot} {input : FeedInput}
    (h : input.onSlot slot = some slot') :
    slot'.connection = (input.calls slot).foldl Connection.call slot.connection := by
  cases input with
  | removed => cases h
  | disconnected cfg now io =>
      simp only [onSlot, Option.some.injEq] at h
      subst h
      unfold calls
      dsimp only
      split
      · exact Slot.fail_connection _ cfg io
      · rfl
  | renewed =>
      simp only [onSlot, Option.some.injEq] at h
      subst h
      split <;> rfl
  | handled cfg events now io =>
      cases h
      exact slot.handled_connection cfg events now io
  | ticked cfg now io =>
      cases h
      exact slot.ticked_connection cfg now io
  | added endpoint fd now =>
      cases h
      rfl
  | rebased cfg now =>
      cases h
      rfl

/-- Only the last of the calls may read or rebind, and a read finds the
connection alive. -/
structure Connection.Orderly (c : Connection Unit) (calls : List (Call Unit)) : Prop where
  last : ∀ call ∈ calls.dropLast, call.isRead = false ∧ call.isRebind = false
  live : Runs.Along Connection.call (fun c call => call.isRead = true → c.state ≠ .kFailed)
    c calls

theorem Slot.eventCalls_orderly (slot : Slot) (cfg : Config) (events : EpollEvents) (now : Int)
    (io : SlotIo) : slot.connection.Orderly (slot.eventCalls cfg events now io) := by
  unfold eventCalls
  split
  · exact ⟨by simp, nofun, trivial⟩
  · dsimp only
    by_cases hout : events.epollOut = true
    · have hwritten : (slot.writeIfWritable cfg events now io).connection =
          slot.connection.call ⟨cfg, io.env, .onWritable io.soError now⟩ := by
        rw [writeIfWritable, if_pos hout]
        rfl
      rw [if_pos hout, hwritten]
      split
      · next hread => exact ⟨by simp [Call.isRead, Call.isRebind], nofun, fun _ => hread.1, trivial⟩
      · exact ⟨by simp, nofun, trivial⟩
    · have hwritten : slot.writeIfWritable cfg events now io = slot := by
        rw [writeIfWritable, if_neg hout]
      rw [if_neg hout, hwritten, List.nil_append]
      split
      · next hread => exact ⟨by simp, fun _ => hread.1, trivial⟩
      · exact ⟨by simp, trivial⟩

theorem Slot.tickCalls_orderly (slot : Slot) (cfg : Config) (now : Int) (io : SlotIo) :
    slot.connection.Orderly (slot.tickCalls cfg now io) := by
  have hunread {P : Prop} : false = true → P := fun h => absurd h Bool.false_ne_true
  have hsession : slot.connection.Orderly
      ((if now ≥ slot.nextPingDueNs then [(⟨cfg, io.env, .sendPing now⟩ : Call Unit)] else []) ++
        [⟨cfg, io.env, .checkTimeout now⟩]) := by
    split
    · exact ⟨by simp [Call.isRead, Call.isRebind], hunread, hunread, trivial⟩
    · exact ⟨by simp, hunread, trivial⟩
  unfold tickCalls
  cases slot.connection.state with
  | kHealthy => exact hsession
  | kDegraded => exact hsession
  | kConnecting => exact ⟨by simp, hunread, trivial⟩
  | kHandshaking => exact ⟨by simp, hunread, trivial⟩
  | kFailed =>
      dsimp only
      split
      · exact ⟨by simp, hunread, trivial⟩
      · exact ⟨by simp, trivial⟩
  | kDisconnected => exact ⟨by simp, trivial⟩
  | kReconnecting => exact ⟨by simp, trivial⟩

theorem FeedInput.calls_orderly (slot : Slot) (input : FeedInput) :
    slot.connection.Orderly (input.calls slot) := by
  cases input with
  | handled cfg events now io => exact slot.eventCalls_orderly cfg events now io
  | ticked cfg now io => exact slot.tickCalls_orderly cfg now io
  | disconnected cfg now io =>
      unfold calls
      dsimp only
      split
      · exact ⟨by simp, nofun, trivial⟩
      · exact ⟨by simp, trivial⟩
  | rebased cfg now => exact ⟨by simp [calls], nofun, trivial⟩
  | _ => exact ⟨by simp [calls], trivial⟩

/-! ## The session of one feed -/

/-- The responder at the other end of a feed's socket, with the number of
bytes each direction has delivered. -/
structure Peer (τ : Type) where
  responder : Connection τ
  toResponder : Nat
  toInitiator : Nat

/-- What the other end of a new socket is constructed with. -/
structure Acceptance (τ : Type) where
  fd : Int
  host : String
  port : BitVec 16
  interceptor : Option (PingInterceptor τ)
  env : Env τ
  now : Int

variable {τ : Type}

namespace Acceptance

/-- The responder that serves the feed on a new socket. -/
def responder (a : Acceptance τ) (feedId : BitVec 32) : Connection τ :=
  Connection.create a.fd .kResponder feedId a.host a.port a.interceptor a.env a.now

/-- The session that begins with a new socket. -/
def session (a : Acceptance τ) (c : Connection Unit) : Session Unit τ :=
  ⟨c, a.responder c.feedId, 0, 0⟩

end Acceptance

def Peer.session (peer : Peer τ) (c : Connection Unit) : Session Unit τ :=
  ⟨c, peer.responder, peer.toResponder, peer.toInitiator⟩

namespace Session

/-- The other end of the session. -/
def peer (s : Session Unit τ) : Peer τ :=
  ⟨s.responder, s.toResponder, s.toInitiator⟩

/-- A call on the initiator; `rebind` begins a new session. -/
def hear (a : Acceptance τ) (s : Session Unit τ) (call : Call Unit) : Session Unit τ :=
  if call.isRebind then a.session (s.initiator.call call) else s.step (.initiator call)

theorem hear_initiator (a : Acceptance τ) (s : Session Unit τ) (call : Call Unit) :
    (s.hear a call).initiator = s.initiator.call call := by
  unfold hear
  split <;> rfl

theorem foldl_hear_initiator (a : Acceptance τ) (s : Session Unit τ) (calls : List (Call Unit)) :
    (calls.foldl (hear a) s).initiator = calls.foldl Connection.call s.initiator := by
  induction calls generalizing s with
  | nil => rfl
  | cons call calls ih => rw [List.foldl_cons, List.foldl_cons, ih, hear_initiator]

/-- A session that conforms, of a feed that no one had reason to accuse
before. -/
def Joined (s : Session Unit τ) : Prop :=
  ∃ s₀, Begins s₀ ∧ Conforms s₀ s ∧ (∀ reason ∈ s₀.initiator.accusations, IsCap reason) ∧
    s₀.responder.accusations = []

theorem Joined.step {s : Session Unit τ} (h : s.Joined) (a : SessionStep Unit τ)
    (hadm : s.Admits a) : (s.step a).Joined := by
  obtain ⟨s₀, hbegin, hconforms, hcaps, hnone⟩ := h
  exact ⟨s₀, hbegin, step_conforms s₀ s a hconforms hadm, hcaps, hnone⟩

theorem Joined.caps {s : Session Unit τ} (h : s.Joined) :
    (∀ reason ∈ s.initiator.accusations, IsCap reason) ∧
      ∀ reason ∈ s.responder.accusations, IsCap reason := by
  obtain ⟨s₀, _, hconforms, hcaps, hnone⟩ := h
  obtain ⟨new, heq, hnew⟩ := hconforms.initiator_accuses
  obtain ⟨new', heq', hnew'⟩ := hconforms.responder_accuses
  constructor
  · intro reason hmem
    rw [heq] at hmem
    exact (List.mem_append.mp hmem).elim (hcaps reason) (hnew reason)
  · intro reason hmem
    rw [heq', hnone, List.nil_append] at hmem
    exact hnew' reason hmem

/-- A new socket on both ends. -/
theorem joined_session (a : Acceptance τ) {c : Connection Unit} (hnew : NewSocket c)
    (hrole : c.role = .kInitiator) (hstate : c.state = .kConnecting)
    (hcaps : ∀ reason ∈ c.accusations, IsCap reason) : (a.session c).Joined := by
  have hbegin : Begins (a.session c) :=
    ⟨hnew, Fresh.newSocket ⟨_, _, _, _, _, _, _, _, rfl⟩, hrole, rfl, hstate, rfl, rfl, rfl, rfl⟩
  exact ⟨a.session c, hbegin, hbegin.conforms, hcaps, rfl⟩

theorem Joined.rebind {s : Session Unit τ} (h : s.Joined) (a : Acceptance τ) {call : Call Unit}
    (hrebind : call.isRebind = true) : (s.hear a call).Joined := by
  obtain ⟨cfg, env, op⟩ := call
  have hcaps := h.caps.1
  obtain ⟨s₀, _, hconforms, _, _⟩ := h
  cases op with
  | rebind newFd now =>
      have hrole := hconforms.initiator_ok.role
      refine joined_session a (rebind_newSocket (s.initiator.withEnv env) newFd now) hrole ?_ ?_
      · show startState s.initiator.role = .kConnecting
        rw [hrole]
        rfl
      · have hsame : (s.initiator.call ⟨cfg, env, .rebind newFd now⟩).accusations =
            s.initiator.accusations := by
          simp [accusations, Connection.call, Connection.rebind, transitionTo, Connection.report,
            withEnv]
        rw [hsame]
        exact hcaps
  | _ => simp [Call.isRebind] at hrebind

/-- The calls of an input keep a session joined, if what they read has been
sent. -/
theorem Joined.hear {s : Session Unit τ} (h : s.Joined) (a : Acceptance τ)
    {calls : List (Call Unit)} (hcalls : s.initiator.Orderly calls)
    (hsent : ∀ call ∈ calls,
      call.received <+: s.responder.trace.accepted.drop s.toInitiator) :
    (calls.foldl (hear a) s).Joined := by
  induction calls generalizing s with
  | nil => exact h
  | cons call calls ih =>
      obtain ⟨hlive, hlater⟩ := hcalls.live
      have hone : (s.hear a call).Joined := by
        by_cases hrebind : call.isRebind = true
        · exact h.rebind a hrebind
        · rw [Session.hear, if_neg hrebind]
          exact h.step (.initiator call)
            ⟨by simpa using hrebind, hlive, hsent call List.mem_cons_self⟩
      cases calls with
      | nil => exact hone
      | cons next rest =>
          -- another call follows, so this one neither reads nor rebinds
          obtain ⟨hread, hrebind⟩ := hcalls.last call (by simp)
          have hsame : s.hear a call = { s with initiator := s.initiator.call call } := by
            rw [Session.hear, hrebind, if_neg (by simp), Session.step,
              received_of_not_read call hread]
            rfl
          refine ih hone ⟨fun later hmem => ?_, ?_⟩ fun later hmem => ?_
          · exact hcalls.last later (by simp [hmem])
          · rw [hear_initiator]
            exact hlater
          · rw [hsame]
            exact hsent later (List.mem_cons_of_mem call hmem)

end Session

/-! ## The network -/

/-- A feed and its peer. -/
abbrev Link (τ : Type) := Option Slot × Peer τ

namespace Link

/-- What a feed is told goes on to the session on its socket. -/
def tell (a : Acceptance τ) (link : Link τ) (input : FeedInput) : Link τ :=
  (FeedInput.apply link.1 input,
    match link.1, input with
    | none, .added endpoint fd now => (a.session (Slot.fresh endpoint fd now).connection).peer
    | none, _ => link.2
    | some slot, input =>
        ((input.calls slot).foldl (Session.hear a) (link.2.session slot.connection)).peer)

/-- What the feed reads has been sent by its peer and not been read before. -/
def Delivers (link : Link τ) (input : FeedInput) : Prop :=
  ∀ slot ∈ link.1, ∀ call ∈ input.calls slot,
    call.received <+: link.2.responder.trace.accepted.drop link.2.toInitiator

instance (link : Link τ) (input : FeedInput) : Decidable (link.Delivers input) :=
  inferInstanceAs (Decidable (∀ slot ∈ link.1, ∀ call ∈ input.calls slot, _))

/-- The feed, if it exists, is in a session with its peer. -/
def Joined (link : Link τ) : Prop :=
  ∀ slot ∈ link.1, (link.2.session slot.connection).Joined

theorem Joined.tell {link : Link τ} (h : link.Joined) (a : Acceptance τ) {input : FeedInput}
    (hsent : link.Delivers input) : (link.tell a input).Joined := by
  obtain ⟨o, peer⟩ := link
  intro slot' hslot'
  cases o with
  | none =>
      cases input with
      | added endpoint fd now =>
          cases hslot'
          exact Session.joined_session a (Fresh.newSocket ⟨_, _, _, _, _, _, _, _, rfl⟩) rfl rfl
            nofun
      | _ => cases hslot'
  | some slot =>
      have hdone := (h slot rfl).hear a (input.calls_orderly slot) (hsent slot rfl)
      have hend := Session.foldl_hear_initiator a (peer.session slot.connection)
        (input.calls slot)
      have hconnection : slot'.connection = _ :=
        (FeedInput.onSlot_connection hslot').trans hend.symm
      rw [hconnection]
      exact hdone

theorem foldl_tell_fst (a : Acceptance τ) (link : Link τ) (inputs : List FeedInput) :
    (inputs.foldl (tell a) link).1 = inputs.foldl FeedInput.apply link.1 := by
  induction inputs generalizing link with
  | nil => rfl
  | cons input inputs ih =>
      rw [List.foldl_cons, ih, List.foldl_cons]
      rfl

end Link

/-- A monitor, and for every feed id the peer that the feed's socket leads to. -/
structure Network (τ : Type) where
  monitor : FeedMonitor
  peers : BitVec 32 → Peer τ

/-- A step of the monitor, with what the other ends of new sockets are
constructed with, or a call on the responder of one feed. -/
inductive NetworkStep (τ : Type) where
  | monitor (step : MonitorStep) (acceptances : BitVec 32 → Acceptance τ)
  | peer (feedId : BitVec 32) (call : Call τ)

namespace Network

def link (n : Network τ) (feedId : BitVec 32) : Link τ :=
  (n.monitor.feed feedId, n.peers feedId)

def step (n : Network τ) : NetworkStep τ → Network τ
  | .monitor s acceptances =>
      { monitor := n.monitor.step s
        peers := fun feedId =>
          ((n.monitor.heard feedId s).foldl (Link.tell (acceptances feedId)) (n.link feedId)).2 }
  | .peer feedId call =>
      { n with
        peers := fun id =>
          if id = feedId then
            { n.peers id with
              responder := (n.peers id).responder.call call
              toResponder := (n.peers id).toResponder + call.received.length }
          else n.peers id }

/-- The feed that a step adds. -/
def added : MonitorStep → List (BitVec 32)
  | .command (.addFeed endpoint _ _) => [endpoint.feedId]
  | _ => []

/-- The feeds a step of the monitor may tell something. -/
def involved (m : FeedMonitor) (s : MonitorStep) : List (BitVec 32) :=
  m.slots.map (·.connection.feedId) ++ added s

/-- The pipes are lossless and in order, and peers answer no PING twice. -/
def Admits (n : Network τ) : NetworkStep τ → Prop
  | .monitor s acceptances => FeedMonitor.StepOk n.monitor s ∧
      ∀ feedId ∈ involved n.monitor s, Runs.Along (Link.tell (acceptances feedId)) Link.Delivers
        (n.link feedId) (n.monitor.heard feedId s)
  | .peer feedId call => ∀ slot ∈ n.monitor.feed feedId,
      ((n.peers feedId).session slot.connection).Admits (.responder call)

instance (n : Network τ) (s : NetworkStep τ) : Decidable (n.Admits s) :=
  match s with
  | .monitor s acceptances =>
      have := List.decidableBAll (fun feedId => Runs.Along (Link.tell (acceptances feedId))
        Link.Delivers (n.link feedId) (n.monitor.heard feedId s)) (involved n.monitor s)
      inferInstanceAs (Decidable (FeedMonitor.StepOk n.monitor s ∧ _))
  | .peer feedId _ => inferInstanceAs (Decidable (∀ slot ∈ n.monitor.feed feedId, _))

/-- Every feed of a well-formed monitor is in a session with its peer. -/
structure Tied (n : Network τ) : Prop where
  wellFormed : n.monitor.WellFormed
  joined : ∀ feedId, (n.link feedId).Joined

/-- A feed that is not involved does not exist, and is not added. -/
theorem link_absent {n : Network τ} (h : n.monitor.Listed) {feedId : BitVec 32} {s : MonitorStep}
    (habsent : feedId ∉ involved n.monitor s) :
    n.monitor.feed feedId = none ∧
      ∀ input ∈ n.monitor.heard feedId s, input.apply none = none := by
  rw [involved, List.mem_append, not_or] at habsent
  constructor
  · rw [FeedMonitor.feed, Option.map_eq_none_iff]
    by_contra hsome
    obtain ⟨slot, hslot⟩ := Option.ne_none_iff_exists'.mp hsome
    obtain ⟨hmem, hid⟩ := h.feedIndex.find_eq_some.mp hslot
    exact habsent.1 (List.mem_map.mpr ⟨slot, hmem, Option.some.inj hid⟩)
  · intro input hmem
    cases s with
    | command c =>
        cases c with
        | addFeed endpoint socket now =>
            have hne : endpoint.feedId ≠ feedId := fun heq => habsent.2 (by simp [added, heq])
            cases socket <;> simp [FeedMonitor.heard, FeedMonitor.commandHeard, hne] at hmem
        | removeFeed id =>
            rw [FeedMonitor.mem_told hmem]
            rfl
        | forceDisconnect id now io =>
            rw [FeedMonitor.mem_told hmem]
            rfl
        | forceReconnect id =>
            rw [FeedMonitor.mem_told hmem]
            rfl
        | setHeartbeatTimeout timeout now =>
            rw [List.mem_singleton.mp hmem]
            rfl
        | setHeartbeatInterval interval => cases hmem
        | setCommandInput fd => cases hmem
    | connectionEvent fd events now io =>
        rw [FeedMonitor.mem_told hmem]
        rfl
    | timerTick now io =>
        simp only [FeedMonitor.heard] at hmem
        split at hmem
        · rw [List.mem_singleton.mp hmem]
          rfl
        · cases hmem

theorem step_tied {n : Network τ} (h : n.Tied) (s : NetworkStep τ) (hadm : n.Admits s) :
    (n.step s).Tied := by
  cases s with
  | monitor s acceptances =>
      refine ⟨FeedMonitor.step_wellFormed h.wellFormed s hadm.1.1 hadm.1.2, fun feedId => ?_⟩
      have hlink : (n.step (.monitor s acceptances)).link feedId =
          (n.monitor.heard feedId s).foldl (Link.tell (acceptances feedId)) (n.link feedId) := by
        refine Prod.ext ?_ rfl
        rw [Link.foldl_tell_fst]
        exact FeedMonitor.step_feed h.wellFormed s
      rw [hlink]
      by_cases hfeed : feedId ∈ involved n.monitor s
      · exact Runs.invariant (I := Link.Joined) (fun link input hlink hsent => hlink.tell _ hsent)
          (h.joined feedId) (hadm.2 feedId hfeed)
      · obtain ⟨hnone, hheard⟩ := link_absent h.wellFormed.toListed hfeed
        have hstays : ∀ inputs : List FeedInput, (∀ input ∈ inputs, FeedInput.apply none input = none) →
            inputs.foldl FeedInput.apply none = none := by
          intro inputs
          induction inputs with
          | nil => exact fun _ => rfl
          | cons input inputs ih =>
              intro hall
              rw [List.foldl_cons, hall input List.mem_cons_self]
              exact ih fun later hmem => hall later (List.mem_cons_of_mem input hmem)
        intro slot hslot
        rw [Link.foldl_tell_fst, link, hnone, hstays _ hheard] at hslot
        cases hslot
  | peer feedId call =>
      refine ⟨h.wellFormed, fun id => ?_⟩
      intro slot hslot
      have hbefore := h.joined id slot hslot
      by_cases hid : id = feedId
      · subst hid
        have hdone := hbefore.step (.responder call) (hadm slot hslot)
        simp only [step, link, if_true]
        exact hdone
      · simp only [step, link, if_neg hid]
        exact hbefore

/-- No feed yet, so no peer matters. -/
def start (config : Config) (timerFd wakeFd : Int) (peers : BitVec 32 → Peer τ) : Network τ :=
  ⟨FeedMonitor.create config timerFd wakeFd, peers⟩

theorem start_tied (config : Config) (timerFd wakeFd : Int) (peers : BitVec 32 → Peer τ) :
    (start config timerFd wakeFd peers).Tied :=
  ⟨FeedMonitor.wellFormed_create config timerFd wakeFd, fun _ _ hslot => by cases hslot⟩

/-- A peer without fault injection. -/
def plainAcceptance : Acceptance Unit :=
  ⟨9, "127.0.0.1", 40000, none, ⟨[], fun _ => 0, ()⟩, 0⟩

/-- Nothing listens yet. -/
def emptyNetwork : Network Unit :=
  start {} 3 4 fun feedId => ⟨plainAcceptance.responder feedId, 0, 0⟩

/-- Feed 7 is added, connects and is acknowledged. -/
def networkConnects : List (NetworkStep Unit) :=
  [.monitor (.command (.addFeed
      { feedId := 7, name := "alpha", host := "127.0.0.1", port := 9000 } (some 5) 0))
      fun _ => plainAcceptance,
    .monitor (.connectionEvent 5 { epollOut := true } 1 { sends := [.sent 28] })
      fun _ => plainAcceptance,
    .peer 7 (Session.smooth (.onReadable [Session.oneFrame .kConnectHello 1] 2)),
    .monitor (.connectionEvent 5 { epollIn := true } 3
      { recvs := [Session.oneFrame .kConnectAck 2] }) fun _ => plainAcceptance]

theorem networkConnects_admitted : Runs.Along step Admits emptyNetwork networkConnects := by
  decide +kernel

end Network

end Vigil
