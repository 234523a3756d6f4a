import Vigil.HeartbeatExchange

/-!
# Nothing in flight

A session that stops moving could have stopped in the middle of the handshake:
each side waiting for the other, and nothing on its way between them.  That
does not happen.  Where both sockets have delivered all that was written, the
handshake is complete on both sides and every message has been handled
(`quiet_established`).
-/

namespace Vigil

open Connection

namespace Session

variable {σ τ : Type}

/-- Both sockets have taken and delivered everything. -/
structure Quiet (s : Session σ τ) : Prop where
  initiator_written : s.initiator.writePending = []
  responder_written : s.responder.writePending = []
  requests_read : s.toResponder = s.initiator.trace.accepted.length
  replies_read : s.toInitiator = s.responder.trace.accepted.length

/-- The same of one direction: nothing is left in the receiver's buffer. -/
theorem Linked.buffer_empty {sender : Connection σ} {receiver : Connection τ} {delivered : Nat}
    (h : Linked sender receiver delivered) (hlive : receiver.state ≠ .kFailed)
    (hwritten : sender.writePending = []) (hread : delivered = sender.trace.accepted.length) :
    receiver.readAccum = [] := by
  obtain ⟨done, rest, hqueued, hhandled, hstream⟩ := h.stream
  have hall := Linked.all_handled h hlive hwritten hread
  have hrest : rest = [] := by
    rw [hhandled, hqueued, List.map_append] at hall
    simpa using hall
  have hbytes := hstream hlive
  rw [hwritten, hread, List.append_nil, List.drop_length, List.append_nil, hrest] at hbytes
  exact hbytes

/-- An initiator that is past `connect()` and whose peer has handled all it
sent is healthy with a healthy peer, once it has handled all it was sent. -/
theorem Conforms.established {s₀ s : Session σ τ} (h : Conforms s₀ s)
    (hinitiator : s.initiator.state ≠ .kFailed) (hresponder : s.responder.state ≠ .kFailed)
    (hconnected : s.initiator.state ≠ .kConnecting)
    (hrequests : s.responder.trace.handled = s.initiator.trace.queued.map HeartbeatMessage.stamped)
    (hreplies : s.initiator.trace.handled = s.responder.trace.queued.map HeartbeatMessage.stamped) :
    Established s.initiator.state ∧ s.responder.state = .kHealthy := by
  have hstates : s.initiator.state = .kHandshaking ∨ Established s.initiator.state := by
    have hoccupies := h.initiator_ok.states
    simp only [Occupies] at hoccupies
    rcases hoccupies with hs | hs | hs | hs | hs
    · exact absurd hs hconnected
    · exact Or.inl hs
    · exact Or.inr (Or.inl hs)
    · exact Or.inr (Or.inr hs)
    · exact absurd hs hinitiator
  -- the HELLO has been handled, so the responder has moved on
  have hheard : s.responder.trace.handled ≠ [] := by
    rw [hrequests]
    simpa using h.initiator_ok.begun hstates
  have hhealthy : s.responder.state = .kHealthy := by
    have hoccupies := h.responder_ok.states
    simp only [Occupies] at hoccupies
    rcases hoccupies with hs | hs | hs
    · exact absurd (h.responder_ok.opening hs).1 hheard
    · exact hs
    · exact absurd hs hresponder
  -- and its ACK has been handled too
  refine ⟨hstates.resolve_left ?_, hhealthy⟩
  intro hwaiting
  have hnone := h.initiator_ok.opening (Or.inr hwaiting)
  rw [hreplies] at hnone
  exact (h.responder_ok.healthy hhealthy).2 (List.map_eq_nil_iff.mp hnone)

/-- **No handshake gets stuck.**  In every interleaving of the calls on two
endpoints, with any ping interceptor: where neither end has failed, the
connection has been made and nothing is in flight, the handshake is complete on
both sides, each side has handled all messages of the other, and no byte waits
in a buffer. -/
theorem quiet_established (s : Session σ τ) (steps : List (SessionStep σ τ)) (hbegin : Begins s)
    (hrun : Runs.Along step Admits s steps) :
    let q := steps.foldl step s
    q.initiator.state ≠ .kFailed → q.responder.state ≠ .kFailed →
      q.initiator.state ≠ .kConnecting → Quiet q →
      Established q.initiator.state ∧ q.responder.state = .kHealthy ∧
        q.responder.trace.handled = q.initiator.trace.queued.map HeartbeatMessage.stamped ∧
        q.initiator.trace.handled = q.responder.trace.queued.map HeartbeatMessage.stamped ∧
        q.initiator.readAccum = [] ∧ q.responder.readAccum = [] := by
  intro q hinitiator hresponder hconnected hquiet
  have hend : Conforms s q :=
    Runs.invariant (fun r a hr hadm => step_conforms s r a hr hadm) hbegin.conforms hrun
  have hrequests := Linked.all_handled hend.requests hresponder hquiet.initiator_written
    hquiet.requests_read
  have hreplies := Linked.all_handled hend.replies hinitiator hquiet.responder_written
    hquiet.replies_read
  obtain ⟨hup, hhealthy⟩ :=
    hend.established hinitiator hresponder hconnected hrequests hreplies
  exact ⟨hup, hhealthy, hrequests, hreplies,
    Linked.buffer_empty hend.replies hinitiator hquiet.responder_written hquiet.replies_read,
    Linked.buffer_empty hend.requests hresponder hquiet.initiator_written hquiet.requests_read⟩

theorem promptReply_quiet : Quiet (promptReply.foldl step faultlessSession) where
  initiator_written := by decide +kernel
  responder_written := by decide +kernel
  requests_read := by decide +kernel
  replies_read := by decide +kernel

/-- After the handshake and one PING, all is quiet and both ends are healthy. -/
theorem quiet_established_promptReply :
    let q := promptReply.foldl step faultlessSession
    Established q.initiator.state ∧ q.responder.state = .kHealthy ∧
      q.responder.trace.handled.length = 2 := by
  have hquiet := quiet_established faultlessSession promptReply faultlessSession_begins
    promptReply_admitted (by decide +kernel) (by decide +kernel) (by decide +kernel)
    promptReply_quiet
  exact ⟨hquiet.1, hquiet.2.1, by decide +kernel⟩

end Session

end Vigil
