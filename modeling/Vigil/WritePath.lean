import Vigil.Connection

/-!
# What the write path can do

`queue_write` and `flush_write_buffer` touch the write queue, the socket and,
when the socket or the cap fails them, the state.  `WriteEffect` lists these
fields once; `flushLoop_eq` and `queueMessage_eq` say that the write path
changes nothing else, conserves bytes, and either leaves the state alone or
enters `kFailed` with its report.

`sendFails` decides from the inputs alone whether queueing a message fails the
connection.
-/

namespace Vigil

open ByteOrder

/-- The fields the write path may change, with their new values. -/
structure WriteEffect where
  state : ConnectionState
  stateEnteredNs : Int
  pending : List Byte
  sends : List SendOutcome
  clock : Nat → Int
  queued : List HeartbeatMessage
  accepted : List Byte
  reports : List Report

namespace Connection

variable {σ : Type}

/-- The connection after a write effect. -/
def wrote (c : Connection σ) (w : WriteEffect) : Connection σ :=
  { c with
    state := w.state
    stateEnteredNs := w.stateEnteredNs
    writePending := w.pending
    env := { c.env with sends := w.sends, clock := w.clock }
    trace := { c.trace with queued := w.queued, accepted := w.accepted, reports := w.reports } }

/-- The reports of a failure noticed by the write path in state `before`. -/
inductive WriteFailure (before : ConnectionState) : List Report → Prop
  | socket (errno : Nat) : WriteFailure before [.socketError errno, .transition before .kFailed]
  | cap : WriteFailure before
      [.protocolViolation .writePendingExceeded, .transition before .kFailed]

/-- Will the loop of `flush_write_buffer` hit a hard error with `len` bytes
queued? -/
def flushFails : List SendOutcome → Nat → Bool
  | [], _ => false
  | outcome :: rest, len =>
      if len = 0 then false else
      match outcome with
      | .sent n =>
          if 0 < n then
            if n < min 512 len then false else flushFails rest (len - n)
          else true
      | .eagain => false
      | .eintr => flushFails rest len
      | .error _ => true

/-- Will queueing one message on `len` pending bytes fail the connection? -/
def sendFails (sends : List SendOutcome) (len : Nat) : Bool :=
  if len + kHeartbeatMessageSize > kMaxWritePendingBytes then true
  else if len = 0 then flushFails sends kHeartbeatMessageSize
  else false

/-- What the write path does when it is handed the messages `msgs`: it
appends their frames to the stream, conserves bytes, and reports a failure
exactly if `fails`. -/
structure WriteSpec (c : Connection σ) (msgs : List HeartbeatMessage) (fails : Bool)
    (w : WriteEffect) : Prop where
  queued_eq : w.queued = c.trace.queued ++ msgs
  bytes_eq : w.accepted ++ w.pending = c.trace.accepted ++ c.writePending ++
    msgs.flatMap fun m => (encodeHeartbeat m).bytes
  accepted_grows : c.trace.accepted <+: w.accepted
  quiet : fails = false → w.state = c.state ∧ w.stateEnteredNs = c.stateEnteredNs ∧
    w.reports = c.trace.reports
  failed : fails = true → w.state = .kFailed ∧
    ∃ new, WriteFailure c.state new ∧ w.reports = c.trace.reports ++ new

/-- Leaving the loop with the remaining outcomes `sends`. -/
theorem writeSpec_withSends (c : Connection σ) (sends : List SendOutcome) :
    ∃ w, c.withSends sends = c.wrote w ∧ WriteSpec c [] false w := by
  refine ⟨⟨c.state, c.stateEnteredNs, c.writePending, sends, c.env.clock, c.trace.queued,
    c.trace.accepted, c.trace.reports⟩, rfl, ?_⟩
  constructor <;> simp

/-- Leaving the loop through `handle_socket_error`. -/
theorem writeSpec_socketError (c : Connection σ) (sends : List SendOutcome) (errno : Nat) :
    ∃ w, ((c.withSends sends).tickClock).handleSocketError (c.env.clock 0) errno = c.wrote w ∧
      WriteSpec c [] true w := by
  refine ⟨⟨.kFailed, c.env.clock 0, c.writePending, sends, fun n => c.env.clock (n + 1),
    c.trace.queued, c.trace.accepted,
    c.trace.reports ++ [.socketError errno, .transition c.state .kFailed]⟩, ?_, ?_⟩
  · simp [wrote, handleSocketError, transitionTo, report, tickClock, withSends]
  · constructor
    · simp
    · simp
    · simp
    · simp
    · exact fun _ => ⟨rfl, _, WriteFailure.socket errno, rfl⟩

/-- A turn of the loop that accepted bytes, followed by the rest of it. -/
theorem WriteSpec.after_accept {c : Connection σ} {n : Nat} {fails : Bool} {w : WriteEffect}
    (h : WriteSpec (c.acceptBytes n) [] fails w) : WriteSpec c [] fails w where
  queued_eq := h.queued_eq
  bytes_eq := by
    have := h.bytes_eq
    simpa [acceptBytes] using this
  accepted_grows := (List.prefix_append _ _).trans h.accepted_grows
  quiet := h.quiet
  failed := h.failed

theorem flushLoop_eq (outcomes : List SendOutcome) (c : Connection σ) :
    ∃ w, flushLoop outcomes c = c.wrote w ∧
      WriteSpec c [] (flushFails outcomes c.writePending.length) w := by
  induction outcomes generalizing c with
  | nil => exact writeSpec_withSends c []
  | cons outcome rest ih =>
      by_cases hempty : c.writePending = []
      · simpa [flushLoop, flushFails, hempty] using writeSpec_withSends c (outcome :: rest)
      · have hlen : c.writePending.length ≠ 0 := by simpa using hempty
        cases outcome with
        | sent n =>
            by_cases hn : 0 < n
            · by_cases hshort : n < min 512 c.writePending.length
              · obtain ⟨w, hw, hspec⟩ := writeSpec_withSends (c.acceptBytes n) rest
                refine ⟨w, ?_, ?_⟩
                · simp only [flushLoop, hempty, hn, hshort, if_true, if_false, hw]
                  rfl
                · simpa [flushFails, hlen, hn, hshort] using hspec.after_accept
              · obtain ⟨w, hw, hspec⟩ := ih (c.acceptBytes n)
                refine ⟨w, ?_, ?_⟩
                · simp only [flushLoop, hempty, hn, hshort, if_true, if_false, hw]
                  rfl
                · have hdrop : (c.acceptBytes n).writePending.length = c.writePending.length - n := by
                    simp [acceptBytes]
                  simpa [flushFails, hlen, hn, hshort, hdrop] using hspec.after_accept
            · simpa [flushLoop, flushFails, hempty, hlen, hn] using writeSpec_socketError c rest 0
        | eagain => simpa [flushLoop, flushFails, hempty, hlen] using writeSpec_withSends c rest
        | eintr => simpa [flushLoop, flushFails, hempty, hlen] using ih c
        | error errno =>
            simpa [flushLoop, flushFails, hempty, hlen] using writeSpec_socketError c rest errno

/-- **The write path.**  Queueing a message appends its frame to the stream
and changes nothing but the write queue, the socket and, on failure, the
state. -/
theorem queueMessage_eq (c : Connection σ) (msg : HeartbeatMessage) :
    ∃ w, c.queueMessage msg = c.wrote w ∧
      WriteSpec c [msg] (sendFails c.env.sends c.writePending.length) w := by
  have hsize := (encodeHeartbeat msg).length_eq
  by_cases hcap : c.writePending.length + kHeartbeatMessageSize > kMaxWritePendingBytes
  · refine ⟨⟨.kFailed, c.env.clock 0, c.writePending ++ (encodeHeartbeat msg).bytes, c.env.sends,
      fun n => c.env.clock (n + 1), c.trace.queued ++ [msg], c.trace.accepted,
      c.trace.reports ++ [.protocolViolation .writePendingExceeded,
        .transition c.state .kFailed]⟩, ?_, ?_⟩
    · simp [queueMessage, noteQueued, queueWrite, hsize, hcap, wrote, handleProtocolViolation, transitionTo,
        report, tickClock]
    · constructor
      · rfl
      · simp
      · simp
      · simp [sendFails, hcap]
      · exact fun _ => ⟨rfl, _, WriteFailure.cap, rfl⟩
  · by_cases hempty : c.writePending = []
    · obtain ⟨w, hw, hspec⟩ := flushLoop_eq c.env.sends
        { c with
          writePending := c.writePending ++ (encodeHeartbeat msg).bytes
          trace := { c.trace with queued := c.trace.queued ++ [msg] } }
      refine ⟨w, ?_, ?_⟩
      · simp only [queueMessage, noteQueued, queueWrite, flushWriteBuffer, List.length_append, hsize, hempty,
          if_true] at hw ⊢
        rw [hw]
        rfl
      · simp only [List.length_append, hsize, hempty, List.length_nil, Nat.zero_add] at hspec hcap
        refine ⟨by simpa using hspec.queued_eq, by simpa [hempty] using hspec.bytes_eq,
          hspec.accepted_grows, ?_, ?_⟩
        · simpa [sendFails, hempty, hcap] using hspec.quiet
        · simpa [sendFails, hempty, hcap] using hspec.failed
    · refine ⟨⟨c.state, c.stateEnteredNs, c.writePending ++ (encodeHeartbeat msg).bytes,
        c.env.sends, c.env.clock, c.trace.queued ++ [msg], c.trace.accepted, c.trace.reports⟩,
        ?_, ?_⟩
      · simp only [queueMessage, noteQueued, queueWrite, List.length_append, hsize, hcap, if_false,
          hempty, wrote]
      · constructor
        · rfl
        · simp
        · simp
        · simp
        · simp [sendFails, hcap, hempty]

/-- Queueing a message fails the connection exactly if `sendFails`. -/
theorem queueMessage_state (c : Connection σ) (msg : HeartbeatMessage) :
    (c.queueMessage msg).state =
      if sendFails c.env.sends c.writePending.length then .kFailed else c.state := by
  obtain ⟨w, hw, hspec⟩ := queueMessage_eq c msg
  rw [hw]
  cases hf : sendFails c.env.sends c.writePending.length with
  | true => exact (hspec.failed hf).1
  | false => exact (hspec.quiet hf).1

theorem queueMessage_stats (c : Connection σ) (msg : HeartbeatMessage) :
    (c.queueMessage msg).stats = c.stats := by
  obtain ⟨w, hw, _⟩ := queueMessage_eq c msg
  rw [hw]
  rfl

theorem flushWriteBuffer_stats (c : Connection σ) : c.flushWriteBuffer.stats = c.stats := by
  obtain ⟨w, hw, _⟩ := flushLoop_eq c.env.sends c
  rw [flushWriteBuffer, hw]
  rfl

/-- A flush fails the connection exactly if `flushFails`. -/
theorem flushWriteBuffer_state (c : Connection σ) :
    c.flushWriteBuffer.state =
      if flushFails c.env.sends c.writePending.length then .kFailed else c.state := by
  obtain ⟨w, hw, hspec⟩ := flushLoop_eq c.env.sends c
  rw [flushWriteBuffer, hw]
  cases hf : flushFails c.env.sends c.writePending.length with
  | true => exact (hspec.failed hf).1
  | false => exact (hspec.quiet hf).1

end Connection

end Vigil
