import Vigil.MonitorSteps

/-!
# Batches of the monitor

`run` dispatches the events of a batch one after the other.  Dispatching an
event amounts to a list of reactor steps, so what holds of every step holds
of every batch.
-/

namespace Vigil

namespace FeedMonitor

variable {m : FeedMonitor}

/-- The slot whose connection handles an event, if any does. -/
def routed (m : FeedMonitor) (e : MonitorEvent) : Option Slot :=
  if e.fd = m.wakeFd ∨ e.fd = m.timerFd ∨ e.fd = m.commandFd then none
  else (m.indexOfFd.lookup e.fd).bind fun i => m.slots[i]?

theorem routed_eq_some {e : MonitorEvent} {slot : Slot} (h : m.routed e = some slot) :
    ∃ i, m.indexOfFd.lookup e.fd = some i ∧ m.slots[i]? = some slot := by
  unfold routed at h
  split at h
  · cases h
  · exact Option.bind_eq_some_iff.mp h

/-- The steps that dispatching an event amounts to. -/
def eventSteps (now : Int) (m : FeedMonitor) (e : MonitorEvent) : List MonitorStep :=
  if e.fd = m.wakeFd then []
  else if e.fd = m.timerFd then [.timerTick e.tickNow e.tickIo]
  else if e.fd = m.commandFd then e.commands.map .command
  else [.connectionEvent e.fd e.events now e.io]

/-- At the end of the command stream its fd is dropped besides. -/
theorem dispatchEvent_steps (now : Int) (m : FeedMonitor) (e : MonitorEvent) :
    dispatchEvent now m e = (eventSteps now m e).foldl step m ∨
      dispatchEvent now m e = { (eventSteps now m e).foldl step m with
        epollSet := ((eventSteps now m e).foldl step m).epollSet.del
          ((eventSteps now m e).foldl step m).commandFd
        commandFd := -1 } := by
  unfold dispatchEvent eventSteps
  split
  · exact Or.inl rfl
  · split
    · exact Or.inl rfl
    · split
      · have hfold : (e.commands.map MonitorStep.command).foldl step m =
            e.commands.foldl command m := by
          rw [List.foldl_map]
          rfl
        unfold onCommandFdReadable
        dsimp only
        rw [hfold]
        split
        · exact Or.inr rfl
        · exact Or.inl rfl
      · exact Or.inl rfl

/-- Apart from the command fd that is dropped at EOF. -/
theorem dispatchEvent_eq (now : Int) (m : FeedMonitor) (e : MonitorEvent) :
    ∃ set fd, dispatchEvent now m e =
      { (eventSteps now m e).foldl step m with epollSet := set, commandFd := fd } := by
  rcases dispatchEvent_steps now m e with heq | heq
  · exact ⟨_, _, heq⟩
  · exact ⟨_, _, heq⟩

/-- One wakeup of `run`. -/
def wakeUp (m : FeedMonitor) (b : Batch MonitorEvent) : FeedMonitor :=
  m.runBatch b.now b.events

end FeedMonitor

end Vigil
