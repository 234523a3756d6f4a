import Vigil.Retries

/-!
# Retries are bounded

With `max_reconnect_attempts = N ≥ 0` a slot is reconnected at most `N` times
before the first `force_reconnect` on it, and at most `N + 1` times after each:
a forced reconnect renews the budget of `N` and is one connect itself.  What
relates the counter to the connects made is a timer: each pending one has been
paid for, so

  connects since then + pending timer ≤ attempts + (1 if forced).

A slot that was given up stays so until it is forced.
-/

namespace Vigil

/-- A backoff timer is pending. -/
def Slot.pending (slot : Slot) : Int :=
  if 0 ≤ slot.reconnectReadyAtNs then 1 else 0

/-- What the retry fields of a slot and its page owe each other, for a maximum
of `n` attempts. -/
structure Budgeted (n : Int) (slot : Slot) (page : RetryPage) : Prop where
  attempts_nonneg : 0 ≤ slot.reconnectAttempts
  attempts_le : 0 ≤ n → slot.reconnectAttempts ≤ n
  paid : page.connects + slot.pending ≤ slot.reconnectAttempts + if page.forced then 1 else 0
  gaveUp : slot.giveUp = true → slot.connection.state = .kFailed ∧ 0 ≤ n

/-! ## One slot -/

section moves

variable {cfg : Config} {s : MonitorStep} {i : Nat} {slot slot' : Slot} {page : RetryPage}

theorem pending_nonneg (slot : Slot) : 0 ≤ slot.pending := by
  unfold Slot.pending
  split <;> omega

theorem pending_le (slot : Slot) : slot.pending ≤ 1 := by
  unfold Slot.pending
  split <;> omega

theorem pending_of_ready (h : 0 ≤ slot.reconnectReadyAtNs) : slot.pending = 1 :=
  if_pos h

theorem pending_of_started (h : slot.reconnectReadyAtNs = -1) : slot.pending = 0 :=
  if_neg (by omega)

/-- `schedule_reconnect` on retry fields `r`, which are those of the slot but
perhaps for the timer, leaves one of two sets of fields. -/
theorem schedule_fields {r : Retry} {backoff : Int × JitterFactor}
    (h : slot'.retry = r.schedule cfg backoff) :
    (0 ≤ cfg.maxReconnectAttempts ∧ cfg.maxReconnectAttempts ≤ r.attempts ∧
      slot'.giveUp = true ∧ slot'.reconnectAttempts = r.attempts ∧
      slot'.reconnectReadyAtNs = r.readyAtNs) ∨
    ((0 ≤ cfg.maxReconnectAttempts → r.attempts < cfg.maxReconnectAttempts) ∧
      slot'.giveUp = r.giveUp ∧ slot'.reconnectAttempts = r.attempts + 1 ∧
      slot'.reconnectReadyAtNs = backoff.1 + reconnectDelayNs cfg r.attempts backoff.2) := by
  unfold Retry.schedule at h
  split at h
  · next hspent =>
      exact Or.inl ⟨hspent.1, hspent.2, congrArg Retry.giveUp h, congrArg Retry.attempts h,
        congrArg Retry.readyAtNs h⟩
  · next hleft =>
      refine Or.inr ⟨?_, congrArg Retry.giveUp h, congrArg Retry.attempts h,
        congrArg Retry.readyAtNs h⟩
      intro hn
      by_contra hspent
      exact hleft ⟨hn, by omega⟩

/-- A page is carried on without a forced reconnect. -/
theorem post_unforced (page : RetryPage) (slot' : Slot) (hforce : s.forces slot = false) :
    (page.post s slot slot').forced = page.forced ∧
      (page.post s slot slot').connects = page.connects + s.connects slot := by
  simp [RetryPage.post, hforce]

/-- No attempt more, and no more paid with it. -/
theorem Budgeted.same {n : Int} {page' : RetryPage} (h : Budgeted n slot page)
    (hattempts : slot'.reconnectAttempts = slot.reconnectAttempts)
    (hforced : page'.forced = page.forced)
    (hpaid : page'.connects + slot'.pending ≤ page.connects + slot.pending)
    (hgave : slot'.giveUp = true → slot'.connection.state = .kFailed ∧ 0 ≤ n) :
    Budgeted n slot' page' where
  attempts_nonneg := by
    rw [hattempts]
    exact h.attempts_nonneg
  attempts_le := by
    rw [hattempts]
    exact h.attempts_le
  paid := by
    rw [hattempts, hforced]
    exact hpaid.trans h.paid
  gaveUp := hgave

/-- One attempt more pays for one timer or connect more. -/
theorem Budgeted.more {n : Int} {page' : RetryPage} (h : Budgeted n slot page)
    (hattempts : slot'.reconnectAttempts = slot.reconnectAttempts + 1)
    (hroom : 0 ≤ n → slot.reconnectAttempts < n) (hforced : page'.forced = page.forced)
    (hpaid : page'.connects + slot'.pending ≤ page.connects + slot.pending + 1)
    (hgave : slot'.giveUp = true → slot'.connection.state = .kFailed ∧ 0 ≤ n) :
    Budgeted n slot' page' where
  attempts_nonneg := by
    have hnonneg := h.attempts_nonneg
    omega
  attempts_le := by
    intro hn
    have hlt := hroom hn
    omega
  paid := by
    have hbefore := h.paid
    rw [hattempts, hforced]
    omega
  gaveUp := hgave

/-- **The budget is kept by every move.** -/
theorem RetryMove.budgeted (hmove : RetryMove cfg s i slot slot') (hforce : s.forces slot = false)
    (h : Budgeted cfg.maxReconnectAttempts slot page) :
    Budgeted cfg.maxReconnectAttempts slot' (page.post s slot slot') := by
  obtain ⟨hforced, hcount⟩ := post_unforced page slot' hforce
  have hbefore := pending_nonneg slot
  have hafter := pending_le slot'
  cases hmove with
  | idle hretry hconnects hfd hstays =>
      have hready : slot'.reconnectReadyAtNs = slot.reconnectReadyAtNs :=
        congrArg Retry.readyAtNs hretry
      have hgive : slot'.giveUp = slot.giveUp := congrArg Retry.giveUp hretry
      have hpending : slot'.pending = slot.pending := by rw [Slot.pending, hready, Slot.pending]
      refine h.same (congrArg Retry.attempts hretry) hforced (by omega) fun hg => ?_
      have hgave := h.gaveUp (hgive ▸ hg)
      exact ⟨hstays hgave.1, hgave.2⟩
  | failed hretry hconnects hfd hfailed =>
      rcases schedule_fields hretry with ⟨hn, _, _, hattempts, hready⟩ | ⟨hroom, hgive, hattempts, _⟩
      · have hpending : slot'.pending = slot.pending := by
          rw [Slot.pending, hready]
          rfl
        exact h.same hattempts hforced (by omega) fun _ => ⟨hfailed, hn⟩
      · have hgive' : slot'.giveUp = slot.giveUp := hgive
        exact h.more hattempts hroom hforced (by omega)
          fun hg => ⟨hfailed, (h.gaveUp (hgive' ▸ hg)).2⟩
  | refused hretry hconnects hlive hpending hfailed =>
      have hwaiting := pending_of_ready hpending
      rcases schedule_fields hretry with ⟨hn, _, _, hattempts, hready⟩ | ⟨hroom, hgive, hattempts, _⟩
      · have hstarted := pending_of_started hready
        exact h.same hattempts hforced (by omega) fun _ => ⟨hfailed, hn⟩
      · have hgive' : slot'.giveUp = slot.giveUp := hgive
        refine h.more hattempts hroom hforced (by omega) fun hg => ?_
        exact absurd (hgive'.symm.trans hg) (by simp [hlive])
  | connected hretry hconnects hlive hpending =>
      have hwaiting := pending_of_ready hpending
      have hgive : slot'.giveUp = slot.giveUp := congrArg Retry.giveUp hretry
      have hstarted : slot'.pending = 0 := pending_of_started (congrArg Retry.readyAtNs hretry)
      refine h.same (congrArg Retry.attempts hretry) hforced (by omega) fun hg => ?_
      exact absurd (hgive.symm.trans hg) (by simp [hlive])

/-- A forced reconnect starts a new budget. -/
theorem renewed_budgeted (n : Int) (hforce : s.forces slot = true) :
    Budgeted n slot.renewed (page.post s slot slot.renewed) := by
  have hconnects : s.connects slot = 0 := by
    cases s with
    | timerTick now io => cases hforce
    | _ => rfl
  refine ⟨Int.le_refl 0, fun hn => hn, ?_, nofun⟩
  simp [RetryPage.post, hforce, hconnects, Slot.renewed, Slot.pending]

/-- A slot that was given up is not touched by a move. -/
theorem RetryMove.sticks (hmove : RetryMove cfg s i slot slot') (hgive : slot.giveUp = true) :
    slot'.giveUp = true ∧ s.connects slot = 0 ∧ slot'.connection.fd = slot.connection.fd := by
  cases hmove with
  | idle hretry hconnects hfd _ =>
      have hgive' : slot'.giveUp = slot.giveUp := congrArg Retry.giveUp hretry
      exact ⟨hgive'.trans hgive, hconnects, hfd⟩
  | failed hretry hconnects hfd _ =>
      refine ⟨?_, hconnects, hfd⟩
      rcases schedule_fields hretry with ⟨_, _, hgive', _⟩ | ⟨_, hgive', _⟩
      · exact hgive'
      · exact hgive'.trans hgive
  | refused _ _ hlive => simp [hgive] at hlive
  | connected _ _ hlive => simp [hgive] at hlive

end moves

/-! ## Every run -/

namespace Audited

open FeedMonitor

/-- What holds between the steps of an audited run. -/
structure InBudget (n : Int) (a : Audited) : Prop where
  listed : a.monitor.Listed
  max : a.monitor.config.maxReconnectAttempts = n
  slots : ∀ slot ∈ a.monitor.slots, Budgeted n slot (a.book slot.history.object)

theorem step_max {a : Audited} (h : a.monitor.Listed) (s : MonitorStep) :
    (a.step s).monitor.config.maxReconnectAttempts = a.monitor.config.maxReconnectAttempts := by
  have hmax := congrArg (fun cfg : Config => cfg.maxReconnectAttempts) (step_lasting h.sound s)
  exact hmax

theorem step_inBudget {n : Int} {a : Audited} (h : InBudget n a) (s : MonitorStep) :
    InBudget n (a.step s) := by
  refine ⟨step_listed h.listed s, (step_max h.listed s).trans h.max, ?_⟩
  intro slot' hmem
  rcases step_turn h.listed s hmem with ⟨i, slot, hturn⟩ | ⟨hadded, hpage⟩
  · have hslot := h.slots slot (List.mem_of_getElem? hturn.at_i)
    rw [hturn.page]
    rcases hturn.move with ⟨hforce, rfl⟩ | ⟨hforce, _, hmove⟩
    · exact renewed_budgeted n hforce
    · rw [← h.max] at hslot ⊢
      exact hmove.budgeted hforce hslot
  · obtain ⟨endpoint, fd, now, _, _, rfl⟩ := hadded
    rw [hpage]
    exact ⟨Int.le_refl 0, fun hn => hn, Int.le_refl 0, nofun⟩

/-- Until it is forced, a slot that was given up is not reconnected. -/
def GiveUpSticks (a : Audited) (s : MonitorStep) : Prop :=
  ∀ slot ∈ a.monitor.slots, ∀ slot' ∈ (a.step s).monitor.slots,
    slot'.history.object = slot.history.object → slot.giveUp = true → s.forces slot = false →
      slot'.giveUp = true ∧ s.connects slot = 0 ∧ slot'.connection.fd = slot.connection.fd

theorem step_sticks {n : Int} {a : Audited} (h : InBudget n a) (s : MonitorStep) :
    GiveUpSticks a s := by
  intro slot hslot slot' hmem hobject hgive hforce
  rcases step_turn h.listed s hmem with ⟨i, origin, hturn⟩ | ⟨hadded, _⟩
  · have horigin : origin = slot :=
      h.listed.object_inj hslot (List.mem_of_getElem? hturn.at_i) (hturn.object.symm.trans hobject)
    subst horigin
    rcases hturn.move with ⟨hforced, _⟩ | ⟨_, _, hmove⟩
    · rw [hforce] at hforced
      cases hforced
    · exact hmove.sticks hgive
  · obtain ⟨endpoint, fd, now, _, _, rfl⟩ := hadded
    have hlt := h.listed.objects_lt slot hslot
    have heq : a.monitor.nextObject = slot.history.object := hobject
    omega

/-- **Retries are bounded and giving up is sticky.**  In every run, with
`n = max_reconnect_attempts`: for `n ≥ 0` no slot counts more than `n`
attempts, and the `initiate_connect` calls on a slot are at most `n` before the
first `force_reconnect` applied to it and at most `n + 1` from one to the next;
a slot is given up only while its connection has failed, and then it is not
reconnected until it is forced; for `n < 0` no slot is ever given up. -/
theorem retries_bounded (config : Config) (timerFd wakeFd : Int) (steps : List MonitorStep) :
    Runs.Along step GiveUpSticks (start config timerFd wakeFd) steps ∧
      ∀ slot ∈ (steps.foldl step (start config timerFd wakeFd)).monitor.slots,
        (0 ≤ config.maxReconnectAttempts →
          slot.reconnectAttempts ≤ config.maxReconnectAttempts ∧
          ((steps.foldl step (start config timerFd wakeFd)).book slot.history.object).connects ≤
            config.maxReconnectAttempts +
              if ((steps.foldl step (start config timerFd wakeFd)).book slot.history.object).forced
                then 1 else 0) ∧
        (slot.giveUp = true → slot.connection.state = .kFailed) ∧
        (config.maxReconnectAttempts < 0 → slot.giveUp = false) := by
  have hstart : InBudget config.maxReconnectAttempts (start config timerFd wakeFd) :=
    ⟨listed_create config timerFd wakeFd, rfl, fun _ h => absurd h List.not_mem_nil⟩
  have hstep : ∀ (a : Audited) (s : MonitorStep), InBudget config.maxReconnectAttempts a →
      InBudget config.maxReconnectAttempts (a.step s) := fun a s h => step_inBudget h s
  have hend : InBudget config.maxReconnectAttempts
      (steps.foldl step (start config timerFd wakeFd)) :=
    List.foldlRecOn steps step hstart fun a h s _ => hstep a s h
  refine ⟨Runs.along_of_kept hstep (fun a s h => step_sticks h s) hstart steps, ?_⟩
  intro slot hslot
  have hbudget := hend.slots slot hslot
  refine ⟨?_, fun hg => (hbudget.gaveUp hg).1, ?_⟩
  · intro hn
    have hle := hbudget.attempts_le hn
    have hpaid := hbudget.paid
    have hpending := pending_nonneg slot
    exact ⟨hle, by omega⟩
  · intro hn
    by_contra hg
    have hn' := (hbudget.gaveUp (by simpa using hg)).2
    omega

end Audited

end Vigil
