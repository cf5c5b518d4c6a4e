/-
This file says what each operation of a gate can do. A request, a closing and a cancellation are
split into their cases once, and the facts that later files need are read off the cases: whether
the work executes afterwards, which run is waiting afterwards, and how many batches are owed. A
batch is owed while its run is waiting or flagged as a follow-up.
-/

import CodeNavigator.Gate.Basic

namespace CodeNavigator

namespace Gate

/-! ### The phases -/

/-- Only the two phases in which the work is executing count as such. -/
theorem Phase.isExecuting_iff {phase : Phase} :
    phase.isExecuting = true ↔ phase = .immediate ∨ phase = .running := by
  cases phase <;> simp [Phase.isExecuting]

theorem isExecuting_scheduled {gate : Gate} {timer : Timer}
    (waiting : gate.phase = .scheduled timer) : gate.phase.isExecuting = false := by
  rw [waiting]
  rfl

/-! ### The cases of the operations -/

theorem request_cases (gate : Gate) (now : Nat) :
    (∃ timer, gate.phase = .scheduled timer ∧ gate.request now = (.absorbed, gate)) ∨
    (gate.phase.isExecuting = true ∧
      gate.request now = (.absorbed, { gate with hasFollowUp := true })) ∨
    (gate.phase = .idle ∧ gate.wait now = 0 ∧
      gate.request now = (.started, { gate with phase := .immediate })) ∨
    (gate.phase = .idle ∧
      gate.request now = (.scheduled (gate.wait now), gate.schedule now (gate.wait now))) := by
  unfold request
  cases phase : gate.phase with
  | idle =>
    by_cases passed : gate.wait now = 0
    · exact Or.inr (Or.inr (Or.inl ⟨rfl, passed, if_pos passed⟩))
    · exact Or.inr (Or.inr (Or.inr ⟨rfl, if_neg passed⟩))
  | immediate => exact Or.inr (Or.inl ⟨rfl, rfl⟩)
  | scheduled timer => exact Or.inl ⟨timer, rfl, rfl⟩
  | running => exact Or.inr (Or.inl ⟨rfl, rfl⟩)

theorem close_cases (gate : Gate) (now : Nat) :
    (gate.phase.isExecuting = false ∧ gate.close now = { gate with lastRun := some now }) ∨
    (gate.phase.isExecuting = true ∧ gate.hasFollowUp = false ∧
      gate.close now = { gate with phase := .idle, lastRun := some now }) ∨
    (gate.phase.isExecuting = true ∧ gate.hasFollowUp = true ∧
      gate.close now =
        { gate with
          phase := .scheduled ⟨gate.nextTicket, now + gate.delay⟩
          hasFollowUp := false
          lastRun := some now
          nextTicket := gate.nextTicket + 1 }) := by
  unfold close
  cases executing : gate.phase.isExecuting with
  | false => exact Or.inl ⟨rfl, by simp⟩
  | true =>
    cases flagged : gate.hasFollowUp with
    | false => exact Or.inr (Or.inl ⟨rfl, rfl, by simp⟩)
    | true => exact Or.inr (Or.inr ⟨rfl, rfl, rfl⟩)

/-- A run is deferred only where the window is still open. -/
theorem request_eq_scheduled {gate : Gate} {now wait : Nat}
    (deferred : (gate.request now).1 = .scheduled wait) :
    0 < wait ∧ wait = gate.wait now ∧ (gate.request now).2 = gate.schedule now wait := by
  unfold request at deferred ⊢
  split at deferred
  · cases deferred
  · cases deferred
  · cases deferred
  · split at deferred
    · cases deferred
    · next window =>
      obtain rfl := Disposition.scheduled.inj deferred
      rw [if_neg window]
      exact ⟨Nat.pos_of_ne_zero window, rfl, rfl⟩

theorem request_of_scheduled {gate : Gate} {timer : Timer}
    (waiting : gate.phase = .scheduled timer) (now : Nat) :
    gate.request now = (.absorbed, gate) := by
  rw [request, waiting]

theorem close_of_resting {gate : Gate} (resting : gate.phase.isExecuting = false) (now : Nat) :
    gate.close now = { gate with lastRun := some now } := by
  rcases gate.close_cases now with ⟨_, same⟩ | ⟨executing, _⟩ | ⟨executing, _⟩
  · exact same
  · rw [resting] at executing
    cases executing
  · rw [resting] at executing
    cases executing

theorem close_of_scheduled {gate : Gate} {timer : Timer}
    (waiting : gate.phase = .scheduled timer) (now : Nat) :
    gate.close now = { gate with lastRun := some now } :=
  close_of_resting (isExecuting_scheduled waiting) now

theorem wake_eq_some_iff (gate after : Gate) (ticket : Nat) :
    gate.wake ticket = some after ↔
      (∃ timer, gate.phase = .scheduled timer ∧ timer.ticket = ticket) ∧
        after = { gate with phase := .running } := by
  unfold wake
  cases phase : gate.phase with
  | scheduled timer =>
    by_cases same : timer.ticket = ticket
    · simp [same, eq_comm]
    · simp [same]
  | _ => simp

theorem wake_of_scheduled {gate : Gate} {timer : Timer} (waiting : gate.phase = .scheduled timer) :
    gate.wake timer.ticket = some { gate with phase := .running } :=
  (wake_eq_some_iff _ _ _).mpr ⟨⟨timer, waiting, rfl⟩, rfl⟩

theorem wake_eq_none {gate : Gate} {ticket : Nat}
    (other : ∀ timer, gate.phase = .scheduled timer → timer.ticket ≠ ticket) :
    gate.wake ticket = none := by
  rw [Option.eq_none_iff_forall_ne_some]
  intro after woken
  obtain ⟨⟨timer, waiting, same⟩, _⟩ := (wake_eq_some_iff gate after ticket).mp woken
  exact other timer waiting same

theorem wake_getD_cases (gate : Gate) (ticket : Nat) :
    (gate.wake ticket).getD gate = { gate with phase := .running } ∨
      (gate.wake ticket).getD gate = gate := by
  cases woken : gate.wake ticket with
  | some after => exact Or.inl ((wake_eq_some_iff gate after ticket).mp woken).2
  | none => exact Or.inr rfl

theorem cancel_cases (gate : Gate) :
    (∃ timer, gate.phase = .scheduled timer ∧
      gate.cancel = (true, { gate with phase := .idle, hasFollowUp := false })) ∨
    ((∀ timer, gate.phase ≠ .scheduled timer) ∧
      gate.cancel = (gate.hasFollowUp, { gate with hasFollowUp := false })) := by
  unfold cancel
  cases phase : gate.phase with
  | scheduled timer => exact Or.inl ⟨timer, rfl, rfl⟩
  | _ => exact Or.inr ⟨fun _ => nofun, rfl⟩

theorem phase_cancel_ne (gate : Gate) (timer : Timer) : gate.cancel.2.phase ≠ .scheduled timer := by
  rcases gate.cancel_cases with ⟨_, _, same⟩ | ⟨none, same⟩
  · rw [same]
    exact nofun
  · rw [same]
    exact none timer

theorem nextTicket_cancel (gate : Gate) : gate.cancel.2.nextTicket = gate.nextTicket := by
  rcases gate.cancel_cases with ⟨_, _, same⟩ | ⟨_, same⟩ <;> rw [same]

theorem runs_cancel (gate : Gate) : gate.cancel.2.runs = gate.runs := by
  rcases gate.cancel_cases with ⟨_, _, same⟩ | ⟨_, same⟩ <;> rw [same]

/-! ### Whether the work is executing -/

theorem isExecuting_request (gate : Gate) (now : Nat) :
    (gate.request now).2.phase.isExecuting =
      (gate.phase.isExecuting || decide ((gate.request now).1 = .started)) := by
  rcases gate.request_cases now with
    ⟨timer, waiting, same⟩ | ⟨executing, same⟩ | ⟨idle, _, same⟩ | ⟨idle, same⟩
  · simp [same]
  · simp [same, executing]
  · simp [same, Phase.isExecuting]
  · simp [same, idle, schedule, Phase.isExecuting]

theorem isExecuting_close (gate : Gate) (now : Nat) :
    (gate.close now).phase.isExecuting = false := by
  rcases gate.close_cases now with ⟨resting, same⟩ | ⟨_, _, same⟩ | ⟨_, _, same⟩
  · rw [same]
    exact resting
  · rw [same]
    rfl
  · rw [same]
    rfl

theorem isExecuting_cancel (gate : Gate) :
    gate.cancel.2.phase.isExecuting = gate.phase.isExecuting := by
  rcases gate.cancel_cases with ⟨timer, waiting, same⟩ | ⟨_, same⟩
  · rw [same, waiting]
    rfl
  · rw [same]

/-! ### The follow-up -/

theorem followUp_request (gate : Gate) (now : Nat)
    (followUp : gate.hasFollowUp = true → gate.phase.isExecuting = true) :
    (gate.request now).2.hasFollowUp = true → (gate.request now).2.phase.isExecuting = true := by
  intro flagged
  rw [isExecuting_request]
  rcases gate.request_cases now with
    ⟨timer, waiting, same⟩ | ⟨executing, same⟩ | ⟨idle, _, same⟩ | ⟨idle, same⟩
  · rw [same] at flagged
    rw [followUp flagged, Bool.true_or]
  · rw [executing, Bool.true_or]
  · rw [same] at flagged
    rw [followUp flagged, Bool.true_or]
  · rw [same] at flagged
    rw [followUp flagged, Bool.true_or]

/-- While nothing is executing, no follow-up is flagged. -/
theorem hasFollowUp_of_resting {gate : Gate}
    (followUp : gate.hasFollowUp = true → gate.phase.isExecuting = true)
    (resting : gate.phase.isExecuting = false) : gate.hasFollowUp = false := by
  refine Bool.eq_false_iff.mpr fun flagged => ?_
  rw [followUp flagged] at resting
  cases resting

theorem hasFollowUp_close (gate : Gate) (now : Nat)
    (followUp : gate.hasFollowUp = true → gate.phase.isExecuting = true) :
    (gate.close now).hasFollowUp = false := by
  rcases gate.close_cases now with ⟨resting, same⟩ | ⟨_, plain, same⟩ | ⟨_, _, same⟩
  · rw [same]
    exact hasFollowUp_of_resting followUp resting
  · rw [same]
    exact plain
  · rw [same]

/-! ### The run that is waiting -/

/-- The same run is waiting, or none before and after. -/
def KeepsWaiting (before after : Gate) : Prop :=
  after.nextTicket = before.nextTicket ∧
    ∀ timer, after.phase = .scheduled timer ↔ before.phase = .scheduled timer

/-- A run has been deferred, and none was waiting before. -/
def Defers (before after : Gate) : Prop :=
  after.nextTicket = before.nextTicket + 1 ∧ (∀ timer, before.phase ≠ .scheduled timer) ∧
    ∃ due, after.phase = .scheduled ⟨before.nextTicket, due⟩

theorem request_keeps_or_defers (gate : Gate) (now : Nat) :
    KeepsWaiting gate (gate.request now).2 ∨ Defers gate (gate.request now).2 := by
  rcases gate.request_cases now with
    ⟨timer, waiting, same⟩ | ⟨executing, same⟩ | ⟨idle, _, same⟩ | ⟨idle, same⟩
  · rw [same]
    exact Or.inl ⟨rfl, fun _ => Iff.rfl⟩
  · rw [same]
    exact Or.inl ⟨rfl, fun _ => Iff.rfl⟩
  · rw [same]
    exact Or.inl ⟨rfl, fun timer => by rw [idle]; simp⟩
  · rw [same]
    exact Or.inr ⟨rfl, fun timer => by rw [idle]; simp, _, rfl⟩

theorem close_keeps_or_defers (gate : Gate) (now : Nat) :
    KeepsWaiting gate (gate.close now) ∨ Defers gate (gate.close now) := by
  have notWaiting (executing : gate.phase.isExecuting = true) (timer : Timer) :
      gate.phase ≠ .scheduled timer := by
    intro waiting
    rw [isExecuting_scheduled waiting] at executing
    cases executing
  rcases gate.close_cases now with ⟨resting, same⟩ | ⟨executing, _, same⟩ | ⟨executing, _, same⟩
  · rw [same]
    exact Or.inl ⟨rfl, fun _ => Iff.rfl⟩
  · rw [same]
    exact Or.inl ⟨rfl, fun timer => by simp [notWaiting executing timer]⟩
  · rw [same]
    exact Or.inr ⟨rfl, notWaiting executing, _, rfl⟩

/-! ### The batches that are owed -/

/-- How many batches wait for their run. -/
def owed (gate : Gate) : Nat :=
  (match gate.phase with | .scheduled _ => 1 | _ => 0) + if gate.hasFollowUp then 1 else 0

theorem owed_running {gate : Gate} {timer : Timer} (waiting : gate.phase = .scheduled timer) :
    ({ gate with phase := .running } : Gate).owed + 1 = gate.owed := by
  simp [owed, waiting, Nat.add_comm]

theorem owed_request_of_started (gate : Gate) (now : Nat)
    (started : (gate.request now).1 = .started) : (gate.request now).2.owed = gate.owed := by
  rcases gate.request_cases now with
    ⟨timer, waiting, same⟩ | ⟨executing, same⟩ | ⟨idle, _, same⟩ | ⟨idle, same⟩
  · rw [same] at started
    cases started
  · rw [same] at started
    cases started
  · rw [same, owed, owed, idle]
  · rw [same] at started
    cases started

theorem owed_request_le (gate : Gate) (now : Nat) : (gate.request now).2.owed ≤ gate.owed + 1 := by
  rcases gate.request_cases now with
    ⟨timer, waiting, same⟩ | ⟨executing, same⟩ | ⟨idle, _, same⟩ | ⟨idle, same⟩
  · rw [same]
    exact Nat.le_succ _
  · rw [same]
    exact Nat.add_le_add_right (Nat.le_add_right _ _) 1
  · rw [same, owed, owed, idle]
    exact Nat.le_succ _
  · rw [same, owed, owed, idle, schedule]
    simp only
    omega

theorem owed_close (gate : Gate) (now : Nat) : (gate.close now).owed = gate.owed := by
  rcases gate.close_cases now with
    ⟨_, same⟩ | ⟨executing, plain, same⟩ | ⟨executing, flagged, same⟩
  · rw [same]
    rfl
  · rw [same]
    cases phase : gate.phase <;> simp [owed, phase, Phase.isExecuting] at executing ⊢
  · rw [same]
    cases phase : gate.phase <;> simp [owed, phase, flagged, Phase.isExecuting] at executing ⊢

theorem owed_cancel (gate : Gate) : gate.cancel.2.owed = 0 := by
  rcases gate.cancel_cases with ⟨timer, waiting, same⟩ | ⟨none, same⟩
  · rw [same]
    rfl
  · rw [same]
    cases phase : gate.phase with
    | scheduled timer => exact absurd phase (none timer)
    | _ => rfl

/-- With the follow-up flagged only while the work is executing, a cancellation drops at most one
batch, and says so. -/
theorem owed_eq_cancel (gate : Gate)
    (followUp : gate.hasFollowUp = true → gate.phase.isExecuting = true) :
    gate.owed = if gate.cancel.1 then 1 else 0 := by
  rcases gate.cancel_cases with ⟨timer, waiting, same⟩ | ⟨none, same⟩
  · have plain := hasFollowUp_of_resting followUp (isExecuting_scheduled waiting)
    rw [same, owed, waiting, plain]
    rfl
  · rw [same, owed]
    cases phase : gate.phase with
    | scheduled timer => exact absurd phase (none timer)
    | _ => simp

end Gate

end CodeNavigator
