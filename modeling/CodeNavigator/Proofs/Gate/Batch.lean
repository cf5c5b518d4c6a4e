/-
This file balances the batches of requests against the runs of the work. A request opens a batch
when it starts the work at once, when it defers a run, or when it flags a follow-up that was not
flagged before. Every other request joins the batch that is open. A batch leaves the gate in one of
two ways: its run starts, or a cancellation drops it. Along the way it may move from the follow-up
to a deferred run, when the executing run is closed by its end or by a caller.

The balance holds step by step, whatever the order of the steps. It rests on the follow-up being
flagged only while the work is executing, so that a cancellation never drops two batches at once.
-/

import CodeNavigator.Proofs.Gate.Situation

namespace CodeNavigator

namespace Gate

namespace Occurrence

/-- A request that starts a run, defers one, or flags a follow-up. -/
def opensBatch (occurrence : Occurrence) : Bool :=
  match occurrence.turn.move with
  | .request =>
    match (occurrence.before.gate.request occurrence.turn.time).1 with
    | .started | .scheduled _ => true
    | .absorbed => !occurrence.before.gate.hasFollowUp && occurrence.after.gate.hasFollowUp
  | _ => false

/-- A cancellation that drops something, which may come from dropping the gate. -/
def dropsBatch (occurrence : Occurrence) : Bool :=
  match occurrence.turn.move with
  | .cancel | .drop => occurrence.before.gate.cancel.1
  | _ => false

/-- A run starts or a batch is dropped. The batch that was pending is pending no more. -/
def settlesBatch (occurrence : Occurrence) : Bool :=
  occurrence.startsRun || occurrence.dropsBatch

end Occurrence

namespace Situation

variable {situation : Situation}

/-! ### The balance of one turn -/

theorem Sound.request_balance (sound : situation.Sound) {now : Nat}
    (possible : situation.permits (Turn.mk now .request).move = true) :
    (if Occurrence.opensBatch ⟨situation, ⟨now, .request⟩⟩ then 1 else 0) + situation.gate.owed =
      (if Occurrence.startsRun ⟨situation, ⟨now, .request⟩⟩ then 1 else 0) +
        (situation.gate.request now).2.owed := by
  rw [sound.startsRun_eq possible, Occurrence.opensBatch]
  rw [Occurrence.after, step_of_permits possible, gate_make]
  rcases situation.gate.request_cases now with
    ⟨timer, waiting, same⟩ | ⟨executing, same⟩ | ⟨idle, _, same⟩ | ⟨idle, same⟩
  · simp [same]
  · rw [same]
    cases flagged : situation.gate.hasFollowUp <;> simp [owed, flagged, Nat.add_comm]
  · rw [same]
    simp [owed, idle]
  · have plain := hasFollowUp_of_resting sound.followUp (by rw [idle]; rfl)
    rw [same]
    simp [owed, idle, schedule, plain]

/-- What a turn opens and what is owed before it is what it starts, what it drops and what is owed
after it. -/
theorem Sound.batch_balance (sound : situation.Sound) {turn : Turn}
    (possible : situation.permits turn.move = true) :
    (if Occurrence.opensBatch ⟨situation, turn⟩ then 1 else 0) + situation.gate.owed =
      (if Occurrence.startsRun ⟨situation, turn⟩ then 1 else 0) + (situation.make turn).gate.owed +
        if Occurrence.dropsBatch ⟨situation, turn⟩ then 1 else 0 := by
  obtain ⟨now, move⟩ := turn
  have closed := situation.gate.owed_close now
  have finished : (situation.gate.finish now).owed = situation.gate.owed := closed
  have dropped := situation.gate.owed_eq_cancel sound.followUp
  rw [gate_make]
  cases move with
  | request => exact sound.request_balance possible
  | wake timer =>
    rw [sound.startsRun_eq possible]
    rcases sound.wake_cases possible with ⟨waiting, woken⟩ | ⟨late, woken⟩
    · simp [woken, Occurrence.opensBatch, Occurrence.dropsBatch, owed, waiting]
    · simp [woken, Occurrence.opensBatch, Occurrence.dropsBatch, late]
  | vanish timer =>
    rw [sound.startsRun_eq possible]
    simp [Occurrence.opensBatch, Occurrence.dropsBatch]
  | finish ending =>
    rw [sound.startsRun_eq possible]
    simpa [Occurrence.opensBatch, Occurrence.dropsBatch] using finished.symm
  | close =>
    rw [sound.startsRun_eq possible]
    simp [Occurrence.opensBatch, Occurrence.dropsBatch, closed]
  | cancel =>
    rw [sound.startsRun_eq possible]
    show 0 + _ = 0 + situation.gate.cancel.2.owed + if situation.gate.cancel.1 then 1 else 0
    rw [owed_cancel, dropped]
  | drop =>
    rw [sound.startsRun_eq possible]
    show 0 + _ = 0 + situation.gate.cancel.2.owed + if situation.gate.cancel.1 then 1 else 0
    rw [owed_cancel, dropped]

/-- A run that starts is in progress, and a run that ends is counted. -/
theorem Sound.run_balance (sound : situation.Sound) {turn : Turn}
    (possible : situation.permits turn.move = true) :
    (if Occurrence.startsRun ⟨situation, turn⟩ then 1 else 0) +
        (situation.gate.runs + situation.executing) =
      (situation.make turn).gate.runs + (situation.make turn).executing := by
  obtain ⟨now, move⟩ := turn
  rw [sound.startsRun_eq possible, gate_make, executing_make]
  cases move with
  | request =>
    simp only [runs_request, decide_eq_true_eq]
    omega
  | wake timer =>
    rcases sound.wake_cases possible with ⟨waiting, woken⟩ | ⟨late, woken⟩
    · simp only [woken, waiting, decide_true, if_true, Option.getD_some, Option.isSome_some]
      omega
    · simp [woken, late]
  | vanish timer => simp
  | finish ending =>
    have underway : 0 < situation.executing := of_decide_eq_true possible
    have counted : (situation.gate.finish now).runs = situation.gate.runs + 1 := rfl
    simp only [counted, Bool.false_eq_true, if_false]
    omega
  | close => simp [runs_close]
  | cancel => simp [runs_cancel]
  | drop => simp [runs_cancel]

/-! ### The balance of a history -/

theorem Sound.batches_balance (sound : situation.Sound) (turns : List Turn) :
    (situation.course turns).countP Occurrence.opensBatch + situation.gate.owed =
      (situation.course turns).countP Occurrence.startsRun + (situation.after turns).gate.owed +
        (situation.course turns).countP Occurrence.dropsBatch := by
  refine sound.course_induction (motive := fun first course last =>
    course.countP Occurrence.opensBatch + first.gate.owed =
      course.countP Occurrence.startsRun + last.gate.owed + course.countP Occurrence.dropsBatch)
    (fun first => by simp) ?_ turns
  intro first turn rest sound possible inductionHypothesis
  have balance := sound.batch_balance possible
  rw [List.countP_cons, List.countP_cons, List.countP_cons]
  omega

theorem Sound.runs_balance (sound : situation.Sound) (turns : List Turn) :
    (situation.course turns).countP Occurrence.startsRun +
        (situation.gate.runs + situation.executing) =
      (situation.after turns).gate.runs + (situation.after turns).executing := by
  refine sound.course_induction (motive := fun first course last =>
    course.countP Occurrence.startsRun + (first.gate.runs + first.executing) =
      last.gate.runs + last.executing) (fun first => by simp) ?_ turns
  intro first turn rest sound possible inductionHypothesis
  have balance := sound.run_balance possible
  rw [List.countP_cons]
  omega

/-- Every batch that was opened has started its run, is owed it, or was dropped by a cancellation,
and every run that started has been counted or is in progress. -/
theorem opened_eq_started_add_owed_add_dropped (delay : Nat) (turns : List Turn) :
    let course := (ofDelay delay).course turns
    let situation := (ofDelay delay).after turns
    course.countP Occurrence.opensBatch =
      course.countP Occurrence.startsRun + situation.gate.owed +
        course.countP Occurrence.dropsBatch ∧
    course.countP Occurrence.startsRun = situation.gate.runs + situation.executing := by
  have initial := sound_ofDelay delay
  exact ⟨initial.batches_balance turns, (Nat.add_zero _).symm.trans (initial.runs_balance turns)⟩

end Situation

end Gate

end CodeNavigator
