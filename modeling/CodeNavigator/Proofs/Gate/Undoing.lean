/-
This file proves that a cancellation undoes exactly the batch that is pending. A request that starts
no run joins a batch, and because no two batches are ever pending at once, it waits in that batch
until the next run starts or the next cancellation drops something. So the requests of the batch
that is pending in the end are those after which neither has happened.

Without these requests a history ends in the retracted situation: nothing is pending, and the ticket
of the run that waits was not given out. One turn shows why. A turn that starts a run or drops a
batch leaves nothing pending, a request that joins the batch changes only what is retracted, and any
other turn does the same with and without the batch, whether the batch is a follow-up, moves from
the follow-up to a waiting run, or waits. A cancellation leaves the same situation, but for the
ticket, which has passed.
-/

import CodeNavigator.Proofs.Gate.Batch
import CodeNavigator.Proofs.Gate.Renumbering
import Mathlib.Data.List.Induction

namespace CodeNavigator

namespace Gate

namespace Occurrence

/-- A request opens a batch that has to wait for its run, or is absorbed by one that waits. -/
def joinsBatch (occurrence : Occurrence) : Bool :=
  match occurrence.turn.move with
  | .request => (occurrence.before.gate.request occurrence.turn.time).1 ≠ .started
  | _ => false

theorem settlesBatch_of_joinsBatch {occurrence : Occurrence}
    (joins : occurrence.joinsBatch = true) : occurrence.settlesBatch = false := by
  obtain ⟨situation, now, move⟩ := occurrence
  cases move with
  | request =>
    have waits : (situation.gate.request now).1 ≠ .started := of_decide_eq_true joins
    have executing := situation.gate.isExecuting_request now
    rw [decide_eq_false waits, Bool.or_false] at executing
    have resting : Occurrence.startsRun ⟨situation, ⟨now, .request⟩⟩ = false := by
      rw [startsRun, after, Situation.step]
      split
      · rw [Situation.gate_make]
        simp only [executing, Bool.not_and_self]
      · exact Bool.not_and_self _
    rw [settlesBatch, resting]
    rfl
  | _ => cases joins

end Occurrence

namespace Situation

/-- A turn asks for a run and still waits for it after the turns that follow. -/
def staysPending (situation : Situation) (turn : Turn) (rest : List Turn) : Bool :=
  situation.permits turn.move && Occurrence.joinsBatch ⟨situation, turn⟩ &&
    ((situation.step turn).course rest).all fun occurrence => !occurrence.settlesBatch

/-- The turns without the requests of the batch that is pending after them. -/
def withoutPending (situation : Situation) : List Turn → List Turn
  | [] => []
  | turn :: rest =>
    if situation.staysPending turn rest then (situation.step turn).withoutPending rest
    else turn :: (situation.step turn).withoutPending rest

end Situation

/-- The gate without the batch that is pending. -/
def retract (gate : Gate) : Gate :=
  match gate.phase with
  | .scheduled _ =>
    { gate with phase := .idle, hasFollowUp := false, nextTicket := gate.nextTicket - 1 }
  | _ => { gate with hasFollowUp := false }

namespace Situation

/-- The situation without the batch that is pending and the task that waits for it. -/
def retract (situation : Situation) : Situation :=
  { situation with
    gate := situation.gate.retract
    tasks := situation.tasks.filter TimerTask.isAborted }

end Situation

/-! ### Operations on a gate without its batch -/

section Retracting

variable (gate : Gate) (now : Nat)

theorem phase_retract_ne (timer : Timer) : gate.retract.phase ≠ .scheduled timer := by
  unfold retract
  cases gate.phase <;> simp

theorem cancel_retract : gate.retract.cancel = (false, gate.retract) := by
  unfold retract cancel
  cases gate.phase <;> simp

theorem retract_close : (gate.close now).retract = gate.retract.close now := by
  rcases gate.close_cases now with
    ⟨resting, same⟩ | ⟨executing, plain, same⟩ | ⟨executing, flagged, same⟩
  all_goals
    rw [same]
    cases phase : gate.phase <;> simp_all [retract, close, Phase.isExecuting]

theorem retract_finish : (gate.finish now).retract = gate.retract.finish now := by
  have closed := gate.retract_close now
  have runs : gate.retract.runs = gate.runs := by
    unfold retract
    cases gate.phase <;> rfl
  rw [finish, finish, ← closed, runs]
  unfold retract
  simp only
  split <;> rfl

/-- A gate without its batch defers no run when it is closed. -/
theorem deferredTask_retract_close : deferredTask gate.retract (gate.retract.close now) = [] := by
  rw [← retract_close]
  exact deferredTask_of_none (phase_retract_ne _)

end Retracting

theorem isAborted_of_mem_deferredTask {before after : Gate} {task : TimerTask}
    (member : task ∈ deferredTask before after) : task.isAborted = false := by
  unfold deferredTask at member
  split at member
  · split at member
    · rw [List.mem_singleton.mp member]
    · cases member
  · cases member

/-- A request that starts no run changes only what belongs to the pending batch. -/
theorem retract_request (gate : Gate) (now : Nat) (joins : (gate.request now).1 ≠ .started) :
    (gate.request now).2.retract = gate.retract := by
  rcases gate.request_cases now with
    ⟨timer, waiting, same⟩ | ⟨executing, same⟩ | ⟨idle, _, same⟩ | ⟨idle, same⟩
  · rw [same]
  · rw [same]
    cases phase : gate.phase <;> rw [phase] at executing <;>
      simp_all [retract, Phase.isExecuting]
  · rw [same] at joins
    exact absurd rfl joins
  · rw [same]
    simp [retract, schedule, idle]

/-- Where nothing can be dropped, nothing is pending. -/
theorem retract_of_cancel {gate : Gate} (nothing : gate.cancel.1 = false) :
    gate.retract = gate := by
  rcases gate.cancel_cases with ⟨timer, waiting, same⟩ | ⟨none, same⟩
  · rw [same] at nothing
    cases nothing
  · rw [same] at nothing
    unfold retract
    cases phase : gate.phase with
    | scheduled timer => exact absurd phase (none timer)
    | _ => simp only [← nothing, ← phase]

theorem cancel_eq_of_cancel {gate : Gate} (nothing : gate.cancel.1 = false) :
    gate.cancel.2 = gate := by
  rcases gate.cancel_cases with ⟨timer, waiting, same⟩ | ⟨none, same⟩
  · rw [same] at nothing
    cases nothing
  · rw [same] at nothing ⊢
    simp only [← nothing]

theorem phase_ne_of_cancel {gate : Gate} (nothing : gate.cancel.1 = false) (timer : Timer) :
    gate.phase ≠ .scheduled timer := by
  rw [← cancel_eq_of_cancel nothing]
  exact gate.phase_cancel_ne timer

theorem cancel_cancel (gate : Gate) : gate.cancel.2.cancel.1 = false := by
  rcases gate.cancel_cases with ⟨timer, waiting, same⟩ | ⟨none, same⟩
  · rw [same]
    rfl
  · rw [same]
    rcases ({ gate with hasFollowUp := false } : Gate).cancel_cases with
      ⟨timer, waiting, _⟩ | ⟨_, again⟩
    · exact absurd waiting (none timer)
    · rw [again]

/-- A cancellation leaves the count of runs, the window and what is executing alone. -/
theorem cancel_keeps (gate : Gate) :
    gate.cancel.2.runs = gate.runs ∧ gate.cancel.2.lastRun = gate.lastRun ∧
      (gate.phase.isExecuting = true → gate.cancel.2.phase = gate.phase) := by
  rcases gate.cancel_cases with ⟨timer, waiting, same⟩ | ⟨_, same⟩
  · rw [same]
    refine ⟨rfl, rfl, fun executing => ?_⟩
    rw [isExecuting_scheduled waiting] at executing
    cases executing
  · rw [same]
    exact ⟨rfl, rfl, fun _ => rfl⟩

namespace Situation

variable {situation : Situation}

/-! ### Turns in a situation without its batch -/

theorem tasks_retract_adopt (situation : Situation) (gate : Gate) :
    (situation.adopt gate).tasks.filter TimerTask.isAborted =
      situation.tasks.filter TimerTask.isAborted := by
  have live : (deferredTask situation.gate gate).filter TimerTask.isAborted = [] :=
    List.filter_eq_nil_iff.mpr fun task member aborted => by
      rw [isAborted_of_mem_deferredTask member] at aborted
      cases aborted
  rw [adopt, List.filter_append, live, List.append_nil]

/-- Nothing changes in a cancellation that drops nothing. -/
theorem abandon_of_cancel (nothing : situation.gate.cancel.1 = false) :
    situation.abandon = situation := by
  rw [abandon, cancel_eq_of_cancel nothing]
  simp only [phase_ne_of_cancel nothing, if_false, List.map_id']

/-- Where no run waits, no task is left that was not aborted. -/
theorem Sound.filter_isAborted (sound : situation.Sound)
    (none : ∀ timer, situation.gate.phase ≠ .scheduled timer) :
    situation.tasks.filter TimerTask.isAborted = situation.tasks := by
  refine List.filter_eq_self.mpr fun ⟨timer, isAborted⟩ member => ?_
  cases isAborted with
  | true => rfl
  | false => exact absurd ((sound.live timer).mp member) (none timer)

theorem Sound.retract_of_cancel (sound : situation.Sound)
    (nothing : situation.gate.cancel.1 = false) : situation.retract = situation := by
  rw [retract, Gate.retract_of_cancel nothing,
    sound.filter_isAborted (phase_ne_of_cancel nothing)]

/-- A run that starts takes the pending batch with it. -/
theorem Sound.cancel_of_settlesBatch (sound : situation.Sound) {turn : Turn}
    (possible : situation.permits turn.move = true)
    (settles : Occurrence.settlesBatch ⟨situation, turn⟩ = true) :
    (situation.make turn).gate.cancel.1 = false := by
  have plain (resting : situation.gate.phase.isExecuting = false) :
      situation.gate.hasFollowUp = false := hasFollowUp_of_resting sound.followUp resting
  unfold Occurrence.settlesBatch at settles
  rw [sound.startsRun_eq possible] at settles
  obtain ⟨now, move⟩ := turn
  rw [gate_make]
  cases move with
  | request =>
    rcases situation.gate.request_cases now with
      ⟨timer, waiting, same⟩ | ⟨executing, same⟩ | ⟨idle, _, same⟩ | ⟨idle, same⟩
    · simp [same, Occurrence.dropsBatch] at settles
    · simp [same, Occurrence.dropsBatch] at settles
    · simp only [same]
      exact plain (by rw [idle]; rfl)
    · simp [same, Occurrence.dropsBatch] at settles
  | wake timer =>
    have waiting : situation.gate.phase = .scheduled timer := by
      simpa [Occurrence.dropsBatch] using settles
    simp only [wake_of_scheduled waiting, Option.getD_some]
    exact plain (isExecuting_scheduled waiting)
  | cancel => exact situation.gate.cancel_cancel
  | drop => exact situation.gate.cancel_cancel
  | _ => simp [Occurrence.dropsBatch] at settles

/-- A request that joins the batch changes only what is retracted. -/
theorem retract_make_of_joinsBatch {turn : Turn}
    (joins : Occurrence.joinsBatch ⟨situation, turn⟩ = true) :
    (situation.make turn).retract = situation.retract := by
  obtain ⟨now, move⟩ := turn
  cases move with
  | request =>
    have waits : (situation.gate.request now).1 ≠ .started := of_decide_eq_true joins
    have gate := retract_request situation.gate now waits
    have tasks := situation.tasks_retract_adopt (situation.gate.request now).2
    simp only [adopt] at tasks
    simp only [make, adopt, retract, waits, if_false, Nat.add_zero, gate, tasks]
  | _ => cases joins

/-- A task is there without the batch as well, unless the gate waits for it. -/
theorem Sound.permits_retract (sound : situation.Sound) {move : Move}
    (other : ∀ timer, move = .wake timer → situation.gate.phase ≠ .scheduled timer) :
    situation.retract.permits move = situation.permits move := by
  cases move with
  | wake timer =>
    rw [Bool.eq_iff_iff]
    simp only [permits, retract, List.any_eq_true, List.mem_filter, decide_eq_true_eq]
    constructor
    · rintro ⟨task, ⟨member, _⟩, same⟩
      exact ⟨task, member, same⟩
    · rintro ⟨⟨listed, isAborted⟩, member, same⟩
      obtain rfl : listed = timer := same
      cases isAborted with
      | true => exact ⟨_, ⟨member, rfl⟩, rfl⟩
      | false => exact absurd ((sound.live listed).mp member) (other listed rfl)
  | vanish timer =>
    rw [Bool.eq_iff_iff]
    simp [permits, retract]
  | _ => rfl

theorem retract_withdraw (timer : Timer) :
    (situation.withdraw timer).retract = situation.retract.withdraw timer := by
  simp only [retract, withdraw, List.filter_filter, Bool.and_comm]

/-- A turn that neither settles nor joins the batch does the same without it. -/
theorem Sound.retract_make (sound : situation.Sound) {turn : Turn}
    (possible : situation.permits turn.move = true)
    (joins : Occurrence.joinsBatch ⟨situation, turn⟩ = false)
    (settles : Occurrence.settlesBatch ⟨situation, turn⟩ = false) :
    (situation.make turn).retract = situation.retract.make turn := by
  obtain ⟨starts, drops⟩ := Bool.or_eq_false_iff.mp settles
  rw [sound.startsRun_eq possible] at starts
  obtain ⟨now, move⟩ := turn
  have unpending : situation.retract.abandon = situation.retract :=
    abandon_of_cancel (congrArg Prod.fst situation.gate.cancel_retract)
  cases move with
  | request =>
    have started : (situation.gate.request now).1 = .started := by
      simpa [Occurrence.joinsBatch] using joins
    exact absurd started (of_decide_eq_false starts)
  | wake timer =>
    have late : situation.gate.phase ≠ .scheduled timer := of_decide_eq_false starts
    have never : situation.retract.gate.wake timer.ticket = none :=
      wake_eq_none fun waiting phase => absurd phase (situation.gate.phase_retract_ne waiting)
    rcases sound.wake_cases possible with ⟨waiting, _⟩ | ⟨_, woken⟩
    · exact absurd waiting late
    · simp only [Situation.make, woken, never]
      exact retract_withdraw timer
  | vanish timer => exact retract_withdraw timer
  | finish ending =>
    have none : deferredTask situation.retract.gate (situation.retract.gate.finish now) = [] :=
      situation.gate.deferredTask_retract_close now
    have tasks := situation.tasks_retract_adopt (situation.gate.finish now)
    simp only [Situation.adopt] at tasks
    simp only [Situation.make, Situation.adopt, none, List.append_nil]
    simp only [retract, tasks, retract_finish]
  | close =>
    have none : deferredTask situation.retract.gate (situation.retract.gate.close now) = [] :=
      situation.gate.deferredTask_retract_close now
    have tasks := situation.tasks_retract_adopt (situation.gate.close now)
    simp only [Situation.adopt] at tasks
    simp only [Situation.make, Situation.adopt, none, List.append_nil]
    simp only [retract, tasks, retract_close]
  | cancel =>
    have nothing : situation.gate.cancel.1 = false := drops
    simp only [Situation.make, abandon_of_cancel nothing, unpending]
  | drop =>
    have nothing : situation.gate.cancel.1 = false := drops
    simp only [Situation.make, abandon_of_cancel nothing, unpending]
    rfl

/-! ### Histories without their pending batch -/

theorem staysPending_concat (situation : Situation) (head : Turn) (rest : List Turn) (turn : Turn) :
    let last := (situation.step head).after rest
    situation.staysPending head (rest ++ [turn]) =
      (situation.staysPending head rest &&
        !(last.permits turn.move && Occurrence.settlesBatch ⟨last, turn⟩)) := by
  intro last
  have alone : (last.course [turn]).all (fun occurrence => !occurrence.settlesBatch) =
      !(last.permits turn.move && Occurrence.settlesBatch ⟨last, turn⟩) := by
    cases possible : last.permits turn.move <;> simp [course, possible]
  rw [staysPending, staysPending, course_append, List.all_append, alone, ← Bool.and_assoc]

/-- How one more turn changes the history without its pending batch. -/
theorem withoutPending_concat (situation : Situation) (turns : List Turn) (turn : Turn) :
    let last := situation.after turns
    situation.withoutPending (turns ++ [turn]) =
      if last.permits turn.move && Occurrence.settlesBatch ⟨last, turn⟩ then turns ++ [turn]
      else if last.permits turn.move && Occurrence.joinsBatch ⟨last, turn⟩ then
        situation.withoutPending turns
      else situation.withoutPending turns ++ [turn] := by
  induction turns generalizing situation with
  | nil =>
    have stays : situation.staysPending turn [] =
        (situation.permits turn.move && Occurrence.joinsBatch ⟨situation, turn⟩) := by
      rw [staysPending, course, List.all_nil, Bool.and_true]
    simp only [List.nil_append, withoutPending, stays, after, List.foldl_nil]
    by_cases joins : Occurrence.joinsBatch ⟨situation, turn⟩ = true
    · simp [joins, Occurrence.settlesBatch_of_joinsBatch joins]
    · simp [joins]
  | cons head rest inductionHypothesis =>
    rw [List.cons_append, withoutPending, withoutPending, staysPending_concat,
      inductionHypothesis]
    dsimp only [after_cons]
    by_cases settles : (((situation.step head).after rest).permits turn.move &&
        Occurrence.settlesBatch ⟨(situation.step head).after rest, turn⟩) = true
    · rw [if_pos settles, settles, Bool.not_true, Bool.and_false]
      rfl
    · rw [if_neg settles, Bool.eq_false_iff.mpr settles, Bool.not_false, Bool.and_true]
      split <;> split <;> rfl

/-- One turn with the pending batch and without it. -/
theorem Sound.retract_step (sound : situation.Sound) (turn : Turn)
    (settles : (situation.permits turn.move && Occurrence.settlesBatch ⟨situation, turn⟩) = false)
    (joins : (situation.permits turn.move && Occurrence.joinsBatch ⟨situation, turn⟩) = false) :
    (situation.step turn).retract = situation.retract.step turn := by
  have other (timer : Timer) (wakes : turn.move = .wake timer) :
      situation.gate.phase ≠ .scheduled timer := by
    intro waiting
    have possible : situation.permits turn.move = true := wakes ▸ sound.permits_wake waiting
    have starts := sound.startsRun_eq possible
    rw [possible, Bool.true_and, Occurrence.settlesBatch, starts, wakes] at settles
    simp [waiting] at settles
  have permits := sound.permits_retract other
  by_cases possible : situation.permits turn.move = true
  · rw [possible, Bool.true_and] at settles joins
    rw [step_of_permits possible, step_of_permits (permits.trans possible)]
    exact sound.retract_make possible joins settles
  · rw [Situation.step, Situation.step, if_neg possible, if_neg (permits ▸ possible)]

/-- Without its pending batch, a history ends in the retracted situation. -/
theorem Sound.after_withoutPending (sound : situation.Sound)
    (nothing : situation.gate.cancel.1 = false) (turns : List Turn) :
    situation.after (situation.withoutPending turns) = (situation.after turns).retract := by
  induction turns using List.reverseRecOn with
  | nil => exact (sound.retract_of_cancel nothing).symm
  | append_singleton turns turn inductionHypothesis =>
    have before := sound.after turns
    have last (turns : List Turn) :
        situation.after (turns ++ [turn]) = (situation.after turns).step turn :=
      after_append situation turns [turn]
    rw [withoutPending_concat, last]
    split
    · next settles =>
      obtain ⟨possible, settles⟩ := Bool.and_eq_true_iff.mp settles
      rw [last, step_of_permits possible]
      exact ((before.make possible).retract_of_cancel
        (before.cancel_of_settlesBatch possible settles)).symm
    · next unsettled =>
      split
      · next joins =>
        obtain ⟨possible, joins⟩ := Bool.and_eq_true_iff.mp joins
        rw [inductionHypothesis, step_of_permits possible, retract_make_of_joinsBatch joins]
      · next apart =>
        rw [last, inductionHypothesis, before.retract_step turn (Bool.eq_false_iff.mpr unsettled)
          (Bool.eq_false_iff.mpr apart)]

/-- A request that joins a batch leaves something to drop. -/
theorem cancel_of_joinsBatch {turn : Turn}
    (joins : Occurrence.joinsBatch ⟨situation, turn⟩ = true) :
    (situation.make turn).gate.cancel.1 = true := by
  obtain ⟨now, move⟩ := turn
  rw [gate_make]
  cases move with
  | request =>
    have waits : (situation.gate.request now).1 ≠ .started := of_decide_eq_true joins
    rcases situation.gate.request_cases now with
      ⟨timer, waiting, same⟩ | ⟨executing, same⟩ | ⟨idle, _, same⟩ | ⟨idle, same⟩
    · simp [same, cancel, waiting]
    · simp only [same, cancel]
      split <;> rfl
    · rw [same] at waits
      exact absurd rfl waits
    · simp [same, cancel, schedule]
  | _ => cases joins

/-- What is pending stays pending until it is settled. -/
theorem Sound.cancel_of_unsettled (sound : situation.Sound) {turn : Turn}
    (possible : situation.permits turn.move = true)
    (settles : Occurrence.settlesBatch ⟨situation, turn⟩ = false)
    (nothing : (situation.make turn).gate.cancel.1 = false) : situation.gate.cancel.1 = false := by
  obtain ⟨starts, drops⟩ := Bool.or_eq_false_iff.mp settles
  have balance := sound.batch_balance possible
  have before := owed_eq_cancel situation.gate sound.followUp
  have after := owed_eq_cancel (situation.make turn).gate (sound.make possible).followUp
  rw [starts, drops, after, before, nothing] at balance
  by_contra pending
  rw [Bool.not_eq_false] at pending
  rw [pending] at balance
  simp at balance

/-- Something is pending exactly if there are requests to leave out. -/
theorem Sound.withoutPending_eq_iff (sound : situation.Sound)
    (nothing : situation.gate.cancel.1 = false) (turns : List Turn) :
    situation.withoutPending turns = turns ↔ (situation.after turns).gate.cancel.1 = false := by
  constructor
  · intro same
    have retracted := sound.after_withoutPending nothing turns
    rw [same] at retracted
    rw [retracted]
    exact congrArg Prod.fst (cancel_retract _)
  · induction turns using List.reverseRecOn with
    | nil => exact fun _ => rfl
    | append_singleton turns turn inductionHypothesis =>
      intro nothingAfter
      have before := sound.after turns
      have last : situation.after (turns ++ [turn]) = (situation.after turns).step turn :=
        after_append situation turns [turn]
      rw [last] at nothingAfter
      rw [withoutPending_concat]
      by_cases possible : (situation.after turns).permits turn.move = true
      · rw [step_of_permits possible] at nothingAfter
        split
        · rfl
        · next unsettled =>
          rw [possible, Bool.true_and, Bool.not_eq_true] at unsettled
          rw [inductionHypothesis (before.cancel_of_unsettled possible unsettled nothingAfter)]
          refine if_neg fun joins => ?_
          have pending := cancel_of_joinsBatch (Bool.and_eq_true_iff.mp joins).2
          rw [nothingAfter] at pending
          cases pending
      · rw [Situation.step, if_neg possible] at nothingAfter
        rw [Bool.not_eq_true] at possible
        simp [possible, inductionHypothesis nothingAfter]

/-! ### A cancellation and the retracted situation -/

/-- Only the task of the run that waits is not aborted, and only it has the ticket of the run. -/
theorem Sound.isAborted_eq (sound : situation.Sound) {timer : Timer}
    (waiting : situation.gate.phase = .scheduled timer) {task : TimerTask}
    (member : task ∈ situation.tasks) :
    task.isAborted = decide (task.timer.ticket ≠ timer.ticket) := by
  by_cases same : task.timer.ticket = timer.ticket
  · rw [sound.timer_eq member waiting same.symm]
    simp
  · rw [decide_eq_true same]
    obtain ⟨listed, isAborted⟩ := task
    cases isAborted with
    | true => rfl
    | false =>
      have phase := waiting.symm.trans ((sound.live listed).mp member)
      exact absurd (congrArg Timer.ticket (Phase.scheduled.inj phase).symm) same

/-- The tasks that a cancelled run leaves, once its ticket is taken back, are those that were
aborted before. -/
theorem Sound.remainingTasks_abandon_eq (sound : situation.Sound) (newest : situation.Newest)
    {timer : Timer} (waiting : situation.gate.phase = .scheduled timer) :
    remainingTasks timer.ticket situation.abandon.tasks =
      situation.tasks.filter TimerTask.isAborted := by
  have kept (task : TimerTask) (member : task ∈ situation.tasks)
      (other : task.timer.ticket ≠ timer.ticket) :
      (if situation.gate.phase = .scheduled task.timer then { task with isAborted := true }
        else task).renumber timer.ticket = task := by
    have idle : situation.gate.phase ≠ .scheduled task.timer := by
      rw [waiting]
      exact fun same => other (congrArg Timer.ticket (Phase.scheduled.inj same)).symm
    have older : ¬ timer.ticket < task.timer.ticket := by
      have issued := sound.issued task member
      rw [newest timer waiting] at issued
      omega
    rw [if_neg idle, TimerTask.renumber, Timer.renumber, if_neg older]
  rw [remainingTasks_abandon, List.filter_congr fun _ => sound.isAborted_eq waiting]
  refine (List.map_congr_left fun task member => ?_).trans (List.map_id _)
  obtain ⟨listed, other⟩ := List.mem_filter.mp member
  exact kept task listed (of_decide_eq_true other)

/-- A cancelled run leaves the retracted situation, and the ticket of the run. -/
theorem Sound.takeBack_abandon (sound : situation.Sound) (newest : situation.Newest) {timer : Timer}
    (waiting : situation.gate.phase = .scheduled timer) :
    situation.abandon.takeBack timer.ticket = situation.retract := by
  have gate : situation.gate.cancel.2.renumber timer.ticket = situation.gate.retract := by
    simp [cancel, Gate.retract, renumber, waiting, Phase.renumber]
  rw [takeBack, Situation.retract, sound.remainingTasks_abandon_eq newest waiting, ← gate]
  rfl

/-- A cancelled follow-up leaves the retracted situation. -/
theorem Sound.abandon_eq_retract (sound : situation.Sound)
    (none : ∀ timer, situation.gate.phase ≠ .scheduled timer) :
    situation.abandon = situation.retract := by
  have gate : situation.gate.cancel.2 = situation.gate.retract := by
    unfold cancel Gate.retract
    cases phase : situation.gate.phase with
    | scheduled timer => exact absurd phase (none timer)
    | _ => rfl
  rw [Situation.abandon, Situation.retract, gate, sound.filter_isAborted none]
  simp only [none, if_false, List.map_id']

/-- The ticket of a cancelled run has passed. -/
theorem Sound.passed_abandon (sound : situation.Sound) {timer : Timer}
    (waiting : situation.gate.phase = .scheduled timer) :
    situation.abandon.Passed timer.ticket := by
  have issued := sound.issued _ ((sound.live timer).mpr waiting)
  refine ⟨lt_of_lt_of_eq issued situation.gate.nextTicket_cancel.symm, fun other still => ?_⟩
  exact absurd still (situation.gate.phase_cancel_ne other)

/-! ### Cancellation -/

/-- Without the requests of the pending batch there is nothing to cancel. -/
theorem Sound.after_withoutPending_cancel (sound : situation.Sound)
    (nothing : situation.gate.cancel.1 = false) (turns : List Turn) (now : Nat)
    (isOpen : (situation.after turns).isOpen = true) :
    situation.after (situation.withoutPending turns ++ [⟨now, .cancel⟩]) =
      (situation.after turns).retract := by
  have kept := sound.after_withoutPending nothing turns
  have possible : (situation.after turns).retract.permits (Turn.mk now .cancel).move = true :=
    isOpen
  calc situation.after (situation.withoutPending turns ++ [⟨now, .cancel⟩])
      = (situation.after turns).retract.step ⟨now, .cancel⟩ := by
        rw [after_append, kept]
        rfl
    _ = (situation.after turns).retract.abandon := step_of_permits possible
    _ = (situation.after turns).retract :=
        abandon_of_cancel (congrArg Prod.fst (cancel_retract _))

/-- A cancellation leaves the situation in which the requests of the pending batch were never made.
If a run was waiting, its ticket was given out, and only that tells the two situations apart: they
go on alike, and those who use the gate see the same. A cancellation that has nothing to drop
changes nothing, and no cancellation touches what is executing, the count of runs or the window. -/
theorem cancel_undoes_pending_batch (delay : Nat) (turns : List Turn) (now : Nat)
    (isOpen : ((ofDelay delay).after turns).isOpen = true) :
    let start := ofDelay delay
    let before := start.after turns
    let cancelled := start.after (turns ++ [⟨now, .cancel⟩])
    let undone := start.after (start.withoutPending turns ++ [⟨now, .cancel⟩])
    (match before.gate.phase with
      | .scheduled timer =>
        undone = cancelled.takeBack timer.ticket ∧
        (∀ later : List Turn,
          let renumbered := later.filterMap (Turn.renumber timer.ticket)
          undone.after renumbered = (cancelled.after later).takeBack timer.ticket ∧
            sights (undone.course renumbered) = sights (cancelled.course later)) ∧
        ∀ other : List Turn, ∃ later : List Turn,
          later.filterMap (Turn.renumber timer.ticket) = other
      | _ => undone = cancelled) ∧
    (before.gate.cancel.1 = true ↔ start.withoutPending turns ≠ turns) ∧
    (before.gate.cancel.1 = false → cancelled = before) ∧
    cancelled.gate.cancel.1 = false ∧
    cancelled.executing = before.executing ∧
    (before.gate.phase.isExecuting = true → cancelled.gate.phase = before.gate.phase) ∧
    cancelled.gate.runs = before.gate.runs ∧ cancelled.gate.lastRun = before.gate.lastRun ∧
    cancelled.gate.delay = before.gate.delay := by
  intro start before cancelled undone
  have sound : before.Sound := (sound_ofDelay delay).after turns
  have newest : before.Newest :=
    (show start.Newest from nofun).after turns
  have abandoned : cancelled = before.abandon := by
    rw [show cancelled = before.step ⟨now, .cancel⟩ from after_append start turns _]
    exact step_of_permits isOpen
  have retracted : undone = before.retract :=
    (sound_ofDelay delay).after_withoutPending_cancel rfl turns now isOpen
  have gate : cancelled.gate = before.gate.cancel.2 := congrArg Situation.gate abandoned
  obtain ⟨runs, lastRun, phase⟩ := cancel_keeps before.gate
  have pending := (sound_ofDelay delay).withoutPending_eq_iff rfl turns
  refine
    ⟨?_, ?_, fun nothing => abandoned.trans (abandon_of_cancel nothing), ?_, ?_, ?_, ?_, ?_, ?_⟩
  · split
    · next timer waiting =>
      have same : undone = cancelled.takeBack timer.ticket := by
        rw [retracted, abandoned, sound.takeBack_abandon newest waiting]
      have passed : cancelled.Passed timer.ticket := abandoned ▸ sound.passed_abandon waiting
      refine ⟨same, fun later => ?_, exists_filterMap_renumber_eq timer.ticket⟩
      rw [same]
      exact passed.after_takeBack later
    · next none => rw [retracted, abandoned, sound.abandon_eq_retract none]
  · rw [Ne, show start.withoutPending turns = turns ↔ _ from pending, Bool.not_eq_false]
  · rw [gate]
    exact before.gate.cancel_cancel
  · rw [abandoned]
    rfl
  · rw [gate]
    exact phase
  · rw [gate, runs]
  · rw [gate, lastRun]
  · rw [gate, delay_cancel]

/-- The work is closed before it ends, so its follow-up waits when it is cancelled. Then a new run
is deferred, and the timer of the cancelled one wakes too late. -/
theorem cancel_after_close_undone :
    let start := ofDelay 100
    let turns := [⟨0, .request⟩, ⟨3, .request⟩, ⟨5, .close⟩, ⟨6, .request⟩, ⟨7, .finish .success⟩]
    let cancelled := start.after (turns ++ [⟨9, .cancel⟩])
    let later := [⟨50, .request⟩, ⟨106, .wake ⟨0, 105⟩⟩, ⟨107, .wake ⟨1, 107⟩⟩]
    let renumbered := [⟨50, .request⟩, ⟨107, .wake ⟨0, 107⟩⟩]
    let undone :=
      start.after ([⟨0, .request⟩, ⟨5, .close⟩, ⟨7, .finish .success⟩] ++ [⟨9, .cancel⟩])
    (start.after turns).isOpen = true ∧ (start.after turns).gate.phase = .scheduled ⟨0, 105⟩ ∧
    undone = cancelled.takeBack 0 ∧
    undone.after renumbered = (cancelled.after later).takeBack 0 ∧
    sights (undone.course renumbered) = sights (cancelled.course later) ∧
    sights (cancelled.course later) =
      [⟨50, some (.scheduled 57), none, "pending_scheduled", 1, false⟩,
        ⟨107, none, none, "running", 1, true⟩] := by
  intro start turns cancelled later renumbered undone
  have isOpen : (start.after turns).isOpen = true := by decide
  have phase : (start.after turns).gate.phase = .scheduled ⟨0, 105⟩ := by decide
  have undoes := (cancel_undoes_pending_batch 100 turns 9 isOpen).1
  simp only [show ((ofDelay 100).after turns).gate.phase = .scheduled ⟨0, 105⟩ from phase] at undoes
  obtain ⟨same, alike, _⟩ := undoes
  exact ⟨isOpen, phase, same, (alike later).1, (alike later).2, by decide⟩

end Situation

end Gate

end CodeNavigator
