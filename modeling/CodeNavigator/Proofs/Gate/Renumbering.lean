/-
This file proves that a ticket which has passed leaves no trace. Once a ticket was given out and the
gate does not wait for it, the situation goes on as one in which the ticket was never given out: the
later tickets are one smaller, and the timer task that holds the ticket is not there. The two
situations take the same turns, where those of the missing task fall away, and whoever calls the
gate sees the same in both.

Taking the ticket back is compared with each operation of the gate first, and then with each move.
It never confuses two tickets, because only the ticket that is taken back shares its new number.
-/

import CodeNavigator.Proofs.Gate.Exclusion

namespace CodeNavigator

/-! ### Tickets without one of them -/

/-- The timer, had the taken ticket not been given out. -/
def Timer.renumber (taken : Nat) (timer : Timer) : Timer :=
  { timer with ticket := if taken < timer.ticket then timer.ticket - 1 else timer.ticket }

theorem Timer.renumber_inj {taken : Nat} {first second : Timer} (firstOther : first.ticket ≠ taken)
    (secondOther : second.ticket ≠ taken) :
    first.renumber taken = second.renumber taken ↔ first = second := by
  obtain ⟨firstTicket, firstDue⟩ := first
  obtain ⟨secondTicket, secondDue⟩ := second
  simp only [Timer.renumber, Timer.mk.injEq] at firstOther secondOther ⊢
  refine and_congr_left fun _ => ?_
  split <;> split <;> omega

theorem Timer.renumber_ticket_inj {taken : Nat} {first second : Timer}
    (firstOther : first.ticket ≠ taken) (secondOther : second.ticket ≠ taken) :
    (first.renumber taken).ticket = (second.renumber taken).ticket ↔
      first.ticket = second.ticket := by
  simp only [Timer.renumber]
  split <;> split <;> omega

/-- Every timer comes from one with another ticket than the taken one. -/
theorem Timer.exists_renumber_eq (taken : Nat) (timer : Timer) :
    ∃ other : Timer, other.ticket ≠ taken ∧ other.renumber taken = timer := by
  obtain ⟨ticket, due⟩ := timer
  by_cases later : taken ≤ ticket
  · refine ⟨⟨ticket + 1, due⟩, Nat.ne_of_gt (Nat.lt_succ_of_le later), ?_⟩
    simp only [Timer.renumber, if_pos (Nat.lt_succ_of_le later), Nat.add_sub_cancel]
  · refine ⟨⟨ticket, due⟩, fun same => later (Nat.le_of_eq same.symm), ?_⟩
    simp only [Timer.renumber, if_neg fun less => later (Nat.le_of_lt less)]

def Phase.renumber (taken : Nat) : Phase → Phase
  | .scheduled timer => .scheduled (timer.renumber taken)
  | other => other

theorem Phase.name_renumber (taken : Nat) (phase : Phase) :
    (phase.renumber taken).name = phase.name := by
  cases phase <;> rfl

theorem Phase.isExecuting_renumber (taken : Nat) (phase : Phase) :
    (phase.renumber taken).isExecuting = phase.isExecuting := by
  cases phase <;> rfl

theorem Phase.renumber_eq_scheduled_iff {taken : Nat} {phase : Phase} {timer : Timer}
    (other : timer.ticket ≠ taken)
    (passed : ∀ waiting, phase = .scheduled waiting → waiting.ticket ≠ taken) :
    phase.renumber taken = .scheduled (timer.renumber taken) ↔ phase = .scheduled timer := by
  cases phase with
  | scheduled waiting =>
    rw [Phase.renumber, Phase.scheduled.injEq, Phase.scheduled.injEq]
    exact Timer.renumber_inj (passed waiting rfl) other
  | _ => simp [Phase.renumber]

namespace Gate

/-! ### Operations without a ticket -/

/-- The gate, had the taken ticket not been given out. -/
def renumber (taken : Nat) (gate : Gate) : Gate :=
  { gate with phase := gate.phase.renumber taken, nextTicket := gate.nextTicket - 1 }

variable {gate : Gate} {taken : Nat}

theorem renumber_schedule (given : taken < gate.nextTicket) (now wait : Nat) :
    (gate.schedule now wait).renumber taken = (gate.renumber taken).schedule now wait := by
  have earlier : gate.nextTicket - 1 + 1 = gate.nextTicket := by omega
  simp [schedule, renumber, Phase.renumber, Timer.renumber, given, earlier]

theorem request_renumber (given : taken < gate.nextTicket) (now : Nat) :
    (gate.renumber taken).request now =
      ((gate.request now).1, (gate.request now).2.renumber taken) := by
  have wait : (gate.renumber taken).wait now = gate.wait now := rfl
  have deferred := renumber_schedule given now (gate.wait now)
  unfold request
  rw [wait]
  cases phase : gate.phase with
  | idle =>
    simp only [renumber, phase, Phase.renumber] at deferred ⊢
    split
    · rfl
    · exact congrArg _ deferred.symm
  | _ => simp [renumber, phase, Phase.renumber]

theorem close_renumber (given : taken < gate.nextTicket) (now : Nat) :
    (gate.renumber taken).close now = (gate.close now).renumber taken := by
  have earlier : gate.nextTicket - 1 + 1 = gate.nextTicket := by omega
  have executing : (gate.renumber taken).phase.isExecuting = gate.phase.isExecuting :=
    gate.phase.isExecuting_renumber taken
  unfold close
  rw [executing]
  cases gate.phase.isExecuting <;> cases flagged : gate.hasFollowUp <;>
    simp [renumber, flagged, schedule, Phase.renumber, Timer.renumber, given, earlier]

theorem finish_renumber (given : taken < gate.nextTicket) (now : Nat) :
    (gate.renumber taken).finish now = (gate.finish now).renumber taken := by
  rw [finish, close_renumber given]
  rfl

theorem cancel_renumber (gate : Gate) (taken : Nat) :
    (gate.renumber taken).cancel = (gate.cancel.1, gate.cancel.2.renumber taken) := by
  unfold cancel
  cases phase : gate.phase <;> simp [renumber, phase, Phase.renumber]

theorem wake_renumber {timer : Timer} (other : timer.ticket ≠ taken)
    (passed : ∀ waiting, gate.phase = .scheduled waiting → waiting.ticket ≠ taken) :
    (gate.renumber taken).wake (timer.renumber taken).ticket =
      (gate.wake timer.ticket).map (renumber taken) := by
  unfold wake
  cases phase : gate.phase with
  | scheduled waiting =>
    have same := Timer.renumber_ticket_inj (passed waiting phase) other
    by_cases awake : waiting.ticket = timer.ticket
    · simp [renumber, phase, Phase.renumber, awake, same.mpr awake]
    · simp [renumber, phase, Phase.renumber, awake, mt same.mp awake]
  | _ => simp [renumber, phase, Phase.renumber]

/-! ### Tasks without a ticket -/

def TimerTask.renumber (taken : Nat) (task : TimerTask) : TimerTask :=
  { task with timer := task.timer.renumber taken }

/-- The tasks, had the taken ticket not been given out. -/
def remainingTasks (taken : Nat) (tasks : List TimerTask) : List TimerTask :=
  (tasks.filter fun task => task.timer.ticket ≠ taken).map (TimerTask.renumber taken)

theorem remainingTasks_append (taken : Nat) (first second : List TimerTask) :
    remainingTasks taken (first ++ second) =
      remainingTasks taken first ++ remainingTasks taken second := by
  rw [remainingTasks, List.filter_append, List.map_append]
  rfl

theorem mem_remainingTasks_iff {timer : Timer} (other : timer.ticket ≠ taken) (isAborted : Bool)
    (tasks : List TimerTask) :
    ⟨timer.renumber taken, isAborted⟩ ∈ remainingTasks taken tasks ↔
      ⟨timer, isAborted⟩ ∈ tasks := by
  simp only [remainingTasks, List.mem_map, List.mem_filter, decide_eq_true_eq]
  constructor
  · rintro ⟨⟨listed, wasAborted⟩, ⟨member, listedOther⟩, same⟩
    obtain ⟨sameTimer, rfl⟩ := TimerTask.mk.inj same
    obtain rfl := (Timer.renumber_inj listedOther other).mp sameTimer
    exact member
  · intro member
    exact ⟨_, ⟨member, other⟩, rfl⟩

theorem any_remainingTasks {timer : Timer} (other : timer.ticket ≠ taken) (tasks : List TimerTask) :
    (remainingTasks taken tasks).any (fun task => task.timer = timer.renumber taken) =
      tasks.any fun task => task.timer = timer := by
  have listed (tasks : List TimerTask) (timer : Timer) :
      (tasks.any fun task => task.timer = timer) = true ↔
        ∃ isAborted, ⟨timer, isAborted⟩ ∈ tasks := by
    simp only [List.any_eq_true, decide_eq_true_eq]
    exact ⟨fun ⟨⟨_, isAborted⟩, member, same⟩ => ⟨isAborted, same ▸ member⟩,
      fun ⟨isAborted, member⟩ => ⟨_, member, rfl⟩⟩
  rw [Bool.eq_iff_iff, listed, listed]
  exact exists_congr fun isAborted => mem_remainingTasks_iff other isAborted tasks

theorem remainingTasks_filter {timer : Timer} (other : timer.ticket ≠ taken)
    (tasks : List TimerTask) :
    remainingTasks taken (tasks.filter fun task => task.timer ≠ timer) =
      (remainingTasks taken tasks).filter fun task => task.timer ≠ timer.renumber taken := by
  rw [remainingTasks, remainingTasks, List.filter_map, List.filter_filter, List.filter_filter]
  refine congrArg _ (List.filter_congr fun task _ => ?_)
  by_cases listedOther : task.timer.ticket = taken
  · simp [listedOther]
  · have same := Timer.renumber_inj listedOther other
    simp [listedOther, TimerTask.renumber, same]

/-- The tasks of the missing ticket were not there anyway. -/
theorem remainingTasks_filter_taken {timer : Timer} (same : timer.ticket = taken)
    (tasks : List TimerTask) :
    remainingTasks taken (tasks.filter fun task => task.timer ≠ timer) =
      remainingTasks taken tasks := by
  rw [remainingTasks, remainingTasks, List.filter_filter]
  refine congrArg _ (List.filter_congr fun task _ => ?_)
  by_cases listed : task.timer = timer
  · simp [listed, same]
  · simp [listed]

theorem remainingTasks_deferredTask {before after : Gate} (given : taken < before.nextTicket)
    (passed : ∀ timer, after.phase = .scheduled timer → timer.ticket ≠ taken) :
    remainingTasks taken (deferredTask before after) =
      deferredTask (before.renumber taken) (after.renumber taken) := by
  unfold deferredTask
  cases phase : after.phase with
  | scheduled timer =>
    have other := passed timer phase
    by_cases new : before.nextTicket ≤ timer.ticket
    · have later : taken < timer.ticket := Nat.lt_of_lt_of_le given new
      have still : before.nextTicket - 1 ≤ timer.ticket - 1 := Nat.sub_le_sub_right new 1
      simp [renumber, phase, Phase.renumber, Timer.renumber, TimerTask.renumber, remainingTasks,
        new, other, later, still]
    · have still : ¬ before.nextTicket - 1 ≤ (timer.renumber taken).ticket := by
        simp only [Timer.renumber]
        split <;> omega
      simp [renumber, phase, Phase.renumber, remainingTasks, new, still]
  | _ => simp [renumber, phase, Phase.renumber, remainingTasks]

/-! ### Turns without a ticket -/

/-- The move, had the taken ticket not been given out. The moves of its task fall away. -/
def Move.renumber (taken : Nat) : Move → Option Move
  | .wake timer => if timer.ticket = taken then none else some (.wake (timer.renumber taken))
  | .vanish timer => if timer.ticket = taken then none else some (.vanish (timer.renumber taken))
  | other => some other

theorem Move.renumber_wake {timer : Timer} {renumbered : Move}
    (same : (Move.wake timer).renumber taken = some renumbered) :
    timer.ticket ≠ taken ∧ .wake (timer.renumber taken) = renumbered := by
  simpa [Move.renumber] using same

theorem Move.renumber_vanish {timer : Timer} {renumbered : Move}
    (same : (Move.vanish timer).renumber taken = some renumbered) :
    timer.ticket ≠ taken ∧ .vanish (timer.renumber taken) = renumbered := by
  simpa [Move.renumber] using same

def Turn.renumber (taken : Nat) (turn : Turn) : Option Turn :=
  (turn.move.renumber taken).map fun move => { turn with move := move }

theorem Turn.exists_renumber_eq (taken : Nat) (turn : Turn) :
    ∃ other : Turn, other.renumber taken = some turn := by
  obtain ⟨now, move⟩ := turn
  cases move with
  | wake timer =>
    obtain ⟨other, apart, rfl⟩ := timer.exists_renumber_eq taken
    exact ⟨⟨now, .wake other⟩, by simp [Turn.renumber, Move.renumber, apart]⟩
  | vanish timer =>
    obtain ⟨other, apart, rfl⟩ := timer.exists_renumber_eq taken
    exact ⟨⟨now, .vanish other⟩, by simp [Turn.renumber, Move.renumber, apart]⟩
  | request => exact ⟨⟨now, .request⟩, rfl⟩
  | finish ending => exact ⟨⟨now, .finish ending⟩, rfl⟩
  | close => exact ⟨⟨now, .close⟩, rfl⟩
  | cancel => exact ⟨⟨now, .cancel⟩, rfl⟩
  | drop => exact ⟨⟨now, .drop⟩, rfl⟩

/-- Every list of turns is what another one comes to without the ticket. -/
theorem exists_filterMap_renumber_eq (taken : Nat) (turns : List Turn) :
    ∃ others : List Turn, others.filterMap (Turn.renumber taken) = turns := by
  induction turns with
  | nil => exact ⟨[], rfl⟩
  | cons turn rest inductionHypothesis =>
    obtain ⟨other, same⟩ := turn.exists_renumber_eq taken
    obtain ⟨others, sameRest⟩ := inductionHypothesis
    exact ⟨other :: others, by rw [List.filterMap_cons_some same, sameRest]⟩

/-- What a turn shows to those who use the gate and to its work: when it was taken, what it
answered, which phase and how many runs it left, and whether it started a run. -/
structure Sight where
  time : Nat
  disposition : Option Disposition
  hadPending : Option Bool
  phase : String
  runs : Nat
  startsRun : Bool
deriving DecidableEq

namespace Occurrence

def sight (occurrence : Occurrence) : Sight where
  time := occurrence.turn.time
  disposition :=
    match occurrence.turn.move with
    | .request => some (occurrence.before.gate.request occurrence.turn.time).1
    | _ => none
  hadPending :=
    match occurrence.turn.move with
    | .cancel => some occurrence.before.gate.cancel.1
    | _ => none
  phase := occurrence.after.gate.phase.name
  runs := occurrence.after.gate.runs
  startsRun := occurrence.startsRun

/-- Nobody sees a timer task go, or wake too late. -/
def isSilent (occurrence : Occurrence) : Bool :=
  match occurrence.turn.move with
  | .vanish _ => true
  | .wake _ => !occurrence.startsRun
  | _ => false

end Occurrence

/-- What a course of events shows. -/
def sights (course : List Occurrence) : List Sight :=
  (course.filter fun occurrence => !occurrence.isSilent).map Occurrence.sight

namespace Situation

/-- The situation, had the taken ticket not been given out. -/
def takeBack (situation : Situation) (taken : Nat) : Situation :=
  { situation with
    gate := situation.gate.renumber taken
    tasks := remainingTasks taken situation.tasks }

variable {situation : Situation} {taken : Nat}

theorem permits_takeBack (situation : Situation) {move renumbered : Move}
    (same : move.renumber taken = some renumbered) :
    (situation.takeBack taken).permits renumbered = situation.permits move := by
  cases move with
  | wake timer =>
    obtain ⟨other, rfl⟩ := Move.renumber_wake same
    exact any_remainingTasks other situation.tasks
  | vanish timer =>
    obtain ⟨other, rfl⟩ := Move.renumber_vanish same
    rw [Bool.eq_iff_iff]
    exact List.contains_iff_mem.trans
      ((mem_remainingTasks_iff other true situation.tasks).trans List.contains_iff_mem.symm)
  | _ =>
    cases same
    rfl

theorem Passed.adopt_takeBack (passed : situation.Passed taken) (gate : Gate)
    (still : ∀ timer, gate.phase = .scheduled timer → timer.ticket ≠ taken) :
    (situation.adopt gate).takeBack taken =
      (situation.takeBack taken).adopt (gate.renumber taken) := by
  unfold adopt takeBack
  rw [remainingTasks_append, remainingTasks_deferredTask passed.1 still]

/-- The tasks that remain are the same before and after they are aborted. -/
theorem remainingTasks_abandon (situation : Situation) (taken : Nat) :
    remainingTasks taken situation.abandon.tasks =
      (situation.tasks.filter fun task => task.timer.ticket ≠ taken).map fun task =>
        (if situation.gate.phase = .scheduled task.timer then { task with isAborted := true }
          else task).renumber taken := by
  have kept : ((fun task : TimerTask => decide (task.timer.ticket ≠ taken)) ∘ fun task =>
      if situation.gate.phase = .scheduled task.timer then { task with isAborted := true }
      else task) = fun task => decide (task.timer.ticket ≠ taken) := by
    funext task
    simp only [Function.comp]
    split <;> rfl
  rw [abandon, remainingTasks, List.filter_map, List.map_map, kept]
  rfl

theorem Passed.abandon_takeBack (passed : situation.Passed taken) :
    situation.abandon.takeBack taken = (situation.takeBack taken).abandon := by
  have aborted (task : TimerTask) (other : task.timer.ticket ≠ taken) :
      situation.gate.phase.renumber taken = .scheduled (task.timer.renumber taken) ↔
        situation.gate.phase = .scheduled task.timer :=
    Phase.renumber_eq_scheduled_iff other passed.2
  have tasks : remainingTasks taken situation.abandon.tasks =
      (situation.takeBack taken).abandon.tasks := by
    rw [remainingTasks_abandon]
    simp only [abandon, takeBack, remainingTasks, List.map_map]
    refine List.map_congr_left fun task member => ?_
    have other : task.timer.ticket ≠ taken := of_decide_eq_true (List.mem_filter.mp member).2
    simp only [Function.comp, renumber, TimerTask.renumber, aborted task other]
    split <;> rfl
  have gate : situation.abandon.gate.renumber taken = (situation.takeBack taken).abandon.gate :=
    (congrArg Prod.snd (situation.gate.cancel_renumber taken)).symm
  rw [takeBack, gate, tasks]
  rfl

theorem Passed.make_takeBack (passed : situation.Passed taken) {turn renumbered : Turn}
    (same : turn.renumber taken = some renumbered) :
    (situation.make turn).takeBack taken = (situation.takeBack taken).make renumbered := by
  obtain ⟨now, move⟩ := turn
  obtain ⟨renumbered, moved, rfl⟩ := Option.map_eq_some_iff.mp same
  cases move with
  | request =>
    cases moved
    have adopted := passed.adopt_takeBack (situation.gate.request now).2
      (passed.make ⟨now, .request⟩).2
    have request : (situation.takeBack taken).gate.request now = _ := request_renumber passed.1 now
    simp only [Situation.make, request]
    rw [← adopted]
    rfl
  | wake timer =>
    obtain ⟨other, rfl⟩ := Move.renumber_wake moved
    have woken : (situation.takeBack taken).gate.wake (timer.renumber taken).ticket = _ :=
      wake_renumber other passed.2
    have tasks := remainingTasks_filter other situation.tasks
    simp only [Situation.make, woken]
    cases situation.gate.wake timer.ticket with
    | some gate => simp only [takeBack, withdraw, tasks, Option.map_some]
    | none => simp only [takeBack, withdraw, tasks, Option.map_none]
  | vanish timer =>
    obtain ⟨other, rfl⟩ := Move.renumber_vanish moved
    simp only [Situation.make, takeBack, withdraw, remainingTasks_filter other]
  | finish ending =>
    cases moved
    have adopted := passed.adopt_takeBack (situation.gate.finish now)
      (passed.make ⟨now, .finish ending⟩).2
    have finish : (situation.takeBack taken).gate.finish now = _ := finish_renumber passed.1 now
    simp only [Situation.make, finish]
    rw [← adopted]
    rfl
  | close =>
    cases moved
    have close : (situation.takeBack taken).gate.close now = _ := close_renumber passed.1 now
    simp only [Situation.make, close]
    exact passed.adopt_takeBack (situation.gate.close now) (passed.make ⟨now, .close⟩).2
  | cancel =>
    cases moved
    exact passed.abandon_takeBack
  | drop =>
    cases moved
    simp only [Situation.make, ← passed.abandon_takeBack]
    rfl

/-- The task of a passed ticket goes, or wakes too late, and leaves nothing behind. -/
theorem Passed.make_of_renumber_eq_none (passed : situation.Passed taken) {turn : Turn}
    (gone : turn.renumber taken = none) :
    (situation.make turn).takeBack taken = situation.takeBack taken ∧
      Occurrence.isSilent ⟨situation, turn⟩ = true := by
  obtain ⟨now, move⟩ := turn
  cases move with
  | wake timer =>
    obtain rfl : timer.ticket = taken := by simpa [Turn.renumber, Move.renumber] using gone
    have late : situation.gate.wake timer.ticket = none := wake_eq_none passed.2
    constructor
    · simp only [Situation.make, late, takeBack, withdraw, remainingTasks_filter_taken rfl]
    · simp only [Occurrence.isSilent, passed.not_startsRun, Bool.not_false]
  | vanish timer =>
    obtain rfl : timer.ticket = taken := by simpa [Turn.renumber, Move.renumber] using gone
    exact ⟨by simp only [Situation.make, takeBack, withdraw, remainingTasks_filter_taken rfl], rfl⟩
  | _ => cases gone

/-- What can be seen of a turn does not depend on the ticket. -/
theorem Passed.sight_takeBack (passed : situation.Passed taken) {turn renumbered : Turn}
    (same : turn.renumber taken = some renumbered)
    (possible : situation.permits turn.move = true) :
    Occurrence.sight ⟨situation.takeBack taken, renumbered⟩ = Occurrence.sight ⟨situation, turn⟩ ∧
      Occurrence.isSilent ⟨situation.takeBack taken, renumbered⟩ =
        Occurrence.isSilent ⟨situation, turn⟩ := by
  obtain ⟨move, moved, rfl⟩ := Option.map_eq_some_iff.mp same
  have possible' : (situation.takeBack taken).permits move = true :=
    (situation.permits_takeBack moved).trans possible
  have after : (situation.takeBack taken).step { turn with move := move } =
      (situation.step turn).takeBack taken := by
    rw [step_of_permits possible', step_of_permits possible, passed.make_takeBack same]
  have phase (situation : Situation) : (situation.takeBack taken).gate.phase =
      situation.gate.phase.renumber taken := rfl
  have startsRun : Occurrence.startsRun ⟨situation.takeBack taken, { turn with move := move }⟩ =
      Occurrence.startsRun ⟨situation, turn⟩ := by
    simp only [Occurrence.startsRun, Occurrence.after, after, phase, Phase.isExecuting_renumber]
  have answers : (situation.takeBack taken).gate.request turn.time = _ ∧
      (situation.takeBack taken).gate.cancel = _ :=
    ⟨request_renumber passed.1 turn.time, cancel_renumber situation.gate taken⟩
  unfold Occurrence.sight Occurrence.isSilent
  simp only [startsRun, Occurrence.after, after, phase, Phase.name_renumber, answers]
  cases kind : turn.move with
  | wake timer =>
    rw [kind] at moved
    obtain ⟨_, rfl⟩ := Move.renumber_wake moved
    exact ⟨rfl, rfl⟩
  | vanish timer =>
    rw [kind] at moved
    obtain ⟨_, rfl⟩ := Move.renumber_vanish moved
    exact ⟨rfl, rfl⟩
  | _ =>
    rw [kind] at moved
    cases moved
    exact ⟨rfl, rfl⟩

/-! ### Histories without a ticket -/

theorem sights_append (first second : List Occurrence) :
    sights (first ++ second) = sights first ++ sights second := by
  rw [sights, List.filter_append, List.map_append]
  rfl

theorem Passed.step_takeBack (passed : situation.Passed taken) (turn : Turn) :
    (situation.takeBack taken).after (turn.renumber taken).toList =
        (situation.step turn).takeBack taken ∧
      sights ((situation.takeBack taken).course (turn.renumber taken).toList) =
        sights (situation.course [turn]) := by
  cases same : turn.renumber taken with
  | none =>
    obtain ⟨gone, silent⟩ := passed.make_of_renumber_eq_none same
    constructor
    · unfold step
      split
      · exact gone.symm
      · rfl
    · by_cases possible : situation.permits turn.move = true
      · simp [course, sights, possible, silent]
      · simp [course, sights, possible]
  | some renumbered =>
    obtain ⟨move, moved, rfl⟩ := Option.map_eq_some_iff.mp same
    have permits := situation.permits_takeBack moved
    simp only [Option.toList_some, Situation.after, List.foldl_cons, List.foldl_nil]
    by_cases possible : situation.permits turn.move = true
    · obtain ⟨sight, silent⟩ := passed.sight_takeBack same possible
      constructor
      · rw [step_of_permits possible, step_of_permits (permits.trans possible),
          passed.make_takeBack same]
      · simp only [course, permits, possible, if_true, List.append_nil, sights,
          List.filter_singleton, silent]
        cases Occurrence.isSilent ⟨situation, turn⟩ with
        | true => rfl
        | false => simp [sight]
    · constructor
      · rw [step, step, if_neg possible, if_neg (permits ▸ possible)]
      · simp only [course, permits, possible, Bool.false_eq_true, if_false, List.append_nil]

/-- A situation goes on as if a ticket that has passed had never been given out. -/
theorem Passed.after_takeBack (passed : situation.Passed taken) (turns : List Turn) :
    (situation.takeBack taken).after (turns.filterMap (Turn.renumber taken)) =
        (situation.after turns).takeBack taken ∧
      sights ((situation.takeBack taken).course (turns.filterMap (Turn.renumber taken))) =
        sights (situation.course turns) := by
  induction turns generalizing situation with
  | nil => exact ⟨rfl, rfl⟩
  | cons turn rest inductionHypothesis =>
    obtain ⟨after, seen⟩ := passed.step_takeBack turn
    have next : (situation.step turn).Passed taken := passed.after [turn]
    obtain ⟨afterRest, seenRest⟩ := inductionHypothesis next
    have split : (turn :: rest).filterMap (Turn.renumber taken) =
        (turn.renumber taken).toList ++ rest.filterMap (Turn.renumber taken) := by
      cases same : turn.renumber taken <;> simp [same]
    have course : situation.course (turn :: rest) =
        situation.course [turn] ++ (situation.step turn).course rest :=
      course_append situation [turn] rest
    rw [split, after_append, course_append, after, afterRest, after_cons, course, sights_append,
      sights_append, seen, seenRest]
    exact ⟨rfl, rfl⟩

end Situation

end Gate

end CodeNavigator
