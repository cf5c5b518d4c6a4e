/-
This file proves that no timer starts a run but the one that the gate waits for. To abort a task is
a best effort, so every task that was ever spawned may still wake, at any time and in any order, and
only its ticket decides what comes of it. The tickets are given out as the numbers from zero on. So
no two tasks have the same ticket, the gate waits for none but the task that was spawned last, and a
task that the gate does not wait for has a ticket that has passed, which it stays for ever.

A cancellation leaves no batch owed. The balance of the batches then lets no run start before a
request has opened a new one, and the balance of the runs counts each execution that was in progress
once, when it ends.
-/

import CodeNavigator.Proofs.Gate.Batch
import CodeNavigator.Proofs.Gate.Exclusion

namespace CodeNavigator

namespace Gate

/-- The timers of the tasks that are spawned in a course, in their order. -/
def spawned (course : List Occurrence) : List Timer :=
  course.flatMap fun occurrence =>
    (deferredTask occurrence.before.gate occurrence.after.gate).map TimerTask.timer

theorem spawned_cons (occurrence : Occurrence) (course : List Occurrence) :
    spawned (occurrence :: course) = spawned [occurrence] ++ spawned course := by
  simp [spawned]

/-- The task of a timer wakes and starts a run. -/
def Occurrence.isStartedBy (timer : Timer) (occurrence : Occurrence) : Bool :=
  occurrence.turn.move = .wake timer && occurrence.startsRun

/-- An execution ends at some time. -/
def Turn.ofEnding (ending : Nat × Ending) : Turn :=
  ⟨ending.1, .finish ending.2⟩

namespace Situation

variable {situation : Situation} {turn : Turn} {timer : Timer}

/-! ### The tasks that are spawned -/

/-- A move spawns no task, or one under the next ticket. -/
theorem Sound.spawned_cases (sound : situation.Sound)
    (possible : situation.permits turn.move = true) :
    (spawned [⟨situation, turn⟩] = [] ∧
      (situation.make turn).gate.nextTicket = situation.gate.nextTicket) ∨
    ((∃ due, spawned [⟨situation, turn⟩] = [⟨situation.gate.nextTicket, due⟩]) ∧
      (situation.make turn).gate.nextTicket = situation.gate.nextTicket + 1) := by
  have tasks : spawned [⟨situation, turn⟩] =
      (deferredTask situation.gate (situation.make turn).gate).map TimerTask.timer := by
    simp [spawned, Occurrence.after, step_of_permits possible]
  rw [tasks]
  rcases situation.make_waiting_cases turn with keeps | ⟨next, _, due, deferred⟩ | ⟨same, none⟩
  · rw [sound.deferredTask_eq_nil keeps]
    exact Or.inl ⟨rfl, keeps.1⟩
  · rw [deferredTask_of_deferred deferred]
    exact Or.inr ⟨⟨due, rfl⟩, next⟩
  · rw [deferredTask_of_none none]
    exact Or.inl ⟨rfl, same⟩

/-- Tickets are given out in the order of the numbers, each once. -/
theorem Sound.tickets_spawned (sound : situation.Sound) (turns : List Turn) :
    (spawned (situation.course turns)).map Timer.ticket =
        List.range' situation.gate.nextTicket (spawned (situation.course turns)).length ∧
      (situation.after turns).gate.nextTicket =
        situation.gate.nextTicket + (spawned (situation.course turns)).length := by
  refine sound.course_induction (motive := fun first course last =>
    (spawned course).map Timer.ticket =
        List.range' first.gate.nextTicket (spawned course).length ∧
      last.gate.nextTicket = first.gate.nextTicket + (spawned course).length)
    (fun _ => ⟨rfl, rfl⟩) ?_ turns
  intro first turn rest sound possible ⟨tickets, last⟩
  rw [spawned_cons, last, List.map_append, tickets, List.length_append]
  rcases sound.spawned_cases possible with ⟨none, next⟩ | ⟨⟨due, one⟩, next⟩
  · simp [none, next]
  · rw [one, next, List.map_singleton, List.length_singleton, Nat.add_comm 1]
    exact ⟨rfl, by omega⟩

/-- A task has been there before, or is spawned. -/
theorem mem_tasks_make {task : TimerTask} (member : task ∈ (situation.make turn).tasks) :
    (∃ old ∈ situation.tasks, old.timer = task.timer) ∨
      task ∈ deferredTask situation.gate (situation.make turn).gate := by
  obtain ⟨now, move⟩ := turn
  have withdrawn {timer : Timer} (left : task ∈ (situation.withdraw timer).tasks) :
      ∃ old ∈ situation.tasks, old.timer = task.timer :=
    ⟨task, List.mem_of_mem_filter left, rfl⟩
  have adopted {gate : Gate} (listed : task ∈ (situation.adopt gate).tasks) :
      (∃ old ∈ situation.tasks, old.timer = task.timer) ∨
        task ∈ deferredTask situation.gate gate :=
    (List.mem_append.mp listed).imp_left fun old => ⟨task, old, rfl⟩
  have abandoned (listed : task ∈ situation.abandon.tasks) :
      ∃ old ∈ situation.tasks, old.timer = task.timer := by
    obtain ⟨old, oldMember, rfl⟩ := List.mem_map.mp listed
    refine ⟨old, oldMember, ?_⟩
    split <;> rfl
  cases move with
  | request => exact adopted member
  | wake timer =>
    have left : task ∈ (situation.withdraw timer).tasks := by
      simp only [make] at member
      split at member <;> exact member
    exact Or.inl (withdrawn left)
  | vanish timer => exact Or.inl (withdrawn member)
  | finish ending => exact adopted member
  | close => exact adopted member
  | cancel => exact Or.inl (abandoned member)
  | drop => exact Or.inl (abandoned member)

/-- Every task was there at first, or has been spawned. -/
theorem Sound.mem_tasks_after (sound : situation.Sound) {turns : List Turn} {task : TimerTask}
    (member : task ∈ (situation.after turns).tasks) :
    (∃ old ∈ situation.tasks, old.timer = task.timer) ∨
      task.timer ∈ spawned (situation.course turns) := by
  refine sound.course_induction (motive := fun first course last => ∀ task ∈ last.tasks,
    (∃ old ∈ first.tasks, old.timer = task.timer) ∨ task.timer ∈ spawned course)
    (fun _ task member => Or.inl ⟨task, member, rfl⟩) ?_ turns task member
  intro first turn rest sound possible inductionHypothesis task member
  rw [spawned_cons, List.mem_append]
  rcases inductionHypothesis task member with ⟨made, madeMember, same⟩ | later
  · rw [← same]
    refine (mem_tasks_make madeMember).imp_right fun new => Or.inl ?_
    rw [spawned, List.flatMap_singleton, Occurrence.after, step_of_permits possible]
    exact List.mem_map_of_mem new
  · exact Or.inr (Or.inr later)

/-! ### Tasks that come too late -/

/-- A task whose ticket has passed starts no run any more. -/
theorem Passed.not_isStartedBy (passed : situation.Passed timer.ticket) (turns : List Turn) :
    ∀ occurrence ∈ situation.course turns, occurrence.isStartedBy timer = false := by
  intro occurrence member
  obtain ⟨earlier, _, _, before, _⟩ := exists_of_mem_course member
  obtain ⟨initial, now, move⟩ := occurrence
  obtain rfl : initial = situation.after earlier := before
  by_cases wakes : move = .wake timer
  · subst wakes
    rw [Occurrence.isStartedBy, (passed.after earlier).not_startsRun now, Bool.and_false]
  · rw [Occurrence.isStartedBy, decide_eq_false wakes, Bool.false_and]

/-- No task starts more than one run, since the ticket of a task that has started one has passed. -/
theorem Sound.countP_isStartedBy_le (sound : situation.Sound) (timer : Timer) (turns : List Turn) :
    (situation.course turns).countP (Occurrence.isStartedBy timer) ≤ 1 := by
  refine sound.course_induction (motive := fun _ course _ =>
    course.countP (Occurrence.isStartedBy timer) ≤ 1) (fun _ => Nat.zero_le 1) ?_ turns
  intro first turn rest sound possible inductionHypothesis
  by_cases starts : Occurrence.isStartedBy timer ⟨first, turn⟩ = true
  · obtain ⟨now, move⟩ := turn
    obtain ⟨wakes, started⟩ := Bool.and_eq_true_iff.mp starts
    obtain rfl : move = .wake timer := of_decide_eq_true wakes
    rw [sound.startsRun_eq possible] at started
    have waiting : first.gate.phase = .scheduled timer := of_decide_eq_true started
    have passed : (first.make ⟨now, .wake timer⟩).Passed timer.ticket := by
      rw [Passed, gate_make]
      simp only [wake_of_scheduled waiting]
      exact ⟨sound.issued _ ((sound.live timer).mpr waiting), nofun⟩
    have silent := List.countP_eq_zero.mpr fun occurrence member =>
      ne_true_of_eq_false (passed.not_isStartedBy rest occurrence member)
    exact Nat.le_of_eq (by rw [List.countP_cons_of_pos starts, silent])
  · rw [List.countP_cons_of_neg starts]
    exact inductionHypothesis

section History

variable {delay : Nat} {turns : List Turn}

theorem tickets_spawned_ofDelay (delay : Nat) (turns : List Turn) :
    (spawned ((ofDelay delay).course turns)).map Timer.ticket =
        List.range (spawned ((ofDelay delay).course turns)).length ∧
      ((ofDelay delay).after turns).gate.nextTicket =
        (spawned ((ofDelay delay).course turns)).length := by
  obtain ⟨tickets, next⟩ := (sound_ofDelay delay).tickets_spawned turns
  exact ⟨tickets.trans List.range_eq_range'.symm, next.trans (Nat.zero_add _)⟩

theorem timer_mem_spawned {task : TimerTask} (member : task ∈ ((ofDelay delay).after turns).tasks) :
    task.timer ∈ spawned ((ofDelay delay).course turns) := by
  rcases (sound_ofDelay delay).mem_tasks_after member with ⟨old, absent, _⟩ | listed
  · cases absent
  · exact listed

theorem mem_spawned_of_waiting
    (waiting : ((ofDelay delay).after turns).gate.phase = .scheduled timer) :
    timer ∈ spawned ((ofDelay delay).course turns) :=
  timer_mem_spawned ((((sound_ofDelay delay).after turns).live timer).mpr waiting)

/-- The task that the gate waits for is the one that was spawned last. -/
theorem getLast?_spawned (waiting : ((ofDelay delay).after turns).gate.phase = .scheduled timer) :
    (spawned ((ofDelay delay).course turns)).getLast? = some timer := by
  obtain ⟨tickets, next⟩ := tickets_spawned_ofDelay delay turns
  have newest := (show (ofDelay delay).Newest from nofun).after turns timer waiting
  obtain ⟨index, here⟩ := List.getElem?_of_mem (mem_spawned_of_waiting waiting)
  have place := congrArg (fun tickets => tickets[index]?) tickets
  simp only [List.getElem?_map, here, Option.map_some] at place
  obtain ⟨_, ticket⟩ := List.getElem?_eq_some_iff.mp place.symm
  rw [List.getElem_range] at ticket
  rw [List.getLast?_eq_getElem?, ← here]
  congr 1
  omega

/-- A task that the gate does not wait for comes too late. -/
theorem passed_of_mem_spawned (member : timer ∈ spawned ((ofDelay delay).course turns))
    (late : ((ofDelay delay).after turns).gate.phase ≠ .scheduled timer) :
    ((ofDelay delay).after turns).Passed timer.ticket := by
  obtain ⟨tickets, next⟩ := tickets_spawned_ofDelay delay turns
  have distinct : ((spawned ((ofDelay delay).course turns)).map Timer.ticket).Nodup := by
    rw [tickets]
    exact List.nodup_range
  constructor
  · have listed := List.mem_map_of_mem (f := Timer.ticket) member
    rw [tickets] at listed
    rw [next]
    exact List.mem_range.mp listed
  · intro other waiting same
    have known := mem_spawned_of_waiting waiting
    exact late (List.inj_on_of_nodup_map distinct known member same ▸ waiting)

/-- A task that wakes starts the run that the gate waits for, or changes nothing at the gate. -/
theorem gate_make_wake (member : timer ∈ spawned ((ofDelay delay).course turns)) (now : Nat) :
    let situation := (ofDelay delay).after turns
    (situation.make ⟨now, .wake timer⟩).gate =
      if situation.gate.phase = .scheduled timer then { situation.gate with phase := .running }
      else situation.gate := by
  intro situation
  rw [gate_make]
  dsimp only
  split
  · next waiting => rw [wake_of_scheduled waiting, Option.getD_some]
  · next late => rw [wake_eq_none (passed_of_mem_spawned member late).2, Option.getD_none]

end History

/-! ### After a cancellation -/

theorem runs_make (situation : Situation) (turn : Turn) :
    (situation.make turn).gate.runs =
      situation.gate.runs + if Occurrence.endsRun ⟨situation, turn⟩ then 1 else 0 := by
  obtain ⟨now, move⟩ := turn
  rw [gate_make]
  cases move with
  | request => exact situation.gate.runs_request now
  | wake timer =>
    dsimp only
    rcases situation.gate.wake_getD_cases timer.ticket with same | same <;> rw [same] <;> rfl
  | vanish timer => rfl
  | finish ending => rfl
  | close => exact situation.gate.runs_close now
  | cancel => exact situation.gate.runs_cancel
  | drop => exact situation.gate.runs_cancel

theorem Sound.runs_after_eq (sound : situation.Sound) (turns : List Turn) :
    (situation.after turns).gate.runs =
      situation.gate.runs + (situation.course turns).countP Occurrence.endsRun := by
  refine sound.course_induction (motive := fun first course last =>
    last.gate.runs = first.gate.runs + course.countP Occurrence.endsRun) (fun _ => rfl) ?_ turns
  intro first turn rest sound possible inductionHypothesis
  rw [inductionHypothesis, runs_make, List.countP_cons]
  omega

/-- Nobody can ask for a run any more at a gate that was dropped. -/
theorem not_isOpen_after (closed : situation.isOpen = false) (turns : List Turn) :
    (situation.after turns).isOpen = false := by
  refine after_induction (motive := fun situation => situation.isOpen = false) turns closed ?_
  intro initial turn possible closed
  rw [isOpen_make]
  split
  · rfl
  · exact closed

theorem not_opensBatch_of_closed (closed : situation.isOpen = false) (turns : List Turn) :
    ∀ occurrence ∈ situation.course turns, occurrence.opensBatch = false := by
  intro occurrence member
  obtain ⟨earlier, _, _, before, possible⟩ := exists_of_mem_course member
  obtain ⟨initial, now, move⟩ := occurrence
  obtain rfl : initial = situation.after earlier := before
  cases move with
  | request => cases possible.symm.trans (not_isOpen_after closed earlier)
  | _ => rfl

/-- Where no batch is owed, a request opens one. -/
theorem opensBatch_of_owed (nothing : situation.gate.owed = 0) (now : Nat)
    (possible : situation.permits .request = true) :
    Occurrence.opensBatch ⟨situation, ⟨now, .request⟩⟩ = true := by
  rw [Occurrence.opensBatch, Occurrence.after, step_of_permits possible, gate_make]
  rcases situation.gate.request_cases now with
    ⟨timer, waiting, same⟩ | ⟨executing, same⟩ | ⟨idle, _, same⟩ | ⟨idle, same⟩
  · simp [owed, waiting] at nothing
  · have plain : situation.gate.hasFollowUp = false := by
      cases flagged : situation.gate.hasFollowUp <;> simp [owed, flagged] at nothing ⊢
    simp [same, plain]
  · simp [same]
  · simp [same]

/-- The executions in progress can all end, and each is counted when it does. -/
theorem after_endings (situation : Situation) (endings : List (Nat × Ending))
    (all : endings.length = situation.executing) :
    let last := situation.after (endings.map Turn.ofEnding)
    last.executing = 0 ∧ last.gate.runs = situation.gate.runs + situation.executing := by
  induction endings generalizing situation with
  | nil =>
    rw [List.length_nil] at all
    rw [← all]
    exact ⟨all.symm, rfl⟩
  | cons first rest inductionHypothesis =>
    rw [List.length_cons] at all
    have possible : situation.permits (Turn.ofEnding first).move = true :=
      decide_eq_true (by omega)
    have executing : (situation.make (.ofEnding first)).executing = situation.executing - 1 := rfl
    have runs : (situation.make (.ofEnding first)).gate.runs = situation.gate.runs + 1 := rfl
    rw [List.map_cons, after_cons, step_of_permits possible]
    obtain ⟨none, counted⟩ := inductionHypothesis (situation.make (.ofEnding first)) (by omega)
    exact ⟨none, by omega⟩

/-- In a course that follows a situation no run starts. Each execution that was in progress is
counted when it ends, and all of them can end. A request would be accepted. -/
structure WindsDown (before : Situation) (course : List Occurrence) (last : Situation) : Prop where
  noStart : ∀ occurrence ∈ course, occurrence.startsRun = false
  counted : last.gate.runs = before.gate.runs + course.countP Occurrence.endsRun
  underway : last.executing + course.countP Occurrence.endsRun = before.executing
  ends : ∀ endings : List (Nat × Ending), endings.length = last.executing →
    let ended := last.after (endings.map Turn.ofEnding)
    ended.executing = 0 ∧ ended.gate.runs = before.gate.runs + before.executing
  accepts : ∀ now, last.permits .request = true →
    Occurrence.opensBatch ⟨last, ⟨now, .request⟩⟩ = true

/-- Where no batch is owed, no run starts before a request opens one. -/
theorem Sound.windsDown (sound : situation.Sound) (nothing : situation.gate.owed = 0)
    {turns : List Turn}
    (unasked : ∀ occurrence ∈ situation.course turns, occurrence.opensBatch = false) :
    WindsDown situation (situation.course turns) (situation.after turns) := by
  have opened : (situation.course turns).countP Occurrence.opensBatch = 0 :=
    List.countP_eq_zero.mpr fun occurrence member =>
      ne_true_of_eq_false (unasked occurrence member)
  have batches := sound.batches_balance turns
  have runs := sound.runs_balance turns
  have counted := sound.runs_after_eq turns
  have started : (situation.course turns).countP Occurrence.startsRun = 0 := by omega
  have underway : (situation.after turns).executing +
      (situation.course turns).countP Occurrence.endsRun = situation.executing := by omega
  exact {
    noStart := fun occurrence member =>
      Bool.eq_false_iff.mpr (List.countP_eq_zero.mp started occurrence member)
    counted := counted
    underway := underway
    ends := fun endings all => by
      obtain ⟨none, total⟩ := (situation.after turns).after_endings endings all
      exact ⟨none, by omega⟩
    accepts := fun now possible => opensBatch_of_owed (by omega) now possible }

/-- A cancellation leaves nothing owed, and what is executing goes on. -/
theorem make_cancellation (cancels : turn.move = .cancel ∨ turn.move = .drop) :
    (situation.make turn).gate = situation.gate.cancel.2 ∧
      (situation.make turn).executing = situation.executing := by
  obtain ⟨now, move⟩ := turn
  rcases cancels with rfl | rfl
  · exact ⟨rfl, rfl⟩
  · exact ⟨rfl, rfl⟩

/-! ### Staleness -/

/-- No timer starts a run but the one that the gate waits for, which is the last that was spawned.
No two tasks have the same ticket, and a task that the gate does not wait for changes nothing when
it wakes, neither now nor later. After a cancellation no run starts before a request is accepted,
and at a gate that was dropped none is. -/
theorem stale_timers_start_nothing (delay : Nat) (turns : List Turn) :
    let course := (ofDelay delay).course turns
    let situation := (ofDelay delay).after turns
    (∀ task ∈ situation.tasks, task.timer ∈ spawned course) ∧
    (spawned course).map Timer.ticket = List.range (spawned course).length ∧
    ((spawned course).length ≤ UInt64.size →
      ((spawned course).map fun timer => UInt64.ofNat timer.ticket).Nodup) ∧
    (∀ timer ∈ spawned course,
      (∀ now, (situation.make ⟨now, .wake timer⟩).gate =
        if situation.gate.phase = .scheduled timer then { situation.gate with phase := .running }
        else situation.gate) ∧
      (situation.gate.phase = .scheduled timer → (spawned course).getLast? = some timer) ∧
      course.countP (Occurrence.isStartedBy timer) ≤ 1 ∧
      (situation.gate.phase ≠ .scheduled timer → ∀ later,
        ∀ occurrence ∈ situation.course later, occurrence.isStartedBy timer = false)) ∧
    ∀ (cancellation : Turn) (later : List Turn),
      cancellation.move = .cancel ∨ cancellation.move = .drop →
      situation.permits cancellation.move = true →
      let following := (situation.step cancellation).course later
      (cancellation.move = .drop → ∀ occurrence ∈ following, occurrence.opensBatch = false) ∧
      ((∀ occurrence ∈ following, occurrence.opensBatch = false) →
        WindsDown situation following ((situation.step cancellation).after later)) := by
  intro course situation
  have initial := sound_ofDelay delay
  have sound : situation.Sound := initial.after turns
  obtain ⟨tickets, _⟩ := tickets_spawned_ofDelay delay turns
  refine ⟨fun task => timer_mem_spawned, tickets, fun few => ?_, fun timer member => ?_, ?_⟩
  · have same : (spawned course).map (fun timer => UInt64.ofNat timer.ticket) =
        (List.range (spawned course).length).map UInt64.ofNat := by
      rw [← tickets, List.map_map]
      rfl
    rw [same]
    refine List.nodup_range.map_on fun first inRange second alsoInRange equal => ?_
    have fits {ticket : Nat} (given : ticket ∈ List.range (spawned course).length) :
        (UInt64.ofNat ticket).toNat = ticket :=
      UInt64.toNat_ofNat_of_lt' (Nat.lt_of_lt_of_le (List.mem_range.mp given) few)
    rw [← fits inRange, ← fits alsoInRange, equal]
  · refine ⟨gate_make_wake member, getLast?_spawned, initial.countP_isStartedBy_le timer turns, ?_⟩
    exact fun late => (passed_of_mem_spawned member late).not_isStartedBy
  · intro cancellation later cancels possible
    dsimp only
    rw [step_of_permits possible]
    have same : (situation.make cancellation).gate = situation.gate.cancel.2 ∧
        (situation.make cancellation).executing = situation.executing := make_cancellation cancels
    obtain ⟨gate, executing⟩ := same
    have nothing : (situation.make cancellation).gate.owed = 0 := by
      rw [gate]
      exact situation.gate.owed_cancel
    have runs : (situation.make cancellation).gate.runs = situation.gate.runs := by
      rw [gate]
      exact situation.gate.runs_cancel
    refine ⟨fun drops => ?_, fun unasked => ?_⟩
    · have closed : (situation.make cancellation).isOpen = false := by
        obtain ⟨now, move⟩ := cancellation
        subst drops
        rfl
      exact not_opensBatch_of_closed closed later
    · have quiet := (sound.make possible).windsDown nothing unasked
      exact {
        noStart := quiet.noStart
        counted := quiet.counted.trans (congrArg (· + _) runs)
        underway := quiet.underway.trans executing
        ends := fun endings all => by
          obtain ⟨none, total⟩ := quiet.ends endings all
          exact ⟨none, by omega⟩
        accepts := quiet.accepts }

/-- The follow-up of a run that has panicked is cancelled. The run that is deferred next is
executing when the gate is dropped, and then the timer of the cancelled run wakes. -/
theorem stale_timer_after_drop :
    let turns := [⟨0, .request⟩, ⟨3, .request⟩, ⟨5, .finish .panic⟩, ⟨6, .cancel⟩, ⟨10, .request⟩,
      ⟨105, .wake ⟨1, 105⟩⟩, ⟨106, .request⟩]
    let later := [⟨108, .wake ⟨0, 105⟩⟩, ⟨109, .finish .success⟩]
    let course := (ofDelay 100).course turns
    let situation := (ofDelay 100).after turns
    let dropped := situation.step ⟨107, .drop⟩
    spawned course = [⟨0, 105⟩, ⟨1, 105⟩] ∧
    ((spawned course).map fun timer => UInt64.ofNat timer.ticket).Nodup ∧
    (situation.make ⟨107, .wake ⟨0, 105⟩⟩).gate = situation.gate ∧
    situation.executing = 1 ∧ (dropped.course later).length = 2 ∧
    (∀ occurrence ∈ dropped.course later, occurrence.isStartedBy ⟨0, 105⟩ = false) ∧
    WindsDown situation (dropped.course later) (dropped.after later) := by
  intro turns later course situation dropped
  have timers : spawned course = [⟨0, 105⟩, ⟨1, 105⟩] := by decide
  have late : situation.gate.phase ≠ .scheduled ⟨0, 105⟩ := by decide
  obtain ⟨_, _, distinct, stale, cancelled⟩ := stale_timers_start_nothing 100 turns
  obtain ⟨wakes, _, _, never⟩ := stale ⟨0, 105⟩ (by rw [timers]; exact List.mem_cons_self)
  obtain ⟨unasked, windsDown⟩ := cancelled ⟨107, .drop⟩ later (Or.inr rfl) (by decide)
  refine ⟨timers, distinct (by rw [timers]; decide), (wakes 107).trans (if_neg late), by decide,
    by decide, fun occurrence member => ?_, windsDown (unasked rfl)⟩
  refine never late (⟨107, .drop⟩ :: later) occurrence ?_
  rw [course_cons_of_permits (by decide)]
  exact List.mem_cons_of_mem _ member

end Situation

end Gate

end CodeNavigator
