/-
This file proves that a deferred run keeps its promise. A request that is deferred is told how long
it has to wait, and the follow-up of a run that is closed waits for the whole delay. From then on
the gate waits for the timer of that run. While it does, a request is absorbed and changes nothing,
a closing only opens the window anew, and a timer task that was aborted wakes too late. So one turn
keeps the run waiting or starts it, and by induction the next run to start, unless a cancellation
comes first, is that one, woken by its own timer.

When it starts is a matter of the clock. On a clock no timer fires early, and nothing happens after
a run is due and before it starts, so the run starts at the time for which it was promised. A
timeline is on such a clock, and once its time has passed the run has started.
-/

import CodeNavigator.Proofs.Gate.Pace
import CodeNavigator.Proofs.Gate.Service

namespace CodeNavigator

namespace Gate

/-! ### Courses on a clock -/

/-- Time does not go back, no timer fires early, and nothing happens after a run is due and before
it starts. -/
structure OnClock (course : List Occurrence) : Prop where
  ordered : course.Pairwise fun first second => first.turn.time ≤ second.turn.time
  punctual : ∀ occurrence ∈ course, occurrence.turn.isPunctual = true
  prompt : ∀ occurrence ∈ course, ∀ timer, occurrence.before.gate.phase = .scheduled timer →
    occurrence.turn.time ≤ timer.due

theorem onClock_nil : OnClock [] :=
  ⟨List.Pairwise.nil, nofun, nofun⟩

theorem onClock_cons {occurrence : Occurrence} {course : List Occurrence} :
    OnClock (occurrence :: course) ↔
      (∀ later ∈ course, occurrence.turn.time ≤ later.turn.time) ∧
        occurrence.turn.isPunctual = true ∧
        (∀ timer, occurrence.before.gate.phase = .scheduled timer →
          occurrence.turn.time ≤ timer.due) ∧
        OnClock course := by
  constructor
  · rintro ⟨ordered, punctual, prompt⟩
    obtain ⟨later, ordered⟩ := List.pairwise_cons.mp ordered
    obtain ⟨punctualNow, punctual⟩ := List.forall_mem_cons.mp punctual
    obtain ⟨promptNow, prompt⟩ := List.forall_mem_cons.mp prompt
    exact ⟨later, punctualNow, promptNow, ordered, punctual, prompt⟩
  · rintro ⟨later, punctualNow, promptNow, ordered, punctual, prompt⟩
    exact {
      ordered := List.pairwise_cons.mpr ⟨later, ordered⟩
      punctual := List.forall_mem_cons.mpr ⟨punctualNow, punctual⟩
      prompt := List.forall_mem_cons.mpr ⟨promptNow, prompt⟩ }

theorem OnClock.of_sublist {first second : List Occurrence} (clock : OnClock second)
    (sublist : first.Sublist second) : OnClock first where
  ordered := clock.ordered.sublist sublist
  punctual occurrence member := clock.punctual occurrence (sublist.subset member)
  prompt occurrence member := clock.prompt occurrence (sublist.subset member)

/-! ### Promises -/

/-- For how long a turn defers a run, if it defers one: a request is told so, and the follow-up of a
run that is closed waits for the whole delay. -/
def Occurrence.promise? (occurrence : Occurrence) : Option Nat :=
  let gate := occurrence.before.gate
  match occurrence.turn.move with
  | .request =>
    match (gate.request occurrence.turn.time).1 with
    | .scheduled wait => some wait
    | _ => none
  | .finish _ | .close =>
    if gate.phase.isExecuting && gate.hasFollowUp then some gate.delay else none
  | _ => none

namespace Situation

variable {situation : Situation} {turn : Turn} {timer : Timer} {wait : Nat}

/-- A run is deferred by a request that is told so, or when a run with a follow-up is closed. -/
theorem promise_cases (promised : Occurrence.promise? ⟨situation, turn⟩ = some wait) :
    (turn.move = .request ∧ (situation.gate.request turn.time).1 = .scheduled wait) ∨
    ((turn.move = .close ∨ ∃ ending, turn.move = .finish ending) ∧
      situation.gate.phase.isExecuting = true ∧ situation.gate.hasFollowUp = true ∧
      wait = situation.gate.delay) := by
  obtain ⟨now, move⟩ := turn
  have closed (closing : (if situation.gate.phase.isExecuting && situation.gate.hasFollowUp then
      some situation.gate.delay else none) = some wait) :
      situation.gate.phase.isExecuting = true ∧ situation.gate.hasFollowUp = true ∧
        wait = situation.gate.delay := by
    obtain ⟨followUp, same⟩ := Option.ite_none_right_eq_some.mp closing
    obtain ⟨executing, flagged⟩ := Bool.and_eq_true_iff.mp followUp
    exact ⟨executing, flagged, (Option.some.inj same).symm⟩
  cases move with
  | request =>
    simp only [Occurrence.promise?] at promised
    split at promised
    · next told => exact Or.inl ⟨rfl, told.trans (congrArg _ (Option.some.inj promised))⟩
    · cases promised
  | finish ending => exact Or.inr ⟨Or.inr ⟨ending, rfl⟩, closed promised⟩
  | close => exact Or.inr ⟨Or.inl rfl, closed promised⟩
  | _ => cases promised

/-- A turn that defers a run leaves the gate waiting for it. -/
theorem phase_of_promise (promised : Occurrence.promise? ⟨situation, turn⟩ = some wait) :
    (situation.make turn).gate.phase =
      .scheduled ⟨situation.gate.nextTicket, turn.time + wait⟩ := by
  have cases := promise_cases promised
  obtain ⟨now, move⟩ := turn
  rw [gate_make]
  rcases cases with ⟨rfl, told⟩ | ⟨closing, executing, flagged, rfl⟩
  · exact congrArg Gate.phase (request_eq_scheduled told).2.2
  · have closed : (situation.gate.close now).phase =
        .scheduled ⟨situation.gate.nextTicket, now + situation.gate.delay⟩ := by
      rcases situation.gate.close_cases now with ⟨resting, _⟩ | ⟨_, plain, _⟩ | ⟨_, _, same⟩
      · cases executing.symm.trans resting
      · cases flagged.symm.trans plain
      · rw [same]
    rcases closing with rfl | ⟨ending, rfl⟩
    · exact closed
    · exact closed

/-- A request has to wait for some time, but never longer than the delay, and a follow-up for just
the delay. -/
theorem wait_of_promise (promised : Occurrence.promise? ⟨situation, turn⟩ = some wait)
    (onTime : situation.gate.OnTime turn.time) :
    wait ≤ situation.gate.delay ∧ (turn.move = .request → 0 < wait) ∧
      (turn.move ≠ .request → wait = situation.gate.delay) := by
  rcases promise_cases promised with ⟨asks, told⟩ | ⟨closing, _, _, same⟩
  · obtain ⟨positive, window, _⟩ := request_eq_scheduled told
    refine ⟨?_, fun _ => positive, fun other => absurd asks other⟩
    rw [window]
    exact onTime.wait_le
  · refine ⟨Nat.le_of_eq same, fun asks => ?_, fun _ => same⟩
    rcases closing with closes | ⟨ending, finishes⟩
    · cases asks.symm.trans closes
    · cases asks.symm.trans finishes

theorem settlesBatch_of_promise (possible : situation.permits turn.move = true)
    (promised : Occurrence.promise? ⟨situation, turn⟩ = some wait) :
    Occurrence.settlesBatch ⟨situation, turn⟩ = false := by
  have rests : Occurrence.startsRun ⟨situation, turn⟩ = false := by
    rw [Occurrence.startsRun, Occurrence.after, step_of_permits possible,
      isExecuting_scheduled (phase_of_promise promised), Bool.and_false]
  obtain ⟨now, move⟩ := turn
  rw [Occurrence.settlesBatch, rests, Bool.false_or]
  rcases promise_cases promised with ⟨rfl, _⟩ | ⟨rfl | ⟨_, rfl⟩, _⟩
  · rfl
  · rfl
  · rfl

/-! ### The run that was promised -/

/-- The gate waits for one timer, and no other can start a run. A request is absorbed and changes
nothing, and a closing opens the window anew and changes nothing else. -/
structure Keeps (situation : Situation) (timer : Timer) : Prop where
  waiting : situation.gate.phase = .scheduled timer
  alone : situation.outstanding = [⟨timer, false⟩]
  absorbs : ∀ now, situation.gate.request now = (.absorbed, situation.gate)
  reopens : ∀ now, situation.gate.close now = { situation.gate with lastRun := some now }
  window : ∀ now later,
    (situation.gate.close now).wait later = now + situation.gate.delay - later

theorem Sound.keeps (sound : situation.Sound) (waiting : situation.gate.phase = .scheduled timer) :
    situation.Keeps timer where
  waiting := waiting
  alone := by rw [sound.outstanding_eq, waiting]
  absorbs := request_of_scheduled waiting
  reopens := close_of_scheduled waiting
  window now later := by rw [close_of_scheduled waiting, wait]

/-- A turn keeps the run waiting, unless it starts it or drops it. -/
theorem Sound.phase_make (sound : situation.Sound) (possible : situation.permits turn.move = true)
    (unsettled : Occurrence.settlesBatch ⟨situation, turn⟩ = false)
    (waiting : situation.gate.phase = .scheduled timer) :
    (situation.make turn).gate.phase = .scheduled timer := by
  obtain ⟨starts, drops⟩ := Bool.or_eq_false_iff.mp unsettled
  have dropped : situation.gate.cancel.1 = true := by rw [cancel, waiting]
  obtain ⟨now, move⟩ := turn
  rw [sound.startsRun_eq possible] at starts
  rw [gate_make]
  cases move with
  | request =>
    dsimp only
    rw [request_of_scheduled waiting]
    exact waiting
  | wake other =>
    have late := (sound.wake_cases possible).resolve_left fun found =>
      absurd found.1 (of_decide_eq_false starts)
    simp only [late.2]
    exact waiting
  | vanish other => exact waiting
  | finish ending =>
    show (situation.gate.close now).phase = _
    rw [close_of_scheduled waiting]
    exact waiting
  | close =>
    dsimp only
    rw [close_of_scheduled waiting]
    exact waiting
  | cancel => cases drops.symm.trans dropped
  | drop => cases drops.symm.trans dropped

/-- A run goes on waiting until a run starts or a batch is dropped. -/
theorem Sound.phase_after (sound : situation.Sound)
    (waiting : situation.gate.phase = .scheduled timer) {turns : List Turn}
    (unsettled : ∀ occurrence ∈ situation.course turns, occurrence.settlesBatch = false) :
    (situation.after turns).gate.phase = .scheduled timer := by
  refine sound.course_induction (motive := fun first course last =>
    first.gate.phase = .scheduled timer →
      (∀ occurrence ∈ course, occurrence.settlesBatch = false) →
        last.gate.phase = .scheduled timer)
    (fun _ waiting _ => waiting) ?_ turns waiting unsettled
  intro first turn rest sound possible inductionHypothesis waiting unsettled
  obtain ⟨now, later⟩ := List.forall_mem_cons.mp unsettled
  exact inductionHypothesis (sound.phase_make possible now waiting) later

/-- While a run is waiting, no other run starts. -/
theorem Sound.move_eq_wake (sound : situation.Sound) (possible : situation.permits turn.move = true)
    (waiting : situation.gate.phase = .scheduled timer)
    (starts : Occurrence.startsRun ⟨situation, turn⟩ = true) :
    turn.move = .wake timer ∧ (situation.step turn).gate.phase = .running := by
  rw [sound.startsRun_eq possible] at starts
  rw [step_of_permits possible]
  obtain ⟨now, move⟩ := turn
  cases move with
  | request =>
    simp only [request_of_scheduled waiting] at starts
    cases starts
  | wake other =>
    have same : situation.gate.phase = .scheduled other := of_decide_eq_true starts
    rw [Phase.scheduled.inj (waiting.symm.trans same), gate_make]
    dsimp only
    rw [wake_of_scheduled same]
    exact ⟨rfl, rfl⟩
  | _ => cases starts

/-- On a clock the timer wakes when its run is due. -/
theorem time_eq_due {turns rest : List Turn}
    (possible : (situation.after turns).permits turn.move = true)
    (waiting : (situation.after turns).gate.phase = .scheduled timer)
    (wakes : turn.move = .wake timer) (clock : OnClock (situation.course (turns ++ turn :: rest))) :
    turn.time = timer.due := by
  have member := mem_course_of_permits possible rest
  have punctual := clock.punctual _ member
  rw [Turn.isPunctual, wakes] at punctual
  exact Nat.le_antisymm (clock.prompt _ member timer waiting) (of_decide_eq_true punctual)

/-! ### Gates on a clock are on time -/

theorem onTime_make (onTime : situation.gate.OnTime turn.time) :
    (situation.make turn).gate.OnTime turn.time := by
  obtain ⟨now, move⟩ := turn
  rw [gate_make]
  cases move with
  | request => exact onTime.request
  | wake timer =>
    dsimp only
    rcases situation.gate.wake_getD_cases timer.ticket with same | same
    · rw [same]
      exact onTime.run
    · rw [same]
      exact onTime
  | vanish timer => exact onTime
  | finish ending => exact ⟨onTime.close.lastRun, onTime.close.due⟩
  | close => exact onTime.close
  | cancel => exact onTime.cancel
  | drop => exact onTime.cancel

/-- When a turn comes up on a clock, the gate is on time. -/
theorem onTime_after {time : Nat} (onTime : situation.gate.OnTime time) {turns : List Turn}
    (possible : (situation.after turns).permits turn.move = true)
    (clock : OnClock (situation.course (turns ++ [turn])))
    (later : ∀ occurrence ∈ situation.course (turns ++ [turn]), time ≤ occurrence.turn.time) :
    (situation.after turns).gate.OnTime turn.time := by
  induction turns generalizing situation time with
  | nil =>
    have taken : situation.permits turn.move = true := possible
    rw [List.nil_append, course_cons_of_permits taken] at clock later
    exact onTime.pass (later _ List.mem_cons_self) (onClock_cons.mp clock).2.2.1
  | cons head rest inductionHypothesis =>
    rw [List.cons_append] at clock later
    by_cases taken : situation.permits head.move = true
    · rw [course_cons_of_permits taken] at clock later
      obtain ⟨after, _, prompt, clock⟩ := onClock_cons.mp clock
      have passed := onTime.pass (later _ List.mem_cons_self) prompt
      refine inductionHypothesis ?_ possible clock after
      rw [step_of_permits taken]
      exact onTime_make passed
    · rw [course_cons_of_not_permits taken] at clock later
      rw [after_cons, step_of_not_permits taken] at possible ⊢
      exact inductionHypothesis onTime possible clock later

theorem delay_after (situation : Situation) (turns : List Turn) :
    (situation.after turns).gate.delay = situation.gate.delay :=
  after_induction (motive := fun last => last.gate.delay = situation.gate.delay) turns rfl
    fun last turn _ same => (delay_make last turn).trans same

/-! ### The next run to start -/

theorem countP_startsRun_of_unsettled {turns between : List Turn}
    (unsettled : ∀ occurrence ∈ (situation.after turns).course between,
      occurrence.settlesBatch = false) :
    (situation.course (turns ++ between)).countP Occurrence.startsRun =
      (situation.course turns).countP Occurrence.startsRun := by
  have none : ((situation.after turns).course between).countP Occurrence.startsRun = 0 :=
    List.countP_eq_zero.mpr fun occurrence member =>
      ne_true_of_eq_false (Bool.or_eq_false_iff.mp (unsettled occurrence member)).1
  rw [course_append, List.countP_append, none, Nat.add_zero]

/-- Before a batch is dropped, a run starts or nothing is settled. -/
theorem dropsFirst_cases {turns : List Turn} (kept : dropsFirst (situation.course turns) = false) :
    (∀ occurrence ∈ situation.course turns, occurrence.settlesBatch = false) ∨
    ∃ between next rest, turns = between ++ next :: rest ∧
      (∀ occurrence ∈ situation.course between, occurrence.settlesBatch = false) ∧
      (situation.after between).permits next.move = true ∧
      Occurrence.startsRun ⟨situation.after between, next⟩ = true := by
  induction turns generalizing situation with
  | nil => exact Or.inl nofun
  | cons turn turns inductionHypothesis =>
    by_cases possible : situation.permits turn.move = true
    · rw [course_cons_of_permits possible, dropsFirst, Bool.or_eq_false_iff] at kept
      by_cases starts : Occurrence.startsRun ⟨situation, turn⟩ = true
      · exact Or.inr ⟨[], turn, turns, rfl, nofun, possible, starts⟩
      · rw [Bool.not_eq_true] at starts
        rw [starts, Bool.not_false, Bool.true_and] at kept
        have unsettled : Occurrence.settlesBatch ⟨situation, turn⟩ = false :=
          Bool.or_eq_false_iff.mpr ⟨starts, kept.1⟩
        rw [course_cons_of_permits possible]
        refine (inductionHypothesis kept.2).imp (List.forall_mem_cons.mpr ⟨unsettled, ·⟩) ?_
        rintro ⟨between, next, rest, split, before, nextPossible, nextStarts⟩
        refine ⟨turn :: between, next, rest, congrArg (List.cons turn) split, ?_, nextPossible,
          nextStarts⟩
        rw [course_cons_of_permits possible]
        exact List.forall_mem_cons.mpr ⟨unsettled, before⟩
    · rw [course_cons_of_not_permits possible] at kept ⊢
      refine (inductionHypothesis kept).imp_right ?_
      rintro ⟨between, next, rest, split, before, nextPossible, nextStarts⟩
      refine ⟨turn :: between, next, rest, congrArg (List.cons turn) split, ?_, ?_, ?_⟩
      · rw [course_cons_of_not_permits possible]
        exact before
      · rw [after_cons, step_of_not_permits possible]
        exact nextPossible
      · rw [after_cons, step_of_not_permits possible]
        exact nextStarts

end Situation

end Gate

namespace Timeline

open Gate (Turn Situation Occurrence OnClock startTimes dropsFirst)

/-! ### The clock of a timeline -/

variable {situation : Situation} {first last : Clockwork}

/-- A turn is taken when the clock has come to its time, and not after a run that is due. -/
theorem Ticks.on_clock {turn : Turn} (ticks : Ticks first (some turn) last)
    (onTime : first.gate.OnTime first.now) :
    first.now ≤ last.now ∧ turn.time = last.now ∧ turn.isPunctual = true ∧
      ∀ timer, first.gate.phase = .scheduled timer → turn.time ≤ timer.due := by
  have soon (timer : Timer) (waiting : first.gate.phase = .scheduled timer) :
      first.now ≤ timer.due := (onTime.due timer waiting).1
  cases ticks with
  | @wake timer quiet waiting =>
    refine ⟨soon timer waiting, rfl, decide_eq_true (Nat.le_refl _), fun other same => ?_⟩
    exact Nat.le_of_eq (congrArg Timer.due (Phase.scheduled.inj (waiting.symm.trans same)))
  | _ => exact ⟨Nat.le_refl _, rfl, rfl, soon⟩

theorem Ticks.now_le_of_none (ticks : Ticks first none last) : first.now ≤ last.now := by
  cases ticks with
  | observe => exact Nat.le_refl _
  | pass quiet later early => exact later

/-- What a timeline plays is a course on a clock. -/
theorem Plays.onClock {turns : List Turn} (plays : Plays first turns last)
    (fits : Matches situation first) (onTime : first.gate.OnTime first.now) :
    OnClock (situation.course turns) ∧
      ∀ occurrence ∈ situation.course turns, first.now ≤ occurrence.turn.time := by
  induction plays generalizing situation with
  | refl => exact ⟨Gate.onClock_nil, nofun⟩
  | @tick first middle last turn turns ticks _ inductionHypothesis =>
    have onTimeAfter := ticks.onTime onTime
    cases turn with
    | none =>
      obtain ⟨clock, later⟩ := inductionHypothesis (ticks.matches_of_none fits) onTimeAfter
      exact ⟨clock, fun occurrence member =>
        Nat.le_trans ticks.now_le_of_none (later occurrence member)⟩
    | some turn =>
      obtain ⟨forward, now, punctual, prompt⟩ := ticks.on_clock onTime
      obtain ⟨clock, later⟩ := inductionHypothesis (ticks.matches_make fits) onTimeAfter
      rw [ticks.course_eq fits]
      constructor
      · refine Gate.onClock_cons.mpr ⟨fun occurrence member => ?_, punctual, ?_, clock⟩
        · rw [now]
          exact later occurrence member
        · rw [fits.gate]
          exact prompt
      · refine List.forall_mem_cons.mpr ⟨?_, fun occurrence member => ?_⟩
        · rw [now]
          exact forward
        · exact Nat.le_trans forward (later occurrence member)

/-! ### Promises are kept -/

/-- The log has a place for every start. -/
theorem length_log (delay : Nat) (scripts : List (List Action)) (steps : List Step) :
    ((ofScripts delay scripts).after steps).log.length =
      ((Situation.ofDelay delay).course ((ofScripts delay scripts).history steps)).countP
        Occurrence.startsRun := by
  rw [← Gate.length_startTimes, ← log_map_start, List.length_map]

/-- A run is logged at the place that counts the starts before it. -/
theorem getElem?_log_of_startsRun {delay : Nat} {scripts : List (List Action)} {steps : List Step}
    {turns rest : List Turn} {next : Turn}
    (made : (ofScripts delay scripts).history steps = turns ++ next :: rest)
    (possible : ((Situation.ofDelay delay).after turns).permits next.move = true)
    (starts : Occurrence.startsRun ⟨(Situation.ofDelay delay).after turns, next⟩ = true) :
    (((ofScripts delay scripts).after steps).log[
      ((Situation.ofDelay delay).course turns).countP Occurrence.startsRun]?).map Run.start =
        some next.time := by
  have first : startTimes (((Situation.ofDelay delay).after turns).course (next :: rest)) =
      next.time ::
        startTimes ((((Situation.ofDelay delay).after turns).step next).course rest) := by
    rw [Situation.course_cons_of_permits possible, startTimes, List.filter_cons_of_pos starts]
    rfl
  rw [← List.getElem?_map, log_map_start, made, Situation.course_append, Gate.startTimes_append,
    first, ← Gate.length_startTimes, List.getElem?_append_right (Nat.le_refl _), Nat.sub_self]
  rfl

/-- While a timeline waits for a timer, no run starts but the one of that timer, when it is due. If
the run is not dropped, it has started as soon as the clock has advanced to that time. -/
theorem waits_or_starts {delay : Nat} {scripts : List (List Action)} {steps : List Step}
    {turns later : List Turn} {timer : Timer}
    (made : (ofScripts delay scripts).history steps = turns ++ later)
    (waiting : ((Situation.ofDelay delay).after turns).gate.phase = .scheduled timer)
    (kept : dropsFirst (((Situation.ofDelay delay).after turns).course later) = false) :
    let timeline := (ofScripts delay scripts).after steps
    let started := ((Situation.ofDelay delay).course turns).countP Occurrence.startsRun
    OnClock ((Situation.ofDelay delay).course (turns ++ later)) ∧
    ((timeline.gate.phase = .scheduled timer ∧ timeline.now ≤ timer.due ∧
        timeline.log.length = started ∧
        ∀ early duration, steps = early ++ [.advance duration] → timeline.now < timer.due) ∨
      ∃ between rest, later = between ++ ⟨timer.due, .wake timer⟩ :: rest ∧
        (∀ occurrence ∈ ((Situation.ofDelay delay).after turns).course between,
          occurrence.settlesBatch = false) ∧
        timeline.log[started]?.map Run.start = some timer.due) := by
  intro timeline started
  have sound := (Gate.Situation.sound_ofDelay delay).after turns
  have initial := matches_ofScripts delay scripts
  obtain ⟨plays, _⟩ := (quiet_ofScripts delay scripts).history_plays initial steps
  rw [made] at plays
  have onTime := plays.onTime (Gate.onTime_ofDelay delay)
  have clock := (plays.onClock initial (Gate.onTime_ofDelay delay)).1
  have fits := (plays.matches_after initial).1
  refine ⟨clock, (Situation.dropsFirst_cases kept).imp (fun unsettled => ?_) ?_⟩
  · have phase : timeline.gate.phase = .scheduled timer := by
      rw [← sound.phase_after waiting unsettled, ← Situation.after_append]
      exact congrArg Gate.phase fits.gate.symm
    refine ⟨phase, (onTime.due timer phase).1, ?_, fun early duration split => ?_⟩
    · rw [length_log, made]
      exact Situation.countP_startsRun_of_unsettled unsettled
    · have last : timeline = (((ofScripts delay scripts).after early).perform
          (.advance duration)).2 := by
        rw [show timeline = (ofScripts delay scripts).after steps from rfl, split, after_append]
        rfl
      obtain ⟨playsEarly, quiet⟩ := (quiet_ofScripts delay scripts).history_plays initial early
      rw [last] at phase ⊢
      exact quiet.lt_due_of_advance (playsEarly.matches_after initial).1 phase
  · rintro ⟨between, next, rest, rfl, unsettled, possible, starts⟩
    have still := sound.phase_after waiting unsettled
    obtain ⟨wakes, _⟩ := (sound.after between).move_eq_wake possible still starts
    rw [← Situation.after_append] at possible starts still
    rw [← List.append_assoc] at made clock
    have time := Situation.time_eq_due possible still wakes clock
    have logged := getElem?_log_of_startsRun made possible starts
    rw [Situation.countP_startsRun_of_unsettled unsettled, time] at logged
    obtain ⟨now, move⟩ := next
    obtain rfl : now = timer.due := time
    obtain rfl : move = .wake timer := wakes
    exact ⟨between, rest, rfl, unsettled, logged⟩

/-- A run that a turn has deferred waits until it starts, unless it is dropped before. While it
waits, it is the only one, requests are absorbed, and a closing only opens the window anew. The next
run to start is this one. On a clock it starts when the wait is over, and on a timeline it has
started when the clock has advanced to that time. -/
theorem deferred_run_keeps_promise (delay : Nat) (earlier : List Turn) (turn : Turn) (wait : Nat)
    (possible : ((Situation.ofDelay delay).after earlier).permits turn.move = true)
    (promised : Occurrence.promise? ⟨(Situation.ofDelay delay).after earlier, turn⟩ = some wait) :
    let start := Situation.ofDelay delay
    let before := start.after earlier
    let timer : Timer := ⟨before.gate.nextTicket, turn.time + wait⟩
    (∀ later, OnClock (start.course (earlier ++ turn :: later)) →
      wait ≤ delay ∧ (turn.move = .request → 0 < wait) ∧ (turn.move ≠ .request → wait = delay)) ∧
    (∀ (between : List Turn) (next : Turn),
      (∀ occurrence ∈ (before.step turn).course between, occurrence.settlesBatch = false) →
      let situation := (before.step turn).after between
      situation.Keeps timer ∧
      (situation.permits next.move = true → Occurrence.startsRun ⟨situation, next⟩ = true →
        next.move = .wake timer ∧ (situation.step next).gate.phase = .running ∧
        ∀ rest, OnClock (start.course (earlier ++ turn :: (between ++ next :: rest))) →
          next.time = timer.due)) ∧
    ∀ (scripts : List (List Action)) (steps : List Step) (later : List Turn),
      (ofScripts delay scripts).history steps = earlier ++ turn :: later →
      dropsFirst ((before.step turn).course later) = false →
      let timeline := (ofScripts delay scripts).after steps
      let started := (start.course earlier).countP Occurrence.startsRun
      OnClock (start.course (earlier ++ turn :: later)) ∧
      ((timeline.gate.phase = .scheduled timer ∧ timeline.now ≤ timer.due ∧
          timeline.log.length = started ∧
          ∀ early duration, steps = early ++ [.advance duration] → timeline.now < timer.due) ∨
        ∃ between rest, later = between ++ ⟨timer.due, .wake timer⟩ :: rest ∧
          (∀ occurrence ∈ (before.step turn).course between, occurrence.settlesBatch = false) ∧
          timeline.log[started]?.map Run.start = some timer.due) := by
  intro start before timer
  have sound : before.Sound := (Gate.Situation.sound_ofDelay delay).after earlier
  have stepped : start.after (earlier ++ [turn]) = before.step turn :=
    Situation.after_append start earlier [turn]
  have waiting : (before.step turn).gate.phase = .scheduled timer := by
    rw [Situation.step_of_permits possible]
    exact Situation.phase_of_promise promised
  have assoc (later : List Turn) : earlier ++ turn :: later = earlier ++ [turn] ++ later :=
    List.append_cons earlier turn later
  refine ⟨fun later clock => ?_, fun between next unsettled => ?_,
    fun scripts steps later made kept => ?_⟩
  · rw [assoc, Situation.course_append] at clock
    have onTime := Situation.onTime_after (Gate.onTime_ofDelay delay) possible
      (clock.of_sublist (List.sublist_append_left _ _)) fun _ _ => Nat.zero_le _
    have bounds := Situation.wait_of_promise promised onTime
    rwa [Situation.delay_after] at bounds
  · have soundAfter := (sound.step turn).after between
    have still := (sound.step turn).phase_after waiting unsettled
    refine ⟨soundAfter.keeps still, fun nextPossible starts => ?_⟩
    obtain ⟨wakes, running⟩ := soundAfter.move_eq_wake nextPossible still starts
    refine ⟨wakes, running, fun rest clock => ?_⟩
    rw [← stepped, ← Situation.after_append] at still nextPossible
    rw [assoc, ← List.append_assoc] at clock
    exact Situation.time_eq_due nextPossible still wakes clock
  · have alone : ∀ occurrence ∈ before.course [turn], occurrence.settlesBatch = false := by
      rw [Situation.course_cons_of_permits possible]
      exact List.forall_mem_singleton.mpr (Situation.settlesBatch_of_promise possible promised)
    rw [assoc] at made
    rw [← stepped] at waiting kept
    have served := waits_or_starts made waiting kept
    rw [Situation.countP_startsRun_of_unsettled alone, stepped] at served
    rwa [assoc]

/-- A run asks for a follow-up and closes itself before it ends. Its late end, a closing from
outside and two more requests do not disturb the follow-up, which starts when it is due. -/
theorem follow_up_starts_past_late_end :
    let start := Situation.ofDelay 100
    let scripts := [[.request, .finish, .request]]
    let steps := [.request, .advance 30, .finish, .request, .advance 70]
    let earlier := [⟨0, .request⟩, ⟨0, .request⟩]
    let between := [⟨0, .request⟩, ⟨0, .finish .success⟩, ⟨30, .close⟩, ⟨30, .request⟩]
    let before := start.after earlier
    Occurrence.promise? ⟨before, ⟨0, .close⟩⟩ = some 100 ∧
    ((before.step ⟨0, .close⟩).after between).Keeps ⟨0, 100⟩ ∧
    OnClock (start.course ((ofScripts 100 scripts).history steps)) ∧
    (((ofScripts 100 scripts).after steps).log[1]?).map Run.start = some 100 := by
  intro start scripts steps earlier between before
  let later := between ++ [⟨100, .wake ⟨0, 100⟩⟩, ⟨100, .finish .success⟩]
  have promised : Occurrence.promise? ⟨before, ⟨0, .close⟩⟩ = some 100 := by decide
  have made : (ofScripts 100 scripts).history steps = earlier ++ ⟨0, .close⟩ :: later := by decide
  have kept : dropsFirst ((before.step ⟨0, .close⟩).course later) = false := by decide
  obtain ⟨_, keeps, serves⟩ :=
    deferred_run_keeps_promise 100 earlier ⟨0, .close⟩ 100 (by decide) promised
  obtain ⟨clock, ⟨waiting, _⟩ | ⟨_, _, _, _, logged⟩⟩ := serves scripts steps later made kept
  · have idle : ((ofScripts 100 scripts).after steps).gate.phase = .idle := by decide
    cases idle.symm.trans waiting
  · exact ⟨promised, (keeps between ⟨0, .close⟩ (by decide)).1, made ▸ clock, logged⟩

end Timeline

end CodeNavigator
