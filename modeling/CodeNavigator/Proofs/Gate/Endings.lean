/-
This file proves that a gate does not care how its runs end. Two timelines whose runs do the same at
the gate, but end in success, in failure or in a panic as they please, stay alike at every step: the
gates, the clocks and the logs are the same. Only the one who asked for a run that starts at once can
tell, because a panic of that run reaches him. The two advance in lockstep. While the delay is not
zero, a run never starts another one from inside, since the gate is held as long as a run is under
way. So at most one run is under way, and to end takes one step, whatever the ending is.

Without a delay a run can start another one from inside once it has said that it has finished, and
then a panic unwinds all runs around it too. Each of them ends like any other run, and when the last
has ended the gate is not executing.
-/

import CodeNavigator.Proofs.Gate.Elapsing
import CodeNavigator.Proofs.Gate.Pace
import CodeNavigator.Proofs.Gate.Service

namespace CodeNavigator

open Gate (Turn Situation)

/-! ### Scripts and how they end -/

/-- What an action does to a gate and what it answers, when it neither ends its run nor starts
another one. -/
def Action.effect? (gate : Gate) (now : Nat) : Action → Option (Gate × Event)
  | .request => some ((gate.request now).2, .disposed (gate.request now).1)
  | .finish => some (gate.close now, .finished)
  | .cancel => some (gate.cancel.2, .cancelled gate.cancel.1)
  | .observePhase => some (gate, .observed gate.phase)
  | .countRuns => some (gate, .counted gate.runs)
  | .fail | .panic => none

/-- What a run does at the gate when it follows a script: all actions before the one that ends it. -/
def conduct : List Action → List Action
  | [] | .fail :: _ | .panic :: _ => []
  | action :: rest => action :: conduct rest

/-- How a run ends when it follows a script. -/
def ending : List Action → Gate.Ending
  | [] => .success
  | .fail :: _ => .failure
  | .panic :: _ => .panic
  | _ :: rest => ending rest

theorem conduct_cases (script : List Action) :
    (conduct script = [] ∧
      (script = [] ∨ (∃ rest, script = .fail :: rest) ∨ ∃ rest, script = .panic :: rest)) ∨
    ∃ action rest, script = action :: rest ∧ conduct script = action :: conduct rest ∧
      ending script = ending rest ∧ ∀ gate now, (action.effect? gate now).isSome = true := by
  cases script with
  | nil => exact Or.inl ⟨rfl, Or.inl rfl⟩
  | cons action rest =>
    cases action with
    | fail => exact Or.inl ⟨rfl, Or.inr (Or.inl ⟨rest, rfl⟩)⟩
    | panic => exact Or.inl ⟨rfl, Or.inr (Or.inr ⟨rest, rfl⟩)⟩
    | _ => exact Or.inr ⟨_, rest, rfl, rfl, rfl, fun _ _ => rfl⟩

namespace Gate

variable {gate after : Gate} {now : Nat}

/-- Before the delay has passed, no request starts a run. -/
theorem HeldSince.not_started (held : gate.HeldSince now) (delayed : 0 < gate.delay) :
    (gate.request now).1 ≠ .started := by
  intro started
  rcases gate.request_cases now with
    ⟨timer, _, same⟩ | ⟨_, same⟩ | ⟨idle, passed, same⟩ | ⟨_, same⟩
  · rw [same] at started
    cases started
  · rw [same] at started
    cases started
  · obtain ⟨⟨last, lastRun, recent⟩, _⟩ := held (by rw [idle]; rfl)
    rw [wait, lastRun] at passed
    simp only at passed
    omega
  · rw [same] at started
    cases started

theorem HeldSince.effect {action : Action} {event : Event} (held : gate.HeldSince now)
    (effect : action.effect? gate now = some (after, event)) :
    after.HeldSince now ∧ after.delay = gate.delay := by
  cases action with
  | request =>
    cases effect
    exact ⟨held.request now, gate.delay_request now⟩
  | finish =>
    cases effect
    exact ⟨held.close (Nat.le_refl now), gate.delay_close now⟩
  | cancel =>
    cases effect
    exact ⟨held.cancel, gate.delay_cancel⟩
  | observePhase =>
    cases effect
    exact ⟨held, rfl⟩
  | countRuns =>
    cases effect
    exact ⟨held, rfl⟩
  | fail => cases effect
  | panic => cases effect

end Gate

namespace Timeline

/-! ### A run alone -/

/-- A single run is under way. It holds the gate, and it is not panicking. -/
structure Alone (timeline : Timeline) (frame : Frame) : Prop where
  stack : timeline.stack = [frame]
  isPanicking : timeline.isPanicking = false
  held : timeline.gate.HeldSince timeline.now
  delayed : 0 < timeline.gate.delay

/-- A timeline after the end of its only run. -/
def ended (timeline : Timeline) (isPanicking : Bool) : Timeline :=
  { timeline with
    gate := timeline.gate.finish timeline.now
    stack := []
    isPanicking := isPanicking }

/-- A timeline after an action of its only run. -/
def acted (timeline : Timeline) (frame : Frame) (gate : Gate) (event : Event) : Timeline :=
  { timeline with gate := gate, stack := [frame] }.note frame.run event

theorem act_of_effect {timeline : Timeline} {action : Action} {gate : Gate} {event : Event}
    (run : Nat) (held : timeline.gate.HeldSince timeline.now) (delayed : 0 < timeline.gate.delay)
    (effect : action.effect? timeline.gate timeline.now = some (gate, event)) :
    timeline.act run action = { timeline with gate := gate }.note run event := by
  cases action with
  | request =>
    cases effect
    rw [act_request, if_neg (held.not_started delayed)]
  | fail => cases effect
  | panic => cases effect
  | _ =>
    cases effect
    rfl

variable {timeline : Timeline} {run : Nat} {script : List Action}

theorem Alone.step_of_conduct_eq_nil (alone : timeline.Alone ⟨run, script⟩)
    (stops : conduct script = []) :
    timeline.step = timeline.ended (decide (ending script = .panic)) := by
  have done : script = [] ∨ (∃ rest, script = .fail :: rest) ∨ ∃ rest, script = .panic :: rest := by
    rcases conduct_cases script with ⟨_, done⟩ | ⟨action, rest, _, more, _⟩
    · exact done
    · rw [stops] at more
      cases more
  obtain ⟨gate, now, scripts, stack, log, isPanicking, isOpen⟩ := timeline
  obtain rfl : stack = [⟨run, script⟩] := alone.stack
  obtain rfl : isPanicking = false := alone.isPanicking
  rcases done with rfl | ⟨rest, rfl⟩ | ⟨rest, rfl⟩ <;> rfl

theorem Alone.step_of_effect {action : Action} {rest : List Action} {gate : Gate} {event : Event}
    (alone : timeline.Alone ⟨run, action :: rest⟩)
    (effect : action.effect? timeline.gate timeline.now = some (gate, event)) :
    timeline.step = timeline.acted ⟨run, rest⟩ gate event ∧
      (timeline.acted ⟨run, rest⟩ gate event).Alone ⟨run, rest⟩ := by
  obtain ⟨stack, calm, held, delayed⟩ := alone
  obtain ⟨stillHeld, sameDelay⟩ := held.effect effect
  refine ⟨?_, rfl, calm, stillHeld, sameDelay ▸ delayed⟩
  have acts : ({ timeline with stack := [⟨run, rest⟩] } : Timeline).act run action =
      timeline.acted ⟨run, rest⟩ gate event := act_of_effect run held delayed effect
  rw [step, stack]
  exact (if_neg (ne_true_of_eq_false calm)).trans acts

/-- A run alone ends as its script says. -/
theorem Settles.isPanicking_eq {last : Timeline} (settles : Settles timeline last)
    (alone : timeline.Alone ⟨run, script⟩) :
    last.isPanicking = decide (ending script = .panic) := by
  induction settles generalizing script with
  | quiet quiet =>
    rw [alone.stack] at quiet
    cases quiet
  | @step first last busy settles inductionHypothesis =>
    rcases conduct_cases script with ⟨stops, _⟩ | ⟨action, rest, rfl, _, sameEnding, effective⟩
    · rw [alone.step_of_conduct_eq_nil stops] at settles
      exact congrArg isPanicking ((Settles.quiet rfl).unique settles)
    · obtain ⟨⟨gate, event⟩, effect⟩ := Option.isSome_iff_exists.mp
        (effective first.gate first.now)
      obtain ⟨steps, stillAlone⟩ := alone.step_of_effect effect
      rw [sameEnding]
      exact inductionHypothesis (steps ▸ stillAlone)

/-! ### Timelines alike -/

/-- Nothing is under way on two timelines, or the same run alone, which does the same from now on. -/
inductive Abreast (left right : Timeline) : Prop
  | quiet (leftStack : left.stack = []) (rightStack : right.stack = [])
  | busy {run : Nat} {script other : List Action} (leftAlone : left.Alone ⟨run, script⟩)
      (rightAlone : right.Alone ⟨run, other⟩) (same : conduct script = conduct other)

/-- Two timelines differ at most in how their runs will end and in whether the last one panicked. -/
structure Alike (left right : Timeline) : Prop where
  gate : right.gate = left.gate
  now : right.now = left.now
  log : right.log = left.log
  isOpen : right.isOpen = left.isOpen
  delayed : 0 < left.gate.delay
  scripts : ∀ run, conduct (left.scripts.getD run []) = conduct (right.scripts.getD run [])
  abreast : Abreast left right

variable {left right last other : Timeline}

theorem Alike.rightStack (alike : Alike left right) (quiet : left.stack = []) :
    right.stack = [] := by
  cases alike.abreast with
  | quiet _ rightStack => exact rightStack
  | busy leftAlone =>
    rw [leftAlone.stack] at quiet
    cases quiet

theorem Alike.step (alike : Alike left right) : Alike left.step right.step := by
  obtain ⟨gate, now, log, isOpen, delayed, scripts, abreast⟩ := alike
  cases abreast with
  | quiet leftStack rightStack =>
    rw [Timeline.step, Timeline.step, leftStack, rightStack]
    exact ⟨gate, now, log, isOpen, delayed, scripts, .quiet leftStack rightStack⟩
  | @busy run script other leftAlone rightAlone same =>
    rcases conduct_cases script with ⟨stops, _⟩ | ⟨action, rest, rfl, more, _, effective⟩
    · -- Both runs end now, each in its own way.
      rw [leftAlone.step_of_conduct_eq_nil stops, rightAlone.step_of_conduct_eq_nil (same ▸ stops)]
      refine ⟨?_, now, log, isOpen, ?_, scripts, .quiet rfl rfl⟩
      · simp only [ended, gate, now]
      · rw [ended, Gate.delay_finish]
        exact delayed
    · rcases conduct_cases other with ⟨stops, _⟩ | ⟨otherAction, otherRest, rfl, otherMore, _, _⟩
      · rw [more, stops] at same
        cases same
      · rw [more, otherMore] at same
        obtain ⟨rfl, sameRest⟩ := List.cons.inj same
        obtain ⟨⟨changed, event⟩, effect⟩ := Option.isSome_iff_exists.mp
          (effective left.gate left.now)
        obtain ⟨leftSteps, leftStill⟩ := leftAlone.step_of_effect effect
        rw [← gate, ← now] at effect
        obtain ⟨rightSteps, rightStill⟩ := rightAlone.step_of_effect effect
        rw [leftSteps, rightSteps]
        refine ⟨rfl, now, ?_, isOpen, leftStill.delayed, scripts,
          .busy leftStill rightStill sameRest⟩
        simp only [acted, note, log]

/-- The two come to their ends in as many steps. -/
theorem Alike.settles (alike : Alike left right) (settles : Settles left last) :
    ∃ other, Settles right other ∧ Alike last other := by
  induction settles generalizing right with
  | quiet quiet => exact ⟨right, .quiet (alike.rightStack quiet), alike⟩
  | step busy _ inductionHypothesis =>
    obtain ⟨other, settles, stillAlike⟩ := inductionHypothesis alike.step
    refine ⟨other, .step ?_ settles, stillAlike⟩
    cases alike.abreast with
    | quiet leftStack => exact absurd leftStack busy
    | busy _ rightAlone =>
      rw [rightAlone.stack]
      exact List.cons_ne_nil _ _

/-! ### Runs that start alike -/

theorem alone_begun {gate : Gate} (quiet : timeline.stack = []) (now : Nat)
    (executing : gate.phase.isExecuting = true) (delayed : 0 < gate.delay) :
    (timeline.begun now gate).Alone ⟨timeline.log.length, timeline.scripts.headD []⟩ where
  stack := by rw [begun, startRun, quiet]
  isPanicking := rfl
  held := Gate.heldSince_of_isExecuting executing now
  delayed := delayed

theorem headD_eq_getD_zero (scripts : List (List Action)) :
    scripts.headD [] = scripts.getD 0 [] := by
  cases scripts <;> rfl

theorem getD_tail (scripts : List (List Action)) (run : Nat) :
    scripts.tail.getD run [] = scripts.getD (run + 1) [] := by
  cases scripts <;> rfl

theorem Alike.begun {gate : Gate} (alike : Alike left right) (quiet : left.stack = []) (now : Nat)
    (executing : gate.phase.isExecuting = true) (delayed : 0 < gate.delay) :
    Alike (left.begun now gate) (right.begun now gate) where
  gate := rfl
  now := rfl
  log := by rw [Timeline.begun, Timeline.begun, startRun, startRun, alike.log]
  isOpen := alike.isOpen
  delayed := delayed
  scripts run := by
    show conduct (left.scripts.tail.getD run []) = conduct (right.scripts.tail.getD run [])
    rw [getD_tail, getD_tail]
    exact alike.scripts (run + 1)
  abreast := by
    have rightAlone := alone_begun (alike.rightStack quiet) now executing delayed
    rw [alike.log] at rightAlone
    refine .busy (alone_begun quiet now executing delayed) rightAlone ?_
    rw [headD_eq_getD_zero, headD_eq_getD_zero]
    exact alike.scripts 0

theorem Settles.stack_eq (settles : Settles timeline last) : last.stack = [] := by
  induction settles with
  | quiet quiet => exact quiet
  | step _ _ inductionHypothesis => exact inductionHypothesis

theorem Alike.elapses {target : Nat} (alike : Alike left right) (quiet : left.stack = [])
    (elapses : Elapses target left last) :
    ∃ other, Elapses target right other ∧ Alike last other ∧ last.stack = [] := by
  induction elapses generalizing right with
  | rest early =>
    refine ⟨_, .rest fun timer waiting => early timer (alike.gate ▸ waiting), ?_, quiet⟩
    exact ⟨alike.gate, rfl, alike.log, alike.isOpen, alike.delayed, alike.scripts,
      .quiet quiet (alike.rightStack quiet)⟩
  | @wake first ended last timer waiting due settles _ inductionHypothesis =>
    have starts : Alike (first.wakeRun timer) (right.wakeRun timer) := by
      rw [wakeRun, wakeRun, alike.gate]
      exact alike.begun quiet timer.due rfl alike.delayed
    obtain ⟨otherEnded, otherSettles, endedAlike⟩ := starts.settles settles
    obtain ⟨other, elapses, lastAlike, rested⟩ := inductionHypothesis endedAlike settles.stack_eq
    exact ⟨other, .wake (alike.gate ▸ waiting) due otherSettles elapses, lastAlike, rested⟩

/-! ### Replies -/

/-- A reply, told as if the run that was asked for had not panicked. -/
def Reply.withoutPanic : Reply → Reply
  | .panicked => .disposed .started
  | reply => reply

theorem request_fst (timeline : Timeline) :
    timeline.request.1 =
      if (timeline.gate.request timeline.now).1 = .started then
        if timeline.request.2.isPanicking then .panicked else .disposed .started
      else .disposed (timeline.gate.request timeline.now).1 := by
  rw [request]
  split
  · next opened same => rw [same, if_pos rfl]
  · next disposition changed notStarted same =>
    rw [same]
    exact (if_neg notStarted).symm

/-- A reply tells what became of the request, or that the run panicked. -/
theorem withoutPanic_request (timeline : Timeline) :
    timeline.request.1.withoutPanic = .disposed (timeline.gate.request timeline.now).1 := by
  rw [request_fst]
  split
  · next started =>
    rw [started]
    split <;> rfl
  · rfl

theorem isExecuting_of_started {gate : Gate} {now : Nat}
    (started : (gate.request now).1 = .started) :
    (gate.request now).2.phase.isExecuting = true := by
  rw [gate.isExecuting_request, started, decide_eq_true rfl, Bool.or_true]

/-- A panic reaches the one who asked exactly when the run that he started at once ends so. -/
theorem Quiet.perform_eq_panicked_iff (quiet : timeline.Quiet) (delayed : 0 < timeline.gate.delay)
    (step : Step) :
    (timeline.perform step).1 = .panicked ↔
      timeline.isOpen = true ∧ step = .request ∧
        (timeline.gate.request timeline.now).1 = .started ∧
          ending (timeline.scripts.headD []) = .panic := by
  unfold perform
  by_cases isOpen : timeline.isOpen = true
  · rw [if_pos isOpen]
    cases step with
    | request =>
      show timeline.request.1 = .panicked ↔ _
      rw [request_fst]
      by_cases started : (timeline.gate.request timeline.now).1 = .started
      · have alone := alone_begun quiet.stack timeline.now (isExecuting_of_started started)
          (Nat.lt_of_lt_of_eq delayed (timeline.gate.delay_request timeline.now).symm)
        have opened : timeline.requestRun.isOpen = true := isOpen
        have panics := (settles_settle opened).isPanicking_eq alone
        rw [if_pos started, request_snd, if_pos started, panics]
        simp [isOpen, started]
      · simp [started]
    | _ => simp [performOpen]
  · rw [if_neg isOpen]
    refine ⟨?_, fun panics => absurd panics.1 isOpen⟩
    cases step <;> exact nofun

/-! ### Histories alike -/

/-- A step from outside that only changes the gate changes both in the same way. -/
theorem Alike.adopt {gate other : Gate} {isOpen otherOpen : Bool} (alike : Alike left right)
    (quiet : left.stack = []) (sameGate : other = gate) (sameDelay : gate.delay = left.gate.delay)
    (sameOpen : otherOpen = isOpen) :
    Alike { left with gate := gate, isOpen := isOpen }
      { right with gate := other, isOpen := otherOpen } :=
  ⟨sameGate, alike.now, alike.log, sameOpen, Nat.lt_of_lt_of_eq alike.delayed sameDelay.symm,
    alike.scripts, .quiet quiet (alike.rightStack quiet)⟩

theorem Alike.request (alike : Alike left right) (quiet : left.stack = [])
    (isOpen : left.isOpen = true) : Alike left.request.2 right.request.2 := by
  have sameDelay := left.gate.delay_request left.now
  have sameGate : right.gate.request right.now = left.gate.request left.now := by
    rw [alike.gate, alike.now]
  by_cases started : (left.gate.request left.now).1 = .started
  · have starts := alike.begun quiet left.now (isExecuting_of_started started)
      (Nat.lt_of_lt_of_eq alike.delayed sameDelay.symm)
    obtain ⟨other, settles, ends⟩ := starts.settles (settles_settle isOpen)
    have rightStarted : (right.gate.request right.now).1 = .started := sameGate ▸ started
    have opened : right.requestRun.isOpen = true := alike.isOpen.trans isOpen
    rw [requestRun] at opened
    rw [sameGate, alike.now] at opened
    rw [request_snd, request_snd, if_pos started, if_pos rightStarted, requestRun, requestRun,
      sameGate, alike.now, settles.unique (settles_settle opened)]
    exact ends
  · rw [request_snd, request_snd, sameGate, if_neg started, if_neg started]
    exact alike.adopt quiet rfl sameDelay alike.isOpen

theorem Alike.performOpen (alike : Alike left right) (quiet : left.stack = [])
    (isOpen : left.isOpen = true) {step : Step} (instant : ∀ duration, step ≠ .advance duration) :
    Alike (left.performOpen step).2 (right.performOpen step).2 := by
  have sameCancel : right.gate.cancel.2 = left.gate.cancel.2 := by rw [alike.gate]
  cases step with
  | request => exact alike.request quiet isOpen
  | finish =>
    have sameClose : right.gate.close right.now = left.gate.close left.now := by
      rw [alike.gate, alike.now]
    exact alike.adopt quiet sameClose (left.gate.delay_close left.now) alike.isOpen
  | cancel => exact alike.adopt quiet sameCancel left.gate.delay_cancel alike.isOpen
  | observe => exact alike
  | delay => exact alike
  | drop => exact alike.adopt quiet sameCancel left.gate.delay_cancel rfl
  | advance duration => exact absurd rfl (instant duration)

variable {situation otherSituation : Situation}

theorem Alike.perform (alike : Alike left right) (quiet : left.Quiet) (rightQuiet : right.Quiet)
    (fits : Matches situation left.clockwork) (rightFits : Matches otherSituation right.clockwork)
    (step : Step) : Alike (left.perform step).2 (right.perform step).2 := by
  by_cases passes : ∃ duration, step = .advance duration
  · obtain ⟨duration, rfl⟩ := passes
    obtain ⟨other, elapses, ends, _⟩ :=
      alike.elapses quiet.stack (quiet.elapses_perform fits duration)
    rw [← alike.now] at elapses
    rw [elapses.unique (rightQuiet.elapses_perform rightFits duration)]
    exact ends
  · have instant : ∀ duration, step ≠ .advance duration := fun duration same =>
      passes ⟨duration, same⟩
    unfold Timeline.perform
    rw [alike.isOpen]
    by_cases isOpen : left.isOpen = true
    · rw [if_pos isOpen, if_pos isOpen]
      exact alike.performOpen quiet.stack isOpen instant
    · rw [if_neg isOpen, if_neg isOpen]
      cases step with
      | advance duration => exact absurd rfl (instant duration)
      | _ => exact alike

theorem Alike.after (alike : Alike left right) (quiet : left.Quiet) (rightQuiet : right.Quiet)
    (fits : Matches situation left.clockwork) (rightFits : Matches otherSituation right.clockwork)
    (steps : List Step) : Alike (left.after steps) (right.after steps) := by
  induction steps generalizing left right situation otherSituation with
  | nil => exact alike
  | cons step rest inductionHypothesis =>
    obtain ⟨plays, rested⟩ := quiet.perform_plays fits step
    obtain ⟨rightPlays, rightRested⟩ := rightQuiet.perform_plays rightFits step
    exact inductionHypothesis (alike.perform quiet rightQuiet fits rightFits step) rested rightRested
      (plays.matches_after fits).1 (rightPlays.matches_after rightFits).1

/-- Timelines alike reply alike, except that one of them may report a panic. -/
theorem Alike.withoutPanic_perform (alike : Alike left right) (step : Step) :
    (right.perform step).1.withoutPanic = (left.perform step).1.withoutPanic := by
  unfold Timeline.perform
  rw [alike.isOpen]
  by_cases isOpen : left.isOpen = true
  · rw [if_pos isOpen, if_pos isOpen]
    cases step with
    | request =>
      have asked := right.withoutPanic_request
      rw [alike.gate, alike.now] at asked
      exact asked.trans left.withoutPanic_request.symm
    | cancel => simp only [Timeline.performOpen, alike.gate]
    | delay => simp only [Timeline.performOpen, alike.gate]
    | _ => rfl
  · rw [if_neg isOpen, if_neg isOpen]
    cases step <;> rfl

theorem alike_ofScripts {delay : Nat} (delayed : 0 < delay) {scripts others : List (List Action)}
    (same : ∀ run, conduct (scripts.getD run []) = conduct (others.getD run [])) :
    Alike (ofScripts delay scripts) (ofScripts delay others) :=
  ⟨rfl, rfl, rfl, rfl, delayed, same, .quiet rfl rfl⟩

/-! ### The scripts that are left -/

theorem Ticks.scripts_eq {scripts : List (List Action)} {first last : Clockwork}
    {turn : Option Turn} (ticks : Ticks first turn last)
    (left : first.scripts = scripts.drop first.starts.length) :
    last.scripts = scripts.drop last.starts.length := by
  have used : first.scripts.tail = scripts.drop (first.starts.length + 1) := by
    rw [left, List.tail_drop]
  cases ticks with
  | start => rwa [List.length_append]
  | wake => rwa [List.length_append]
  | _ => exact left

/-- The log tells which scripts have been used. -/
theorem Plays.scripts_eq {scripts : List (List Action)} {first last : Clockwork}
    {turns : List Turn} (plays : Plays first turns last)
    (left : first.scripts = scripts.drop first.starts.length) :
    last.scripts = scripts.drop last.starts.length := by
  induction plays with
  | refl => exact left
  | tick ticks _ inductionHypothesis => exact inductionHypothesis (ticks.scripts_eq left)

theorem headD_drop (scripts : List (List Action)) (count : Nat) :
    (scripts.drop count).headD [] = scripts.getD count [] := by
  rw [List.headD_eq_head?_getD, List.head?_drop, List.getD_eq_getElem?_getD]

/-! ### Unwinding -/

/-- The timelines that arise from scripts: the rests between the steps from outside, and all that
lies between the start of a run and the end of the last one under way. -/
inductive Moment (delay : Nat) (scripts : List (List Action)) : Timeline → Prop
  | rest (steps : List Step) : Moment delay scripts ((ofScripts delay scripts).after steps)
  | request {timeline : Timeline} (moment : Moment delay scripts timeline)
      (isOpen : timeline.isOpen = true) (quiet : timeline.stack = [])
      (started : (timeline.gate.request timeline.now).1 = .started) :
      Moment delay scripts timeline.requestRun
  | wake {timeline : Timeline} {timer : Timer} (moment : Moment delay scripts timeline)
      (isOpen : timeline.isOpen = true) (quiet : timeline.stack = [])
      (waiting : timeline.gate.phase = .scheduled timer) :
      Moment delay scripts (timeline.wakeRun timer)
  | step {timeline : Timeline} (moment : Moment delay scripts timeline) :
      Moment delay scripts timeline.step

/-- A panic has reached the innermost run under way. -/
def IsUnwinding (timeline : Timeline) : Prop :=
  timeline.isPanicking = true ∨
    ∃ run rest outer, timeline.stack = ⟨run, .panic :: rest⟩ :: outer

/-- A run ends between two timelines: it leaves the stack, it is counted, it closes its phase and
opens a window. A follow-up that is flagged is deferred to the end of that window, and a run that is
waiting is left alone. -/
structure EndsRun (before after : Timeline) : Prop where
  stack : after.stack = before.stack.tail
  log : after.log = before.log
  now : after.now = before.now
  runs : after.gate.runs = before.gate.runs + 1
  resting : after.gate.phase.isExecuting = false
  lastRun : after.gate.lastRun = some before.now
  followUp : before.gate.hasFollowUp = true →
    after.gate.phase = .scheduled ⟨before.gate.nextTicket, before.now + before.gate.delay⟩
  served : after.gate.hasFollowUp = false
  waiting : ∀ timer, before.gate.phase = .scheduled timer → after.gate.phase = .scheduled timer

section Moments

variable {delay : Nat} {scripts : List (List Action)}

theorem Moment.exists_matches (moment : Moment delay scripts timeline) :
    (timeline.stack = [] ∨ timeline.isOpen = true) ∧
      ∃ situation, Matches situation timeline.clockwork := by
  induction moment with
  | rest steps =>
    have initial := matches_ofScripts delay scripts
    obtain ⟨plays, quiet⟩ := (quiet_ofScripts delay scripts).history_plays initial steps
    exact ⟨Or.inl quiet.stack, _, (plays.matches_after initial).1⟩
  | request _ isOpen quiet started inductionHypothesis =>
    obtain ⟨_, _, fits⟩ := inductionHypothesis
    exact ⟨Or.inr isOpen, _, (requestRun_ticks quiet isOpen started).matches_make fits⟩
  | wake _ isOpen quiet waiting inductionHypothesis =>
    obtain ⟨_, _, fits⟩ := inductionHypothesis
    exact ⟨Or.inr isOpen, _, (wakeRun_ticks quiet waiting).matches_make fits⟩
  | @step timeline _ inductionHypothesis =>
    obtain ⟨restsOrOpen, _, fits⟩ := inductionHypothesis
    by_cases quiet : timeline.stack = []
    · have same : timeline.step = timeline := steps_of_stack_eq_nil 1 quiet
      rw [same]
      exact ⟨restsOrOpen, _, fits⟩
    · have passage := step_passage (restsOrOpen.resolve_left quiet)
      exact ⟨Or.inr passage.isOpen, _, (passage.plays.matches_after fits).1⟩

/-- The gate is not executing once no run is under way. -/
theorem Moment.resting (moment : Moment delay scripts timeline) (quiet : timeline.stack = []) :
    timeline.gate.phase.isExecuting = false := by
  obtain ⟨_, situation, fits⟩ := moment.exists_matches
  refine Bool.eq_false_iff.mpr fun executing => ?_
  have underway := fits.sound.underway (fits.gate ▸ executing)
  rw [fits.executing, clockwork_remaining_eq_nil quiet] at underway
  exact Nat.lt_irrefl 0 underway

theorem Moment.followUp (moment : Moment delay scripts timeline)
    (flagged : timeline.gate.hasFollowUp = true) : timeline.gate.phase.isExecuting = true := by
  obtain ⟨_, situation, fits⟩ := moment.exists_matches
  have followUp := fits.sound.followUp
  rw [fits.gate] at followUp
  exact followUp flagged

theorem IsUnwinding.step_eq (unwinding : timeline.IsUnwinding) (busy : timeline.stack ≠ []) :
    timeline.step =
      { timeline with
        gate := timeline.gate.finish timeline.now
        stack := timeline.stack.tail
        isPanicking := true } := by
  have ends : timeline.step = timeline.endRun true := by
    obtain ⟨gate, now, scripts, stack, log, isPanicking, isOpen⟩ := timeline
    rcases unwinding with panicking | ⟨run, rest, outer, stackEq⟩
    · obtain rfl : isPanicking = true := panicking
      cases stack with
      | nil => exact absurd rfl busy
      | cons frame outer => rfl
    · obtain rfl : stack = ⟨run, .panic :: rest⟩ :: outer := stackEq
      cases isPanicking <;> rfl
  rw [ends, endRun]
  split <;> rfl

theorem Moment.endsRun (moment : Moment delay scripts timeline)
    (unwinding : timeline.IsUnwinding) (busy : timeline.stack ≠ []) :
    EndsRun timeline timeline.step := by
  rw [unwinding.step_eq busy]
  refine ⟨rfl, rfl, rfl, rfl, timeline.gate.isExecuting_close timeline.now, rfl, fun flagged => ?_,
    timeline.gate.hasFollowUp_close timeline.now moment.followUp, fun timer waiting => ?_⟩
  · simp [Gate.finish, Gate.close, Gate.schedule, moment.followUp flagged, flagged]
  · show (timeline.gate.close timeline.now).phase = _
    rw [Gate.close_of_scheduled waiting]
    exact waiting

/-- A panic unwinds all runs under way, one at each step. -/
theorem Moment.endsRun_steps (moment : Moment delay scripts timeline)
    (unwinding : timeline.IsUnwinding) {count : Nat} (inside : count < timeline.stack.length) :
    EndsRun (steps count timeline) (steps (count + 1) timeline) := by
  induction count generalizing timeline with
  | zero => exact moment.endsRun unwinding (List.ne_nil_of_length_pos inside)
  | succ count inductionHypothesis =>
    have stepEq := unwinding.step_eq (List.ne_nil_of_length_pos (Nat.zero_lt_of_lt inside))
    refine inductionHypothesis moment.step (Or.inl (by rw [stepEq])) ?_
    rw [stepEq, List.length_tail]
    exact Nat.lt_sub_of_add_lt inside

theorem IsUnwinding.stack_steps (unwinding : timeline.IsUnwinding) :
    (steps timeline.stack.length timeline).stack = [] := by
  generalize depth : timeline.stack.length = count
  induction count generalizing timeline with
  | zero => exact List.length_eq_zero_iff.mp depth
  | succ count inductionHypothesis =>
    have stepEq := unwinding.step_eq (List.ne_nil_of_length_eq_add_one depth)
    refine inductionHypothesis (Or.inl (by rw [stepEq])) ?_
    rw [stepEq, List.length_tail, depth]
    rfl

end Moments

/-! ### Endings and the gate -/

/-- How runs end does not affect the gate. With a delay, the scripts of two timelines may let any run
end in its own way, as long as the run does the same at the gate before. After any steps the gate,
the clock and the log are the same, and so is the reply to any step, except that a request reports
the panic of the run that it starts at once.

With or without a delay, when a panic unwinds runs that are inside each other, each of them is
counted, closes its phase, opens a window and defers the follow-up that was asked for. Once no run is
under way, the gate is not executing. -/
theorem gate_ignores_endings (delay : Nat) (scripts : List (List Action)) :
    (0 < delay → ∀ others : List (List Action),
      (∀ run, conduct (scripts.getD run []) = conduct (others.getD run [])) → ∀ steps step,
        let left := (ofScripts delay scripts).after steps
        let right := (ofScripts delay others).after steps
        right.gate = left.gate ∧ right.now = left.now ∧ right.log = left.log ∧
        right.isOpen = left.isOpen ∧
        (right.perform step).1.withoutPanic = (left.perform step).1.withoutPanic ∧
        ((left.perform step).1 = .panicked ↔
          left.isOpen = true ∧ step = .request ∧ (left.gate.request left.now).1 = .started ∧
            ending (scripts.getD left.log.length []) = .panic)) ∧
    ∀ timeline, Moment delay scripts timeline →
      (timeline.stack = [] → timeline.gate.phase.isExecuting = false) ∧
      (timeline.IsUnwinding →
        (∀ count < timeline.stack.length,
          EndsRun (steps count timeline) (steps (count + 1) timeline)) ∧
        (steps timeline.stack.length timeline).stack = []) := by
  constructor
  · intro delayed others same steps step left right
    have fits := matches_ofScripts delay scripts
    have quiet := quiet_ofScripts delay scripts
    have alike : Alike left right := (alike_ofScripts delayed same).after quiet
      (quiet_ofScripts delay others) fits (matches_ofScripts delay others) steps
    obtain ⟨plays, rested⟩ := quiet.history_plays fits steps
    have used : left.scripts = scripts.drop left.log.length := by
      rw [← length_starts]
      exact plays.scripts_eq rfl
    refine ⟨alike.gate, alike.now, alike.log, alike.isOpen, alike.withoutPanic_perform step, ?_⟩
    rw [rested.perform_eq_panicked_iff alike.delayed step, used, headD_drop]
  · intro timeline moment
    exact ⟨moment.resting, fun unwinding =>
      ⟨fun _ => moment.endsRun_steps unwinding, unwinding.stack_steps⟩⟩

/-- Without a delay, a run says that it has finished and starts another one from inside. That one
asks for a follow-up and is about to panic. -/
def nestedPanic : Timeline :=
  steps 3 (ofScripts 0 [[.finish, .request], [.request, .panic]]).requestRun

/-- The first and the third run panic on one timeline, and end well or fail on the other. Both runs
of the nested panic are unwound, and the follow-up is not lost. -/
theorem gate_ignores_endings_of_panics :
    let scripts := [[.request, .panic], [.fail, .request], [.finish, .panic]]
    let others := [[.request], [.panic, .cancel], [.finish, .fail]]
    let left := (ofScripts 100 scripts).after [.request, .advance 250]
    let right := (ofScripts 100 others).after [.request, .advance 250]
    right.gate = left.gate ∧ right.log = left.log ∧ left.log.length = 2 ∧
    (left.perform .request).1 = .panicked ∧
    (right.perform .request).1.withoutPanic = (left.perform .request).1.withoutPanic ∧
    nestedPanic.IsUnwinding ∧ nestedPanic.stack.length = 2 ∧
    EndsRun nestedPanic (steps 1 nestedPanic) ∧
    EndsRun (steps 1 nestedPanic) (steps 2 nestedPanic) ∧ (steps 2 nestedPanic).stack = [] ∧
    (steps 2 nestedPanic).gate.phase = .scheduled ⟨0, 0⟩ ∧
    (steps 2 nestedPanic).gate.phase.isExecuting = false := by
  dsimp only
  have same : ∀ run, conduct
      ([[.request, .panic], [.fail, .request], [.finish, .panic]].getD run []) =
        conduct ([[.request], [.panic, .cancel], [.finish, .fail]].getD run [])
    | 0 | 1 | 2 | _ + 3 => rfl
  obtain ⟨gate, _, log, _, reply, panics⟩ := (gate_ignores_endings 100
    [[.request, .panic], [.fail, .request], [.finish, .panic]]).1 (by decide) _ same
      [.request, .advance 250] .request
  have moment : Moment 0 [[.finish, .request], [.request, .panic]] nestedPanic :=
    (Moment.request (.rest []) rfl rfl (by decide)).step.step.step
  have inner := (gate_ignores_endings 0 [[.finish, .request], [.request, .panic]]).2
  have unwinding : nestedPanic.IsUnwinding := Or.inr ⟨1, [], [⟨0, []⟩], rfl⟩
  obtain ⟨ends, stack⟩ := (inner _ moment).2 unwinding
  exact ⟨gate, log, by decide, panics.mpr (by decide), reply, unwinding, rfl,
    ends 0 (by decide), ends 1 (by decide), stack, by decide, (inner _ moment.step.step).1 stack⟩

end Timeline

end CodeNavigator
