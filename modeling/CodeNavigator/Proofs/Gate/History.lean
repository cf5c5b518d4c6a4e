/-
This file reads the history of a timeline: which turns are taken at the gate, in which order and at
which times. A step from outside takes its own turn, and then those of the runs that it starts, and
a step that lets time pass takes the turns of the runs that fall due.

The history is what the timeline plays, tick by tick. Two bounds make that so. The runs under way
come to their end within the steps that are counted for them, because every step uses up an action
or ends a run. And time never passes a run that is due: every run that is woken has to be asked for
by an action, so the actions that the scripts still hold count the runs that can still be woken.
-/

import CodeNavigator.Proofs.Gate.Clockwork

namespace CodeNavigator

open Gate (Turn Situation startTimes)

namespace Timeline

/-! ### The turns of a timeline -/

/-- The turn of the next thing that happens among the runs under way. -/
def turn? (timeline : Timeline) : Option Turn :=
  match timeline.stack with
  | [] => none
  | frame :: _ =>
    if timeline.isPanicking then some ⟨timeline.now, .finish .panic⟩
    else
      match frame.remaining with
      | [] => some ⟨timeline.now, .finish .success⟩
      | action :: _ => action.move?.map fun move => ⟨timeline.now, move⟩

def stepsTurns : Nat → Timeline → List Turn
  | 0, _ => []
  | count + 1, timeline => timeline.turn?.toList ++ stepsTurns count timeline.step

def settleTurns (timeline : Timeline) : List Turn :=
  stepsTurns timeline.load timeline

def wakeTurns (target : Nat) : Nat → Timeline → List Turn
  | 0, _ => []
  | count + 1, timeline =>
    match timeline.gate.phase with
    | .scheduled timer =>
      if timer.due ≤ target then
        match timeline.gate.wake timer.ticket with
        | some gate =>
          let begun := { timeline with now := timer.due, isPanicking := false }.startRun gate
          ⟨timer.due, .wake timer⟩ :: (begun.settleTurns ++ wakeTurns target count begun.settle)
        | none => []
      else []
    | _ => []

def requestTurns (timeline : Timeline) : List Turn :=
  ⟨timeline.now, .request⟩ ::
    match timeline.gate.request timeline.now with
    | (.started, opened) => ({ timeline with isPanicking := false }.startRun opened).settleTurns
    | _ => []

/-- The turns of one step from outside. -/
def turnsOf (timeline : Timeline) (step : Step) : List Turn :=
  if timeline.isOpen then
    match step with
    | .request => timeline.requestTurns
    | .finish => [⟨timeline.now, .close⟩]
    | .cancel => [⟨timeline.now, .cancel⟩]
    | .observe | .delay => []
    | .drop => [⟨timeline.now, .drop⟩]
    | .advance duration => timeline.wakeTurns (timeline.now + duration) timeline.wakeLimit
  else []

/-- The timeline after some steps from outside. -/
def after (timeline : Timeline) (steps : List Step) : Timeline :=
  steps.foldl (fun timeline step => (timeline.perform step).2) timeline

/-- The turns of some steps from outside. -/
def history : Timeline → List Step → List Turn
  | _, [] => []
  | timeline, step :: rest => timeline.turnsOf step ++ history (timeline.perform step).2 rest

/-! ### What happens among the runs under way -/

def clockwork (timeline : Timeline) : Clockwork :=
  ⟨timeline.gate, timeline.now, timeline.scripts, timeline.stack.map Frame.remaining,
    timeline.log.map Run.start, timeline.isOpen⟩

theorem clockwork_startRun (timeline : Timeline) (gate : Gate) :
    (timeline.startRun gate).clockwork =
      { timeline.clockwork with
        gate := gate
        scripts := timeline.scripts.tail
        remaining := timeline.scripts.headD [] :: timeline.clockwork.remaining
        starts := timeline.clockwork.starts ++ [timeline.now] } := by
  simp [clockwork, startRun]

theorem clockwork_note (timeline : Timeline) (run : Nat) (event : Event) :
    (timeline.note run event).clockwork = timeline.clockwork := by
  have starts : (timeline.note run event).log.map Run.start = timeline.log.map Run.start := by
    refine List.ext_getElem? fun index => ?_
    rw [List.getElem?_map, List.getElem?_map, note, List.getElem?_modify]
    cases timeline.log[index]? with
    | none => rfl
    | some entry =>
      simp only [Option.map_some]
      split <;> rfl
  rw [clockwork, starts]
  rfl

theorem clockwork_endRun (timeline : Timeline) (isPanicking : Bool) :
    (timeline.endRun isPanicking).clockwork =
      { timeline.clockwork with
        gate := timeline.gate.finish timeline.now
        remaining := timeline.stack.tail.map Frame.remaining } := by
  unfold endRun
  dsimp only
  split
  · split
    · rfl
    · rw [clockwork_note]
      rfl
  · rfl

theorem act_request (timeline : Timeline) (run : Nat) :
    timeline.act run .request =
      if (timeline.gate.request timeline.now).1 = .started then
        timeline.startRun (timeline.gate.request timeline.now).2
      else
        { timeline with gate := (timeline.gate.request timeline.now).2 }.note run
          (.disposed (timeline.gate.request timeline.now).1) := by
  rw [act]
  split
  · next opened same => rw [same, if_pos rfl]
  · next disposition changed notStarted same =>
    rw [same]
    exact (if_neg notStarted).symm

/-- A step among the runs under way is a tick. -/
theorem step_ticks {timeline : Timeline} (busy : timeline.stack ≠ [])
    (isOpen : timeline.isOpen = true) :
    Ticks timeline.clockwork timeline.turn? timeline.step.clockwork := by
  obtain ⟨gate, now, scripts, stack, log, isPanicking, open'⟩ := timeline
  obtain rfl : open' = true := isOpen
  cases stack with
  | nil => exact absurd rfl busy
  | cons frame outer =>
    obtain ⟨run, remaining⟩ := frame
    cases isPanicking with
    | true =>
      rw [step, turn?]
      simp only [if_true, clockwork_endRun]
      exact Ticks.finish .panic rfl
    | false =>
      cases remaining with
      | nil =>
        rw [step, turn?]
        simp only [Bool.false_eq_true, if_false, clockwork_endRun]
        exact Ticks.finish .success rfl
      | cons action rest =>
        rw [step, turn?]
        simp only [Bool.false_eq_true, if_false]
        cases action with
        | request =>
          have calls := Calls.inside .request rest (outer.map Frame.remaining)
          rw [act_request]
          by_cases started : (gate.request now).1 = .started
          · rw [if_pos started, clockwork_startRun]
            exact Ticks.start rfl calls started
          · rw [if_neg started, clockwork_note]
            exact Ticks.ask rfl calls started
        | finish =>
          rw [act, clockwork_note]
          exact Ticks.close rfl (Calls.inside _ _ _)
        | cancel =>
          rw [act, clockwork_note]
          exact Ticks.cancel rfl (Calls.inside _ _ _)
        | observePhase =>
          rw [act, clockwork_note]
          exact Ticks.observe rfl (Calls.inside .observePhase rest _)
        | countRuns =>
          rw [act, clockwork_note]
          exact Ticks.observe rfl (Calls.inside .countRuns rest _)
        | fail =>
          rw [act, clockwork_endRun]
          exact Ticks.finish .failure rfl
        | panic =>
          rw [act, clockwork_endRun]
          exact Ticks.finish .panic rfl

/-! ### The end of what is under way -/

theorem load_eq (timeline : Timeline) : timeline.load = timeline.clockwork.load := by
  rw [load, Clockwork.load, clockwork, List.flatMap_def, List.length_map]

theorem clockwork_remaining_ne_nil {timeline : Timeline} (busy : timeline.stack ≠ []) :
    timeline.clockwork.remaining ≠ [] := by
  simpa [clockwork] using busy

/-- What a number of steps among the runs under way comes to. -/
structure Passage (first : Timeline) (turns : List Turn) (last : Timeline) : Prop where
  plays : Plays first.clockwork turns last.clockwork
  now : last.now = first.now
  isOpen : last.isOpen = true
  budget : last.clockwork.budget ≤ first.clockwork.budget

theorem Passage.refl {timeline : Timeline} (isOpen : timeline.isOpen = true) :
    Passage timeline [] timeline :=
  ⟨Plays.refl _, rfl, isOpen, Nat.le_refl _⟩

theorem Passage.trans {first middle last : Timeline} {earlier later : List Turn}
    (before : Passage first earlier middle) (after : Passage middle later last) :
    Passage first (earlier ++ later) last where
  plays := before.plays.trans after.plays
  now := after.now.trans before.now
  isOpen := after.isOpen
  budget := Nat.le_trans after.budget before.budget

theorem step_passage {timeline : Timeline} (isOpen : timeline.isOpen = true) :
    Passage timeline timeline.turn?.toList timeline.step := by
  by_cases quiet : timeline.stack = []
  · rw [step, turn?, quiet]
    exact Passage.refl isOpen
  · have ticks := step_ticks quiet isOpen
    obtain ⟨now, stillOpen, _, budget⟩ := ticks.of_busy (clockwork_remaining_ne_nil quiet)
    exact ⟨ticks.plays, now, stillOpen.trans isOpen, budget⟩

theorem steps_passage (count : Nat) {timeline : Timeline} (isOpen : timeline.isOpen = true) :
    Passage timeline (stepsTurns count timeline) (steps count timeline) := by
  induction count generalizing timeline with
  | zero => exact Passage.refl isOpen
  | succ count inductionHypothesis =>
    have now := step_passage isOpen
    exact now.trans (inductionHypothesis now.isOpen)

theorem steps_of_stack_eq_nil (count : Nat) {timeline : Timeline} (quiet : timeline.stack = []) :
    steps count timeline = timeline := by
  induction count with
  | zero => rfl
  | succ count inductionHypothesis =>
    have same : timeline.step = timeline := by rw [step, quiet]
    rw [steps, same, inductionHypothesis]

/-- Enough steps end every run that is under way. -/
theorem steps_stack (count : Nat) {timeline : Timeline} (isOpen : timeline.isOpen = true)
    (enough : timeline.load ≤ count) : (steps count timeline).stack = [] := by
  induction count generalizing timeline with
  | zero =>
    have none : timeline.stack.length = 0 := by
      unfold load at enough
      omega
    exact List.length_eq_zero_iff.mp none
  | succ count inductionHypothesis =>
    by_cases quiet : timeline.stack = []
    · rw [steps_of_stack_eq_nil _ quiet]
      exact quiet
    · have less := ((step_ticks quiet isOpen).of_busy (clockwork_remaining_ne_nil quiet)).2.2.1
      refine inductionHypothesis (step_passage isOpen).isOpen ?_
      rw [load_eq] at enough ⊢
      omega

theorem settle_passage {timeline : Timeline} (isOpen : timeline.isOpen = true) :
    Passage timeline timeline.settleTurns timeline.settle :=
  steps_passage timeline.load isOpen

theorem settle_stack {timeline : Timeline} (isOpen : timeline.isOpen = true) :
    timeline.settle.stack = [] :=
  steps_stack timeline.load isOpen (Nat.le_refl _)

/-! ### Runs that start outside of every other run -/

/-- The work of the next run starts at some time. -/
def begun (timeline : Timeline) (now : Nat) (gate : Gate) : Timeline :=
  { timeline with now := now, isPanicking := false }.startRun gate

/-- A request from outside starts a run. -/
def requestRun (timeline : Timeline) : Timeline :=
  timeline.begun timeline.now (timeline.gate.request timeline.now).2

/-- The deferred run of a timer starts when it is due. -/
def wakeRun (timeline : Timeline) (timer : Timer) : Timeline :=
  timeline.begun timer.due { timeline.gate with phase := .running }

theorem clockwork_remaining_eq_nil {timeline : Timeline} (quiet : timeline.stack = []) :
    timeline.clockwork.remaining = [] := by
  rw [clockwork, quiet, List.map_nil]

theorem clockwork_begun {timeline : Timeline} (quiet : timeline.stack = []) (now : Nat)
    (gate : Gate) :
    (timeline.begun now gate).clockwork =
      { timeline.clockwork with
        gate := gate
        now := now
        scripts := timeline.scripts.tail
        remaining := [timeline.scripts.headD []]
        starts := timeline.clockwork.starts ++ [now] } := by
  rw [begun, clockwork_startRun]
  simp only [clockwork, quiet, List.map_nil]

theorem requestRun_ticks {timeline : Timeline} (quiet : timeline.stack = [])
    (isOpen : timeline.isOpen = true)
    (started : (timeline.gate.request timeline.now).1 = .started) :
    Ticks timeline.clockwork (some ⟨timeline.now, .request⟩) timeline.requestRun.clockwork := by
  have calls : Calls timeline.clockwork.remaining .request [] := by
    rw [clockwork_remaining_eq_nil quiet]
    exact Calls.outside .request
  rw [requestRun, clockwork_begun quiet]
  exact Ticks.start isOpen calls started

theorem wakeRun_ticks {timeline : Timeline} {timer : Timer} (quiet : timeline.stack = [])
    (waiting : timeline.gate.phase = .scheduled timer) :
    Ticks timeline.clockwork (some ⟨timer.due, .wake timer⟩)
      (timeline.wakeRun timer).clockwork := by
  rw [wakeRun, clockwork_begun quiet]
  exact Ticks.wake (clockwork_remaining_eq_nil quiet) waiting

theorem budget_wakeRun {timeline : Timeline} {timer : Timer} (quiet : timeline.stack = [])
    (waiting : timeline.gate.phase = .scheduled timer) :
    (timeline.wakeRun timer).clockwork.budget + 1 = timeline.clockwork.budget := by
  have moved := length_flatten_tail_add_headD timeline.scripts
  have owed := Gate.owed_running waiting
  unfold Clockwork.budget
  rw [wakeRun, clockwork_begun quiet, clockwork_remaining_eq_nil quiet]
  simp only [clockwork, List.flatten_cons, List.flatten_nil, List.length_append, List.length_nil]
  omega

/-! ### The clock -/

/-- Waking what is due ends with nothing under way and nothing due. -/
theorem wakeUntil_plays (target count : Nat) {timeline : Timeline}
    (isOpen : timeline.isOpen = true) (quiet : timeline.stack = []) (now : timeline.now ≤ target)
    (enough : timeline.clockwork.budget ≤ count) :
    let last := wakeUntil target count timeline
    Plays timeline.clockwork (wakeTurns target count timeline) last.clockwork ∧
      last.isOpen = true ∧ last.stack = [] ∧ last.now ≤ target ∧
      ∀ timer, last.gate.phase = .scheduled timer → target < timer.due := by
  induction count generalizing timeline with
  | zero =>
    refine ⟨Plays.refl _, isOpen, quiet, now, fun timer waiting => ?_⟩
    have owed : _ + 1 = timeline.gate.owed := Gate.owed_running waiting
    have none : timeline.gate.owed ≤ 0 := Nat.le_trans (Nat.le_add_left _ _) enough
    omega
  | succ count inductionHypothesis =>
    rw [wakeUntil, wakeTurns]
    cases phase : timeline.gate.phase with
    | scheduled timer =>
      by_cases due : timer.due ≤ target
      · simp only [Gate.wake_of_scheduled phase, if_pos due]
        have opened : (timeline.wakeRun timer).isOpen = true := isOpen
        have settled := settle_passage opened
        have early : (timeline.wakeRun timer).settle.now ≤ target :=
          Nat.le_trans (Nat.le_of_eq settled.now) due
        have budget : (timeline.wakeRun timer).settle.clockwork.budget ≤ count := by
          have less := budget_wakeRun quiet phase
          have := settled.budget
          omega
        obtain ⟨plays, rest⟩ :=
          inductionHypothesis settled.isOpen (settle_stack opened) early budget
        have ticks := wakeRun_ticks quiet phase
        exact ⟨ticks.plays.trans (settled.plays.trans plays), rest⟩
      · simp only [if_neg due]
        refine ⟨Plays.refl _, isOpen, quiet, now, fun other waiting => ?_⟩
        rw [phase] at waiting
        cases waiting
        exact Nat.lt_of_not_le due
    | _ =>
      refine ⟨Plays.refl _, isOpen, quiet, now, fun other waiting => ?_⟩
      rw [phase] at waiting
      cases waiting

/-! ### Steps from outside -/

/-- Between the steps from outside nothing is under way, and nothing waits once the gate was
dropped. -/
structure Quiet (timeline : Timeline) : Prop where
  stack : timeline.stack = []
  dropped : timeline.isOpen = false → ∀ timer, timeline.gate.phase ≠ .scheduled timer

theorem Quiet.remaining {timeline : Timeline} (quiet : timeline.Quiet) :
    timeline.clockwork.remaining = [] :=
  clockwork_remaining_eq_nil quiet.stack

theorem quiet_of_isOpen {timeline : Timeline} (isOpen : timeline.isOpen = true)
    (stack : timeline.stack = []) : timeline.Quiet := by
  refine ⟨stack, fun dropped => ?_⟩
  rw [isOpen] at dropped
  cases dropped

/-- The clock counts every run that can still be woken. -/
theorem Quiet.budget_le {timeline : Timeline} (quiet : timeline.Quiet) {situation : Situation}
    (fits : Matches situation timeline.clockwork) :
    timeline.clockwork.budget ≤ timeline.wakeLimit := by
  have followUp := fits.sound.followUp
  rw [fits.gate] at followUp
  have owed := timeline.gate.owed_eq_cancel followUp
  have none : timeline.clockwork.remaining.flatten.length = 0 := by
    rw [quiet.remaining]
    rfl
  have atMostOne : timeline.gate.owed ≤ 1 := by
    rw [owed]
    split <;> omega
  show timeline.scripts.flatten.length + _ + timeline.gate.owed ≤ _
  rw [none, wakeLimit]
  omega

theorem request_snd (timeline : Timeline) :
    timeline.request.2 =
      if (timeline.gate.request timeline.now).1 = .started then timeline.requestRun.settle
      else { timeline with gate := (timeline.gate.request timeline.now).2 } := by
  rw [request, requestRun]
  split
  · next opened same =>
    rw [same, if_pos rfl]
    rfl
  · next disposition changed notStarted same =>
    rw [same]
    exact (if_neg notStarted).symm

theorem requestTurns_eq (timeline : Timeline) :
    timeline.requestTurns = ⟨timeline.now, .request⟩ ::
      if (timeline.gate.request timeline.now).1 = .started then timeline.requestRun.settleTurns
      else [] := by
  rw [requestTurns, requestRun]
  split
  · next opened same =>
    rw [same, if_pos rfl]
    rfl
  · next outcome notStarted =>
    refine congrArg _ (if_neg fun started => ?_).symm
    exact notStarted _ (Prod.ext started rfl)

theorem Quiet.request_plays {timeline : Timeline} (quiet : timeline.Quiet)
    (isOpen : timeline.isOpen = true) :
    Plays timeline.clockwork timeline.requestTurns timeline.request.2.clockwork ∧
      timeline.request.2.Quiet := by
  rw [request_snd, requestTurns_eq]
  by_cases started : (timeline.gate.request timeline.now).1 = .started
  · rw [if_pos started, if_pos started]
    have opened : timeline.requestRun.isOpen = true := isOpen
    have settled := settle_passage opened
    have ticks := requestRun_ticks quiet.stack isOpen started
    exact ⟨ticks.plays.trans settled.plays, quiet_of_isOpen settled.isOpen (settle_stack opened)⟩
  · rw [if_neg started, if_neg started]
    refine ⟨?_, quiet_of_isOpen isOpen quiet.stack⟩
    have calls : Calls timeline.clockwork.remaining .request [] := by
      rw [quiet.remaining]
      exact Calls.outside .request
    have asks := (Ticks.ask isOpen calls started).plays
    simp only [clockwork, quiet.stack, List.map_nil] at asks ⊢
    exact asks

/-- Time passes up to its target, and nothing that is due is left waiting. -/
theorem Quiet.advance_plays {timeline : Timeline} (quiet : timeline.Quiet)
    (isOpen : timeline.isOpen = true) {situation : Situation}
    (fits : Matches situation timeline.clockwork) (duration : Nat) :
    Plays timeline.clockwork
        (timeline.wakeTurns (timeline.now + duration) timeline.wakeLimit)
        (timeline.advance duration).clockwork ∧
      (timeline.advance duration).Quiet ∧
      ∀ timer, (timeline.advance duration).gate.phase = .scheduled timer →
        (timeline.advance duration).now < timer.due := by
  obtain ⟨plays, stillOpen, stack, early, due⟩ := wakeUntil_plays (timeline.now + duration)
    timeline.wakeLimit isOpen quiet.stack (Nat.le_add_right _ _) (quiet.budget_le fits)
  have rested : (timeline.advance duration).Quiet := quiet_of_isOpen stillOpen stack
  have passes := Ticks.pass (quiet_of_isOpen stillOpen stack).remaining early due
  have whole := plays.trans passes.plays
  rw [Option.toList_none, List.append_nil] at whole
  exact ⟨whole, rested, due⟩

theorem Quiet.perform_plays {timeline : Timeline} (quiet : timeline.Quiet) {situation : Situation}
    (fits : Matches situation timeline.clockwork) (step : Step) :
    Plays timeline.clockwork (timeline.turnsOf step) (timeline.perform step).2.clockwork ∧
      (timeline.perform step).2.Quiet := by
  have outside (action : Action) :
      Calls timeline.clockwork.remaining action timeline.clockwork.remaining := by
    rw [quiet.remaining]
    exact Calls.outside action
  unfold perform turnsOf
  by_cases isOpen : timeline.isOpen = true
  · rw [if_pos isOpen, if_pos isOpen]
    cases step with
    | request => exact quiet.request_plays isOpen
    | finish =>
      exact ⟨(Ticks.close isOpen (outside .finish)).plays, quiet_of_isOpen isOpen quiet.stack⟩
    | cancel =>
      exact ⟨(Ticks.cancel isOpen (outside .cancel)).plays, quiet_of_isOpen isOpen quiet.stack⟩
    | observe => exact ⟨Plays.refl _, quiet⟩
    | delay => exact ⟨Plays.refl _, quiet⟩
    | drop =>
      exact ⟨(Ticks.drop isOpen quiet.remaining).plays, quiet.stack,
        fun _ => timeline.gate.phase_cancel_ne⟩
    | advance duration =>
      obtain ⟨plays, rested, _⟩ := quiet.advance_plays isOpen fits duration
      exact ⟨plays, rested⟩
  · rw [if_neg isOpen, if_neg isOpen]
    have waitless := quiet.dropped (Bool.eq_false_iff.mpr isOpen)
    cases step with
    | advance duration =>
      have passes := Ticks.pass quiet.remaining (Nat.le_add_right timeline.now duration)
        fun timer waiting => absurd waiting (waitless timer)
      exact ⟨passes.plays, quiet.stack, fun _ => waitless⟩
    | _ => exact ⟨Plays.refl _, quiet⟩

/-- After some time has passed, nothing is left waiting that is due. -/
theorem Quiet.lt_due_of_advance {timeline : Timeline} (quiet : timeline.Quiet)
    {situation : Situation} (fits : Matches situation timeline.clockwork) {duration : Nat}
    {timer : Timer}
    (waiting : (timeline.perform (.advance duration)).2.gate.phase = .scheduled timer) :
    (timeline.perform (.advance duration)).2.now < timer.due := by
  unfold perform at waiting ⊢
  by_cases isOpen : timeline.isOpen = true
  · rw [if_pos isOpen] at waiting ⊢
    exact (quiet.advance_plays isOpen fits duration).2.2 timer waiting
  · rw [if_neg isOpen] at waiting
    exact absurd waiting (quiet.dropped (Bool.eq_false_iff.mpr isOpen) timer)

/-! ### Histories -/

theorem after_append (timeline : Timeline) (first second : List Step) :
    timeline.after (first ++ second) = (timeline.after first).after second :=
  List.foldl_append

/-- A timeline plays its history. -/
theorem Quiet.history_plays {timeline : Timeline} (quiet : timeline.Quiet) {situation : Situation}
    (fits : Matches situation timeline.clockwork) (steps : List Step) :
    Plays timeline.clockwork (timeline.history steps) (timeline.after steps).clockwork ∧
      (timeline.after steps).Quiet := by
  induction steps generalizing timeline situation with
  | nil => exact ⟨Plays.refl _, quiet⟩
  | cons step rest inductionHypothesis =>
    obtain ⟨now, rested⟩ := quiet.perform_plays fits step
    obtain ⟨later, last⟩ := inductionHypothesis rested (now.matches_after fits).1
    exact ⟨now.trans later, last⟩

theorem quiet_ofScripts (delay : Nat) (scripts : List (List Action)) :
    (ofScripts delay scripts).Quiet :=
  quiet_of_isOpen rfl rfl

theorem matches_ofScripts (delay : Nat) (scripts : List (List Action)) :
    Matches (.ofDelay delay) (ofScripts delay scripts).clockwork :=
  ⟨Gate.Situation.sound_ofDelay delay, rfl, rfl, rfl⟩

/-- The log lists the runs of the history. -/
theorem log_map_start (delay : Nat) (scripts : List (List Action)) (steps : List Step) :
    ((ofScripts delay scripts).after steps).log.map Run.start =
      startTimes ((Situation.ofDelay delay).course ((ofScripts delay scripts).history steps)) := by
  have initial := matches_ofScripts delay scripts
  exact (((quiet_ofScripts delay scripts).history_plays initial steps).1.matches_after initial).2

end Timeline

end CodeNavigator
