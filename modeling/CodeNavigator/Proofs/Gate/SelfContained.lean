/-
This file describes timelines whose work leaves its own gate alone: a run does nothing but end, well
or with a failure. On such a timeline at most one run starts in a step from outside, and it is over
when the step ends. So every step has a closed form, in which a run is one entry of the log, one
more run that is counted and a new window.

A failure makes no difference to any of this. The timeline whose runs fail as they like goes through
the same states, apart from its scripts, as the timeline whose runs all succeed.
-/

import CodeNavigator.Proofs.Gate.Service

namespace CodeNavigator

namespace Timeline

/-- Between the steps from outside of a timeline that is not dropped and whose runs do nothing but
end. -/
structure SelfContained (timeline : Timeline) : Prop where
  isOpen : timeline.isOpen = true
  stack : timeline.stack = []
  followUp : timeline.gate.hasFollowUp = false
  resting : timeline.gate.phase.isExecuting = false
  onTime : timeline.gate.OnTime timeline.now
  scripts : ∀ script ∈ timeline.scripts, script = [] ∨ script = [.fail]

theorem selfContained_ofScripts (delay : Nat) {scripts : List (List Action)}
    (ends : ∀ script ∈ scripts, script = [] ∨ script = [.fail]) :
    (ofScripts delay scripts).SelfContained :=
  ⟨rfl, rfl, rfl, rfl, Gate.onTime_ofDelay delay, ends⟩

/-! ### A whole run -/

/-- The timeline after a run that has started in some phase and has ended at the same time. -/
def runWhole (timeline : Timeline) (time : Nat) (phase : Phase) : Timeline :=
  { timeline with
    gate :=
      { timeline.gate with
        phase := .idle
        lastRun := some time
        runs := timeline.gate.runs + 1 }
    now := time
    scripts := timeline.scripts.tail
    log := timeline.log ++ [⟨time, phase, []⟩]
    isPanicking := false }

theorem settle_of_stack_step {timeline : Timeline} (busy : timeline.stack ≠ [])
    (ended : timeline.step.stack = []) : timeline.settle = timeline.step := by
  have loaded : timeline.load = timeline.load - 1 + 1 := by
    have depth := List.length_pos_iff.mpr busy
    unfold load
    omega
  rw [settle, loaded, steps, steps_of_stack_eq_nil _ ended]

theorem SelfContained.script {timeline : Timeline} (contained : timeline.SelfContained) :
    timeline.scripts.headD [] = [] ∨ timeline.scripts.headD [] = [.fail] := by
  cases scripts : timeline.scripts with
  | nil => exact Or.inl rfl
  | cons script rest => exact contained.scripts script (scripts ▸ List.mem_cons_self)

theorem finish_of_executing {gate : Gate} {phase : Phase} (now : Nat)
    (executing : phase.isExecuting = true) (plain : gate.hasFollowUp = false) :
    ({ gate with phase := phase } : Gate).finish now =
      { gate with phase := .idle, lastRun := some now, runs := gate.runs + 1 } := by
  simp [Gate.finish, Gate.close, executing, plain]

/-- A run that is started ends at once. -/
theorem SelfContained.settle_startRun {timeline : Timeline} (contained : timeline.SelfContained)
    (time : Nat) {phase : Phase} (executing : phase.isExecuting = true) :
    ({ timeline with now := time, isPanicking := false }.startRun
      { timeline.gate with phase := phase }).settle = timeline.runWhole time phase := by
  have ended := finish_of_executing time executing contained.followUp
  have whole : ({ timeline with now := time, isPanicking := false }.startRun
      { timeline.gate with phase := phase }).step = timeline.runWhole time phase := by
    rcases contained.script with script | script <;>
      simp only [step, act, startRun, endRun, runWhole, script, contained.stack, ended,
        List.tail_cons, Bool.false_eq_true, if_false]
  rw [← whole]
  refine settle_of_stack_step (by simp [startRun]) ?_
  rw [whole]
  exact contained.stack

theorem SelfContained.contained_runWhole {timeline : Timeline} (contained : timeline.SelfContained)
    {time last : Nat} (later : time ≤ last) (phase : Phase) :
    ({ timeline.runWhole time phase with now := last }).SelfContained where
  isOpen := contained.isOpen
  stack := contained.stack
  followUp := contained.followUp
  resting := rfl
  onTime := by
    refine ⟨fun other lastRun => ?_, nofun⟩
    cases lastRun
    exact later
  scripts script member := contained.scripts script (List.mem_of_mem_tail member)

/-! ### The closed forms of the steps -/

variable {timeline : Timeline}

theorem SelfContained.request_eq (contained : timeline.SelfContained) :
    timeline.request =
      (.disposed (timeline.gate.request timeline.now).1,
        if (timeline.gate.request timeline.now).1 = .started then
          timeline.runWhole timeline.now .immediate
        else { timeline with gate := (timeline.gate.request timeline.now).2 }) := by
  rw [request]
  split
  · next opened same =>
    have opens : opened = { timeline.gate with phase := .immediate } := by
      rcases timeline.gate.request_cases timeline.now with
        ⟨_, _, asked⟩ | ⟨_, asked⟩ | ⟨_, _, asked⟩ | ⟨_, asked⟩ <;>
        rw [asked] at same <;> cases same
      rfl
    have settled := contained.settle_startRun timeline.now
      (show Phase.immediate.isExecuting = true from rfl)
    rw [opens, settled, same, if_pos rfl]
    rfl
  · next disposition changed notStarted same =>
    rw [same, if_neg notStarted]

theorem SelfContained.advance_of_due (contained : timeline.SelfContained) {timer : Timer}
    (waiting : timeline.gate.phase = .scheduled timer) {duration : Nat}
    (due : timer.due ≤ timeline.now + duration) :
    timeline.advance duration =
      { timeline.runWhole timer.due .running with now := timeline.now + duration } := by
  have idle (count : Nat) : wakeUntil (timeline.now + duration) count
      (timeline.runWhole timer.due .running) = timeline.runWhole timer.due .running := by
    cases count <;> rfl
  have settled := contained.settle_startRun timer.due
    (show Phase.running.isExecuting = true from rfl)
  rw [advance, wakeLimit, wakeUntil]
  simp only [waiting, if_pos due, Gate.wake_of_scheduled waiting, settled, idle]

/-- The timer of a waiting run is due while time passes, or no timer is. -/
theorem due_or_early (timeline : Timeline) (duration : Nat) :
    (∃ timer, timeline.gate.phase = .scheduled timer ∧ timer.due ≤ timeline.now + duration) ∨
      ∀ timer, timeline.gate.phase = .scheduled timer →
        timeline.now + duration < timer.due := by
  by_cases due : ∃ timer, timeline.gate.phase = .scheduled timer ∧
      timer.due ≤ timeline.now + duration
  · exact Or.inl due
  · exact Or.inr fun timer waiting =>
      Nat.lt_of_not_le fun reached => due ⟨timer, waiting, reached⟩

theorem advance_of_not_due (timeline : Timeline) {duration : Nat}
    (early : ∀ timer, timeline.gate.phase = .scheduled timer →
      timeline.now + duration < timer.due) :
    timeline.advance duration = { timeline with now := timeline.now + duration } := by
  rw [advance, wakeLimit, wakeUntil]
  split
  · next timer waiting => rw [if_neg (Nat.not_le_of_lt (early timer waiting))]
  · rfl

/-! ### What a step can do -/

theorem perform_of_isOpen (isOpen : timeline.isOpen = true) (step : Step) :
    timeline.perform step = timeline.performOpen step := by
  unfold perform
  rw [if_pos isOpen]

theorem SelfContained.set {gate : Gate} {now : Nat} (contained : timeline.SelfContained)
    (plain : gate.hasFollowUp = false) (resting : gate.phase.isExecuting = false)
    (onTime : gate.OnTime now) : ({ timeline with gate := gate, now := now }).SelfContained :=
  ⟨contained.isOpen, contained.stack, plain, resting, onTime, contained.scripts⟩

/-- A step in which no run starts. What was waiting goes on waiting unless it is cancelled. -/
structure Rests (first : Timeline) (reply : Reply) (last : Timeline) : Prop where
  contained : last.SelfContained
  now : first.now ≤ last.now
  runs : last.gate.runs = first.gate.runs
  log : last.log = first.log
  waiting : ∀ timer, first.gate.phase = .scheduled timer →
    last.gate.phase = .scheduled timer ∨ reply = .cancelled true

theorem SelfContained.rests (contained : timeline.SelfContained) (reply : Reply) :
    Rests timeline reply timeline :=
  ⟨contained, Nat.le_refl _, rfl, rfl, fun _ => Or.inl⟩

theorem SelfContained.rests_request (contained : timeline.SelfContained) (reply : Reply)
    (deferred : (timeline.gate.request timeline.now).1 ≠ .started) :
    Rests timeline reply { timeline with gate := (timeline.gate.request timeline.now).2 } := by
  rcases timeline.gate.request_cases timeline.now with
    ⟨timer, waiting, same⟩ | ⟨executing, _⟩ | ⟨_, _, same⟩ | ⟨idle, same⟩
  · rw [same]
    exact contained.rests reply
  · rw [contained.resting] at executing
    cases executing
  · rw [same] at deferred
    exact absurd rfl deferred
  · have onTime := contained.onTime.request
    rw [same] at onTime ⊢
    refine ⟨contained.set contained.followUp rfl onTime, Nat.le_refl _, rfl, rfl, ?_⟩
    intro timer waiting
    rw [idle] at waiting
    cases waiting

theorem SelfContained.rests_finish (contained : timeline.SelfContained) (reply : Reply) :
    Rests timeline reply { timeline with gate := timeline.gate.close timeline.now } := by
  have onTime := contained.onTime.close
  rcases timeline.gate.close_cases timeline.now with ⟨_, same⟩ | ⟨executing, _⟩ | ⟨executing, _⟩
  · rw [same] at onTime ⊢
    exact ⟨contained.set contained.followUp contained.resting onTime, Nat.le_refl _, rfl, rfl,
      fun _ => Or.inl⟩
  all_goals
    rw [contained.resting] at executing
    cases executing

theorem SelfContained.rests_cancel (contained : timeline.SelfContained) :
    Rests timeline (.cancelled timeline.gate.cancel.1)
      { timeline with gate := timeline.gate.cancel.2 } := by
  have onTime := contained.onTime.cancel
  rcases timeline.gate.cancel_cases with ⟨timer, _, same⟩ | ⟨_, same⟩
  · rw [same] at onTime ⊢
    exact ⟨contained.set rfl rfl onTime, Nat.le_refl _, rfl, rfl, fun _ _ => Or.inr rfl⟩
  · rw [same] at onTime ⊢
    exact ⟨contained.set rfl contained.resting onTime, Nat.le_refl _, rfl, rfl, fun _ => Or.inl⟩

theorem SelfContained.rests_pass (contained : timeline.SelfContained) (reply : Reply) {later : Nat}
    (passes : timeline.now ≤ later)
    (early : ∀ timer, timeline.gate.phase = .scheduled timer → later < timer.due) :
    Rests timeline reply { timeline with now := later } := by
  have onTime : timeline.gate.OnTime later := by
    refine ⟨fun last lastRun => ?_, fun timer waiting => ?_⟩
    · exact Nat.le_trans (contained.onTime.lastRun last lastRun) passes
    · have short := (contained.onTime.due timer waiting).2
      exact ⟨Nat.le_of_lt (early timer waiting),
        Nat.le_trans short (Nat.add_le_add_right passes _)⟩
  exact ⟨contained.set contained.followUp contained.resting onTime, passes, rfl, rfl,
    fun _ => Or.inl⟩

/-- A step lets one whole run pass, or starts none. -/
theorem SelfContained.perform_cases (contained : timeline.SelfContained) {step : Step}
    (kept : step ≠ .drop) :
    (∃ time phase, timeline.now ≤ time ∧ time ≤ (timeline.perform step).2.now ∧
      (timeline.perform step).2 =
        { timeline.runWhole time phase with now := (timeline.perform step).2.now }) ∨
    Rests timeline (timeline.perform step).1 (timeline.perform step).2 := by
  rw [perform_of_isOpen contained.isOpen]
  cases step with
  | request =>
    rw [performOpen, contained.request_eq]
    by_cases started : (timeline.gate.request timeline.now).1 = .started
    · rw [if_pos started]
      exact Or.inl ⟨timeline.now, .immediate, Nat.le_refl _, Nat.le_refl _, rfl⟩
    · rw [if_neg started]
      exact Or.inr (contained.rests_request _ started)
  | finish => exact Or.inr (contained.rests_finish _)
  | cancel => exact Or.inr contained.rests_cancel
  | observe => exact Or.inr (contained.rests _)
  | delay => exact Or.inr (contained.rests _)
  | drop => exact absurd rfl kept
  | advance duration =>
    rw [performOpen]
    rcases timeline.due_or_early duration with ⟨timer, waiting, due⟩ | early
    · rw [contained.advance_of_due waiting due]
      exact Or.inl ⟨timer.due, .running, (contained.onTime.due timer waiting).1, due, rfl⟩
    · rw [timeline.advance_of_not_due early]
      exact Or.inr (contained.rests_pass _ (Nat.le_add_right _ _) early)

theorem SelfContained.contained_perform {step : Step} (contained : timeline.SelfContained)
    (kept : step ≠ .drop) : (timeline.perform step).2.SelfContained := by
  rcases contained.perform_cases kept with ⟨time, phase, _, later, same⟩ | rests
  · rw [same]
    exact contained.contained_runWhole later phase
  · exact rests.contained

/-- After a request a run is waiting, unless the request has started one. -/
theorem SelfContained.perform_request (contained : timeline.SelfContained) :
    (timeline.perform .request).2.log = timeline.log →
      ∃ timer, (timeline.perform .request).2.gate.phase = .scheduled timer := by
  rw [perform_of_isOpen contained.isOpen, performOpen, contained.request_eq]
  rcases timeline.gate.request_cases timeline.now with
    ⟨timer, waiting, same⟩ | ⟨executing, _⟩ | ⟨_, _, same⟩ | ⟨idle, same⟩
  · rw [same]
    exact fun _ => ⟨timer, waiting⟩
  · rw [contained.resting] at executing
    cases executing
  · rw [same]
    have starts : (timeline.runWhole timeline.now .immediate).log ≠ timeline.log := by
      simp [runWhole]
    exact fun none => absurd none starts
  · rw [same]
    exact fun _ => ⟨_, rfl⟩

/-! ### Failures -/

def withoutScripts (timeline : Timeline) : Timeline :=
  { timeline with scripts := [] }

theorem SelfContained.contained_withoutScripts (contained : timeline.SelfContained) :
    timeline.withoutScripts.SelfContained :=
  ⟨contained.isOpen, contained.stack, contained.followUp, contained.resting, contained.onTime,
    nofun⟩

/-- Whether runs fail makes no difference to a step. -/
theorem SelfContained.perform_withoutScripts (contained : timeline.SelfContained) {step : Step}
    (kept : step ≠ .drop) :
    timeline.withoutScripts.perform step =
      ((timeline.perform step).1, (timeline.perform step).2.withoutScripts) := by
  have succeeds := contained.contained_withoutScripts
  rw [perform_of_isOpen contained.isOpen, perform_of_isOpen succeeds.isOpen]
  cases step with
  | request =>
    have same : timeline.withoutScripts.gate.request timeline.withoutScripts.now =
        timeline.gate.request timeline.now := rfl
    rw [performOpen, performOpen, contained.request_eq, succeeds.request_eq, same]
    by_cases started : (timeline.gate.request timeline.now).1 = .started
    · rw [if_pos started, if_pos started]
      rfl
    · rw [if_neg started, if_neg started]
      rfl
  | drop => exact absurd rfl kept
  | advance duration =>
    rw [performOpen, performOpen]
    rcases timeline.due_or_early duration with ⟨timer, waiting, due⟩ | early
    · rw [contained.advance_of_due waiting due, succeeds.advance_of_due waiting due]
      rfl
    · rw [timeline.advance_of_not_due early, timeline.withoutScripts.advance_of_not_due early]
      rfl
  | _ => rfl

theorem SelfContained.after_withoutScripts (contained : timeline.SelfContained) {steps : List Step}
    (kept : ∀ step ∈ steps, step ≠ .drop) :
    timeline.withoutScripts.after steps = (timeline.after steps).withoutScripts := by
  induction steps generalizing timeline with
  | nil => rfl
  | cons step rest inductionHypothesis =>
    have now := kept step List.mem_cons_self
    have later (step : Step) (member : step ∈ rest) : step ≠ .drop :=
      kept step (List.mem_cons_of_mem _ member)
    show (timeline.withoutScripts.perform step).2.after rest = _
    rw [contained.perform_withoutScripts now]
    exact inductionHypothesis (contained.contained_perform now) later

end Timeline

end CodeNavigator
