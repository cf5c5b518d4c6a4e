/-
This file proves that only the time matters that passes on a timeline, and not in how many pieces it
passes. What happens while time passes is told here without any bound: the run that is due is woken
and carried to its end, step by step, then the next one, and so on until nothing is due. The end of
such a story does not depend on where it begins to count, so a first piece of time and a second one
tell the same story as both together.

That the story has an end, even where runs keep asking for follow-ups that are due at the same
instant, is not a matter of time. Every run that starts uses up a batch that some request has opened,
and the requests come from the scripts, which grow shorter with every run.
-/

import CodeNavigator.Proofs.Gate.Batch
import CodeNavigator.Proofs.Gate.History

namespace CodeNavigator

namespace Timeline

open Gate (Turn Situation Occurrence startTimes)

/-! ### The passing of time -/

/-- The runs under way come to their end, one step after the other. -/
inductive Settles : Timeline → Timeline → Prop
  | quiet {timeline : Timeline} (quiet : timeline.stack = []) : Settles timeline timeline
  | step {first last : Timeline} (busy : first.stack ≠ []) (settles : Settles first.step last) :
    Settles first last

/-- Time passes up to its target: what is due is woken and comes to its end, until nothing is due. -/
inductive Elapses (target : Nat) : Timeline → Timeline → Prop
  | rest {timeline : Timeline}
    (early : ∀ timer, timeline.gate.phase = .scheduled timer → target < timer.due) :
    Elapses target timeline { timeline with now := target }
  | wake {first ended last : Timeline} {timer : Timer}
    (waiting : first.gate.phase = .scheduled timer) (due : timer.due ≤ target)
    (settles : Settles (first.wakeRun timer) ended) (elapses : Elapses target ended last) :
    Elapses target first last

variable {first middle last other : Timeline} {target : Nat}

theorem Settles.unique (settles : Settles first last) (again : Settles first other) :
    other = last := by
  induction settles with
  | quiet quiet =>
    cases again with
    | quiet => rfl
    | step busy => exact absurd quiet busy
  | step busy _ inductionHypothesis =>
    cases again with
    | quiet quiet => exact absurd quiet busy
    | step _ again => exact inductionHypothesis again

/-- There is only one way in which time can pass. -/
theorem Elapses.unique (elapses : Elapses target first last) (again : Elapses target first other) :
    other = last := by
  induction elapses with
  | rest early =>
    cases again with
    | rest => rfl
    | wake waiting due => exact absurd due (Nat.not_le_of_lt (early _ waiting))
  | wake waiting due settles _ inductionHypothesis =>
    cases again with
    | rest early => exact absurd due (Nat.not_le_of_lt (early _ waiting))
    | wake waitingAgain _ settlesAgain again =>
      obtain rfl := Phase.scheduled.inj (waiting.symm.trans waitingAgain)
      obtain rfl := settles.unique settlesAgain
      exact inductionHypothesis again

/-- It does not matter what the clock shows before time passes. -/
theorem Elapses.of_now {now : Nat} (elapses : Elapses target { first with now := now } last) :
    Elapses target first last := by
  cases elapses with
  | rest early => exact .rest early
  | wake waiting due settles elapses => exact .wake waiting due settles elapses

/-- Time that passes in two pieces passes in one. -/
theorem Elapses.trans {later : Nat} (elapses : Elapses target first middle) (le : target ≤ later)
    (further : Elapses later middle last) : Elapses later first last := by
  induction elapses with
  | rest => exact further.of_now
  | wake waiting due settles _ inductionHypothesis =>
    exact .wake waiting (Nat.le_trans due le) settles (inductionHypothesis further)

/-! ### The end of what passes -/

theorem settles_steps (count : Nat) {timeline : Timeline}
    (ended : (steps count timeline).stack = []) : Settles timeline (steps count timeline) := by
  induction count generalizing timeline with
  | zero => exact .quiet ended
  | succ count inductionHypothesis =>
    by_cases quiet : timeline.stack = []
    · rw [steps_of_stack_eq_nil _ quiet]
      exact .quiet quiet
    · exact .step quiet (inductionHypothesis ended)

theorem settles_settle {timeline : Timeline} (isOpen : timeline.isOpen = true) :
    Settles timeline timeline.settle :=
  settles_steps timeline.load (settle_stack isOpen)

/-- When the runs that are due have been started until none is left, time has passed. -/
theorem elapses_wakeUntil (count : Nat) {timeline : Timeline} (isOpen : timeline.isOpen = true)
    (early : ∀ timer, (wakeUntil target count timeline).gate.phase = .scheduled timer →
      target < timer.due) :
    Elapses target timeline { wakeUntil target count timeline with now := target } := by
  induction count generalizing timeline with
  | zero => exact .rest early
  | succ count inductionHypothesis =>
    rw [wakeUntil] at early ⊢
    cases phase : timeline.gate.phase with
    | scheduled timer =>
      simp only [phase, Gate.wake_of_scheduled phase] at early ⊢
      by_cases due : timer.due ≤ target
      · simp only [if_pos due] at early ⊢
        have opened : (timeline.wakeRun timer).isOpen = true := isOpen
        exact .wake phase due (settles_settle opened)
          (inductionHypothesis (settle_passage opened).isOpen early)
      · simp only [if_neg due] at early ⊢
        exact .rest early
    | _ =>
      refine .rest fun timer waiting => ?_
      rw [phase] at waiting
      cases waiting

/-- A step that lets time pass lets it pass to its end. -/
theorem Quiet.elapses_perform {timeline : Timeline} (quiet : timeline.Quiet) {situation : Situation}
    (fits : Matches situation timeline.clockwork) (duration : Nat) :
    Elapses (timeline.now + duration) timeline (timeline.perform (.advance duration)).2 := by
  unfold perform
  by_cases isOpen : timeline.isOpen = true
  · rw [if_pos isOpen]
    exact elapses_wakeUntil timeline.wakeLimit isOpen (quiet.advance_plays isOpen fits duration).2.2
  · rw [if_neg isOpen]
    have waitless := quiet.dropped (Bool.eq_false_iff.mpr isOpen)
    exact .rest fun timer waiting => absurd waiting (waitless timer)

theorem now_perform_advance (timeline : Timeline) (duration : Nat) :
    (timeline.perform (.advance duration)).2.now = timeline.now + duration := by
  unfold perform
  split <;> rfl

/-! ### What is used up -/

/-- How many runs can still be asked for, by what is left of the scripts or by a batch that is owed
its run already. -/
def Clockwork.demand (clockwork : Clockwork) : Nat :=
  clockwork.scripts.flatten.count .request + clockwork.remaining.flatten.count .request +
    clockwork.gate.owed

theorem count_flatten_tail_add_headD (scripts : List (List Action)) :
    scripts.tail.flatten.count .request + (scripts.headD []).count .request =
      scripts.flatten.count .request := by
  cases scripts with
  | nil => rfl
  | cons script rest =>
    rw [List.flatten_cons, List.count_append]
    exact Nat.add_comm _ _

theorem Calls.count_flatten {remaining rest : List (List Action)} {action : Action}
    (calls : Calls remaining action rest) (busy : remaining ≠ []) :
    rest.flatten.count .request + (if action = .request then 1 else 0) =
      remaining.flatten.count .request := by
  cases calls with
  | inside action rest outer =>
    simp only [List.flatten_cons, List.count_append, List.count_cons, beq_iff_eq]
    omega
  | outside => exact absurd rfl busy

/-- A run that starts has been asked for by an action of the runs under way, which is then used up,
or by the batch that was owed. -/
theorem Ticks.demand_le {before after : Clockwork} {turn : Option Turn}
    (ticks : Ticks before turn after)
    (inside : before.remaining ≠ [] ∨ ∃ time timer, turn = some ⟨time, .wake timer⟩) :
    after.starts.length + after.demand ≤ before.starts.length + before.demand := by
  unfold Clockwork.demand
  have busy (other : ∀ time timer, turn ≠ some ⟨time, .wake timer⟩) : before.remaining ≠ [] :=
    inside.resolve_right fun ⟨time, timer, wakes⟩ => other time timer wakes
  cases ticks with
  | start isOpen calls started =>
    have total := calls.count_flatten (busy nofun)
    have moved := count_flatten_tail_add_headD before.scripts
    have owed := before.gate.owed_request_of_started before.now started
    rw [if_pos rfl] at total
    simp only [List.flatten_cons, List.count_append, List.length_append, List.length_cons,
      List.length_nil]
    omega
  | ask isOpen calls deferred =>
    have total := calls.count_flatten (busy nofun)
    have owed := before.gate.owed_request_le before.now
    rw [if_pos rfl] at total
    simp only
    omega
  | close isOpen calls =>
    have total := calls.count_flatten (busy nofun)
    have owed := before.gate.owed_close before.now
    simp only
    omega
  | cancel isOpen calls =>
    have total := calls.count_flatten (busy nofun)
    have owed := before.gate.owed_cancel
    simp only
    omega
  | drop isOpen quiet => exact absurd quiet (busy nofun)
  | observe silent calls =>
    have total := calls.count_flatten (busy nofun)
    simp only
    omega
  | finish ending underway =>
    have owed : (before.gate.finish before.now).owed = before.gate.owed :=
      before.gate.owed_close before.now
    simp only [underway, List.flatten_cons, List.count_append]
    omega
  | @wake timer quiet waiting =>
    have moved := count_flatten_tail_add_headD before.scripts
    have owed := Gate.owed_running waiting
    simp only [quiet, List.flatten_cons, List.flatten_nil, List.append_nil, List.length_append,
      List.length_cons, List.length_nil]
    omega
  | pass quiet later early => exact absurd quiet (busy nofun)

theorem length_starts (timeline : Timeline) :
    timeline.clockwork.starts.length = timeline.log.length :=
  List.length_map _

theorem Settles.demand_le (settles : Settles first last) (isOpen : first.isOpen = true) :
    last.isOpen = true ∧ last.stack = [] ∧
      last.log.length + last.clockwork.demand ≤ first.log.length + first.clockwork.demand := by
  induction settles with
  | quiet quiet => exact ⟨isOpen, quiet, Nat.le_refl _⟩
  | step busy _ inductionHypothesis =>
    obtain ⟨stillOpen, quiet, less⟩ := inductionHypothesis (step_passage isOpen).isOpen
    have now := (step_ticks busy isOpen).demand_le (Or.inl (clockwork_remaining_ne_nil busy))
    rw [length_starts, length_starts] at now
    exact ⟨stillOpen, quiet, Nat.le_trans less now⟩

/-- Each run that starts while time passes lessens what can still be asked for. -/
theorem Elapses.demand_le (elapses : Elapses target first last) (quiet : first.stack = [])
    (isOpen : first.isOpen = true) :
    last.log.length + last.clockwork.demand ≤ first.log.length + first.clockwork.demand := by
  induction elapses with
  | rest => exact Nat.le_refl _
  | wake waiting due settles _ inductionHypothesis =>
    have now := (wakeRun_ticks quiet waiting).demand_le (Or.inr ⟨_, _, rfl⟩)
    rw [length_starts, length_starts] at now
    obtain ⟨stillOpen, ended, less⟩ := settles.demand_le isOpen
    exact Nat.le_trans (inductionHypothesis ended stillOpen) (Nat.le_trans less now)

theorem Quiet.demand_le {timeline : Timeline} (quiet : timeline.Quiet) {situation : Situation}
    (fits : Matches situation timeline.clockwork) (duration : Nat) :
    let advanced := (timeline.perform (.advance duration)).2
    advanced.log.length + advanced.clockwork.demand ≤
      timeline.log.length + timeline.clockwork.demand := by
  by_cases isOpen : timeline.isOpen = true
  · exact (quiet.elapses_perform fits duration).demand_le quiet.stack isOpen
  · rw [perform, if_neg isOpen]
    exact Nat.le_refl _

/-! ### Pieces of time -/

/-- To advance by some time and then by some more is to advance by both at once: the gate, the runs
with their times and answers, and all else are the same.

Told without a bound, the passing of time comes to an end, namely to where the timeline advances,
with nothing under way and nothing due. The runs that start are those of the turns that are taken.
At every point among them, the runs that have started and the batches that were dropped or are still
owed are just the batches that requests have opened and those that were owed before. And each run
that starts lessens what the scripts can still ask for. -/
theorem advance_in_pieces (delay : Nat) (scripts : List (List Action)) (steps : List Step) :
    let timeline := (ofScripts delay scripts).after steps
    let before := (Situation.ofDelay delay).after ((ofScripts delay scripts).history steps)
    (∀ first second,
      ((timeline.perform (.advance first)).2.perform (.advance second)).2 =
        (timeline.perform (.advance (first + second))).2) ∧
    ∀ duration,
      let advanced := (timeline.perform (.advance duration)).2
      let turns := timeline.turnsOf (.advance duration)
      (∀ last, Elapses (timeline.now + duration) timeline last ↔ last = advanced) ∧
      advanced.now = timeline.now + duration ∧ advanced.stack = [] ∧
      (∀ timer, advanced.gate.phase = .scheduled timer → advanced.now < timer.due) ∧
      advanced.log.map Run.start =
        timeline.log.map Run.start ++ startTimes (before.course turns) ∧
      (∀ early, early <+: turns →
        (before.course early).countP Occurrence.startsRun + (before.after early).gate.owed +
            (before.course early).countP Occurrence.dropsBatch =
          (before.course early).countP Occurrence.opensBatch + before.gate.owed) ∧
      advanced.log.length + advanced.clockwork.demand ≤
        timeline.log.length + timeline.clockwork.demand := by
  intro timeline before
  obtain ⟨plays, quiet⟩ :=
    (quiet_ofScripts delay scripts).history_plays (matches_ofScripts delay scripts) steps
  have fits : Matches before timeline.clockwork :=
    (plays.matches_after (matches_ofScripts delay scripts)).1
  constructor
  · intro first second
    have early := quiet.elapses_perform fits first
    obtain ⟨playsEarly, rested⟩ := quiet.perform_plays fits (.advance first)
    have late := rested.elapses_perform (playsEarly.matches_after fits).1 second
    rw [now_perform_advance, Nat.add_assoc] at late
    exact (quiet.elapses_perform fits (first + second)).unique
      (early.trans (Nat.add_le_add_left (Nat.le_add_right _ _) _) late)
  · intro duration advanced turns
    have elapses := quiet.elapses_perform fits duration
    obtain ⟨playsOn, rested⟩ := quiet.perform_plays fits (.advance duration)
    refine ⟨fun last => ⟨elapses.unique, fun same => same ▸ elapses⟩,
      now_perform_advance timeline duration, rested.stack,
      fun timer => quiet.lt_due_of_advance fits, (playsOn.matches_after fits).2,
      fun early _ => ?_, quiet.demand_le fits duration⟩
    have balance := fits.sound.batches_balance early
    omega

/-- Without a delay every follow-up is due at once. The runs that the work asks for all start at the
same instant, and one of them asks again after it has closed itself. The first of them has used up
the batch that was owed, and has opened the next one. -/
theorem advance_in_pieces_at_one_instant :
    let scripts := [[.request], [.request], [.request, .finish, .request], [.panic]]
    let timeline := (ofScripts 0 scripts).after [.request]
    let before := (Situation.ofDelay 0).after ((ofScripts 0 scripts).history [.request])
    let advanced := (timeline.perform (.advance (2 + 3))).2
    let early := [⟨0, .wake ⟨0, 0⟩⟩, ⟨0, .request⟩]
    ((timeline.perform (.advance 2)).2.perform (.advance 3)).2 = advanced ∧
    Elapses (timeline.now + (2 + 3)) timeline advanced ∧
    advanced.log.map Run.start = [0, 0, 0, 0] ∧ early <+: timeline.turnsOf (.advance (2 + 3)) ∧
    (before.course early).countP Occurrence.startsRun + (before.after early).gate.owed +
        (before.course early).countP Occurrence.dropsBatch =
      (before.course early).countP Occurrence.opensBatch + before.gate.owed ∧
    advanced.log.length + advanced.clockwork.demand ≤
      timeline.log.length + timeline.clockwork.demand := by
  dsimp only
  obtain ⟨pieces, passes⟩ := advance_in_pieces 0
    [[.request], [.request], [.request, .finish, .request], [.panic]] [.request]
  obtain ⟨elapses, _, _, _, starts, balance, demand⟩ := passes (2 + 3)
  have woken : [⟨0, .wake ⟨0, 0⟩⟩, ⟨0, .request⟩] <+:
      ((ofScripts 0 [[.request], [.request], [.request, .finish, .request], [.panic]]).after
        [.request]).turnsOf (.advance (2 + 3)) := by decide
  exact ⟨pieces 2 3, (elapses _).mpr rfl, starts.trans (by decide), woken, balance _ woken, demand⟩

end Timeline

end CodeNavigator
