/-
This file proves that the phase of a gate is the truth about what is under way, and that nothing is
ever under way twice. A timer task counts as outstanding while some continuation lets it start a
run. A task whose ticket the gate does not wait for never starts one again: the gate only comes to
wait for tickets that it has not given out yet. So the outstanding task is the one that the gate
waits for, and the tasks that were aborted are not outstanding however late they wake.

The executions can only be counted by the phase while no caller says that a run has finished in the
middle of it. Under that condition there is one execution while the gate says that the work is
executing, and none otherwise.
-/

import CodeNavigator.Proofs.Gate.Situation

namespace CodeNavigator

namespace Gate

namespace Situation

/-! ### Tickets that have passed -/

/-- A ticket was given out, and the gate does not wait for it. -/
def Passed (situation : Situation) (ticket : Nat) : Prop :=
  ticket < situation.gate.nextTicket ∧
    ∀ timer, situation.gate.phase = .scheduled timer → timer.ticket ≠ ticket

/-- No move brings an old ticket back, because a run is deferred under a new one. -/
theorem Passed.make {situation : Situation} {ticket : Nat} (passed : situation.Passed ticket)
    (turn : Turn) : (situation.make turn).Passed ticket := by
  obtain ⟨given, other⟩ := passed
  rcases situation.make_waiting_cases turn with
    ⟨same, keeps⟩ | ⟨next, _, due, deferred⟩ | ⟨same, none⟩
  · exact ⟨lt_of_lt_of_eq given same.symm,
      fun timer waiting => other timer ((keeps timer).mp waiting)⟩
  · refine ⟨next ▸ Nat.lt_succ_of_lt given, fun timer waiting => ?_⟩
    rw [deferred] at waiting
    cases waiting
    exact Nat.ne_of_gt given
  · exact ⟨lt_of_lt_of_eq given same.symm, fun timer waiting => absurd waiting (none timer)⟩

theorem Passed.after {situation : Situation} {ticket : Nat} (passed : situation.Passed ticket)
    (turns : List Turn) : (situation.after turns).Passed ticket :=
  after_induction (motive := fun situation => situation.Passed ticket) turns passed
    fun _ turn _ still => still.make turn

theorem Passed.not_startsRun {situation : Situation} {timer : Timer}
    (passed : situation.Passed timer.ticket) (now : Nat) :
    Occurrence.startsRun ⟨situation, ⟨now, .wake timer⟩⟩ = false := by
  have asleep : situation.gate.wake timer.ticket = none := wake_eq_none passed.2
  have gate : (situation.step ⟨now, .wake timer⟩).gate = situation.gate := by
    unfold step
    split
    · simp only [Situation.make, asleep]
      rfl
    · rfl
  rw [Occurrence.startsRun, Occurrence.after, gate, Bool.not_and_self]

/-- The run that waits has the ticket that was given out last. -/
def Newest (situation : Situation) : Prop :=
  ∀ timer, situation.gate.phase = .scheduled timer →
    situation.gate.nextTicket = timer.ticket + 1

theorem Newest.make {situation : Situation} (newest : situation.Newest) (turn : Turn) :
    (situation.make turn).Newest := by
  intro timer waiting
  rcases situation.make_waiting_cases turn with
    ⟨same, keeps⟩ | ⟨next, _, due, deferred⟩ | ⟨_, none⟩
  · rw [same]
    exact newest timer ((keeps timer).mp waiting)
  · rw [deferred] at waiting
    cases waiting
    exact next
  · exact absurd waiting (none timer)

theorem Newest.after {situation : Situation} (newest : situation.Newest) (turns : List Turn) :
    (situation.after turns).Newest :=
  after_induction (motive := Newest) turns newest fun _ turn _ still => still.make turn

/-! ### Outstanding tasks -/

/-- Some continuation lets the timer start a run when it wakes. -/
def CanStart (situation : Situation) (timer : Timer) : Prop :=
  ∃ turns now, Occurrence.startsRun ⟨situation.after turns, ⟨now, .wake timer⟩⟩ = true

open Classical in
/-- The tasks that have not woken yet and can still start a run. -/
noncomputable def outstanding (situation : Situation) : List TimerTask :=
  situation.tasks.filter fun task => situation.CanStart task.timer

theorem Sound.startsRun_of_waiting {situation : Situation} (sound : situation.Sound) {timer : Timer}
    (waiting : situation.gate.phase = .scheduled timer) (now : Nat) :
    Occurrence.startsRun ⟨situation, ⟨now, .wake timer⟩⟩ = true := by
  rw [sound.startsRun_eq (sound.permits_wake waiting)]
  exact decide_eq_true waiting

theorem Sound.canStart_iff {situation : Situation} (sound : situation.Sound) {task : TimerTask}
    (member : task ∈ situation.tasks) :
    situation.CanStart task.timer ↔ situation.gate.phase = .scheduled task.timer := by
  constructor
  · rintro ⟨turns, now, starts⟩
    by_contra late
    have passed : situation.Passed task.timer.ticket := by
      refine ⟨sound.issued task member, fun timer waiting same => late ?_⟩
      rw [waiting, sound.timer_eq member waiting same]
    rw [(passed.after turns).not_startsRun now] at starts
    cases starts
  · intro waiting
    exact ⟨[], 0, sound.startsRun_of_waiting waiting 0⟩

/-- The only outstanding task is the one that the gate waits for. -/
theorem Sound.outstanding_eq {situation : Situation} (sound : situation.Sound) :
    situation.outstanding =
      match situation.gate.phase with
      | .scheduled timer => [⟨timer, false⟩]
      | _ => [] := by
  classical
  have waits (task : TimerTask) (member : task ∈ situation.tasks) :
      situation.CanStart task.timer ↔
        ∃ timer, situation.gate.phase = .scheduled timer ∧ task = ⟨timer, false⟩ := by
    rw [sound.canStart_iff member]
    constructor
    · intro waiting
      exact ⟨task.timer, waiting, sound.timer_eq member waiting rfl⟩
    · rintro ⟨timer, waiting, rfl⟩
      exact waiting
  unfold outstanding
  split
  · next timer waiting =>
    have same : situation.tasks.filter (fun task => situation.CanStart task.timer) =
        situation.tasks.filter fun task => task = ⟨timer, false⟩ := by
      refine List.filter_congr fun task member => ?_
      rw [decide_eq_decide, waits task member, waiting]
      simp
    rw [same, List.filter_eq, List.count_eq_one_of_mem (List.Nodup.of_map _ sound.distinct)
      ((sound.live timer).mpr waiting)]
    rfl
  · next other =>
    refine List.filter_eq_nil_iff.mpr fun task member starts => ?_
    obtain ⟨timer, waiting, _⟩ := (waits task member).mp (of_decide_eq_true starts)
    exact other timer waiting

/-! ### Executions -/

/-- The gate knows the number of executions. -/
def Exclusive (situation : Situation) : Prop :=
  situation.executing = if situation.gate.phase.isExecuting then 1 else 0

theorem Exclusive.make {situation : Situation} (exclusive : situation.Exclusive)
    (sound : situation.Sound) {turn : Turn} (possible : situation.permits turn.move = true)
    (careful : Occurrence.closesUnderway ⟨situation, turn⟩ = false) :
    (situation.make turn).Exclusive := by
  obtain ⟨now, move⟩ := turn
  unfold Exclusive at exclusive ⊢
  rw [gate_make, executing_make, exclusive]
  have closed := situation.gate.isExecuting_close now
  cases move with
  | request =>
    simp only [isExecuting_request]
    rcases situation.gate.request_cases now with
      ⟨timer, waiting, same⟩ | ⟨executing, same⟩ | ⟨idle, _, same⟩ | ⟨idle, same⟩
    · simp [same]
    · simp [same]
    · simp [same, idle, Phase.isExecuting]
    · simp [same]
  | wake timer =>
    rcases sound.wake_cases possible with ⟨waiting, woken⟩ | ⟨_, woken⟩
    · simp only [woken, isExecuting_scheduled waiting]
      rfl
    · simp [woken]
  | vanish timer => rfl
  | finish ending =>
    refine Eq.trans ?_ (if_neg (ne_true_of_eq_false closed)).symm
    simp only
    split <;> rfl
  | close =>
    have quiet : situation.executing = 0 := by simpa [Occurrence.closesUnderway] using careful
    exact (exclusive.symm.trans quiet).trans (if_neg (ne_true_of_eq_false closed)).symm
  | cancel => simp only [isExecuting_cancel]
  | drop => simp only [isExecuting_cancel]

theorem Exclusive.after {situation : Situation} (exclusive : situation.Exclusive)
    (sound : situation.Sound) {turns : List Turn}
    (careful : ∀ occurrence ∈ situation.course turns, occurrence.closesUnderway = false) :
    (situation.after turns).Exclusive := by
  refine sound.course_induction (motive := fun first course last =>
    (∀ occurrence ∈ course, occurrence.closesUnderway = false) → first.Exclusive → last.Exclusive)
    (fun _ _ initial => initial) ?_ turns careful exclusive
  intro first turn rest sound possible inductionHypothesis careful initial
  obtain ⟨now, later⟩ := List.forall_mem_cons.mp careful
  exact inductionHypothesis later (initial.make sound possible now)

/-! ### Truth and exclusion -/

/-- The phase says exactly what is under way, and at most one run is executing or waiting. -/
theorem phase_iff_underway (delay : Nat) (turns : List Turn)
    (careful : ∀ occurrence ∈ (ofDelay delay).course turns, occurrence.closesUnderway = false) :
    let situation := (ofDelay delay).after turns
    (situation.gate.phase = .idle ↔ situation.executing = 0 ∧ situation.outstanding = []) ∧
    ((∃ timer, situation.gate.phase = .scheduled timer) ↔
      situation.executing = 0 ∧ situation.outstanding.length = 1) ∧
    (situation.gate.phase = .immediate ∨ situation.gate.phase = .running ↔
      situation.executing = 1 ∧ situation.outstanding = []) ∧
    situation.executing + situation.outstanding.length ≤ 1 := by
  intro situation
  have sound : situation.Sound := (sound_ofDelay delay).after turns
  have initial : (ofDelay delay).Exclusive := rfl
  have executing : situation.executing = if situation.gate.phase.isExecuting then 1 else 0 :=
    initial.after (sound_ofDelay delay) careful
  rw [executing, sound.outstanding_eq]
  cases situation.gate.phase <;> simp [Phase.isExecuting]

/-- The work asks for a follow-up and panics. The follow-up is cancelled and a new run is deferred,
and only then does the timer of the follow-up wake. -/
def staleWake : List Turn :=
  [⟨0, .request⟩, ⟨3, .request⟩, ⟨5, .finish .panic⟩, ⟨6, .cancel⟩, ⟨10, .request⟩,
    ⟨110, .wake ⟨0, 105⟩⟩]

/-- The timer that woke too late has started nothing, and the new run is still to come. -/
theorem outstanding_after_staleWake :
    (∀ occurrence ∈ (ofDelay 100).course staleWake, occurrence.closesUnderway = false) ∧
    ((ofDelay 100).after staleWake).gate.phase = .scheduled ⟨1, 105⟩ ∧
    ((ofDelay 100).after staleWake).executing = 0 ∧
    ((ofDelay 100).after staleWake).outstanding.length = 1 := by
  have careful : ∀ occurrence ∈ (ofDelay 100).course staleWake,
      occurrence.closesUnderway = false := by decide
  have phase : ((ofDelay 100).after staleWake).gate.phase = .scheduled ⟨1, 105⟩ := by decide
  exact ⟨careful, phase, (phase_iff_underway 100 staleWake careful).2.1.mp ⟨_, phase⟩⟩

end Situation

end Gate

end CodeNavigator
