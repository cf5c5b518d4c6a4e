/-
This file proves that the runs of a gate keep their distance. A gate is held since some time when
no run can start before the delay has passed from then: either the work is executing, or the last
run is at least that recent and a run that waits is due late enough. A run that starts holds the
gate from its start on, since the work is executing, and no turn ever lets go of it. Neither path
to the next start is shorter: a request that starts the work reads the last run, and a run that
waits was given its due time from the last run as it was then.

The distance from the end of one run to the start of the next needs more. A caller can say in the
middle of a run that it has finished, and then its end comes too late to hold the next one back.
-/

import CodeNavigator.Proofs.Gate.Exclusion

namespace CodeNavigator

namespace Gate

/-! ### Holding a gate -/

/-- No run can start before the delay has passed since a time. -/
def HeldSince (gate : Gate) (time : Nat) : Prop :=
  gate.phase.isExecuting = false →
    (∃ last, gate.lastRun = some last ∧ time ≤ last) ∧
      ∀ timer, gate.phase = .scheduled timer → time + gate.delay ≤ timer.due

theorem heldSince_of_isExecuting {gate : Gate} (executing : gate.phase.isExecuting = true)
    (time : Nat) : gate.HeldSince time := by
  intro resting
  rw [executing] at resting
  cases resting

theorem HeldSince.request {gate : Gate} {time : Nat} (held : gate.HeldSince time) (now : Nat) :
    (gate.request now).2.HeldSince time := by
  rcases gate.request_cases now with
    ⟨timer, waiting, same⟩ | ⟨executing, same⟩ | ⟨idle, _, same⟩ | ⟨idle, same⟩
  · rw [same]
    exact held
  · rw [same]
    exact heldSince_of_isExecuting executing time
  · rw [same]
    exact heldSince_of_isExecuting rfl time
  · obtain ⟨⟨last, lastRun, recent⟩, _⟩ := held (by rw [idle]; rfl)
    rw [same]
    refine fun _ => ⟨⟨last, lastRun, recent⟩, fun timer waiting => ?_⟩
    have due : timer.due = now + gate.wait now := by
      cases waiting
      rfl
    have waitEq : gate.wait now = last + gate.delay - now := by rw [wait, lastRun]
    show time + gate.delay ≤ timer.due
    omega

/-- The work that was executing has ended: the window opens now. -/
theorem heldSince_close_of_isExecuting {gate : Gate} (executing : gate.phase.isExecuting = true)
    (now : Nat) : (gate.close now).HeldSince now := by
  rcases gate.close_cases now with ⟨resting, _⟩ | ⟨_, _, same⟩ | ⟨_, _, same⟩
  · rw [executing] at resting
    cases resting
  · rw [same]
    exact fun _ => ⟨⟨now, rfl, Nat.le_refl now⟩, nofun⟩
  · rw [same]
    refine fun _ => ⟨⟨now, rfl, Nat.le_refl now⟩, fun timer waiting => ?_⟩
    cases waiting
    exact Nat.le_refl _

theorem HeldSince.close {gate : Gate} {time now : Nat} (held : gate.HeldSince time)
    (later : time ≤ now) : (gate.close now).HeldSince time := by
  cases executing : gate.phase.isExecuting with
  | true =>
    intro resting
    obtain ⟨⟨last, lastRun, recent⟩, due⟩ := heldSince_close_of_isExecuting executing now resting
    refine ⟨⟨last, lastRun, Nat.le_trans later recent⟩, fun timer waiting => ?_⟩
    exact Nat.le_trans (Nat.add_le_add_right later _) (due timer waiting)
  | false =>
    rcases gate.close_cases now with ⟨_, same⟩ | ⟨absurdly, _⟩ | ⟨absurdly, _⟩
    · rw [same]
      exact fun _ => ⟨⟨now, rfl, later⟩, (held executing).2⟩
    · rw [executing] at absurdly
      cases absurdly
    · rw [executing] at absurdly
      cases absurdly

theorem HeldSince.cancel {gate : Gate} {time : Nat} (held : gate.HeldSince time) :
    gate.cancel.2.HeldSince time := by
  rcases gate.cancel_cases with ⟨timer, waiting, same⟩ | ⟨_, same⟩
  · rw [same]
    exact fun _ => ⟨(held (isExecuting_scheduled waiting)).1, nofun⟩
  · rw [same]
    exact held

/-! ### Holding a gate through a course of events -/

/-- A timer does not fire early. -/
def Turn.isPunctual (turn : Turn) : Bool :=
  match turn.move with
  | .wake timer => timer.due ≤ turn.time
  | _ => true

namespace Situation

variable {situation : Situation}

theorem delay_make (situation : Situation) (turn : Turn) :
    (situation.make turn).gate.delay = situation.gate.delay := by
  obtain ⟨now, move⟩ := turn
  rw [gate_make]
  cases move with
  | request => exact situation.gate.delay_request now
  | wake timer =>
    rcases situation.gate.wake_getD_cases timer.ticket with same | same <;> simp only [same]
  | vanish timer => rfl
  | finish ending => exact situation.gate.delay_finish now
  | close => exact situation.gate.delay_close now
  | cancel => exact situation.gate.delay_cancel
  | drop => exact situation.gate.delay_cancel

theorem heldSince_make {turn : Turn} {time : Nat} (held : situation.gate.HeldSince time)
    (later : time ≤ turn.time) : (situation.make turn).gate.HeldSince time := by
  obtain ⟨now, move⟩ := turn
  rw [gate_make]
  cases move with
  | request => exact held.request now
  | wake timer =>
    rcases situation.gate.wake_getD_cases timer.ticket with same | same
    · simp only [same]
      exact heldSince_of_isExecuting rfl time
    · simp only [same]
      exact held
  | vanish timer => exact held
  | finish ending => exact held.close later
  | close => exact held.close later
  | cancel => exact held.cancel
  | drop => exact held.cancel

/-- A gate that is held lets no run start too early. -/
theorem Sound.le_of_startsRun (sound : situation.Sound) {turn : Turn}
    (possible : situation.permits turn.move = true) (punctual : turn.isPunctual = true) {time : Nat}
    (held : situation.gate.HeldSince time)
    (starts : Occurrence.startsRun ⟨situation, turn⟩ = true) :
    time + situation.gate.delay ≤ turn.time := by
  rw [sound.startsRun_eq possible] at starts
  obtain ⟨now, move⟩ := turn
  cases move with
  | request =>
    rcases situation.gate.request_cases now with
      ⟨timer, waiting, same⟩ | ⟨executing, same⟩ | ⟨idle, passed, same⟩ | ⟨idle, same⟩
    · simp [same] at starts
    · simp [same] at starts
    · obtain ⟨⟨last, lastRun, recent⟩, _⟩ := held (by rw [idle]; rfl)
      rw [wait, lastRun] at passed
      show time + situation.gate.delay ≤ now
      simp only at passed
      omega
    · simp [same] at starts
  | wake timer =>
    have waiting := of_decide_eq_true starts
    have late : timer.due ≤ now := of_decide_eq_true punctual
    exact Nat.le_trans ((held (isExecuting_scheduled waiting)).2 timer waiting) late
  | _ => cases starts

theorem Sound.le_of_mem_course (sound : situation.Sound) {turns : List Turn} {time : Nat}
    (held : situation.gate.HeldSince time)
    (later : ∀ occurrence ∈ situation.course turns, time ≤ occurrence.turn.time)
    (punctual : ∀ occurrence ∈ situation.course turns, occurrence.turn.isPunctual = true)
    {occurrence : Occurrence} (member : occurrence ∈ situation.course turns)
    (starts : occurrence.startsRun = true) :
    time + situation.gate.delay ≤ occurrence.turn.time := by
  refine sound.course_induction (motive := fun first course _ =>
    first.gate.HeldSince time → (∀ occurrence ∈ course, time ≤ occurrence.turn.time) →
      (∀ occurrence ∈ course, occurrence.turn.isPunctual = true) → occurrence ∈ course →
        time + first.gate.delay ≤ occurrence.turn.time)
    (fun _ _ _ _ => nofun) ?_ turns held later punctual member
  intro first turn rest sound possible inductionHypothesis held later punctual member
  obtain ⟨now, soon⟩ := List.forall_mem_cons.mp later
  obtain ⟨nowPunctual, soonPunctual⟩ := List.forall_mem_cons.mp punctual
  rcases List.mem_cons.mp member with rfl | member
  · exact sound.le_of_startsRun possible nowPunctual held starts
  · rw [← delay_make first turn]
    exact inductionHypothesis (heldSince_make held now) soon soonPunctual member

/-- Whatever holds the gate keeps later runs at their distance. -/
theorem Sound.course_pairwise (sound : situation.Sound) {turns : List Turn}
    (ordered : (situation.course turns).Pairwise fun first second =>
      first.turn.time ≤ second.turn.time)
    (punctual : ∀ occurrence ∈ situation.course turns, occurrence.turn.isPunctual = true) :
    (situation.course turns).Pairwise fun first second =>
      first.after.gate.HeldSince first.turn.time → second.startsRun = true →
        first.turn.time + situation.gate.delay ≤ second.turn.time := by
  refine sound.course_induction (motive := fun initial course _ =>
    (course.Pairwise fun first second => first.turn.time ≤ second.turn.time) →
      (∀ occurrence ∈ course, occurrence.turn.isPunctual = true) →
        course.Pairwise fun first second =>
          first.after.gate.HeldSince first.turn.time → second.startsRun = true →
            first.turn.time + initial.gate.delay ≤ second.turn.time)
    (fun _ _ _ => List.Pairwise.nil) ?_ turns ordered punctual
  intro initial turn rest sound possible inductionHypothesis ordered punctual
  obtain ⟨later, ordered⟩ := List.pairwise_cons.mp ordered
  obtain ⟨_, punctual⟩ := List.forall_mem_cons.mp punctual
  rw [← delay_make initial turn]
  refine List.Pairwise.cons (fun second member held starts => ?_)
    (inductionHypothesis ordered punctual)
  rw [Occurrence.after, step_of_permits possible] at held
  exact (sound.make possible).le_of_mem_course held later punctual member starts

/-- The end of an execution holds the gate when no caller has said before that it has finished. -/
theorem Exclusive.heldSince_of_endsRun {turns : List Turn} (exclusive : situation.Exclusive)
    (sound : situation.Sound)
    (careful : ∀ occurrence ∈ situation.course turns, occurrence.closesUnderway = false) :
    ∀ occurrence ∈ situation.course turns,
      (occurrence.endsRun = true → occurrence.after.gate.HeldSince occurrence.turn.time) ∧
        (occurrence.startsRun = true → occurrence.before.executing = 0) := by
  refine sound.course_induction (motive := fun initial course _ => initial.Exclusive →
    (∀ occurrence ∈ course, occurrence.closesUnderway = false) →
      ∀ occurrence ∈ course,
        (occurrence.endsRun = true → occurrence.after.gate.HeldSince occurrence.turn.time) ∧
          (occurrence.startsRun = true → occurrence.before.executing = 0))
    (fun _ _ _ => nofun) ?_ turns exclusive careful
  intro initial turn rest sound possible inductionHypothesis exclusive careful
  obtain ⟨now, careful⟩ := List.forall_mem_cons.mp careful
  have later := inductionHypothesis (exclusive.make sound possible now) careful
  refine List.forall_mem_cons.mpr ⟨⟨fun ends => ?_, fun starts => ?_⟩, later⟩
  · rw [Occurrence.after, step_of_permits possible]
    obtain ⟨time, move⟩ := turn
    cases move with
    | finish ending =>
      rw [gate_make]
      have underway : 0 < initial.executing := of_decide_eq_true possible
      have executing : initial.gate.phase.isExecuting = true := by
        by_contra resting
        rw [exclusive, if_neg resting] at underway
        exact Nat.lt_irrefl 0 underway
      exact heldSince_close_of_isExecuting executing time
    | _ => cases ends
  · have resting : initial.gate.phase.isExecuting = false := by
      rw [Occurrence.startsRun, Bool.and_eq_true, Bool.not_eq_true'] at starts
      exact starts.1
    exact exclusive.trans (if_neg (ne_true_of_eq_false resting))

/-! ### The distance of runs -/

/-- Any two runs start at least the delay apart. When no caller says in the middle of a run that it
has finished, a run also starts only after every execution has ended, and at least the delay after
that. -/
theorem starts_pairwise_delay_le (delay : Nat) (turns : List Turn)
    (ordered : ((ofDelay delay).course turns).Pairwise fun first second =>
      first.turn.time ≤ second.turn.time)
    (punctual : ∀ occurrence ∈ (ofDelay delay).course turns, occurrence.turn.isPunctual = true) :
    let course := (ofDelay delay).course turns
    ((startTimes course).Pairwise fun first second => first + delay ≤ second) ∧
    ((∀ occurrence ∈ course, occurrence.closesUnderway = false) →
      (∀ occurrence ∈ course, occurrence.startsRun = true → occurrence.before.executing = 0) ∧
      course.Pairwise fun first second => first.endsRun = true → second.startsRun = true →
        first.turn.time + delay ≤ second.turn.time) := by
  intro course
  have initial := sound_ofDelay delay
  have distances := initial.course_pairwise ordered punctual
  constructor
  · refine List.pairwise_map.mpr (List.pairwise_filter.mpr (distances.imp ?_))
    intro first second distance startsFirst startsSecond
    refine distance (heldSince_of_isExecuting ?_ _) startsSecond
    rw [Occurrence.startsRun, Bool.and_eq_true] at startsFirst
    exact startsFirst.2
  · intro careful
    have alone : (ofDelay delay).Exclusive := rfl
    have ends := alone.heldSince_of_endsRun initial careful
    refine ⟨fun occurrence member => (ends occurrence member).2, distances.imp_of_mem ?_⟩
    intro first second member _ distance endsFirst
    exact distance ((ends first member).1 endsFirst)

/-- A stale timer has come and gone before the second run starts, which keeps its distance from the
start and from the end of the first. -/
theorem starts_apart_after_staleWake :
    let course := (ofDelay 100).course (staleWake ++ [⟨112, .wake ⟨1, 105⟩⟩])
    (course.Pairwise fun first second => first.turn.time ≤ second.turn.time) ∧
    (∀ occurrence ∈ course, occurrence.turn.isPunctual = true) ∧
    (∀ occurrence ∈ course, occurrence.closesUnderway = false) ∧
    startTimes course = [0, 112] ∧
    (startTimes course).Pairwise (fun first second => first + 100 ≤ second) ∧
    course.Pairwise fun first second => first.endsRun = true → second.startsRun = true →
      first.turn.time + 100 ≤ second.turn.time := by
  intro course
  have ordered : course.Pairwise fun first second => first.turn.time ≤ second.turn.time := by decide
  have punctual : ∀ occurrence ∈ course, occurrence.turn.isPunctual = true := by decide
  have careful : ∀ occurrence ∈ course, occurrence.closesUnderway = false := by decide
  have apart := starts_pairwise_delay_le 100 (staleWake ++ [⟨112, .wake ⟨1, 105⟩⟩]) ordered punctual
  exact ⟨ordered, punctual, careful, by decide, apart.1, (apart.2 careful).2⟩

end Situation

end Gate

end CodeNavigator
