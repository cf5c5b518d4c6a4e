/-
This file takes apart what happens on a timeline. The actions of the runs under way, the wake-ups of
the clock and what is done from outside each come to a sequence of ticks, and a tick takes at most
one turn at the gate. The clock is part of it: time passes only while nothing is under way, and
never past a run that is due.

Every tick agrees with what its turn does in a situation, so all that holds of courses of events
holds of timelines. In particular the runs that a timeline has started are those of the course of
its turns.
-/

import CodeNavigator.Gate.Timeline
import CodeNavigator.Proofs.Gate.Situation

namespace CodeNavigator

open Gate (Turn Move Situation startTimes)

/-- The move that an action makes at the gate. -/
def Action.move? : Action → Option Move
  | .request => some .request
  | .finish => some .close
  | .cancel => some .cancel
  | .observePhase | .countRuns => none
  | .fail => some (.finish .failure)
  | .panic => some (.finish .panic)

namespace Timeline

/-! ### Ticks -/

/-- What moves in a timeline: the gate and its clock, the scripts of the runs to come, what the runs
under way have still to do with the innermost first, and when the runs so far have started. -/
structure Clockwork where
  gate : Gate
  now : Nat
  scripts : List (List Action)
  remaining : List (List Action)
  starts : List Nat
  isOpen : Bool

/-- An action comes from the innermost run under way, or from outside when there is none. -/
inductive Calls : List (List Action) → Action → List (List Action) → Prop
  | inside (action : Action) (rest : List Action) (outer : List (List Action)) :
      Calls ((action :: rest) :: outer) action (rest :: outer)
  | outside (action : Action) : Calls [] action []

/-- One thing that happens on a timeline, with the turn that it takes at the gate. -/
inductive Ticks (first : Clockwork) : Option Turn → Clockwork → Prop
  | start {rest : List (List Action)} (isOpen : first.isOpen = true)
      (calls : Calls first.remaining .request rest)
      (started : (first.gate.request first.now).1 = .started) :
      Ticks first (some ⟨first.now, .request⟩)
        { first with
          gate := (first.gate.request first.now).2
          scripts := first.scripts.tail
          remaining := first.scripts.headD [] :: rest
          starts := first.starts ++ [first.now] }
  | ask {rest : List (List Action)} (isOpen : first.isOpen = true)
      (calls : Calls first.remaining .request rest)
      (deferred : (first.gate.request first.now).1 ≠ .started) :
      Ticks first (some ⟨first.now, .request⟩)
        { first with gate := (first.gate.request first.now).2, remaining := rest }
  | close {rest : List (List Action)} (isOpen : first.isOpen = true)
      (calls : Calls first.remaining .finish rest) :
      Ticks first (some ⟨first.now, .close⟩)
        { first with gate := first.gate.close first.now, remaining := rest }
  | cancel {rest : List (List Action)} (isOpen : first.isOpen = true)
      (calls : Calls first.remaining .cancel rest) :
      Ticks first (some ⟨first.now, .cancel⟩)
        { first with gate := first.gate.cancel.2, remaining := rest }
  | drop (isOpen : first.isOpen = true) (quiet : first.remaining = []) :
      Ticks first (some ⟨first.now, .drop⟩)
        { first with gate := first.gate.cancel.2, isOpen := false }
  | observe {action : Action} {rest : List (List Action)} (silent : action.move? = none)
      (calls : Calls first.remaining action rest) :
      Ticks first none { first with remaining := rest }
  | finish {script : List Action} {outer : List (List Action)} (ending : Gate.Ending)
      (underway : first.remaining = script :: outer) :
      Ticks first (some ⟨first.now, .finish ending⟩)
        { first with gate := first.gate.finish first.now, remaining := outer }
  | wake {timer : Timer} (quiet : first.remaining = [])
      (waiting : first.gate.phase = .scheduled timer) :
      Ticks first (some ⟨timer.due, .wake timer⟩)
        { first with
          gate := { first.gate with phase := .running }
          now := timer.due
          scripts := first.scripts.tail
          remaining := [first.scripts.headD []]
          starts := first.starts ++ [timer.due] }
  | pass {target : Nat} (quiet : first.remaining = []) (later : first.now ≤ target)
      (early : ∀ timer, first.gate.phase = .scheduled timer → target < timer.due) :
      Ticks first none { first with now := target }

/-- A sequence of ticks with the turns that they take. -/
inductive Plays : Clockwork → List Turn → Clockwork → Prop
  | refl (clockwork : Clockwork) : Plays clockwork [] clockwork
  | tick {first middle last : Clockwork} {turn : Option Turn} {turns : List Turn}
      (ticks : Ticks first turn middle) (plays : Plays middle turns last) :
      Plays first (turn.toList ++ turns) last

theorem Ticks.plays {first last : Clockwork} {turn : Option Turn} (ticks : Ticks first turn last) :
    Plays first turn.toList last := by
  have alone := Plays.tick ticks (Plays.refl last)
  rwa [List.append_nil] at alone

theorem Plays.trans {first middle last : Clockwork} {earlier later : List Turn}
    (before : Plays first earlier middle) (after : Plays middle later last) :
    Plays first (earlier ++ later) last := by
  induction before with
  | refl => exact after
  | tick ticks _ inductionHypothesis =>
    rw [List.append_assoc]
    exact Plays.tick ticks (inductionHypothesis after)

/-- Every turn of a sequence is the turn of one of its ticks. -/
theorem Plays.split {first last : Clockwork} {earlier later : List Turn} {turn : Turn}
    (plays : Plays first (earlier ++ turn :: later) last) :
    ∃ before after, Plays first earlier before ∧ Ticks before (some turn) after ∧
      Plays after later last := by
  generalize whole : earlier ++ turn :: later = turns at plays
  induction plays generalizing earlier with
  | refl => exact absurd whole (by simp)
  | @tick first middle last taken turns ticks plays inductionHypothesis =>
    cases taken with
    | none =>
      obtain ⟨before, after, early, now, late⟩ := inductionHypothesis whole
      exact ⟨before, after, Plays.tick ticks early, now, late⟩
    | some taken =>
      cases earlier with
      | nil =>
        obtain ⟨rfl, rfl⟩ := List.cons.inj whole
        exact ⟨first, middle, Plays.refl first, ticks, plays⟩
      | cons head tail =>
        obtain ⟨rfl, rest⟩ := List.cons.inj whole
        obtain ⟨before, after, early, now, late⟩ := inductionHypothesis rest
        exact ⟨before, after, Plays.tick ticks early, now, late⟩

/-! ### What is left to do -/

namespace Clockwork

/-- A number that every tick among the runs under way makes smaller. -/
def load (clockwork : Clockwork) : Nat :=
  2 * (clockwork.scripts.flatten.length + clockwork.remaining.flatten.length) +
    clockwork.remaining.length

/-- How many runs can still be woken: one for each batch that is owed and one for each action that
could ask for another. -/
def budget (clockwork : Clockwork) : Nat :=
  clockwork.scripts.flatten.length + clockwork.remaining.flatten.length + clockwork.gate.owed

end Clockwork

theorem length_flatten_tail_add_headD (scripts : List (List Action)) :
    scripts.tail.flatten.length + (scripts.headD []).length = scripts.flatten.length := by
  cases scripts with
  | nil => rfl
  | cons script rest =>
    rw [List.flatten_cons, List.length_append]
    exact Nat.add_comm _ _

theorem Calls.length_eq {remaining rest : List (List Action)} {action : Action}
    (calls : Calls remaining action rest) : rest.length = remaining.length := by
  cases calls <;> rfl

theorem Calls.length_flatten {remaining rest : List (List Action)} {action : Action}
    (calls : Calls remaining action rest) (busy : remaining ≠ []) :
    rest.flatten.length + 1 = remaining.flatten.length := by
  cases calls with
  | inside action rest outer =>
    simp only [List.flatten_cons, List.length_append, List.length_cons]
    omega
  | outside => exact absurd rfl busy

/-- A tick among the runs under way takes no time, does not drop the gate, and uses up what is left
to do. -/
theorem Ticks.of_busy {first last : Clockwork} {turn : Option Turn} (ticks : Ticks first turn last)
    (busy : first.remaining ≠ []) :
    last.now = first.now ∧ last.isOpen = first.isOpen ∧ last.load < first.load ∧
      last.budget ≤ first.budget := by
  unfold Clockwork.load Clockwork.budget
  cases ticks with
  | start isOpen calls started =>
    have total := calls.length_flatten busy
    have depth := calls.length_eq
    have moved := length_flatten_tail_add_headD first.scripts
    have owed := first.gate.owed_request_of_started first.now started
    simp only [List.flatten_cons, List.length_append, List.length_cons, true_and]
    omega
  | ask isOpen calls deferred =>
    have total := calls.length_flatten busy
    have depth := calls.length_eq
    have owed := first.gate.owed_request_le first.now
    simp only [true_and]
    omega
  | close isOpen calls =>
    have total := calls.length_flatten busy
    have depth := calls.length_eq
    have owed := first.gate.owed_close first.now
    simp only [true_and]
    omega
  | cancel isOpen calls =>
    have total := calls.length_flatten busy
    have depth := calls.length_eq
    have owed := first.gate.owed_cancel
    simp only [true_and]
    omega
  | observe silent calls =>
    have total := calls.length_flatten busy
    have depth := calls.length_eq
    simp only [true_and]
    omega
  | finish ending underway =>
    have owed : (first.gate.finish first.now).owed = first.gate.owed :=
      first.gate.owed_close first.now
    simp only [underway, List.flatten_cons, List.length_append, List.length_cons, true_and]
    omega
  | drop isOpen quiet => exact absurd quiet busy
  | wake quiet waiting => exact absurd quiet busy
  | pass quiet later early => exact absurd quiet busy

/-! ### Agreement with situations -/

/-- The timeline is in a sound situation. -/
structure Matches (situation : Situation) (clockwork : Clockwork) : Prop where
  sound : situation.Sound
  gate : situation.gate = clockwork.gate
  executing : situation.executing = clockwork.remaining.length
  isOpen : situation.isOpen = clockwork.isOpen

theorem Ticks.permits {situation : Situation} {first last : Clockwork} {turn : Turn}
    (ticks : Ticks first (some turn) last) (fits : Matches situation first) :
    situation.permits turn.move = true := by
  cases ticks with
  | start isOpen => exact fits.isOpen.trans isOpen
  | ask isOpen => exact fits.isOpen.trans isOpen
  | close isOpen => exact fits.isOpen.trans isOpen
  | cancel isOpen => exact fits.isOpen.trans isOpen
  | drop isOpen => exact fits.isOpen.trans isOpen
  | finish ending underway =>
    refine decide_eq_true ?_
    rw [fits.executing, underway]
    exact Nat.succ_pos _
  | wake quiet waiting => exact fits.sound.permits_wake (fits.gate ▸ waiting)

theorem Ticks.course_eq {situation : Situation} {first last : Clockwork} {turn : Turn}
    (ticks : Ticks first (some turn) last) (fits : Matches situation first) (turns : List Turn) :
    situation.course ((some turn).toList ++ turns) =
      ⟨situation, turn⟩ :: (situation.make turn).course turns := by
  have possible := ticks.permits fits
  rw [← Situation.step_of_permits possible]
  exact Situation.course_cons_of_permits possible turns

theorem Ticks.matches_make {situation : Situation} {first last : Clockwork} {turn : Turn}
    (ticks : Ticks first (some turn) last) (fits : Matches situation first) :
    Matches (situation.make turn) last where
  sound := fits.sound.make (ticks.permits fits)
  gate := by
    obtain ⟨now, move⟩ := turn
    rw [Situation.gate_make, fits.gate]
    cases ticks with
    | wake quiet waiting =>
      simp only [Gate.wake_of_scheduled waiting]
      rfl
    | _ => rfl
  executing := by
    obtain ⟨now, move⟩ := turn
    rw [Situation.executing_make, fits.gate, fits.executing]
    cases ticks with
    | start isOpen calls started =>
      simp only [started, if_true]
      exact congrArg _ calls.length_eq.symm
    | ask isOpen calls deferred =>
      simp only [deferred, if_false]
      exact calls.length_eq.symm
    | close isOpen calls => exact calls.length_eq.symm
    | cancel isOpen calls => exact calls.length_eq.symm
    | drop isOpen quiet => rfl
    | finish ending underway =>
      simp only [underway]
      rfl
    | wake quiet waiting =>
      simp only [Gate.wake_of_scheduled waiting, quiet]
      rfl
  isOpen := by
    obtain ⟨now, move⟩ := turn
    rw [Situation.isOpen_make, fits.isOpen]
    cases ticks <;> rfl

theorem Ticks.matches_of_none {situation : Situation} {first last : Clockwork}
    (ticks : Ticks first none last) (fits : Matches situation first) : Matches situation last := by
  cases ticks with
  | observe silent calls =>
    exact ⟨fits.sound, fits.gate, fits.executing.trans calls.length_eq.symm, fits.isOpen⟩
  | pass quiet later early => exact ⟨fits.sound, fits.gate, fits.executing, fits.isOpen⟩

/-- A timeline lists exactly the starts that its turns have. -/
theorem Ticks.starts_eq {situation : Situation} {first last : Clockwork} {turn : Turn}
    (ticks : Ticks first (some turn) last) (fits : Matches situation first) :
    last.starts = first.starts ++ startTimes [⟨situation, turn⟩] := by
  have starts := fits.sound.startsRun_eq (ticks.permits fits)
  have gate := fits.gate
  unfold startTimes
  cases ticks with
  | start isOpen calls started =>
    simp only [gate, started, decide_true] at starts
    simp [starts]
  | ask isOpen calls deferred =>
    simp only [gate, deferred, decide_false] at starts
    simp [starts]
  | wake quiet waiting =>
    simp only [gate, waiting, decide_true] at starts
    simp [starts]
  | _ => simp [starts]

theorem Ticks.starts_eq_of_none {first last : Clockwork} (ticks : Ticks first none last) :
    last.starts = first.starts := by
  cases ticks <;> rfl

/-- What a timeline plays is the course of its turns. -/
theorem Plays.matches_after {situation : Situation} {first last : Clockwork} {turns : List Turn}
    (plays : Plays first turns last) (fits : Matches situation first) :
    Matches (situation.after turns) last ∧
      last.starts = first.starts ++ startTimes (situation.course turns) := by
  induction plays generalizing situation with
  | refl => exact ⟨fits, (List.append_nil _).symm⟩
  | @tick first middle last turn turns ticks _ inductionHypothesis =>
    cases turn with
    | none =>
      have later := inductionHypothesis (ticks.matches_of_none fits)
      rwa [ticks.starts_eq_of_none] at later
    | some turn =>
      have possible := ticks.permits fits
      have made : Matches (situation.step turn) middle := by
        rw [Situation.step_of_permits possible]
        exact ticks.matches_make fits
      obtain ⟨matched, starts⟩ := inductionHypothesis made
      refine ⟨matched, ?_⟩
      rw [starts, ticks.starts_eq fits, List.append_assoc, ← Gate.startTimes_append]
      exact congrArg _ (congrArg _ (Situation.course_cons_of_permits possible turns).symm)

end Timeline

end CodeNavigator
