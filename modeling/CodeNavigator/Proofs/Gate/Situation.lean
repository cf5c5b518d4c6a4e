/-
This file lays a gate among everything that can happen at it. Callers ask for runs, cancel them and
drop the gate, the work does the same from inside a run, timer tasks wake or vanish, and executions
end. Each of these is one atomic step, and the steps come in any order and at any time. A situation
is a gate together with what is under way around it: the timer tasks that have not woken yet and
the number of executions in progress. A list of turns is a course of events. A turn that is not
possible when it comes up is passed over, so every list of turns is a history.

A situation that arises is sound. The follow-up is flagged only while the gate says that the work is
executing, the tasks that were not aborted are exactly the one that the gate waits for, and no two
tasks have the same ticket.
-/

import CodeNavigator.Proofs.Gate.Operation
import Mathlib.Data.List.Nodup

namespace CodeNavigator

namespace Gate

/-! ### Turns -/

/-- How the work of a run ends. -/
inductive Ending
  | success
  | failure
  | panic
deriving DecidableEq

/-- A timer task that has not woken yet. One that was aborted may still wake. -/
structure TimerTask where
  timer : Timer
  isAborted : Bool
deriving DecidableEq

/-- An atomic step at a gate. To close is to say that the executing run has finished, which any
caller can do, while an execution that ends does so by itself. -/
inductive Move
  | request
  | wake (timer : Timer)
  | vanish (timer : Timer)
  | finish (ending : Ending)
  | close
  | cancel
  | drop
deriving DecidableEq

structure Turn where
  time : Nat
  move : Move
deriving DecidableEq

/-- A gate and what is under way around it. Nobody can reach a gate that was dropped, but its
executions still end and its tasks may still wake. -/
structure Situation where
  gate : Gate
  tasks : List TimerTask
  executing : Nat
  isOpen : Bool
deriving DecidableEq

/-- The task of the run that an operation has deferred, known by its new ticket. -/
def deferredTask (before after : Gate) : List TimerTask :=
  match after.phase with
  | .scheduled timer => if before.nextTicket ≤ timer.ticket then [⟨timer, false⟩] else []
  | _ => []

theorem deferredTask_of_deferred {before after : Gate} {due : Nat}
    (deferred : after.phase = .scheduled ⟨before.nextTicket, due⟩) :
    deferredTask before after = [⟨⟨before.nextTicket, due⟩, false⟩] := by
  rw [deferredTask, deferred]
  exact if_pos (Nat.le_refl _)

theorem deferredTask_of_none {before after : Gate}
    (none : ∀ timer, after.phase ≠ .scheduled timer) : deferredTask before after = [] := by
  unfold deferredTask
  split
  · next timer waiting => exact absurd waiting (none timer)
  · rfl

namespace Situation

/-- A new gate, with nothing under way. -/
def ofDelay (delay : Nat) : Situation :=
  ⟨.ofDelay delay, [], 0, true⟩

/-- An operation has changed the gate and may have deferred a run. -/
def adopt (situation : Situation) (gate : Gate) : Situation :=
  { situation with
    gate := gate
    tasks := situation.tasks ++ deferredTask situation.gate gate }

/-- A task is no longer there. -/
def withdraw (situation : Situation) (timer : Timer) : Situation :=
  { situation with tasks := situation.tasks.filter fun task => task.timer ≠ timer }

/-- What is waiting is cancelled, and its task is aborted. -/
def abandon (situation : Situation) : Situation :=
  { situation with
    gate := situation.gate.cancel.2
    tasks := situation.tasks.map fun task =>
      if situation.gate.phase = .scheduled task.timer then { task with isAborted := true }
      else task }

/-- Whether a move is possible. -/
def permits (situation : Situation) : Move → Bool
  | .request | .close | .cancel | .drop => situation.isOpen
  | .wake timer => situation.tasks.any fun task => task.timer = timer
  | .vanish timer => situation.tasks.contains ⟨timer, true⟩
  | .finish _ => 0 < situation.executing

/-- What a possible move does. -/
def make (situation : Situation) (turn : Turn) : Situation :=
  match turn.move with
  | .request =>
    let outcome := situation.gate.request turn.time
    { situation.adopt outcome.2 with
      executing := situation.executing + if outcome.1 = .started then 1 else 0 }
  | .wake timer =>
    match situation.gate.wake timer.ticket with
    | some gate =>
      { situation.withdraw timer with gate := gate, executing := situation.executing + 1 }
    | none => situation.withdraw timer
  | .vanish timer => situation.withdraw timer
  | .finish _ =>
    { situation.adopt (situation.gate.finish turn.time) with
      executing := situation.executing - 1 }
  | .close => situation.adopt (situation.gate.close turn.time)
  | .cancel => situation.abandon
  | .drop => { situation.abandon with isOpen := false }

def step (situation : Situation) (turn : Turn) : Situation :=
  if situation.permits turn.move then situation.make turn else situation

/-- The situation after some turns. -/
def after (situation : Situation) (turns : List Turn) : Situation :=
  turns.foldl step situation

end Situation

/-! ### Courses of events -/

/-- A turn that was taken, and the situation in which it was taken. -/
structure Occurrence where
  before : Situation
  turn : Turn

namespace Occurrence

def after (occurrence : Occurrence) : Situation :=
  occurrence.before.step occurrence.turn

/-- A run starts when the gate says from now on that the work is executing. -/
def startsRun (occurrence : Occurrence) : Bool :=
  !occurrence.before.gate.phase.isExecuting && occurrence.after.gate.phase.isExecuting

/-- An execution ends. -/
def endsRun (occurrence : Occurrence) : Bool :=
  match occurrence.turn.move with
  | .finish _ => true
  | _ => false

/-- A caller says that a run has finished while work is executing. -/
def closesUnderway (occurrence : Occurrence) : Bool :=
  occurrence.turn.move = .close && 0 < occurrence.before.executing

end Occurrence

namespace Situation

/-- The turns that are taken, in their order. -/
def course (situation : Situation) : List Turn → List Occurrence
  | [] => []
  | turn :: rest =>
    (if situation.permits turn.move then [⟨situation, turn⟩] else []) ++
      (situation.step turn).course rest

end Situation

/-- When the runs of a course start. -/
def startTimes (course : List Occurrence) : List Nat :=
  (course.filter Occurrence.startsRun).map fun occurrence => occurrence.turn.time

theorem startTimes_append (first second : List Occurrence) :
    startTimes (first ++ second) = startTimes first ++ startTimes second := by
  rw [startTimes, List.filter_append, List.map_append]
  rfl

theorem length_startTimes (course : List Occurrence) :
    (startTimes course).length = course.countP Occurrence.startsRun := by
  rw [startTimes, List.length_map, List.countP_eq_length_filter]

namespace Situation

/-! ### What a turn changes -/

/-- What a move does to the gate alone. -/
theorem gate_make (situation : Situation) (now : Nat) (move : Move) :
    (situation.make ⟨now, move⟩).gate =
      match move with
      | .request => (situation.gate.request now).2
      | .wake timer => (situation.gate.wake timer.ticket).getD situation.gate
      | .vanish _ => situation.gate
      | .finish _ => situation.gate.finish now
      | .close => situation.gate.close now
      | .cancel | .drop => situation.gate.cancel.2 := by
  cases move with
  | wake timer => cases woken : situation.gate.wake timer.ticket <;> simp [make, woken, withdraw]
  | _ => rfl

/-- What a move does to the executions in progress. -/
theorem executing_make (situation : Situation) (now : Nat) (move : Move) :
    (situation.make ⟨now, move⟩).executing =
      match move with
      | .request =>
        situation.executing + if (situation.gate.request now).1 = .started then 1 else 0
      | .wake timer =>
        situation.executing + if (situation.gate.wake timer.ticket).isSome then 1 else 0
      | .finish _ => situation.executing - 1
      | _ => situation.executing := by
  cases move with
  | wake timer => cases woken : situation.gate.wake timer.ticket <;> simp [make, woken, withdraw]
  | _ => rfl

theorem isOpen_make (situation : Situation) (now : Nat) (move : Move) :
    (situation.make ⟨now, move⟩).isOpen =
      match move with
      | .drop => false
      | _ => situation.isOpen := by
  cases move with
  | wake timer => cases woken : situation.gate.wake timer.ticket <;> simp [make, woken, withdraw]
  | _ => rfl

/-- A move keeps the run that is waiting, defers one, or leaves none waiting. -/
theorem make_waiting_cases (situation : Situation) (turn : Turn) :
    KeepsWaiting situation.gate (situation.make turn).gate ∨
      Defers situation.gate (situation.make turn).gate ∨
      ((situation.make turn).gate.nextTicket = situation.gate.nextTicket ∧
        ∀ timer, (situation.make turn).gate.phase ≠ .scheduled timer) := by
  obtain ⟨now, move⟩ := turn
  have same : KeepsWaiting situation.gate situation.gate := ⟨rfl, fun _ => Iff.rfl⟩
  have cancelled := And.intro situation.gate.nextTicket_cancel situation.gate.phase_cancel_ne
  rw [gate_make]
  cases move with
  | request => exact (situation.gate.request_keeps_or_defers now).imp_right Or.inl
  | wake timer =>
    dsimp only
    rcases situation.gate.wake_getD_cases timer.ticket with started | late
    · rw [started]
      exact Or.inr (Or.inr ⟨rfl, nofun⟩)
    · rw [late]
      exact Or.inl same
  | vanish timer => exact Or.inl same
  | finish ending => exact (situation.gate.close_keeps_or_defers now).imp_right Or.inl
  | close => exact (situation.gate.close_keeps_or_defers now).imp_right Or.inl
  | cancel => exact Or.inr (Or.inr cancelled)
  | drop => exact Or.inr (Or.inr cancelled)

/-! ### Courses of turns -/

theorem step_of_permits {situation : Situation} {turn : Turn}
    (possible : situation.permits turn.move = true) :
    situation.step turn = situation.make turn :=
  if_pos possible

theorem after_cons (situation : Situation) (turn : Turn) (rest : List Turn) :
    situation.after (turn :: rest) = (situation.step turn).after rest := rfl

theorem after_append (situation : Situation) (first second : List Turn) :
    situation.after (first ++ second) = (situation.after first).after second :=
  List.foldl_append

theorem course_append (situation : Situation) (first second : List Turn) :
    situation.course (first ++ second) =
      situation.course first ++ (situation.after first).course second := by
  induction first generalizing situation with
  | nil => rfl
  | cons turn rest inductionHypothesis =>
    rw [List.cons_append, course, course, inductionHypothesis, after_cons, List.append_assoc]

theorem course_cons_of_permits {situation : Situation} {turn : Turn}
    (possible : situation.permits turn.move = true) (rest : List Turn) :
    situation.course (turn :: rest) = ⟨situation, turn⟩ :: (situation.step turn).course rest := by
  rw [course, if_pos possible, List.singleton_append]

theorem step_of_not_permits {situation : Situation} {turn : Turn}
    (impossible : ¬ situation.permits turn.move = true) : situation.step turn = situation :=
  if_neg impossible

theorem course_cons_of_not_permits {situation : Situation} {turn : Turn}
    (impossible : ¬ situation.permits turn.move = true) (rest : List Turn) :
    situation.course (turn :: rest) = situation.course rest := by
  rw [course, if_neg impossible, step_of_not_permits impossible, List.nil_append]

/-- What happens in a course is a possible turn at its place among the turns. -/
theorem exists_of_mem_course {situation : Situation} {turns : List Turn} {occurrence : Occurrence}
    (member : occurrence ∈ situation.course turns) :
    ∃ earlier later, turns = earlier ++ occurrence.turn :: later ∧
      occurrence.before = situation.after earlier ∧
      occurrence.before.permits occurrence.turn.move = true := by
  induction turns generalizing situation with
  | nil => cases member
  | cons turn rest inductionHypothesis =>
    rcases List.mem_append.mp member with now | later
    · split at now
      · next possible =>
        obtain rfl := List.mem_singleton.mp now
        exact ⟨[], rest, rfl, rfl, possible⟩
      · cases now
    · obtain ⟨earlier, later, split, before, possible⟩ := inductionHypothesis later
      exact ⟨turn :: earlier, later, congrArg (List.cons turn) split, before, possible⟩

theorem mem_course_of_permits {situation : Situation} {turns : List Turn} {turn : Turn}
    (possible : (situation.after turns).permits turn.move = true) (rest : List Turn) :
    ⟨situation.after turns, turn⟩ ∈ situation.course (turns ++ turn :: rest) := by
  rw [course_append, course_cons_of_permits possible]
  exact List.mem_append_right _ List.mem_cons_self

/-- What every possible move keeps, every history keeps. -/
theorem after_induction {motive : Situation → Prop} {situation : Situation} (turns : List Turn)
    (initial : motive situation)
    (make : ∀ (situation : Situation) (turn : Turn), situation.permits turn.move = true →
      motive situation → motive (situation.make turn)) :
    motive (situation.after turns) := by
  induction turns generalizing situation with
  | nil => exact initial
  | cons turn rest inductionHypothesis =>
    refine inductionHypothesis ?_
    unfold step
    split
    · exact make situation turn ‹_› initial
    · exact initial

/-! ### Soundness -/

structure Sound (situation : Situation) : Prop where
  followUp : situation.gate.hasFollowUp = true → situation.gate.phase.isExecuting = true
  underway : situation.gate.phase.isExecuting = true → 0 < situation.executing
  live : ∀ timer, ⟨timer, false⟩ ∈ situation.tasks ↔ situation.gate.phase = .scheduled timer
  issued : ∀ task ∈ situation.tasks, task.timer.ticket < situation.gate.nextTicket
  distinct : (situation.tasks.map fun task => task.timer.ticket).Nodup

theorem sound_ofDelay (delay : Nat) : (ofDelay delay).Sound where
  followUp := nofun
  underway := nofun
  live _ := by simp [ofDelay, Gate.ofDelay]
  issued := nofun
  distinct := List.nodup_nil

/-- A task is the one that the gate waits for as soon as its ticket is. -/
theorem Sound.timer_eq {situation : Situation} (sound : situation.Sound) {task : TimerTask}
    (member : task ∈ situation.tasks) {timer : Timer}
    (waiting : situation.gate.phase = .scheduled timer)
    (same : timer.ticket = task.timer.ticket) : task = ⟨timer, false⟩ :=
  List.inj_on_of_nodup_map sound.distinct member ((sound.live timer).mpr waiting) same.symm

theorem Sound.permits_wake {situation : Situation} (sound : situation.Sound) {timer : Timer}
    (waiting : situation.gate.phase = .scheduled timer) :
    situation.permits (.wake timer) = true :=
  List.any_eq_true.mpr ⟨_, (sound.live timer).mpr waiting, decide_eq_true rfl⟩

theorem Sound.deferredTask_eq_nil {situation : Situation} (sound : situation.Sound) {gate : Gate}
    (keeps : KeepsWaiting situation.gate gate) : deferredTask situation.gate gate = [] := by
  unfold deferredTask
  split
  · next timer phase =>
    have issued := sound.issued _ ((sound.live timer).mpr ((keeps.2 timer).mp phase))
    exact if_neg (Nat.not_le.mpr issued)
  · rfl

/-- An operation that keeps the waiting run, or defers one where none was waiting, keeps the tasks
in order. -/
theorem Sound.adopt {situation : Situation} (sound : situation.Sound) {gate : Gate}
    {executing : Nat} {isOpen : Bool}
    (followUp : gate.hasFollowUp = true → gate.phase.isExecuting = true)
    (underway : gate.phase.isExecuting = true → 0 < executing)
    (waiting : KeepsWaiting situation.gate gate ∨ Defers situation.gate gate) :
    Sound ⟨gate, situation.tasks ++ deferredTask situation.gate gate, executing, isOpen⟩ := by
  rcases waiting with keeps | ⟨ticket, none, due, deferred⟩
  · rw [sound.deferredTask_eq_nil keeps, List.append_nil]
    exact {
      followUp := followUp
      underway := underway
      live := fun timer => (sound.live timer).trans (keeps.2 timer).symm
      issued := fun task member => lt_of_lt_of_eq (sound.issued task member) keeps.1.symm
      distinct := sound.distinct }
  · rw [deferredTask_of_deferred deferred]
    exact {
      followUp := followUp
      underway := underway
      live := fun timer => by
        have absent : ⟨timer, false⟩ ∉ situation.tasks := fun member =>
          none timer ((sound.live timer).mp member)
        simp [absent, deferred, eq_comm]
      issued := fun task member => by
        show task.timer.ticket < gate.nextTicket
        rw [ticket]
        rcases List.mem_append.mp member with old | last
        · exact Nat.lt_succ_of_lt (sound.issued task old)
        · rw [List.mem_singleton.mp last]
          exact Nat.lt_succ_self _
      distinct := by
        rw [List.map_append, List.map_singleton, List.nodup_append]
        refine ⟨sound.distinct, List.nodup_singleton _, fun first member second last => ?_⟩
        obtain ⟨task, old, rfl⟩ := List.mem_map.mp member
        rw [List.mem_singleton.mp last]
        exact Nat.ne_of_lt (sound.issued task old) }

/-- A task can go when the gate does not wait for it afterwards. -/
theorem Sound.withdraw {situation : Situation} (sound : situation.Sound) {gate : Gate}
    {executing : Nat} {timer : Timer}
    (followUp : gate.hasFollowUp = true → gate.phase.isExecuting = true)
    (underway : gate.phase.isExecuting = true → 0 < executing)
    (ticket : gate.nextTicket = situation.gate.nextTicket)
    (phase : ∀ other, gate.phase = .scheduled other ↔
      situation.gate.phase = .scheduled other ∧ other ≠ timer) :
    Sound { situation.withdraw timer with gate := gate, executing := executing } where
  followUp := followUp
  underway := underway
  live other := by
    show _ ∈ situation.tasks.filter _ ↔ gate.phase = _
    rw [phase, List.mem_filter, sound.live]
    simp
  issued task member :=
    lt_of_lt_of_eq (sound.issued task (List.mem_of_mem_filter member)) ticket.symm
  distinct := sound.distinct.sublist (List.filter_sublist.map _)

theorem Sound.abandon {situation : Situation} (sound : situation.Sound) :
    situation.abandon.Sound := by
  have tickets : situation.abandon.tasks.map (fun task => task.timer.ticket) =
      situation.tasks.map fun task => task.timer.ticket := by
    rw [Situation.abandon, List.map_map]
    refine List.map_congr_left fun task _ => ?_
    show (if _ then _ else _ : TimerTask).timer.ticket = _
    split <;> rfl
  exact {
    followUp := fun flagged => by
      rw [Situation.abandon, hasFollowUp_cancel] at flagged
      cases flagged
    underway := fun executing => by
      rw [Situation.abandon, isExecuting_cancel] at executing
      exact sound.underway executing
    live := fun timer => by
      refine iff_of_false ?_ (situation.gate.phase_cancel_ne timer)
      intro member
      obtain ⟨task, old, same⟩ := List.mem_map.mp member
      split at same
      · cases same
      · next other =>
        subst same
        exact other ((sound.live timer).mp old)
    issued := fun task member => by
      have listed := List.mem_map_of_mem (f := fun task => task.timer.ticket) member
      rw [tickets] at listed
      obtain ⟨old, oldMember, same⟩ := List.mem_map.mp listed
      show task.timer.ticket < situation.gate.cancel.2.nextTicket
      rw [nextTicket_cancel, ← same]
      exact sound.issued old oldMember
    distinct := by rw [tickets]; exact sound.distinct }

/-- A timer task that wakes finds that the gate waits for it, or comes too late. -/
theorem Sound.wake_cases {situation : Situation} (sound : situation.Sound) {timer : Timer}
    (possible : situation.permits (.wake timer) = true) :
    (situation.gate.phase = .scheduled timer ∧
      situation.gate.wake timer.ticket = some { situation.gate with phase := .running }) ∨
    (situation.gate.phase ≠ .scheduled timer ∧ situation.gate.wake timer.ticket = none) := by
  obtain ⟨task, member, sameTimer⟩ := List.any_eq_true.mp possible
  have timerEq := of_decide_eq_true sameTimer
  cases woken : situation.gate.wake timer.ticket with
  | some gate =>
    obtain ⟨⟨other, waiting, ticket⟩, gateEq⟩ := (wake_eq_some_iff _ _ _).mp woken
    have taskEq := sound.timer_eq member waiting (ticket.trans (by rw [timerEq]))
    have same : other = timer := by rw [← timerEq, taskEq]
    exact Or.inl ⟨same ▸ waiting, by rw [gateEq]⟩
  | none =>
    refine Or.inr ⟨fun waiting => ?_, rfl⟩
    have awake := (wake_eq_some_iff situation.gate _ timer.ticket).mpr ⟨⟨timer, waiting, rfl⟩, rfl⟩
    rw [woken] at awake
    cases awake

/-- A task that was aborted is not the one that the gate waits for. -/
theorem Sound.not_waiting_of_aborted {situation : Situation} (sound : situation.Sound)
    {timer : Timer} (possible : situation.permits (.vanish timer) = true) :
    situation.gate.phase ≠ .scheduled timer := by
  intro waiting
  have aborted := sound.timer_eq (List.contains_iff_mem.mp possible) waiting rfl
  cases aborted

theorem Sound.make {situation : Situation} (sound : situation.Sound) {turn : Turn}
    (possible : situation.permits turn.move = true) : (situation.make turn).Sound := by
  obtain ⟨now, move⟩ := turn
  have stale {timer : Timer} (late : situation.gate.phase ≠ .scheduled timer) :
      (situation.withdraw timer).Sound :=
    sound.withdraw sound.followUp sound.underway rfl fun other =>
      ⟨fun waiting => ⟨waiting, fun same => late (same ▸ waiting)⟩, And.left⟩
  have closed (executing : Nat) :
      (situation.gate.close now).phase.isExecuting = true → 0 < executing := by
    rw [isExecuting_close]
    exact nofun
  have plain : (situation.gate.close now).hasFollowUp = true →
      (situation.gate.close now).phase.isExecuting = true := by
    rw [situation.gate.hasFollowUp_close now sound.followUp]
    exact nofun
  cases move with
  | request =>
    refine sound.adopt (situation.gate.followUp_request now sound.followUp) ?_
      (situation.gate.request_keeps_or_defers now)
    intro executing
    rw [show (situation.adopt _).gate.phase.isExecuting = _ from
      situation.gate.isExecuting_request now, Bool.or_eq_true, decide_eq_true_iff] at executing
    rcases executing with before | started
    · exact Nat.lt_add_right _ (sound.underway before)
    · rw [if_pos started]
      exact Nat.succ_pos _
  | wake timer =>
    rcases sound.wake_cases possible with ⟨waiting, woken⟩ | ⟨late, woken⟩
    · simp only [Situation.make, woken]
      refine sound.withdraw (fun _ => rfl) (fun _ => Nat.succ_pos _) rfl fun other => ?_
      simp [waiting, eq_comm]
    · simp only [Situation.make, woken]
      exact stale late
  | vanish timer => exact stale (sound.not_waiting_of_aborted possible)
  | finish ending => exact sound.adopt plain (closed _) (situation.gate.close_keeps_or_defers now)
  | close => exact sound.adopt plain (closed _) (situation.gate.close_keeps_or_defers now)
  | cancel => exact sound.abandon
  | drop =>
    have abandoned := sound.abandon
    exact ⟨abandoned.followUp, abandoned.underway, abandoned.live, abandoned.issued,
      abandoned.distinct⟩

theorem Sound.step {situation : Situation} (sound : situation.Sound) (turn : Turn) :
    (situation.step turn).Sound := by
  unfold Situation.step
  split
  · exact sound.make ‹_›
  · exact sound

/-- Every situation that arises is sound. -/
theorem Sound.after {situation : Situation} (sound : situation.Sound) (turns : List Turn) :
    (situation.after turns).Sound :=
  after_induction turns sound fun _ _ possible initial => initial.make possible

/-- A course of events is nothing but possible turns taken in sound situations. -/
theorem Sound.course_induction {motive : Situation → List Occurrence → Situation → Prop}
    (nil : ∀ situation, motive situation [] situation)
    (cons : ∀ (situation : Situation) (turn : Turn) (rest : List Turn), situation.Sound →
      situation.permits turn.move = true →
        motive (situation.make turn) ((situation.make turn).course rest)
            ((situation.make turn).after rest) →
          motive situation (⟨situation, turn⟩ :: (situation.make turn).course rest)
            ((situation.make turn).after rest))
    {situation : Situation} (sound : situation.Sound) (turns : List Turn) :
    motive situation (situation.course turns) (situation.after turns) := by
  induction turns generalizing situation with
  | nil => exact nil situation
  | cons turn rest inductionHypothesis =>
    rw [course, after_cons]
    have later := inductionHypothesis (sound.step turn)
    by_cases possible : situation.permits turn.move = true
    · rw [if_pos possible, List.singleton_append]
      rw [step_of_permits possible] at later ⊢
      exact cons situation turn rest sound possible later
    · rw [if_neg possible, List.nil_append]
      rwa [step_of_not_permits possible] at later ⊢

/-! ### The turns that start a run -/

/-- A run starts when a request is told so, or when the timer wakes that the gate waits for. -/
theorem Sound.startsRun_eq {situation : Situation} (sound : situation.Sound) {turn : Turn}
    (possible : situation.permits turn.move = true) :
    Occurrence.startsRun ⟨situation, turn⟩ =
      match turn.move with
      | .request => decide ((situation.gate.request turn.time).1 = .started)
      | .wake timer => decide (situation.gate.phase = .scheduled timer)
      | _ => false := by
  obtain ⟨now, move⟩ := turn
  rw [Occurrence.startsRun, Occurrence.after, step_of_permits possible, gate_make]
  have closed := situation.gate.isExecuting_close now
  cases move with
  | request =>
    simp only [isExecuting_request]
    rcases situation.gate.request_cases now with
      ⟨timer, waiting, same⟩ | ⟨executing, same⟩ | ⟨idle, _, same⟩ | ⟨idle, same⟩
    · simp [same]
    · simp [same]
    · simp [same, idle, Phase.isExecuting]
    · simp [same]
  | wake timer =>
    rcases sound.wake_cases possible with ⟨waiting, woken⟩ | ⟨late, woken⟩
    · simp only [woken, waiting, decide_true]
      rfl
    · simp only [woken, late, decide_false]
      exact Bool.not_and_self _
  | vanish timer => exact Bool.not_and_self _
  | finish ending => exact (congrArg _ closed).trans (Bool.and_false _)
  | close => exact (congrArg _ closed).trans (Bool.and_false _)
  | cancel => simp only [isExecuting_cancel, Bool.not_and_self]
  | drop => simp only [isExecuting_cancel, Bool.not_and_self]

end Situation

end Gate

end CodeNavigator
