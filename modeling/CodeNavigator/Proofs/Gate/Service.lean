/-
This file proves that no request is lost on a timeline, and that each is served within the delay. A
request that does not start a run itself is owed one. The debt lies with the run that is waiting, or
with the follow-up of the run that is executing, and it moves from the follow-up to a waiting run
when the executing run is closed. The clock bounds both: a run that waits is due within the delay,
because the last run is never in the future, and a follow-up is closed before any time passes,
because time passes only while nothing is executing.

So a turn pays the debt in time, keeps it, or is a cancellation that drops it. When the clock has
reached the end of the window, nothing that was due is still waiting, and the debt has been paid.
-/

import CodeNavigator.Proofs.Gate.Batch
import CodeNavigator.Proofs.Gate.History

namespace CodeNavigator

namespace Gate

variable {gate : Gate} {now time : Nat}

/-! ### A gate on time -/

/-- The last run is not in the future, and a run that waits is due within the delay. -/
structure OnTime (gate : Gate) (now : Nat) : Prop where
  lastRun : ∀ last, gate.lastRun = some last → last ≤ now
  due : ∀ timer, gate.phase = .scheduled timer →
    now ≤ timer.due ∧ timer.due ≤ now + gate.delay

theorem onTime_ofDelay (delay : Nat) : (ofDelay delay).OnTime 0 :=
  ⟨nofun, nofun⟩

theorem OnTime.wait_le (onTime : gate.OnTime now) : gate.wait now ≤ gate.delay := by
  unfold wait
  cases lastRun : gate.lastRun with
  | none => exact Nat.zero_le _
  | some last =>
    have past := onTime.lastRun last lastRun
    simp only
    omega

theorem OnTime.request (onTime : gate.OnTime now) : (gate.request now).2.OnTime now := by
  have short := onTime.wait_le
  rcases gate.request_cases now with
    ⟨timer, waiting, same⟩ | ⟨executing, same⟩ | ⟨idle, _, same⟩ | ⟨idle, same⟩
  · rw [same]
    exact onTime
  · rw [same]
    exact ⟨onTime.lastRun, onTime.due⟩
  · rw [same]
    exact ⟨onTime.lastRun, nofun⟩
  · rw [same]
    refine ⟨onTime.lastRun, fun timer waiting => ?_⟩
    cases waiting
    exact ⟨Nat.le_add_right _ _, Nat.add_le_add_left short now⟩

theorem OnTime.close (onTime : gate.OnTime now) : (gate.close now).OnTime now := by
  have past (last : Nat) (lastRun : (gate.close now).lastRun = some last) : last ≤ now := by
    cases lastRun
    exact Nat.le_refl now
  refine ⟨past, ?_⟩
  rcases gate.close_cases now with ⟨_, same⟩ | ⟨_, _, same⟩ | ⟨_, _, same⟩
  · rw [same]
    exact onTime.due
  · rw [same]
    exact nofun
  · rw [same]
    intro timer waiting
    cases waiting
    exact ⟨Nat.le_add_right _ _, Nat.le_refl _⟩

theorem OnTime.cancel (onTime : gate.OnTime now) : gate.cancel.2.OnTime now := by
  refine ⟨?_, fun timer waiting => absurd waiting (gate.phase_cancel_ne timer)⟩
  rcases gate.cancel_cases with ⟨_, _, same⟩ | ⟨_, same⟩
  · rw [same]
    exact onTime.lastRun
  · rw [same]
    exact onTime.lastRun

theorem OnTime.run (onTime : gate.OnTime now) :
    ({ gate with phase := .running } : Gate).OnTime now :=
  ⟨onTime.lastRun, nofun⟩

/-- Time passes, but not past a run that is due. -/
theorem OnTime.pass (onTime : gate.OnTime now) (later : now ≤ time)
    (early : ∀ timer, gate.phase = .scheduled timer → time ≤ timer.due) : gate.OnTime time := by
  refine ⟨fun last lastRun => Nat.le_trans (onTime.lastRun last lastRun) later, ?_⟩
  intro timer waiting
  have due := (onTime.due timer waiting).2
  exact ⟨early timer waiting, Nat.le_trans due (Nat.add_le_add_right later _)⟩

/-! ### What is owed to a request -/

/-- A run is owed to a request that was made at a time: a run is waiting that is due in the window
of the request, or a follow-up is flagged and no time has passed since the request. -/
def Owes (gate : Gate) (now time : Nat) : Prop :=
  (∃ timer, gate.phase = .scheduled timer ∧ time ≤ timer.due ∧ timer.due ≤ time + gate.delay) ∨
    (gate.phase.isExecuting = true ∧ gate.hasFollowUp = true ∧ now = time)

/-- A request starts a run, or is owed one. -/
theorem OnTime.owes_request (onTime : gate.OnTime now)
    (deferred : (gate.request now).1 ≠ .started) : (gate.request now).2.Owes now now := by
  have short := onTime.wait_le
  rcases gate.request_cases now with
    ⟨timer, waiting, same⟩ | ⟨executing, same⟩ | ⟨idle, _, same⟩ | ⟨idle, same⟩
  · rw [same]
    exact Or.inl ⟨timer, waiting, onTime.due timer waiting⟩
  · rw [same]
    exact Or.inr ⟨executing, rfl, rfl⟩
  · rw [same] at deferred
    exact absurd rfl deferred
  · rw [same]
    exact Or.inl ⟨_, rfl, Nat.le_add_right _ _, Nat.add_le_add_left short now⟩

/-- While a run is owed, every request joins the batch that waits for it. -/
theorem Owes.request (owes : gate.Owes now time) :
    (gate.request now).1 = .absorbed ∧ (gate.request now).2.Owes now time := by
  rcases gate.request_cases now with
    ⟨timer, waiting, same⟩ | ⟨executing, same⟩ | ⟨idle, _, same⟩ | ⟨idle, same⟩
  · rw [same]
    exact ⟨rfl, owes⟩
  · rw [same]
    refine ⟨rfl, ?_⟩
    rcases owes with ⟨timer, waiting, window⟩ | ⟨_, _, prompt⟩
    · exact Or.inl ⟨timer, waiting, window⟩
    · exact Or.inr ⟨executing, rfl, prompt⟩
  all_goals
    rcases owes with ⟨timer, waiting, _⟩ | ⟨executing, _⟩
    · rw [idle] at waiting
      cases waiting
    · rw [idle] at executing
      cases executing

/-- The debt survives the end of the run, because the window opens at the time of the request. -/
theorem Owes.close (owes : gate.Owes now time) : (gate.close now).Owes now time := by
  rcases owes with ⟨timer, waiting, window⟩ | ⟨executing, flagged, rfl⟩
  · rcases gate.close_cases now with ⟨_, same⟩ | ⟨executing, _⟩ | ⟨executing, _⟩
    · rw [same]
      exact Or.inl ⟨timer, waiting, window⟩
    all_goals
      rw [isExecuting_scheduled waiting] at executing
      cases executing
  · rcases gate.close_cases now with ⟨resting, _⟩ | ⟨_, plain, _⟩ | ⟨_, _, same⟩
    · rw [executing] at resting
      cases resting
    · rw [flagged] at plain
      cases plain
    · rw [same]
      exact Or.inl ⟨_, rfl, Nat.le_add_right _ _, Nat.le_refl _⟩

theorem Owes.cancel (owes : gate.Owes now time) : gate.cancel.1 = true := by
  rcases gate.cancel_cases with ⟨_, _, same⟩ | ⟨none, same⟩
  · rw [same]
  · rw [same]
    rcases owes with ⟨timer, waiting, _⟩ | ⟨_, flagged, _⟩
    · exact absurd waiting (none timer)
    · exact flagged

/-- What is waiting is dropped before a run starts. -/
def dropsFirst : List Occurrence → Bool
  | [] => false
  | occurrence :: rest => occurrence.dropsBatch || (!occurrence.startsRun && dropsFirst rest)

/-- A run that starts in a window is found at once, or among what comes later. -/
theorem exists_start_cons {occurrence : Occurrence} {course : List Occurrence}
    {window : Nat → Prop} {owed last : Prop} (kept : dropsFirst (occurrence :: course) = false)
    (now : (occurrence.startsRun = true ∧ window occurrence.turn.time) ∨
      (occurrence.startsRun = false ∧ owed))
    (later : owed → dropsFirst course = false →
      (∃ start ∈ startTimes course, window start) ∨ last) :
    (∃ start ∈ startTimes (occurrence :: course), window start) ∨ last := by
  rw [dropsFirst, Bool.or_eq_false_iff] at kept
  rcases now with ⟨starts, inWindow⟩ | ⟨waits, owed⟩
  · refine Or.inl ⟨occurrence.turn.time, ?_, inWindow⟩
    simp [startTimes, starts]
  · have same : startTimes (occurrence :: course) = startTimes course := by
      simp [startTimes, waits]
    rw [same]
    exact later owed (by simpa [waits] using kept.2)

end Gate

namespace Timeline

open Gate (Turn Situation Occurrence startTimes dropsFirst)

/-! ### The ticks of a gate on time -/

theorem Ticks.delay_eq {first last : Clockwork} {turn : Option Turn}
    (ticks : Ticks first turn last) : last.gate.delay = first.gate.delay := by
  cases ticks with
  | start => exact first.gate.delay_request first.now
  | ask => exact first.gate.delay_request first.now
  | close => exact first.gate.delay_close first.now
  | cancel => exact first.gate.delay_cancel
  | drop => exact first.gate.delay_cancel
  | finish => exact first.gate.delay_finish first.now
  | _ => rfl

theorem Ticks.onTime {first last : Clockwork} {turn : Option Turn} (ticks : Ticks first turn last)
    (onTime : first.gate.OnTime first.now) : last.gate.OnTime last.now := by
  cases ticks with
  | start => exact onTime.request
  | ask => exact onTime.request
  | close => exact onTime.close
  | cancel => exact onTime.cancel
  | drop => exact onTime.cancel
  | observe => exact onTime
  | finish => exact ⟨onTime.close.lastRun, onTime.close.due⟩
  | @wake timer quiet waiting =>
    refine (onTime.pass (onTime.due timer waiting).1 fun other same => ?_).run
    exact Nat.le_of_eq (congrArg Timer.due (Phase.scheduled.inj (waiting.symm.trans same)))
  | pass quiet later early =>
    exact onTime.pass later fun timer waiting => Nat.le_of_lt (early timer waiting)

theorem Plays.delay_eq {first last : Clockwork} {turns : List Turn}
    (plays : Plays first turns last) : last.gate.delay = first.gate.delay := by
  induction plays with
  | refl => rfl
  | tick ticks _ inductionHypothesis => exact inductionHypothesis.trans ticks.delay_eq

theorem Plays.onTime {first last : Clockwork} {turns : List Turn} (plays : Plays first turns last)
    (onTime : first.gate.OnTime first.now) : last.gate.OnTime last.now := by
  induction plays with
  | refl => exact onTime
  | tick ticks _ inductionHypothesis => exact inductionHypothesis (ticks.onTime onTime)

/-! ### The ticks while a run is owed -/

variable {situation : Situation} {first last : Clockwork} {time : Nat}

/-- While nothing is under way, only a run that is waiting can be owed. -/
theorem Matches.exists_waiting (fits : Matches situation first) (quiet : first.remaining = [])
    (owes : first.gate.Owes first.now time) :
    ∃ timer, first.gate.phase = .scheduled timer ∧
      time ≤ timer.due ∧ timer.due ≤ time + first.gate.delay := by
  rcases owes with waiting | ⟨executing, _⟩
  · exact waiting
  · have underway := fits.sound.underway (fits.gate ▸ executing)
    rw [fits.executing, quiet] at underway
    exact absurd underway (Nat.lt_irrefl 0)

/-- A turn starts the run that is owed, and does so within the window, or keeps owing it, unless it
drops it. -/
theorem Ticks.starts_or_owes {turn : Turn} (ticks : Ticks first (some turn) last)
    (fits : Matches situation first) (owes : first.gate.Owes first.now time)
    (kept : Occurrence.dropsBatch ⟨situation, turn⟩ = false) :
    (Occurrence.startsRun ⟨situation, turn⟩ = true ∧
        time ≤ turn.time ∧ turn.time ≤ time + first.gate.delay) ∨
      (Occurrence.startsRun ⟨situation, turn⟩ = false ∧ last.gate.Owes last.now time) := by
  have gate := fits.gate
  rw [fits.sound.startsRun_eq (ticks.permits fits)]
  cases ticks with
  | start isOpen calls started =>
    rw [owes.request.1] at started
    cases started
  | ask isOpen calls deferred =>
    exact Or.inr ⟨decide_eq_false (gate ▸ deferred), owes.request.2⟩
  | close isOpen calls => exact Or.inr ⟨rfl, owes.close⟩
  | cancel isOpen calls =>
    have drops : situation.gate.cancel.1 = true := gate ▸ owes.cancel
    exact absurd (kept.symm.trans drops) Bool.false_ne_true
  | drop isOpen quiet =>
    have drops : situation.gate.cancel.1 = true := gate ▸ owes.cancel
    exact absurd (kept.symm.trans drops) Bool.false_ne_true
  | finish ending underway => exact Or.inr ⟨rfl, owes.close⟩
  | @wake timer quiet waiting =>
    obtain ⟨other, same, window⟩ := fits.exists_waiting quiet owes
    obtain rfl : timer = other := Phase.scheduled.inj (waiting.symm.trans same)
    exact Or.inl ⟨decide_eq_true (gate ▸ waiting), window⟩

theorem Ticks.owes_of_none (ticks : Ticks first none last) (fits : Matches situation first)
    (owes : first.gate.Owes first.now time) : last.gate.Owes last.now time := by
  cases ticks with
  | observe => exact owes
  | pass quiet later early => exact Or.inl (fits.exists_waiting quiet owes)

/-- What is owed stays owed until a run starts within the window, unless it is dropped before. -/
theorem Plays.starts_or_owes {turns : List Turn} (plays : Plays first turns last)
    (fits : Matches situation first) (owes : first.gate.Owes first.now time)
    (kept : dropsFirst (situation.course turns) = false) :
    (∃ start ∈ startTimes (situation.course turns),
        time ≤ start ∧ start ≤ time + first.gate.delay) ∨
      last.gate.Owes last.now time := by
  induction plays generalizing situation with
  | refl => exact Or.inr owes
  | @tick first middle last turn turns ticks _ inductionHypothesis =>
    rw [← ticks.delay_eq]
    cases turn with
    | none =>
      exact inductionHypothesis (ticks.matches_of_none fits) (ticks.owes_of_none fits owes) kept
    | some turn =>
      rw [ticks.course_eq fits] at kept ⊢
      have now := ticks.starts_or_owes fits owes (Bool.or_eq_false_iff.mp kept).1
      rw [← ticks.delay_eq] at now
      exact Gate.exists_start_cons kept now fun owes kept =>
        inductionHypothesis (ticks.matches_make fits) owes kept

theorem Ticks.request_starts_or_owes (ticks : Ticks first (some ⟨time, .request⟩) last)
    (fits : Matches situation first) (onTime : first.gate.OnTime first.now) :
    Occurrence.startsRun ⟨situation, ⟨time, .request⟩⟩ = true ∨
      (Occurrence.startsRun ⟨situation, ⟨time, .request⟩⟩ = false ∧
        last.gate.Owes last.now time) := by
  rw [fits.sound.startsRun_eq (ticks.permits fits)]
  have gate := fits.gate
  cases ticks with
  | start isOpen calls started => exact Or.inl (decide_eq_true (gate ▸ started))
  | ask isOpen calls deferred =>
    exact Or.inr ⟨decide_eq_false (gate ▸ deferred), onTime.owes_request deferred⟩

/-- A request is served within its window or still owed a run, unless what it waits for is
dropped. -/
theorem Ticks.serves_or_owes {middle : Clockwork} {turns : List Turn}
    (ticks : Ticks first (some ⟨time, .request⟩) middle) (plays : Plays middle turns last)
    (fits : Matches situation first) (onTime : first.gate.OnTime first.now)
    (kept : dropsFirst (situation.course (⟨time, .request⟩ :: turns)) = false) :
    (∃ start ∈ startTimes (situation.course (⟨time, .request⟩ :: turns)),
        time ≤ start ∧ start ≤ time + first.gate.delay) ∨
      last.gate.Owes last.now time := by
  have possible := ticks.permits fits
  rw [Situation.course_cons_of_permits possible, Situation.step_of_permits possible] at kept ⊢
  have now := ticks.request_starts_or_owes fits onTime
  have atOnce : time ≤ time ∧ time ≤ time + first.gate.delay :=
    ⟨Nat.le_refl _, Nat.le_add_right _ _⟩
  refine Gate.exists_start_cons kept (now.imp_left fun starts => ⟨starts, atOnce⟩) ?_
  intro owes kept
  rw [← ticks.delay_eq]
  exact plays.starts_or_owes (ticks.matches_make fits) owes kept

/-! ### Service -/

/-- When the clock has advanced past a window, nothing is owed any more in that window. -/
theorem Quiet.not_owes_of_advance {timeline : Timeline} (quiet : timeline.Quiet)
    (fits : Matches situation timeline.clockwork) {duration : Nat}
    (reached : time + timeline.gate.delay ≤ (timeline.perform (.advance duration)).2.now) :
    ¬ (timeline.perform (.advance duration)).2.gate.Owes
      (timeline.perform (.advance duration)).2.now time := by
  intro owes
  obtain ⟨plays, rested⟩ := quiet.perform_plays fits (.advance duration)
  obtain ⟨timer, waiting, _, due⟩ :=
    (plays.matches_after fits).1.exists_waiting rested.remaining owes
  have notYet := quiet.lt_due_of_advance fits waiting
  rw [plays.delay_eq] at due
  exact absurd (Nat.le_trans due reached) (Nat.not_le_of_lt notYet)

/-- A request is served within the delay, unless a later cancellation drops what it waits for. Once
the clock has advanced to the end of its window, a run has started in that window which comes after
all runs that had started before the request. -/
theorem request_served_within_delay (delay : Nat) (scripts : List (List Action))
    (steps : List Step) (duration time : Nat) (earlier later : List Turn)
    (made : (ofScripts delay scripts).history (steps ++ [.advance duration]) =
      earlier ++ ⟨time, .request⟩ :: later)
    (kept : dropsFirst
      (((Situation.ofDelay delay).after earlier).course (⟨time, .request⟩ :: later)) = false)
    (reached : time + delay ≤
      ((ofScripts delay scripts).after (steps ++ [.advance duration])).now) :
    ∃ run ∈ ((ofScripts delay scripts).after (steps ++ [.advance duration])).log.drop
        (((Situation.ofDelay delay).course earlier).countP Occurrence.startsRun),
      time ≤ run.start ∧ run.start ≤ time + delay := by
  have initial := matches_ofScripts delay scripts
  obtain ⟨plays, _⟩ := (quiet_ofScripts delay scripts).history_plays initial
    (steps ++ [.advance duration])
  rw [made] at plays
  obtain ⟨before, after, early, now, late⟩ := plays.split
  have delayEq : before.gate.delay = delay := early.delay_eq
  have onTime : before.gate.OnTime before.now := early.onTime (Gate.onTime_ofDelay delay)
  rcases now.serves_or_owes late (early.matches_after initial).1 onTime kept with
    ⟨start, member, window⟩ | owes
  · -- The log lists first the starts before the request, and then those from the request on.
    have starts := log_map_start delay scripts (steps ++ [.advance duration])
    rw [made, Situation.course_append, Gate.startTimes_append] at starts
    have listed : start ∈ (((ofScripts delay scripts).after (steps ++ [.advance duration])).log.map
        Run.start).drop (((Situation.ofDelay delay).course earlier).countP Occurrence.startsRun) := by
      rw [starts, ← Gate.length_startTimes, List.drop_left]
      exact member
    rw [← List.map_drop] at listed
    obtain ⟨run, logged, rfl⟩ := List.mem_map.mp listed
    rw [delayEq] at window
    exact ⟨run, logged, window⟩
  · obtain ⟨plays, quiet⟩ := (quiet_ofScripts delay scripts).history_plays initial steps
    have same : ((ofScripts delay scripts).after steps).gate.delay = delay := plays.delay_eq
    rw [after_append] at reached owes
    refine absurd owes (quiet.not_owes_of_advance (plays.matches_after initial).1 ?_)
    rw [same]
    exact reached

/-- The work asks for a run, says that it has finished and panics. What it asked for runs at the end
of the window, together with a later request. -/
theorem request_before_panic_served :
    let start := ofScripts 100 [[.request, .finish, .panic], [.request]]
    let steps := [.request, .advance 30, .request, .advance 100]
    let later := [⟨0, .close⟩, ⟨0, .finish .panic⟩, ⟨30, .request⟩, ⟨100, .wake ⟨0, 100⟩⟩,
      ⟨100, .request⟩, ⟨100, .finish .success⟩]
    start.history steps = ⟨0, .request⟩ :: ⟨0, .request⟩ :: later ∧
    dropsFirst
      (((Situation.ofDelay 100).after [⟨0, .request⟩]).course (⟨0, .request⟩ :: later)) = false ∧
    (start.after steps).now = 130 ∧
    ∃ run ∈ (start.after steps).log.drop 1, 0 ≤ run.start ∧ run.start ≤ 100 := by
  intro start steps later
  have served := request_served_within_delay 100 [[.request, .finish, .panic], [.request]]
    [.request, .advance 30, .request] 100 0 [⟨0, .request⟩] later
    (by decide) (by decide) (by decide)
  exact ⟨by decide, by decide, by decide, served⟩

end Timeline

end CodeNavigator
