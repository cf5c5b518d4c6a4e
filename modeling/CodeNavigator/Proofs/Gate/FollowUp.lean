/-
This file proves that nothing hides behind a run that is executing or waiting. The follow-up is
flagged in one operation and consumed in two others, and a run may be closed by a caller and closed
again by its own end after the next one has begun. Still it is flagged only while the gate says that
the work is executing, so at most one batch is pending at any time, and a cancellation that drops
something drops exactly one.

The run that waits has the ticket that was given out last. All tickets before it are smaller, and the
next one is its successor. So what a caller says about a finished run while nothing is executing can
touch neither the waiting run nor its ticket, and only opens a new window.
-/

import CodeNavigator.Proofs.Gate.Staleness

namespace CodeNavigator

namespace Gate

namespace Situation

variable {situation : Situation} {delay : Nat} {turns : List Turn} {timer : Timer}

/-! ### The ticket of the waiting run -/

/-- The tasks spawned before the one that the gate waits for have the smaller tickets. -/
theorem exists_spawned_before
    (waiting : ((ofDelay delay).after turns).gate.phase = .scheduled timer) :
    ∃ earlier, spawned ((ofDelay delay).course turns) = earlier ++ [timer] ∧
      ((ofDelay delay).after turns).gate.nextTicket = timer.ticket + 1 ∧
      ∀ other ∈ earlier, other.ticket < timer.ticket := by
  obtain ⟨tickets, next⟩ := tickets_spawned_ofDelay delay turns
  obtain ⟨earlier, split⟩ := List.getLast?_eq_some_iff.mp (getLast?_spawned waiting)
  rw [split, List.map_append, List.length_append, List.length_singleton, List.range_succ] at tickets
  obtain ⟨before, last⟩ := List.append_inj' tickets rfl
  have ticket : timer.ticket = earlier.length := (List.cons.inj last).1
  refine ⟨earlier, split, ?_, fun other member => ?_⟩
  · rw [next, split, List.length_append, ticket]
    rfl
  · have listed := List.mem_map_of_mem (f := Timer.ticket) member
    rw [before, List.mem_range] at listed
    exact lt_of_lt_of_eq listed ticket.symm

/-! ### Closing while nothing is executing -/

/-- Where the gate says that nothing is executing, closing only opens a new window. -/
theorem Sound.make_close_of_resting (sound : situation.Sound)
    (resting : situation.gate.phase.isExecuting = false) (now : Nat) :
    situation.make ⟨now, .close⟩ =
      { situation with gate := { situation.gate with lastRun := some now } } := by
  have keeps : KeepsWaiting situation.gate { situation.gate with lastRun := some now } :=
    ⟨rfl, fun _ => Iff.rfl⟩
  show situation.adopt (situation.gate.close now) = _
  rw [close_of_resting resting, Situation.adopt, sound.deferredTask_eq_nil keeps, List.append_nil]

/-! ### Nothing hidden -/

/-- The follow-up is flagged only while the work is executing, and the run that waits has the newest
ticket. Hence no more than one batch is pending, so that a cancellation drops at most one and leaves
none, and closing while the gate is idle or waits changes nothing but the window. -/
theorem follow_up_never_hides (delay : Nat) (turns : List Turn) :
    let course := (ofDelay delay).course turns
    let situation := (ofDelay delay).after turns
    let gate := situation.gate
    (gate.hasFollowUp = true → gate.phase = .immediate ∨ gate.phase = .running) ∧
    (∀ timer, gate.phase = .scheduled timer →
      ∃ earlier, spawned course = earlier ++ [timer] ∧
        timer.ticket < gate.nextTicket ∧ (∀ other ∈ earlier, other.ticket < timer.ticket) ∧
        (gate.nextTicket < UInt64.size →
          UInt64.ofNat timer.ticket < UInt64.ofNat gate.nextTicket ∧
          ∀ other ∈ earlier, UInt64.ofNat other.ticket < UInt64.ofNat timer.ticket)) ∧
    (course.countP Occurrence.opensBatch =
        course.countP Occurrence.startsRun + course.countP Occurrence.dropsBatch + gate.owed ∧
      gate.owed = (if gate.cancel.1 then 1 else 0) ∧ gate.cancel.2.owed = 0) ∧
    ((gate.phase = .idle ∨ ∃ timer, gate.phase = .scheduled timer) → ∀ now,
      situation.make ⟨now, .close⟩ = { situation with gate := { gate with lastRun := some now } }) := by
  intro course situation gate
  have sound : situation.Sound := (sound_ofDelay delay).after turns
  refine ⟨fun flagged => Phase.isExecuting_iff.mp (sound.followUp flagged), fun timer waiting => ?_,
    ⟨?_, gate.owed_eq_cancel sound.followUp, gate.owed_cancel⟩, fun resting => ?_⟩
  · obtain ⟨earlier, split, next, smaller⟩ := exists_spawned_before waiting
    have below : timer.ticket < gate.nextTicket := next ▸ Nat.lt_succ_self _
    refine ⟨earlier, split, below, smaller, fun few => ?_⟩
    have order {first second : Nat} (less : first < second) (fits : second < UInt64.size) :
        UInt64.ofNat first < UInt64.ofNat second := by
      rw [UInt64.lt_iff_toNat_lt, UInt64.toNat_ofNat_of_lt' fits,
        UInt64.toNat_ofNat_of_lt' (Nat.lt_trans less fits)]
      exact less
    exact ⟨order below few, fun other member =>
      order (smaller other member) (Nat.lt_trans below few)⟩
  · have balance : course.countP Occurrence.opensBatch + 0 =
        course.countP Occurrence.startsRun + gate.owed + course.countP Occurrence.dropsBatch :=
      (sound_ofDelay delay).batches_balance turns
    omega
  · refine sound.make_close_of_resting ?_
    rcases resting with idle | ⟨timer, waiting⟩
    · show gate.phase.isExecuting = false
      rw [idle]
      rfl
    · exact isExecuting_scheduled waiting

/-- A run is closed from outside, and the next one has begun and has a follow-up when that is closed
as well. The follow-up is cancelled and a new run deferred before the two runs end. -/
theorem follow_up_never_hides_after_late_endings :
    let turns := [⟨0, .request⟩, ⟨2, .close⟩, ⟨102, .request⟩, ⟨103, .request⟩, ⟨104, .close⟩,
      ⟨105, .cancel⟩, ⟨106, .request⟩, ⟨107, .finish .success⟩, ⟨108, .finish .panic⟩]
    let situation := (ofDelay 100).after turns
    situation.gate.phase = .scheduled ⟨1, 204⟩ ∧ situation.gate.runs = 2 ∧
    (∃ earlier, spawned ((ofDelay 100).course turns) = earlier ++ [⟨1, 204⟩] ∧
      ∀ other ∈ earlier, other.ticket < 1) ∧
    situation.gate.owed = 1 ∧ situation.gate.cancel.2.owed = 0 ∧
    situation.make ⟨109, .close⟩ =
      { situation with gate := { situation.gate with lastRun := some 109 } } := by
  intro turns situation
  have waiting : situation.gate.phase = .scheduled ⟨1, 204⟩ := by decide
  obtain ⟨_, tickets, ⟨_, owed, none⟩, closing⟩ := follow_up_never_hides 100 turns
  obtain ⟨earlier, split, _, smaller, _⟩ := tickets _ waiting
  refine ⟨waiting, by decide, ⟨earlier, split, smaller⟩, ?_, none, closing (Or.inr ⟨_, waiting⟩) 109⟩
  rw [owed]
  decide

end Situation

end Gate

end CodeNavigator
