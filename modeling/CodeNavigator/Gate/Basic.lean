/-
This file defines the gate that limits how often some recurring work runs. A request either starts
the work at once, or is deferred to the end of the window that the previous run opened, or is
absorbed by a run that is waiting or by a follow-up of the run that is executing. The operations
here are the atomic steps of the gate: what the work does between the start and the end of a run,
and who wakes a deferred run and when, is not their concern. Times and waits are in milliseconds.
-/

namespace CodeNavigator

/-- A deferred run: the number that tells it from all other deferred runs, and when it is due. -/
structure Timer where
  ticket : Nat
  due : Nat
deriving DecidableEq

/-- What a gate is doing: nothing, running the work on behalf of the requester, waiting for a timer,
or running the work on behalf of a timer. -/
inductive Phase
  | idle
  | immediate
  | scheduled (timer : Timer)
  | running
deriving DecidableEq

namespace Phase

def name : Phase → String
  | .idle => "idle"
  | .immediate => "pending_immediate"
  | .scheduled _ => "pending_scheduled"
  | .running => "running"

/-- Whether the work is executing. -/
def isExecuting : Phase → Bool
  | .immediate | .running => true
  | _ => false

end Phase

/-- What becomes of a request. -/
inductive Disposition
  | absorbed
  | started
  | scheduled (wait : Nat)
deriving DecidableEq

/-- A gate. A follow-up is a run that was asked for while the work was executing. -/
structure Gate where
  delay : Nat
  phase : Phase
  hasFollowUp : Bool
  lastRun : Option Nat
  nextTicket : Nat
  runs : Nat
deriving DecidableEq

namespace Gate

/-- A gate that has run nothing yet. -/
def ofDelay (delay : Nat) : Gate :=
  ⟨delay, .idle, false, none, 0, 0⟩

/-- Whether something is executing or waiting. -/
def isPending (gate : Gate) : Bool :=
  gate.phase ≠ .idle

/-- How long the window of the last run still lasts. Here the window may end at any time. A clock of
fixed width stops the program if the end lies beyond its last instant, which takes a delay of
billions of years. -/
def wait (gate : Gate) (now : Nat) : Nat :=
  match gate.lastRun with
  | some last => last + gate.delay - now
  | none => 0

/-- Defer a run. -/
def schedule (gate : Gate) (now wait : Nat) : Gate :=
  { gate with phase := .scheduled ⟨gate.nextTicket, now + wait⟩, nextTicket := gate.nextTicket + 1 }

/-- Ask for a run. The work starts when the disposition says so, and not otherwise. -/
def request (gate : Gate) (now : Nat) : Disposition × Gate :=
  match gate.phase with
  | .scheduled _ => (.absorbed, gate)
  | .immediate | .running => (.absorbed, { gate with hasFollowUp := true })
  | .idle =>
    if gate.wait now = 0 then (.started, { gate with phase := .immediate })
    else (.scheduled (gate.wait now), gate.schedule now (gate.wait now))

/-- The timer with this ticket wakes. The work starts only if the gate waits for that very timer. -/
def wake (gate : Gate) (ticket : Nat) : Option Gate :=
  match gate.phase with
  | .scheduled timer => if timer.ticket = ticket then some { gate with phase := .running } else none
  | _ => none

/-- Close the executing run and open a new window. A follow-up is deferred to the end of that
window. A run that is waiting is left alone. -/
def close (gate : Gate) (now : Nat) : Gate :=
  let closed :=
    if gate.phase.isExecuting then
      if gate.hasFollowUp then
        { gate with phase := .idle, hasFollowUp := false }.schedule now gate.delay
      else { gate with phase := .idle }
    else gate
  { closed with lastRun := some now }

/-- The work has ended, well or badly. -/
def finish (gate : Gate) (now : Nat) : Gate :=
  { gate.close now with runs := gate.runs + 1 }

/-- Drop the run that is waiting and the follow-up. Tells whether there was something to drop. -/
def cancel (gate : Gate) : Bool × Gate :=
  match gate.phase with
  | .scheduled _ => (true, { gate with phase := .idle, hasFollowUp := false })
  | _ => (gate.hasFollowUp, { gate with hasFollowUp := false })

/-! ### What the steps leave alone -/

theorem delay_request (gate : Gate) (now : Nat) : (gate.request now).2.delay = gate.delay := by
  unfold request
  split <;> try rfl
  split <;> rfl

theorem delay_close (gate : Gate) (now : Nat) : (gate.close now).delay = gate.delay := by
  unfold close
  simp only
  split
  · split <;> rfl
  · rfl

theorem delay_finish (gate : Gate) (now : Nat) : (gate.finish now).delay = gate.delay :=
  gate.delay_close now

theorem delay_cancel (gate : Gate) : gate.cancel.2.delay = gate.delay := by
  unfold cancel
  split <;> rfl

theorem runs_request (gate : Gate) (now : Nat) : (gate.request now).2.runs = gate.runs := by
  unfold request
  split <;> try rfl
  split <;> rfl

theorem runs_close (gate : Gate) (now : Nat) : (gate.close now).runs = gate.runs := by
  unfold close
  simp only
  split
  · split <;> rfl
  · rfl

theorem lastRun_close (gate : Gate) (now : Nat) : (gate.close now).lastRun = some now := rfl

theorem hasFollowUp_cancel (gate : Gate) : gate.cancel.2.hasFollowUp = false := by
  unfold cancel
  split <;> rfl

end Gate

end CodeNavigator
