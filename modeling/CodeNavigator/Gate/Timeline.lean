/-
This file lets a gate work on a clock of its own. Time moves only when it is told to, a deferred run
starts exactly when it is due, and the work takes no time. The work is given by scripts, one for
each run in the order in which the runs start: a script uses the same gate from inside the work, so
a run can start another run and is then suspended until that one has ended. A panic ends the run it
happens in and every run around it, while a failure ends only its own run. Every run that starts is
logged with what its actions answered.
-/

import CodeNavigator.Gate.Basic

namespace CodeNavigator

/-- What the work can do. -/
inductive Action
  | request
  | finish
  | cancel
  | observePhase
  | countRuns
  | fail
  | panic
deriving DecidableEq

/-- What an action answers. -/
inductive Event
  | disposed (disposition : Disposition)
  | finished
  | cancelled (hadPending : Bool)
  | observed (phase : Phase)
  | counted (runs : Nat)
deriving DecidableEq

/-- A run that has started: when, in which phase of the gate, and what its actions answered. -/
structure Run where
  start : Nat
  phase : Phase
  events : List Event
deriving DecidableEq

/-- A run that has not ended: its place in the log and the actions it has still to do. -/
structure Frame where
  run : Nat
  remaining : List Action

/-- A gate, its clock, the scripts of the runs to come, the runs under way with the innermost first,
and the log of all runs. -/
structure Timeline where
  gate : Gate
  now : Nat
  scripts : List (List Action)
  stack : List Frame
  log : List Run
  isPanicking : Bool
  isOpen : Bool

namespace Timeline

/-- A new gate at time zero. -/
def ofScripts (delay : Nat) (scripts : List (List Action)) : Timeline :=
  ⟨.ofDelay delay, 0, scripts, [], [], false, true⟩

/-! ### The runs under way -/

/-- Start the work of the next run. The gate is given as it is when the work begins. -/
def startRun (timeline : Timeline) (gate : Gate) : Timeline :=
  { timeline with
    gate := gate
    scripts := timeline.scripts.tail
    stack := ⟨timeline.log.length, timeline.scripts.headD []⟩ :: timeline.stack
    log := timeline.log ++ [⟨timeline.now, gate.phase, []⟩] }

/-- Log the answer of an action of a run. -/
def note (timeline : Timeline) (run : Nat) (event : Event) : Timeline :=
  { timeline with
    log := timeline.log.modify run fun entry => { entry with events := entry.events ++ [event] } }

/-- End the innermost run. The run around it, if there is one, learns that its request has started
a run, unless the panic goes on there. -/
def endRun (timeline : Timeline) (isPanicking : Bool) : Timeline :=
  let ended :=
    { timeline with
      gate := timeline.gate.finish timeline.now
      stack := timeline.stack.tail
      isPanicking := isPanicking }
  match ended.stack with
  | frame :: _ => if isPanicking then ended else ended.note frame.run (.disposed .started)
  | [] => ended

/-- One action of the innermost run, whose place in the log is given. -/
def act (timeline : Timeline) (run : Nat) : Action → Timeline
  | .request =>
    match timeline.gate.request timeline.now with
    | (.started, opened) => timeline.startRun opened
    | (disposition, changed) =>
      { timeline with gate := changed }.note run (.disposed disposition)
  | .finish =>
    { timeline with gate := timeline.gate.close timeline.now }.note run .finished
  | .cancel =>
    { timeline with gate := timeline.gate.cancel.2 }.note run (.cancelled timeline.gate.cancel.1)
  | .observePhase => timeline.note run (.observed timeline.gate.phase)
  | .countRuns => timeline.note run (.counted timeline.gate.runs)
  | .fail => timeline.endRun false
  | .panic => timeline.endRun true

/-- The next thing that happens among the runs under way. -/
def step (timeline : Timeline) : Timeline :=
  match timeline.stack with
  | [] => timeline
  | frame :: outer =>
    if timeline.isPanicking then timeline.endRun true
    else
      match frame.remaining with
      | [] => timeline.endRun false
      | action :: rest =>
        { timeline with stack := ⟨frame.run, rest⟩ :: outer }.act frame.run action

/-- A number that every step among the runs under way makes smaller. -/
def load (timeline : Timeline) : Nat :=
  2 * (timeline.scripts.flatten.length + (timeline.stack.flatMap Frame.remaining).length) +
    timeline.stack.length

/-- So many steps. -/
def steps : Nat → Timeline → Timeline
  | 0, timeline => timeline
  | count + 1, timeline => steps count timeline.step

/-- Go on until no run is under way. -/
def settle (timeline : Timeline) : Timeline :=
  timeline.steps timeline.load

/-! ### The clock -/

/-- Start the deferred runs that are due until some time, one after the other. -/
def wakeUntil (target : Nat) : Nat → Timeline → Timeline
  | 0, timeline => timeline
  | count + 1, timeline =>
    match timeline.gate.phase with
    | .scheduled timer =>
      if timer.due ≤ target then
        match timeline.gate.wake timer.ticket with
        | some gate =>
          let begun := { timeline with now := timer.due, isPanicking := false }.startRun gate
          wakeUntil target count begun.settle
        | none => timeline
      else timeline
    | _ => timeline

/-- How many deferred runs can still start: one may be waiting, and every further one needs a
request from a script. -/
def wakeLimit (timeline : Timeline) : Nat :=
  timeline.scripts.flatten.length + 1

/-- Let some time pass. -/
def advance (timeline : Timeline) (duration : Nat) : Timeline :=
  let target := timeline.now + duration
  { timeline.wakeUntil target timeline.wakeLimit with now := target }

/-! ### Steps from outside -/

/-- What can be done with a gate from outside. -/
inductive Step
  | request
  | finish
  | cancel
  | observe
  | delay
  | drop
  | advance (duration : Nat)
deriving DecidableEq

/-- What a step answers. -/
inductive Reply
  | nothing
  | disposed (disposition : Disposition)
  | panicked
  | cancelled (hadPending : Bool)
  | delay (duration : Nat)
deriving DecidableEq

/-- Ask for a run from outside. A panic of the run that this starts reaches the one who asked. -/
def request (timeline : Timeline) : Reply × Timeline :=
  match timeline.gate.request timeline.now with
  | (.started, opened) =>
    let settled := ({ timeline with isPanicking := false }.startRun opened).settle
    (if settled.isPanicking then .panicked else .disposed .started, settled)
  | (disposition, changed) => (.disposed disposition, { timeline with gate := changed })

/-- One step from outside on a gate that was not dropped. -/
def performOpen (timeline : Timeline) : Step → Reply × Timeline
  | .request => timeline.request
  | .finish => (.nothing, { timeline with gate := timeline.gate.close timeline.now })
  | .cancel =>
    (.cancelled timeline.gate.cancel.1, { timeline with gate := timeline.gate.cancel.2 })
  | .observe => (.nothing, timeline)
  | .delay => (.delay timeline.gate.delay, timeline)
  | .drop => (.nothing, { timeline with gate := timeline.gate.cancel.2, isOpen := false })
  | .advance duration => (.nothing, timeline.advance duration)

/-- One step from outside. A gate that was dropped answers nothing, but its clock goes on. -/
def perform (timeline : Timeline) (step : Step) : Reply × Timeline :=
  if timeline.isOpen then timeline.performOpen step
  else
    match step with
    | .advance duration => (.nothing, { timeline with now := timeline.now + duration })
    | _ => (.nothing, timeline)

end Timeline

end CodeNavigator
