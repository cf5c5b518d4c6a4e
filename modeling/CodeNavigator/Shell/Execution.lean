/-
This file runs scripts. Every kind of command has its step, which runs the parts of the command
through the interpreter that it is given. Scripts run in the interpreter that goes one level less
deep, so a script that is nested too deep, or whose functions call each other without end, comes to
an end of its own.
-/

import CodeNavigator.Shell.Clause
import CodeNavigator.Shell.Command

namespace CodeNavigator.Shell

/-! ### Rounds -/

/-- How many rounds a loop may take. -/
def roundLimit : Nat := 1000000

/-- The time that a round of a loop takes, in microseconds. -/
def roundDuration : Nat := 20

/-- Run one round of a loop, and tell whether the loop goes on. -/
def runRound (body : Action Bool) : Action Bool :=
  tryCatch body fun
    | .breaking levels => if levels ≤ 1 then pure false else throw (.breaking (levels - 1))
    | .continuing levels => if levels ≤ 1 then pure true else throw (.continuing (levels - 1))
    | leaving => throw leaving

/-- Do something as the inside of a loop. -/
def insideLoop (body : Action Unit) : Action Unit :=
  afterwards (fun before after => { after with loopDepth := before.loopDepth }) do
    modify fun session => { session with loopDepth := session.loopDepth + 1 }
    body

section

variable (interpreter : Interpreter)

/-! ### Loops -/

/-- Run rounds until one tells that the loop is over. Each is given the status of the last one. -/
def runRounds (round : Nat → Action Bool) : Nat → Nat → Action Unit
  | 0, _ => ofJob Job.waitForever
  | limit + 1, last => do
    meetSignals interpreter
    pass roundDuration
    if ← runRound (round last) then runRounds round limit (← get).status

/-- Run a script again and again while a condition holds, or until it does. The status is that of the
last round. -/
def runLoop (isUntil : Bool) (condition body : Script) : Action Unit :=
  insideLoop (runRounds interpreter (fun last => do
    tested (interpreter.evaluate condition)
    if ((← get).status = 0) = isUntil then
      setStatus last
      pure false
    else
      interpreter.evaluate body
      pure true) roundLimit 0)

/-- Run a script for each of some values of a variable. -/
def runEach (name : ByteText) (body : Script) : List ByteText → Action Unit
  | [] => pure ()
  | value :: rest => do
    meetSignals interpreter
    pass roundDuration
    assign name value
    let goesOn ← runRound do
      interpreter.evaluate body
      pure true
    if goesOn then runEach name body rest

/-- The value of an expression in a script. An empty one has the given value. -/
def computeWord (empty : Int) (expression : Word) : Action Int := do
  let text ← expandText (capture interpreter) expression
  if text.all ByteText.isSpace then pure empty else compute text

/-- Run a script while an expression is not zero, with another expression computed in between. -/
def runCount (start condition step : Word) (body : Script) : Action Unit := do
  let _ ← computeWord interpreter 0 start
  insideLoop (runRounds interpreter (fun last => do
    if (← computeWord interpreter 1 condition) = 0 then
      setStatus last
      pure false
    else
      let goesOn ← runRound do
        interpreter.evaluate body
        pure true
      let status := (← get).status
      if goesOn then
        let _ ← computeWord interpreter 0 step
        setStatus status
      pure goesOn) roundLimit 0)

/-! ### Selections -/

/-- Whether a text fits one of some patterns. -/
def fitsAny (text : ByteText) : List Word → Action Bool
  | [] => pure false
  | pattern :: rest => do
    let wildcard ← expandPattern (capture interpreter) pattern
    if wildcard.fits text then pure true else fitsAny text rest

/-- Run the first case one of whose patterns a text fits, and those that it falls through to. -/
def runCases (text : ByteText) : Bool → List (List Word × Script × Bool) → Action Unit
  | _, [] => pure ()
  | isTaken, (patterns, body, fallsThrough) :: rest => do
    let isChosen ← if isTaken then pure true else fitsAny interpreter text patterns
    if isChosen then
      interpreter.evaluate body
      if fallsThrough then runCases text true rest
    else runCases text false rest

/-! ### Processes -/

/-- The time at which the machine is. -/
def clock : Action Nat := do
  pure (← get).process.machine.clock

/-- Put the machine at a time. -/
def setClock (time : Nat) : Action Unit :=
  ofJob (Job.changeMachine fun machine => { machine with clock := time })

/-- Run the parts of a pipeline, each of them from the same time on, and tell how they end and when
the last one does. -/
def runParts (start : Nat) : Option Nat → List Script → Action (List Ending × Nat)
  | _, [] => pure ([], start)
  | input, part :: rest => do
    setClock start
    let isLast := rest.isEmpty
    let pipe ← if isLast then pure none else some <$> ofJob Job.makePipe
    let (_, ending) ← asChild interpreter do
      match input with
      | some index => attach 0 index
      | none => pure ()
      match pipe with
      | some (_, sink) => attach 1 sink
      | none => pure ()
      interpreter.evaluate part
    let finish ← clock
    let (endings, latest) ← runParts start (pipe.map Prod.fst) rest
    pure (ending :: endings, max finish latest)

/-- The status of a pipeline: that of its last part, or of the last that failed if any failure
counts. -/
def pipelineStatus (countsAll : Bool) (statuses : List Nat) : Nat :=
  if countsAll then ((statuses.filter (· ≠ 0)).getLast?).getD 0 else (statuses.getLast?).getD 0

/-- Run a pipeline. -/
def runPipeline (parts : List Script) : Action Unit := do
  let _ ← takeSlot
  let (endings, latest) ← runParts interpreter (← clock) none parts
  setClock latest
  noticeEnd
  for ending in endings do
    reportEnding ending
  let statuses := endings.map Ending.status
  modify fun session => { session with
    partStatuses := statuses
    status := pipelineStatus (session.hasOption Builtin.pipefailLetter) statuses }
  meetSignals interpreter
  checkStatus

/-- Run a script in the background. It has no input of its own. -/
def runInBackground (body : Script) : Action Unit := do
  let slot ← takeSlot
  let start ← clock
  pass forkDuration
  let (number, ending) ← asChild interpreter do
    match ← ofJob (Job.openPath "/dev/null".toList .reading) with
    | .ok index => attach 0 index
    | .error _ => ofJob (Job.detach 0)
    interpreter.evaluate body
  let finish ← clock
  setClock start
  modify fun session => { session with
    children := ⟨number, session.process.machine.lastNumber, slot, body.partCount, ending, finish,
      false, false⟩ :: session.children
    lastChild := some number
    status := 0 }

/-- Run a script with its descriptors led elsewhere. -/
def runRedirected (body : Script) (redirections : List Redirection) : Action Unit := do
  if ← redirect interpreter redirections then interpreter.evaluate body

/-! ### Conditions -/

/-- Decide a condition in double brackets. -/
def runCondition (words : List Word) : Action Unit := do
  match Clause.ofWords? words with
  | none =>
    complain 2 "syntax error in conditional expression".toList
  | some clause =>
    let decision : Action Unit := do
      let isMet ← clause.holds interpreter
      setStatus (if isMet then 0 else 1)
    tryCatch decision fun
      | .failing => do setStatus (max 1 (← get).status)
      | leaving => throw leaving
  checkStatus

/-- Compute an expression. The status tells whether it is not zero. -/
def runComputation (expression : Word) : Action Unit := do
  let computation : Action Unit := do
    let value ← compute (← expandText (capture interpreter) expression)
    setStatus (if value = 0 then 1 else 0)
  withTitle (some "((".toList) (tryCatch computation fun
    | .failing => setStatus 1
    | leaving => throw leaving)
  checkStatus

/-! ### Scripts -/

/-- Run the first level of a script. -/
def runLevel : Script → Action Unit
  | .nothing => pure ()
  | .simple line assignments words redirections =>
    runSimple interpreter line assignments words redirections
  | .pipeline parts => runPipeline interpreter parts
  | .background line body => do
    modify fun session => { session with line := line }
    runInBackground interpreter body
  | .negation body => do
    tested (interpreter.evaluate body)
    modify fun session => { session with status := if session.status = 0 then 1 else 0 }
  | .conjunction first second => do
    tested (interpreter.evaluate first)
    if (← get).status = 0 then interpreter.evaluate second
  | .disjunction first second => do
    tested (interpreter.evaluate first)
    if (← get).status ≠ 0 then interpreter.evaluate second
  | .sequence first second => do
    interpreter.evaluate first
    interpreter.evaluate second
  | .redirected line body redirections => do
    modify fun session => { session with line := line }
    withDescriptors (runRedirected interpreter body redirections)
    checkStatus
  | .subshell line body redirections => do
    modify fun session => { session with line := line }
    waitFor interpreter (runRedirected interpreter body redirections)
    meetSignals interpreter
    checkStatus
  | .branch condition consequence alternative => do
    tested (interpreter.evaluate condition)
    if (← get).status = 0 then interpreter.evaluate consequence
    else
      match alternative with
      | .nothing => setStatus 0
      | other => interpreter.evaluate other
  | .loop isUntil condition body => runLoop interpreter isUntil condition body
  | .each line name words body => do
    modify fun session => { session with line := line }
    let found ← words.mapM (expandWord interpreter)
    setStatus 0
    insideLoop (runEach interpreter name body found.flatten)
  | .count line start condition step body => do
    modify fun session => { session with line := line }
    setStatus 0
    runCount interpreter start condition step body
  | .select line word cases => do
    modify fun session => { session with line := line }
    let text ← expandText (capture interpreter) word
    setStatus 0
    runCases interpreter text false cases
  | .define _ name body =>
    modify fun session => { session with
      functions := (name, body) :: session.functions.filter fun entry => entry.1 ≠ name
      status := 0 }
  | .condition line words => do
    modify fun session => { session with line := line }
    runCondition interpreter words
  | .computation line expression => do
    modify fun session => { session with line := line }
    runComputation interpreter expression

/-- Run the first level of a script, unless scripts are only read. -/
def runStep (script : Script) : Action Unit := do
  if !(← get).hasOption 'n' then runLevel interpreter script

end

/-- Run a script that goes at most so deep. -/
def runWithin (start : Start) : Nat → Script → Action Unit
  | 0 => fun _ => exhaust
  | depth + 1 => runStep ⟨start, runWithin start depth⟩

/-- How deep scripts may go. -/
def scriptDepth : Nat := 4000

/-- The interpreter that starts programs in some way. -/
def Interpreter.ofStart (start : Start) : Interpreter :=
  ⟨start, runWithin start scriptDepth⟩

end CodeNavigator.Shell
