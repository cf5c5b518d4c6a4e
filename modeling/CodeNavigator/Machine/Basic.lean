/-
This file defines what running programs share and what each of them has for itself. A machine holds
the file tree, the files that are open, the pipes and the signals on their way. A process holds its
number, its directory, its descriptors and its environment. A job is what a process does: it changes
the state and may end early. A process that is started by another one runs to its end before the
other goes on, so what it wrote into a pipe is there when the pipe is read.
-/

import CodeNavigator.FileTree.Writing
import CodeNavigator.Text.Bytes

namespace CodeNavigator

/-! ### Machines -/

/-- What an open file leads to. -/
inductive Medium
  | file (place : FileTree.Place)
  | directory (place : FileTree.Place)
  | pipe (index : Nat)
  | device (device : Device)

/-- An open file with the position at which it is read or written next. -/
structure OpenFile where
  medium : Medium
  position : Nat
  mayRead : Bool
  mayWrite : Bool
  isAppending : Bool

/-- A part of what was written into a pipe: when it was written, by which process, and the text. -/
structure Portion where
  time : Nat
  writer : Nat
  text : ByteText

/-- A pipe: what can be read already, and behind it what was written since, the latest first. The
size counts all that has not been read. -/
structure Pipe where
  unread : ByteText
  written : List Portion
  size : Nat

/-- All that was put into a pipe and not taken out, in order of time. -/
def Pipe.content (pipe : Pipe) : ByteText :=
  let parts := pipe.written.reverse.mergeSort fun left right => left.time ≤ right.time
  pipe.unread ++ parts.flatMap Portion.text

/-- The time at which the last part was written into a pipe, if it is later than another time. -/
def Pipe.lastTime (pipe : Pipe) (time : Nat) : Nat :=
  pipe.written.foldl (fun latest part => max latest part.time) time

/-- A signal that was sent to a process at a time. -/
structure Sending where
  target : Nat
  signal : Nat
  time : Nat

/-- What all processes share. The signals are those that have not reached their processes yet. -/
structure Machine where
  tree : FileTree
  files : Array OpenFile
  pipes : Array Pipe
  lastNumber : Nat
  signals : List Sending
  clock : Nat

/-! ### Processes -/

/-- What a process has for itself. Its alarms are the times at which signals will reach it. -/
structure Process where
  machine : Machine
  number : Nat
  parent : Nat
  place : FileTree.Place
  descriptors : List (Nat × Nat)
  environment : List (ByteText × ByteText)
  mask : Nat
  ignored : List Nat
  alarms : List (Nat × Nat)

/-- How a process ends: by itself, by a signal, or because it went on for too long to be followed. -/
inductive Ending
  | exited (status : Nat)
  | killed (signal : Nat)
  | exhausted

/-- What a process does. -/
abbrev Job := ExceptT Ending (StateM Process)

/-- The status by which a shell knows an ending. -/
def Ending.status : Ending → Nat
  | .exited status => status
  | .killed signal => 128 + signal
  | .exhausted => 255

namespace Job

/-- Change what all processes share. -/
def changeMachine (change : Machine → Machine) : Job Unit :=
  modify fun process => { process with machine := change process.machine }

/-- Put another tree in place of the old one. -/
def setTree (tree : FileTree) : Job Unit :=
  changeMachine fun machine => { machine with tree := tree }

/-- Change the tree, or tell why that cannot be done. -/
def changeTree (change : FileTree → FileTree.Place → Except SystemError FileTree) :
    Job (Except SystemError Unit) := do
  let process ← get
  match change process.machine.tree process.place with
  | .ok tree =>
    setTree tree
    pure (.ok ())
  | .error error => pure (.error error)

/-- The first alarm of a process up to a time whose signal it does not ignore. -/
def firstAlarm? (process : Process) (time : Nat) : Option (Nat × Nat) :=
  let heeded := process.alarms.filter fun alarm =>
    alarm.1 ≤ time && !process.ignored.contains alarm.2
  (heeded.mergeSort fun left right => left.1 ≤ right.1).head?

/-- Let time pass, up to the alarm that ends the process. -/
def wait (duration : Nat) : Job Unit := do
  let process ← get
  let finish := process.machine.clock + duration
  let moveTo (time : Nat) : Job Unit :=
    changeMachine fun machine => { machine with clock := max machine.clock time }
  match firstAlarm? process finish with
  | some (time, signal) =>
    moveTo time
    throw (.killed signal)
  | none => moveTo finish

/-- How long something is followed that comes to no end, in microseconds. -/
def patience : Nat := 1000000000000

/-- Go on without end. Only an alarm ends the process. -/
def waitForever {α : Type} : Job α := do
  wait patience
  throw .exhausted

/-- Do something as a new process, and tell its number and how it ended. -/
def fork (body : Job Nat) : Job (Nat × Ending) := do
  let process ← get
  let number := process.machine.lastNumber + 1
  let machine := { process.machine with lastNumber := number }
  let (result, after) := body.run
    { process with machine := machine, number := number, parent := process.number }
  set { process with machine := after.machine }
  match result with
  | .ok status => pure (number, .exited (status % 256))
  | .error .exhausted => throw .exhausted
  | .error ending => pure (number, ending)

/-! ### Descriptors -/

/-- The open file that a descriptor stands for, with its index. -/
def openFile? (descriptor : Nat) : Job (Option (Nat × OpenFile)) := do
  let process ← get
  pure do
    let (_, index) ← process.descriptors.find? fun entry => entry.1 = descriptor
    let file ← process.machine.files[index]?
    some (index, file)

/-- Let a descriptor stand for an open file. -/
def attach (descriptor index : Nat) : Job Unit :=
  modify fun process =>
    { process with
      descriptors := (descriptor, index) ::
        process.descriptors.filter fun entry => entry.1 ≠ descriptor }

/-- Let a descriptor stand for nothing. -/
def detach (descriptor : Nat) : Job Unit :=
  modify fun process =>
    { process with descriptors := process.descriptors.filter fun entry => entry.1 ≠ descriptor }

/-- Have a file open, and tell its index. -/
def addFile (file : OpenFile) : Job Nat := do
  let process ← get
  changeMachine fun machine => { machine with files := machine.files.push file }
  pure process.machine.files.size

/-- Move an open file on. -/
def setPosition (index position : Nat) : Job Unit :=
  changeMachine fun machine =>
    { machine with
      files := machine.files.modify index fun file => { file with position := position } }

/-- Make a pipe, and tell the indices of its two ends, the one to read from first. -/
def makePipe : Job (Nat × Nat) := do
  let index := (← get).machine.pipes.size
  changeMachine fun machine => { machine with pipes := machine.pipes.push ⟨[], [], 0⟩ }
  let source ← addFile ⟨.pipe index, 0, true, false, false⟩
  let sink ← addFile ⟨.pipe index, 0, false, true, false⟩
  pure (source, sink)

/-! ### Opening -/

/-- What a file is opened for. -/
inductive Purpose
  | reading
  | writing
  | replacing (keepsFiles : Bool)
  | appending
  | both
deriving DecidableEq

/-- Open what a place holds. -/
def openPlace (place : FileTree.Place) (purpose : Purpose) : Job (Except SystemError Nat) := do
  let mayRead := purpose = .reading || purpose = .both
  let mayWrite := purpose ≠ .reading
  let opened (medium : Medium) : Job (Except SystemError Nat) := do
    pure (.ok (← addFile ⟨medium, 0, mayRead, mayWrite, purpose = .appending⟩))
  match (← get).machine.tree.look place with
  | some (.device (.descriptor number)) =>
    match ← openFile? number with
    | some (index, _) => pure (.ok index)
    | none => pure (.error .noSuchFile)
  | some (.device device) => opened (.device device)
  | some (.directory _ _) => if mayWrite then pure (.error .isDirectory) else opened (.directory place)
  | some (.file mode _) =>
    if mayRead && !mode.mayRead then pure (.error .permissionDenied) else opened (.file place)
  | _ => pure (.error .noSuchFile)

/-- Open the file that a path leads to, and tell the index of the open file. -/
def openPath (path : ByteText) (purpose : Purpose) : Job (Except SystemError Nat) := do
  let process ← get
  let tree := process.machine.tree
  let asked : Path := ⟨ByteText.asString path⟩
  if purpose = .reading then
    match tree.locate process.place asked with
    | .ok place => openPlace place purpose
    | .error error => pure (.error error)
  else
    let isFile := match tree.resolve process.place asked with
      | .ok (.file _ _) => true
      | _ => false
    if purpose = .replacing true && isFile then pure (.error .fileExists)
    else
      match tree.openFile process.place asked ⟨0o666 &&& (0o777 ^^^ process.mask)⟩ with
      | .error error => pure (.error error)
      | .ok (opened, place) =>
        let isReplacing := match purpose with
          | .replacing _ => true
          | _ => false
        setTree (if isReplacing then opened.changeContent place fun _ => [] else opened)
        openPlace place purpose

/-! ### Reading -/

/-- How much there is of what has no end. -/
def endless : Nat := 1048576

/-- What can still be read from an open file. -/
def remaining (file : OpenFile) : Job (Except SystemError ByteText) := do
  let machine := (← get).machine
  if !file.mayRead then pure (.error .badDescriptor)
  else
    match file.medium with
    | .file place =>
      match machine.tree.look place with
      | some (.file _ content) => pure (.ok (ByteText.ofBytes (content.drop file.position)))
      | _ => pure (.ok [])
    | .directory _ => pure (.error .isDirectory)
    | .pipe index => pure (.ok ((machine.pipes[index]?.map Pipe.content).getD []))
    | .device .zero | .device .full => pure (.ok (List.replicate endless '\x00'))
    | .device _ => pure (.ok [])

/-- Take so much out of an open file of which the given text remains. What is in a pipe was there to
wait for. -/
def consume (index : Nat) (file : OpenFile) (text : ByteText) (count : Nat) : Job Unit :=
  match file.medium with
  | .file _ => setPosition index (file.position + count)
  | .pipe pipe =>
    changeMachine fun machine =>
      { machine with
        clock := match machine.pipes[pipe]? with
          | some pipe => pipe.lastTime machine.clock
          | none => machine.clock
        pipes := machine.pipes.modify pipe fun _ => ⟨text.drop count, [], text.length - count⟩ }
  | _ => pure ()

/-- Read from a descriptor as much of what is left as a function asks for. -/
def readPart (descriptor : Nat) (measure : ByteText → Nat) : Job (Except SystemError ByteText) := do
  match ← openFile? descriptor with
  | none => pure (.error .badDescriptor)
  | some (index, file) =>
    match ← remaining file with
    | .error error => pure (.error error)
    | .ok text =>
      let count := measure text
      consume index file text count
      pure (.ok (text.take count))

/-- Read all that is left. -/
def readAll (descriptor : Nat) : Job (Except SystemError ByteText) :=
  readPart descriptor List.length

/-- Read all that a path leads to. -/
def readPath (path : ByteText) : Job (Except SystemError ByteText) := do
  match ← openPath path .reading with
  | .error error => pure (.error error)
  | .ok index =>
    match (← get).machine.files[index]? with
    | none => pure (.error .badDescriptor)
    | some file =>
      match ← remaining file with
      | .error error => pure (.error error)
      | .ok text =>
        consume index file text text.length
        pure (.ok text)

/-! ### Writing -/

/-- How much a pipe takes before its reader is said to have gone away. -/
def pipeLimit : Nat := 4194304

/-- Bytes with others put over them from some position on. -/
def overwrite (position : Nat) (text old : List UInt8) : List UInt8 :=
  let before := old.take position
  before ++ List.replicate (position - before.length) 0 ++ text ++ old.drop (position + text.length)

/-- The number of the signal that ends a process whose reader has gone away. -/
def brokenPipeSignal : Nat := 13

/-- Write to an open file. -/
def writeTo (index : Nat) (file : OpenFile) (text : ByteText) : Job (Except SystemError Unit) := do
  if !file.mayWrite then pure (.error .badDescriptor)
  else
    match file.medium with
    | .file place =>
      let tree := (← get).machine.tree
      let length := match tree.look place with
        | some (.file _ content) => content.length
        | _ => 0
      let position := if file.isAppending then length else file.position
      setTree (tree.changeContent place (overwrite position (ByteText.toBytes text)))
      setPosition index (position + text.length)
      pure (.ok ())
    | .pipe pipe =>
      let process ← get
      let size := (process.machine.pipes[pipe]?.map Pipe.size).getD 0
      if pipeLimit < size then throw (.killed brokenPipeSignal)
      else
        changeMachine fun machine => { machine with
          pipes := machine.pipes.modify pipe fun pipe =>
            { pipe with
              written := ⟨machine.clock, process.number, text⟩ :: pipe.written
              size := pipe.size + text.length } }
        pure (.ok ())
    | .device .full => pure (.error .noSpace)
    | .device _ => pure (.ok ())
    | .directory _ => pure (.error .badDescriptor)

/-- Write to a descriptor. -/
def write (descriptor : Nat) (text : ByteText) : Job (Except SystemError Unit) := do
  match ← openFile? descriptor with
  | none => pure (.error .badDescriptor)
  | some (index, file) => if text.isEmpty then pure (.ok ()) else writeTo index file text

/-- Write to a descriptor, whatever comes of it. -/
def put (descriptor : Nat) (text : ByteText) : Job Unit := do
  let _ ← write descriptor text

end Job

end CodeNavigator
