/-
This file leads the descriptors of a shell elsewhere. The targets of all redirections are expanded
before the first one takes effect, and the first one that fails keeps the others from it.
-/

import CodeNavigator.Shell.Interpreter

namespace CodeNavigator.Shell

/-- A redirection whose target is known. -/
inductive Led
  | toFile (descriptor : Nat) (purpose : Job.Purpose) (path : ByteText)
  | toCopy (descriptor : Nat) (source : ByteText)
  | toText (descriptor : Nat) (text : ByteText)

/-- The text of a here-document. -/
def documentText (interpreter : Interpreter) (index : Nat) : Action ByteText := do
  let pieces := ((← get).documents[index]?).getD []
  pure (textOf (← get).joint (← expand (capture interpreter) pieces))

/-- Expand the target of a redirection. -/
def expandTarget (interpreter : Interpreter) (redirection : Redirection) : Action Led := do
  match redirection with
  | .file descriptor purpose target =>
    if (← get).hasExtras then
      match ← expandFields (capture interpreter) target with
      | [path] => pure (.toFile descriptor purpose path)
      | _ =>
        let text ← expandText (capture interpreter) target
        fail (remark text "ambiguous redirect")
    else .toFile descriptor purpose <$> expandText (capture interpreter) target
  | .copy descriptor source => .toCopy descriptor <$> expandText (capture interpreter) source
  | .document descriptor index => .toText descriptor <$> documentText interpreter index
  | .line descriptor word => do
    let text ← expandText (capture interpreter) word
    pure (.toText descriptor (text ++ ['\n']))

/-- Why a file could not be opened, in the words of the shell. -/
def openingFailure (hasExtras : Bool) (purpose : Job.Purpose) (path : ByteText)
    (error : SystemError) : ByteText :=
  if hasExtras then
    remark path (if error = .fileExists then "cannot overwrite existing file" else error.description)
  else if purpose = .reading then
    "cannot open ".toList ++
      remark path (if error = .noSuchFile then "No such file" else error.description)
  else
    "cannot create ".toList ++
      remark path (if error = .noSuchFile then "Directory nonexistent" else error.description)

/-- Let one descriptor stand for what another one stands for, or for nothing. -/
def leadToCopy (descriptor : Nat) (source : ByteText) : Action Bool := do
  let session ← get
  if source = ['-'] then
    ofJob (Job.detach descriptor)
    pure true
  else
    match Text.readDigits source with
    | some number =>
      match ← ofJob (Job.openFile? number) with
      | some (index, _) =>
        attach descriptor index
        pure true
      | none =>
        complain session.failureStatus (remark source SystemError.badDescriptor.description)
        pure false
    | none =>
      if session.hasExtras then fail (remark source "ambiguous redirect")
      else fail "Syntax error: Bad fd number".toList

/-- Lead a descriptor where a redirection says, and tell whether that went well. -/
def lead (target : Led) : Action Bool := do
  let session ← get
  match target with
  | .toFile descriptor purpose path =>
    let wanted : Job.Purpose := match purpose with
      | .replacing keepsFiles => .replacing (keepsFiles && session.hasOption 'C')
      | other => other
    match ← ofJob (Job.openPath path wanted) with
    | .ok index =>
      attach descriptor index
      pure true
    | .error error =>
      complain session.failureStatus (openingFailure session.hasExtras purpose path error)
      pure false
  | .toCopy descriptor source => leadToCopy descriptor source
  | .toText descriptor text =>
    let (source, sink) ← ofJob Job.makePipe
    let file := (← get).process.machine.files[sink]?
    match file with
    | some opened =>
      let _ ← ofJob (Job.writeTo sink opened text)
    | none => pure ()
    attach descriptor source
    pure true

/-- Lead descriptors elsewhere, one after the other, up to the first that fails. -/
def leadAll : List Led → Action Bool
  | [] => pure true
  | target :: rest => do
    if ← lead target then leadAll rest else pure false

/-- Lead descriptors where some redirections say, and tell whether that went well. -/
def redirect (interpreter : Interpreter) (redirections : List Redirection) : Action Bool := do
  let targets ← redirections.mapM (expandTarget interpreter)
  leadAll targets

end CodeNavigator.Shell
