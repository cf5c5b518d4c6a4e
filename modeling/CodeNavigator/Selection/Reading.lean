/-
This file reads the words that say what is asked of files. A word names a test, and some tests take
words of their own. Tests that stand side by side have to hold together; a comma binds least, then
alternatives, then conjunctions. Some words say nothing of files but how they are walked through.
-/

import CodeNavigator.FileTree.ModeChange
import CodeNavigator.Selection.Test
import CodeNavigator.Text.Decimal

namespace CodeNavigator.Selection

/-! ### Faults -/

/-- Why words make no tests. -/
inductive Fault
  | unknown (word : ByteText)
  | argumentMissing (name : ByteText)
  | argumentInvalid (argument name : ByteText)
  | pathBehind (word : ByteText)
  | unknownKind (letter : ByteText)
  | kindsJoined (name : ByteText)
  | noKind (name : ByteText)
  | noCount (name argument : ByteText)
  | unknownUnit (unit : ByteText)
  | invalidMode (text : ByteText)
  | unknownUser (kind : String) (name : ByteText)
  | closingMissing
  | closingUnexpected
  | nothingBefore (name : ByteText)
  | nothingBehind (name : ByteText)
  | emptyParentheses

/-- A text between the marks that words are shown with. -/
def marked (text : ByteText) : ByteText :=
  '\x60' :: text ++ ['\'']

def Fault.message : Fault → ByteText
  | .unknown word => "unknown predicate ".toList ++ marked word
  | .argumentMissing name => "missing argument to ".toList ++ marked name
  | .argumentInvalid argument name =>
    "invalid argument ".toList ++ marked argument ++ " to ".toList ++ marked name
  | .pathBehind word => "paths must precede expression: ".toList ++ marked word
  | .unknownKind letter => "Unknown argument to -type: ".toList ++ letter
  | .kindsJoined name =>
    "Must separate multiple arguments to ".toList ++ name ++ " using: ','".toList
  | .noKind name => "Arguments to ".toList ++ name ++ " should contain at least one letter".toList
  | .noCount name argument =>
    "Expected a positive decimal integer argument to ".toList ++ name ++ ", but got '".toList ++
      argument ++ ['\'']
  | .unknownUnit unit => "invalid -size type ".toList ++ marked unit
  | .invalidMode text => "invalid mode '".toList ++ text ++ ['\'']
  | .unknownUser kind name =>
    '\'' :: name ++ "' is not the name of a".toList ++ kind.toList
  | .closingMissing =>
    "invalid expression; I was expecting to find a ')' somewhere but did not see one.".toList
  | .closingUnexpected => "you have too many ')'".toList
  | .nothingBefore name =>
    "invalid expression; you have used a binary operator '".toList ++ name ++
      "' with nothing before it.".toList
  | .nothingBehind name => "expected an expression after '".toList ++ name ++ ['\'']
  | .emptyParentheses => "invalid expression; empty parentheses are not allowed.".toList

/-! ### Reading -/

/-- Reading words: those that are left, the course so far, and how many commands collect files. -/
structure State where
  words : List ByteText
  course : Course
  collectors : Nat

abbrev Reading := StateT State (Except Fault)

/-- The argument of a test. -/
def argument (name : ByteText) : Reading ByteText := do
  match (← get).words with
  | word :: rest =>
    modify fun state => { state with words := rest }
    pure word
  | [] => throw (.argumentMissing name)

/-- A pattern that is an argument. -/
def patternArgument (name : ByteText) (ignoresCase : Bool) : Reading Wildcard := do
  let text ← argument name
  let kept := if ignoresCase then text.map Char.toLower else text
  pure (Wildcard.ofMarkedWithCaret (kept.map fun character => (false, character)))

/-- A bound behind its sign. -/
def bound? (text : ByteText) : Option Bound :=
  match text with
  | '+' :: digits => (Text.readDigits digits).map (Bound.mk .above)
  | '-' :: digits => (Text.readDigits digits).map (Bound.mk .below)
  | digits => (Text.readDigits digits).map (Bound.mk .equal)

/-- A bound that is an argument. -/
def boundArgument (name : ByteText) : Reading Bound := do
  let text ← argument name
  match bound? text with
  | some bound => pure bound
  | none => throw (.argumentInvalid text name)

/-- A number that is an argument. -/
def countArgument (name : ByteText) : Reading Nat := do
  let text ← argument name
  match Text.readDigits text with
  | some value => pure value
  | none => throw (.noCount name text)

/-- The units of sizes with the letters for them. -/
def units : List (Char × Nat) :=
  [('b', 512), ('c', 1), ('w', 2), ('k', 1024), ('M', 1048576), ('G', 1073741824)]

/-- A bound on a size. -/
def sizeArgument (name : ByteText) : Reading Test := do
  let text ← argument name
  match text.getLast? with
  | none => throw (.argumentInvalid text name)
  | some last =>
    if last.isDigit then
      match bound? text with
      | some bound => pure (.size bound 512)
      | none => throw (.argumentInvalid text name)
    else
      match units.find? fun entry => entry.1 = last with
      | none => throw (.unknownUnit [last])
      | some (_, unit) =>
        match bound? text.dropLast with
        | some bound => pure (.size bound unit)
        | none => throw (.argumentInvalid text name)

/-- The letters for the kinds of files. -/
def kindLetters : List Char :=
  ['b', 'c', 'd', 'p', 'f', 'l', 's', 'D']

/-- Kinds with commas between them. -/
def kindsArgument (name : ByteText) (followsLink : Bool) : Reading Test := do
  let text ← argument name
  if text.isEmpty then throw (.noKind name)
  let letters ← (Text.split ',' text).mapM fun part => do
    match part with
    | [letter] =>
      if kindLetters.contains letter then pure letter else throw (.unknownKind [letter])
    | [] => throw (.unknownKind [])
    | letter :: _ =>
      if kindLetters.contains letter then throw (.kindsJoined name)
      else throw (.unknownKind [letter])
  pure (.kinds letters followsLink)

/-- The bits of a mode. -/
def modeArgument (name : ByteText) : Reading Test := do
  let text ← argument name
  let (check, rest) : ModeCheck × ByteText := match text with
    | '-' :: rest => (.all, rest)
    | '/' :: rest => (.any, rest)
    | other => (.exactly, other)
  match Mode.change? rest 0 false ⟨0⟩ with
  | some mode => pure (.mode check mode.bits)
  | none => throw (.invalidMode text)

/-- The words of a command, up to the one that ends it. A plus sign behind the mark for the file lets
the command take many files at once. -/
def commandWords (name : ByteText) (mayCollect : Bool) :
    Nat → List ByteText → Reading (List ByteText × Bool)
  | 0, _ => throw (.argumentMissing name)
  | limit + 1, before => do
    match (← get).words with
    | [] => throw (.argumentMissing name)
    | word :: rest =>
      modify fun state => { state with words := rest }
      if word = [';'] then
        if before.isEmpty then throw (.argumentInvalid [';'] name)
        else pure (before.reverse, false)
      else if mayCollect && word = ['+'] && before.head? = some "\x7b\x7d".toList then
        pure ((before.drop 1).reverse, true)
      else commandWords name mayCollect limit (word :: before)

/-- A command that is run for files. -/
def commandArgument (name : ByteText) (isInPlace mayCollect : Bool)
    (deed : Order → Deed) : Reading Test := do
  let (words, isCollecting) ← commandWords name mayCollect ((← get).words.length + 1) []
  if isCollecting then
    let index := (← get).collectors
    modify fun state => { state with collectors := index + 1 }
    pure (.deed (.collect index ⟨words, isInPlace⟩))
  else pure (.deed (deed ⟨words, isInPlace⟩))

/-- A user or a group that files may belong to, by name or by number. -/
def ownerArgument (name : ByteText) (kind : String) : Reading Test := do
  let text ← argument name
  let isKnown := (Text.readDigits text).isSome || text = "root".toList || text = "user".toList
  if isKnown then pure (.owner text) else throw (.unknownUser kind text)

/-- Change the course, and ask nothing. -/
def changeCourse (change : Course → Course) : Reading Test := do
  modify fun state => { state with course := change state.course }
  pure (.constant true)

/-- The tests with their names. -/
def readers : List (String × (ByteText → Reading Test)) :=
  [("-name", fun name => return .name (← patternArgument name false) false),
    ("-iname", fun name => return .name (← patternArgument name true) true),
    ("-path", fun name => return .path (← patternArgument name false) false),
    ("-wholename", fun name => return .path (← patternArgument name false) false),
    ("-ipath", fun name => return .path (← patternArgument name true) true),
    ("-iwholename", fun name => return .path (← patternArgument name true) true),
    ("-lname", fun name => return .target (← patternArgument name false) false),
    ("-ilname", fun name => return .target (← patternArgument name true) true),
    ("-type", fun name => kindsArgument name false),
    ("-xtype", fun name => kindsArgument name true),
    ("-empty", fun _ => pure .isEmpty),
    ("-size", sizeArgument),
    ("-links", fun name => return .links (← boundArgument name)),
    ("-mtime", fun name => return .age (← boundArgument name)),
    ("-atime", fun name => return .age (← boundArgument name)),
    ("-ctime", fun name => return .age (← boundArgument name)),
    ("-mmin", fun name => return .age (← boundArgument name)),
    ("-amin", fun name => return .age (← boundArgument name)),
    ("-cmin", fun name => return .age (← boundArgument name)),
    ("-perm", modeArgument),
    ("-readable", fun _ => pure .mayRead),
    ("-writable", fun _ => pure .mayWrite),
    ("-executable", fun _ => pure .mayExecute),
    ("-samefile", fun name => return .sameAs (← argument name)),
    ("-user", fun name => ownerArgument name " known user"),
    ("-group", fun name => ownerArgument name "n existing group"),
    ("-nouser", fun _ => pure (.constant false)),
    ("-nogroup", fun _ => pure (.constant false)),
    ("-true", fun _ => pure (.constant true)),
    ("-false", fun _ => pure (.constant false)),
    ("-print", fun _ => pure (.deed (.print '\n'))),
    ("-print0", fun _ => pure (.deed (.print '\x00'))),
    ("-printf", fun name => return .deed (.format (← argument name))),
    ("-fprint", fun name => return .deed (.printTo (← argument name) '\n')),
    ("-fprint0", fun name => return .deed (.printTo (← argument name) '\x00')),
    ("-fprintf", fun name => do
      let path ← argument name
      return .deed (.formatTo path (← argument name))),
    ("-exec", fun name => commandArgument name false true .run),
    ("-execdir", fun name => commandArgument name true true .run),
    ("-ok", fun name => commandArgument name false false .ask),
    ("-okdir", fun name => commandArgument name true false .ask),
    ("-delete", fun _ => do
      let _ ← changeCourse fun course => { course with isDeepFirst := true }
      pure (.deed .delete)),
    ("-prune", fun _ => pure (.deed .prune)),
    ("-quit", fun _ => pure (.deed .quit)),
    ("-depth", fun _ => changeCourse fun course => { course with isDeepFirst := true }),
    ("-d", fun _ => changeCourse fun course => { course with isDeepFirst := true }),
    ("-maxdepth", fun name => do
      let most ← countArgument name
      changeCourse fun course => { course with most := some most }),
    ("-mindepth", fun name => do
      let least ← countArgument name
      changeCourse fun course => { course with least := least }),
    ("-follow", fun _ => changeCourse fun course =>
      { course with followsNamed := true, followsAll := true }),
    ("-mount", fun _ => changeCourse id), ("-xdev", fun _ => changeCourse id),
    ("-noleaf", fun _ => changeCourse id), ("-daystart", fun _ => changeCourse id),
    ("-warn", fun _ => changeCourse id), ("-nowarn", fun _ => changeCourse id),
    ("-ignore_readdir_race", fun _ => changeCourse id),
    ("-noignore_readdir_race", fun _ => changeCourse id)]

/-! ### Joined tests -/

/-- The words that join tests. -/
def isJoint (word : ByteText) : Bool :=
  ["-o", "-or", "-a", "-and", ",", ")"].any fun joint => joint.toList = word

/-- The parts of what is asked, from those that reach furthest. -/
inductive Rank
  | sequence
  | alternative
  | conjunction
  | primary

/-- Whether the next word is one of some. It is left out then. -/
def accept (names : List String) : Reading (Option ByteText) := do
  match (← get).words with
  | word :: rest =>
    if names.any fun name => name.toList = word then
      modify fun state => { state with words := rest }
      pure (some word)
    else pure none
  | [] => pure none

section

variable (part : Rank → Reading Test)

/-- Read a test behind a word that asks for one. -/
def readBehind (name : ByteText) (rank : Rank) : Reading Test := do
  match (← get).words with
  | [] => throw (.nothingBehind name)
  | word :: _ => if isJoint word then throw (.nothingBehind name) else part rank

/-- Read one test. -/
def readPrimary : Reading Test := do
  match (← get).words with
  | [] => throw .closingMissing
  | word :: rest =>
    modify fun state => { state with words := rest }
    if word = ['('] then
      match rest with
      | [] => throw .closingMissing
      | [')'] :: _ => throw .emptyParentheses
      | _ =>
        let inside ← part .sequence
        match ← accept [")"] with
        | some _ => pure inside
        | none => throw .closingMissing
    else if word = ['!'] || word = "-not".toList then
      .negation <$> readBehind part word .primary
    else if isJoint word then
      if word = [')'] then throw .closingUnexpected else throw (.nothingBefore word)
    else
      match readers.find? fun entry => entry.1.toList = word with
      | some (_, read) => read word
      | none => if word.head? = some '-' then throw (.unknown word) else throw (.pathBehind word)

/-- Read tests that have to hold together, as many as there may be. -/
def readConjunction : Nat → Test → Reading Test
  | 0, before => pure before
  | limit + 1, before => do
    match ← accept ["-a", "-and"] with
    | some name =>
      let next ← readBehind part name .primary
      readConjunction limit (.both before next)
    | none =>
      match (← get).words with
      | [] => pure before
      | word :: _ =>
        if isJoint word then pure before
        else
          let next ← part .primary
          readConjunction limit (.both before next)

/-- Read alternatives, as many as there may be. -/
def readAlternatives : Nat → Test → Reading Test
  | 0, before => pure before
  | limit + 1, before => do
    match ← accept ["-o", "-or"] with
    | some name =>
      let next ← readBehind part name .conjunction
      readAlternatives limit (.either before next)
    | none => pure before

/-- Read tests of which only the last one counts, as many as there may be. -/
def readSequence : Nat → Test → Reading Test
  | 0, before => pure before
  | limit + 1, before => do
    match ← accept [","] with
    | some name =>
      let next ← readBehind part name .alternative
      readSequence limit (.sequence before next)
    | none => pure before

end

/-- Read a part that stands at most so deep inside of others. -/
def readPart : Nat → Rank → Reading Test
  | 0, _ => throw .closingMissing
  | depth + 1, rank => do
    let inner := readPart depth
    let limit := (← get).words.length + 1
    match rank with
    | .primary => readPrimary inner
    | .conjunction =>
      let first ← inner .primary
      readConjunction inner limit first
    | .alternative =>
      let first ← inner .conjunction
      readAlternatives inner limit first
    | .sequence =>
      let first ← inner .alternative
      readSequence inner limit first

/-- What some words ask. Where they ask for nothing to be done, the path is written. -/
def readTest : Reading Test := do
  let words := (← get).words
  let asked ← if words.isEmpty then pure (Test.constant true)
    else readPart (4 * words.length + 5) .sequence
  match (← get).words with
  | [] =>
    if asked.does Deed.replacesWriting then pure asked
    else pure (.both asked (.deed (.print '\n')))
  | [')'] :: _ => throw .closingUnexpected
  | word :: _ => throw (.pathBehind word)

end CodeNavigator.Selection
