/-
This file defines what is asked of each file when a file tree is walked through. A test is true of a
file or false, and some tests do something with the file on the way. Tests are joined as conditions
are, so what follows a test matters only if the one before it leaves the answer open.
-/

import CodeNavigator.Text.Wildcard

namespace CodeNavigator.Selection

/-- How a number has to be to another one. -/
inductive Comparison
  | below
  | equal
  | above

/-- A bound on a number. -/
structure Bound where
  comparison : Comparison
  value : Nat

/-- Whether a number keeps a bound. -/
def Bound.holds (bound : Bound) (number : Nat) : Bool :=
  match bound.comparison with
  | .below => number < bound.value
  | .equal => number = bound.value
  | .above => bound.value < number

/-- Which of the bits of a mode have to be set: exactly those, all of them, or any. -/
inductive ModeCheck
  | exactly
  | all
  | any

/-- A command that is run for files: its words, in which a mark stands for the file, and whether it is
run where the file stands. -/
structure Order where
  words : List ByteText
  isInPlace : Bool

/-- Something that is done with a file. -/
inductive Deed
  | print (lineEnd : Char)
  | printTo (path : ByteText) (lineEnd : Char)
  | format (template : ByteText)
  | formatTo (path template : ByteText)
  | run (order : Order)
  | collect (index : Nat) (order : Order)
  | ask (order : Order)
  | delete
  | prune
  | quit

/-- What is asked of a file. -/
inductive Test
  | constant (value : Bool)
  | name (pattern : Wildcard) (ignoresCase : Bool)
  | path (pattern : Wildcard) (ignoresCase : Bool)
  | target (pattern : Wildcard) (ignoresCase : Bool)
  | kinds (letters : List Char) (followsLink : Bool)
  | isEmpty
  | size (bound : Bound) (unit : Nat)
  | age (bound : Bound)
  | links (bound : Bound)
  | mode (check : ModeCheck) (bits : Nat)
  | mayRead
  | mayWrite
  | mayExecute
  | sameAs (path : ByteText)
  | owner (name : ByteText)
  | deed (action : Deed)
  | negation (test : Test)
  | both (first second : Test)
  | either (first second : Test)
  | sequence (first second : Test)

/-- Whether a deed takes the place of writing the path. -/
def Deed.replacesWriting : Deed → Bool
  | .prune | .quit => false
  | _ => true

/-- Whether some deed is part of a test. -/
def Test.does (isMeant : Deed → Bool) : Test → Bool
  | .deed action => isMeant action
  | .negation test => test.does isMeant
  | .both first second | .either first second | .sequence first second =>
    first.does isMeant || second.does isMeant
  | _ => false

/-- How a tree is walked through: whether links are followed, those that are named and all others,
whether directories come behind what is in them, and between which depths tests are asked. -/
structure Course where
  followsNamed : Bool
  followsAll : Bool
  isDeepFirst : Bool
  least : Nat
  most : Option Nat

end CodeNavigator.Selection
