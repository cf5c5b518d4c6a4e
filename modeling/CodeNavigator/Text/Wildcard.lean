/-
This file defines the patterns that stand for many texts: a star for any text, a question mark for
any character, and a bracket for one of some characters. A quoted character stands only for itself.
They find files, select cases and cut the ends of values.
-/

import CodeNavigator.Text.CharacterSet

namespace CodeNavigator

/-- One item of a pattern. -/
inductive WildcardItem
  | character (character : Char)
  | anyCharacter
  | anyText
  | oneOf (set : CharacterSet)
deriving DecidableEq

/-- A pattern that stands for many texts. -/
abbrev Wildcard := List WildcardItem

namespace Wildcard

/-- Whether a marked character may have a meaning of its own in a pattern. -/
def isActive (marked : Bool × Char) : Bool :=
  !marked.1 && ['*', '?', '['].contains marked.2

/-- The items of a pattern. A bracket that is never closed stands for itself. -/
def items (negations : List Char) : Nat → MarkedText → Wildcard
  | 0, _ => []
  | limit + 1, text =>
    match text with
    | [] => []
    | (false, '*') :: rest => .anyText :: items negations limit rest
    | (false, '?') :: rest => .anyCharacter :: items negations limit rest
    | (false, '[') :: rest =>
      match CharacterSet.read negations true rest with
      | some (set, after) => .oneOf set :: items negations limit after
      | none => .character '[' :: items negations limit rest
    | (false, '\\') :: (_, character) :: rest =>
      .character character :: items negations limit rest
    | (_, character) :: rest => .character character :: items negations limit rest

/-- The pattern that a text writes. A set of characters is negated by an exclamation mark. -/
def ofMarked (text : MarkedText) : Wildcard :=
  items ['!'] text.length text

/-- The pattern that a text writes in which a caret negates sets as well. -/
def ofMarkedWithCaret (text : MarkedText) : Wildcard :=
  items ['!', '^'] text.length text

/-- The ends of a text, the longest first. -/
def ends : ByteText → List ByteText
  | [] => [[]]
  | character :: rest => (character :: rest) :: ends rest

/-- Whether a pattern stands for a text. -/
def fits : Wildcard → ByteText → Bool
  | [], text => text.isEmpty
  | .anyText :: rest, text => (ends text).any fun after => fits rest after
  | .character expected :: rest, character :: after => expected = character && fits rest after
  | .anyCharacter :: rest, _ :: after => fits rest after
  | .oneOf set :: rest, character :: after => set.admits character && fits rest after
  | _ :: _, [] => false

/-- The lengths of a text and of all its parts, from the shortest or from the longest. -/
def lengths (isLongest : Bool) (text : ByteText) : List Nat :=
  let upward := List.range (text.length + 1)
  if isLongest then upward.reverse else upward

/-- The length of the beginning for which a pattern stands: the shortest one or the longest one. -/
def beginning? (pattern : Wildcard) (isLongest : Bool) (text : ByteText) : Option Nat :=
  (lengths isLongest text).find? fun length => pattern.fits (text.take length)

/-- The length of the end for which a pattern stands: the shortest one or the longest one. -/
def ending? (pattern : Wildcard) (isLongest : Bool) (text : ByteText) : Option Nat :=
  (lengths isLongest text).find? fun length => pattern.fits (text.drop (text.length - length))

/-- Cut off the beginning for which a pattern stands. -/
def cutBeginning (pattern : Wildcard) (isLongest : Bool) (text : ByteText) : ByteText :=
  match pattern.beginning? isLongest text with
  | some length => text.drop length
  | none => text

/-- Cut off the end for which a pattern stands. -/
def cutEnding (pattern : Wildcard) (isLongest : Bool) (text : ByteText) : ByteText :=
  match pattern.ending? isLongest text with
  | some length => text.take (text.length - length)
  | none => text

/-- Put a text in the place of what a pattern stands for, at most so many times. What is empty is
not replaced. -/
def replaceIn (pattern : Wildcard) (word : ByteText) : Nat → ByteText → ByteText
  | _, [] => []
  | 0, text => text
  | limit + 1, character :: rest =>
    match pattern.beginning? true (character :: rest) with
    | some (length + 1) => word ++ replaceIn pattern word limit (rest.drop length)
    | _ => character :: replaceIn pattern word (limit + 1) rest
termination_by _ text => text.length

end Wildcard

end CodeNavigator
