/-
This file reads sets of characters that are written between brackets. A set has single characters,
ranges and named classes, and may mean all the characters that are not in it. A character that is
quoted stands only for itself, so texts come with a mark at every character.
-/

import CodeNavigator.Text.Bytes

namespace CodeNavigator

/-- A text in which quoted characters are marked. -/
abbrev MarkedText := List (Bool × Char)

namespace MarkedText

/-- A text in which nothing is quoted. -/
def plain (text : ByteText) : MarkedText :=
  text.map fun character => (false, character)

/-- A text in which everything is quoted. -/
def quoted (text : ByteText) : MarkedText :=
  text.map fun character => (true, character)

/-- The text without its marks. -/
def bare (text : MarkedText) : ByteText :=
  text.map Prod.snd

end MarkedText

/-- Some characters, given by ranges, or all the others. -/
structure CharacterSet where
  isNegated : Bool
  ranges : List (Char × Char)
deriving DecidableEq

namespace CharacterSet

def admits (set : CharacterSet) (character : Char) : Bool :=
  (set.ranges.any fun (low, high) => low ≤ character && character ≤ high) != set.isNegated

/-! ### Named classes -/

/-- The characters of a class that has a name. -/
def named : List (String × List (Char × Char)) :=
  [("alpha", [('a', 'z'), ('A', 'Z')]), ("digit", [('0', '9')]),
    ("alnum", [('a', 'z'), ('A', 'Z'), ('0', '9')]), ("upper", [('A', 'Z')]),
    ("lower", [('a', 'z')]), ("blank", [(' ', ' '), ('\t', '\t')]),
    ("space", [(' ', ' '), ('\t', '\r')]), ("cntrl", [('\x00', '\x1f'), ('\x7f', '\x7f')]),
    ("graph", [('!', '~')]), ("print", [(' ', '~')]),
    ("punct", [('!', '/'), (':', '@'), ('[', '\x60'), ('\x7b', '~')]),
    ("xdigit", [('0', '9'), ('a', 'f'), ('A', 'F')])]

/-- The class of a name. -/
def class? (name : ByteText) : Option (List (Char × Char)) :=
  (named.find? fun entry => entry.1.toList = name).map Prod.snd

/-- The characters that a name between brackets stands for: a class, or a single character. -/
def ofName (mark : Char) (name : ByteText) : Option (List (Char × Char)) :=
  match mark, name with
  | ':', name => class? name
  | '.', [character] | '=', [character] => some [(character, character)]
  | _, _ => none

/-- The named characters at the beginning of a text that stands behind an opening bracket. -/
def readClass (text : MarkedText) : Option (List (Char × Char) × MarkedText) :=
  match text with
  | (false, mark) :: rest =>
    let name := rest.takeWhile fun marked => marked.2 ≠ mark
    match rest.drop name.length with
    | (false, _) :: (false, ']') :: after =>
      (ofName mark (MarkedText.bare name)).map fun ranges => (ranges, after)
    | _ => none
  | _ => none

/-! ### Reading -/

/-- A character with the mark that a backslash before it gives. -/
def protectedHead (heedsBackslash : Bool) (text : MarkedText) : Option (Char × MarkedText) :=
  match text with
  | (false, '\\') :: (_, character) :: rest =>
    if heedsBackslash then some (character, rest) else some ('\\', text.tail)
  | (_, character) :: rest => some (character, rest)
  | [] => none

/-- Read a range, or a single character. -/
def readRange (heedsBackslash : Bool) (text : MarkedText) :
    Option ((Char × Char) × MarkedText) :=
  match protectedHead heedsBackslash text with
  | none => none
  | some (low, (false, '-') :: (false, ']') :: rest) =>
    some ((low, low), (false, '-') :: (false, ']') :: rest)
  | some (low, (false, '-') :: rest) =>
    (protectedHead heedsBackslash rest).map fun (high, after) => ((low, high), after)
  | some (low, rest) => some ((low, low), rest)

/-- Read ranges up to the closing bracket. The first character may be a closing bracket itself. -/
def readRanges (heedsBackslash : Bool) :
    Nat → Bool → MarkedText → Option (List (Char × Char) × MarkedText)
  | 0, _, _ => none
  | limit + 1, isFirst, text =>
    match text, isFirst with
    | (false, ']') :: rest, false => some ([], rest)
    | _, _ => do
      let named := match text with
        | (false, '[') :: rest => readClass rest
        | _ => none
      let (ranges, rest) ← named <|>
        (readRange heedsBackslash text).map fun (range, rest) => ([range], rest)
      let (others, after) ← readRanges heedsBackslash limit false rest
      some (ranges ++ others, after)

/-- Read a set whose opening bracket has been read. One of the given characters at its beginning
negates it. -/
def read (negations : List Char) (heedsBackslash : Bool) (text : MarkedText) :
    Option (CharacterSet × MarkedText) :=
  let isNegated := match text with
    | (false, character) :: _ => negations.contains character
    | _ => false
  let inner := if isNegated then text.drop 1 else text
  (readRanges heedsBackslash (inner.length + 1) true inner).map fun (ranges, after) =>
    (⟨isNegated, ranges⟩, after)

end CharacterSet

end CodeNavigator
