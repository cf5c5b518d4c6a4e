/-
This file writes names the way compiled programs show them: bare where no shell would read anything
else into them, and in quotes otherwise. What cannot be printed is shown by escapes.
-/

import CodeNavigator.Text.Bytes

namespace CodeNavigator.Utility

/-- Whether a character is bare wherever it stands. -/
def isBareEverywhere (character : Char) : Bool :=
  character.isAlphanum || "%+,-./:@_]".toList.contains character

/-- Whether a character can be printed. -/
def isPrintable (character : Char) : Bool :=
  ' ' ≤ character && character ≤ '~'

/-- Whether a character at some position of a name may stay bare. -/
def isBareAt (isFirst isAlone : Bool) (character : Char) : Bool :=
  isBareEverywhere character ||
    (!isFirst && (character = '#' || character = '~')) ||
    (!isAlone && (character = '\x7b' || character = '\x7d'))

/-- Whether a whole name may stay bare. -/
def isBare (name : ByteText) : Bool :=
  match name with
  | [] => false
  | first :: rest =>
    isBareAt true rest.isEmpty first && rest.all (isBareAt false false)

/-- The escape of a character that cannot be printed. -/
def escaped (character : Char) : ByteText :=
  match character with
  | '\x07' => ['\\', 'a']
  | '\x08' => ['\\', 'b']
  | '\x0c' => ['\\', 'f']
  | '\n' => ['\\', 'n']
  | '\r' => ['\\', 'r']
  | '\t' => ['\\', 't']
  | '\x0b' => ['\\', 'v']
  | other =>
    '\\' :: ByteText.padLeft '0' 3 (Nat.toDigits 8 other.toNat)

/-- The characters of a name between quotes. Those that cannot be printed stand in quotes of their
own. -/
def quotedBody : Bool → ByteText → ByteText
  | _, [] => []
  | isEscaping, character :: rest =>
    if isPrintable character then
      let lead := if isEscaping then ['\'', '\''] else []
      let shown := if character = '\'' then "'\\''".toList else [character]
      lead ++ shown ++ quotedBody false rest
    else
      let lead := if isEscaping then [] else "'$'".toList
      lead ++ escaped character ++ quotedBody true rest

/-- A name in quotes. -/
def quoted (name : ByteText) : ByteText :=
  let isSimple := name.all fun character =>
    character = '\'' || character = ' ' || isBareEverywhere character
  if name.contains '\'' && isSimple then '"' :: name ++ ['"']
  else '\'' :: quotedBody false name ++ ['\'']

/-- A name in quotes if it needs them. -/
def shown (name : ByteText) : ByteText :=
  if isBare name then name else quoted name

/-- A text in quotes, whatever it holds, with escapes for what cannot be printed. -/
def literal (text : ByteText) : ByteText :=
  '\'' :: (text.flatMap fun character =>
    if character = '\'' || character = '\\' then ['\\', character]
    else if isPrintable character then [character] else escaped character) ++ ['\'']

end CodeNavigator.Utility
