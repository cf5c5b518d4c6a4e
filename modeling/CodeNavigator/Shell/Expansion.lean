/-
This file expands words. Every piece gives a row of cells: text is meant as it stands, a parameter
gives its value or what is made of it, and a command gives what it writes. A word of a command is
divided into fields, and a field that is a pattern becomes the paths it stands for. The commands in
words are run by a function that comes as an argument.
-/

import CodeNavigator.Shell.Arithmetic
import CodeNavigator.Shell.Field
import CodeNavigator.Shell.Session

namespace CodeNavigator.Shell

/-! ### Homes -/

/-- The home of a user. -/
def homeOf (session : Session) (user : ByteText) : Option ByteText :=
  if user.isEmpty then session.value? "HOME".toList
  else if user = "root".toList then some "/root".toList
  else if session.hasExtras && user = ['+'] then session.value? "PWD".toList
  else if session.hasExtras && user = ['-'] then session.value? "OLDPWD".toList
  else none

/-- A text with the home that a tilde at its beginning means, as pieces. -/
def expandHome (session : Session) (endsAtColon isLast : Bool) (text : ByteText) : List Piece :=
  match text with
  | '~' :: rest =>
    let user := rest.takeWhile fun character =>
      character ≠ '/' && !(endsAtColon && character = ':')
    let after := rest.drop user.length
    match (if after.isEmpty && !isLast then none else homeOf session user) with
    | some home => [.text true home, .text false after]
    | none => [.text false text]
  | _ => [.text false text]

/-- A word with the home that a tilde at its beginning means. -/
def withHome (session : Session) : Word → Word
  | .text false text :: rest => expandHome session false rest.isEmpty text ++ rest
  | word => word

/-- The value of an assignment with the homes that tildes mean at its beginning and behind colons. -/
def withHomes (session : Session) (word : Word) : Word :=
  let expandParts (mayStart isLast : Bool) (text : ByteText) : List Piece :=
    let parts := Text.split ':' text
    (parts.mapIdx fun index part =>
      let lead : List Piece := if index = 0 then [] else [.text false [':']]
      let isEnd := index + 1 < parts.length || isLast
      lead ++ if index = 0 && !mayStart then [.text false part]
        else expandHome session true isEnd part).flatten
  (word.mapIdx fun index piece =>
    match piece with
    | .text false text => expandParts (index = 0) (index + 1 = word.length) text
    | other => [other]).flatten

/-! ### Values -/

/-- A text without the ends of lines behind it. -/
def withoutLastLineEnds (text : ByteText) : ByteText :=
  ByteText.dropEnd (· = '\n') text

/-- Complain about a parameter without a value. -/
def failMissing {α : Type} (name : ByteText) (message : ByteText) : Action α := do
  let session ← get
  complain (if session.hasExtras then 127 else 2) (name ++ ": ".toList ++ message)
  throw (if session.hasExtras then .exiting else .failing)

/-- The elements that an index chooses: all of them, or the one with its number or name. -/
inductive Selection
  | whole (isJoined : Bool)
  | one (text : Option ByteText)

/-- The position that a number means in a list, counted from the end if it is negative. -/
def positionOf (length : Nat) (number : Int) : Option Nat :=
  if 0 ≤ number then some number.toNat
  else if 0 ≤ (length : Int) + number then some ((length : Int) + number).toNat
  else none

section Expanding

variable (capture : Script → Action ByteText) (inner : Word → Action (List Cell))

/-- Compute an expression, and let its assignments take effect. -/
def compute (expression : ByteText) : Action Int := do
  let session ← get
  let setting : Arithmetic.Setting :=
    ⟨session.hasExtras, expression, fun name => (session.parameter? name).getD []⟩
  match Arithmetic.evaluate setting expression with
  | .ok (value, assigned) =>
    for (name, number) in assigned do
      assign name (ByteText.ofInt number)
    pure value
  | .error (.illegalNumber text) => fail ("Illegal number: ".toList ++ text)
  | .error (.malformed reason inside token) =>
    if session.hasExtras then
      let seen := ByteText.ofString (reason.extraMessage ++ " (error token is \"") ++ token
      fail (inside.dropWhile ByteText.isSpace ++ ": ".toList ++ seen ++ "\")".toList)
    else
      fail (ByteText.ofString ("arithmetic expression: " ++ reason.message ++ ": \"") ++
        expression ++ ['"'])

/-- The text of a word that is not divided. -/
def plainText (word : Word) : Action ByteText := do
  pure (textOf (← get).joint (← inner word))

/-- What an index chooses from a variable. -/
def select (name : ByteText) (index : Word) : Action Selection := do
  let session ← get
  match Word.plain? index <|> (match index with
    | [.text true text] => some text
    | _ => none) with
  | some ['@'] => pure (.whole false)
  | some ['*'] => pure (.whole true)
  | _ =>
    match (session.named? name).map Variable.value with
    | some (.table entries) =>
      let key ← plainText inner index
      pure (.one ((entries.find? fun entry => entry.1 = key).map Prod.snd))
    | value =>
      let number ← compute (← plainText inner index)
      let elements := match session.builtInList? name, value with
        | some values, _ => values.mapIdx fun index value => (index, value)
        | none, some (.list elements) => elements
        | none, some (.text text) => [(0, text)]
        | none, _ => []
      let length := ((elements.getLast?).map fun element => element.1 + 1).getD 0
      match positionOf length number with
      | some position =>
        pure (.one ((elements.find? fun element => element.1 = position).map Prod.snd))
      | none => fail (name ++ ": bad array subscript".toList)

/-- The elements of a variable. -/
def Session.elementsOf (session : Session) (name : ByteText) : List ByteText :=
  match session.builtInList? name with
  | some values => values
  | none => ((session.named? name).map fun entry => entry.value.elements).getD []

/-- The value of a parameter: several values that stay apart, or one if there is any. -/
inductive Found
  | several (isJoined : Bool) (values : List ByteText)
  | single (text : Option ByteText)

/-- The value of a parameter, with the elements that an index chooses. -/
def find (name : ByteText) (index : Option Word) : Action Found := do
  let session ← get
  match index with
  | some word =>
    match ← select inner name word with
    | .whole isJoined => pure (.several isJoined (session.elementsOf name))
    | .one text => pure (.single text)
  | none =>
    if name = ['@'] then pure (.several false session.parameters)
    else if name = ['*'] then pure (.several true session.parameters)
    else pure (.single (session.parameter? name))

/-- The cells of several values. Joined values that are quoted make one field. -/
def severalCells (isQuoted isJoined : Bool) (values : List ByteText) : Action (List Cell) := do
  if isQuoted && isJoined then
    match (← get).separators with
    | separator :: _ => pure (cellsOf true (Text.join separator values))
    | [] => pure (cellsOf true values.flatten)
  else pure (separateCells isQuoted (isJoined || !(← get).hasExtras) values)

/-- The cells of a parameter whose value is used as it is. -/
def foundCells (isQuoted : Bool) : Found → Action (List Cell)
  | .several isJoined values => severalCells isQuoted isJoined values
  | .single text => pure (cellsOf isQuoted (text.getD []))

/-- The cells of a parameter with something made of each of its values. -/
def changedCells (isQuoted : Bool) (change : ByteText → ByteText) : Found → Action (List Cell)
  | .several isJoined values => severalCells isQuoted isJoined (values.map change)
  | .single text => pure (cellsOf isQuoted (change (text.getD [])))

/-- Whether a value is missing. -/
def Found.isMissing (countsEmpty : Bool) : Found → Bool
  | .several _ values => countsEmpty && values.flatten.isEmpty
  | .single none => true
  | .single (some text) => countsEmpty && text.isEmpty

/-- A text whose letters are changed, the first one or all of them. -/
def recased (isUpper isWhole : Bool) (text : ByteText) : ByteText :=
  let change (character : Char) := if isUpper then character.toUpper else character.toLower
  if isWhole then text.map change
  else
    match text with
    | first :: rest => change first :: rest
    | [] => []

/-- A text with another one in the place of what a pattern stands for. -/
def replaced (extent : Extent) (pattern : Wildcard) (word text : ByteText) : ByteText :=
  match extent with
  | .first => pattern.replaceIn word 1 text
  | .all => pattern.replaceIn word (text.length + 1) text
  | .beginning =>
    match pattern.beginning? true text with
    | some length => word ++ text.drop length
    | none => text
  | .ending =>
    match pattern.ending? true text with
    | some length => text.take (text.length - length) ++ word
    | none => text

/-- The part of a row from a position on, of some length. A negative position counts from the end,
and so does a negative length. -/
def sliced {α : Type} (row : List α) (start : Int) (length : Option Int) : List α :=
  let begin_ := if start < 0 then (row.length : Int) + start else start
  if begin_ < 0 then []
  else
    let rest := row.drop begin_.toNat
    match length with
    | none => rest
    | some count =>
      if count < 0 then rest.take ((rest.length : Int) + count).toNat else rest.take count.toNat

/-- The cells of a part of a value, or of some of several values. -/
def slicedCells (isQuoted : Bool) (name : ByteText) (found : Found) (start : Word)
    (length : Option Word) : Action (List Cell) := do
  let first ← compute (← plainText inner start)
  let count ← match length with
    | some word => some <$> (plainText inner word >>= compute)
    | none => pure none
  match found with
  | .several isJoined values =>
    let shellName := (← get).name
    let isParameters := name = ['@'] || name = ['*']
    let row := if isParameters then shellName :: values else values
    severalCells isQuoted isJoined (sliced row first count)
  | .single text =>
    let row := text.getD []
    if (count.map fun count => decide (count < 0)).getD false &&
        ((sliced row first none).length : Int) + count.getD 0 < 0 then
      fail (ByteText.ofInt (count.getD 0) ++ ": substring expression < 0".toList)
    else pure (cellsOf isQuoted (sliced row first count))

/-- The cells of a word that stands for a value. -/
def wordCells (isQuoted : Bool) (word : Word) : Action (List Cell) := do
  let session ← get
  let cells ← inner (if isQuoted then word else withHome session word)
  pure (if isQuoted then quotedCells cells else cells)

/-- The pattern that a word writes. -/
def patternOf (word : Word) : Action Wildcard := do
  let cells ← inner word
  pure (wildcardOf (← get).hasExtras (markedTextOf cells))

/-- Meet the absence of a value, or its presence. -/
def remedied (isQuoted : Bool) (name : ByteText) (index : Option Word) (found : Found)
    (remedy : Remedy) (countsEmpty : Bool) (word : Word) : Action (List Cell) := do
  let isMissing := found.isMissing countsEmpty
  match remedy with
  | .fallback => if isMissing then wordCells inner isQuoted word else foundCells isQuoted found
  | .alternative => if isMissing then pure [] else wordCells inner isQuoted word
  | .assignment =>
    if isMissing then
      let text := textOf (← get).joint (← wordCells inner isQuoted word)
      if !isName name || index.isSome then
        if (← get).hasExtras then
          fail (ByteText.ofString "$" ++ name ++ ": cannot assign in this way".toList)
        else fail (name ++ ": bad variable name".toList)
      assign name text
      pure (cellsOf isQuoted text)
    else foundCells isQuoted found
  | .demand =>
    if isMissing then
      let text := textOf (← get).joint (← wordCells inner isQuoted word)
      let hasExtras := (← get).hasExtras
      failMissing name (if !text.isEmpty then text
        else if hasExtras then
          (if countsEmpty then "parameter null or not set" else "parameter not set").toList
        else (if countsEmpty then "parameter not set or null" else "parameter not set").toList)
    else foundCells isQuoted found

/-- The length of a value, or the number of several values. A shell without extras joins them. -/
def lengthOf (session : Session) : Found → Nat
  | .several _ values =>
    if session.hasExtras then values.length else session.joinedParameters.length
  | .single text => (text.getD []).length

/-- Complain about a use that makes no sense. -/
def failInvalid (name : ByteText) : Action Found := do
  if (← get).hasExtras then fail ("$\x7b".toList ++ name ++ "\x7d: bad substitution".toList)
  else fail "Bad substitution".toList

/-- The names of the elements of a list. -/
def namesOf (session : Session) (name : ByteText) : List ByteText :=
  match session.builtInList? name with
  | some values => (List.range values.length).map ByteText.ofNat
  | none => ((session.named? name).map fun entry => entry.value.names).getD []

/-- Expand a parameter. -/
def expandParameter (isQuoted : Bool) (name : ByteText) (index : Option Word) (use : Use) :
    Action (List Cell) := do
  let found ← match use with
    | .invalid => failInvalid name
    | _ => find inner name index
  let refuse : Action Unit := do
    let session ← get
    let isRefused := match found with
      | .single none => session.hasOption 'u'
      | _ => false
    if isRefused then
      failMissing name
        (if session.hasExtras then "unbound variable" else "parameter not set").toList
  match use with
  | .value =>
    refuse
    foundCells isQuoted found
  | .length =>
    refuse
    pure (cellsOf isQuoted (ByteText.ofNat (lengthOf (← get) found)))
  | .names =>
    severalCells isQuoted false (namesOf (← get) name)
  | .indirect =>
    match found with
    | .single (some target) => foundCells isQuoted (.single ((← get).parameter? target))
    | _ => pure []
  | .missing remedy countsEmpty word =>
    remedied inner isQuoted name index found remedy countsEmpty word
  | .cut isEnding isLongest word =>
    refuse
    let pattern ← patternOf inner word
    let cut := if isEnding then pattern.cutEnding isLongest else pattern.cutBeginning isLongest
    changedCells isQuoted cut found
  | .replace extent patternWord word =>
    refuse
    let pattern ← patternOf inner patternWord
    let text ← plainText inner word
    changedCells isQuoted (replaced extent pattern text) found
  | .slice start length =>
    refuse
    slicedCells inner isQuoted name found start length
  | .recase isUpper isWhole =>
    refuse
    changedCells isQuoted (recased isUpper isWhole) found
  | .invalid => pure []

/-- Expand one piece. -/
def expandPiece (piece : Piece) : Action (List Cell) := do
  match piece with
  | .text isQuoted text => pure (text.map (Cell.written isQuoted))
  | .quotes => pure [.presence]
  | .output isQuoted script =>
    let output ← capture script
    pure (cellsOf isQuoted (withoutLastLineEnds (output.filter (· ≠ '\x00'))))
  | .arithmetic isQuoted expression =>
    let text := textOf (← get).joint (← inner expression)
    let value ← compute text
    pure (cellsOf isQuoted (ByteText.ofInt value))
  | .parameter isQuoted name index use => expandParameter inner isQuoted name index use

end Expanding

/-- Expand the pieces of a word, which may hold others at most so deep inside. -/
def expandPieces (capture : Script → Action ByteText) : Nat → Word → Action (List Cell)
  | 0, _ => exhaust
  | depth + 1, word => do
    let rows ← word.mapM (expandPiece capture (expandPieces capture depth))
    pure rows.flatten

/-- How deep the pieces of a word may be nested. -/
def pieceDepth : Nat := 200

/-- Expand a word to its cells. -/
def expand (capture : Script → Action ByteText) (word : Word) : Action (List Cell) :=
  expandPieces capture pieceDepth word

/-- Expand a word that is not divided. -/
def expandText (capture : Script → Action ByteText) (word : Word) : Action ByteText := do
  pure (textOf (← get).joint (← expand capture (withHome (← get) word)))

/-- Expand the value of an assignment. -/
def expandValue (capture : Script → Action ByteText) (word : Word) : Action ByteText := do
  pure (textOf (← get).joint (← expand capture (withHomes (← get) word)))

/-- Expand a word to the pattern that it writes. -/
def expandPattern (capture : Script → Action ByteText) (word : Word) : Action Wildcard := do
  let cells ← expand capture (withHome (← get) word)
  pure (wildcardOf (← get).hasExtras (markedTextOf cells))

/-- Expand a word of a command to its fields. -/
def expandFields (capture : Script → Action ByteText) (word : Word) : Action (List ByteText) := do
  let cells ← expand capture (withHome (← get) word)
  let session ← get
  let found := fields session.separators cells
  if session.hasOption 'f' then pure (found.map MarkedText.bare)
  else
    pure (found.flatMap
      (expandField session.hasExtras session.process.machine.tree session.process.place))

end CodeNavigator.Shell
