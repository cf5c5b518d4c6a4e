/-
This file reads commands. Tokens are read one at a time, and whether a word may be a keyword or a
short name for other text depends on where it stands. What a token may not follow is a fault that
names the token and, where only one other would do, that one. A shell with extras also knows lists,
conditions and computations as commands.
-/

import CodeNavigator.Shell.WordReader

namespace CodeNavigator.Shell

/-! ### Tokens -/

/-- What is looked for in the next token: whether line ends before it are left out, whether it may
be a keyword, and whether it may be a short name. -/
structure Expectation where
  skipsLines : Bool
  keywords : Bool
  aliases : Bool

namespace Expectation

/-- Anything, as it stands. -/
def anything : Expectation := ⟨false, false, false⟩

/-- The beginning of a command. -/
def command : Expectation := ⟨false, true, true⟩

/-- The beginning of a command, or of one on a later line. -/
def laterCommand : Expectation := ⟨true, true, true⟩

end Expectation

/-- The words with a meaning of their own at the beginning of commands. -/
def keywords : List String :=
  ["!", "case", "do", "done", "elif", "else", "esac", "fi", "for", "if", "in", "then", "until",
    "while", "\x7b", "\x7d"]

/-- The further words with a meaning of their own in a shell with extras. -/
def extraKeywords : List String :=
  ["[[", "function", "time"]

/-- The keyword that a word is. -/
def keyword? (hasExtras : Bool) (word : Word) : Option String := do
  let text ← Word.plain? word
  let name := String.ofList text
  if keywords.contains name || (hasExtras && extraKeywords.contains name) then some name else none

/-- Leave out blanks and remarks. -/
def skipBlanks : Reading Unit :=
  repeatReading () fun _ => do
    match ← peek with
    | some ' ' | some '\t' =>
      drop 1
      pure (.inl ())
    | some '#' =>
      modify fun source => { source with rest := source.rest.dropWhile (· ≠ '\n') }
      pure (.inr ())
    | _ => pure (.inr ())

/-- The descriptor that a redirection changes. -/
def descriptorOf (hasExtras : Bool) (standard : Nat) (digits : ByteText) : Option Nat :=
  if digits.isEmpty then some standard
  else if digits.all Char.isDigit && (hasExtras || digits.length = 1) then
    some (digitsValue 10 digits)
  else none

/-- Read a redirection to a file. -/
def readOutputRedirection (digits : ByteText) : Reading Token := do
  let hasExtras := (← get).hasExtras
  let descriptor := (descriptorOf hasExtras 1 digits).getD 1
  let toFile (purpose : Job.Purpose) : Token :=
    .redirection fun target => [.file descriptor purpose target]
  if ← accept '>' then pure (toFile .appending)
  else if ← accept '|' then pure (toFile (.replacing false))
  else if ← accept '&' then
    pure (.redirection fun source =>
      let isCopy := match Word.plain? source with
        | some text => text.all fun character => character.isDigit || character = '-'
        | none => true
      if hasExtras && digits.isEmpty && !isCopy then
        [.file 1 (.replacing false) source, .copy 2 [.text false ['1']]]
      else [.copy descriptor source])
  else pure (toFile (.replacing true))

/-- Read a redirection from a file. -/
def readInputRedirection (digits : ByteText) : Reading Token := do
  let hasExtras := (← get).hasExtras
  let descriptor := (descriptorOf hasExtras 0 digits).getD 0
  if ← accept '<' then
    if ← accept '-' then pure (.document descriptor true)
    else if hasExtras then
      if ← accept '<' then pure (.redirection fun word => [.line descriptor word])
      else pure (.document descriptor false)
    else pure (.document descriptor false)
  else if ← accept '&' then pure (.redirection fun source => [.copy descriptor source])
  else if ← accept '>' then pure (.redirection fun target => [.file descriptor .both target])
  else pure (.redirection fun target => [.file descriptor .reading target])

/-- Read the elements of a list behind its opening parenthesis. -/
def readElements (inner : Inner) : Reading (List Word) :=
  repeatReading [] fun words => do
    skipBlanks
    match ← peek with
    | some ')' =>
      drop 1
      pure (.inr words.reverse)
    | some '\n' =>
      drop 1
      countLine
      pure (.inl words)
    | some _ =>
      let word ← inner.pieces .word
      if word.isEmpty then
        let token ← inner.token
        throw (.unexpected token.name none)
      pure (.inl (word :: words))
    | none => throw (.unexpected "end of file" (some ")"))

/-- Whether a word is the beginning of a list that is assigned. -/
def startsList (word : Word) : Bool :=
  match Word.plain? word with
  | some text =>
    let name := text.takeWhile isNameCharacter
    isName name && (text.drop name.length = ['='] || text.drop name.length = ['+', '='])
  | none => false

/-- Read a token that begins with a character which no blank precedes. -/
def readToken (inner : Inner) : Reading Token := do
  skipBlanks
  let symbol (name : String) : Reading Token := pure (.symbol name)
  match ← peek with
  | none => pure .ended
  | some '\n' =>
    drop 1
    countLine
    pure .newline
  | some '&' =>
    drop 1
    if ← accept '&' then symbol "&&"
    else if (← get).hasExtras then
      if (← get).rest.head? = some '>' then
        drop 1
        let isAppending ← accept '>'
        pure (.redirection fun target =>
          [.file 1 (if isAppending then .appending else .replacing false) target,
            .copy 2 [.text false ['1']]])
      else symbol "&"
    else symbol "&"
  | some '|' =>
    drop 1
    if ← accept '|' then symbol "||"
    else if (← get).hasExtras then
      if ← accept '&' then symbol "|&" else symbol "|"
    else symbol "|"
  | some ';' =>
    drop 1
    if ← accept ';' then
      if (← get).hasExtras then
        if ← accept '&' then symbol ";;&" else symbol ";;"
      else symbol ";;"
    else if (← get).hasExtras then
      if ← accept '&' then symbol ";&" else symbol ";"
    else symbol ";"
  | some '(' =>
    drop 1
    symbol "("
  | some ')' =>
    drop 1
    symbol ")"
  | some '>' =>
    drop 1
    readOutputRedirection []
  | some '<' =>
    drop 1
    readInputRedirection []
  | some _ =>
    let word ← inner.pieces .word
    let source ← get
    let digits := ((Word.plain? word).bind fun text =>
      (descriptorOf source.hasExtras 0 text).map fun _ => text).getD []
    match source.rest.head? with
    | some '>' =>
      if digits.isEmpty then pure (.word word)
      else
        drop 1
        readOutputRedirection digits
    | some '<' =>
      if digits.isEmpty then pure (.word word)
      else
        drop 1
        readInputRedirection digits
    | _ => pure (.word word)

/-! ### Here-documents -/

/-- Read the word that ends a here-document, and whether it has quotes. -/
def readDelimiter : Reading (ByteText × Bool) := do
  skipBlanks
  repeatReading (([] : ByteText), false) fun (taken, hasQuotes) => do
    match ← peek with
    | none => pure (.inr (taken.reverse, hasQuotes))
    | some character =>
      if endsWord character then pure (.inr (taken.reverse, hasQuotes))
      else
        drop 1
        if character = '\\' then
          let next ← (fun source => source.rest.take 1) <$> get
          drop 1
          pure (.inl (next ++ taken, true))
        else if character = '\'' || character = '"' then
          let inside ← takeQuoted character
          pure (.inl (inside.reverse ++ taken, true))
        else pure (.inl (character :: taken, hasQuotes))

/-- Take the lines up to the one that is the delimiter. A joint at the end of a line that is not
literal hides the beginning of the next line. -/
def takeDocument (awaited : AwaitedDocument) : Reading ByteText :=
  repeatReading (([] : List ByteText), false) fun (lines, isJoined) => do
    let source ← get
    let raw := source.rest.takeWhile (· ≠ '\n')
    let line := if awaited.dropsTabs && !isJoined then raw.dropWhile (· = '\t') else raw
    let after := source.rest.drop raw.length
    if source.rest.isEmpty then pure (.inr lines.reverse.flatten)
    else if line = awaited.delimiter && !isJoined then
      set { source with rest := after.drop 1, line := source.line + 1 }
      pure (.inr lines.reverse.flatten)
    else
      let backslashes := (line.reverse.takeWhile (· = '\\')).length
      set { source with rest := after.drop 1, line := source.line + 1 }
      pure (.inl ((line ++ after.take 1) :: lines, !awaited.isLiteral && backslashes % 2 = 1))

/-- Read the here-documents that the line before has asked for. -/
def readDocuments (inner : Inner) : Reading Unit := do
  let awaited := (← get).awaited
  modify fun source => { source with awaited := [] }
  for document in awaited do
    let line := (← get).line
    let text ← takeDocument document
    let pieces ←
      if document.isLiteral then pure [Piece.text true text]
      else readInstead text line (inner.pieces .document)
    modify fun source =>
      { source with documents := source.documents.setIfInBounds document.index pieces }

/-! ### Looking ahead -/

/-- The text that a short name stands for, if it is not in use. -/
def Source.alias? (source : Source) (word : Word) : Option (ByteText × ByteText) := do
  let name ← Word.plain? word
  let (_, value) ← source.aliases.find? fun entry => entry.1 = name
  let isInUse := source.aliasesInUse.any fun entry =>
    entry.1 = name && entry.2 ≤ source.rest.length
  if isInUse then none else some (name, value)

/-- Whether the text of a short name has been left whose end lets the next word be one too. -/
def Source.isBehindAlias (source : Source) : Bool :=
  match source.aliasNextBelow with
  | some length => source.rest.length ≤ length
  | none => false

/-- Take the token that was put back, or read another one. -/
def takeToken (inner : Inner) : Reading Token := do
  match (← get).pushedBack with
  | some token =>
    modify fun source => { source with pushedBack := none }
    pure token
  | none => readToken inner

/-- Put a token back. -/
def putBack (token : Token) : Reading Unit :=
  modify fun source => { source with pushedBack := some token }

/-- Read the next token, as what is expected of it. -/
def nextToken (inner : Inner) (expected : Expectation) : Reading Token :=
  repeatReading () fun _ => do
    let isBehindAlias := (← get).isBehindAlias
    if isBehindAlias then modify fun source => { source with aliasNextBelow := none }
    match ← takeToken inner with
    | .newline =>
      if expected.skipsLines then
        readDocuments inner
        pure (.inl ())
      else pure (.inr .newline)
    | .word word =>
      let source ← get
      match (if expected.keywords then keyword? source.hasExtras word else none) with
      | some name => pure (.inr (.keyword name))
      | none =>
        match (if expected.aliases || isBehindAlias then source.alias? word else none) with
        | some (name, value) =>
          set { source with
            rest := value ++ source.rest
            aliasesInUse := (name, source.rest.length) :: source.aliasesInUse
            aliasNextBelow :=
              if value.getLast?.any ByteText.isBlank then some source.rest.length
              else source.aliasNextBelow }
          pure (.inl ())
        | none => pure (.inr (.word word))
    | token => pure (.inr token)

/-- Read the next token and put it back. -/
def peekToken (inner : Inner) (expected : Expectation) : Reading Token := do
  let token ← nextToken inner expected
  putBack token
  pure token

/-- Complain about a token. -/
def unexpected {α : Type} (token : Token) : Reading α :=
  throw (.unexpected token.name none)

/-- Complain about a token in the place of another one. -/
def unexpectedFor {α : Type} (expected : String) (token : Token) : Reading α :=
  throw (.unexpected token.name (some expected))

/-- Read the keyword that has to come next. A list before it has found out that it is one. -/
def expectKeyword (inner : Inner) (name : String) : Reading Unit := do
  match ← nextToken inner .anything with
  | .keyword found =>
    if found = name then pure () else unexpectedFor name (.keyword found)
  | token => unexpectedFor name token

/-- Read the symbol that has to come next. -/
def expectSymbol (inner : Inner) (name : String) : Reading Unit := do
  match ← nextToken inner .anything with
  | .symbol found =>
    if found = name then pure () else unexpectedFor name (.symbol found)
  | token => unexpectedFor name token

/-! ### Redirections -/

/-- Read what a redirection leads to. -/
def finishRedirection (inner : Inner) (make : Word → List Redirection) :
    Reading (List Redirection) := do
  match ← nextToken inner .anything with
  | .word word => pure (make word)
  | token => unexpected token

/-- Ask for a here-document. -/
def finishDocument (inner : Inner) (descriptor : Nat) (dropsTabs : Bool) :
    Reading (List Redirection) := do
  skipBlanks
  match (← peek).map endsWord with
  | some false =>
    let (delimiter, isLiteral) ← readDelimiter
    let source ← get
    let index := source.documents.size
    set { source with
      documents := source.documents.push []
      awaited := source.awaited ++ [AwaitedDocument.mk index delimiter dropsTabs isLiteral] }
    pure [.document descriptor index]
  | _ =>
    let token ← nextToken inner .anything
    unexpected token

/-- Read the redirections behind a compound command. -/
def readRedirections (inner : Inner) : Reading (List Redirection) :=
  repeatReading [] fun redirections => do
    match ← nextToken inner .command with
    | .redirection make =>
      let more ← finishRedirection inner make
      pure (.inl (redirections ++ more))
    | .document descriptor dropsTabs =>
      let more ← finishDocument inner descriptor dropsTabs
      pure (.inl (redirections ++ more))
    | token =>
      putBack token
      pure (.inr redirections)

/-! ### Simple commands -/

/-- The commands of the shell that no function may be named for. -/
def specialNames : List String :=
  [".", ":", "break", "continue", "eval", "exec", "exit", "export", "readonly", "return", "set",
    "shift", "times", "trap", "unset"]

/-- The pieces of a word behind the first characters, which all stand in the first piece. -/
def behind (count : Nat) : Word → Word
  | .text isQuoted text :: rest =>
    let left := text.drop count
    if left.isEmpty then rest else .text isQuoted left :: rest
  | word => word

/-- The index of a list and the text behind it, where a text begins with an index. -/
def indexOf (text : ByteText) : Option ByteText × ByteText :=
  match text with
  | '[' :: rest =>
    let index := rest.takeWhile (· ≠ ']')
    (some index, rest.drop (index.length + 1))
  | all => (none, all)

/-- The assignment that a word is. In a shell with extras the name may have an index and a plus sign
behind it. -/
def assignment? (hasExtras : Bool) (word : Word) : Option Assignment :=
  match word with
  | .text false text :: _ =>
    let name := text.takeWhile isNameCharacter
    let (index, after) :=
      if hasExtras then indexOf (text.drop name.length) else (none, text.drop name.length)
    let indexWord : Option Word := index.map fun text => [.text true text]
    if !isName name then none
    else
      match after with
      | '=' :: value => some (.text name indexWord false (behind (text.length - value.length) word))
      | '+' :: '=' :: value =>
        if hasExtras then
          some (.text name indexWord true (behind (text.length - value.length) word))
        else none
      | _ => none
  | _ => none

/-- An index that holds an expansion divides the first piece of an assignment; here the pieces up to
the closing bracket are the index. -/
def expandedAssignment? (word : Word) : Option Assignment :=
  match word with
  | .text false text :: (piece :: .text false after :: rest) =>
    let name := text.takeWhile isNameCharacter
    match text.drop name.length, after with
    | '[' :: lead, ']' :: '=' :: value =>
      if isName name then
        some (.text name (some [.text true lead, piece]) false
          (if value.isEmpty then rest else .text false value :: rest))
      else none
    | _, _ => none
  | _ => none

/-- A simple command read so far. -/
structure SimpleProgress where
  assignments : List Assignment
  words : List Word
  redirections : List Redirection

/-- A list that is assigned, where its name and its opening parenthesis have been read. -/
def readList (inner : Inner) (word : Word) : Reading Assignment := do
  drop 1
  let values ← readElements inner
  let text := (Word.plain? word).getD []
  let name := text.takeWhile isNameCharacter
  pure (.list name (text.drop name.length = ['+', '=']) values)

/-- The commands of a shell with extras whose arguments may be lists. -/
def declaringNames : List String :=
  ["declare", "typeset", "local", "export", "readonly"]

/-- Whether the words of a command begin with one that declares variables. -/
def SimpleProgress.isDeclaring (progress : SimpleProgress) : Bool :=
  match progress.words.getLast?.bind Word.plain? with
  | some name => declaringNames.any fun declaring => declaring.toList = name
  | none => false

/-- Read a function behind its name and the opening parenthesis. -/
def readFunction (inner : Inner) (name : Word) : Reading Script := do
  expectSymbol inner ")"
  let source ← get
  let line := source.line
  match Word.plain? name with
  | some text =>
    if (isName text || (source.hasExtras && !text.isEmpty)) &&
        !specialNames.any fun special => special.toList = text then
      let _ ← peekToken inner .laterCommand
      .define line text <$> inner.command
    else throw (.badFunctionName text)
  | none => throw (.badFunctionName [])

/-- Read the words, assignments and redirections of a simple command. -/
def readSimple (inner : Inner) (line : Nat) : Reading Script :=
  repeatReading (⟨[], [], []⟩ : SimpleProgress) fun progress => do
    let hasExtras := (← get).hasExtras
    let finished : Script :=
      .simple line progress.assignments progress.words.reverse progress.redirections
    match ← nextToken inner ⟨false, false, progress.words.isEmpty⟩ with
    | .word word =>
      let startsWithList := hasExtras && startsList word && (← get).rest.head? = some '('
      if startsWithList && (progress.words.isEmpty || progress.isDeclaring) then
        let assignment ← readList inner word
        pure (.inl { progress with assignments := progress.assignments ++ [assignment] })
      else
        match (if progress.words.isEmpty then
            assignment? hasExtras word <|> (if hasExtras then expandedAssignment? word else none)
          else none) with
        | some assignment =>
          pure (.inl { progress with assignments := progress.assignments ++ [assignment] })
        | none => pure (.inl { progress with words := word :: progress.words })
    | .redirection make =>
      let more ← finishRedirection inner make
      pure (.inl { progress with redirections := progress.redirections ++ more })
    | .document descriptor dropsTabs =>
      let more ← finishDocument inner descriptor dropsTabs
      pure (.inl { progress with redirections := progress.redirections ++ more })
    | .symbol "(" =>
      match progress.assignments, progress.words, progress.redirections with
      | [], [name], [] => .inr <$> readFunction inner name
      | _, _, _ =>
        putBack (.symbol "(")
        pure (.inr finished)
    | token =>
      putBack token
      pure (.inr finished)

/-! ### Compound commands -/

/-- Read the branches of a condition behind its first keyword. -/
def readBranches (inner : Inner) : Reading Script := do
  let branch : Reading (Script × Script) := do
    let condition ← inner.script .block
    expectKeyword inner "then"
    pure (condition, ← inner.script .block)
  let first ← branch
  repeatReading [first] fun branches => do
    let finish (alternative : Script) : Script :=
      branches.foldl (fun rest (condition, body) => .branch condition body rest) alternative
    match ← nextToken inner .anything with
    | .keyword "elif" =>
      let next ← branch
      pure (.inl (next :: branches))
    | .keyword "else" =>
      let alternative ← inner.script .block
      expectKeyword inner "fi"
      pure (.inr (finish alternative))
    | .keyword "fi" => pure (.inr (finish .nothing))
    | token => unexpectedFor "fi" token

/-- Read the body of a loop. -/
def readBody (inner : Inner) : Reading Script := do
  let body ← inner.script .block
  expectKeyword inner "done"
  pure body

/-- Read the words that a loop goes over. -/
def readEachWords (inner : Inner) : Reading (List Word) :=
  repeatReading [] fun words => do
    match ← nextToken inner .anything with
    | .word word => pure (.inl (word :: words))
    | .newline => do
      readDocuments inner
      pure (.inr words.reverse)
    | .symbol ";" => pure (.inr words.reverse)
    | token => unexpected token

/-- Read the body of a loop over words. A shell with extras also takes braces. -/
def readEachBody (inner : Inner) : Reading Script := do
  match ← nextToken inner .laterCommand with
  | .keyword "do" => readBody inner
  | .keyword "\x7b" =>
    if (← get).hasExtras then
      let body ← inner.script .block
      expectKeyword inner "\x7d"
      pure body
    else throw (.unexpected "\x7b" (some "do"))
  | token => unexpectedFor "do" token

/-- Read the three expressions of a loop that counts, behind the opening parentheses. -/
def readCount (inner : Inner) (line : Nat) : Reading Script := do
  let start ← inner.pieces (.part true [';'])
  let _ ← accept ';'
  let condition ← inner.pieces (.part true [';'])
  let _ ← accept ';'
  let step ← inner.pieces .arithmetic
  match ← nextToken inner .laterCommand with
  | .symbol ";" => pure ()
  | token => putBack token
  .count line start condition step <$> readEachBody inner

/-- Whether two opening parentheses come next. -/
def computationFollows : Reading Bool := do
  if (← get).hasExtras then
    skipBlanks
    pure ((← get).rest.take 2 = ['(', '('])
  else pure false

/-- Read a loop over words behind its first keyword. -/
def readEach (inner : Inner) (line : Nat) : Reading Script := do
  if ← computationFollows then
    drop 2
    readCount inner line
  else
    let name ← match ← nextToken inner .anything with
      | .word word =>
        match Word.plain? word with
        | some text => if isName text then pure text else throw (.badLoopVariable text)
        | none => throw (.badLoopVariable [])
      | _ => throw (.badLoopVariable [])
    match ← nextToken inner .laterCommand with
    | .keyword "in" =>
      let words ← readEachWords inner
      .each line name words <$> readEachBody inner
    | token =>
      match token with
      | .symbol ";" => pure ()
      | other => putBack other
      .each line name [[.parameter true ['@'] none .value]] <$> readEachBody inner

/-- Read the patterns of a case up to their closing parenthesis. The first token has been read. -/
def readPatterns (inner : Inner) (first : Token) : Reading (List Word) := do
  let wordOf : Token → Word
    | .word word => word
    | .keyword name => [.text false name.toList]
    | _ => []
  repeatReading [wordOf first] fun patterns => do
    match ← nextToken inner .anything with
    | .symbol "|" =>
      let next ← nextToken inner .anything
      pure (.inl (wordOf next :: patterns))
    | .symbol ")" => pure (.inr patterns.reverse)
    | token => unexpectedFor ")" token

/-- Read the cases of a selection. -/
def readCases (inner : Inner) : Reading (List (List Word × Script × Bool)) :=
  repeatReading [] fun cases => do
    match ← nextToken inner ⟨true, true, false⟩ with
    | .keyword "esac" => pure (.inr cases.reverse)
    | token =>
      let first ← match token with
        | .symbol "(" => nextToken inner .anything
        | other => pure other
      let patterns ← readPatterns inner first
      let body ← inner.script .optionalBlock
      match ← nextToken inner ⟨true, true, false⟩ with
      | .keyword "esac" => pure (.inr ((patterns, body, false) :: cases).reverse)
      | .symbol ";;" | .symbol ";;&" => pure (.inl ((patterns, body, false) :: cases))
      | .symbol ";&" => pure (.inl ((patterns, body, true) :: cases))
      | token => unexpectedFor ";;" token

/-- Read a selection behind its first keyword. -/
def readSelection (inner : Inner) (line : Nat) : Reading Script := do
  let word ← match ← nextToken inner .anything with
    | .word word => pure word
    | token => unexpectedFor "word" token
  match ← nextToken inner .laterCommand with
  | .keyword "in" => .select line word <$> readCases inner
  | token => unexpectedFor "in" token

/-- Read the words of a condition up to its closing brackets. -/
def readCondition (inner : Inner) : Reading (List Word) :=
  repeatReading [] fun words => do
    skipBlanks
    let rest := (← get).rest
    let symbol? := ["&&", "||", "(", ")", "<", ">"].findSome? fun symbol =>
      if symbol.toList.isPrefixOf rest then some symbol else none
    let isAfterMatch := words.head?.bind Word.plain? = some ['=', '~']
    match rest with
    | '\n' :: _ =>
      drop 1
      countLine
      pure (.inl words)
    | [] => throw (.unexpected "end of file" (some "]]"))
    | _ =>
      match (if isAfterMatch then none else symbol?) with
      | some symbol =>
        drop symbol.length
        pure (.inl ([.text false symbol.toList] :: words))
      | none =>
        let word ← inner.pieces (if isAfterMatch then .pattern else .word)
        if Word.plain? word = some "]]".toList then pure (.inr words.reverse)
        else if word.isEmpty then
          let token ← inner.token
          throw (.unexpected token.name none)
        else pure (.inl (word :: words))

/-- Read a function behind the keyword that announces it. -/
def readNamedFunction (inner : Inner) : Reading Script := do
  match ← nextToken inner .anything with
  | .word name =>
    match ← nextToken inner .anything with
    | .symbol "(" => readFunction inner name
    | token =>
      putBack token
      let line := (← get).line
      let _ ← peekToken inner .laterCommand
      .define line ((Word.plain? name).getD []) <$> inner.command
  | token => unexpected token

/-- A compound command with the redirections behind it. -/
def withRedirections (inner : Inner) (line : Nat) (body : Script) : Reading Script := do
  let redirections ← readRedirections inner
  match body with
  | .subshell line inside _ => pure (.subshell line inside redirections)
  | other => pure (if redirections.isEmpty then other else .redirected line other redirections)

/-- Read a group in braces. -/
def readGroup (inner : Inner) (_ : Nat) : Reading Script := do
  let body ← inner.script .block
  expectKeyword inner "\x7d"
  pure body

/-- Read a loop with a condition. -/
def readLoop (isUntil : Bool) (inner : Inner) (_ : Nat) : Reading Script := do
  let condition ← inner.script .block
  expectKeyword inner "do"
  .loop isUntil condition <$> readBody inner

/-- What the keywords begin that may begin a command. -/
def compounds : List (String × (Inner → Nat → Reading Script)) :=
  [("if", fun inner _ => readBranches inner), ("while", readLoop false), ("until", readLoop true),
    ("for", readEach), ("case", readSelection), ("\x7b", readGroup),
    ("[[", fun inner line => .condition line <$> readCondition inner)]

/-- Read a subshell, or a computation, behind its opening parenthesis. -/
def readParenthesized (inner : Inner) (line : Nat) : Reading Script := do
  let source ← get
  if source.hasExtras && source.rest.head? = some '(' then
    drop 1
    .computation line <$> inner.pieces .arithmetic
  else
    let body ← inner.script .block
    expectSymbol inner ")"
    pure (.subshell line body [])

/-- Read one command. -/
def readCommand (inner : Inner) : Reading Script := do
  let line := (← get).line
  match ← nextToken inner .anything with
  | .keyword name =>
    if name = "function" then readNamedFunction inner
    else
      match compounds.find? fun entry => entry.1 = name with
      | some (_, read) => withRedirections inner line (← read inner line)
      | none => unexpected (.keyword name)
  | .symbol name =>
    if name = "(" then withRedirections inner line (← readParenthesized inner line)
    else unexpected (.symbol name)
  | .ended => unexpected .ended
  | .newline => unexpected .newline
  | token =>
    putBack token
    readSimple inner line

/-! ### Lists -/

/-- Read commands joined by pipes. -/
def readPipeline (inner : Inner) : Reading Script := do
  let isNegated ← match ← nextToken inner .anything with
    | .keyword "!" =>
      let _ ← peekToken inner .command
      pure true
    | token =>
      putBack token
      pure false
  let first ← readCommand inner
  let parts ← repeatReading [first] fun parts => do
    match ← nextToken inner .anything with
    | .symbol "|" =>
      let _ ← peekToken inner .laterCommand
      let part ← readCommand inner
      pure (.inl (part :: parts))
    | .symbol "|&" =>
      let _ ← peekToken inner .laterCommand
      let part ← readCommand inner
      let joined := parts.modifyHead fun last =>
        .redirected 0 last [.copy 2 [.text false ['1']]]
      pure (.inl (part :: joined))
    | token =>
      putBack token
      pure (.inr parts.reverse)
  let pipeline : Script := match parts with
    | [single] => single
    | several => .pipeline several
  pure (if isNegated then .negation pipeline else pipeline)

/-- Read pipelines joined by conditions. -/
def readConditional (inner : Inner) : Reading Script := do
  let first ← readPipeline inner
  repeatReading first fun before => do
    match ← nextToken inner .anything with
    | .symbol "&&" =>
      let _ ← peekToken inner .laterCommand
      let next ← readPipeline inner
      pure (.inl (.conjunction before next))
    | .symbol "||" =>
      let _ ← peekToken inner .laterCommand
      let next ← readPipeline inner
      pure (.inl (.disjunction before next))
    | token =>
      putBack token
      pure (.inr before)

/-- Whether a list of commands may end before a token. -/
def endsList : Token → Bool
  | .ended => true
  | .symbol name => [")", ";;", ";&", ";;&"].contains name
  | .keyword name =>
    ["do", "done", "elif", "else", "esac", "fi", "then", "\x7d"].contains name
  | _ => false

/-- Commands one after the other. -/
def Script.followedBy (first : Option Script) (second : Script) : Script :=
  match first with
  | some first => .sequence first second
  | none => second

/-- Read a list of commands. A line ends with its line end, and has nothing in it at the end of the
script; a block goes on up to what cannot begin a command. -/
def readCommands (inner : Inner) (kind : ListKind) : Reading (Option Script) :=
  repeatReading (none : Option Script) fun before => do
    let token ← nextToken inner ⟨kind ≠ .line, true, true⟩
    match token with
    | .newline =>
      readDocuments inner
      pure (.inr (some (before.getD .nothing)))
    | .ended =>
      readDocuments inner
      putBack .ended
      pure (.inr (if kind = .line then before else some (before.getD .nothing)))
    | _ =>
      putBack token
      let mayEnd := kind = .optionalBlock || (kind = .block && before.isSome)
      if mayEnd && endsList token then pure (.inr (some (before.getD .nothing)))
      else
        let line := (← get).line
        let next ← readConditional inner
        let joined (isBackground : Bool) : Script :=
          .followedBy before (if isBackground then .background line next else next)
        match ← nextToken inner .anything with
        | .symbol "&" => pure (.inl (some (joined true)))
        | .symbol ";" => pure (.inl (some (joined false)))
        | .newline =>
          putBack .newline
          pure (.inl (some (joined false)))
        | .ended =>
          readDocuments inner
          putBack .ended
          pure (.inr (some (joined false)))
        | token =>
          if kind = .line then unexpected token
          else
            putBack token
            pure (.inr (some (joined false)))

/-! ### Scripts -/

/-- How deep a script may be nested. -/
def depthLimit : Nat := 1000

/-- The readers for what stands at most so deep inside of something else. -/
def innerReaders : Nat → Inner
  | 0 => ⟨fun _ => throw .tooDeep, throw .tooDeep, fun _ => throw .tooDeep, throw .tooDeep⟩
  | depth + 1 =>
    { script := fun kind => do
        pure ((← readCommands (innerReaders depth) kind).getD .nothing)
      command := do readCommand (innerReaders depth)
      pieces := fun context => readPieces (innerReaders depth) context
      token := do nextToken (innerReaders depth) .anything }

/-- Read the commands of one line. There are none at the end of the script. -/
def readLine : Reading (Option Script) := do
  modify fun source => { source with pushedBack := none, awaited := [] }
  readCommands (innerReaders depthLimit) .line

end CodeNavigator.Shell
