/-
This file defines the programs that work on paths: they take them apart, follow their links and list
what they lead to.
-/

import CodeNavigator.Utility.Files

namespace CodeNavigator.Utility

/-! ### Parts of paths -/

/-- The options of `basename`. -/
def basenameOptions : OptionSet where
  letters := "as:z"
  names := [("multiple", .nothing, 'a'), ("suffix", .required, 's'), ("zero", .nothing, 'z')]

/-- A name without an ending, unless nothing is left. -/
def withoutEnding (ending name : ByteText) : ByteText :=
  if ending.isEmpty || name.length ≤ ending.length || !ending.isSuffixOf name then name
  else name.take (name.length - ending.length)

/-- Write the last names of paths. -/
def basename : Utility := fun call => do
  let (chosen, operands) ← readLeadingOptions call 1 basenameOptions
  let lineEnd := if chosen.has 'z' then '\x00' else '\n'
  let write (ending path : ByteText) : Job Unit :=
    emit call (withoutEnding ending (lastName path) ++ [lineEnd])
  if operands.isEmpty then misuse call 1 "missing operand".toList
  if chosen.has 'a' || chosen.has 's' then
    for path in operands do
      write ((chosen.value? 's').getD []) path
  else
    match operands with
    | path :: rest =>
      if let some extra := rest[1]? then refuseOperand call extra
      write (rest.head?.getD []) path
    | [] => pure ()
  pure 0

/-- A path without its last name. -/
def directoryName (path : ByteText) : ByteText :=
  let trimmed := ByteText.dropEnd (· = '/') path
  if trimmed.isEmpty then if path.isEmpty then ['.'] else ['/']
  else
    let lead := ByteText.dropEnd (· = '/') (ByteText.dropEnd (· ≠ '/') trimmed)
    if lead.isEmpty then if trimmed.contains '/' then ['/'] else ['.'] else lead

/-- Write paths without their last names. -/
def dirname : Utility := fun call => do
  let (chosen, operands) ← readOptions call 1 (.of "z" [("zero", .nothing, 'z')])
  if operands.isEmpty then misuse call 1 "missing operand".toList
  for path in operands do
    emit call (directoryName path ++ [if chosen.has 'z' then '\x00' else '\n'])
  pure 0

/-! ### Links -/

/-- The name of a place as an absolute path. -/
def placeName (place : FileTree.Place) : ByteText :=
  if place.isEmpty then ['/']
  else place.reverse.flatMap fun name => '/' :: ByteText.ofString name

/-- How much of a path has to be there. -/
inductive Presence
  | all
  | allButLast
  | nothing

/-- Where a path leads to, as far as it has to be there. -/
def canonical (presence : Presence) (path : ByteText) : Job (Except SystemError FileTree.Place) := do
  let process ← get
  let tree := process.machine.tree
  match tree.trace true process.place (pathOf path) with
  | .ok (.existing place) => pure (.ok place)
  | .ok (.missing place) =>
    match presence with
    | .all => pure (.error .noSuchFile)
    | _ => pure (.ok place)
  | .error error =>
    match presence with
    | .nothing =>
      if path.isEmpty then pure (.error error)
      else
        let start := if path.head? = some '/' then [] else process.place
        let names := Text.split '/' path
        let (place, _) := names.foldl (fun (place, isKnown) name =>
          if name.isEmpty || name = ['.'] then (place, isKnown)
          else if name = ['.', '.'] then (place.tail, isKnown)
          else
            match (if isKnown then tree.trace true place (pathOf name) else .error .noSuchFile) with
            | .ok destination => (destination.place, true)
            | .error _ => (ByteText.asString name :: place, false)) (start, true)
        pure (.ok place)
    | _ => pure (.error error)

/-- The options of `readlink`. -/
def readlinkOptions : OptionSet where
  letters := "femnqsvz"
  names := [("canonicalize", .nothing, 'f'), ("canonicalize-existing", .nothing, 'e'),
    ("canonicalize-missing", .nothing, 'm'), ("no-newline", .nothing, 'n'),
    ("quiet", .nothing, 'q'), ("silent", .nothing, 's'), ("verbose", .nothing, 'v'),
    ("zero", .nothing, 'z')]

/-- Write where links lead to. -/
def readlink : Utility := fun call => do
  let (chosen, operands) ← readOptions call 1 readlinkOptions
  if operands.isEmpty then misuse call 1 "missing operand".toList
  let results ← operands.mapM fun path => do
    let found : Except SystemError ByteText ← match chosen.last? ['f', 'e', 'm'] with
      | none =>
        match ← findLink path with
        | .ok (.link target) => pure (.ok (ByteText.ofString target.text))
        | .ok _ => pure (.error .invalidArgument)
        | .error error => pure (.error error)
      | some letter =>
        let presence := if letter = 'e' then Presence.all
          else if letter = 'f' then .allButLast else .nothing
        match ← canonical presence path with
        | .ok place => pure (.ok (placeName place))
        | .error error => pure (.error error)
    match found with
    | .ok text =>
      let behind := if chosen.has 'z' then ['\x00']
        else if chosen.has 'n' && operands.length = 1 then [] else ['\n']
      emit call (text ++ behind)
      pure true
    | .error error =>
      if chosen.has 'v' then complain call (fault (shown path) error)
      pure false
  pure (statusOf (results.all id))

/-- The options of `realpath`. -/
def realpathOptions : OptionSet where
  letters := "eELPmqsz"
  names := [("canonicalize-existing", .nothing, 'e'), ("canonicalize-missing", .nothing, 'm'),
    ("quiet", .nothing, 'q'), ("strip", .nothing, 's'), ("no-symlinks", .nothing, 's'),
    ("relative-to", .required, 'T'), ("relative-base", .required, 'B'), ("zero", .nothing, 'z')]

/-- The place that a path writes, without regard to links. -/
def writtenPlace (start : FileTree.Place) (path : ByteText) : FileTree.Place :=
  (Text.split '/' path).foldl (fun place name =>
    if name.isEmpty || name = ['.'] then place
    else if name = ['.', '.'] then place.tail
    else ByteText.asString name :: place) (if path.head? = some '/' then [] else start)

/-- Write the absolute paths of what paths lead to. -/
def realpath : Utility := fun call => do
  let (chosen, operands) ← readOptions call 1 realpathOptions
  if operands.isEmpty then misuse call 1 "missing operand".toList
  let presence := if chosen.has 'e' then Presence.all
    else if chosen.has 'm' then .nothing else .allButLast
  let locate (path : ByteText) : Job (Except SystemError FileTree.Place) := do
    if chosen.has 's' then pure (.ok (writtenPlace (← get).place path))
    else canonical presence path
  let base ← match chosen.value? 'T' with
    | none => pure none
    | some path =>
      match ← locate path with
      | .ok place => pure (some place)
      | .error error => fail call 1 (fault (shown path) error)
  let results ← operands.mapM fun path => do
    match ← locate path with
    | .ok place =>
      let text := match base with
        | some start => wayBetween start place
        | none => placeName place
      emit call (text ++ [if chosen.has 'z' then '\x00' else '\n'])
      pure true
    | .error error =>
      if !chosen.has 'q' then complain call (fault (shown path) error)
      pure false
  pure (statusOf (results.all id))

/-- Write the directory. -/
def pwd : Utility := fun call => do
  let (chosen, _) ← readOptions call 1 (.of "LP" [("logical", .nothing, 'L'),
    ("physical", .nothing, 'P')])
  let process ← get
  let told := (process.environment.find? fun entry => entry.1 = "PWD".toList).map Prod.snd
  let isTrue := match told with
    | some path =>
      path.head? = some '/' && (process.machine.tree.locate process.place (pathOf path)).toOption =
        some process.place
    | none => false
  emitLines call [if chosen.last? ['L', 'P'] = some 'L' && isTrue then told.getD []
    else placeName process.place]
  pure 0

/-! ### Listings -/

/-- The options of `ls`. -/
def lsOptions : OptionSet where
  letters := "1aAbBcCdDfFgGhHiI:klLmnNopqQrRsStT:uUvw:xXZ"
  names := [("all", .nothing, 'a'), ("almost-all", .nothing, 'A'), ("directory", .nothing, 'd'),
    ("classify", .optional, 'F'), ("color", .optional, '!'), ("format", .required, '?'),
    ("human-readable", .nothing, 'h'), ("ignore", .required, 'I'), ("inode", .nothing, 'i'),
    ("literal", .nothing, 'N'), ("numeric-uid-gid", .nothing, 'n'), ("quote-name", .nothing, 'Q'),
    ("recursive", .nothing, 'R'), ("reverse", .nothing, 'r'), ("size", .nothing, 's'),
    ("sort", .required, '='), ("time", .required, '#'), ("time-style", .required, '@'),
    ("group-directories-first", .nothing, '/'), ("full-time", .nothing, '%'),
    ("file-type", .nothing, '~'), ("dereference", .nothing, 'L'), ("no-group", .nothing, 'G')]

/-- The size of what stands in a tree. -/
def sizeOf : FileTree → Nat
  | .directory _ _ => 4096
  | .file _ content => content.length
  | .link target => target.text.utf8ByteSize
  | .device _ => 0

/-- The letter for the kind of what stands in a tree. -/
def kindLetter : FileTree → Char
  | .directory _ _ => 'd'
  | .file _ _ => '-'
  | .link _ => 'l'
  | .device _ => 'c'

/-- The mode of what stands in a tree. -/
def modeOf : FileTree → Nat
  | .directory mode _ => mode.bits
  | .file mode _ => mode.bits
  | .link _ => 0o777
  | .device _ => 0o666

/-- How many names lead to what stands in a tree. -/
def linkCount : FileTree → Nat
  | .directory _ entries => 2 + (entries.filter fun entry => entry.2.isDirectory).length
  | _ => 1

/-- The mark behind a name in a listing that tells kinds apart. -/
def kindMark (marksPrograms marksLinks : Bool) : FileTree → ByteText
  | .directory _ _ => ['/']
  | .file mode _ => if marksPrograms && mode.isProgram then ['*'] else []
  | .link _ => if marksLinks then ['@'] else []
  | .device _ => []

/-- A name as it stands in a listing. -/
def listedName (chosen : Chosen) (name : ByteText) (tree : FileTree) : ByteText :=
  let text := if chosen.has 'Q' then '"' :: name ++ ['"'] else name
  text ++ if chosen.has 'F' then kindMark true true tree
    else if chosen.has '~' then kindMark false true tree
    else if chosen.has 'p' then (if tree.isDirectory then ['/'] else []) else []

/-- The name of the user and the group that everything belongs to. -/
def ownerName : String := "user"

/-- The number of the user and the group that everything belongs to. -/
def ownerNumber : String := "1000"

/-- A line of a long listing. -/
def longLine (chosen : Chosen) (width : Nat) (linkWidth : Nat) (name : ByteText)
    (tree : FileTree) : ByteText :=
  let behind := match tree with
    | .link target => " -> ".toList ++ ByteText.ofString target.text
    | _ => []
  let user := if chosen.has 'n' then ownerNumber else ownerName
  let owners := (if chosen.has 'g' then [] else [user.toList]) ++
    (if chosen.has 'o' || chosen.has 'G' then [] else [user.toList])
  Text.join ' ' ([kindLetter tree :: modeLetters (modeOf tree),
    ByteText.padLeft ' ' linkWidth (ByteText.ofNat (linkCount tree))] ++ owners ++
    [ByteText.padLeft ' ' width (ByteText.ofNat (sizeOf tree)), "Jan  1 00:00".toList,
      listedName chosen name tree ++ behind])

/-- Names with commas between them, in rows of a width. -/
def commaRows (width : Nat) : ByteText → List ByteText → ByteText
  | row, [] => row
  | [], name :: rest => commaRows width name rest
  | row, name :: rest =>
    let last := (row.reverse.takeWhile (· ≠ '\n')).length
    if last + 2 + name.length + 1 < width then
      commaRows width (row ++ ", ".toList ++ name) rest
    else commaRows width (row ++ ",\n".toList ++ name) rest

/-- The widths of columns when names stand in so many rows. -/
def columnWidths (isAcross : Bool) (columns : Nat) (names : List ByteText) : List Nat :=
  let rows := (names.length + columns - 1) / columns
  (List.range columns).filterMap fun column =>
    let own := (names.mapIdx fun index name => (index, name)).filter fun entry =>
      if isAcross then entry.1 % columns = column else entry.1 / rows = column
    if own.isEmpty then none else some ((own.map fun entry => entry.2.length).foldl max 0 + 2)

/-- Names in columns, as many as fit into a width. -/
def columnRows (isAcross : Bool) (width : Nat) (names : List ByteText) : List ByteText :=
  let fitting := ((List.range names.length).map fun count => names.length - count).find?
    fun columns =>
      (columnWidths isAcross columns names).foldl (· + ·) 0 ≤ width + 1 &&
        (isAcross || (columnWidths isAcross columns names).length = columns)
  let columns := fitting.getD 1
  let widths := columnWidths isAcross columns names
  let rows := (names.length + columns - 1) / (max 1 columns)
  (List.range rows).map fun row =>
    let cells := (List.range columns).filterMap fun column =>
      let index := if isAcross then row * columns + column else column * rows + row
      names[index]?.map fun name => (column, name)
    cells.flatMap fun (column, name) =>
      if some column = cells.getLast?.map Prod.fst then name
      else ByteText.padRight ((widths[column]?).getD 0) name

/-- Entries as lines of a listing. -/
def listedLines (chosen : Chosen) (entries : List (ByteText × FileTree)) : List ByteText :=
  let format := (chosen.filter fun option =>
    ['l', '1', 'C', 'x', 'm', 'g', 'n', 'o'].contains option.1).getLast?.map Prod.fst
  let names := entries.map fun entry => listedName chosen entry.1 entry.2
  match format with
  | some 'l' | some 'g' | some 'n' | some 'o' =>
    let width := ((entries.map fun entry => (ByteText.ofNat (sizeOf entry.2)).length).foldl max 0)
    let linkWidth :=
      ((entries.map fun entry => (ByteText.ofNat (linkCount entry.2)).length).foldl max 0)
    entries.map fun entry => longLine chosen width linkWidth entry.1 entry.2
  | some 'm' => if names.isEmpty then [] else [commaRows 80 [] names]
  | some 'C' => columnRows false 80 names
  | some 'x' => columnRows true 80 names
  | _ => names

/-- The ending of a name. -/
def extension (name : ByteText) : ByteText :=
  if name.contains '.' then (name.reverse.takeWhile (· ≠ '.')).reverse else []

/-- Entries in the order that is asked for. -/
def orderEntries (chosen : Chosen) (entries : List (ByteText × FileTree)) :
    List (ByteText × FileTree) :=
  let byName := entries.mergeSort fun left right => left.1.isUpTo right.1
  let ordered :=
    if chosen.has 'U' || chosen.has 'f' then entries
    else if chosen.has 'S' || chosen.value? '=' = some "size".toList then
      byName.mergeSort fun left right => sizeOf right.2 ≤ sizeOf left.2
    else if chosen.has 'X' then
      byName.mergeSort fun left right => (extension left.1).isUpTo (extension right.1)
    else byName
  let turned := if chosen.has 'r' then ordered.reverse else ordered
  if chosen.has '/' then
    turned.filter (fun entry => entry.2.isDirectory) ++
      turned.filter fun entry => !entry.2.isDirectory
  else turned

/-- The entries of a directory that are shown. -/
def shownEntries (chosen : Chosen) (tree : FileTree) (entries : List (String × FileTree)) :
    List (ByteText × FileTree) :=
  let own := entries.map fun (name, tree) => (ByteText.ofString name, tree)
  let showsAll := chosen.has 'a' || chosen.has 'f'
  let kept := own.filter fun entry =>
    (showsAll || chosen.has 'A' || entry.1.head? ≠ some '.') &&
      !(chosen.has 'B' && entry.1.getLast? = some '~')
  orderEntries chosen
    (if showsAll then (['.'], tree) :: (['.', '.'], tree) :: kept else kept)

/-- Whether lines stand for entries of a long listing. -/
def isLong (chosen : Chosen) : Bool :=
  chosen.has 'l' || chosen.has 'g' || chosen.has 'n' || chosen.has 'o'

/-- List a directory, and those in it where that is asked for. -/
def listDirectory (call : Call) (chosen : Chosen) (showsTitle : Bool) :
    Nat → Bool → ByteText → FileTree → Job Bool
  | 0, _, _, _ => pure true
  | limit + 1, isFirst, path, tree => do
    match tree with
    | .directory mode entries =>
      if !mode.mayRead then
        complain call (fault ("cannot open directory ".toList ++ quoted path) .permissionDenied)
        pure false
      else
        let kept := shownEntries chosen tree entries
        let header := if showsTitle || chosen.has 'R' then
            (if isFirst then [] else [[]]) ++ [path ++ [':']]
          else []
        let blocks := (kept.map fun entry => (sizeOf entry.2 + 4095) / 4096 * 4).foldl (· + ·) 0
        let total := if isLong chosen || chosen.has 's' then
            ["total ".toList ++ ByteText.ofNat blocks] else []
        emitLines call (header ++ total ++ listedLines chosen kept)
        if chosen.has 'R' then
          let inner := kept.filter fun entry =>
            entry.2.isDirectory && entry.1 ≠ ['.'] && entry.1 ≠ ['.', '.']
          let results ← inner.mapM fun entry =>
            listDirectory call chosen true limit false (joinPath path entry.1) entry.2
          pure (results.all id)
        else pure true
    | _ => pure true

/-- List files and directories. -/
def ls : Utility := fun call => do
  let (chosen, operands) ← readOptions call 2 lsOptions
  let paths := if operands.isEmpty then [['.']] else operands
  let followsLinks := !(isLong chosen || chosen.has 'd' || chosen.has 'F') || chosen.has 'L' ||
    chosen.has 'H'
  let found ← paths.mapM fun path => do
    let resolved ← find path
    let linked ← findLink path
    let isShown := match linked, resolved with
      | .ok (.link _), .ok tree => followsLinks && (tree.isDirectory || chosen.has 'L')
      | _, _ => true
    match (if isShown then (match resolved, linked with
        | .error _, .ok link => if followsLinks && chosen.has 'L' then resolved else .ok link
        | other, _ => other) else linked) with
    | .ok tree => pure [(path, tree)]
    | .error error =>
      complain call (fault ("cannot access ".toList ++ quoted path) error)
      pure []
  let all := found.flatten
  let isListed (entry : ByteText × FileTree) : Bool := entry.2.isDirectory && !chosen.has 'd'
  let files := orderEntries chosen (all.filter fun entry => !isListed entry)
  let directories := orderEntries chosen (all.filter isListed)
  emitLines call (listedLines chosen files)
  let showsTitle := 1 < paths.length
  let results ← (directories.mapIdx fun index entry => (index, entry)).mapM
    fun (index, path, tree) =>
      listDirectory call chosen showsTitle (tree.height + 1) (index = 0 && files.isEmpty) path tree
  pure (if all.length < paths.length then 2 else if results.all id then 0 else 2)

/-! ### Facts about files -/

/-- The name of the kind of what stands in a tree. -/
def kindName : FileTree → String
  | .directory _ _ => "directory"
  | .file _ [] => "regular empty file"
  | .file _ _ => "regular file"
  | .link _ => "symbolic link"
  | .device _ => "character special file"

/-- What a letter of a template of `stat` stands for. -/
def statField (path : ByteText) (tree : FileTree) : Char → ByteText
  | 'n' => path
  | 'N' => quoted path ++ match tree with
    | .link target => " -> ".toList ++ quoted (ByteText.ofString target.text)
    | _ => []
  | 's' => ByteText.ofNat (sizeOf tree)
  | 'a' => Nat.toDigits 8 (modeOf tree)
  | 'A' => kindLetter tree :: modeLetters (modeOf tree)
  | 'F' => (kindName tree).toList
  | 'h' => ByteText.ofNat (linkCount tree)
  | 'u' | 'g' => "1000".toList
  | 'U' | 'G' => "user".toList
  | 'b' => ByteText.ofNat ((sizeOf tree + 4095) / 4096 * 8)
  | 'B' => "512".toList
  | 'o' => "4096".toList
  | 'f' =>
    let kind := match tree with
      | .directory _ _ => 0x4000
      | .file _ _ => 0x8000
      | .link _ => 0xa000
      | .device _ => 0x2000
    Nat.toDigits 16 (kind + modeOf tree)
  | '%' => ['%']
  | _ => ['?']

/-- Fill a template with facts about a file. -/
def statText (path : ByteText) (tree : FileTree) (heedsEscapes : Bool) : Nat → ByteText → ByteText
  | 0, _ => []
  | limit + 1, text =>
    match text with
    | '%' :: letter :: rest => statField path tree letter ++ statText path tree heedsEscapes limit rest
    | '\\' :: 'n' :: rest =>
      if heedsEscapes then '\n' :: statText path tree heedsEscapes limit rest
      else '\\' :: statText path tree heedsEscapes limit ('n' :: rest)
    | '\\' :: 't' :: rest =>
      if heedsEscapes then '\t' :: statText path tree heedsEscapes limit rest
      else '\\' :: statText path tree heedsEscapes limit ('t' :: rest)
    | character :: rest => character :: statText path tree heedsEscapes limit rest
    | [] => []

/-- Tell facts about files. -/
def stat : Utility := fun call => do
  let (chosen, operands) ← readOptions call 1 (.of "c:fLt" [("format", .required, 'c'),
    ("printf", .required, 'P'), ("dereference", .nothing, 'L'), ("file-system", .nothing, 'f'),
    ("terse", .nothing, 't')])
  if operands.isEmpty then misuse call 1 "missing operand".toList
  let results ← operands.mapM fun path => do
    match ← (if chosen.has 'L' then find path else findLink path) with
    | .error error =>
      complain call (fault ((if chosen.has 'L' then "cannot stat " else "cannot statx ").toList ++
        quoted path) error)
      pure false
    | .ok tree =>
      match chosen.last? ['c', 'P'] with
      | some 'P' =>
        let template := (chosen.value? 'P').getD []
        emit call (statText path tree true (template.length + 1) template)
      | _ =>
        let template := (chosen.value? 'c').getD "  File: %N".toList
        emitLines call [statText path tree false (template.length + 1) template]
      pure true
  pure (statusOf (results.all id))

end CodeNavigator.Utility
