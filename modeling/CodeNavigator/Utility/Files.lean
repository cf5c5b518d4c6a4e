/-
This file defines the programs that make files, copy, move and remove them, link them and change
their modes.
-/

import CodeNavigator.FileTree.Layout
import CodeNavigator.FileTree.ModeChange
import CodeNavigator.Utility.Basic

namespace CodeNavigator.Utility

/-! ### Targets -/

/-- How a program treats its operands: the last one is the directory that takes all others, or the
name that one other gets. -/
inductive Target
  | into (directory : ByteText) (sources : List ByteText)
  | onto (source target : ByteText)

/-- The target that some operands and options mean. -/
def targetOf (call : Call) (chosen : Chosen) (operands : List ByteText) : Job Target := do
  match chosen.value? 't', operands with
  | some _, [] => misuse call 1 "missing file operand".toList
  | some directory, sources =>
    if ← isDirectory directory then pure (.into directory sources)
    else
      match ← find directory with
      | .ok _ => fail call 1 (fault ("target directory ".toList ++ quoted directory) .notDirectory)
      | .error error => fail call 1 (fault ("target directory ".toList ++ quoted directory) error)
  | none, [] => misuse call 1 "missing file operand".toList
  | none, [single] =>
    misuse call 1 ("missing destination file operand after ".toList ++ quoted single)
  | none, [source, target] =>
    if !chosen.has 'T' && (← isDirectory target) then pure (.into target [source])
    else pure (.onto source target)
  | none, several =>
    let last := several.getLast?.getD []
    if chosen.has 'T' then
      misuse call 1 ("extra operand ".toList ++ quoted (several[2]?.getD []))
    else if ← isDirectory last then pure (.into last several.dropLast)
    else
      match ← find last with
      | .ok _ => fail call 1 (fault ("target ".toList ++ quoted last) .notDirectory)
      | .error error => fail call 1 (fault ("target ".toList ++ quoted last) error)

/-- Do something with each source and the path that it gets, and tell whether all went well. -/
def forTargets (target : Target) (use : ByteText → ByteText → Job Bool) : Job Bool := do
  match target with
  | .onto source path => use source path
  | .into directory sources =>
    let results ← sources.mapM fun source =>
      use source (joinPath directory (lastName source))
    pure (results.all id)

/-- Where two paths lead to. -/
def leadToSame (first second : ByteText) : Job Bool := do
  let process ← get
  let locate (path : ByteText) := (process.machine.tree.locate process.place (pathOf path)).toOption
  match locate first, locate second with
  | some one, some other => pure (one = other)
  | _, _ => pure false

/-- Where a path leads to without its last link, or would lead to. -/
def placeOf (path : ByteText) : Job (Except SystemError FileTree.Place) := do
  let process ← get
  match process.machine.tree.trace false process.place (pathOf path) with
  | .ok destination => pure (.ok destination.place)
  | .error error => pure (.error error)

/-! ### Copies -/

/-- The options of `cp`. -/
def cpOptions : OptionSet where
  letters := "abdfHilLnPpRrsS:t:TuvxZ"
  names := [("archive", .nothing, 'a'), ("backup", .optional, 'b'), ("force", .nothing, 'f'),
    ("interactive", .nothing, 'i'), ("link", .nothing, 'l'), ("dereference", .nothing, 'L'),
    ("no-clobber", .nothing, 'n'), ("no-dereference", .nothing, 'P'),
    ("preserve", .optional, 'p'), ("parents", .nothing, '!'), ("recursive", .nothing, 'R'),
    ("symbolic-link", .nothing, 's'), ("target-directory", .required, 't'),
    ("no-target-directory", .nothing, 'T'), ("update", .optional, 'u'), ("verbose", .nothing, 'v')]

mutual

/-- A tree as a copy of it stands: without what the mask takes away, unless modes are kept. -/
def copied (keepsModes : Bool) (mask : Nat) : FileTree → FileTree
  | .directory mode entries =>
    .directory (if keepsModes then mode else ⟨mode.bits &&& (0o7777 ^^^ mask)⟩)
      (copiedEntries keepsModes mask entries)
  | .file mode content =>
    .file (if keepsModes then mode else ⟨mode.bits &&& (0o777 ^^^ mask)⟩) content
  | other => other

def copiedEntries (keepsModes : Bool) (mask : Nat) :
    List (String × FileTree) → List (String × FileTree)
  | [] => []
  | (name, tree) :: rest =>
    (name, copied keepsModes mask tree) :: copiedEntries keepsModes mask rest

end

mutual

/-- A tree put over another one, where directories keep the entries that nothing takes the place
of. -/
def merged (old : Option FileTree) : FileTree → FileTree
  | .directory mode entries =>
    match old with
    | some (.directory oldMode oldEntries) => .directory oldMode (mergedEntries oldEntries entries)
    | _ => .directory mode entries
  | .file mode content =>
    match old with
    | some (.file oldMode _) => .file oldMode content
    | _ => .file mode content
  | other => other

def mergedEntries (old : List (String × FileTree)) :
    List (String × FileTree) → List (String × FileTree)
  | [] => old
  | (name, tree) :: rest =>
    let found := (old.find? fun entry => entry.1 = name).map Prod.snd
    mergedEntries (FileTree.put name (merged found tree) old) rest

end

/-- Tell that something was done if that is asked for. -/
def announce (call : Call) (chosen : Chosen) (text : ByteText) : Job Unit :=
  if chosen.has 'v' then emitLines call [text] else pure ()

/-- Copy a file to a path. -/
def copyFile (call : Call) (chosen : Chosen) (source target : ByteText) (mode : Mode)
    (content : List UInt8) : Job Bool := do
  let process ← get
  let tree := process.machine.tree
  let bits := if chosen.has 'p' || chosen.has 'a' then mode.bits
    else mode.bits &&& (0o777 ^^^ process.mask)
  let isDangling := match tree.trace true process.place (pathOf target),
      tree.resolveLink process.place (pathOf target) with
    | .ok (.missing _), .ok (.link _) => true
    | _, _ => false
  let create (tree : FileTree) : Job Bool := do
    match tree.writeFile process.place (pathOf target) ⟨bits⟩ content with
    | .ok changed =>
      Job.setTree changed
      announce call chosen (quoted source ++ " -> ".toList ++ quoted target)
      pure true
    | .error error =>
      let reason := if error = .isDirectory then SystemError.notDirectory else error
      complain call (fault ("cannot create regular file ".toList ++ quoted target) reason)
      pure false
  if isDangling then
    complain call ("not writing through dangling symlink ".toList ++ quoted target)
    pure false
  else
    match tree.resolve process.place (pathOf target) with
    | .ok (.directory _ _) =>
      complain call ("cannot overwrite directory ".toList ++ quoted target ++
        " with non-directory".toList)
      pure false
    | .ok (.file old _) =>
      if old.mayWrite then create tree
      else if chosen.has 'f' then
        match tree.removeFile process.place (pathOf target) with
        | .ok without => create without
        | .error error =>
          complain call (fault ("cannot remove ".toList ++ quoted target) error)
          pure false
      else
        complain call (fault ("cannot create regular file ".toList ++ quoted target)
          .permissionDenied)
        pure false
    | _ => create tree

/-- Copy a directory or a link to a path. -/
def copyTree (call : Call) (chosen : Chosen) (source target : ByteText) (found : FileTree) :
    Job Bool := do
  let process ← get
  let tree := process.machine.tree
  let refuse (error : SystemError) : Job Bool := do
    let kind := if found.isDirectory then "directory " else "symbolic link "
    complain call (fault ("cannot create ".toList ++ kind.toList ++ quoted target) error)
    pure false
  match ← placeOf source, ← placeOf target with
  | .ok from_, .ok place =>
    if found.isDirectory && (place = from_ || from_.isSuffixOf place) then
      complain call ("cannot copy a directory, ".toList ++ quoted source ++ ", into itself, ".toList ++
        quoted target)
      pure false
    else
      let old := tree.look place
      let new := copied (chosen.has 'p' || chosen.has 'a') process.mask found
      match old, found.isDirectory with
      | some (.file _ _), true | some (.link _), true | some (.device _), true =>
        complain call ("cannot overwrite non-directory ".toList ++ quoted target ++
          " with directory ".toList ++ quoted source)
        pure false
      | some (.directory _ _), false =>
        complain call ("cannot overwrite directory ".toList ++ quoted target ++
          " with non-directory".toList)
        pure false
      | _, _ =>
        match old.map fun _ => (), tree.checkChange place with
        | none, .error error => refuse error
        | _, _ =>
          Job.setTree (tree.setAt place (merged old new))
          announce call chosen (quoted source ++ " -> ".toList ++ quoted target)
          pure true
  | _, .error error => refuse error
  | .error error, _ => refuse error

/-- Copy what one path leads to to another path. -/
def copyOne (call : Call) (chosen : Chosen) (source target : ByteText) : Job Bool := do
  let isDeep := chosen.has 'r' || chosen.has 'R' || chosen.has 'a'
  let keepsLinks := chosen.has 'P' || chosen.has 'd' || chosen.has 'a' ||
    (isDeep && !chosen.has 'L' && !chosen.has 'H')
  match ← (if keepsLinks then findLink source else find source) with
  | .error error =>
    complain call (fault ("cannot stat ".toList ++ quoted source) error)
    pure false
  | .ok found =>
    let isThere := (← findLink target).toOption.isSome
    if found.isDirectory && !isDeep then
      complain call ("-r not specified; omitting directory ".toList ++ quoted source)
      pure false
    else if !found.isDirectory && (← leadToSame source target) then
      complain call (quoted source ++ " and ".toList ++ quoted target ++
        " are the same file".toList)
      pure false
    else if chosen.has 'n' && isThere && !found.isDirectory then pure true
    else if chosen.has 's' then
      let process ← get
      match process.machine.tree.makeLink process.place (pathOf target) (pathOf source) with
      | .ok tree =>
        Job.setTree tree
        pure true
      | .error error =>
        complain call (fault ("cannot create symbolic link ".toList ++ quoted target ++
          " to ".toList ++ quoted source) error)
        pure false
    else
      match found with
      | .file mode content =>
        if mode.mayRead then copyFile call chosen source target mode content
        else
          complain call (fault ("cannot open ".toList ++ quoted source ++ " for reading".toList)
            .permissionDenied)
          pure false
      | .device _ =>
        match ← readInput source with
        | .ok text => copyFile call chosen source target .plain (ByteText.toBytes text)
        | .error error =>
          complain call (fault ("cannot open ".toList ++ quoted source ++ " for reading".toList) error)
          pure false
      | other => copyTree call chosen source target other

/-- Copy files. -/
def cp : Utility := fun call => do
  let (chosen, operands) ← readOptions call 1 cpOptions
  let target ← targetOf call chosen operands
  match target with
  | .into directory sources =>
    if chosen.has '!' then
      let results ← sources.mapM fun source => do
        let process ← get
        let path := pathOf (joinPath directory source)
        match process.machine.tree.makeWay process.place path with
        | .ok tree => Job.setTree tree
        | .error _ => pure ()
        copyOne call chosen source (joinPath directory source)
      pure (statusOf (results.all id))
    else pure (statusOf (← forTargets target (copyOne call chosen)))
  | _ => pure (statusOf (← forTargets target (copyOne call chosen)))

/-! ### Moves -/

/-- The options of `mv`. -/
def mvOptions : OptionSet where
  letters := "bfinS:t:TuvZ"
  names := [("force", .nothing, 'f'), ("interactive", .nothing, 'i'), ("no-clobber", .nothing, 'n'),
    ("target-directory", .required, 't'), ("no-target-directory", .nothing, 'T'),
    ("update", .optional, 'u'), ("verbose", .nothing, 'v')]

/-- Move what one path leads to to another path. -/
def moveOne (call : Call) (chosen : Chosen) (source target : ByteText) : Job Bool := do
  let process ← get
  let tree := process.machine.tree
  let refuse (message : ByteText) : Job Bool := do
    complain call message
    pure false
  let cannotMove (error : SystemError) : Job Bool :=
    refuse (fault ("cannot move ".toList ++ quoted source ++ " to ".toList ++ quoted target) error)
  match ← placeOf source with
  | .error error => refuse (fault ("cannot stat ".toList ++ quoted source) error)
  | .ok from_ =>
    match tree.look from_ with
    | none => refuse (fault ("cannot stat ".toList ++ quoted source) .noSuchFile)
    | some node =>
      match ← placeOf target with
      | .error error => cannotMove error
      | .ok place =>
        let old := tree.look place
        if place = from_ then
          refuse (quoted source ++ " and ".toList ++ quoted target ++
            " are the same file".toList)
        else if chosen.has 'n' && old.isSome then
          refuse ("not replacing ".toList ++ quoted target)
        else if node.isDirectory && from_.isSuffixOf place then
          refuse ("cannot move ".toList ++ quoted source ++ " to a subdirectory of itself, ".toList ++
            quoted target)
        else
          match old, node.isDirectory with
          | some (.directory _ (_ :: _)), true =>
            refuse (fault ("cannot overwrite ".toList ++ quoted target) .notEmpty)
          | some (.directory _ _), false =>
            refuse ("cannot overwrite directory ".toList ++ quoted target ++
              " with non-directory".toList)
          | some (.file _ _), true | some (.link _), true | some (.device _), true =>
            refuse ("cannot overwrite non-directory ".toList ++ quoted target ++
              " with directory ".toList ++ quoted source)
          | _, _ =>
            let changed := do
              tree.checkChange place
              let taken ← tree.removeAt from_
              .ok (taken.setAt place node)
            match changed with
            | .ok tree =>
              Job.setTree tree
              announce call chosen ("renamed ".toList ++ quoted source ++ " -> ".toList ++
                quoted target)
              pure true
            | .error error => cannotMove error

/-- Move files. -/
def mv : Utility := fun call => do
  let (chosen, operands) ← readOptions call 1 mvOptions
  let target ← targetOf call chosen operands
  pure (statusOf (← forTargets target (moveOne call chosen)))

/-! ### Links -/

/-- The options of `ln`. -/
def lnOptions : OptionSet where
  letters := "bdfFiLnPrsS:t:Tv"
  names := [("force", .nothing, 'f'), ("no-dereference", .nothing, 'n'), ("relative", .nothing, 'r'),
    ("symbolic", .nothing, 's'), ("target-directory", .required, 't'),
    ("no-target-directory", .nothing, 'T'), ("verbose", .nothing, 'v')]

/-- The way from the directory of one place to another place. -/
def wayBetween (near far : FileTree.Place) : ByteText :=
  let start := near.reverse
  let finish := far.reverse
  let common := ((start.zip finish).takeWhile fun pair => pair.1 = pair.2).length
  let up := List.replicate (start.length - common) ['.', '.']
  let names := up ++ (finish.drop common).map ByteText.ofString
  if names.isEmpty then ['.'] else Text.join '/' names

/-- Make one link to a source at a path. -/
def linkOne (call : Call) (chosen : Chosen) (source path : ByteText) : Job Bool := do
  let isSymbolic := chosen.has 's'
  let refuse (message : ByteText) : Job Bool := do
    complain call message
    pure false
  let title := if isSymbolic then "symbolic link " else "hard link "
  if chosen.has 'f' then
    let process ← get
    match process.machine.tree.removeFile process.place (pathOf path) with
    | .ok tree => if !(← leadToSame source path) || isSymbolic then Job.setTree tree
    | .error _ => pure ()
  let process ← get
  let tree := process.machine.tree
  let finish (made : Except SystemError FileTree) (shownTarget : ByteText) : Job Bool := do
    match made with
    | .ok changed =>
      Job.setTree changed
      announce call chosen (quoted path ++ (if isSymbolic then " -> " else " => ").toList ++
        quoted shownTarget)
      pure true
    | .error error =>
      refuse (fault ("failed to create ".toList ++ title.toList ++ quoted path) error)
  if isSymbolic then
    let target ← if chosen.has 'r' then do
        match ← placeOf source, ← placeOf path with
        | .ok target, .ok place => pure (wayBetween place.tail target)
        | _, _ => pure source
      else pure source
    if target.isEmpty then
      refuse (fault ("failed to create symbolic link ".toList ++ quoted path) .noSuchFile)
    else finish (tree.makeLink process.place (pathOf path) (pathOf target)) target
  else
    match tree.resolveLink process.place (pathOf source) with
    | .error error => refuse (fault ("failed to access ".toList ++ quoted source) error)
    | .ok node =>
      if node.isDirectory then
        refuse (shown source ++ ": hard link not allowed for directory".toList)
      else finish (tree.putNew process.place (pathOf path) node) source

/-- Make links. -/
def ln : Utility := fun call => do
  let (chosen, operands) ← readOptions call 1 lnOptions
  match chosen.value? 't', operands with
  | none, [] => misuse call 1 "missing file operand".toList
  | none, [single] =>
    pure (statusOf (← linkOne call chosen single (joinPath ['.'] (lastName single))))
  | none, [source, path] =>
    let isLinkItself := chosen.has 'n' && (match ← findLink path with
      | .ok (.link _) => true
      | _ => false)
    if !chosen.has 'T' && !isLinkItself && (← isDirectory path) then
      pure (statusOf (← linkOne call chosen source (joinPath path (lastName source))))
    else pure (statusOf (← linkOne call chosen source path))
  | _, _ =>
    let target ← targetOf call chosen operands
    pure (statusOf (← forTargets target (linkOne call chosen)))

/-! ### Removal -/

/-- The options of `rm`. -/
def rmOptions : OptionSet where
  letters := "dfiIrRv"
  names := [("dir", .nothing, 'd'), ("force", .nothing, 'f'), ("interactive", .optional, 'i'),
    ("recursive", .nothing, 'r'), ("verbose", .nothing, 'v'), ("preserve-root", .optional, '!'),
    ("no-preserve-root", .nothing, '?'), ("one-file-system", .nothing, 'x')]

mutual

/-- The paths of all that is in a tree, each directory behind what is in it. -/
def pathsBelow (path : ByteText) : FileTree → List (ByteText × Bool)
  | .directory _ entries => pathsOfEntries path entries ++ [(path, true)]
  | _ => [(path, false)]

def pathsOfEntries (path : ByteText) : List (String × FileTree) → List (ByteText × Bool)
  | [] => []
  | (name, tree) :: rest =>
    pathsBelow (joinPath path (ByteText.ofString name)) tree ++ pathsOfEntries path rest

end

/-- Remove what a path stands for. -/
def removeOne (call : Call) (chosen : Chosen) (path : ByteText) : Job Bool := do
  let process ← get
  let tree := process.machine.tree
  let isDeep := chosen.has 'r' || chosen.has 'R'
  let cannot (error : SystemError) : Job Bool := do
    if chosen.has 'f' && (error = .noSuchFile || error = .notDirectory) then pure true
    else
      complain call (fault ("cannot remove ".toList ++ quoted path) error)
      pure false
  let name := lastName path
  if isDeep && (name = ['.'] || name = ['.', '.']) then
    complain call ("refusing to remove '.' or '..' directory: skipping ".toList ++ quoted path)
    pure false
  else if isDeep && (path.all (· = '/')) && !path.isEmpty && !chosen.has '?' then
    complain call ("it is dangerous to operate recursively on ".toList ++ quoted path)
    complain call "use --no-preserve-root to override this failsafe".toList
    pure false
  else
    let finish (removed : Except SystemError FileTree) (lines : List ByteText) : Job Bool := do
      match removed with
      | .ok changed =>
        Job.setTree changed
        if chosen.has 'v' then emitLines call lines
        pure true
      | .error error => cannot error
    match tree.resolveLink process.place (pathOf path) with
    | .error error => cannot error
    | .ok (.directory mode entries) =>
      if isDeep then
        let lines := (pathsBelow path (.directory mode entries)).map fun (path, isDirectory) =>
          (if isDirectory then "removed directory " else "removed ").toList ++ quoted path
        finish (tree.removeWhole process.place (pathOf path)) lines
      else if chosen.has 'd' then
        finish (tree.removeDirectory process.place (pathOf path))
          ["removed directory ".toList ++ quoted path]
      else cannot .isDirectory
    | .ok _ =>
      finish (tree.removeFile process.place (pathOf path)) ["removed ".toList ++ quoted path]

/-- Remove files. -/
def rm : Utility := fun call => do
  let (chosen, operands) ← readOptions call 1 rmOptions
  if operands.isEmpty && !chosen.has 'f' then misuse call 1 "missing operand".toList
  let results ← operands.mapM (removeOne call chosen)
  pure (statusOf (results.all id))

/-- Remove one file. -/
def unlink : Utility := fun call => do
  let (_, operands) ← readOptions call 1 (.of "" [])
  match operands with
  | [path] =>
    let process ← get
    match process.machine.tree.removeFile process.place (pathOf path) with
    | .ok tree =>
      Job.setTree tree
      pure 0
    | .error error => fail call 1 (fault ("cannot unlink ".toList ++ quoted path) error)
  | [] => misuse call 1 "missing operand".toList
  | _ :: extra :: _ => refuseOperand call extra

/-! ### Directories -/

/-- The mode that an option asks for. -/
def readMode (call : Call) (chosen : Chosen) (standard : Nat) : Job Mode := do
  match chosen.value? 'm' with
  | none => newMode standard
  | some text =>
    match Mode.change? text (← get).mask true ⟨standard⟩ with
    | some mode => pure mode
    | none => fail call 1 ("invalid mode ".toList ++ quoted text)

/-- The directories on the way to a path, the shortest first, and the path itself. -/
def leadsOf (path : ByteText) : List ByteText :=
  (FileTree.leadingPaths (pathOf (ByteText.dropEnd (· = '/') path))).map fun lead =>
    ByteText.ofString lead.text

/-- Make one directory. -/
def makeOne (call : Call) (chosen : Chosen) (mode : Mode) (path : ByteText) : Job Bool := do
  let made (path : ByteText) (mode : Mode) : Job (Except SystemError Unit) := do
    match ← Job.changeTree fun tree place => tree.makeDirectory place (pathOf path) mode with
    | .ok () =>
      announce call chosen (call.name ++ ": created directory ".toList ++ quoted path)
      pure (.ok ())
    | .error error => pure (.error error)
  let refuse (path : ByteText) (error : SystemError) : Job Bool := do
    complain call (fault ("cannot create directory ".toList ++ quoted path) error)
    pure false
  if !chosen.has 'p' then
    match ← made path mode with
    | .ok () => pure true
    | .error error => refuse path error
  else
    let standard ← newMode 0o777
    let leads := leadsOf path
    let rec go : List ByteText → Job Bool
      | [] => pure true
      | lead :: rest => do
        if ← isDirectory lead then go rest
        else
          match ← made lead (if rest.isEmpty then mode else standard) with
          | .ok () => go rest
          | .error error =>
            refuse lead (if error = .fileExists && !rest.isEmpty then .notDirectory else error)
    if leads.isEmpty && path.isEmpty then refuse path .noSuchFile else go leads

/-- Make directories. -/
def mkdir : Utility := fun call => do
  let (chosen, operands) ← readOptions call 1 (.of "m:pvZ" [("mode", .required, 'm'),
    ("parents", .nothing, 'p'), ("verbose", .nothing, 'v')])
  if operands.isEmpty then misuse call 1 "missing operand".toList
  let mode ← readMode call chosen 0o777
  let results ← operands.mapM (makeOne call chosen mode)
  pure (statusOf (results.all id))

/-- Remove an empty directory, and those on the way to it where that is asked for. -/
def removeEmpty (call : Call) (chosen : Chosen) (path : ByteText) : Job Bool := do
  let paths := if chosen.has 'p' then
      (leadsOf path).reverse.filter fun lead => !lead.all (· = '/')
    else [path]
  let rec go (isFirst : Bool) : List ByteText → Job Bool
    | [] => pure true
    | path :: rest => do
      announce call chosen (call.name ++ ": removing directory, ".toList ++ quoted path)
      match ← Job.changeTree fun tree place => tree.removeDirectory place (pathOf path) with
      | .ok () => go false rest
      | .error error =>
        if error = .notEmpty && chosen.has '!' then pure true
        else
          let title := if isFirst then "failed to remove " else "failed to remove directory "
          complain call (fault (title.toList ++ quoted path) error)
          pure false
  go true paths

/-- Remove empty directories. -/
def rmdir : Utility := fun call => do
  let (chosen, operands) ← readOptions call 1 (.of "pv" [("parents", .nothing, 'p'),
    ("verbose", .nothing, 'v'), ("ignore-fail-on-non-empty", .nothing, '!')])
  if operands.isEmpty then misuse call 1 "missing operand".toList
  let results ← operands.mapM (removeEmpty call chosen)
  pure (statusOf (results.all id))

/-! ### Single files -/

/-- The options of `touch`. -/
def touchOptions : OptionSet where
  letters := "acd:fhmr:t:"
  names := [("no-create", .nothing, 'c'), ("date", .required, 'd'), ("no-dereference", .nothing, 'h'),
    ("reference", .required, 'r'), ("time", .required, '!')]

/-- Make a file if nothing is there. -/
def touchOne (call : Call) (chosen : Chosen) (path : ByteText) : Job Bool := do
  let process ← get
  let mode ← newMode 0o666
  let refuse (title : String) (error : SystemError) : Job Bool := do
    complain call (fault (title.toList ++ quoted path) error)
    pure false
  match process.machine.tree.trace true process.place (pathOf path) with
  | .ok (.existing place) =>
    match process.machine.tree.look place with
    | some (.file _ _) =>
      if path.getLast? = some '/' then refuse "setting times of " .notDirectory else pure true
    | _ => pure true
  | .ok (.missing _) =>
    if chosen.has 'c' then pure true
    else
      match process.machine.tree.openFile process.place (pathOf path) mode with
      | .ok (tree, _) =>
        Job.setTree tree
        pure true
      | .error .isDirectory => refuse "setting times of " .noSuchFile
      | .error error => refuse "cannot touch " error
  | .error error =>
    if error = .notDirectory && path.getLast? = some '/' then
      refuse "setting times of " .notDirectory
    else if chosen.has 'c' && error = .noSuchFile then pure true
    else refuse "cannot touch " error

/-- Make files that are not there. -/
def touch : Utility := fun call => do
  let (chosen, operands) ← readOptions call 1 touchOptions
  match chosen.value? 'r' with
  | some reference =>
    match ← find reference with
    | .error error => fail call 1 (fault ("failed to get attributes of ".toList ++ quoted reference) error)
    | .ok _ => pure ()
  | none => pure ()
  if operands.isEmpty then misuse call 1 "missing file operand".toList
  let results ← operands.mapM (touchOne call chosen)
  pure (statusOf (results.all id))

/-- The options of `chmod`. -/
def chmodOptions : OptionSet where
  letters := "cfRvrwxXstugoa"
  names := [("changes", .nothing, 'c'), ("quiet", .nothing, 'f'), ("silent", .nothing, 'f'),
    ("recursive", .nothing, 'R'), ("reference", .required, '!'), ("verbose", .nothing, 'v')]

/-- The letters of a mode in nine places. -/
def modeLetters (bits : Nat) : ByteText :=
  let three (shift special : Nat) (letter : Char) : ByteText :=
    let part := bits / shift % 8
    let isSpecial := bits &&& special ≠ 0
    let isProgram := part &&& 1 ≠ 0
    [if part &&& 4 ≠ 0 then 'r' else '-', if part &&& 2 ≠ 0 then 'w' else '-',
      if isSpecial then if isProgram then letter else letter.toUpper
      else if isProgram then 'x' else '-']
  three 64 0o4000 's' ++ three 8 0o2000 's' ++ three 1 0o1000 't'

mutual

/-- A tree with the modes of all that is in it changed. -/
def changedModes (change : Bool → Mode → Mode) : FileTree → FileTree
  | .directory mode entries => .directory (change true mode) (changedEntries change entries)
  | .file mode content => .file (change false mode) content
  | other => other

def changedEntries (change : Bool → Mode → Mode) :
    List (String × FileTree) → List (String × FileTree)
  | [] => []
  | (name, tree) :: rest => (name, changedModes change tree) :: changedEntries change rest

end

/-- Change the mode of what a path leads to. -/
def changeMode (call : Call) (chosen : Chosen) (change : Bool → Mode → Mode) (path : ByteText) :
    Job Bool := do
  let process ← get
  let tree := process.machine.tree
  match tree.locate process.place (pathOf path) with
  | .error error =>
    let isDangling := match tree.resolveLink process.place (pathOf path) with
      | .ok (.link _) => true
      | _ => false
    if !chosen.has 'f' then
      if isDangling && error = .noSuchFile then
        complain call ("cannot operate on dangling symlink ".toList ++ quoted path)
      else complain call (fault ("cannot access ".toList ++ quoted path) error)
    pure false
  | .ok place =>
    let mode? : Option (Bool × Mode) := match tree.look place with
      | some (.directory mode _) => some (true, mode)
      | some (.file mode _) => some (false, mode)
      | _ => none
    match mode?, tree.look place with
    | some (isDirectory, old), some node =>
      let new := change isDirectory old
      if chosen.has 'R' then Job.setTree (tree.setAt place (changedModes change node))
      else Job.setTree (tree.setMode place new)
      let show_ (mode : Mode) : ByteText :=
        Mode.octal mode.bits ++ " (".toList ++ modeLetters mode.bits ++ [')']
      if new = old then
        if chosen.has 'v' then
          emitLines call ["mode of ".toList ++ quoted path ++ " retained as ".toList ++ show_ old]
      else if chosen.has 'v' || chosen.has 'c' then
        emitLines call ["mode of ".toList ++ quoted path ++ " changed from ".toList ++ show_ old ++
          " to ".toList ++ show_ new]
      pure true
    | _, _ =>
      complain call (fault ("changing permissions of ".toList ++ quoted path) .notPermitted)
      pure false

/-- Change the modes of files. -/
def chmod : Utility := fun call => do
  let isModeOption (argument : ByteText) : Bool :=
    match argument with
    | '-' :: letter :: _ => "rwxXstugoa".toList.contains letter
    | _ => false
  let minus := call.arguments.filter isModeOption
  let others := call.arguments.filter fun argument => !isModeOption argument
  let (chosen, given) ← readOptions { call with arguments := others } 1 chmodOptions
  let operands := if minus.isEmpty then given else Text.join ',' minus :: given
  match operands with
  | [] => misuse call 1 "missing operand".toList
  | [text] => misuse call 1 ("missing operand after ".toList ++ literal text)
  | text :: paths =>
    let mask := (← get).mask
    match Mode.change? text mask false ⟨0⟩ with
    | none => misuse call 1 ("invalid mode: ".toList ++ quoted text)
    | some _ =>
      let change (isDirectory : Bool) (mode : Mode) : Mode :=
        let new := (Mode.change? text mask isDirectory mode).getD mode
        let isShort := text.all Char.isDigit && text.length < 5
        if isDirectory && isShort then ⟨new.bits ||| (mode.bits &&& 0o6000)⟩ else new
      let results ← paths.mapM (changeMode call chosen change)
      pure (statusOf (results.all id))

/-! ### Temporary files -/

/-- The options of `mktemp`. -/
def mktempOptions : OptionSet where
  letters := "dp:qtuV"
  names := [("directory", .nothing, 'd'), ("quiet", .nothing, 'q'), ("dry-run", .nothing, 'u'),
    ("tmpdir", .optional, 'p'), ("suffix", .required, '!')]

/-- Letters that differ from call to call. -/
def freshLetters (count seed : Nat) : ByteText :=
  let alphabet := "abcdefghijklmnopqrstuvwxyzABCDEFGHIJKLMNOPQRSTUVWXYZ0123456789".toList
  (List.range count).map fun index =>
    (alphabet[(seed * 7919 + (index + 3) * (index + 11) * (seed + 31)) % 62]?).getD 'x'

/-- Make a file or a directory with a new name, and tell the name. -/
def mktemp : Utility := fun call => do
  let (chosen, operands) ← readOptions call 1 mktempOptions
  let template := operands.head?.getD "tmp.XXXXXXXXXX".toList
  let kind := if chosen.has 'd' then "directory" else "file"
  let suffix := (template.reverse.takeWhile (· ≠ 'X')).reverse
  let body := template.take (template.length - suffix.length)
  let marks := (body.reverse.takeWhile (· = 'X')).length
  if marks < 3 then
    fail call 1 ("too few X's in template ".toList ++ quoted template)
  let process ← get
  let base := (chosen.value? 'p').map fun directory =>
    if directory.isEmpty then "/tmp".toList else directory
  let directory := match base with
    | some directory => some directory
    | none => if operands.isEmpty || chosen.has 't' then some "/tmp".toList else none
  let whole (text : ByteText) : ByteText := match directory with
    | some directory => joinPath directory text
    | none => text
  let seed := process.machine.files.size + process.number * 64 + process.machine.tree.height
  let path := whole (body.take (body.length - marks) ++ freshLetters marks seed ++ suffix)
  let made ← if chosen.has 'u' then pure (.ok ())
    else if chosen.has 'd' then
      Job.changeTree fun tree place => tree.makeDirectory place (pathOf path) ⟨0o700⟩
    else Job.changeTree fun tree place => tree.putNew place (pathOf path) (.file ⟨0o600⟩ [])
  match made with
  | .ok () =>
    emitLines call [path]
    pure 0
  | .error error =>
    if chosen.has 'q' then pure 1
    else
      fail call 1 (fault (ByteText.ofString ("failed to create " ++ kind ++ " via template ") ++
        quoted (whole template)) error)

end CodeNavigator.Utility
