/-
This file defines paths. A path keeps the text it was written with, and is read as a list of
components: repeated slashes, trailing slashes and inner dots name nothing, a leading slash is the
root, and a dot is a component only as the first one of a relative path. Two spellings are the same
path when their components agree. Parents and joins are taken on the text, so that what is printed
keeps the spelling it came in.
-/

import CodeNavigator.Text.Split

namespace CodeNavigator

/-- A path, kept as its text. -/
structure Path where
  text : String
deriving DecidableEq, Inhabited

namespace Path

/-- One step of a path. -/
inductive Component
  | root
  | current
  | parent
  | normal (name : String)
deriving DecidableEq

/-! ### Reading a path -/

/-- Whether a segment between slashes names no step. -/
def isBlank (segment : List Char) : Bool :=
  segment = [] || segment = ['.']

/-- The step that a segment names, if it names one. -/
def component? (segment : List Char) : Option Component :=
  if isBlank segment then none
  else if segment = ['.', '.'] then some .parent
  else some (.normal (String.ofList segment))

/-- A text taken apart into its first component, if that is the root or the current directory,
with the characters that write it, and the segments of what follows. -/
def anatomy (text : List Char) : Option Component × List Char × List (List Char) :=
  match text with
  | '/' :: rest => (some .root, ['/'], Text.split '/' rest)
  | ['.'] => (some .current, ['.'], [[]])
  | '.' :: '/' :: rest => (some .current, ['.'], [] :: Text.split '/' rest)
  | all => (none, [], Text.split '/' all)

/-- The components of a path, in order. -/
def components (path : Path) : List Component :=
  let (first, _, segments) := anatomy path.text.toList
  first.toList ++ segments.filterMap component?

/-- Whether two paths have the same components. -/
def Same (left right : Path) : Prop :=
  left.components = right.components

instance (left right : Path) : Decidable (Same left right) :=
  inferInstanceAs (Decidable (left.components = right.components))

/-- Whether a path starts at the root. -/
def isAbsolute (path : Path) : Bool :=
  path.text.toList.head? = some '/'

/-- Whether the components of one path begin with those of another. -/
def startsWith (path start : Path) : Bool :=
  start.components.isPrefixOf path.components

/-- The name that the last component gives, if it gives one. -/
def fileName (path : Path) : Option String :=
  match path.components.getLast? with
  | some (.normal name) => some name
  | _ => none

/-! ### Parents and joins -/

/-- The path without its last component, in the spelling of the rest. The root and the empty path
have no parent. -/
def parent (path : Path) : Option Path :=
  let (first, lead, segments) := anatomy path.text.toList
  match segments.reverse.dropWhile isBlank with
  | _ :: before =>
    some ⟨String.ofList (lead ++ Text.join '/' (before.dropWhile isBlank).reverse)⟩
  | [] => if first = some .current then some ⟨""⟩ else none

/-- A path below another. An absolute right side replaces the left side; otherwise the two texts
meet at exactly one slash that the left side need not bring, except that nothing precedes the
right side when the left side is empty. -/
def join (left right : Path) : Path :=
  if right.isAbsolute then right
  else
    match left.text.toList.getLast? with
    | none | some '/' => ⟨left.text ++ right.text⟩
    | some _ => ⟨left.text ++ "/" ++ right.text⟩

end Path

end CodeNavigator
