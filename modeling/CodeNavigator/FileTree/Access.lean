/-
This file finds files the way an operating system does. A path is walked from the directory it
starts in, or from the root, one segment at a time: a dot stays where it is, two dots go up, and a
link is replaced by the segments of its target. Every segment needs a directory to stand in, and one
that may be walked through unless the segment is empty. The number of links on one walk is limited,
so that links that lead back to themselves are an error and not a walk without end.
-/

import CodeNavigator.FileTree.Basic
import CodeNavigator.Failure

namespace CodeNavigator.FileTree

/-! ### Walking -/

/-- A place in a tree: the names that lead to it, the last one first. -/
abbrev Place := List String

/-- What stands at a place. -/
def look (tree : FileTree) (place : Place) : Option FileTree :=
  tree.at? place.reverse

/-- The segments of a path between its slashes. -/
def segments (path : Path) : List (List Char) :=
  Text.split '/' path.text.toList

/-- How long the name of a file may be, in bytes. -/
def longestName : Nat := 255

/-- How long a path may be, in bytes. -/
def longestPath : Nat := 4095

/-- How many links one walk may follow. -/
def linkLimit : Nat := 40

/-- Where a walk ends: at something, or in a directory that lacks the last name. -/
inductive Destination
  | existing (place : Place)
  | missing (place : Place)

/-- The place of a destination, whether something stands there or not. -/
def Destination.place : Destination → Place
  | .existing place => place
  | .missing place => place

/-- Walk along some segments. A link is handed over with the place it stands at and the segments
behind it; one at the very end is followed if that is asked for. -/
def walkWith (tree : FileTree) (followsLast : Bool)
    (follow : Path → Place → List (List Char) → Except SystemError Destination) :
    Place → List (List Char) → Except SystemError Destination
  | place, [] => .ok (.existing place)
  | place, segment :: rest =>
    match tree.look place with
    | some (.directory mode _) =>
      if segment = [] then walkWith tree followsLast follow place rest
      else if !mode.mayExecute then .error .permissionDenied
      else if segment = ['.'] then walkWith tree followsLast follow place rest
      else if segment = ['.', '.'] then walkWith tree followsLast follow place.tail rest
      else
        let name := String.ofList segment
        if longestName < name.utf8ByteSize then .error .nameTooLong
        else
          match tree.look (name :: place) with
          | none =>
            if rest.all List.isEmpty then .ok (.missing (name :: place)) else .error .noSuchFile
          | some (.link target) =>
            if rest.isEmpty && !followsLast then .ok (.existing (name :: place))
            else follow target place rest
          | some _ => walkWith tree followsLast follow (name :: place) rest
    | _ => .error .notDirectory

/-- Walk along some segments over at most so many links. -/
def walk (tree : FileTree) (followsLast : Bool) :
    Nat → Place → List (List Char) → Except SystemError Destination
  | 0 => walkWith tree followsLast fun _ _ _ => .error .tooManyLinks
  | links + 1 => walkWith tree followsLast fun target place rest =>
      walk tree followsLast links (if target.isAbsolute then [] else place)
        (segments target ++ rest)

/-- Where a path leads to from a directory. -/
def trace (tree : FileTree) (followsLast : Bool) (start : Place) (path : Path) :
    Except SystemError Destination :=
  if path.text.contains '\x00' then .error .nulInName
  else if path.text = "" then .error .noSuchFile
  else if longestPath < path.text.utf8ByteSize then .error .nameTooLong
  else tree.walk followsLast linkLimit (if path.isAbsolute then [] else start) (segments path)

/-- The place of something that is there. -/
def Destination.reached : Destination → Except SystemError Place
  | .existing place => .ok place
  | .missing _ => .error .noSuchFile

/-- The place that a path leads to from a directory. -/
def locate (tree : FileTree) (start : Place) (path : Path) : Except SystemError Place :=
  (tree.trace true start path).bind Destination.reached

/-- The place that a path leads to when a link at its end is not followed. -/
def locateLink (tree : FileTree) (start : Place) (path : Path) : Except SystemError Place :=
  (tree.trace false start path).bind Destination.reached

/-- What stands at a place that was found. -/
def found (tree : FileTree) (place : Place) : Except SystemError FileTree :=
  match tree.look place with
  | some found => .ok found
  | none => .error .noSuchFile

/-- What stands at the end of a path. -/
def resolve (tree : FileTree) (start : Place) (path : Path) : Except SystemError FileTree :=
  (tree.locate start path).bind tree.found

/-- What stands at the end of a path, links at its end included. -/
def resolveLink (tree : FileTree) (start : Place) (path : Path) : Except SystemError FileTree :=
  (tree.locateLink start path).bind tree.found

/-! ### Reading -/

/-- The entries of a directory, in the order of the tree. -/
def readDirectory (tree : FileTree) (start : Place) (path : Path) :
    Except SystemError (List (String × FileTree)) :=
  match tree.resolve start path with
  | .ok (.directory mode entries) =>
    if mode.mayRead then .ok entries else .error .permissionDenied
  | .ok _ => .error .notDirectory
  | .error error => .error error

/-- Whether a path leads to a directory. -/
def leadsToDirectory (tree : FileTree) (start : Place) (path : Path) : Bool :=
  match tree.resolve start path with
  | .ok found => found.isDirectory
  | .error _ => false

/-- The content of a file. Devices hold nothing. -/
def readFile (tree : FileTree) (start : Place) (path : Path) :
    Except SystemError (List UInt8) :=
  match tree.resolve start path with
  | .ok (.file mode content) => if mode.mayRead then .ok content else .error .permissionDenied
  | .ok (.directory _ _) => .error .isDirectory
  | .ok (.device _) => .ok []
  | .ok (.link _) => .error .noSuchFile
  | .error error => .error error

end CodeNavigator.FileTree
