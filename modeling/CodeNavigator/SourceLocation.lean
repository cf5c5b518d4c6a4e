/-
This file defines positions in source files and their text form: the path, the line and the column
with a delimiter between them. The text is read from its right end, so a path may hold the
delimiter itself. Lines and columns are plain decimal numbers from 1 to 4294967295. A text that is
no position is blamed on the first check that fails: the number of segments, the path, the line,
the column.
-/

import CodeNavigator.Path
import CodeNavigator.Text.Decimal
import CodeNavigator.Text.Quoted

namespace CodeNavigator

/-- A position inside a source file, with lines and columns counted from 1. -/
structure SourceLocation where
  path : Path
  line : UInt32
  column : UInt32
deriving DecidableEq

/-- The text form of a position. -/
def SourceLocation.render (location : SourceLocation) : String :=
  location.path.text ++ ":" ++ toString location.line.toNat ++ ":" ++
    toString location.column.toNat

/-! ### Texts that are no position -/

/-- The two numbers of a position. -/
inductive Coordinate
  | line
  | column
deriving DecidableEq

def Coordinate.name : Coordinate → String
  | .line => "line"
  | .column => "column"

/-- Why a segment is no line or column. -/
inductive CoordinateFault
  | notDigits
  | zero
  | tooLarge
deriving DecidableEq

/-- Why a text is no position. -/
inductive PositionFault
  | tooFewSegments
  | emptyPath
  | coordinate (which : Coordinate) (segment : String) (fault : CoordinateFault)
deriving DecidableEq

/-- A text that is no position, with the first reason found. -/
structure InvalidPosition where
  text : String
  delimiter : String
  fault : PositionFault
deriving DecidableEq

def InvalidPosition.message (invalid : InvalidPosition) : String :=
  let whole := Text.quoted invalid.text
  match invalid.fault with
  | .tooFewSegments =>
    "Invalid source position, expected path" ++ invalid.delimiter ++ "line" ++
      invalid.delimiter ++ "column: " ++ whole
  | .emptyPath => "Invalid source position, empty path: " ++ whole
  | .coordinate which _ .zero =>
    "Invalid " ++ which.name ++ " number 0 in source position: " ++ whole
  | .coordinate which segment _ =>
    "Invalid " ++ which.name ++ " number " ++ Text.quoted segment ++ " in source position: " ++
      whole

/-- The deeper reason behind an invalid position. Only a number beyond the range has one. -/
def InvalidPosition.source (invalid : InvalidPosition) : Option String :=
  match invalid.fault with
  | .coordinate _ _ .tooLarge => some "number too large to fit in target type"
  | _ => none

/-! ### Reading a position -/

/-- The number that a segment stands for. -/
def readCoordinate (segment : List Char) : Except CoordinateFault UInt32 :=
  match Text.readDigits segment with
  | none => .error .notDigits
  | some 0 => .error .zero
  | some value => if value < Nat.pow 2 32 then .ok (UInt32.ofNat value) else .error .tooLarge

/-- The path, line and column segments of a text, cut off from the right. An empty delimiter
stands at every boundary between two characters and at both ends. -/
def positionSegments (text delimiter : List Char) :
    Option (List Char × List Char × List Char) :=
  match delimiter, text.reverse with
  | [], [] => none
  | [], last :: before => some (before.reverse, [last], [])
  | _, _ =>
    (Text.cutLast delimiter text).bind fun (front, column) =>
      (Text.cutLast delimiter front).map fun (path, line) => (path, line, column)

/-- Read a position whose three parts are separated by a delimiter. -/
def SourceLocation.read (text delimiter : String) : Except InvalidPosition SourceLocation :=
  let refuse fault : Except InvalidPosition SourceLocation := .error ⟨text, delimiter, fault⟩
  match positionSegments text.toList delimiter.toList with
  | none => refuse .tooFewSegments
  | some ([], _, _) => refuse .emptyPath
  | some (path, line, column) =>
    match readCoordinate line, readCoordinate column with
    | .error fault, _ => refuse (.coordinate .line (String.ofList line) fault)
    | .ok _, .error fault => refuse (.coordinate .column (String.ofList column) fault)
    | .ok line, .ok column => .ok ⟨⟨String.ofList path⟩, line, column⟩

end CodeNavigator
