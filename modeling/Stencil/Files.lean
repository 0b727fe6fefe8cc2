import Stencil.Members
import Stencil.Text.Split

/-!
# Files and the paths to them

The files below the directory that a process starts in. A path leads to one of them name by name:
each name but the last has to be a directory, `..` leads back up, and an empty name or `.` leads
nowhere. A directory is there if a file lies below it.
-/

namespace Stencil

/-- A path as it is written: the names that lead somewhere, and whether it ends where only a
    directory can be, as `logs/` and `logs/.` do. -/
structure FilePath where
  names : List String
  toDirectory : Bool
  deriving DecidableEq, Repr

namespace FilePath

/-- Whether a part of a path leads nowhere. -/
def isIdle (part : List Char) : Bool := part = [] || part = ['.']

/-- The path that a text writes. -/
def ofText (text : String) : FilePath :=
  let parts := Text.split '/' text.toList
  ⟨(parts.filter fun part => !isIdle part).map String.ofList,
    (parts.getLast?.map isIdle).getD true⟩

/-- The shortest text of a path to a file. -/
def text (path : FilePath) : String := "/".intercalate path.names

/-- The ending of the last name, from its last point on. A name that only starts with a point has
    none. -/
def ending? (path : FilePath) : Option String :=
  match path.names.getLast? with
  | none | some ".." => none
  | some name =>
    let backwards := name.toList.reverse
    match backwards.dropWhile (· ≠ '.') with
    | [] | ['.'] => none
    | _ => some (String.ofList ('.' :: (backwards.takeWhile (· ≠ '.')).reverse))

/-- The path with an ending added to its last name; there is none if it leads up in the end. -/
def withEnding? (path : FilePath) (ending : String) : Option FilePath :=
  match path.names.getLast? with
  | none | some ".." => none
  | some name => some ⟨path.names.dropLast ++ [name ++ ending], false⟩

end FilePath

/-- The texts of files, each under the shortest text of the path to it. -/
abbrev Files := Members String

namespace Files

/-- Whether the directory `place` is there. -/
def hasDirectory (files : Files) (place : List String) : Bool :=
  files.any fun (text, _) => place.isPrefixOf (FilePath.ofText text).names.dropLast

/-- The directory that names lead to from the directory `place`. There is none if a directory is
    missing on the way, or if the way leaves the directory of the start. -/
def enter? (files : Files) (place : List String) : List String → Option (List String)
  | [] => some place
  | ".." :: names => if place.isEmpty then none else enter? files place.dropLast names
  | name :: names =>
    let below := place ++ [name]
    if files.hasDirectory below then enter? files below names else none

/-- The text of the file that a path leads to. -/
def read? (files : Files) (path : FilePath) : Option String :=
  if path.toDirectory then none
  else do
    let name ← path.names.getLast?
    let place ← files.enter? [] path.names.dropLast
    files.lookup (FilePath.text ⟨place ++ [name], false⟩)

end Files

end Stencil
