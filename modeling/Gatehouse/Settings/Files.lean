/-
The files that settings are read from.

A host has directories and files, each named by the list of names that leads to
it from the root.  A path is followed name by name, from the root if it begins
with a slash and from the working directory otherwise, and every place on the way
must be there and be a directory.  That is why a path may not be simplified first:
a name followed by two points leads back to where it began only if there is such
a directory.
-/
import Gatehouse.Settings.Load

namespace Gatehouse

/-- The names that lead to a place from the root. -/
abbrev Place := List String

/-- What a host holds. -/
structure Host where
  /-- The directory in which the service was started. -/
  working : Place
  /-- The directories. -/
  directories : List Place
  /-- The files, with what they hold. -/
  files : List (Place × List UInt8)

/-- Why nothing could be read. -/
inductive FileError where
  /-- There is nothing at the end of the path, or nothing on the way. -/
  | missing
  /-- A place on the way is a file. -/
  | notDirectory
  /-- The path leads to a directory. -/
  | directory
  /-- The path is too long, or a name in it. -/
  | nameTooLong
  /-- The path holds the character that ends names. -/
  | nulInName

/-- The error in words. -/
def FileError.message : FileError → String
  | .missing => "No such file or directory (os error 2)"
  | .notDirectory => "Not a directory (os error 20)"
  | .directory => "Is a directory (os error 21)"
  | .nameTooLong => "File name too long (os error 36)"
  | .nulInName => "file name contained an unexpected NUL byte"

namespace Host

/-- What the file at a place holds. -/
def file? (h : Host) (place : Place) : Option (List UInt8) := h.files.lookup place

/-- Whether there is a directory at a place. -/
def isDirectory (h : Host) (place : Place) : Bool := place == [] || h.directories.contains place

/-- How many bytes a name may take. -/
def longestName : Nat := 255

/-- How many bytes a path may take. -/
def longestPath : Nat := 4095

/-- Follows names from a place. -/
def follow (h : Host) : Place → List String → Except FileError Place
  | place, [] => .ok place
  | place, name :: names =>
    if !h.isDirectory place then .error .notDirectory
    else if name = "" ∨ name = "." then h.follow place names
    else if name = ".." then h.follow place.dropLast names
    else if longestName < name.utf8ByteSize then .error .nameTooLong
    else
      let next := place ++ [name]
      if h.isDirectory next || (h.file? next).isSome then h.follow next names else .error .missing

/-- The bytes of the file that a path leads to. -/
def read (h : Host) (path : String) : Except FileError (List UInt8) :=
  if path.toList.any (· == Char.ofNat 0) then .error .nulInName
  else if path = "" then .error .missing
  else if longestPath < path.utf8ByteSize then .error .nameTooLong
  else do
    let place ← h.follow (if path.startsWith "/" then [] else h.working) (path.splitOn "/")
    match h.file? place with
    | some bytes => return bytes
    | none => throw .directory

end Host

/-- The settings in the file that a path leads to. -/
def Settings.load (h : Host) (path : String) : Except LoadError Settings :=
  match h.read path with
  | .ok bytes => Settings.ofBytes path bytes
  | .error e => .error (.unreadable path e.message)

end Gatehouse
