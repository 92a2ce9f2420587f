import FixedWidth.Text.Split

/-!
# Files held in memory

A tree of files and directories, in which a path is looked up from a working directory.  A name
that is not there, a file that is used as a directory and a name or path that is too long are told
apart.
-/

namespace FixedWidth

/-- What a path leads to: bytes, or a directory, which can be opened but not read. -/
inductive Source where
  | bytes (content : List UInt8)
  | directory
deriving DecidableEq

/-- Why a path could not be opened. -/
inductive OpenFault where
  | absent
  | notDirectory
  | tooLong
  | other (message : String)
deriving DecidableEq

def OpenFault.message : OpenFault → String
  | .absent => "No such file or directory (os error 2)"
  | .notDirectory => "Not a directory (os error 20)"
  | .tooLong => "File name too long (os error 36)"
  | .other message => message

/-- What lies at which place.  A place is the names that lead to it from the root.  The places
that lead to another one are directories. -/
structure FileTree where
  working : List String
  entries : List (List String × Source)

namespace FileTree

def lookup (t : FileTree) (place : List String) : Option Source :=
  match t.entries.find? (·.1 == place) with
  | some (_, source) => some source
  | none =>
    if place.isPrefixOf t.working || t.entries.any (place.isPrefixOf ·.1) then some .directory
    else none

/-- The bytes that a name may take. -/
def maxName : Nat := 255

/-- The bytes that a path may take. -/
def maxPath : Nat := 4095

/-- Follows the names of a path from a place, which has to be a directory for each of them.  An
empty name and a single dot stay where they are, and two dots go back. -/
def follow (t : FileTree) (place : List String) : List String → Except OpenFault Source
  | [] => (t.lookup place).elim (.error .absent) .ok
  | name :: names =>
    match t.lookup place with
    | none => .error .absent
    | some (.bytes _) => .error .notDirectory
    | some .directory =>
      if name = "" ∨ name = "." then t.follow place names
      else if name = ".." then t.follow place.dropLast names
      else if maxName < name.utf8ByteSize then .error .tooLong
      else t.follow (place ++ [name]) names

/-- Opens a path, which begins at the root if its first name is empty.  An empty path leads
nowhere. -/
def openPath (t : FileTree) (path : String) : Except OpenFault Source :=
  if maxPath < path.utf8ByteSize then .error .tooLong
  else
    match Text.splitString '/' path with
    | [""] => .error .absent
    | "" :: names => t.follow [] names
    | names => t.follow t.working names

end FileTree

end FixedWidth
