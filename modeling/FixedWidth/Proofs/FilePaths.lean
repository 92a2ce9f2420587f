import FixedWidth.FileTree
import FixedWidth.Proofs.InputLines

/-!
# Where a path leads

The names of a path stand between its slashes.  Each is followed from the place that the names
before it have led to, and that has to be a directory.  So a path leads to what can be opened, or
there is a first place from which it cannot be followed any further.
-/

namespace FixedWidth.FileTree

variable {t : FileTree}

/-! ## Places -/

/-- What lies at a place: the first entry for it or, if there is none, a directory that is on the
way to another place. -/
inductive Holds (t : FileTree) (place : List String) : Source → Prop where
  | entry {before after : List (List String × Source)} {source : Source}
      (h : t.entries = before ++ (place, source) :: after) (hfirst : ∀ e ∈ before, e.1 ≠ place) :
      Holds t place source
  | onTheWay (hnone : ∀ e ∈ t.entries, e.1 ≠ place)
      (h : place <+: t.working ∨ ∃ e ∈ t.entries, place <+: e.1) : Holds t place .directory

/-- A name leads from a directory to another place, or back to the one before, or stays. -/
inductive Moves (place : List String) : String → List String → Prop where
  | stay {name : String} (h : name = "" ∨ name = ".") : Moves place name place
  | back : Moves place ".." place.dropLast
  | enter {name : String} (h : name ∉ ["", ".", ".."]) (hshort : name.utf8ByteSize ≤ 255) :
      Moves place name (place ++ [name])

/-- Names lead from a place to another, through directories only. -/
inductive Leads (t : FileTree) : List String → List String → List String → Prop where
  | here {place : List String} : Leads t place [] place
  | on {place next last : List String} {name : String} {names : List String}
      (hdirectory : t.Holds place .directory) (hmoves : Moves place name next)
      (h : Leads t next names last) : Leads t place (name :: names) last

/-- Why names cannot be followed from a place, in the words of the system. -/
inductive Stops (t : FileTree) (place : List String) : List String → String → Prop where
  | absent {names : List String} (h : ∀ source, ¬ t.Holds place source) :
      Stops t place names "No such file or directory (os error 2)"
  | notDirectory {content : List UInt8} {name : String} {names : List String}
      (h : t.Holds place (.bytes content)) :
      Stops t place (name :: names) "Not a directory (os error 20)"
  | tooLong {name : String} {names : List String} (h : t.Holds place .directory)
      (hlong : 255 < name.utf8ByteSize) :
      Stops t place (name :: names) "File name too long (os error 36)"

/-- The names of a path, between its slashes. -/
structure Spells (path : String) (names : List String) : Prop where
  ne_nil : names ≠ []
  slash_notMem : ∀ name ∈ names, '/' ∉ name.toList
  eq : path = "/".intercalate names

/-- The place where a path begins: the root, if a slash is in front. -/
def start (t : FileTree) (path : String) : List String :=
  if path.toList.head? = some '/' then [] else t.working

/-- A path cannot be followed to its end, for this reason. -/
inductive Fails (t : FileTree) (path : String) : String → Prop where
  | empty (h : path = "") : Fails t path "No such file or directory (os error 2)"
  | tooLong (h : 4095 < path.utf8ByteSize) : Fails t path "File name too long (os error 36)"
  | stops {before after last : List String} {message : String} (hne : path ≠ "")
      (hshort : path.utf8ByteSize ≤ 4095) (hnames : Spells path (before ++ after))
      (h : t.Leads (t.start path) before last) (hlast : t.Stops last after message) :
      Fails t path message

end FixedWidth.FileTree
