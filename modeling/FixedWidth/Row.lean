import FixedWidth.Cell

/-!
# Rows

The shape of a row decides how it is laid out, and is fixed when the row is made: from values it is
chosen by their number, and a status line is a shape of its own.
-/

namespace FixedWidth

inductive Row where
  /-- nothing to print -/
  | empty
  /-- a status line, printed as it is -/
  | line (text : String)
  /-- one value, wrapped over the whole width -/
  | single (cell : Cell)
  /-- a key and a value, wrapped in two columns -/
  | pair (key value : Cell)
  /-- values side by side on one line -/
  | wide (cells : List Cell)
deriving DecidableEq

namespace Row

def ofCells : List Cell → Row
  | [] => .empty
  | [c] => .single c
  | [k, v] => .pair k v
  | cells => .wide cells

def ofTitles (titles : List String) : Row :=
  ofCells (titles.map .text)

/-- Whether the row counts among the rows of a result. -/
def isCounted : Row → Bool
  | .empty | .line _ => false
  | .single _ | .pair _ _ | .wide _ => true

def sameCells : List Cell → List Cell → Bool
  | [], [] => true
  | c :: cs, d :: ds => c.same d && sameCells cs ds
  | _, _ => false

/-- Equality of shape and of values. -/
def same : Row → Row → Bool
  | .empty, .empty => true
  | .line s, .line t => s == t
  | .single c, .single d => c.same d
  | .pair k v, .pair k' v' => k.same k' && v.same v'
  | .wide cs, .wide ds => sameCells cs ds
  | _, _ => false

end Row

end FixedWidth
