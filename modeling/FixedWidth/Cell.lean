import FixedWidth.Decimal.Integer
import FixedWidth.Decimal.Style
import FixedWidth.Text.Escape

/-!
# Cells

A cell is one value of a result: text, a whole number, a binary number or a truth value.  Whole
numbers are signed, unless they lie above the signed range.

`display` is the value as it reads.  `shown` is what goes into a column, where the text is escaped.
-/

namespace FixedWidth

-- Powers are the core operation here, also where those of a monoid are known.
attribute [local instance (1100)] instPowNat

open Decimal (Binary64 Style)

inductive Cell where
  | text (s : String)
  | integer (n : Int64)
  | unsigned (n : UInt64)
  | float (x : Binary64)
  | flag (b : Bool)
deriving DecidableEq

namespace Cell

def ofInt32 (n : Int32) : Cell := .integer n.toInt64

def ofUInt32 (n : UInt32) : Cell := .integer (Int64.ofNat n.toNat)

/-- The smaller half of the unsigned numbers is also signed, and kept so. -/
def ofUInt64 (n : UInt64) : Cell :=
  if n.toNat < 2 ^ (63 : Nat) then .integer (Int64.ofNat n.toNat) else .unsigned n

def isNumeric : Cell → Bool
  | .integer _ | .unsigned _ | .float _ => true
  | .text _ | .flag _ => false

/-- Numbers keep a fraction even if it is zero, and have an exponent below a ten-thousandth and
from ten to the sixteenth on. -/
def floatStyle : Style where
  tie := .up
  plainFrom := -4
  plainBelow := 16
  plus := ""
  notANumber := "NaN"
  infinity := "inf"
  negativeInfinity := "-inf"

def display : Cell → String
  | .text s => s
  | .integer n => Decimal.integer n.toInt
  | .unsigned n => Decimal.integer n.toNat
  | .float x => floatStyle.render x
  | .flag b => if b then "true" else "false"

/-- The text of a cell in a column.  Numbers go out as they read. -/
def shown : Cell → String
  | .text s => Text.escape s
  | .flag b => Text.escape (Cell.flag b).display
  | c => c.display

/-- Equality of values: of one kind, and equal as numbers if they are binary. -/
def same : Cell → Cell → Bool
  | .float x, .float y => x.sameNumber y
  | .text s, .text t => s == t
  | .integer m, .integer n => m == n
  | .unsigned m, .unsigned n => m == n
  | .flag a, .flag b => a == b
  | _, _ => false

end Cell

end FixedWidth
