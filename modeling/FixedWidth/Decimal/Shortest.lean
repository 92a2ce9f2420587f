import FixedWidth.Decimal.Binary64

/-!
# The fewest digits that read back

A finite number is written with the fewest decimal digits whose nearest binary number is the one
given.  The search goes down the powers of ten.  On the grid of each, only the two neighbours of
the number can read back to it; the first grid on which one does has the fewest digits.
-/

namespace FixedWidth.Decimal

-- Powers are the core operation here, also where those of a monoid are known.
attribute [local instance (1100)] instPowNat

/-- The number `digits · 10 ^ exponent`. -/
structure Scaled where
  digits : Nat
  exponent : Int
deriving DecidableEq

namespace Scaled

def num (d : Scaled) : Nat := d.digits * 10 ^ d.exponent.toNat

def den (d : Scaled) : Nat := 10 ^ (-d.exponent).toNat

def readsAs (d : Scaled) (b : Nat) : Bool := Binary64.nearest d.num d.den == b

end Scaled

namespace Binary64

/-- The multiple of `10 ^ k` that reads back to the bits.  If both neighbours do, it is the nearer
one. -/
def onGrid? (tie : Tie) (b : Nat) (k : Int) : Option Scaled :=
  let num := unitsOf b * 10 ^ (-k).toNat
  let den := one * 10 ^ k.toNat
  let below : Scaled := ⟨num / den, k⟩
  let above : Scaled := ⟨num / den + 1, k⟩
  if below.readsAs b then
    some (if above.readsAs b then ⟨roundDiv tie num den, k⟩ else below)
  else if above.readsAs b then some above
  else none

/-- The number in full: a unit has 1074 decimal places. -/
def exactly (b : Nat) : Scaled := ⟨unitsOf b * 5 ^ (1074 : Nat), -1074⟩

/-- An exponent of ten above the number, at most three above that of its leading digit. -/
def topExponent (b : Nat) : Int :=
  ((unitsOf b).log2 - 1073 : Int) * 30103 / 100000 + 2

/-- Tries the grids from `k` down, and settles for the number in full when none has served. -/
def searchDown (tie : Tie) (b : Nat) : Nat → Int → Scaled
  | 0, _ => exactly b
  | tries + 1, k => (onGrid? tie b k).getD (searchDown tie b tries (k - 1))

/-- The shortest decimal that reads back to the bits of a finite number.  Seventeen digits always
do, so the grids from the top exponent down to that of the seventeenth digit are tried. -/
def shortest (tie : Tie) (b : Nat) : Scaled :=
  searchDown tie b 20 (topExponent b)

example : shortest .even 1 = ⟨5, -324⟩ := by decide +kernel

example : shortest .even 0x3FD3333333333334 = ⟨30000000000000004, -17⟩ := by decide +kernel

example : shortest .up 0x3E60000000000000 = ⟨29802322387695313, -24⟩ := by decide +kernel

example : shortest .even 0x3E60000000000000 = ⟨29802322387695312, -24⟩ := by decide +kernel

end Binary64

end FixedWidth.Decimal
