import FixedWidth.Decimal.Rounding

/-!
# Binary64 numbers by their bits

A number of the 64-bit binary format is kept as its bits, so that two different NaNs stay apart.
Every finite one is a whole number of units of `2⁻¹⁰⁷⁴`, and the bits below the sign count up with
that number.  Arithmetic is exact on the units and rounds once, to the nearest number, a tie going
to the one with even bits.
-/

namespace FixedWidth.Decimal

-- Powers are the core operation here, also where those of a monoid are known.
attribute [local instance (1100)] instPowNat

structure Binary64 where
  bits : UInt64
deriving DecidableEq

namespace Binary64

/-- How many units make one. -/
def one : Nat := 2 ^ (1074 : Nat)

theorem exists_one_eq_two_pow : ∃ k : Nat, one = 2 ^ k := ⟨_, one.eq_def⟩

/-- The bits of positive infinity, above those of every finite number. -/
def infinityBits : Nat := 0x7FF0000000000000

/-- The number of units that bits below the sign stand for. -/
def unitsOf (b : Nat) : Nat :=
  if b < 2 ^ (52 : Nat) then b
  else (2 ^ (52 : Nat) + b % 2 ^ (52 : Nat)) * 2 ^ (b / 2 ^ (52 : Nat) - 1)

/-- The bits of the number nearest to `num / den`, infinity included. -/
def nearest (num den : Nat) : Nat :=
  let n := num * one
  let shift := (n / den).log2 - 52
  min (roundDiv .even n (den * 2 ^ shift) + shift * 2 ^ (52 : Nat)) infinityBits

def ofParts (negative : Bool) (b : Nat) : Binary64 :=
  ⟨UInt64.ofNat (if negative then 2 ^ (63 : Nat) + b else b)⟩

/-- The number nearest to `num / den`, with a sign. -/
def ofRatio (negative : Bool) (num den : Nat) : Binary64 :=
  ofParts negative (nearest num den)

def zero : Binary64 := ⟨0⟩

def isNegative (x : Binary64) : Bool := 2 ^ (63 : Nat) ≤ x.bits.toNat

/-- The bits below the sign. -/
def magnitude (x : Binary64) : Nat := x.bits.toNat % 2 ^ (63 : Nat)

def isFinite (x : Binary64) : Bool := x.magnitude < infinityBits

def isNaN (x : Binary64) : Bool := infinityBits < x.magnitude

def isZero (x : Binary64) : Bool := x.magnitude = 0

def units (x : Binary64) : Nat := unitsOf x.magnitude

def neg (x : Binary64) : Binary64 := ofParts (!x.isNegative) x.magnitude

/-- The product of two finite numbers. -/
def mul (x y : Binary64) : Binary64 :=
  ofRatio (x.isNegative != y.isNegative) (x.units * y.units) (one * one)

/-- The quotient of two finite numbers, the second not zero. -/
def div (x y : Binary64) : Binary64 :=
  ofRatio (x.isNegative != y.isNegative) x.units y.units

/-- The sum of two finite numbers without a sign. -/
def addMagnitudes (x y : Binary64) : Binary64 :=
  ofRatio false (x.units + y.units) one

/-- Equality of numbers: a NaN equals nothing, and the two zeros are equal. -/
def sameNumber (x y : Binary64) : Bool :=
  !x.isNaN && !y.isNaN && (x.bits == y.bits || (x.isZero && y.isZero))

example : (ofRatio false 1 10).bits = 0x3FB999999999999A := by decide +kernel

example : (ofRatio true (2 ^ (53 : Nat) + 1) 1).bits = 0xC340000000000000 := by decide +kernel

example : (ofRatio false (10 ^ (309 : Nat)) 1).isFinite = false := by decide +kernel

end Binary64

end FixedWidth.Decimal
