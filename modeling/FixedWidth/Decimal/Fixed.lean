import FixedWidth.Decimal.Rounding

/-!
# A fixed number of places

An exact fraction is rounded to a number of decimal places, a tie going to the even digit, and
written with all of them.
-/

namespace FixedWidth.Decimal

-- Powers are the core operation here, also where those of a monoid are known.
attribute [local instance (1100)] instPowNat

/-- The digits of `n`, with zeros in front up to a length. -/
def zeroPadded (length n : Nat) : List Char :=
  let digits := Nat.toDigits 10 n
  List.replicate (length - digits.length) '0' ++ digits

/-- The text of `num / den` with the given number of places. -/
def fixed (places num den : Nat) : String :=
  let n := roundDiv .even (num * 10 ^ places) den
  String.ofList (Nat.toDigits 10 (n / 10 ^ places) ++ '.' :: zeroPadded places (n % 10 ^ places))

example : fixed 4 1 20000 = "0.0000" ∧ fixed 4 3 20000 = "0.0002" ∧ fixed 4 3 2 = "1.5000" := by
  decide +kernel

end FixedWidth.Decimal
