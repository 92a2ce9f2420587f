/-!
# Whole numbers in decimal
-/

namespace FixedWidth.Decimal

/-- The digits of a whole number, after a minus sign if it is negative. -/
def integerChars (n : Int) : List Char :=
  if n < 0 then '-' :: Nat.toDigits 10 n.natAbs else Nat.toDigits 10 n.natAbs

def integer (n : Int) : String :=
  String.ofList (integerChars n)

def digitValue (c : Char) : Nat := c.toNat - 0x30

end FixedWidth.Decimal
