import FixedWidth.Decimal.Shortest

/-!
# Laying out a number

The digits of a number are fixed by `shortest`.  A `Style` decides how they are set out: where
the exponent form begins, how an exponent is signed, and what stands for the values that have no
digits.
-/

namespace FixedWidth.Decimal

structure Style where
  /-- where the upper of two equally near decimals is not the only choice -/
  tie : Tie
  /-- the least place of the leading digit that is written without an exponent -/
  plainFrom : Int
  /-- the least place above that which is written with one -/
  plainBelow : Int
  /-- what precedes an exponent that is not negative -/
  plus : String
  notANumber : String
  infinity : String
  negativeInfinity : String

namespace Style

/-- A number below one: the leading digit stands `zeros` places after the point. -/
def fraction (zeros : Nat) (digits : List Char) : List Char :=
  ['0', '.'] ++ List.replicate zeros '0' ++ digits

/-- Digits before the point, filled up with zeros, and at least one digit after it. -/
def positional (whole : Nat) (digits : List Char) : List Char :=
  if digits.length ≤ whole then
    digits ++ List.replicate (whole - digits.length) '0' ++ ['.', '0']
  else
    digits.take whole ++ '.' :: digits.drop whole

/-- One digit before the point, the others after it, and the place of the first. -/
def scientific (st : Style) (place : Int) (digits : List Char) : List Char :=
  let rest := digits.drop 1
  digits.take 1 ++ (if rest.isEmpty then [] else '.' :: rest) ++ 'e' ::
    ((if place < 0 then ['-'] else st.plus.toList) ++ Nat.toDigits 10 place.natAbs)

def layout (st : Style) (d : Scaled) : List Char :=
  let digits := Nat.toDigits 10 d.digits
  let place := d.exponent + digits.length - 1
  if st.plainFrom ≤ place ∧ place < st.plainBelow then
    if place < 0 then fraction (-place - 1).toNat digits
    else positional (place + 1).toNat digits
  else st.scientific place digits

def render (st : Style) (x : Binary64) : String :=
  if x.isNaN then st.notANumber
  else if !x.isFinite then (if x.isNegative then st.negativeInfinity else st.infinity)
  else
    let body :=
      if x.isZero then ['0', '.', '0'] else st.layout (Binary64.shortest st.tie x.magnitude)
    String.ofList (if x.isNegative then '-' :: body else body)

end Style

end FixedWidth.Decimal
