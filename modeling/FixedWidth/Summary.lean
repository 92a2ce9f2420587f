import FixedWidth.Decimal.Binary64
import FixedWidth.Decimal.Fixed
import FixedWidth.Decimal.Integer

/-!
# The closing line

A result is closed by a line with the number of its rows and the time it took, in seconds to four
places.  The time is first made one binary number, from its whole seconds and its nanoseconds, and
the exact value of that number is rounded to the places shown.
-/

namespace FixedWidth

-- Powers are the core operation here, also where those of a monoid are known.
attribute [local instance (1100)] instPowNat

open Decimal (Binary64)

structure Elapsed where
  seconds : UInt64
  nanoseconds : Fin (10 ^ (9 : Nat))
deriving DecidableEq

namespace Elapsed

def none : Elapsed := ⟨0, 0⟩

/-- Seconds and nanoseconds, of which a thousand million and more are carried over. -/
def ofParts (seconds nanoseconds : Nat) : Elapsed :=
  ⟨UInt64.ofNat (seconds + nanoseconds / 10 ^ (9 : Nat)), Fin.ofNat _ nanoseconds⟩

def toBinary (t : Elapsed) : Binary64 :=
  (Binary64.ofRatio false t.seconds.toNat 1).addMagnitudes
    (Binary64.ofRatio false t.nanoseconds (10 ^ (9 : Nat)))

end Elapsed

def summary (rowCount : Nat) (t : Elapsed) : String :=
  Decimal.integer rowCount ++ " row(s) in " ++
    Decimal.fixed 4 t.toBinary.units Binary64.one ++ " seconds"

example : summary 3 ⟨1, 500000000⟩ = "3 row(s) in 1.5000 seconds" := by decide +kernel

end FixedWidth
