import FixedWidth.Failure
import FixedWidth.Json.Write

/-!
# Options

What a formatter is built from: the format and the width of what it prints, in characters.
-/

namespace FixedWidth

/-- The least width that has room for both columns of a pair. -/
def minWidth : Nat := 4

def defaultWidth : UInt64 := 100

structure Options where
  format : Format := .console
  width : UInt64 := defaultWidth
deriving DecidableEq

namespace Options

def toJson (o : Options) : String :=
  "\x7b\"format\":" ++ Json.writeQuoted o.format.name ++ ",\"width\":" ++
    Decimal.integer o.width.toNat ++ "\x7d"

/-- The options as the log shows them. -/
def describe (o : Options) : String :=
  "FormatOptions \x7b format: " ++ o.format.label ++ ", width: " ++
    Decimal.integer o.width.toNat ++ " \x7d"

end Options

end FixedWidth
