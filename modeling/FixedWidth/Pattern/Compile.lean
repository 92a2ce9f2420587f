import FixedWidth.Pattern.Meaning
import FixedWidth.Pattern.Read

/-!
# From the text of a pattern to its meaning

A pattern is refused if it cannot be read, if a part of it has no meaning, if it would become too
large, and if it asks for the boundaries of words of all scripts.
-/

namespace FixedWidth.Pattern

/-- Why a pattern is refused. -/
inductive Refusal where
  | fault (f : Fault)
  | tooLarge
  | unicodeWords
deriving DecidableEq

def Refusal.message (pattern : String) : Refusal → String
  | .fault f => f.report pattern
  | .tooLarge =>
    "Compiled regex exceeds size limit of " ++ Decimal.integer Expr.maxSize ++ " bytes."
  | .unicodeWords => "error building NFA"

/-- Reads a pattern.  Boundaries of words are looked at before the size for reading backward. -/
def Expr.ofString (s : String) : Except Refusal Expr := do
  let (e, _) ← (Node.ofString s >>= (·.expr {})).mapError .fault
  if maxSize < e.size .forward then throw .tooLarge
  if e.asksForUnicodeWords then throw .unicodeWords
  if maxSize < e.size .backward then throw .tooLarge
  return e

end FixedWidth.Pattern
