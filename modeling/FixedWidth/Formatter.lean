import FixedWidth.Layout
import FixedWidth.Options

/-!
# Formatters

A formatter has a width, fixed when it is built and wide enough for the two columns of a pair, and
counts the rows that it has printed.
-/

namespace FixedWidth

structure Formatter where
  width : Nat
  rowCount : Nat
  minWidth_le : minWidth ≤ width

namespace Formatter

/-- A formatter for a width, which must not be too narrow. -/
def ofWidth (width : Nat) : Except Failure Formatter :=
  if h : minWidth ≤ width then .ok ⟨width, 0, h⟩ else .error (.tooNarrow width minWidth)

def standard : Formatter := ⟨defaultWidth.toNat, 0, by decide⟩

/-- The formatter for some options.  The format is looked at first. -/
def ofOptions (o : Options) : Except Failure Formatter :=
  match o.format with
  | .console => ofWidth o.width.toNat
  | .html | .json => .error (.notImplemented o.format)

def counting (f : Formatter) (row : Row) : Formatter :=
  if row.isCounted then { f with rowCount := f.rowCount + 1 } else f

def reset (f : Formatter) : Formatter := { f with rowCount := 0 }

@[simp] theorem width_counting (f : Formatter) (row : Row) : (f.counting row).width = f.width := by
  unfold counting
  split <;> rfl

end Formatter

end FixedWidth
