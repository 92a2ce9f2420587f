import FixedWidth.Json.Value
import FixedWidth.Json.Write
import FixedWidth.Row

/-!
# Cells and rows in JSON

A text, a number and a truth value stand for cells.  A row is either a text, which is a status
line, or a list of cells.  The value is read in full before its shape is looked at, so a fault in
it comes before a wrong shape, and both come before anything that follows it.
-/

namespace FixedWidth

-- Powers are the core operation here, also where those of a monoid are known.
attribute [local instance (1100)] instPowNat

namespace Json

/-- A whole number is a signed cell if it fits. -/
def Number.toCell : Number → Cell
  | .integer n =>
    if n < 2 ^ (63 : Nat) then .integer (Int64.ofInt n) else .unsigned (UInt64.ofNat n.toNat)
  | .float x => .float x

def Value.toCell? : Value → Option Cell
  | .text s => some (.text s)
  | .number n => some n.toCell
  | .flag b => some (.flag b)
  | .null | .list _ | .record _ => none

def Value.toRow? : Value → Option Row
  | .text s => some (.line s)
  | .list items => (items.mapM Value.toCell?).map Row.ofCells
  | _ => none

/-- Reads a text that holds one value of a wanted shape. -/
def readShape {α : Type} (kind : String) (shape? : Value → Option α) (text : String) :
    Except Refusal α :=
  let s := text.toList
  match readValue [] s with
  | .error f => .error (.ofFault s f)
  | .ok (v, rest) =>
    match shape? v with
    | none => .error (.ofShape kind)
    | some a =>
      match finish rest with
      | .error f => .error (.ofFault s f)
      | .ok () => .ok a

end Json

def Cell.ofJson (text : String) : Except Json.Refusal Cell :=
  Json.readShape "Value" Json.Value.toCell? text

def Cell.toJson : Cell → String
  | .text s => Json.writeQuoted s
  | .integer n => Decimal.integer n.toInt
  | .unsigned n => Decimal.integer n.toNat
  | .float x => Json.numberStyle.render x
  | .flag b => if b then "true" else "false"

def Row.ofJson (text : String) : Except Json.Refusal Row :=
  Json.readShape "InputRow" Json.Value.toRow? text

end FixedWidth
