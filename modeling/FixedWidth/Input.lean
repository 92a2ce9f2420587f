import FixedWidth.Failure
import FixedWidth.Json.Cells
import FixedWidth.Text.Blank
import FixedWidth.Text.Split

/-!
# Rows from lines of input

Input is a stream of bytes with one row on each line, in JSON.  Lines are told apart before they
are decoded, so each of them is read on its own: a blank one gives nothing, a faulty one gives a
failure that carries its number, and neither touches the lines after it.
-/

namespace FixedWidth

/-- Reads the row on a line.  A blank line has none. -/
def parseRow (line : Nat) (text : String) : Except Failure (Option Row) :=
  match Text.trimBlanks text.toList with
  | [] => .ok none
  | s =>
    match Row.ofJson (String.ofList s) with
    | .ok row => .ok (some row)
    | .error refusal => .error (.badLine line refusal)

namespace Input

def lineFeed : UInt8 := 10

def carriageReturn : UInt8 := 13

/-- Drops one carriage return from the end. -/
def dropReturn (bytes : List UInt8) : List UInt8 :=
  if bytes.getLast? = some carriageReturn then bytes.dropLast else bytes

/-- The lines of a stream without their ends, which are a line feed or a carriage return and a line
feed.  Behind the last line feed stands a line without an end, which may be empty. -/
def lines (bytes : List UInt8) : List (List UInt8) :=
  let parts := Text.split lineFeed bytes
  parts.dropLast.map dropReturn ++ parts.getLast?.toList

/-- What a line gives: a row, a failure or nothing. -/
def readLine (line : Nat) (bytes : List UInt8) : Option (Except Failure Row) :=
  match String.fromUTF8? bytes.toByteArray with
  | none => some (.error (.stream .notUtf8))
  | some text =>
    match parseRow line text with
    | .ok none => none
    | .ok (some row) => some (.ok row)
    | .error failure => some (.error failure)

/-- The rows of a stream and the failures among them, line by line.  Lines are numbered from
one. -/
def rows (bytes : List UInt8) : List (Except Failure Row) :=
  ((lines bytes).zipIdx 1).filterMap fun (line, n) => readLine n line

end Input

end FixedWidth
