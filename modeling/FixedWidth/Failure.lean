import FixedWidth.Format
import FixedWidth.Json.Problem

/-!
# What can go wrong

The causes for which building or driving a formatter fails, and their wording.
-/

namespace FixedWidth

/-- Why a stream could not be read or written. -/
inductive StreamFault where
  | diskFull
  | brokenPipe
  /-- a write that was not refused took no bytes -/
  | nothingTaken
  | notUtf8
  | isDirectory
deriving DecidableEq

def StreamFault.message : StreamFault → String
  | .diskFull => "disk full"
  | .brokenPipe => "broken pipe"
  | .nothingTaken => "failed to write whole buffer"
  | .notUtf8 => "stream did not contain valid UTF-8"
  | .isDirectory => "Is a directory (os error 21)"

inductive Failure where
  /-- the width leaves no room for the two columns of a pair -/
  | tooNarrow (width least : Nat)
  | unknownFormat (name : String)
  | notImplemented (format : Format)
  /-- a line of input is not a row -/
  | badLine (line : Nat) (refusal : Json.Refusal)
  | stream (cause : StreamFault)
  /-- a column is too wide to be padded -/
  | tooWide
deriving DecidableEq

def Failure.message : Failure → String
  | .tooNarrow width least =>
    "invalid print width " ++ Decimal.integer width ++ ": must be at least " ++
      Decimal.integer least
  | .unknownFormat name => "unsupported format '" ++ name ++ "'"
  | .notImplemented format => "format '" ++ format.name ++ "' is not yet implemented"
  | .badLine line refusal =>
    "invalid row input on line " ++ Decimal.integer line ++ ": " ++ refusal.message
  | .stream cause => "IO error: " ++ cause.message
  | .tooWide => "Formatting argument out of range"

/-- The message with the cause of a stream's failure once more behind it. -/
def Failure.report : Failure → String
  | .stream cause => (Failure.stream cause).message ++ ": " ++ cause.message
  | f => f.message

/-- The format of a name, or why there is none. -/
def Format.ofName (s : String) : Except Failure Format :=
  match Format.ofName? s with
  | some f => .ok f
  | none => .error (.unknownFormat s)

theorem Format.ofName_eq_ok_iff {s : String} {f : Format} :
    ofName s = .ok f ↔ ofName? s = some f := by
  unfold ofName
  cases ofName? s <;> simp

theorem Format.ofName_eq_error {s : String} (h : ofName? s = none) :
    ofName s = .error (.unknownFormat s) := by
  rw [ofName, h]

end FixedWidth
