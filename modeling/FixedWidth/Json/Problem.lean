import FixedWidth.Decimal.Integer
import FixedWidth.Decimal.Style
import FixedWidth.Text.Escape

/-!
# What can be wrong with a JSON text

A `Problem` is the cause, a `Fault` says how much of the text was unread when it was met, and a
`Refusal` is what the caller gets: the cause with the line and the column where reading stopped.
A text that is well formed but has the wrong shape for a choice of shapes is refused without a
position.
-/

namespace FixedWidth.Json

open Decimal (Binary64 Style)

/-- Binary numbers in JSON: an exponent from ten to the sixteenth on, signed, and below a
hundred-thousandth.  There is no text for the others but `null`. -/
def numberStyle : Style where
  tie := .even
  plainFrom := -5
  plainBelow := 16
  plus := "+"
  notANumber := "null"
  infinity := "null"
  negativeInfinity := "null"

/-- A value of a kind that was not wanted. -/
inductive Found where
  | null
  | flag (b : Bool)
  | integer (n : Int)
  | float (x : Binary64)
  | text (s : String)
  | list
  | record
deriving DecidableEq

def Found.describe : Found → String
  | .null => "null"
  | .flag b => "boolean `" ++ (if b then "true" else "false") ++ "`"
  | .integer n => "integer `" ++ Decimal.integer n ++ "`"
  | .float x => "floating point `" ++ numberStyle.render x ++ "`"
  | .text s => "string " ++ Text.quote s
  | .list => "sequence"
  | .record => "map"

inductive Problem where
  | cutValue
  | cutList
  | cutObject
  | cutText
  | noValue
  | noWord
  | noColon
  | noCommaInList
  | noCommaInObject
  | nameNotText
  | trailingComma
  | trailingText
  | badNumber
  | numberTooLarge
  | badEscape
  | halfPair
  | loneSurrogate
  | control
  | tooDeep
  /-- no shape among the alternatives of a kind fits -/
  | noAlternative (kind : String)
  | missingField (name : String)
  | repeatedField (name : String)
  | unknownChoice (name : String) (choices : List String)
  | wrongLength (length : Nat) (wanted : String)
  | wrongKind (found : Found) (wanted : String)
  | wrongValue (found : Found) (wanted : String)
deriving DecidableEq

def Problem.message : Problem → String
  | .cutValue => "EOF while parsing a value"
  | .cutList => "EOF while parsing a list"
  | .cutObject => "EOF while parsing an object"
  | .cutText => "EOF while parsing a string"
  | .noValue => "expected value"
  | .noWord => "expected ident"
  | .noColon => "expected `:`"
  | .noCommaInList => "expected `,` or `]`"
  | .noCommaInObject => "expected `,` or `\x7d`"
  | .nameNotText => "key must be a string"
  | .trailingComma => "trailing comma"
  | .trailingText => "trailing characters"
  | .badNumber => "invalid number"
  | .numberTooLarge => "number out of range"
  | .badEscape => "invalid escape"
  | .halfPair => "unexpected end of hex escape"
  | .loneSurrogate => "lone leading surrogate in hex escape"
  | .control => "control character (\\u0000-\\u001F) found while parsing a string"
  | .tooDeep => "recursion limit exceeded"
  | .noAlternative kind => "data did not match any variant of untagged enum " ++ kind
  | .missingField name => "missing field `" ++ name ++ "`"
  | .repeatedField name => "duplicate field `" ++ name ++ "`"
  | .unknownChoice name choices =>
    "unknown variant `" ++ name ++ "`, expected one of " ++
      ", ".intercalate (choices.map fun c => "`" ++ c ++ "`")
  | .wrongLength n wanted =>
    "invalid length " ++ Decimal.integer n ++ ", expected " ++ wanted
  | .wrongKind found wanted => "invalid type: " ++ found.describe ++ ", expected " ++ wanted
  | .wrongValue found wanted => "invalid value: " ++ found.describe ++ ", expected " ++ wanted

/-- A line of a text, from 1, and the bytes read of it. -/
structure Position where
  line : Nat
  column : Nat
deriving DecidableEq

namespace Position

def start : Position := ⟨1, 0⟩

/-- The position after a number of bytes, which need not end with a character. -/
def advance (p : Position) : Nat → List Char → Position
  | _, [] => p
  | n, c :: s =>
    if n < c.utf8Size then ⟨p.line, p.column + n⟩
    else if c = '\n' then advance ⟨p.line + 1, 0⟩ (n - c.utf8Size) s
    else advance ⟨p.line, p.column + c.utf8Size⟩ (n - c.utf8Size) s

end Position

def byteCount (s : List Char) : Nat :=
  s.foldl (fun n c => n + c.utf8Size) 0

/-- A problem, and the bytes that were unread when it was met. -/
structure Fault where
  problem : Problem
  unread : Nat
deriving DecidableEq

namespace Fault

/-- A problem met before `s`. -/
def before (problem : Problem) (s : List Char) : Fault := ⟨problem, byteCount s⟩

/-- A problem with the first byte of `s`, or with the end of the text. -/
def on (problem : Problem) (s : List Char) : Fault := ⟨problem, byteCount s - 1⟩

end Fault

/-- Why a JSON text was refused. -/
structure Refusal where
  problem : Problem
  position : Option Position
deriving DecidableEq

namespace Refusal

def message (r : Refusal) : String :=
  match r.position with
  | some p => r.problem.message ++ " at line " ++ Decimal.integer p.line ++ " column " ++
      Decimal.integer p.column
  | none => r.problem.message

def ofFault (text : List Char) (f : Fault) : Refusal :=
  ⟨f.problem, some (Position.start.advance (byteCount text - f.unread) text)⟩

def ofShape (kind : String) : Refusal :=
  ⟨.noAlternative kind, none⟩

end Refusal

end FixedWidth.Json
