import FixedWidth.Decimal.Integer
import FixedWidth.Pattern.Place
import FixedWidth.Text.Split

/-!
# What can be wrong with a pattern

A `Flaw` is the cause, and a `Fault` says which part of the pattern it concerns and, for something
that is there twice, where it was first.  The report of a fault repeats the pattern and marks both
parts below its lines.
-/

namespace FixedWidth.Pattern

inductive Flaw where
  | classEscape
  | classRange
  | classRangeEnd
  | classUnclosed
  | decimalTooLarge
  | hexEmpty
  | hexNoCharacter
  | hexDigit
  | escapeCut
  | escapeUnknown
  | negationDangling
  | negationRepeated
  | flagRepeated
  | flagCut
  | flagUnknown
  | nameRepeated
  | nameEmpty
  | nameCharacter
  | nameUnclosed
  | groupUnclosed
  | groupUnopened
  | tooNested
  | countRange
  | countEmpty
  | countUnclosed
  | nothingToRepeat
  | boundaryUnclosed
  | boundaryUnknown
  | boundaryCut
  | propertyEscape
  | backreference
  | lookAround
  | notInBytes
  | notUtf8
  | noProperty
  | noPropertyValue
  | noNamedClass
  | noCaseTable
deriving DecidableEq

/-- As many groups, classes and repetitions may stand inside each other. -/
def maxNesting : Nat := 250

def Flaw.message : Flaw → String
  | .classEscape => "invalid escape sequence found in character class"
  | .classRange => "invalid character class range, the start must be <= the end"
  | .classRangeEnd => "invalid range boundary, must be a literal"
  | .classUnclosed => "unclosed character class"
  | .decimalTooLarge => "decimal literal invalid"
  | .hexEmpty => "hexadecimal literal empty"
  | .hexNoCharacter => "hexadecimal literal is not a Unicode scalar value"
  | .hexDigit => "invalid hexadecimal digit"
  | .escapeCut => "incomplete escape sequence, reached end of pattern prematurely"
  | .escapeUnknown => "unrecognized escape sequence"
  | .negationDangling => "dangling flag negation operator"
  | .negationRepeated => "flag negation operator repeated"
  | .flagRepeated => "duplicate flag"
  | .flagCut => "expected flag but got end of regex"
  | .flagUnknown => "unrecognized flag"
  | .nameRepeated => "duplicate capture group name"
  | .nameEmpty => "empty capture group name"
  | .nameCharacter => "invalid capture group character"
  | .nameUnclosed => "unclosed capture group name"
  | .groupUnclosed => "unclosed group"
  | .groupUnopened => "unopened group"
  | .tooNested =>
    "exceed the maximum number of nested parentheses/brackets (" ++
      Decimal.integer maxNesting ++ ")"
  | .countRange => "invalid repetition count range, the start must be <= the end"
  | .countEmpty => "repetition quantifier expects a valid decimal"
  | .countUnclosed => "unclosed counted repetition"
  | .nothingToRepeat => "repetition operator missing expression"
  | .boundaryUnclosed =>
    "special word boundary assertion is either unclosed or contains an invalid character"
  | .boundaryUnknown =>
    "unrecognized special word boundary assertion, valid choices are: start, end, start-half or " ++
      "end-half"
  | .boundaryCut =>
    "found either the beginning of a special word boundary or a bounded repetition on a \\b with " ++
      "an opening brace, but no closing brace"
  | .propertyEscape => "invalid Unicode character class"
  | .backreference => "backreferences are not supported"
  | .lookAround => "look-around, including look-ahead and look-behind, is not supported"
  | .notInBytes => "Unicode not allowed here"
  | .notUtf8 => "pattern can match invalid UTF-8"
  | .noProperty => "Unicode property not found"
  | .noPropertyValue => "Unicode property value not found"
  | .noNamedClass =>
    "Unicode-aware Perl class not found (make sure the unicode-perl feature is enabled)"
  | .noCaseTable =>
    "Unicode-aware case insensitivity matching is not available (make sure the unicode-case " ++
      "feature is enabled)"

structure Fault where
  flaw : Flaw
  span : Span
  earlier : Option Span
deriving DecidableEq

namespace Fault

def on (flaw : Flaw) (span : Span) : Fault := ⟨flaw, span, none⟩

/-- Something is there for the second time. -/
def again (flaw : Flaw) (span earlier : Span) : Fault := ⟨flaw, span, some earlier⟩

/-- The spans to be marked, from the left. -/
def spans (f : Fault) : List Span :=
  match f.earlier with
  | none => [f.span]
  | some e =>
    if e.first.index < f.span.first.index ∨
        e.first.index = f.span.first.index ∧ e.last.index ≤ f.span.last.index then
      [e, f.span]
    else [f.span, e]

end Fault

/-! ## The report -/

/-- The lines of a pattern.  A line feed at the end begins no line. -/
def linesOf (pattern : List Char) : List (List Char) :=
  let parts := Text.split '\n' pattern
  let ended := parts.dropLast.map fun l => if l.getLast? = some '\r' then l.dropLast else l
  match parts.getLast? with
  | none | some [] => ended
  | some last => ended ++ [last]

def isOneLine (s : Span) : Bool := s.first.line = s.last.line

/-- Marks below a line, of which `column` columns are done. -/
def marksFrom (column : Nat) : List Span → List Char
  | [] => []
  | s :: spans =>
    let width := max 1 (s.last.column - s.first.column)
    List.replicate (s.first.column - 1 - column) ' ' ++ List.replicate width '^' ++
      marksFrom (max column (s.first.column - 1) + width) spans

/-- A line with its marks, which are inset as far as the line. -/
def markedLine (label : List Char) (line : List Char) (spans : List Span) : List Char :=
  label ++ line ++ ['\n'] ++
    if spans.isEmpty then []
    else List.replicate label.length ' ' ++ marksFrom 0 spans ++ ['\n']

/-- What precedes a line.  Lines are numbered if there are several. -/
def lineLabel (digits n : Nat) : List Char :=
  if digits = 0 then "    ".toList
  else
    let number := Decimal.integerChars n
    List.replicate (digits - number.length) ' ' ++ number ++ ": ".toList

/-- Where a span of several lines is. -/
def spanNote (s : Span) : String :=
  "on line " ++ Decimal.integer s.first.line ++ " (column " ++ Decimal.integer s.first.column ++
    ") through line " ++ Decimal.integer s.last.line ++ " (column " ++
    Decimal.integer (s.last.column - 1 : Nat) ++ ")"

def Fault.report (f : Fault) (pattern : String) : String :=
  let chars := pattern.toList
  let lines := linesOf chars
  let count := lines.length + if chars.getLast? = some '\n' then 1 else 0
  let digits := if count ≤ 1 then 0 else (Decimal.integerChars count).length
  let marked := (lines.zipIdx 1).flatMap fun (line, n) =>
    markedLine (lineLabel digits n) line
      (f.spans.filter fun s => isOneLine s && s.first.line = n)
  let notes := f.spans.filter fun s => !isOneLine s
  let body :=
    if chars.contains '\n' then
      let divider := String.ofList (List.replicate 79 '~') ++ "\n"
      divider ++ String.ofList marked ++ divider ++
        if notes.isEmpty then "" else "\n".intercalate (notes.map spanNote) ++ "\n"
    else String.ofList marked
  "regex parse error:\n" ++ body ++ "error: " ++ f.flaw.message

end FixedWidth.Pattern
