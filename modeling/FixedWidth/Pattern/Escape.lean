import FixedWidth.Pattern.Tree
import FixedWidth.Text.Escape

/-!
# Escapes in a pattern

A backslash takes a sign its meaning, or gives a letter one: a control character, a code point, a
named set or an assertion.
-/

namespace FixedWidth.Pattern

/-- What an escape can be. -/
inductive Primitive where
  | literal (l : Literal)
  | assertion (span : Span) (a : Assertion)
  | named (span : Span) (negated : Bool) (set : NamedSet)

namespace Primitive

def span : Primitive → Span
  | .literal l => l.span
  | .assertion s _ | .named s .. => s

def toNode : Primitive → Node
  | .literal l => .literal l
  | .assertion s a => .assertion s a
  | .named s negated set => .named s negated set

/-- An item of a class, which cannot be an assertion. -/
def toClass : Primitive → Except Fault Class
  | .literal l => .ok (.literal l)
  | .named s negated set => .ok (.named s negated set)
  | .assertion s _ => .error (.on .classEscape s)

/-- An end of a range. -/
def toLiteral : Primitive → Except Fault Literal
  | .literal l => .ok l
  | p => .error (.on .classRangeEnd p.span)

end Primitive

/-! ## Code points -/

def readHexDigits (loose : Bool) : Nat → Nat → Cursor → Except Fault (Nat × Cursor)
  | 0, n, c => .ok (n, c)
  | count + 1, n, c =>
    match c.rest with
    | [] => .error (.on .escapeCut c.here)
    | d :: _ =>
      match Text.hexValue? d with
      | none => .error (.on .hexDigit c.char)
      | some v => readHexDigits loose count (16 * n + v) (c.next loose)

def readHexUntilBrace (loose : Bool) : Nat → Nat → Nat → Cursor → Except Fault (Nat × Nat × Cursor)
  | 0, count, n, c => .ok (count, n, c)
  | fuel + 1, count, n, c =>
    match c.rest with
    | [] => .ok (count, n, c)
    | '\x7d' :: _ => .ok (count, n, c)
    | d :: _ =>
      match Text.hexValue? d with
      | none => .error (.on .hexDigit c.char)
      | some v => readHexUntilBrace loose fuel (count + 1) (16 * n + v) (c.next loose)

/-- Reads a code point between braces.  `start` is where the escape begins. -/
def readHexInBraces (loose : Bool) (start : Place) (c : Cursor) :
    Except Fault (Literal × Cursor) := do
  let brace := c.place
  let (count, n, close) ← readHexUntilBrace loose c.rest.length 0 0 (c.next loose)
  if close.atEnd then throw (.on .escapeCut (close.since brace))
  let after := close.next loose
  if count = 0 then throw (.on .hexEmpty (after.since brace))
  if n.isValidChar then return (⟨after.since start, Char.ofNat n, false⟩, after)
  throw (.on .hexNoCharacter (close.since c.char.last))

/-- Reads a code point behind its letter, which asks for a number of digits unless there are
braces. -/
def readCodePoint (loose : Bool) (start : Place) (digits : Nat) (c : Cursor) :
    Except Fault (Literal × Cursor) := do
  let c := c.next loose
  match c.rest with
  | [] => throw (.on .escapeCut c.here)
  | '{' :: _ => readHexInBraces loose start c
  | _ =>
    let (n, after) ← readHexDigits loose digits 0 c
    if n.isValidChar then return (⟨after.since start, Char.ofNat n, digits = 2⟩, after)
    throw (.on .hexNoCharacter (after.since c.place))

/-! ## Named sets -/

def takeUntilBrace (loose : Bool) : Nat → List Char → Cursor → List Char × Cursor
  | 0, done, c => (done.reverse, c)
  | fuel + 1, done, c =>
    match c.rest with
    | [] => (done.reverse, c)
    | '\x7d' :: _ => (done.reverse, c)
    | x :: _ => takeUntilBrace loose fuel (x :: done) (c.next loose)

/-- The text before and behind a separator, where it first occurs. -/
def cutAt (separator : List Char) : List Char → Option (List Char × List Char)
  | [] => none
  | x :: s =>
    if separator.isPrefixOf (x :: s) then some ([], (x :: s).drop separator.length)
    else (cutAt separator s).map fun p => (x :: p.1, p.2)

/-- The property that a text in braces names, perhaps with a value. -/
def NamedSet.ofText (s : List Char) : NamedSet :=
  match ((cutAt ['!', '='] s).or (cutAt [':'] s)).or (cutAt ['='] s) with
  | some (name, value) => .propertyValue (String.ofList name) (String.ofList value)
  | none => .property (String.ofList s)

def readProperty (loose : Bool) (c : Cursor) : Except Fault (NamedSet × Cursor) :=
  let c := c.next loose
  match c.rest with
  | [] => .error (.on .escapeCut c.here)
  | '{' :: _ =>
    let (name, close) := takeUntilBrace loose c.rest.length [] (c.next loose)
    if close.atEnd then .error (.on .escapeCut close.here)
    else .ok (.ofText name, close.bump)
  | '\\' :: _ => .error (.on .propertyEscape c.char)
  | x :: _ => .ok (.property (String.singleton x), c.next loose)

/-! ## Boundaries of words -/

def isBoundaryLetter (c : Char) : Bool := c.isAlpha || c = '-'

def Boundary.ofName? : String → Option Boundary
  | "start" => some .start
  | "end" => some .stop
  | "start-half" => some .startHalf
  | "end-half" => some .stopHalf
  | _ => none

def takeBoundaryName (loose : Bool) : Nat → List Char → Cursor → List Char × Cursor
  | 0, done, c => (done.reverse, c)
  | fuel + 1, done, c =>
    match c.rest with
    | [] => (done.reverse, c)
    | x :: _ =>
      if isBoundaryLetter x then takeBoundaryName loose fuel (x :: done) (c.next loose)
      else (done.reverse, c)

/-- Reads what may stand in braces behind an escape for a boundary.  A brace that no letter follows
is a count, and left alone. -/
def readBoundary (loose : Bool) (start : Place) (c : Cursor) :
    Except Fault (Boundary × Cursor) :=
  match c.rest with
  | '{' :: _ =>
    let inside := c.next loose
    match inside.rest with
    | [] => .error (.on .boundaryCut (inside.since start))
    | x :: _ =>
      if !isBoundaryLetter x then .ok (.edge, c)
      else
        let (name, close) := takeBoundaryName loose inside.rest.length [] inside
        if close.rest.head? ≠ some '\x7d' then .error (.on .boundaryUnclosed (close.since c.place))
        else
          match Boundary.ofName? (String.ofList name) with
          | some b => .ok (b, close.bump)
          | none => .error (.on .boundaryUnknown (close.since inside.place))
  | _ => .ok (.edge, c)

/-! ## Escapes -/

/-- Signs with a meaning of their own. -/
def isMeta (c : Char) : Bool := "\\.+*?()|[]\x7b\x7d^$#&-~".toList.contains c

/-- Whether a character stands for itself behind a backslash.  Letters, digits and angle brackets
do not. -/
def isEscapable (c : Char) : Bool :=
  isMeta c || c.toNat < 0x80 && !c.isAlphanum && c ≠ '<' && c ≠ '>'

/-- The control character that a letter stands for. -/
def controlOf? : Char → Option Char
  | 'a' => some '\x07'
  | 'f' => some '\x0c'
  | 't' => some '\t'
  | 'n' => some '\n'
  | 'r' => some '\r'
  | 'v' => some '\x0b'
  | _ => none

/-- Reads an escape of one letter, behind the letter. -/
def readLetter (loose : Bool) (start : Place) (l : Char) (c : Cursor) :
    Except Fault (Primitive × Cursor) :=
  let span := c.since start
  if isEscapable l then .ok (.literal ⟨span, l, false⟩, c)
  else
    match controlOf? l with
    | some x => .ok (.literal ⟨span, x, false⟩, c)
    | none =>
      match l with
      | 'A' => .ok (.assertion span .textStart, c)
      | 'z' => .ok (.assertion span .textEnd, c)
      | 'b' =>
        (readBoundary loose start c).map fun (b, c) => (.assertion (c.since start) (.word b), c)
      | 'B' => .ok (.assertion span (.word .notEdge), c)
      | '<' => .ok (.assertion span (.word .start), c)
      | '>' => .ok (.assertion span (.word .stop), c)
      | _ => .error (.on .escapeUnknown span)

def readEscape (loose : Bool) (c : Cursor) : Except Fault (Primitive × Cursor) :=
  let start := c.place
  let c := c.bump
  let named (negated : Bool) (set : NamedSet) : Except Fault (Primitive × Cursor) :=
    .ok (.named (c.bump.since start) negated set, c.bump)
  let property (negated : Bool) : Except Fault (Primitive × Cursor) :=
    (readProperty loose c).map fun (set, c) => (.named (c.since start) negated set, c)
  let codePoint (digits : Nat) : Except Fault (Primitive × Cursor) :=
    (readCodePoint loose start digits c).map fun (l, c) => (.literal l, c)
  match c.rest with
  | [] => .error (.on .escapeCut (c.since start))
  | 'x' :: _ => codePoint 2
  | 'u' :: _ => codePoint 4
  | 'U' :: _ => codePoint 8
  | 'p' :: _ => property false
  | 'P' :: _ => property true
  | 'd' :: _ => named false .digit
  | 's' :: _ => named false .space
  | 'w' :: _ => named false .word
  | 'D' :: _ => named true .digit
  | 'S' :: _ => named true .space
  | 'W' :: _ => named true .word
  | l :: _ =>
    if l.isDigit then .error (.on .backreference ⟨start, c.char.last⟩)
    else readLetter loose start l c.bump

end FixedWidth.Pattern
