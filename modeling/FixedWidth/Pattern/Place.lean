import FixedWidth.Text.Blank

/-!
# Places in a pattern

Reading a pattern keeps track of lines and columns, so that a fault can be pointed at.  In a loose
pattern white space and comments between its parts mean nothing.
-/

namespace FixedWidth.Pattern

/-- How many characters precede a place, and its line and column, from 1. -/
structure Place where
  index : Nat
  line : Nat
  column : Nat
deriving DecidableEq

namespace Place

def start : Place := ⟨0, 1, 1⟩

def past (p : Place) (c : Char) : Place :=
  if c = '\n' then ⟨p.index + 1, p.line + 1, 1⟩ else ⟨p.index + 1, p.line, p.column + 1⟩

end Place

/-- A part of a pattern, which may be empty. -/
structure Span where
  first : Place
  last : Place
deriving DecidableEq

/-- What is unread, and where it begins. -/
structure Cursor where
  rest : List Char
  place : Place
deriving DecidableEq

namespace Cursor

def ofString (s : String) : Cursor := ⟨s.toList, .start⟩

def atEnd (c : Cursor) : Bool := c.rest.isEmpty

def bump (c : Cursor) : Cursor :=
  match c.rest with
  | [] => c
  | x :: rest => ⟨rest, c.place.past x⟩

def bumps : Nat → Cursor → Cursor
  | 0, c => c
  | n + 1, c => bumps n c.bump

def past? (c : Cursor) (text : String) : Option Cursor :=
  if text.toList.isPrefixOf c.rest then some (c.bumps text.length) else none

def here (c : Cursor) : Span := ⟨c.place, c.place⟩

def char (c : Cursor) : Span := ⟨c.place, c.bump.place⟩

def since (c : Cursor) (first : Place) : Span := ⟨first, c.place⟩

/-- Goes past white space and comments, which reach to the end of a line. -/
def pastBlanks (inComment : Bool) : List Char → Place → Cursor
  | [], p => ⟨[], p⟩
  | x :: rest, p =>
    if inComment then pastBlanks (x ≠ '\n') rest (p.past x)
    else if Text.isBlank x then pastBlanks false rest (p.past x)
    else if x = '#' then pastBlanks true rest (p.past x)
    else ⟨x :: rest, p⟩

/-- Goes past what means nothing. -/
def skip (loose : Bool) (c : Cursor) : Cursor :=
  if loose then pastBlanks false c.rest c.place else c

/-- Goes past a character and what means nothing behind it. -/
def next (loose : Bool) (c : Cursor) : Cursor := c.bump.skip loose

/-- The first character that is not white space, behind at most one sign that begins a comment. -/
def firstSolid (inComment : Bool) : List Char → Option Char
  | [] => none
  | x :: rest =>
    if Text.isBlank x then firstSolid inComment rest
    else if !inComment && x = '#' then firstSolid true rest
    else some x

/-- The character behind the next one.  In a loose pattern it is the first that is not white
space, if there is such a one. -/
def peek (loose : Bool) (c : Cursor) : Option Char :=
  let rest := c.rest.drop 1
  if loose then (firstSolid false rest).or rest.head? else rest.head?

end Cursor

end FixedWidth.Pattern
