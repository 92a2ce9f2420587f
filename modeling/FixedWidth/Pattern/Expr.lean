import FixedWidth.Pattern.CharSet

/-!
# What a pattern matches

An expression takes places of a text to those where a match that begins there can end.  A text
matches if this leaves a place.
-/

namespace FixedWidth.Pattern

-- Powers are the core operation here, also where those of a monoid are known.
attribute [local instance (1100)] instPowNat

/-! ## Places -/

/-- A set of places of a text, as the bits of a number.  Place 0 is before the first character. -/
abbrev Places := Nat

namespace Places

def all (text : List Char) : Places := 2 ^ (text.length + 1) - 1

/-- The places before characters with a property. -/
def before (p : Char → Bool) : List Char → Places
  | [] => 0
  | c :: cs => (p c).toNat + 2 * before p cs

/-- The places whose neighbours have a property.  `left` precedes the text. -/
def between (p : Option Char → Option Char → Bool) (left : Option Char) : List Char → Places
  | [] => (p left none).toNat
  | c :: cs => (p left (some c)).toNat + 2 * between p (some c) cs

def steps (step : Places → Places) : Nat → Places → Places
  | 0, ps => ps
  | n + 1, ps => if ps = 0 then 0 else steps step n (step ps)

/-- What can be reached by up to a number of steps.  Of the places that have been reached, only
the new ones are to be gone on from. -/
def reach (step : Places → Places) : Nat → Places → Places → Places
  | 0, reached, _ => reached
  | n + 1, reached, new =>
    if new = 0 then reached
    else
      let all := reached ||| step new
      reach step n all (all ^^^ reached)

end Places

/-! ## Expressions -/

def isWordChar (c : Char) : Bool := AsciiSet.word.toCharSet.contains c

namespace Boundary

def holds (b : Boundary) (left right : Option Char) : Bool :=
  let l := left.any isWordChar
  let r := right.any isWordChar
  match b with
  | .edge => l != r
  | .notEdge => l == r
  | .start => !l && r
  | .stop => l && !r
  | .startHalf => !l
  | .stopHalf => !r

end Boundary

/-- What a place has to be.  `pairs` says that a carriage return ends a line as well, together with
a line feed behind it. -/
inductive Look where
  | textStart
  | textEnd
  | lineStart (pairs : Bool)
  | lineEnd (pairs : Bool)
  | word (unicode : Bool) (b : Boundary)
deriving DecidableEq

def Look.holds (look : Look) (left right : Option Char) : Bool :=
  match look with
  | .textStart => left.isNone
  | .textEnd => right.isNone
  | .lineStart pairs =>
    left.isNone || left = some '\n' || pairs && left = some '\r' && right ≠ some '\n'
  | .lineEnd false => right.isNone || right = some '\n'
  | .lineEnd true =>
    right.isNone || right = some '\r' || right = some '\n' && left ≠ some '\r'
  | .word _ b => b.holds left right

inductive Expr where
  | empty
  | char (s : CharSet)
  | look (l : Look)
  | group (e : Expr)
  | sequence (e f : Expr)
  | either (e f : Expr)
  | times (least : Nat) (most : Option Nat) (e : Expr)
deriving DecidableEq

namespace Expr

/-- Where matches can end that begin at one of the places.  More repetitions than there are places
reach nothing that fewer do not reach. -/
def ends (text : List Char) : Expr → Places → Places
  | empty, ps => ps
  | char s, ps => (ps &&& .before s.contains text) <<< 1
  | look l, ps => ps &&& .between l.holds none text
  | group e, ps => e.ends text ps
  | sequence e f, ps => f.ends text (e.ends text ps)
  | either e f, ps => e.ends text ps ||| f.ends text ps
  | times least most e, ps =>
    let limit := text.length + 1
    let first := Places.steps (e.ends text) (min least limit) ps
    Places.reach (e.ends text) ((most.map (min · limit - least)).getD limit) first first

def isMatch (e : Expr) (text : String) : Bool :=
  e.ends text.toList (.all text.toList) ≠ 0

end Expr

/-! ## Size -/

namespace Expr

/-- Whether an expression matches nothing but an empty text. -/
def isZeroWidth : Expr → Bool
  | empty | look _ => true
  | char _ => false
  | group e | times _ _ e => e.isZeroWidth
  | sequence e f | either e f => e.isZeroWidth && f.isZeroWidth

/-- A repetition.  What matches only an empty text need not be repeated. -/
def repeated (least : Nat) (most : Option Nat) (e : Expr) : Expr :=
  let (least, most) := if e.isZeroWidth then (min least 1, some (min (most.getD 1) 1))
    else (least, most)
  if most = some 0 then empty
  else if least = 1 ∧ most = some 1 then e
  else times least most e

def canBeEmpty : Expr → Bool
  | empty | look _ => true
  | char _ => false
  | group e => e.canBeEmpty
  | sequence e f => e.canBeEmpty && f.canBeEmpty
  | either e f => e.canBeEmpty || f.canBeEmpty
  | times least _ e => least = 0 || e.canBeEmpty

/-- Whether words of all scripts are asked for. -/
def asksForUnicodeWords : Expr → Bool
  | look (.word unicode _) => unicode
  | empty | char _ | look _ => false
  | group e | times _ _ e => e.asksForUnicodeWords
  | sequence e f | either e f => e.asksForUnicodeWords || f.asksForUnicodeWords

def stateSize : Nat := 32

def choiceSize : Nat := stateSize + 8

/-- The direction in which a text is read. -/
inductive Direction where
  | forward
  | backward
deriving DecidableEq

/-- The bytes that the states of a set of characters take.  Beyond ASCII they stand for the bytes
of an encoding, and nearly the same number does for all sets. -/
def charSize (d : Direction) (s : CharSet) : Nat :=
  match s with
  | .range low high =>
    if low = high then stateSize * low.utf8Size
    else if high.toNat < 0x80 then 2 * stateSize
    else wide
  | s =>
    if s.isAscii then
      let n := s.asciiRangeCount
      2 * stateSize + if n ≤ 1 then 0 else 8 * n
    else wide
where
  wide : Nat := if d = .forward then 424 else 1000

def size (d : Direction) : Expr → Nat
  | empty | look _ => stateSize
  | char s => charSize d s
  | group e => e.size d + if d = .forward then 2 * stateSize else 0
  | sequence e f => e.size d + f.size d
  | either e f => e.size d + f.size d + choiceSize + stateSize
  | times least none e =>
    if least = 0 ∧ e.canBeEmpty then e.size d + 2 * choiceSize + stateSize
    else max least 1 * e.size d + choiceSize
  | times least (some most) e =>
    if least = most then least * e.size d
    else most * e.size d + (most - least) * choiceSize + stateSize

def maxSize : Nat := 10 * 2 ^ (20 : Nat)

end Expr

end FixedWidth.Pattern
