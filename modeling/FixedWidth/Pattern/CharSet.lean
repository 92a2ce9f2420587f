import FixedWidth.Pattern.Tree

/-!
# Sets of characters

A set is built from ranges, and what it holds is decided by `CharSet.contains`.
-/

namespace FixedWidth.Pattern

inductive CharSet where
  | empty
  | range (low high : Char)
  | compl (s : CharSet)
  | union (s t : CharSet)
  | inter (s t : CharSet)
  /-- an ASCII letter is in it if its other case is -/
  | eitherCase (s : CharSet)
deriving DecidableEq

namespace CharSet

def contains : CharSet → Char → Bool
  | empty, _ => false
  | range low high, c => decide (low ≤ c) && decide (c ≤ high)
  | compl s, c => !s.contains c
  | union s t, c => s.contains c || t.contains c
  | inter s t, c => s.contains c && t.contains c
  | eitherCase s, c => s.contains c || s.contains c.toLower || s.contains c.toUpper

def any : CharSet := .compl .empty

def single (c : Char) : CharSet := .range c c

def diff (s t : CharSet) : CharSet := .inter s (.compl t)

def symmDiff (s t : CharSet) : CharSet := .union (s.diff t) (t.diff s)

def ofRanges (rs : List (Char × Char)) : CharSet :=
  rs.foldr (fun r s => .union (.range r.1 r.2) s) .empty

/-- The ends of the ranges that a set is built from, as code points. -/
def bounds : CharSet → List Nat
  | empty => []
  | range low high => [low.toNat, high.toNat + 1]
  | compl s | eitherCase s => s.bounds
  | union s t | inter s t => s.bounds ++ t.bounds

/-- Whether a set holds ASCII characters only.  Beyond ASCII, what it holds changes at bounds
alone. -/
def isAscii (s : CharSet) : Bool :=
  (0x80 :: s.bounds).all fun n => n < 0x80 || !(n.isValidChar && s.contains (Char.ofNat n))

/-- The number of ranges of ASCII characters in a set. -/
def asciiRangeCount (s : CharSet) : Nat :=
  ((List.range 0x80).filter fun n =>
    s.contains (Char.ofNat n) && (n = 0 || !s.contains (Char.ofNat (n - 1)))).length

end CharSet

def AsciiSet.toCharSet : AsciiSet → CharSet
  | .alnum => .ofRanges [('0', '9'), ('A', 'Z'), ('a', 'z')]
  | .alpha => .ofRanges [('A', 'Z'), ('a', 'z')]
  | .ascii => .range '\x00' '\x7f'
  | .blank => .ofRanges [('\t', '\t'), (' ', ' ')]
  | .cntrl => .ofRanges [('\x00', '\x1f'), ('\x7f', '\x7f')]
  | .digit => .range '0' '9'
  | .graph => .range '!' '~'
  | .lower => .range 'a' 'z'
  | .print => .range ' ' '~'
  | .punct => .ofRanges [('!', '/'), (':', '@'), ('[', '\x60'), ('\x7b', '~')]
  | .space => .ofRanges [('\t', '\r'), (' ', ' ')]
  | .upper => .range 'A' 'Z'
  | .word => .ofRanges [('0', '9'), ('A', 'Z'), ('_', '_'), ('a', 'z')]
  | .xdigit => .ofRanges [('0', '9'), ('A', 'F'), ('a', 'f')]

end FixedWidth.Pattern
