import FixedWidth.Pattern.Flaw

/-!
# Patterns as they are written

The parts of a pattern with their spans, before anything is said about what they match.
-/

namespace FixedWidth.Pattern

/-- A character that stands for itself, however it is written. -/
structure Literal where
  span : Span
  char : Char
  /-- whether it is written as a byte, by two hexadecimal digits -/
  isByte : Bool := false
deriving DecidableEq

/-- Sets of characters that have a name. -/
inductive NamedSet where
  | digit
  | space
  | word
  | property (name : String)
  | propertyValue (name value : String)
deriving DecidableEq

/-- Sets of ASCII characters that have a name within a class. -/
inductive AsciiSet where
  | alnum
  | alpha
  | ascii
  | blank
  | cntrl
  | digit
  | graph
  | lower
  | print
  | punct
  | space
  | upper
  | word
  | xdigit
deriving DecidableEq

def AsciiSet.ofName? : String → Option AsciiSet
  | "alnum" => some .alnum
  | "alpha" => some .alpha
  | "ascii" => some .ascii
  | "blank" => some .blank
  | "cntrl" => some .cntrl
  | "digit" => some .digit
  | "graph" => some .graph
  | "lower" => some .lower
  | "print" => some .print
  | "punct" => some .punct
  | "space" => some .space
  | "upper" => some .upper
  | "word" => some .word
  | "xdigit" => some .xdigit
  | _ => none

inductive SetOp where
  | intersection
  | difference
  | symmetricDifference
deriving DecidableEq

inductive Class where
  | empty (span : Span)
  | literal (l : Literal)
  | range (span : Span) (low high : Literal)
  | ascii (span : Span) (negated : Bool) (set : AsciiSet)
  | named (span : Span) (negated : Bool) (set : NamedSet)
  | bracketed (span : Span) (negated : Bool) (content : Class)
  | union (span : Span) (items : List Class)
  | combined (span : Span) (op : SetOp) (left right : Class)

def Class.span : Class → Span
  | .literal l => l.span
  | .empty s | .range s .. | .ascii s .. | .named s .. | .bracketed s .. | .union s _
  | .combined s .. => s

/-- Which sides of a place have to be part of a word. -/
inductive Boundary where
  /-- just one of them -/
  | edge
  /-- both or neither -/
  | notEdge
  /-- only the right -/
  | start
  /-- only the left -/
  | stop
  /-- not the left -/
  | startHalf
  /-- not the right -/
  | stopHalf
deriving DecidableEq

inductive Assertion where
  | lineStart
  | lineEnd
  | textStart
  | textEnd
  | word (b : Boundary)
deriving DecidableEq

inductive Flag where
  | ignoreCase
  | multiLine
  | dotAll
  | swapGreed
  | unicode
  | crlf
  | loose
deriving DecidableEq

/-- A flag or, as `none`, the sign that negates the flags behind it. -/
abbrev FlagItem := Option Flag

/-- Whether flags turn one on or off, if they have it. -/
def flagState (flag : Flag) : List FlagItem → Option Bool
  | [] => none
  | none :: items => if items.contains (some flag) then some false else none
  | some f :: items => if f = flag then some true else flagState flag items

inductive Node where
  | empty (span : Span)
  /-- flags for what follows -/
  | flags (span : Span) (items : List FlagItem)
  | literal (l : Literal)
  | dot (span : Span)
  | assertion (span : Span) (a : Assertion)
  | named (span : Span) (negated : Bool) (set : NamedSet)
  | bracketed (span : Span) (negated : Bool) (content : Class)
  | repetition (span : Span) (least : Nat) (most : Option Nat) (body : Node)
  | group (span : Span) (captures : Bool) (flags : List FlagItem) (body : Node)
  | sequence (span : Span) (parts : List Node)
  | alternatives (span : Span) (parts : List Node)

namespace Node

def span : Node → Span
  | .literal l => l.span
  | .empty s | .flags s _ | .dot s | .assertion s _ | .named s .. | .bracketed s ..
  | .repetition s .. | .group s .. | .sequence s _ | .alternatives s _ => s

/-- Parts one after another.  A single part is no sequence. -/
def ofParts (span : Span) : List Node → Node
  | [] => .empty span
  | [n] => n
  | parts => .sequence span parts

/-- Whether a node is nothing that could be repeated. -/
def isVoid : Node → Bool
  | .empty _ | .flags .. => true
  | _ => false

end Node

/-! ## Nesting -/

mutual

/-- The span of the first part that is nested deeper than `depth` allows. -/
def Class.tooDeep? (depth : Nat) : Class → Option Span
  | .bracketed s _ content => if depth = 0 then some s else content.tooDeep? (depth - 1)
  | .union s items => if depth = 0 then some s else tooDeepItems? (depth - 1) items
  | .combined s _ left right =>
    if depth = 0 then some s
    else (left.tooDeep? (depth - 1)).or (right.tooDeep? (depth - 1))
  | .empty _ | .literal _ | .range .. | .ascii .. | .named .. => none

def tooDeepItems? (depth : Nat) : List Class → Option Span
  | [] => none
  | c :: cs => (c.tooDeep? depth).or (tooDeepItems? depth cs)

end

mutual

def Node.tooDeep? (depth : Nat) : Node → Option Span
  | .bracketed s _ content => if depth = 0 then some s else content.tooDeep? (depth - 1)
  | .repetition s _ _ body => if depth = 0 then some s else body.tooDeep? (depth - 1)
  | .group s _ _ body => if depth = 0 then some s else body.tooDeep? (depth - 1)
  | .sequence s parts => if depth = 0 then some s else tooDeepParts? (depth - 1) parts
  | .alternatives s parts => if depth = 0 then some s else tooDeepParts? (depth - 1) parts
  | .empty _ | .flags .. | .literal _ | .dot _ | .assertion .. | .named .. => none

def tooDeepParts? (depth : Nat) : List Node → Option Span
  | [] => none
  | n :: ns => (n.tooDeep? depth).or (tooDeepParts? depth ns)

end

end FixedWidth.Pattern
