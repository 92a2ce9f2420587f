/-!
# Text for a plain stream

A stream that is not a terminal gets text without control characters and without the sequences
that steer a terminal.  Tabs, line feeds, form feeds and carriage returns stay.

Such a character in the middle of a sequence lets the text through again from there, up to the next
control character.  What follows that one belongs to the sequence, unless a sequence or a character
beyond ASCII has come between.
-/

namespace FixedWidth.Text

/-- How far into a sequence the reader of a text is. -/
inductive Sequence where
  /-- in none -/
  | none
  /-- after the escape character -/
  | escape
  /-- after a space or a punctuation mark behind the escape character -/
  | intermediate
  /-- in the parameters of a control sequence -/
  | control
  /-- at the start of a device control string -/
  | device
  /-- in its parameters -/
  | parameters
  /-- behind its parameters -/
  | afterParameters
  /-- in a string that only its terminator ends -/
  | string
  /-- in a command to the operating system -/
  | command
deriving DecidableEq

namespace Sequence

def within (low high : Nat) (c : Char) : Bool := low ≤ c.toNat && c.toNat ≤ high

/-- Controls that stay in the text. -/
def isKept (c : Char) : Bool := c = '\t' || c = '\n' || c = '\x0c' || c = '\r'

/-- Whether a character is let through where there is no sequence. -/
def isPlain (c : Char) : Bool := 0x80 ≤ c.toNat || within 0x20 0x7E c || isKept c

/-- Whether the byte 9C, which ends a string, is in the encoding of a character. -/
def holdsTerminator (c : Char) : Bool :=
  (String.singleton c).toUTF8.data.contains 0x9C

def afterEscape (c : Char) : Sequence :=
  if within 0x20 0x2F c then intermediate
  else if c = '[' then control
  else if c = ']' then command
  else if c = 'P' then device
  else if c = 'X' || c = '^' || c = '_' then string
  else if within 0x30 0x7E c then none
  else escape

/-- Goes on in a device control string, up to the character behind its parameters. -/
def inDevice (s : Sequence) (c : Char) : Sequence :=
  if within 0x20 0x2F c then afterParameters
  else if within 0x40 0x7E c then string
  else if within 0x30 0x3F c then
    if s = afterParameters || s = parameters && within 0x3C 0x3F c then string else parameters
  else s

/-- What a character does to a sequence.  An escape begins another one, and two controls end
any. -/
def next (s : Sequence) (c : Char) : Sequence :=
  if c = '\x1b' then escape
  else if c = '\x18' || c = '\x1a' then none
  else
    match s with
    | none => none
    | escape => afterEscape c
    | intermediate => if within 0x30 0x7E c then none else intermediate
    | control => if within 0x40 0x7E c then none else control
    | device | parameters | afterParameters => inDevice s c
    | string => if holdsTerminator c then none else string
    | command => if c = '\x07' then none else command

def lets (s : Sequence) (c : Char) : Bool :=
  match s with
  | none => isPlain c
  | escape | intermediate | control => isKept c
  | device | parameters | afterParameters | string | command => false

end Sequence

/-- Drops what is not let through.  If `through`, the sequence is suspended until the next control
character. -/
def plainFrom (s : Sequence) (through : Bool) : List Char → List Char
  | [] => []
  | c :: cs =>
    if through && Sequence.isPlain c then
      c :: plainFrom (if c.toNat < 0x80 then s else .none) true cs
    else if s.lets c then
      c :: plainFrom (if c.toNat < 0x80 then s else .none) true cs
    else plainFrom (s.next c) false cs

def plain (s : String) : String :=
  String.ofList (plainFrom .none false s.toList)

example : plain "\x1b[31mred\x1b[0m" = "red" := by decide +kernel

example : plain "x\x1b[1\n2\x07m" = "x\n2" := by decide +kernel

end FixedWidth.Text
