import FixedWidth.Pattern.Expr

/-!
# What the parts of a pattern mean

Flags hold up to the end of the group that they are in.  No tables of Unicode are at hand, so that
named sets have a meaning only where characters are ASCII, and so has a match in either case.
-/

namespace FixedWidth.Pattern

/-- The flags that hold at a place of a pattern. -/
structure Modes where
  ignoreCase : Bool := false
  multiLine : Bool := false
  dotAll : Bool := false
  unicode : Bool := true
  crlf : Bool := false
deriving DecidableEq

def Modes.set (m : Modes) (items : List FlagItem) : Modes where
  ignoreCase := (flagState .ignoreCase items).getD m.ignoreCase
  multiLine := (flagState .multiLine items).getD m.multiLine
  dotAll := (flagState .dotAll items).getD m.dotAll
  unicode := (flagState .unicode items).getD m.unicode
  crlf := (flagState .crlf items).getD m.crlf

/-! ## Sets with a name -/

/-- The name of a property as it is looked for: without letter case, separators and a leading
`is`. -/
def propertyKey (name : String) : List Char :=
  let chars := name.toList
  let chars := if ['i', 's'].isPrefixOf (chars.map (·.toLower)) then chars.drop 2 else chars
  (chars.filter fun c => c.toNat < 0x80 && c ≠ ' ' && c ≠ '_' && c ≠ '-').map (·.toLower)

/-- Three names are values of a property at the same time as they are properties. -/
def isPropertyValue (name : String) : Bool :=
  let key := propertyKey name
  key = ['c', 'f'] || key = ['s', 'c'] || key = ['l', 'c']

namespace NamedSet

/-- What is wrong with a set where characters are Unicode. -/
def flaw : NamedSet → Flaw
  | digit | space | word => .noNamedClass
  | property name => if isPropertyValue name then .noPropertyValue else .noProperty
  | propertyValue .. => .noProperty

/-- The set where characters are ASCII. -/
def ascii? : NamedSet → Option CharSet
  | digit => some AsciiSet.digit.toCharSet
  | space => some AsciiSet.space.toCharSet
  | word => some AsciiSet.word.toCharSet
  | property _ | propertyValue .. => none

def chars (m : Modes) (span : Span) (negated : Bool) (n : NamedSet) : Except Fault CharSet :=
  if m.unicode then .error (.on n.flaw span)
  else
    match n.ascii? with
    | none => .error (.on .notInBytes span)
    | some s => if negated then .error (.on .notUtf8 span) else .ok s

end NamedSet

/-! ## Classes -/

/-- A byte that is no character by itself cannot be matched. -/
def Literal.check (m : Modes) (l : Literal) : Except Fault Unit :=
  if !m.unicode && l.isByte && 0x80 ≤ l.char.toNat then .error (.on .notUtf8 l.span) else .ok ()

/-- The character of a literal in a class, which is ASCII where characters are. -/
def Literal.inClass (m : Modes) (l : Literal) : Except Fault Char := do
  l.check m
  if !m.unicode && 0x80 ≤ l.char.toNat then throw (.on .notInBytes l.span)
  return l.char

namespace Class

mutual

/-- Whether a class lists a character by itself, outside of other classes. -/
def listsChars : Class → Bool
  | literal _ | range .. => true
  | union _ items => anyListsChars items
  | empty _ | ascii .. | named .. | bracketed .. | combined .. => false

def anyListsChars : List Class → Bool
  | [] => false
  | c :: cs => c.listsChars || anyListsChars cs

end

/-- Takes in the other case of letters.  That of a character that is listed by itself is unknown
where characters are Unicode. -/
def foldCase (m : Modes) (span : Span) (lists : Bool) (s : CharSet) : Except Fault CharSet :=
  if !m.ignoreCase then .ok s
  else if !m.unicode then .ok (.eitherCase s)
  else if lists then .error (.on .noCaseTable span)
  else .ok s

/-- Takes what is not in a set.  Where characters are ASCII that would match parts of others. -/
def negate (m : Modes) (span : Span) (negated : Bool) (s : CharSet) : Except Fault CharSet :=
  if !negated then .ok s
  else if m.unicode then .ok (.compl s)
  else .error (.on .notUtf8 span)

end Class

def SetOp.apply : SetOp → CharSet → CharSet → CharSet
  | .intersection => .inter
  | .difference => .diff
  | .symmetricDifference => .symmDiff

namespace Class

mutual

def chars (m : Modes) : Class → Except Fault CharSet
  | empty _ => .ok .empty
  | literal l => do return .single (← l.inClass m)
  | range _ low high => do return .range (← low.inClass m) (← high.inClass m)
  | ascii span negated set => do negate m span negated (← foldCase m span true set.toCharSet)
  | named span negated set => set.chars m span negated
  | bracketed span negated content => do
    negate m span negated (← foldCase m span content.listsChars (← content.chars m))
  | union _ items => unionChars m items
  | combined _ op left right => do
    let l ← left.chars m
    let r ← right.chars m
    let r ← foldCase m right.span right.listsChars r
    let l ← foldCase m left.span left.listsChars l
    return op.apply l r

def unionChars (m : Modes) : List Class → Except Fault CharSet
  | [] => .ok .empty
  | c :: cs => do return .union (← c.chars m) (← unionChars m cs)

end

end Class

/-! ## Parts of a pattern -/

def Literal.expr (m : Modes) (l : Literal) : Except Fault Expr := do
  l.check m
  if !m.ignoreCase then return .char (.single l.char)
  if m.unicode then throw (.on .noCaseTable l.span)
  if 0x80 ≤ l.char.toNat then throw (.on .notInBytes l.span)
  if l.char.isAlpha then return .char (.eitherCase (.single l.char))
  return .char (.single l.char)

/-- What a dot matches: any character, mostly with the exception of ends of lines. -/
def dotChars (m : Modes) : CharSet :=
  if m.dotAll then .any
  else if m.crlf then .compl (.union (.single '\r') (.single '\n'))
  else .compl (.single '\n')

def Assertion.look (m : Modes) : Assertion → Look
  | .lineStart => if m.multiLine then .lineStart m.crlf else .textStart
  | .lineEnd => if m.multiLine then .lineEnd m.crlf else .textEnd
  | .textStart => .textStart
  | .textEnd => .textEnd
  | .word b => .word m.unicode b

namespace Node

mutual

/-- The meaning of a part, and the flags that hold behind it. -/
def expr (m : Modes) : Node → Except Fault (Expr × Modes)
  | empty _ => .ok (.empty, m)
  | flags _ items => .ok (.empty, m.set items)
  | literal l => do return (← l.expr m, m)
  | dot span => if m.unicode then .ok (.char (dotChars m), m) else .error (.on .notUtf8 span)
  | assertion _ a => .ok (.look (a.look m), m)
  | named span negated set => do return (.char (← set.chars m span negated), m)
  | bracketed span negated content => do
    return (.char (← (Class.bracketed span negated content).chars m), m)
  | repetition _ least most body => do
    let (e, m) ← body.expr m
    return (.repeated least most e, m)
  | group _ captures items body => do
    let (e, _) ← body.expr (m.set items)
    return (if captures then .group e else e, m)
  | sequence _ parts => sequenceExpr m parts
  | alternatives _ parts => eitherExpr m parts

def sequenceExpr (m : Modes) : List Node → Except Fault (Expr × Modes)
  | [] => .ok (.empty, m)
  | [n] => n.expr m
  | n :: ns => do
    let (e, m) ← n.expr m
    let (f, m) ← sequenceExpr m ns
    return (.sequence e f, m)

def eitherExpr (m : Modes) : List Node → Except Fault (Expr × Modes)
  | [] => .ok (.empty, m)
  | [n] => n.expr m
  | n :: ns => do
    let (e, m) ← n.expr m
    let (f, m) ← eitherExpr m ns
    return (.either e f, m)

end

end Node

end FixedWidth.Pattern
