import FixedWidth.Pattern.Escape

/-!
# Classes in brackets

A class lists characters, ranges and named sets, and may hold other classes.  Two classes side by
side with an operation between them are combined, and of several operations the left comes first.
-/

namespace FixedWidth.Pattern

/-- A class whose closing bracket has not been read. -/
structure OpenClass where
  /-- its opening, which is marked if it is never closed -/
  span : Span
  negated : Bool
  /-- the last operation and all on its left -/
  left : Option (Class × SetOp)
  /-- where the items behind that begin -/
  first : Place
  /-- these items, from the last one -/
  items : List Class

namespace OpenClass

def unclosed (o : OpenClass) : Fault := .on .classUnclosed o.span

/-- The items behind the last operation. -/
def right (o : OpenClass) : Class :=
  match o.items with
  | [] => .empty ⟨o.first, o.first⟩
  | [item] => item
  | last :: before =>
    .union ⟨((before.getLast?.map (·.span.first)).getD o.first), last.span.last⟩ o.items.reverse

def content (o : OpenClass) : Class :=
  match o.left with
  | none => o.right
  | some (left, op) => .combined ⟨left.span.first, o.right.span.last⟩ op left o.right

def add (o : OpenClass) (item : Class) : OpenClass := { o with items := item :: o.items }

/-- Goes on behind an operation. -/
def combine (o : OpenClass) (op : SetOp) (c : Cursor) : OpenClass :=
  { o with left := some (o.content, op), first := c.place, items := [] }

end OpenClass

/-! ## Items -/

/-- Reads a sign that stands for itself. -/
def readVerbatim (c : Cursor) (x : Char) : Literal × Cursor :=
  (⟨c.char, x, false⟩, c.bump)

/-- Reads an item or an end of a range. -/
def readClassPrimitive (loose : Bool) (o : OpenClass) (c : Cursor) :
    Except Fault (Primitive × Cursor) :=
  match c.rest with
  | [] => .error o.unclosed
  | '\\' :: _ => readEscape loose c
  | x :: _ =>
    let (l, c) := readVerbatim c x
    .ok (.literal l, c)

/-- Whether a range goes on.  A hyphen before the closing bracket or before another hyphen is
none. -/
def isRangeNext (loose : Bool) (c : Cursor) : Bool :=
  c.rest.head? = some '-' && c.peek loose ≠ some ']' && c.peek loose ≠ some '-'

def readClassItem (loose : Bool) (o : OpenClass) (c : Cursor) : Except Fault (Class × Cursor) := do
  let (low, c) ← readClassPrimitive loose o c
  let c := c.skip loose
  if c.atEnd then throw o.unclosed
  if !isRangeNext loose c then return (← low.toClass, c)
  let (high, c) ← readClassPrimitive loose o (c.next loose)
  let span := ⟨low.span.first, high.span.last⟩
  let low ← low.toLiteral
  let high ← high.toLiteral
  if high.char < low.char then throw (.on .classRange span)
  return (.range span low high, c)

/-- Reads a set of ASCII characters, by its name between colons and brackets. -/
def readAsciiSet? (c : Cursor) : Option (Class × Cursor) := do
  let inside ← c.past? "[:"
  let (negated, inside) := ((inside.past? "^").map (true, ·)).getD (false, inside)
  let name := inside.rest.takeWhile (· ≠ ':')
  let after ← (inside.bumps name.length).past? ":]"
  let set ← AsciiSet.ofName? (String.ofList name)
  return (.ascii (after.since c.place) negated set, after)

/-! ## Brackets -/

/-- Takes hyphens at the beginning of a class as items. -/
def readHyphens (loose : Bool) (start : Place) :
    Nat → List Class → Cursor → Except Fault (List Class × Cursor)
  | 0, items, c => .ok (items, c)
  | fuel + 1, items, c =>
    match c.rest with
    | '-' :: _ =>
      let next := c.next loose
      if next.atEnd then .error (.on .classUnclosed ⟨start, start⟩)
      else readHyphens loose start fuel (.literal ⟨c.char, '-', false⟩ :: items) next
    | _ => .ok (items, c)

/-- Reads the opening of a class.  A closing bracket that comes first is an item, since no class
can be written empty. -/
def openClass (loose : Bool) (c : Cursor) : Except Fault (OpenClass × Cursor) := do
  let start := c.place
  let unclosed (c : Cursor) : Fault := .on .classUnclosed (c.since start)
  let c := c.next loose
  if c.atEnd then throw (unclosed c)
  let negated : Bool := c.rest.head? = some '^'
  let c := if negated then c.next loose else c
  if c.atEnd then throw (unclosed c)
  let first := c.place
  let (hyphens, c) ← readHyphens loose start c.rest.length [] c
  if hyphens.isEmpty && c.rest.head? = some ']' then
    let item := Class.literal ⟨c.char, ']', false⟩
    let c := c.next loose
    if c.atEnd then throw (unclosed c)
    return (⟨c.since start, negated, none, first, [item]⟩, c)
  return (⟨c.since start, negated, none, first, hyphens⟩, c)

def setOpNext? (c : Cursor) : Option (SetOp × Cursor) :=
  ((c.past? "&&").map (.intersection, ·)).or <|
    ((c.past? "--").map (.difference, ·)).or ((c.past? "~~").map (.symmetricDifference, ·))

/-- Reads on in a class, which stands in the `outer` ones, up to the end of the outermost. -/
def readClassFrom (loose : Bool) :
    Nat → OpenClass → List OpenClass → Cursor → Except Fault (Node × Cursor)
  | 0, o, _, _ => .error o.unclosed
  | fuel + 1, o, outer, c => do
    let c := c.skip loose
    match c.rest with
    | [] => throw o.unclosed
    | '[' :: _ =>
      match readAsciiSet? c with
      | some (item, c) => readClassFrom loose fuel (o.add item) outer c
      | none =>
        let (inner, c) ← openClass loose c
        readClassFrom loose fuel inner (o :: outer) c
    | ']' :: _ =>
      let c := c.bump
      let span := c.since o.span.first
      match outer with
      | [] => return (.bracketed span o.negated o.content, c)
      | next :: outer =>
        readClassFrom loose fuel (next.add (.bracketed span o.negated o.content)) outer c
    | _ =>
      match setOpNext? c with
      | some (op, c) => readClassFrom loose fuel (o.combine op c) outer c
      | none =>
        let (item, c) ← readClassItem loose o c
        readClassFrom loose fuel (o.add item) outer c

def readClass (loose : Bool) (c : Cursor) : Except Fault (Node × Cursor) := do
  let (o, c) ← openClass loose c
  readClassFrom loose (c.rest.length + 1) o [] c

end FixedWidth.Pattern
