import FixedWidth.Pattern.Bracket
import FixedWidth.Pattern.Count
import FixedWidth.Text.Alphabetic

/-!
# Reading a pattern

Parts stand one after another, bars separate alternatives, and parentheses make a group.  A part
can be repeated, and flags say how what follows is meant.
-/

namespace FixedWidth.Pattern

/-! ## Alternatives -/

/-- The alternatives of a group, or of the whole, that have been read. -/
structure Branches where
  first : Place
  /-- the alternatives that a bar has closed, from the last one -/
  closed : List Node
  /-- where the open one begins -/
  current : Place
  /-- its parts, from the last one -/
  parts : List Node

namespace Branches

def empty (p : Place) : Branches := ⟨p, [], p, []⟩

def push (b : Branches) (n : Node) : Branches := { b with parts := n :: b.parts }

def branch (b : Branches) (c : Cursor) : Node := .ofParts (c.since b.current) b.parts.reverse

def bar (b : Branches) (c : Cursor) : Branches :=
  { b with closed := b.branch c :: b.closed, current := c.bump.place, parts := [] }

def close (b : Branches) (c : Cursor) : Node :=
  if b.closed.isEmpty then b.branch c
  else .alternatives (c.since b.first) (b.branch c :: b.closed).reverse

end Branches

/-! ## Openings of groups -/

/-- What an opening parenthesis begins. -/
inductive Opening where
  /-- flags for what follows -/
  | flags (items : List FlagItem)
  | group (captures : Bool) (items : List FlagItem)

def Flag.ofChar? : Char → Option Flag
  | 'i' => some .ignoreCase
  | 'm' => some .multiLine
  | 's' => some .dotAll
  | 'U' => some .swapGreed
  | 'u' => some .unicode
  | 'R' => some .crlf
  | 'x' => some .loose
  | _ => none

/-- A flag or its negation, and where it is. -/
structure PlacedFlag where
  item : FlagItem
  span : Span

/-- Reads the sign of a flag, after those that are known. -/
def readFlag (known : List PlacedFlag) (x : Char) (c : Cursor) : Except Fault PlacedFlag :=
  let add (item : FlagItem) (repeated : Flaw) : Except Fault PlacedFlag :=
    match known.find? (·.item = item) with
    | some p => .error (.again repeated c.char p.span)
    | none => .ok ⟨item, c.char⟩
  if x = '-' then add none .negationRepeated
  else
    match Flag.ofChar? x with
    | some f => add (some f) .flagRepeated
    | none => .error (.on .flagUnknown c.char)

/-- Reads flags up to a colon or a closing parenthesis.  `known` are those before, from the last
one. -/
def readFlags : Nat → List PlacedFlag → Cursor → Except Fault (List FlagItem × Cursor)
  | 0, _, c => .error (.on .flagCut c.here)
  | fuel + 1, known, c => do
    match c.rest with
    | [] => throw (.on .flagCut c.here)
    | x :: _ =>
      if x = ':' || x = ')' then
        match known with
        | ⟨none, span⟩ :: _ => throw (.on .negationDangling span)
        | _ => return (known.reverse.map (·.item), c)
      let flag ← readFlag known x c
      if c.bump.atEnd then throw (.on .flagCut c.bump.here)
      readFlags fuel (flag :: known) c.bump

def isNameChar (first : Bool) (x : Char) : Bool :=
  x = '_' || Text.isAlphabetic x ||
    !first && (x = '.' || x = '[' || x = ']' || Text.isNumeric x)

def takeName : Nat → List Char → Cursor → Except Fault (List Char × Cursor)
  | 0, _, c => .error (.on .nameUnclosed c.here)
  | fuel + 1, name, c =>
    match c.rest with
    | [] => .error (.on .nameUnclosed c.here)
    | x :: _ =>
      if x = '>' then .ok (name.reverse, c)
      else if isNameChar name.isEmpty x then takeName fuel (x :: name) c.bump
      else .error (.on .nameCharacter c.char)

/-- Names of groups, and where they are. -/
abbrev GroupNames := List (List Char × Span)

/-- Reads the name of a group, which no other group may have. -/
def readName (names : GroupNames) (c : Cursor) : Except Fault (GroupNames × Cursor) := do
  let (name, stop) ← takeName (c.rest.length + 1) [] c
  if name.isEmpty then throw (.on .nameEmpty c.here)
  let span := stop.since c.place
  match names.lookup name with
  | some earlier => throw (.again .nameRepeated span earlier)
  | none => return ((name, span) :: names, stop.bump)

def readOpening (loose : Bool) (names : GroupNames) (c : Cursor) :
    Except Fault (Opening × GroupNames × Cursor) := do
  let inside := c.next loose
  if let some look := ["?=", "?!", "?<=", "?<!"].findSome? inside.past? then
    throw (.on .lookAround (look.since c.place))
  if let some name := ["?P<", "?<"].findSome? inside.past? then
    let (names, after) ← readName names name
    return (.group true [], names, after)
  match inside.past? "?" with
  | none => return (.group true [], names, inside)
  | some flags =>
    if flags.atEnd then throw (.on .groupUnclosed c.char)
    let (items, stop) ← readFlags (flags.rest.length + 1) [] flags
    if stop.rest.head? = some ':' then return (.group false items, names, stop.bump)
    if items.isEmpty then throw (.on .nothingToRepeat inside.here)
    return (.flags items, names, stop.bump)

/-! ## The whole -/

/-- A group whose closing parenthesis has not been read. -/
structure OpenGroup where
  /-- its opening parenthesis -/
  span : Span
  captures : Bool
  flags : List FlagItem
  /-- what has been read around it -/
  outer : Branches
  /-- whether the pattern is loose around it -/
  loose : Bool

/-- How far a pattern has been read. -/
structure Progress where
  branches : Branches
  /-- the groups around, from the innermost -/
  groups : List OpenGroup
  names : GroupNames
  loose : Bool

namespace Progress

def start : Progress := ⟨.empty .start, [], [], false⟩

def push (p : Progress) (n : Node) : Progress := { p with branches := p.branches.push n }

/-- Goes on behind the opening of a group or behind flags. -/
def enter (p : Progress) (c : Cursor) : Except Fault (Progress × Cursor) := do
  let (opening, names, after) ← readOpening p.loose p.names c
  match opening with
  | .flags items =>
    let p := p.push (.flags (after.since c.place) items)
    return ({ p with loose := (flagState .loose items).getD p.loose }, after)
  | .group captures items =>
    let group : OpenGroup := ⟨c.char, captures, items, p.branches, p.loose⟩
    return (⟨.empty after.place, group :: p.groups, names, (flagState .loose items).getD p.loose⟩,
      after)

/-- Goes on behind a closing parenthesis. -/
def leave (p : Progress) (c : Cursor) : Except Fault (Progress × Cursor) :=
  match p.groups with
  | [] => .error (.on .groupUnopened c.char)
  | g :: groups =>
    let node := .group (c.bump.since g.span.first) g.captures g.flags (p.branches.close c)
    .ok (⟨g.outer.push node, groups, p.names, g.loose⟩, c.bump)

/-- Repeats the last part.  `after` is behind the sign of repetition. -/
def repeatLast (p : Progress) (after : Cursor) (least : Nat) (most : Option Nat) : Progress :=
  match p.branches.parts with
  | [] => p
  | last :: parts =>
    let node := .repetition (after.since last.span.first) least most last
    { p with branches := { p.branches with parts := node :: parts } }

/-- There has to be something to repeat. -/
def checkLast (p : Progress) (c : Cursor) : Except Fault Unit :=
  if p.branches.parts.head?.all (·.isVoid) then .error (.on .nothingToRepeat c.here) else .ok ()

/-- Reads a part that is no group, class or repetition. -/
def readPart (loose : Bool) (x : Char) (c : Cursor) : Except Fault (Node × Cursor) :=
  match x with
  | '\\' => (readEscape loose c).map fun (p, c) => (p.toNode, c)
  | '.' => .ok (.dot c.char, c.bump)
  | '^' => .ok (.assertion c.char .lineStart, c.bump)
  | '$' => .ok (.assertion c.char .lineEnd, c.bump)
  | x =>
    let (l, c) := readVerbatim c x
    .ok (.literal l, c)

def step (p : Progress) (x : Char) (c : Cursor) : Except Fault (Progress × Cursor) := do
  let repeated (least : Nat) (most : Option Nat) : Except Fault (Progress × Cursor) := do
    p.checkLast c
    let after := pastQuestion c.bump
    return (p.repeatLast after least most, after)
  match x with
  | '(' => p.enter c
  | ')' => p.leave c
  | '|' => return ({ p with branches := p.branches.bar c }, c.bump)
  | '[' =>
    let (n, after) ← readClass p.loose c
    return (p.push n, after)
  | '?' => repeated 0 (some 1)
  | '*' => repeated 0 none
  | '+' => repeated 1 none
  | '{' =>
    p.checkLast c
    let ((least, most), after) ← readCounts p.loose c
    return (p.repeatLast after least most, after)
  | x =>
    let (n, after) ← readPart p.loose x c
    return (p.push n, after)

def run : Nat → Progress → Cursor → Except Fault Node
  | 0, p, c => .ok (p.branches.close c)
  | fuel + 1, p, c => do
    let c := c.skip p.loose
    match c.rest with
    | [] =>
      match p.groups with
      | [] => return p.branches.close c
      | g :: _ => throw (.on .groupUnclosed g.span)
    | x :: _ =>
      let (p, c) ← p.step x c
      run fuel p c

end Progress

def Node.ofString (s : String) : Except Fault Node := do
  let c := Cursor.ofString s
  let node ← Progress.start.run (c.rest.length + 1) c
  match node.tooDeep? maxNesting with
  | some span => throw (.on .tooNested span)
  | none => return node

end FixedWidth.Pattern
