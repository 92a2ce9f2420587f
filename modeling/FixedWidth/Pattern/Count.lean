import FixedWidth.Pattern.Tree
import FixedWidth.Text.Blank

/-!
# Counts of repetitions

Braces behind a part of a pattern say how often it is repeated: `{3}` three times, `{3,}` three
times or more, and `{3,5}` three to five times.
-/

namespace FixedWidth.Pattern

/-- The greatest count that can be written. -/
def maxCount : Nat := UInt32.size - 1

/-- Goes past white space, with what `advance` takes along. -/
def pastSpaces (advance : Cursor → Cursor) : Nat → Cursor → Cursor
  | 0, c => c
  | fuel + 1, c =>
    match c.rest with
    | [] => c
    | x :: _ => if Text.isBlank x then pastSpaces advance fuel (advance c) else c

/-- Takes decimal digits. -/
def takeDigits (loose : Bool) : Nat → Nat → Nat → Cursor → Nat × Nat × Cursor
  | 0, count, n, c => (count, n, c)
  | fuel + 1, count, n, c =>
    match c.rest with
    | [] => (count, n, c)
    | d :: _ =>
      if d.isDigit then
        takeDigits loose fuel (count + 1) (10 * n + (d.toNat - '0'.toNat)) (c.next loose)
      else (count, n, c)

/-- Reads a number and the white space around it.  What is wrong with it is told together with
where reading goes on. -/
def readCount (loose : Bool) (c : Cursor) : Except Fault Nat × Cursor :=
  let digits := pastSpaces .bump c.rest.length c
  let (count, n, after) := takeDigits loose digits.rest.length 0 0 digits
  let span := after.since digits.place
  let rest := pastSpaces (·.next loose) after.rest.length after
  if count = 0 then (.error (.on .countEmpty span), rest)
  else if maxCount < n then (.error (.on .decimalTooLarge span), rest)
  else (.ok n, rest)

/-- Goes past the sign that asks for few repetitions rather than many, if it is next. -/
def pastQuestion (c : Cursor) : Cursor := (c.past? "?").getD c

/-- Reads counts in braces, from the opening one. -/
def readCounts (loose : Bool) (c : Cursor) : Except Fault ((Nat × Option Nat) × Cursor) := do
  let start := c.place
  let unclosed (c : Cursor) : Fault := .on .countUnclosed (c.since start)
  let c := c.next loose
  if c.atEnd then throw (unclosed c)
  let (least, c) := readCount loose c
  if c.atEnd then throw (unclosed c)
  let ((least, most), c) ← (do
    if c.rest.head? ≠ some ',' then
      let n ← least
      return ((n, some n), c)
    let c := c.next loose
    if c.atEnd then throw (unclosed c)
    if c.rest.head? = some '\x7d' then return ((← least, none), c)
    let least ← least
    let (most, c) := readCount loose c
    return ((least, some (← most)), c) : Except Fault ((Nat × Option Nat) × Cursor))
  if c.rest.head? ≠ some '\x7d' then throw (unclosed c)
  let c := pastQuestion (c.next loose)
  if most.any (· < least) then throw (.on .countRange (c.since start))
  return ((least, most), c)

end FixedWidth.Pattern
