import FixedWidth.Row
import FixedWidth.Text.Column

/-!
# How a row is laid out

A row is laid out as a list of marks, which are written one after another.  A mark that fills a
column knows the column's width, because a column may be too wide to be filled, and what stands
before it has then been written already.

Texts in one or two columns are escaped, so that a line break in them starts no line.  A status
line, and values side by side, go out as they are.
-/

namespace FixedWidth

inductive Mark where
  | text (s : String)
  /-- a text filled up to the width of its column -/
  | column (width : Nat) (s : String)
deriving DecidableEq

/-- What is written for a mark, unless its column is too wide. -/
def Mark.text? : Mark → Option String
  | .text s => some s
  | .column width s => Text.pad? width s

def Mark.newline : Mark := .text "\n"

def Mark.space : Mark := .text " "

/-- The blank columns between a key and its value, together with the one before the key. -/
def columnGap : Nat := 2

/-- A quarter of the width goes to the key, and what is left beside the gap to the value. -/
def pairWidths (width : Nat) : Nat × Nat :=
  (width / 4, width - (width / 4 + columnGap))

/-- Two columns line by line.  The shorter one is continued by empty texts. -/
def sideBySide (keys values : List String) : List (String × String) :=
  List.zipWithAll (fun k v => (k.getD "", v.getD "")) keys values

/-- A line of one column. -/
def singleLine (width : Nat) (s : String) : List Mark :=
  [.column width s, .newline]

/-- A line of two columns.  A key that is not inset leaves its blank to the gap, so that the
values stay where they are. -/
def pairLine (width : Nat) (inset : Bool) (line : String × String) : List Mark :=
  let (keyWidth, valueWidth) := pairWidths width
  (if inset then [.space] else []) ++ [.column keyWidth line.1] ++
    (if inset then [] else [.space]) ++ [.space, .column valueWidth line.2, .newline]

namespace Row

/-- The lines of a key and its value, each wrapped in its column. -/
def pairLines (width : Nat) (key value : Cell) : List (String × String) :=
  let (keyWidth, valueWidth) := pairWidths width
  sideBySide (Text.wrap keyWidth key.shown) (Text.wrap valueWidth value.shown)

def marks (width : Nat) (inset : Bool) : Row → List Mark
  | .empty => []
  | .line s => singleLine width s
  | .single c => (Text.wrap width c.shown).flatMap (singleLine width)
  | .pair k v => (pairLines width k v).flatMap (pairLine width inset)
  | .wide cells => [.space, .text (" ".intercalate (cells.map Cell.display)), .newline]

/-- The lines that a row is said to take. -/
def lineCount (width : Nat) : Row → Nat
  | .empty => 0
  | .line _ => 1
  | .single c => (Text.wrap width c.shown).length
  | .pair k v => (pairLines width k v).length
  | .wide _ => 1

end Row

end FixedWidth
