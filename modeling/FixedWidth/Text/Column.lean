/-!
# Text in a column

A column is a number of characters wide.  `wrap` cuts a text into pieces that fit one below the
other, and `pad?` fills a piece with spaces up to the width.
-/

namespace FixedWidth.Text

/-- Cuts a list into pieces of `n + 1`, the last of which may be shorter.  There is always a
piece, so the empty list gives one empty piece. -/
def pieces {α : Type} (n : Nat) (s : List α) : List (List α) :=
  match h : s.drop (n + 1) with
  | [] => [s]
  | c :: rest => s.take (n + 1) :: pieces n (c :: rest)
termination_by s.length
decreasing_by
  have := congrArg List.length h
  simp only [List.length_drop, List.length_cons] at this ⊢
  omega

/-- The pieces of a text that fit a column, from the top down.  A column without width takes one
character at a time. -/
def wrap (width : Nat) (s : String) : List String :=
  (pieces (width - 1) s.toList).map String.ofList

def spaces (n : Nat) : String :=
  String.ofList (List.replicate n ' ')

/-- The widest column that can be padded. -/
def maxPad : Nat := 65535

/-- Fills a text with spaces on the right up to the width; a longer text stays as it is.  A column
wider than `maxPad` cannot be padded, whatever the text. -/
def pad? (width : Nat) (s : String) : Option String :=
  if width ≤ maxPad then some (s ++ spaces (width - s.length)) else none

theorem pieces_of_length_le {α : Type} {n : Nat} {s : List α} (h : s.length ≤ n + 1) :
    pieces n s = [s] := by
  have : s.drop (n + 1) = [] := List.drop_eq_nil_of_le h
  unfold pieces
  split <;> simp_all

theorem pieces_ne_nil {α : Type} (n : Nat) (s : List α) : pieces n s ≠ [] := by
  unfold pieces
  split <;> simp

@[simp] theorem flatten_pieces {α : Type} (n : Nat) (s : List α) : (pieces n s).flatten = s := by
  fun_induction pieces n s with
  | case1 => simp
  | case2 s c rest h ih => rw [List.flatten_cons, ih, ← h, List.take_append_drop]

end FixedWidth.Text
