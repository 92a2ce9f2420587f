/-!
# Splitting at a separator
-/

namespace FixedWidth.Text

variable {α : Type} [DecidableEq α]

/-- Puts an element in front of the first part, unless it is the separator. -/
def splitStep (sep a : α) (parts : List (List α)) : List (List α) :=
  if a = sep then [] :: parts
  else
    match parts with
    | [] => [[a]]
    | p :: ps => (a :: p) :: ps

/-- The parts between separators, empty ones included.  There is always one part more than there
are separators. -/
def split (sep : α) (s : List α) : List (List α) :=
  s.foldr (splitStep sep) [[]]

def splitString (sep : Char) (s : String) : List String :=
  (split sep s.toList).map String.ofList

@[simp] theorem split_nil (sep : α) : split sep [] = [[]] := rfl

@[simp] theorem split_cons_self (sep : α) (s : List α) :
    split sep (sep :: s) = [] :: split sep s := by
  simp [split, splitStep]

theorem split_ne_nil (sep : α) (s : List α) : split sep s ≠ [] := by
  cases s with
  | nil => simp
  | cons a s =>
    unfold split
    rw [List.foldr_cons]
    unfold splitStep
    split
    · simp
    · split <;> simp

theorem split_cons_of_ne {sep a : α} (h : a ≠ sep) (s : List α) :
    split sep (a :: s) = (a :: (split sep s).headD []) :: (split sep s).tail := by
  have hne := split_ne_nil sep s
  unfold split at hne ⊢
  rw [List.foldr_cons]
  cases hs : s.foldr (splitStep sep) [[]] with
  | nil => exact absurd hs hne
  | cons p ps => simp [splitStep, h]

end FixedWidth.Text
