import FixedWidth.Decimal.Integer

/-!
# Rounding a quotient

All rounding in this library, to binary and to decimal places alike, is one division of natural
numbers whose remainder decides between two neighbours.
-/

namespace FixedWidth.Decimal

/-- Where a quotient half way between two neighbours goes. -/
inductive Tie where
  | even
  | up
deriving DecidableEq

/-- The natural number nearest to `num / den`. -/
def roundDiv (tie : Tie) (num den : Nat) : Nat :=
  match compare (2 * (num % den)) den with
  | .lt => num / den
  | .gt => num / den + 1
  | .eq =>
    match tie with
    | .up => num / den + 1
    | .even => if num / den % 2 = 0 then num / den else num / den + 1

/-- The rounded quotient is the quotient or its successor. -/
theorem roundDiv_eq_or (tie : Tie) (num den : Nat) :
    (roundDiv tie num den = num / den ∧ 2 * (num % den) ≤ den) ∨
      (roundDiv tie num den = num / den + 1 ∧ den ≤ 2 * (num % den)) := by
  unfold roundDiv
  split
  · rename_i h
    exact .inl ⟨rfl, Nat.le_of_lt (Nat.compare_eq_lt.mp h)⟩
  · rename_i h
    exact .inr ⟨rfl, Nat.le_of_lt (Nat.compare_eq_gt.mp h)⟩
  · rename_i h
    have heq := Nat.compare_eq_eq.mp h
    split
    · exact .inr ⟨rfl, Nat.le_of_eq heq.symm⟩
    · split
      · exact .inl ⟨rfl, Nat.le_of_eq heq⟩
      · exact .inr ⟨rfl, Nat.le_of_eq heq.symm⟩

/-- The rounded quotient lies within half a unit of the exact one. -/
theorem roundDiv_near (tie : Tie) (num : Nat) {den : Nat} (hden : 0 < den) :
    2 * (den * roundDiv tie num den) ≤ 2 * num + den ∧
      2 * num ≤ 2 * (den * roundDiv tie num den) + den := by
  have hsplit := Nat.div_add_mod num den
  have hlt := Nat.mod_lt num hden
  rcases roundDiv_eq_or tie num den with ⟨h, hle⟩ | ⟨h, hle⟩
  · rw [h]
    omega
  · rw [h, Nat.mul_add, Nat.mul_one]
    omega

end FixedWidth.Decimal
