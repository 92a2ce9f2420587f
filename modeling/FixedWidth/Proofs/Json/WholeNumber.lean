import FixedWidth.Proofs.Json.Numerals
import Mathlib.Algebra.Group.Int.Defs
import Mathlib.Algebra.Group.Nat.Defs

/-!
# Whole numbers in JSON

The decimal form of a whole number is a numeral of digits alone, and denotes the value of these
digits as long as that fits 64 bits, signed or unsigned.
-/

namespace FixedWidth.Json

theorem head?_toDigits_ne {n : Nat} (h : 0 < n) : (Nat.toDigits 10 n).head? ≠ some '0' := by
  induction n using Nat.strongRecOn with
  | ind n ih =>
      by_cases hn : n < 10
      · rw [Nat.toDigits_of_lt_base hn, List.head?_cons, ne_eq, Option.some.injEq,
          Nat.digitChar_eq_zero]
        omega
      · have hdiv := ih (n / 10) (by omega) (by omega)
        rw [Nat.toDigits_of_base_le (by decide) (by omega)]
        rcases hds : Nat.toDigits 10 (n / 10) with _ | ⟨d, ds⟩
        · exact absurd hds Nat.toDigits_ne_nil
        · rw [hds] at hdiv
          simpa using hdiv

theorem isWhole_toDigits (n : Nat) : IsWhole (Nat.toDigits 10 n) where
  ne_nil := Nat.toDigits_ne_nil
  isDigit := fun _ hc => Nat.isDigit_of_mem_toDigits (by decide) (by decide) hc
  eq_of_head := by
    intro hhead
    by_cases hn : n = 0
    · rw [hn, Nat.toDigits_zero]
    · exact absurd hhead (head?_toDigits_ne (by omega))

/-! ## What the digits denote -/

theorem le_ofDigitChars (ds : List Char) (n : Nat) : n ≤ Nat.ofDigitChars 10 ds n := by
  rw [Nat.ofDigitChars_eq_ofDigitChars_zero]
  have hpow : 1 ≤ 10 ^ ds.length := Nat.one_le_pow _ _ (by decide)
  calc
    n = 1 * n := (Nat.one_mul n).symm
    _ ≤ 10 ^ ds.length * n := Nat.mul_le_mul_right n hpow
    _ ≤ _ := Nat.le_add_right _ _

/-- Digits whose value stays below the bound are all taken, since no part of them has a greater
value. -/
theorem gather_of_lt {bound n : Nat} {ds : List Char} (h : Nat.ofDigitChars 10 ds n < bound) :
    gather bound n ds = (Nat.ofDigitChars 10 ds n, []) := by
  induction ds generalizing n with
  | nil => rfl
  | cons d ds ih =>
      rw [Nat.ofDigitChars_cons] at h ⊢
      have hstep : 10 * n + Decimal.digitValue d < bound :=
        Nat.lt_of_le_of_lt (le_ofDigitChars ds _) h
      rw [gather, if_pos hstep]
      exact ih h

theorem value_of_whole {negative : Bool} {ds : List Char}
    (h : Nat.ofDigitChars 10 ds 0 < 2 ^ 64) :
    Literal.value ⟨negative, ds, none, none⟩ =
      .ok (Literal.wholeValue ⟨negative, ds, none, none⟩ (Nat.ofDigitChars 10 ds 0)) := by
  rw [Literal.value]
  simp only [gather_of_lt h]
  exact if_pos ⟨trivial, trivial, trivial⟩

/-! ## The decimal form -/

def integerLiteral (n : Int) : Literal :=
  ⟨decide (n < 0), Nat.toDigits 10 n.natAbs, none, none⟩

theorem numeral_integerChars (n : Int) (rest : List Char) :
    Numeral (Decimal.integerChars n ++ rest) (integerLiteral n) rest := by
  have hsplit : Decimal.integerChars n = sign (decide (n < 0)) ++ Nat.toDigits 10 n.natAbs := by
    by_cases hn : n < 0 <;> simp [Decimal.integerChars, sign, hn]
  rw [hsplit, List.append_assoc]
  exact .mk (isWhole_toDigits _) .absent .absent

theorem value_integerLiteral {n : Int} (hleast : -2 ^ 63 ≤ n) (hmost : n < 2 ^ 64) :
    (integerLiteral n).value = .ok (.integer n) := by
  have hlt : Nat.ofDigitChars 10 (Nat.toDigits 10 n.natAbs) 0 < 2 ^ 64 := by
    rw [Nat.ofDigitChars_ten_toDigits]
    omega
  rw [integerLiteral, value_of_whole hlt, Nat.ofDigitChars_ten_toDigits]
  by_cases hn : n < 0
  · have hsmall : ¬ (n.natAbs = 0 ∨ 2 ^ 63 < n.natAbs) := by omega
    have habs : -(n.natAbs : Int) = n := by omega
    simp only [Literal.wholeValue, hn, decide_true, if_true, if_neg hsmall, habs]
  · have habs : (n.natAbs : Int) = n := by omega
    simp [Literal.wholeValue, hn, habs]

end FixedWidth.Json
