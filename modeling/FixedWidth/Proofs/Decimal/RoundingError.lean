import FixedWidth.Proofs.Decimal.Nearest
import Mathlib.Algebra.Order.Field.Rat
import Mathlib.Tactic.FieldSimp
import Mathlib.Tactic.Linarith
import Mathlib.Tactic.NormNum
import Mathlib.Tactic.Positivity

/-!
# How far rounding goes

A rounding changes a number that is not among the smallest by a factor of `1 + 2⁻⁵³` at most, and
the middles between neighbours lie farther apart than that.  So two fractions that agree up to `k`
roundings have nearest numbers that are at most `k` places apart.
-/

namespace FixedWidth.Decimal.Binary64

/-! ## Fractions that agree up to some roundings -/

/-- The factor by which one rounding changes a number at most. -/
def slack : ℚ := 1 + 1 / 2 ^ 53

theorem one_le_slack : 1 ≤ slack := by
  norm_num [slack]

theorem slack_pos : 0 < slack :=
  lt_of_lt_of_le one_pos one_le_slack

/-- The two agree up to `k` roundings. -/
structure Agree (k : Nat) (p q : ℚ) : Prop where
  le : p ≤ q * slack ^ k
  ge : q ≤ p * slack ^ k

namespace Agree

variable {j k : Nat} {p q r p' q' : ℚ}

theorem refl (p : ℚ) : Agree 0 p p :=
  ⟨by simp, by simp⟩

theorem weaken (h : Agree j p q) (hp : 0 ≤ p) (hq : 0 ≤ q) (hjk : j ≤ k) : Agree k p q := by
  have hpow : slack ^ j ≤ slack ^ k := pow_le_pow_right₀ one_le_slack hjk
  exact ⟨h.le.trans (mul_le_mul_of_nonneg_left hpow hq),
    h.ge.trans (mul_le_mul_of_nonneg_left hpow hp)⟩

theorem trans (h : Agree j p q) (h' : Agree k q r) : Agree (j + k) p r := by
  have hj : 0 ≤ slack ^ j := (pow_pos slack_pos j).le
  have hk : 0 ≤ slack ^ k := (pow_pos slack_pos k).le
  constructor
  · calc
      p ≤ q * slack ^ j := h.le
      _ ≤ r * slack ^ k * slack ^ j := mul_le_mul_of_nonneg_right h'.le hj
      _ = r * slack ^ (j + k) := by rw [pow_add]; ring
  · calc
      r ≤ q * slack ^ k := h'.ge
      _ ≤ p * slack ^ j * slack ^ k := mul_le_mul_of_nonneg_right h.ge hk
      _ = p * slack ^ (j + k) := by rw [pow_add]; ring

theorem mul (h : Agree j p q) (h' : Agree k p' q') (hp : 0 ≤ p) (hq : 0 ≤ q) (hp' : 0 ≤ p')
    (hq' : 0 ≤ q') : Agree (j + k) (p * p') (q * q') := by
  have hj : 0 ≤ slack ^ j := (pow_pos slack_pos j).le
  constructor
  · calc
      p * p' ≤ (q * slack ^ j) * (q' * slack ^ k) :=
        mul_le_mul h.le h'.le hp' (mul_nonneg hq hj)
      _ = q * q' * slack ^ (j + k) := by rw [pow_add]; ring
  · calc
      q * q' ≤ (p * slack ^ j) * (p' * slack ^ k) :=
        mul_le_mul h.ge h'.ge hq' (mul_nonneg hp hj)
      _ = p * p' * slack ^ (j + k) := by rw [pow_add]; ring

theorem pos (h : Agree k p q) (hq : 0 < q) : 0 < p :=
  pos_of_mul_pos_left (hq.trans_le h.ge) (pow_pos slack_pos k).le

theorem inv (h : Agree k p q) (hp : 0 < p) (hq : 0 < q) : Agree k p⁻¹ q⁻¹ := by
  have hk : 0 < slack ^ k := pow_pos slack_pos k
  constructor
  · rw [inv_mul_eq_div, le_div_iff₀ hq, inv_mul_le_iff₀ hp]
    exact h.ge
  · rw [inv_mul_eq_div, le_div_iff₀ hp, inv_mul_le_iff₀ hq]
    exact h.le

theorem div (h : Agree j p q) (h' : Agree k p' q') (hp : 0 ≤ p) (hq : 0 ≤ q) (hp' : 0 < p')
    (hq' : 0 < q') : Agree (j + k) (p / p') (q / q') := by
  rw [div_eq_mul_inv, div_eq_mul_inv]
  exact h.mul (h'.inv hp' hq') hp hq (inv_nonneg.2 hp'.le) (inv_nonneg.2 hq'.le)

end Agree

/-! ## What is rounded to at most a number -/

/-- The fraction lies where it is rounded to `b` or below. -/
def RoundsBelow (b : Nat) (q : ℚ) : Prop :=
  2 * (q * one) < midpoint b ∨ (2 * (q * one) = midpoint b ∧ b % 2 = 0)

theorem nearest_le_iff_roundsBelow {num den b : Nat} (hden : 0 < den) (hb : b < infinityBits) :
    nearest num den ≤ b ↔ RoundsBelow b (num / den) := by
  have hpos : (0 : ℚ) < den := Nat.cast_pos.2 hden
  have hunits : 2 * ((num / den : ℚ) * one) = (2 * (num * one) : Nat) / den := by
    push_cast
    ring
  have hlt : ((2 * (num * one) : Nat) : ℚ) < midpoint b * den ↔
      2 * (num * one) < den * midpoint b := by
    rw [Nat.mul_comm den, ← Nat.cast_mul, Nat.cast_lt]
  have heq : ((2 * (num * one) : Nat) : ℚ) = midpoint b * den ↔
      2 * (num * one) = den * midpoint b := by
    rw [Nat.mul_comm den, ← Nat.cast_mul, Nat.cast_inj]
  rw [nearest_le_iff hden hb, RoundsBelow, hunits, div_lt_iff₀ hpos, div_eq_iff hpos.ne', hlt, heq]

theorem RoundsBelow.le {b : Nat} {q : ℚ} (h : RoundsBelow b q) : 2 * (q * one) ≤ midpoint b := by
  rcases h with h | ⟨h, -⟩
  · exact h.le
  · exact h.le

theorem roundsBelow_of_le {b : Nat} {p q : ℚ} (h : RoundsBelow b q) (hpq : p ≤ q) :
    RoundsBelow b p := by
  have hone : (0 : ℚ) < one := Nat.cast_pos.2 one_units_pos
  rcases hpq.lt_or_eq with hlt | rfl
  · left
    have hstep : p * one < q * one := mul_lt_mul_of_pos_right hlt hone
    have := h.le
    linarith
  · exact h

/-- The next two numbers are no closer to each other than a number is to the first of them. -/
theorem IsShifted.unitsOf_succ_add_le {b m s : Nat} (h : IsShifted b m s) :
    Binary64.unitsOf (b + 1) + 2 ^ s ≤ Binary64.unitsOf (b + 2) := by
  have heq := h.eq
  rw [h.unitsOf_succ]
  by_cases hm : m + 1 < 2 ^ 53
  · have hnext : b + 2 = (m + 2) + s * 2 ^ 52 := by omega
    rw [hnext, unitsOf_shifted (h.least.imp id fun hm => by omega) (by omega)]
    exact Nat.le_of_eq (by ring)
  · have hnext : b + 2 = (2 ^ 52 + 1) + (s + 1) * 2 ^ 52 := by
      have := h.most
      omega
    have hone : m + 1 = 2 * 2 ^ 52 := by
      have := h.most
      omega
    rw [hnext, unitsOf_shifted (.inr (by decide)) (by decide), hone]
    calc
      (2 * 2 ^ 52) * 2 ^ s + 2 ^ s = (2 * 2 ^ 52 + 1) * 2 ^ s := by ring
      _ ≤ (2 * 2 ^ 52 + 2) * 2 ^ s := Nat.mul_le_mul_right _ (Nat.le_succ _)
      _ = (2 ^ 52 + 1) * 2 ^ (s + 1) := by ring

/-- One rounding does not reach from one middle to the next. -/
theorem midpoint_mul_slack_lt (b : Nat) : (midpoint b : ℚ) * slack < midpoint (b + 1) := by
  obtain ⟨m, s, h⟩ := exists_isShifted b
  have hmid := h.midpoint
  have hnext : midpoint b + 2 * 2 ^ s ≤ midpoint (b + 1) := by
    have hgap : unitsOf (b + 1) + 2 ^ s ≤ unitsOf (b + 1 + 1) := h.unitsOf_succ_add_le
    have hsucc : unitsOf (b + 1) = unitsOf b + 2 ^ s := by
      rw [h.unitsOf_succ, h.unitsOf]
      ring
    unfold midpoint
    omega
  have hsmall : midpoint b < 2 ^ 54 * 2 ^ s := by
    rw [hmid]
    refine Nat.mul_lt_mul_of_pos_right ?_ (Nat.two_pow_pos s)
    have := h.most
    omega
  have hsmall' : (midpoint b : ℚ) < 2 ^ 54 * 2 ^ s := by exact_mod_cast hsmall
  have hnext' : (midpoint b : ℚ) + 2 * 2 ^ s ≤ midpoint (b + 1) := by exact_mod_cast hnext
  rw [slack]
  linarith

theorem RoundsBelow.mul_slack {b : Nat} {q : ℚ} (h : RoundsBelow b q) :
    RoundsBelow (b + 1) (q * slack) := by
  left
  have hscaled : 2 * (q * one) * slack ≤ midpoint b * slack :=
    mul_le_mul_of_nonneg_right h.le slack_pos.le
  have hnext := midpoint_mul_slack_lt b
  linarith

theorem RoundsBelow.mul_slack_pow {b : Nat} {q : ℚ} (h : RoundsBelow b q) (k : Nat) :
    RoundsBelow (b + k) (q * slack ^ k) := by
  induction k with
  | zero => simpa using h
  | succ k ih =>
      rw [pow_succ, ← mul_assoc]
      exact ih.mul_slack

/-! ## The nearest numbers of fractions that agree -/

section

variable {num den num' den' k : Nat}

theorem nearest_le_add (hden : 0 < den) (hden' : 0 < den')
    (h : (num / den : ℚ) ≤ num' / den' * slack ^ k) {b : Nat} (hb : b + k < infinityBits)
    (hle : nearest num' den' ≤ b) : nearest num den ≤ b + k := by
  rw [nearest_le_iff_roundsBelow hden' (by omega)] at hle
  rw [nearest_le_iff_roundsBelow hden hb]
  exact roundsBelow_of_le (hle.mul_slack_pow k) h

/-- Fractions that agree up to `k` roundings have nearest numbers at most `k` places apart. -/
theorem Agree.nearest_near (hden : 0 < den) (hden' : 0 < den')
    (h : Agree k (num / den) (num' / den')) (hb : nearest num' den' + k < infinityBits) :
    nearest num den ≤ nearest num' den' + k ∧ nearest num' den' ≤ nearest num den + k := by
  refine ⟨nearest_le_add hden hden' h.le hb (Nat.le_refl _), ?_⟩
  by_cases hbelow : nearest num den + k < infinityBits
  · exact nearest_le_add hden' hden h.ge hbelow (Nat.le_refl _)
  · omega

end

/-! ## One rounding -/

/-- The number that bits below the sign stand for. -/
def size (b : Nat) : ℚ := unitsOf b / one

theorem size_nonneg (b : Nat) : 0 ≤ size b := by
  unfold size
  positivity

/-- Rounding a number that is not among the smallest changes it by one rounding. -/
theorem agree_nearest {num den : Nat} (hden : 0 < den) (hnormal : den * 2 ^ 52 ≤ num * one)
    (hfinite : nearest num den < infinityBits) : Agree 1 (size (nearest num den)) (num / den) := by
  obtain ⟨s, hfloor, hnearest⟩ := exists_nearest_eq num den
  have hpos : 0 < den * 2 ^ s := Nat.mul_pos hden (Nat.two_pow_pos s)
  have hleast : 2 ^ 52 ≤ num * one / (den * 2 ^ s) := by
    rcases hfloor.least with rfl | hleast
    · rw [Nat.pow_zero, Nat.mul_one, Nat.le_div_iff_mul_le hden, Nat.mul_comm]
      exact hnormal
    · exact hleast
  have hround := div_le_roundDiv .even (num * one) (den * 2 ^ s)
  have hround' := roundDiv_le .even (num * one) (den * 2 ^ s)
  have hmost := hfloor.most
  have hbits : nearest num den = roundDiv .even (num * one) (den * 2 ^ s) + s * 2 ^ 52 := by omega
  have hunits : unitsOf (nearest num den) =
      roundDiv .even (num * one) (den * 2 ^ s) * 2 ^ s := by
    rw [hbits, unitsOf_shifted (.inr (by omega)) (by omega)]
  obtain ⟨hover, hunder⟩ := roundDiv_near .even (num * one) hpos
  have hbelow : den * 2 ^ s * 2 ^ 52 ≤ num * one :=
    Nat.le_trans (Nat.mul_le_mul_left _ hleast) (Nat.mul_div_le _ _)
  have habove : den * 2 ^ s * 2 ^ 52 ≤ den * 2 ^ s * roundDiv .even (num * one) (den * 2 ^ s) :=
    Nat.mul_le_mul_left _ (Nat.le_trans hleast hround)
  have hproduct : den * unitsOf (nearest num den) =
      den * 2 ^ s * roundDiv .even (num * one) (den * 2 ^ s) := by
    rw [hunits]
    ring
  rw [← hproduct] at hover hunder habove
  have hden' : (0 : ℚ) < den := Nat.cast_pos.2 hden
  have hone : (0 : ℚ) < one := Nat.cast_pos.2 one_units_pos
  have hover' : (2 : ℚ) * (den * unitsOf (nearest num den)) ≤ 2 * (num * one) + den * 2 ^ s := by
    exact_mod_cast hover
  have hunder' : (2 : ℚ) * (num * one) ≤ 2 * (den * unitsOf (nearest num den)) + den * 2 ^ s := by
    exact_mod_cast hunder
  have hbelow' : (den : ℚ) * 2 ^ s * 2 ^ 52 ≤ num * one := by exact_mod_cast hbelow
  have habove' : (den : ℚ) * 2 ^ s * 2 ^ 52 ≤ den * unitsOf (nearest num den) := by
    exact_mod_cast habove
  constructor
  · rw [size, pow_one, div_mul_eq_mul_div, div_le_div_iff₀ hone hden', slack]
    linarith
  · rw [size, pow_one, div_mul_eq_mul_div, div_le_div_iff₀ hden' hone, slack]
    linarith

end FixedWidth.Decimal.Binary64
