import FixedWidth.Decimal.Binary64
import Mathlib.Order.Monotone.Basic
import Mathlib.Tactic.Positivity
import Mathlib.Tactic.Ring

/-!
# The nearest binary number

Bits count up with the numbers they stand for.  A fraction is rounded to at most `b` as long as it
lies below the middle between `b` and the next number, or on it if `b` is even.  Everything about
rounding follows from this: that it is monotone, that it keeps the numbers themselves, and how far
it goes.
-/

namespace FixedWidth.Decimal

/-! ## Rounding a quotient -/

theorem div_le_roundDiv (tie : Tie) (num den : Nat) : num / den ≤ roundDiv tie num den := by
  rcases roundDiv_eq_or tie num den with ⟨h, -⟩ | ⟨h, -⟩ <;> omega

theorem roundDiv_le (tie : Tie) (num den : Nat) : roundDiv tie num den ≤ num / den + 1 := by
  rcases roundDiv_eq_or tie num den with ⟨h, -⟩ | ⟨h, -⟩ <;> omega

theorem roundDiv_even_le_iff {num den : Nat} : roundDiv .even num den ≤ num / den ↔
    2 * (num % den) < den ∨ (2 * (num % den) = den ∧ num / den % 2 = 0) := by
  unfold roundDiv
  split
  · rename_i h
    have hlt := Nat.compare_eq_lt.mp h
    exact ⟨fun _ => .inl hlt, fun _ => Nat.le_refl _⟩
  · rename_i h
    have hgt := Nat.compare_eq_gt.mp h
    omega
  · rename_i h
    have heq := Nat.compare_eq_eq.mp h
    dsimp only
    split
    · rename_i heven
      exact ⟨fun _ => .inr ⟨heq, heven⟩, fun _ => Nat.le_refl _⟩
    · omega

namespace Binary64

/-! ## Bits and units -/

theorem one_units_pos : 0 < one := by
  unfold one
  positivity

/-- The bits stand for `m` units, shifted by `s` places.  Only the smallest numbers have fewer than
53 digits. -/
structure IsShifted (b m s : Nat) : Prop where
  eq : b = m + s * 2 ^ 52
  least : s = 0 ∨ 2 ^ 52 ≤ m
  most : m < 2 ^ 53

theorem exists_isShifted (b : Nat) : ∃ m s, IsShifted b m s := by
  by_cases h : b < 2 ^ 52
  · exact ⟨b, 0, by omega, .inl rfl, by omega⟩
  · exact ⟨2 ^ 52 + b % 2 ^ 52, b / 2 ^ 52 - 1, by omega, .inr (by omega), by omega⟩

theorem unitsOf_shifted {m s : Nat} (hleast : s = 0 ∨ 2 ^ 52 ≤ m) (hmost : m ≤ 2 ^ 53) :
    unitsOf (m + s * 2 ^ 52) = m * 2 ^ s := by
  unfold unitsOf
  by_cases hsmall : m < 2 ^ 52
  · have hs : s = 0 := by omega
    subst hs
    rw [Nat.zero_mul, Nat.add_zero, if_pos hsmall, Nat.pow_zero, Nat.mul_one]
  · rw [if_neg (by omega)]
    by_cases hbelow : m < 2 ^ 53
    · have hmod : 2 ^ 52 + (m + s * 2 ^ 52) % 2 ^ 52 = m := by omega
      have hdiv : (m + s * 2 ^ 52) / 2 ^ 52 - 1 = s := by omega
      rw [hmod, hdiv]
    · -- one digit more: the same number is half as long and shifted once more
      have hmod : 2 ^ 52 + (m + s * 2 ^ 52) % 2 ^ 52 = 2 ^ 52 := by omega
      have hdiv : (m + s * 2 ^ 52) / 2 ^ 52 - 1 = s + 1 := by omega
      have hm : m = 2 ^ 52 * 2 := by omega
      rw [hmod, hdiv, hm]
      ring

section

variable {b m s : Nat}

theorem IsShifted.unitsOf (h : IsShifted b m s) : unitsOf b = m * 2 ^ s := by
  rw [h.eq, unitsOf_shifted h.least (Nat.le_of_lt h.most)]

theorem IsShifted.unitsOf_succ (h : IsShifted b m s) :
    Binary64.unitsOf (b + 1) = (m + 1) * 2 ^ s := by
  have hnext : b + 1 = (m + 1) + s * 2 ^ 52 := by
    have := h.eq
    omega
  rw [hnext, unitsOf_shifted (h.least.imp id fun hm => Nat.le_succ_of_le hm) h.most]

end

theorem unitsOf_strictMono : StrictMono unitsOf := by
  refine strictMono_nat_of_lt_succ fun b => ?_
  obtain ⟨m, s, h⟩ := exists_isShifted b
  rw [h.unitsOf, h.unitsOf_succ]
  exact Nat.mul_lt_mul_of_pos_right (Nat.lt_succ_self m) (Nat.two_pow_pos s)

/-- Twice what lies half way between a number and the next one, in units. -/
def midpoint (b : Nat) : Nat := unitsOf b + unitsOf (b + 1)

theorem IsShifted.midpoint {b m s : Nat} (h : IsShifted b m s) :
    midpoint b = (2 * m + 1) * 2 ^ s := by
  rw [Binary64.midpoint, h.unitsOf, h.unitsOf_succ]
  ring

theorem midpoint_strictMono : StrictMono midpoint :=
  unitsOf_strictMono.add (unitsOf_strictMono.comp fun _ _ => Nat.succ_lt_succ)

/-! ## Rounding -/

/-- The bits below the quotient and the shift that leaves it 53 digits. -/
theorem exists_nearest_eq (num den : Nat) :
    ∃ s, IsShifted (num * one / (den * 2 ^ s) + s * 2 ^ 52) (num * one / (den * 2 ^ s)) s ∧
      nearest num den =
        min (roundDiv .even (num * one) (den * 2 ^ s) + s * 2 ^ 52) infinityBits := by
  refine ⟨(num * one / den).log2 - 52, ⟨rfl, ?_, ?_⟩, rfl⟩
  · rw [← Nat.div_div_eq_div_mul]
    generalize num * one / den = q
    by_cases hs : q.log2 - 52 = 0
    · exact .inl hs
    · right
      have hq : q ≠ 0 := by
        rintro rfl
        exact hs (by simp)
      rw [Nat.le_div_iff_mul_le (Nat.two_pow_pos _), ← Nat.pow_add]
      refine Nat.le_trans (Nat.pow_le_pow_right (by decide) ?_) (Nat.log2_self_le hq)
      omega
  · rw [← Nat.div_div_eq_div_mul]
    generalize num * one / den = q
    rw [Nat.div_lt_iff_lt_mul (Nat.two_pow_pos _), ← Nat.pow_add]
    refine Nat.lt_of_lt_of_le Nat.lt_log2_self (Nat.pow_le_pow_right (by decide) ?_)
    omega

/-- A fraction is rounded to at most `b` exactly if it lies below the middle between `b` and the
next number, or on the middle if `b` is even. -/
theorem nearest_le_iff {num den b : Nat} (hden : 0 < den) (hb : b < infinityBits) :
    nearest num den ≤ b ↔ 2 * (num * one) < den * midpoint b ∨
      (2 * (num * one) = den * midpoint b ∧ b % 2 = 0) := by
  obtain ⟨s, hfloor, hnearest⟩ := exists_nearest_eq num den
  have hbelow : nearest num den ≤ b ↔
      roundDiv .even (num * one) (den * 2 ^ s) + s * 2 ^ 52 ≤ b := by
    rw [hnearest]
    omega
  rw [hbelow]
  generalize num * one = n at hfloor ⊢
  have hpos : 0 < den * 2 ^ s := Nat.mul_pos hden (Nat.two_pow_pos s)
  have hsplit := Nat.div_add_mod n (den * 2 ^ s)
  have hmod := Nat.mod_lt n hpos
  have hleast := div_le_roundDiv .even n (den * 2 ^ s)
  have hmost := roundDiv_le .even n (den * 2 ^ s)
  have hunits : den * unitsOf (n / (den * 2 ^ s) + s * 2 ^ 52) =
      den * 2 ^ s * (n / (den * 2 ^ s)) := by
    rw [hfloor.unitsOf]
    ring
  have hnext : den * unitsOf (n / (den * 2 ^ s) + s * 2 ^ 52 + 1) =
      den * 2 ^ s * (n / (den * 2 ^ s)) + den * 2 ^ s := by
    rw [hfloor.unitsOf_succ]
    ring
  generalize hq : n / (den * 2 ^ s) = q at hsplit hleast hmost hunits hnext
  rcases Nat.lt_trichotomy b (q + s * 2 ^ 52) with hlt | rfl | hgt
  · -- all of `b`, the next number and the middle lie at or below the bits under the quotient
    have hunits_lt : den * unitsOf b < den * unitsOf (q + s * 2 ^ 52) :=
      Nat.mul_lt_mul_of_pos_left (unitsOf_strictMono hlt) hden
    have hsucc_le : den * unitsOf (b + 1) ≤ den * unitsOf (q + s * 2 ^ 52) :=
      Nat.mul_le_mul_left den (unitsOf_strictMono.monotone hlt)
    have hmid : den * midpoint b = den * unitsOf b + den * unitsOf (b + 1) := Nat.mul_add _ _ _
    omega
  · -- the remainder decides
    have hround : roundDiv .even n (den * 2 ^ s) + s * 2 ^ 52 ≤ q + s * 2 ^ 52 ↔
        roundDiv .even n (den * 2 ^ s) ≤ n / (den * 2 ^ s) := by
      rw [hq]
      omega
    have hmid : den * midpoint (q + s * 2 ^ 52) =
        2 * (den * 2 ^ s * q) + den * 2 ^ s := by
      rw [midpoint, Nat.mul_add, hunits, hnext]
      omega
    rw [hround, roundDiv_even_le_iff, hq, hmid]
    omega
  · -- all of `b`, the next number and the middle lie above the quotient
    have hunits_le : den * unitsOf (q + s * 2 ^ 52 + 1) ≤ den * unitsOf b :=
      Nat.mul_le_mul_left den (unitsOf_strictMono.monotone hgt)
    have hsucc_lt : den * unitsOf b < den * unitsOf (b + 1) :=
      Nat.mul_lt_mul_of_pos_left (unitsOf_strictMono (Nat.lt_succ_self b)) hden
    have hmid : den * midpoint b = den * unitsOf b + den * unitsOf (b + 1) := Nat.mul_add _ _ _
    omega

theorem nearest_le_infinityBits (num den : Nat) : nearest num den ≤ infinityBits :=
  Nat.min_le_right _ _

theorem infinityBits_lt : infinityBits < 2 ^ 63 := by
  decide +kernel

theorem nearest_lt (num den : Nat) : nearest num den < 2 ^ 63 :=
  Nat.lt_of_le_of_lt (nearest_le_infinityBits num den) infinityBits_lt

section

variable {num den num' den' : Nat}

theorem nearest_mono (hden : 0 < den) (hden' : 0 < den') (h : num * den' ≤ num' * den) :
    nearest num den ≤ nearest num' den' := by
  by_contra hlt
  have hinf := nearest_le_infinityBits num den
  have hb : nearest num' den' < infinityBits := by omega
  have hmid := (nearest_le_iff hden' hb).1 (Nat.le_refl _)
  generalize nearest num' den' = b at hlt hb hmid
  refine hlt ((nearest_le_iff hden hb).2 ?_)
  have hscaled : den' * (2 * (num * one)) ≤ den * (2 * (num' * one)) := by
    calc
      den' * (2 * (num * one)) = num * den' * (2 * one) := by ring
      _ ≤ num' * den * (2 * one) := Nat.mul_le_mul_right _ h
      _ = den * (2 * (num' * one)) := by ring
  have hcomm : den * (den' * midpoint b) = den' * (den * midpoint b) := Nat.mul_left_comm _ _ _
  rcases hmid with hlt' | ⟨heq, heven⟩
  · have hstrict := Nat.mul_lt_mul_of_pos_left hlt' hden
    rw [hcomm] at hstrict
    exact .inl (Nat.lt_of_mul_lt_mul_left (Nat.lt_of_le_of_lt hscaled hstrict))
  · rw [heq, hcomm] at hscaled
    rcases Nat.lt_or_eq_of_le (Nat.le_of_mul_le_mul_left hscaled hden') with hlt' | heq'
    · exact .inl hlt'
    · exact .inr ⟨heq', heven⟩

/-- Only the value of a fraction counts. -/
theorem nearest_congr (hden : 0 < den) (hden' : 0 < den') (h : num * den' = num' * den) :
    nearest num den = nearest num' den' :=
  Nat.le_antisymm (nearest_mono hden hden' (Nat.le_of_eq h))
    (nearest_mono hden' hden (Nat.le_of_eq h.symm))

end

/-! ## Sign and magnitude -/

section

variable {negative : Bool} {b : Nat}

theorem toNat_bits_ofParts (hb : b < 2 ^ 63) :
    (ofParts negative b).bits.toNat = if negative then 2 ^ 63 + b else b := by
  refine UInt64.toNat_ofNat_of_lt' ?_
  rw [UInt64.size]
  split <;> omega

theorem magnitude_ofParts (hb : b < 2 ^ 63) : (ofParts negative b).magnitude = b := by
  rw [magnitude, toNat_bits_ofParts hb]
  split <;> omega

theorem isNegative_ofParts (hb : b < 2 ^ 63) : (ofParts negative b).isNegative = negative := by
  rw [isNegative, toNat_bits_ofParts hb]
  cases negative with
  | true => exact decide_eq_true (Nat.le_add_right _ _)
  | false => exact decide_eq_false (Nat.not_le.2 hb)

end

theorem ofParts_magnitude (x : Binary64) : ofParts x.isNegative x.magnitude = x := by
  have hlt := x.bits.toNat_lt
  have hbits : (if x.isNegative then 2 ^ 63 + x.magnitude else x.magnitude) = x.bits.toNat := by
    by_cases hnegative : 2 ^ 63 ≤ x.bits.toNat
    · simp only [isNegative, magnitude, hnegative, decide_true, if_true]
      omega
    · simp only [isNegative, magnitude, hnegative, decide_false, Bool.false_eq_true, if_false]
      omega
  rw [ofParts, hbits, UInt64.ofNat_toNat]

end Binary64

end FixedWidth.Decimal
