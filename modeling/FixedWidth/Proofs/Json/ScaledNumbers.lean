import FixedWidth.Json.Number
import FixedWidth.Proofs.Decimal.RoundingError
import FixedWidth.Proofs.Decimal.ShortestDigits

/-!
# Scaling by a power of ten

A number is read in at most four steps that round: the digits become a binary number, a power of ten
does, twice if the exponent is beyond 308, and one is multiplied or divided by the other.  Compared
with the nearest number, every step but the last takes the result at most one place away, and it
does not if it is exact.
-/

namespace FixedWidth.Json

open Decimal (Binary64 Scaled)
open Decimal.Binary64

/-! ## Whole numbers -/

/-- The bits of the binary number nearest to a whole one. -/
def wholeBits (n : Nat) : Nat := nearest n 1

theorem wholeBits_lt (n : Nat) : wholeBits n < 2 ^ 63 :=
  nearest_lt n 1

theorem wholeBits_mono {n n' : Nat} (h : n ≤ n') : wholeBits n ≤ wholeBits n' :=
  nearest_mono Nat.one_pos Nat.one_pos (Nat.mul_le_mul_right 1 h)

/-- The whole number is a binary one. -/
def IsBinary (n : Nat) : Prop :=
  unitsOf (wholeBits n) = n * one

instance (n : Nat) : Decidable (IsBinary n) :=
  inferInstanceAs (Decidable (_ = _))

/-- The number is shifted until it has 53 digits. -/
theorem exists_shift {n : Nat} (hpos : 0 < n) (hmost : n ≤ 2 ^ 53) :
    ∃ k ≤ 52, 2 ^ 52 ≤ n * 2 ^ k ∧ n * 2 ^ k ≤ 2 ^ 53 := by
  by_cases hlong : n < 2 ^ 53
  · have hlog : n.log2 < 53 := (Nat.log2_lt hpos.ne').2 hlong
    refine ⟨52 - n.log2, by omega, ?_, ?_⟩
    · calc
        2 ^ 52 = 2 ^ n.log2 * 2 ^ (52 - n.log2) := by rw [← Nat.pow_add]; congr 1; omega
        _ ≤ n * 2 ^ (52 - n.log2) := Nat.mul_le_mul_right _ (Nat.log2_self_le hpos.ne')
    · calc
        n * 2 ^ (52 - n.log2) ≤ 2 ^ (n.log2 + 1) * 2 ^ (52 - n.log2) :=
          Nat.mul_le_mul_right _ (Nat.le_of_lt Nat.lt_log2_self)
        _ = 2 ^ 53 := by rw [← Nat.pow_add]; congr 1; omega
  · refine ⟨0, by decide, ?_, ?_⟩ <;> omega

theorem exists_unitsOf_eq {n : Nat} (hpos : 0 < n) (hmost : n ≤ 2 ^ 53) :
    ∃ b < infinityBits, unitsOf b = n * one := by
  obtain ⟨k, hk, hleast, hlimit⟩ := exists_shift hpos hmost
  refine ⟨n * 2 ^ k + (1074 - k) * 2 ^ 52, ?_, ?_⟩
  · unfold infinityBits
    omega
  · rw [unitsOf_shifted (.inr hleast) hlimit, Nat.mul_assoc, ← Nat.pow_add]
    unfold one
    congr 2
    omega

theorem isBinary_of_le {n : Nat} (hmost : n ≤ 2 ^ 53) : IsBinary n := by
  rcases Nat.eq_zero_or_pos n with rfl | hpos
  · decide +kernel
  · obtain ⟨b, hb, hunits⟩ := exists_unitsOf_eq hpos hmost
    have hnearest : wholeBits n = b :=
      nearest_eq_of_units Nat.one_pos hb (by rw [hunits, Nat.one_mul])
    rw [IsBinary, hnearest, hunits]

/-- How many roundings a whole number takes. -/
def roundings (n : Nat) : Nat := if IsBinary n then 0 else 1

theorem agree_wholeBits {n : Nat} (hpos : 0 < n) (hfinite : wholeBits n < infinityBits) :
    Agree (roundings n) (size (wholeBits n)) n := by
  have hone : (one : ℚ) ≠ 0 := Nat.cast_ne_zero.2 one_units_pos.ne'
  unfold roundings
  split
  · rename_i hexact
    rw [size, show unitsOf (wholeBits n) = n * one from hexact, Nat.cast_mul,
      mul_div_cancel_right₀ _ hone]
    exact .refl _
  · have hnormal : 1 * 2 ^ 52 ≤ n * one := Nat.mul_le_mul hpos (by decide +kernel)
    have hagree := agree_nearest Nat.one_pos hnormal hfinite
    rwa [Nat.cast_one, div_one] at hagree

theorem wholeBits_finite {n top : Nat} (h : n ≤ top)
    (htop : 2 * (top * one) < midpoint (infinityBits - 1)) : wholeBits n < infinityBits := by
  have hlast : infinityBits - 1 < infinityBits := by decide +kernel
  have hn : n * one ≤ top * one := Nat.mul_le_mul_right one h
  have hle : wholeBits n ≤ infinityBits - 1 :=
    (nearest_le_iff Nat.one_pos hlast).2 (.inl (by omega))
  omega

/-! ## Powers of ten -/

theorem tenPow_finite {n top : Nat} (h : n ≤ top) (htop : top = 308) :
    wholeBits (10 ^ n) < infinityBits := by
  refine wholeBits_finite (Nat.pow_le_pow_right (by decide) h) ?_
  subst htop
  decide +kernel

theorem isBinary_tenPow {n : Nat} (h : n ≤ 22) : IsBinary (10 ^ n) := by
  have hall : (List.range 23).all (fun n => decide (IsBinary (10 ^ n))) = true := by
    decide +kernel
  exact of_decide_eq_true (List.all_eq_true.1 hall n (List.mem_range.2 (by omega)))

theorem tenPow_pos (n : Nat) : (0 : ℚ) < (10 ^ n : Nat) :=
  Nat.cast_pos.2 (Nat.pow_pos (by decide))

theorem div_tenPow_div_tenPow (p : ℚ) (m n : Nat) :
    p / (10 ^ m : Nat) / (10 ^ n : Nat) = p / (10 ^ (m + n) : Nat) := by
  rw [div_div, ← Nat.cast_mul, ← Nat.pow_add]

theorem agree_tenPow {n : Nat} (h : n ≤ 308) :
    Agree (if n ≤ 22 then 0 else 1) (size (wholeBits (10 ^ n))) (10 ^ n : Nat) := by
  have hpos : 0 < 10 ^ n := Nat.pow_pos (by decide)
  have hagree := agree_wholeBits hpos (tenPow_finite h rfl)
  refine hagree.weaken (size_nonneg _) (Nat.cast_nonneg _) ?_
  unfold roundings
  split
  · exact Nat.zero_le _
  · rename_i hround
    rw [if_neg fun hn => hround (isBinary_tenPow hn)]

theorem size_tenPow_pos {n : Nat} (h : n ≤ 308) : 0 < size (wholeBits (10 ^ n)) :=
  (agree_tenPow h).pos (tenPow_pos n)

/-! ## Products and quotients -/

def productBits (a c : Nat) : Nat := nearest (unitsOf a * unitsOf c) (one * one)

def quotientBits (a c : Nat) : Nat := nearest (unitsOf a) (unitsOf c)

section

variable {a c : Nat}

theorem productBits_lt : productBits a c < 2 ^ 63 :=
  nearest_lt _ _

theorem quotientBits_lt : quotientBits a c < 2 ^ 63 :=
  nearest_lt _ _

theorem mul_ofParts (ha : a < 2 ^ 63) (hc : c < 2 ^ 63) :
    (ofParts false a).mul (ofParts false c) = ofParts false (productBits a c) := by
  rw [Binary64.mul, Binary64.units, Binary64.units, magnitude_ofParts ha, magnitude_ofParts hc,
    isNegative_ofParts ha, isNegative_ofParts hc]
  rfl

theorem div_ofParts (ha : a < 2 ^ 63) (hc : c < 2 ^ 63) :
    (ofParts false a).div (ofParts false c) = ofParts false (quotientBits a c) := by
  rw [Binary64.div, Binary64.units, Binary64.units, magnitude_ofParts ha, magnitude_ofParts hc,
    isNegative_ofParts ha, isNegative_ofParts hc]
  rfl

theorem unitsOf_pos_of_size (h : 0 < size a) : 0 < unitsOf a := by
  refine Nat.pos_of_ne_zero fun hzero => ?_
  rw [size, hzero, Nat.cast_zero, zero_div] at h
  exact lt_irrefl 0 h

theorem size_div_size (a c : Nat) : size a / size c = (unitsOf a : ℚ) / unitsOf c := by
  have hone : (one : ℚ) ≠ 0 := Nat.cast_ne_zero.2 one_units_pos.ne'
  rw [size, size, div_div_div_cancel_right₀ hone]

section

variable {d : Scaled} {k : Nat}

theorem productBits_near (h : Agree k (size a * size c) (d.num / d.den))
    (hfinite : nearest d.num d.den + k < infinityBits) :
    productBits a c ≤ nearest d.num d.den + k ∧ nearest d.num d.den ≤ productBits a c + k := by
  rw [size, size, div_mul_div_comm, ← Nat.cast_mul, ← Nat.cast_mul] at h
  exact h.nearest_near (Nat.mul_pos one_units_pos one_units_pos) (Scaled.den_pos d) hfinite

theorem quotientBits_near (hc : 0 < size c) (h : Agree k (size a / size c) (d.num / d.den))
    (hfinite : nearest d.num d.den + k < infinityBits) :
    quotientBits a c ≤ nearest d.num d.den + k ∧ nearest d.num d.den ≤ quotientBits a c + k := by
  rw [size_div_size] at h
  exact h.nearest_near (unitsOf_pos_of_size hc) (Scaled.den_pos d) hfinite

end

end

/-! ## The steps of the reader -/

theorem shrink_of_le {n : Nat} (h : n ≤ 308) (x : Binary64) : shrink n x = x.div (tenPow n) := by
  rw [shrink, if_pos h]

theorem shrink_of_lt {n : Nat} (h : 308 < n) {x : Binary64} (hx : x.isZero = false) :
    shrink n x = shrink (n - 308) (x.div (tenPow 308)) := by
  rw [shrink, if_neg (Nat.not_le.2 h), hx]
  rfl

theorem tenPow_eq (n : Nat) : tenPow n = ofParts false (wholeBits (10 ^ n)) := rfl

section

variable {s : Nat} {e : Int}

theorem scale?_of_nonneg (hleast : 0 ≤ e) (hmost : e ≤ 308)
    (hfinite : productBits (wholeBits s) (wholeBits (10 ^ e.toNat)) < infinityBits) :
    scale? s e =
      some (ofParts false (productBits (wholeBits s) (wholeBits (10 ^ e.toNat)))) := by
  rw [scale?]
  dsimp only
  rw [if_neg (by omega), if_neg (by omega), tenPow_eq, Binary64.ofRatio, ← wholeBits,
    mul_ofParts (wholeBits_lt _) (wholeBits_lt _), if_pos]
  rw [Binary64.isFinite, magnitude_ofParts productBits_lt]
  exact decide_eq_true hfinite

theorem scale?_of_neg (hneg : e < 0) (hleast : -308 ≤ e) :
    scale? s e =
      some (ofParts false (quotientBits (wholeBits s) (wholeBits (10 ^ e.natAbs)))) := by
  rw [scale?]
  dsimp only
  rw [if_pos hneg, shrink_of_le (by omega), tenPow_eq, Binary64.ofRatio, ← wholeBits,
    div_ofParts (wholeBits_lt _) (wholeBits_lt _)]

/-- Beyond the greatest power of ten, the reader divides by that first and then by the rest. -/
def shrunkBits (s n : Nat) : Nat :=
  quotientBits (quotientBits (wholeBits s) (wholeBits (10 ^ 308))) (wholeBits (10 ^ (n - 308)))

theorem scale?_of_lt (hleast : -616 ≤ e) (hmost : e < -308) (hs : 0 < wholeBits s) :
    scale? s e = some (ofParts false (shrunkBits s e.natAbs)) := by
  have hnonzero : (ofParts false (wholeBits s)).isZero = false := by
    rw [Binary64.isZero, magnitude_ofParts (wholeBits_lt _)]
    exact decide_eq_false hs.ne'
  rw [scale?]
  dsimp only
  rw [if_pos (by omega), Binary64.ofRatio, ← wholeBits, shrink_of_lt (by omega) hnonzero,
    shrink_of_le (by omega), tenPow_eq, tenPow_eq, div_ofParts (wholeBits_lt _) (wholeBits_lt _),
    div_ofParts quotientBits_lt (wholeBits_lt _), shrunkBits]

end

/-! ## How far the result is from the nearest number -/

/-- How many steps before the last one round. -/
def losses (d : Scaled) : Nat :=
  roundings d.digits + if d.exponent.natAbs ≤ 22 then 0 else if -308 ≤ d.exponent then 1 else 2

theorem losses_le (d : Scaled) : losses d ≤ 3 := by
  have hround : roundings d.digits ≤ 1 := by
    unfold roundings
    split <;> omega
  unfold losses
  split
  · omega
  · split <;> omega

theorem losses_eq_zero {d : Scaled} (hdigits : d.digits ≤ 2 ^ 53)
    (hexponent : d.exponent.natAbs ≤ 22) : losses d = 0 := by
  rw [losses, roundings, if_pos (isBinary_of_le hdigits), if_pos hexponent]

/-- The decimal is read as a finite number whose bits are at most `k` away from the nearest. -/
def ReadsNear (d : Scaled) (k : Nat) : Prop :=
  ∃ c, scale? d.digits d.exponent = some (ofParts false c) ∧ c < infinityBits ∧
    c ≤ nearest d.num d.den + k ∧ nearest d.num d.den ≤ c + k

section

variable {d : Scaled}

theorem value_of_nonneg (h : 0 ≤ d.exponent) :
    (d.num : ℚ) / d.den = d.digits * (10 ^ d.exponent.toNat : Nat) := by
  rw [Scaled.num, Scaled.den, show (-d.exponent).toNat = 0 by omega, Nat.pow_zero, Nat.cast_one,
    div_one, Nat.cast_mul]

theorem value_of_neg (h : d.exponent < 0) :
    (d.num : ℚ) / d.den = d.digits / (10 ^ d.exponent.natAbs : Nat) := by
  rw [Scaled.num, Scaled.den, show (-d.exponent).toNat = d.exponent.natAbs by omega,
    show d.exponent.toNat = 0 by omega, Nat.pow_zero, Nat.mul_one]

theorem digits_finite (hfew : d.digits < 2 ^ 64) : wholeBits d.digits < infinityBits := by
  have htop : 2 * (2 ^ 64 * one) < midpoint (infinityBits - 1) := by decide +kernel
  exact wholeBits_finite (Nat.le_of_lt hfew) htop

theorem agree_digits (hpos : 0 < d.digits) (hfew : d.digits < 2 ^ 64) :
    Agree (roundings d.digits) (size (wholeBits d.digits)) d.digits :=
  agree_wholeBits hpos (digits_finite hfew)

theorem wholeBits_digits_pos (hpos : 0 < d.digits) (hfew : d.digits < 2 ^ 64) :
    0 < wholeBits d.digits := by
  refine Nat.pos_of_ne_zero fun hzero => ?_
  have hsize := (agree_digits hpos hfew).pos (Nat.cast_pos.2 hpos)
  rw [hzero] at hsize
  exact absurd (unitsOf_pos_of_size hsize) (Nat.lt_irrefl 0)

theorem readsNear_of_nonneg (hpos : 0 < d.digits) (hfew : d.digits < 2 ^ 64)
    (hleast : 0 ≤ d.exponent) (hmost : d.exponent ≤ 308)
    (hfinite : nearest d.num d.den + losses d < infinityBits) : ReadsNear d (losses d) := by
  have hlosses : roundings d.digits + (if d.exponent.toNat ≤ 22 then 0 else 1) = losses d := by
    rw [losses, if_pos (by omega : -308 ≤ d.exponent),
      show d.exponent.natAbs = d.exponent.toNat by omega]
  have hagree := (agree_digits hpos hfew).mul (agree_tenPow (n := d.exponent.toNat) (by omega))
    (size_nonneg _) (Nat.cast_nonneg _) (size_nonneg _) (Nat.cast_nonneg _)
  rw [hlosses, ← value_of_nonneg hleast] at hagree
  obtain ⟨habove, hbelow⟩ := productBits_near hagree hfinite
  have hlt := Nat.lt_of_le_of_lt habove hfinite
  exact ⟨_, scale?_of_nonneg hleast hmost hlt, hlt, habove, hbelow⟩

theorem readsNear_of_neg (hpos : 0 < d.digits) (hfew : d.digits < 2 ^ 64)
    (hneg : d.exponent < 0) (hleast : -308 ≤ d.exponent)
    (hfinite : nearest d.num d.den + losses d < infinityBits) : ReadsNear d (losses d) := by
  have hsmall : d.exponent.natAbs ≤ 308 := by omega
  have hten := size_tenPow_pos hsmall
  have hlosses : roundings d.digits + (if d.exponent.natAbs ≤ 22 then 0 else 1) = losses d := by
    rw [losses, if_pos hleast]
  have hagree := (agree_digits hpos hfew).div (agree_tenPow hsmall) (size_nonneg _)
    (Nat.cast_nonneg _) hten (tenPow_pos _)
  rw [hlosses, ← value_of_neg hneg] at hagree
  obtain ⟨habove, hbelow⟩ := quotientBits_near hten hagree hfinite
  exact ⟨_, scale?_of_neg hneg hleast, Nat.lt_of_le_of_lt habove hfinite, habove, hbelow⟩

/-! ### Small numbers -/

/-- The quotient by `10 ^ 308` is not among the smallest numbers, where a rounding goes farther. -/
theorem quotient_normal {s : Nat} (hthree : 3 ≤ s) :
    unitsOf (wholeBits (10 ^ 308)) * 2 ^ 52 ≤ unitsOf (wholeBits s) * one := by
  have hleast : unitsOf (wholeBits (10 ^ 308)) * 2 ^ 52 ≤ unitsOf (wholeBits 3) * one := by
    decide +kernel
  exact Nat.le_trans hleast
    (Nat.mul_le_mul_right one (unitsOf_strictMono.monotone (wholeBits_mono hthree)))

theorem quotient_finite {a : Nat} (ha : a < infinityBits) :
    quotientBits a (wholeBits (10 ^ 308)) < infinityBits := by
  have hone : one ≤ unitsOf (wholeBits (10 ^ 308)) := by decide +kernel
  have hself : nearest (unitsOf a) one = a :=
    nearest_eq_of_units one_units_pos ha (Nat.mul_comm _ _)
  have hle : quotientBits a (wholeBits (10 ^ 308)) ≤ nearest (unitsOf a) one :=
    nearest_mono (Nat.lt_of_lt_of_le one_units_pos hone) one_units_pos (Nat.mul_le_mul_left _ hone)
  omega

theorem readsNear_of_lt (hthree : 3 ≤ d.digits) (hfew : d.digits < 2 ^ 64)
    (hleast : -324 ≤ d.exponent) (hmost : d.exponent < -308)
    (hfinite : nearest d.num d.den + losses d < infinityBits) : ReadsNear d (losses d) := by
  have hpos : 0 < d.digits := by omega
  have hwhole : (0 : ℚ) < d.digits := Nat.cast_pos.2 hpos
  have hten := size_tenPow_pos (Nat.le_refl 308)
  have hrest := size_tenPow_pos (n := d.exponent.natAbs - 308) (by omega)
  have hlosses : 1 + (roundings d.digits + (if 308 ≤ 22 then 0 else 1)) +
      (if d.exponent.natAbs - 308 ≤ 22 then 0 else 1) = losses d := by
    rw [losses, if_neg (by decide), if_pos (by omega : d.exponent.natAbs - 308 ≤ 22),
      if_neg (by omega : ¬ d.exponent.natAbs ≤ 22), if_neg (by omega : ¬ -308 ≤ d.exponent)]
    omega
  have hfirst := (agree_digits hpos hfew).div (agree_tenPow (Nat.le_refl 308)) (size_nonneg _)
    hwhole.le hten (tenPow_pos 308)
  rw [size_div_size] at hfirst
  have hquotient := (agree_nearest (unitsOf_pos_of_size hten) (quotient_normal hthree)
    (quotient_finite (digits_finite hfew))).trans hfirst
  have hagree := hquotient.div (agree_tenPow (n := d.exponent.natAbs - 308) (by omega))
    (size_nonneg _) (div_nonneg hwhole.le (Nat.cast_nonneg _)) hrest (tenPow_pos _)
  have hvalue := div_tenPow_div_tenPow d.digits 308 (d.exponent.natAbs - 308)
  rw [show 308 + (d.exponent.natAbs - 308) = d.exponent.natAbs by omega,
    ← value_of_neg (by omega)] at hvalue
  rw [hlosses, hvalue] at hagree
  obtain ⟨habove, hbelow⟩ := quotientBits_near hrest hagree hfinite
  exact ⟨_, scale?_of_lt (by omega) hmost (wholeBits_digits_pos hpos hfew),
    Nat.lt_of_le_of_lt habove hfinite, habove, hbelow⟩

/-- One and two become some of the smallest numbers on the way, and still nothing is lost. -/
theorem shrunkBits_few {s k : Nat} (hs : s = 1 ∨ s = 2) (hk : k < 16) :
    shrunkBits s (k + 309) = nearest s (10 ^ (k + 309)) := by
  have hall : ([1, 2].all fun s => (List.range 16).all fun k =>
      shrunkBits s (k + 309) == nearest s (10 ^ (k + 309))) = true := by
    decide +kernel
  have hrow := List.all_eq_true.1 hall s (by simpa using hs)
  exact beq_iff_eq.1 (List.all_eq_true.1 hrow k (List.mem_range.2 hk))

theorem readsNear_of_few (hpos : 0 < d.digits) (hfew : d.digits ≤ 2) (hleast : -324 ≤ d.exponent)
    (hmost : d.exponent < -308) (hfinite : nearest d.num d.den < infinityBits) :
    ReadsNear d (losses d) := by
  obtain ⟨k, hk, hexponent⟩ : ∃ k < 16, d.exponent.natAbs = k + 309 :=
    ⟨d.exponent.natAbs - 309, by omega, by omega⟩
  have hsame : shrunkBits d.digits d.exponent.natAbs = nearest d.num d.den := by
    rw [Scaled.num, Scaled.den, hexponent, show (-d.exponent).toNat = k + 309 by omega,
      show d.exponent.toNat = 0 by omega, Nat.pow_zero, Nat.mul_one]
    exact shrunkBits_few (by omega) hk
  have hread := scale?_of_lt (by omega) hmost (wholeBits_digits_pos hpos (by omega))
  rw [hsame] at hread
  exact ⟨_, hread, hfinite, Nat.le_add_right _ _, Nat.le_add_right _ _⟩

/-! ### Any number -/

/-- The three largest numbers have no room above them for what is lost. -/
theorem readsNear_of_largest {b : Nat} (hb : b < infinityBits) (hlarge : infinityBits ≤ b + 3) :
    (shortest .even b).exponent = 292 ∧
      ReadsNear (shortest .even b) (losses (shortest .even b)) := by
  have hcases : b = infinityBits - 1 ∨ b = infinityBits - 2 ∨ b = infinityBits - 3 := by omega
  rcases hcases with rfl | rfl | rfl
  · have hd : shortest .even (infinityBits - 1) = ⟨17976931348623157, 292⟩ := by decide +kernel
    rw [hd]
    exact ⟨rfl, infinityBits - 1, by decide +kernel, by decide +kernel, by decide +kernel,
      by decide +kernel⟩
  · have hd : shortest .even (infinityBits - 2) = ⟨17976931348623155, 292⟩ := by decide +kernel
    rw [hd]
    exact ⟨rfl, infinityBits - 1, by decide +kernel, by decide +kernel, by decide +kernel,
      by decide +kernel⟩
  · have hd : shortest .even (infinityBits - 3) = ⟨17976931348623153, 292⟩ := by decide +kernel
    rw [hd]
    exact ⟨rfl, infinityBits - 3, by decide +kernel, by decide +kernel, by decide +kernel,
      by decide +kernel⟩

theorem readsNear_zero : ReadsNear ⟨0, -1⟩ (losses ⟨0, -1⟩) := by
  have hzero : quotientBits (wholeBits 0) (wholeBits (10 ^ (-1 : Int).natAbs)) = 0 := by
    decide +kernel
  have hread : scale? 0 (-1) = some (ofParts false 0) := by
    rw [scale?_of_neg (by decide) (by decide), hzero]
  exact ⟨0, hread, by decide +kernel, by decide +kernel, by decide +kernel⟩

theorem readsNear_of_spells {b : Nat} (h : Spells d b) (hb : b + 3 < infinityBits) :
    ReadsNear d (losses d) := by
  have hmost := h.digits_le
  have hlosses := losses_le d
  have hfew : d.digits < 2 ^ 64 := by omega
  have hfinite : nearest d.num d.den + losses d < infinityBits := by
    rw [h.nearest_eq]
    omega
  by_cases hneg : 0 ≤ d.exponent
  · exact readsNear_of_nonneg h.digits_pos hfew hneg h.most hfinite
  · by_cases hsmall : -308 ≤ d.exponent
    · exact readsNear_of_neg h.digits_pos hfew (by omega) hsmall hfinite
    · by_cases hthree : 3 ≤ d.digits
      · exact readsNear_of_lt hthree hfew h.least (by omega) hfinite
      · exact readsNear_of_few h.digits_pos (by omega) h.least (by omega) (by omega)

end

end FixedWidth.Json
