import FixedWidth.Proofs.Decimal.FixedPlaces
import FixedWidth.Proofs.Json.ScaledNumbers
import FixedWidth.Summary

/-!
# The time in the closing line

A time is rounded four times before it is shown: the whole seconds, the nanoseconds as a part of a
second, and the sum of both become binary numbers, and this sum is cut to four decimals.  Below
`2³²` seconds the three binary roundings together stay far below the last place.  From `2⁵³` seconds
on the nanoseconds are lost, and this is why a longer time is never shown as a shorter one.
-/

namespace FixedWidth

open Decimal Decimal.Binary64
open Json (wholeBits isBinary_of_le wholeBits_finite wholeBits_mono)

/-! ## Sums of binary numbers -/

namespace Decimal.Binary64

theorem units_ofRatio (negative : Bool) (num den : Nat) :
    (ofRatio negative num den).units = unitsOf (nearest num den) := by
  rw [units, ofRatio, magnitude_ofParts (nearest_lt num den)]

/-- Rounding a fraction changes it at most by `2⁻⁵³` of what bounds it. -/
theorem size_nearest_near {num den : Nat} (hden : 0 < den)
    (hnormal : num = 0 ∨ den * 2 ^ 52 ≤ num * one) (hfinite : nearest num den < infinityBits)
    {bound : ℚ} (hbound : (num / den : ℚ) ≤ bound) :
    |size (nearest num den) - num / den| ≤ bound / 2 ^ 53 := by
  rcases hnormal with rfl | hnormal
  · rw [Nat.cast_zero, zero_div] at hbound ⊢
    rw [nearest_zero hden, size, show unitsOf 0 = 0 from rfl, Nat.cast_zero, zero_div, sub_zero,
      abs_zero]
    positivity
  · obtain ⟨hle, hge⟩ := agree_nearest hden hnormal hfinite
    rw [pow_one, slack] at hle hge
    generalize size (nearest num den) = x at hle hge
    generalize (num / den : ℚ) = p at hle hge hbound
    rw [abs_le]
    constructor <;> linarith

theorem two_mul_pow_le {j k : Nat} (h : 2 ^ j < 2 ^ k) : 2 * 2 ^ j ≤ 2 ^ k := by
  rw [← Nat.pow_succ']
  exact Nat.pow_le_pow_right (by decide) ((Nat.pow_lt_pow_iff_right (by decide)).1 h)

/-- A number from `2⁵³` on is even at the place of the ones, so that less than one more is lost. -/
theorem nearest_units_add_le {b u : Nat} (hb : b < infinityBits)
    (hlarge : 2 ^ 53 * one ≤ unitsOf b) (hu : u < one) : nearest (unitsOf b + u) one ≤ b := by
  obtain ⟨m, s, h⟩ := exists_isShifted b
  have hshift : 2 * one ≤ 2 ^ s := by
    rw [h.unitsOf] at hlarge
    have hlt : 2 ^ 53 * one < 2 ^ 53 * 2 ^ s :=
      Nat.lt_of_le_of_lt hlarge (Nat.mul_lt_mul_of_pos_right h.most (Nat.two_pow_pos s))
    have hone : one < 2 ^ s := Nat.lt_of_mul_lt_mul_left hlt
    obtain ⟨j, hj⟩ := exists_one_eq_two_pow
    rw [hj] at hone ⊢
    exact two_mul_pow_le hone
  have hmid : midpoint b = 2 * unitsOf b + 2 ^ s := by
    rw [midpoint, h.unitsOf_succ, h.unitsOf, Nat.add_mul, Nat.one_mul]
    omega
  refine (nearest_le_iff one_units_pos hb).2 (.inl ?_)
  rw [Nat.mul_comm one, ← Nat.mul_assoc]
  exact Nat.mul_lt_mul_of_pos_right (by omega) one_units_pos

end Decimal.Binary64

/-! ## A time as a binary number -/

namespace Elapsed

/-- The time in seconds. -/
def exact (t : Elapsed) : ℚ :=
  t.seconds.toNat + (t.nanoseconds : Nat) / 10 ^ 9

theorem le_of_exact_le {t t' : Elapsed} (h : t.exact ≤ t'.exact) :
    t.seconds.toNat < t'.seconds.toNat ∨
      (t.seconds.toNat = t'.seconds.toNat ∧ (t.nanoseconds : Nat) ≤ t'.nanoseconds) := by
  have hlt := t'.nanoseconds.isLt
  have hscaled : (t.seconds.toNat * 10 ^ 9 + t.nanoseconds : ℚ) ≤
      t'.seconds.toNat * 10 ^ 9 + t'.nanoseconds := by
    unfold exact at h
    linarith
  have hnat : t.seconds.toNat * 10 ^ 9 + t.nanoseconds ≤
      t'.seconds.toNat * 10 ^ 9 + t'.nanoseconds := by
    exact_mod_cast hscaled
  omega

/-- The bits of the nanoseconds as a part of a second. -/
def fractionBits (t : Elapsed) : Nat := nearest t.nanoseconds (10 ^ 9)

/-- The units of the two parts together. -/
def unitsSum (t : Elapsed) : Nat :=
  unitsOf (wholeBits t.seconds.toNat) + unitsOf t.fractionBits

def bits (t : Elapsed) : Nat := nearest t.unitsSum one

theorem units_toBinary (t : Elapsed) : t.toBinary.units = unitsOf t.bits := by
  rw [toBinary, addMagnitudes, units_ofRatio, units_ofRatio, units_ofRatio]
  rfl

/-! ## The error -/

theorem fractionBits_le (t : Elapsed) : t.fractionBits ≤ wholeBits 1 := by
  have hlt := t.nanoseconds.isLt
  exact nearest_mono (by decide) Nat.one_pos (by omega)

theorem fractionBits_finite (t : Elapsed) : t.fractionBits < infinityBits :=
  Nat.lt_of_le_of_lt t.fractionBits_le (wholeBits_finite (Nat.le_refl 1) (by decide +kernel))

theorem normal_of_pos {n : Nat} (hn : 0 < n) : 10 ^ 9 * 2 ^ 52 ≤ n * one := by
  have hone : 10 ^ 9 * 2 ^ 52 ≤ one := by decide +kernel
  exact Nat.le_trans hone (Nat.le_mul_of_pos_left one hn)

theorem fraction_near (t : Elapsed) :
    |size t.fractionBits - (t.nanoseconds : Nat) / 10 ^ 9| ≤ 1 / 2 ^ 53 := by
  have hlt := t.nanoseconds.isLt
  have hnormal : (t.nanoseconds : Nat) = 0 ∨ 10 ^ 9 * 2 ^ 52 ≤ (t.nanoseconds : Nat) * one :=
    (Nat.eq_zero_or_pos _).imp id normal_of_pos
  have hbound : ((t.nanoseconds : Nat) / (10 ^ 9 : Nat) : ℚ) ≤ 1 := by
    rw [div_le_one (by positivity), Nat.cast_le]
    exact Nat.le_of_lt hlt
  have hnear := size_nearest_near (by decide) hnormal t.fractionBits_finite hbound
  rwa [Nat.cast_pow, Nat.cast_ofNat] at hnear

section

variable {t : Elapsed} (ht : t.seconds.toNat < 2 ^ 32)

include ht

theorem unitsSum_eq : t.unitsSum = t.seconds.toNat * one + unitsOf t.fractionBits := by
  rw [unitsSum, show unitsOf (wholeBits t.seconds.toNat) = t.seconds.toNat * one from
    isBinary_of_le (by omega)]

theorem unitsSum_div : (t.unitsSum / one : ℚ) = t.seconds.toNat + size t.fractionBits := by
  have hone : (one : ℚ) ≠ 0 := Nat.cast_ne_zero.2 one_units_pos.ne'
  rw [unitsSum_eq ht, size, Nat.cast_add, Nat.cast_mul, add_div, mul_div_cancel_right₀ _ hone]

theorem unitsSum_le : t.unitsSum ≤ 2 ^ 32 * one := by
  have hfraction : unitsOf t.fractionBits ≤ unitsOf (wholeBits 1) :=
    unitsOf_strictMono.monotone t.fractionBits_le
  rw [show unitsOf (wholeBits 1) = 1 * one from isBinary_of_le (by decide)] at hfraction
  rw [unitsSum_eq ht]
  have hseconds : (t.seconds.toNat + 1) * one ≤ 2 ^ 32 * one := Nat.mul_le_mul_right one ht
  rw [Nat.add_mul] at hseconds
  omega

theorem bits_finite : t.bits < infinityBits := by
  have hle : t.bits ≤ wholeBits (2 ^ 32) :=
    nearest_mono one_units_pos Nat.one_pos (by rw [Nat.mul_one]; exact unitsSum_le ht)
  exact Nat.lt_of_le_of_lt hle (wholeBits_finite (Nat.le_refl _) (by decide +kernel))

/-- Nothing lies between no time and a nanosecond. -/
theorem unitsSum_normal : t.unitsSum = 0 ∨ one * 2 ^ 52 ≤ t.unitsSum * one := by
  rw [Nat.mul_comm one]
  rcases Nat.eq_zero_or_pos t.seconds.toNat with hseconds | hseconds
  · rcases Nat.eq_zero_or_pos (t.nanoseconds : Nat) with hzero | hpos
    · left
      rw [unitsSum_eq ht, hseconds, fractionBits, hzero, nearest_zero (by decide)]
      decide +kernel
    · right
      have hleast : 2 ^ 52 ≤ unitsOf (nearest 1 (10 ^ 9)) := by decide +kernel
      have hmono : nearest 1 (10 ^ 9) ≤ t.fractionBits :=
        nearest_mono (by decide) (by decide) (Nat.mul_le_mul_right _ hpos)
      refine Nat.mul_le_mul_right one (Nat.le_trans hleast ?_)
      exact Nat.le_trans (unitsOf_strictMono.monotone hmono) (Nat.le_add_left _ _)
  · right
    have hleast : 2 ^ 52 ≤ one := by decide +kernel
    refine Nat.mul_le_mul_right one (Nat.le_trans hleast ?_)
    rw [unitsSum_eq ht]
    exact Nat.le_trans (Nat.le_mul_of_pos_left one hseconds) (Nat.le_add_right _ _)

/-- Two of the three roundings count, and the greater of them is bounded by the whole time. -/
theorem size_bits_near : |size t.bits - t.exact| ≤ (2 ^ 32 + 1) / 2 ^ 53 := by
  have hone : (0 : ℚ) < one := Nat.cast_pos.2 one_units_pos
  have hbound : (t.unitsSum / one : ℚ) ≤ 2 ^ 32 := by
    have hle : (t.unitsSum : ℚ) ≤ (2 ^ 32 * one : Nat) := Nat.cast_le.2 (unitsSum_le ht)
    rwa [Nat.cast_mul, Nat.cast_pow, Nat.cast_ofNat, ← div_le_iff₀ hone] at hle
  have hsum := size_nearest_near one_units_pos (unitsSum_normal ht) (bits_finite ht) hbound
  have hfraction := t.fraction_near
  rw [unitsSum_div ht] at hsum
  have hsplit : size t.bits - t.exact =
      (size t.bits - (t.seconds.toNat + size t.fractionBits)) +
        (size t.fractionBits - (t.nanoseconds : Nat) / 10 ^ 9) := by
    rw [exact]
    ring
  calc
    |size t.bits - t.exact| ≤ 2 ^ 32 / 2 ^ 53 + 1 / 2 ^ 53 := by
      rw [hsplit]
      exact (abs_add_le _ _).trans (add_le_add hsum hfraction)
    _ = (2 ^ 32 + 1) / 2 ^ 53 := (add_div _ _ _).symm

end

/-! ## The order -/

theorem wholeBits_seconds_finite (t : Elapsed) : wholeBits t.seconds.toNat < infinityBits :=
  wholeBits_finite (Nat.le_of_lt t.seconds.toNat_lt) (by decide +kernel)

theorem unitsOf_fractionBits_lt (t : Elapsed) : unitsOf t.fractionBits < one := by
  have hlt := t.nanoseconds.isLt
  have hmost : unitsOf (nearest (10 ^ 9 - 1) (10 ^ 9)) < one := by decide +kernel
  have hmono : t.fractionBits ≤ nearest (10 ^ 9 - 1) (10 ^ 9) :=
    nearest_mono (by decide) (by decide) (Nat.mul_le_mul_right _ (by omega))
  exact Nat.lt_of_le_of_lt (unitsOf_strictMono.monotone hmono) hmost

/-- The whole seconds alone do not exceed the time. -/
theorem wholeBits_seconds_le (t : Elapsed) : wholeBits t.seconds.toNat ≤ t.bits := by
  have hself : nearest (unitsOf (wholeBits t.seconds.toNat)) one = wholeBits t.seconds.toNat :=
    nearest_eq_of_units one_units_pos t.wholeBits_seconds_finite (Nat.mul_comm _ _)
  calc
    wholeBits t.seconds.toNat = nearest (unitsOf (wholeBits t.seconds.toNat)) one := hself.symm
    _ ≤ t.bits := nearest_mono one_units_pos one_units_pos
        (Nat.mul_le_mul_right one (Nat.le_add_right _ _))

/-- The nanoseconds do not lift a time above the next whole second, or are lost. -/
theorem bits_le_wholeBits {t : Elapsed} {n : Nat} (h : t.seconds.toNat < n) :
    t.bits ≤ wholeBits n := by
  have hfraction := t.unitsOf_fractionBits_lt
  by_cases hsmall : t.seconds.toNat ≤ 2 ^ 53
  · have hexact : unitsOf (wholeBits t.seconds.toNat) = t.seconds.toNat * one :=
      isBinary_of_le hsmall
    have hnext : (t.seconds.toNat + 1) * one ≤ n * one := Nat.mul_le_mul_right one h
    refine nearest_mono one_units_pos Nat.one_pos ?_
    rw [Nat.mul_one, unitsSum, hexact]
    rw [Nat.add_mul] at hnext
    omega
  · have hlarge : 2 ^ 53 * one ≤ unitsOf (wholeBits t.seconds.toNat) := by
      have hexact : unitsOf (wholeBits (2 ^ 53)) = 2 ^ 53 * one := isBinary_of_le (Nat.le_refl _)
      rw [← hexact]
      exact unitsOf_strictMono.monotone (wholeBits_mono (by omega))
    exact Nat.le_trans (nearest_units_add_le t.wholeBits_seconds_finite hlarge hfraction)
      (wholeBits_mono (Nat.le_of_lt h))

/-- A longer time has no smaller binary number. -/
theorem bits_mono {t t' : Elapsed} (h : t.exact ≤ t'.exact) : t.bits ≤ t'.bits := by
  rcases le_of_exact_le h with hseconds | ⟨hseconds, hnanoseconds⟩
  · exact Nat.le_trans (bits_le_wholeBits hseconds) t'.wholeBits_seconds_le
  · have hfraction : t.fractionBits ≤ t'.fractionBits :=
      nearest_mono (by decide) (by decide) (Nat.mul_le_mul_right _ hnanoseconds)
    refine nearest_mono one_units_pos one_units_pos (Nat.mul_le_mul_right one ?_)
    rw [unitsSum, unitsSum, hseconds]
    exact Nat.add_le_add_left (unitsOf_strictMono.monotone hfraction) _

/-! ## What is shown -/

/-- The ten-thousandths of a second that are shown. -/
def shown (t : Elapsed) : Nat := roundDiv .even (unitsOf t.bits * 10 ^ 4) one

theorem shown_mono {t t' : Elapsed} (h : t.exact ≤ t'.exact) : t.shown ≤ t'.shown :=
  roundDiv_even_mono (Nat.mul_le_mul_right _ (unitsOf_strictMono.monotone (bits_mono h))) one

theorem shown_near {t : Elapsed} (ht : t.seconds.toNat < 2 ^ 32) :
    |(t.shown / 10 ^ 4 : ℚ) - t.exact| ≤ 51 / 10 ^ 6 := by
  have hplaces : |(t.shown / 10 ^ 4 : ℚ) - size t.bits| ≤ 1 / (2 * 10 ^ 4) :=
    roundDiv_places_near 4 (unitsOf t.bits) one_units_pos
  calc
    |(t.shown / 10 ^ 4 : ℚ) - t.exact| ≤ |(t.shown / 10 ^ 4 : ℚ) - size t.bits| +
        |size t.bits - t.exact| := abs_sub_le _ _ _
    _ ≤ 1 / (2 * 10 ^ 4) + (2 ^ 32 + 1) / 2 ^ 53 := add_le_add hplaces (size_bits_near ht)
    _ ≤ 51 / 10 ^ 6 := by norm_num

end Elapsed

/-! ## The line -/

/-- The line says how many rows took how many seconds, with four decimals. -/
def SaysElapsed (line : String) (rowCount : Nat) (x : ℚ) : Prop :=
  ∃ text : String, HasPlaces 4 text.toList x ∧
    line = String.ofList (Nat.toDigits 10 rowCount) ++ " row(s) in " ++ text ++ " seconds"

theorem SaysElapsed.unique {line : String} {rowCount : Nat} {x y : ℚ}
    (hx : SaysElapsed line rowCount x) (hy : SaysElapsed line rowCount y) : x = y := by
  obtain ⟨text, htext, rfl⟩ := hx
  obtain ⟨text', htext', hline⟩ := hy
  have heq : text.toList = text'.toList := by
    have hchars := congrArg String.toList hline
    simp only [String.toList_append] at hchars
    exact List.append_cancel_left (List.append_cancel_right hchars)
  exact htext.unique (heq ▸ htext')

theorem saysElapsed_summary (rowCount : Nat) (t : Elapsed) :
    SaysElapsed (summary rowCount t) rowCount (t.shown / 10 ^ 4) := by
  refine ⟨fixed 4 t.toBinary.units one, ?_, ?_⟩
  · rw [t.units_toBinary]
    exact hasPlaces_fixed (by decide) _ _
  · rw [summary, integer, integerChars, if_neg (by omega)]
    rfl

/-- The closing line has the number of rows in decimal and the seconds with four decimals.  Below
`2³²` seconds they are hardly more than half a place away from the exact time, and whatever the
times, a line for a longer one never says less. -/
theorem summary_rounds_elapsed :
    (∀ rowCount t, ∃ x, SaysElapsed (summary rowCount t) rowCount x ∧
      (t.seconds.toNat < 2 ^ 32 → |x - t.exact| ≤ 51 / 10 ^ 6)) ∧
      ∀ rowCount rowCount' t t' x x', t.exact ≤ t'.exact →
        SaysElapsed (summary rowCount t) rowCount x →
          SaysElapsed (summary rowCount' t') rowCount' x' → x ≤ x' := by
  constructor
  · intro rowCount t
    exact ⟨_, saysElapsed_summary rowCount t, Elapsed.shown_near⟩
  · intro rowCount rowCount' t t' x x' hle hx hx'
    rw [hx.unique (saysElapsed_summary rowCount t), hx'.unique (saysElapsed_summary rowCount' t')]
    have hshown : (t.shown : ℚ) ≤ t'.shown := Nat.cast_le.2 (Elapsed.shown_mono hle)
    exact div_le_div_of_nonneg_right hshown (by positivity)

/-- A time just below two seconds is carried over to them.  Beyond `2⁵³` seconds a whole one does
not show, and the nanoseconds of the shorter time do not make it the greater. -/
theorem summary_of_carried_and_lost_parts :
    let carried : Elapsed := ⟨1, 999950001⟩
    let early : Elapsed := ⟨9007199254740992, 999999999⟩
    let late : Elapsed := ⟨9007199254740993, 0⟩
    carried.seconds.toNat < 2 ^ 32 ∧ early.exact ≤ late.exact ∧
      summary 3 carried = "3 row(s) in 2.0000 seconds" ∧
      summary 0 early = "0 row(s) in 9007199254740992.0000 seconds" ∧
      summary 1 late = "1 row(s) in 9007199254740992.0000 seconds" ∧
      (∃ x, SaysElapsed "3 row(s) in 2.0000 seconds" 3 x ∧ |x - carried.exact| ≤ 51 / 10 ^ 6) ∧
      ∀ x x', SaysElapsed (summary 0 early) 0 x → SaysElapsed (summary 1 late) 1 x' → x ≤ x' := by
  intro carried early late
  have hsmall : carried.seconds.toNat < 2 ^ 32 := by decide
  have hle : early.exact ≤ late.exact := by
    have hearly : early.exact = 9007199254740992 + 999999999 / 10 ^ 9 := rfl
    have hlate : late.exact = 9007199254740993 + 0 / 10 ^ 9 := rfl
    rw [hearly, hlate]
    norm_num
  have hcarried : summary 3 carried = "3 row(s) in 2.0000 seconds" := by decide +kernel
  refine ⟨hsmall, hle, hcarried, by decide +kernel, by decide +kernel, ?_, ?_⟩
  · obtain ⟨x, hx, hnear⟩ := summary_rounds_elapsed.1 3 carried
    exact ⟨x, hcarried ▸ hx, hnear hsmall⟩
  · intro x x'
    exact summary_rounds_elapsed.2 0 1 early late x x' hle

end FixedWidth
