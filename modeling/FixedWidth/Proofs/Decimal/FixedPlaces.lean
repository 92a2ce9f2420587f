import FixedWidth.Decimal.Fixed
import FixedWidth.Proofs.Decimal.Nearest
import FixedWidth.Proofs.Json.WholeNumber
import Mathlib.Algebra.Order.Field.Rat
import Mathlib.Tactic.FieldSimp
import Mathlib.Tactic.Linarith

/-!
# Decimals with a fixed number of places

Such a decimal is a whole number without superfluous zeros, a point, and as many digits as there are
places.  It is written for the multiple of the last place that lies nearest to a fraction, so it is
at most half a place away, and of two fractions the greater one never has the smaller decimal.
-/

namespace FixedWidth.Decimal

theorem roundDiv_even_mono {num num' : Nat} (h : num ≤ num') (den : Nat) :
    roundDiv .even num den ≤ roundDiv .even num' den := by
  have hle := roundDiv_le .even num den
  have hge := div_le_roundDiv .even num' den
  rcases Nat.lt_or_eq_of_le (Nat.div_le_div_right (c := den) h) with hlt | heq
  · omega
  · -- with one quotient for both, the remainders decide
    by_cases hdown : roundDiv .even num' den ≤ num' / den
    · refine Nat.le_trans ?_ hge
      rw [← heq, roundDiv_even_le_iff]
      rw [roundDiv_even_le_iff] at hdown
      have hsplit := Nat.div_add_mod num den
      have hsplit' := Nat.div_add_mod num' den
      rw [← heq] at hsplit' hdown
      omega
    · omega

/-! ## Reading a decimal -/

/-- The text has a whole number, a point and so many digits, and denotes this number. -/
inductive HasPlaces (places : Nat) : List Char → ℚ → Prop where
  | mk {whole fraction : List Char} (hwhole : Json.IsWhole whole)
      (hfraction : ∀ c ∈ fraction, c.isDigit = true) (hlength : fraction.length = places) :
      HasPlaces places (whole ++ '.' :: fraction)
        (Nat.ofDigitChars 10 whole 0 + Nat.ofDigitChars 10 fraction 0 / 10 ^ places)

/-- The point is found by the number of places, so a text denotes one number. -/
theorem HasPlaces.unique {places : Nat} {s : List Char} {x y : ℚ} (hx : HasPlaces places s x)
    (hy : HasPlaces places s y) : x = y := by
  obtain @⟨whole, fraction, -, -, hlength⟩ := hx
  generalize hs : whole ++ '.' :: fraction = s at hy
  obtain @⟨whole', fraction', -, -, hlength'⟩ := hy
  have hlengths : ('.' :: fraction).length = ('.' :: fraction').length := by
    rw [List.length_cons, List.length_cons, hlength, hlength']
  obtain ⟨rfl, hpoint⟩ := List.append_inj' hs hlengths
  rw [List.cons.injEq] at hpoint
  rw [hpoint.2]

/-! ## Writing a decimal -/

section

variable {length n : Nat}

theorem length_zeroPadded (hpos : 0 < length) (h : n < 10 ^ length) :
    (zeroPadded length n).length = length := by
  have hle := (Nat.length_toDigits_le_iff (by decide) hpos).2 h
  rw [zeroPadded, List.length_append, List.length_replicate]
  omega

theorem isDigit_of_mem_zeroPadded {c : Char} (h : c ∈ zeroPadded length n) : c.isDigit = true := by
  rcases List.mem_append.1 h with hzero | hdigit
  · rw [List.eq_of_mem_replicate hzero]
    rfl
  · exact Nat.isDigit_of_mem_toDigits (by decide) (by decide) hdigit

theorem ofDigitChars_zeroPadded : Nat.ofDigitChars 10 (zeroPadded length n) 0 = n := by
  rw [zeroPadded, Nat.ofDigitChars_append, Nat.ofDigitChars_replicate_zero, Nat.mul_zero,
    Nat.ofDigitChars_ten_toDigits]

end

section

variable {places num den : Nat}

theorem hasPlaces_fixed (hpos : 0 < places) (num den : Nat) :
    HasPlaces places (fixed places num den).toList
      (roundDiv .even (num * 10 ^ places) den / 10 ^ places) := by
  generalize hn : roundDiv .even (num * 10 ^ places) den = n
  have hpow : 0 < 10 ^ places := Nat.pow_pos (by decide)
  have hvalue : (n / 10 ^ places : ℚ) =
      Nat.ofDigitChars 10 (Nat.toDigits 10 (n / 10 ^ places)) 0 +
        Nat.ofDigitChars 10 (zeroPadded places (n % 10 ^ places)) 0 / 10 ^ places := by
    have hpow' : (10 : ℚ) ^ places ≠ 0 := pow_ne_zero _ (by norm_num)
    have hsplit : ((10 ^ places * (n / 10 ^ places) + n % 10 ^ places : Nat) : ℚ) = n := by
      rw [Nat.div_add_mod]
    rw [Nat.ofDigitChars_ten_toDigits, ofDigitChars_zeroPadded, div_eq_iff hpow', ← hsplit]
    push_cast
    field_simp
  rw [fixed, hn, String.toList_ofList, hvalue]
  exact .mk (Json.isWhole_toDigits _) (fun c hc => isDigit_of_mem_zeroPadded hc)
    (length_zeroPadded hpos (Nat.mod_lt n hpow))

/-- What is written lies at most half a place from the fraction. -/
theorem roundDiv_places_near (places num : Nat) (hden : 0 < den) :
    |(roundDiv .even (num * 10 ^ places) den / 10 ^ places : ℚ) - num / den| ≤
      1 / (2 * 10 ^ places) := by
  obtain ⟨hover, hunder⟩ := roundDiv_near .even (num * 10 ^ places) hden
  generalize roundDiv .even (num * 10 ^ places) den = n at hover hunder
  have hpow : (0 : ℚ) < 10 ^ places := pow_pos (by norm_num) _
  have hden' : (0 : ℚ) < den := Nat.cast_pos.2 hden
  have hover' : (2 : ℚ) * (den * n) ≤ 2 * (num * 10 ^ places) + den := by exact_mod_cast hover
  have hunder' : (2 : ℚ) * (num * 10 ^ places) ≤ 2 * (den * n) + den := by exact_mod_cast hunder
  have hdiff : (n / 10 ^ places - num / den : ℚ) =
      (2 * (den * n) - 2 * (num * 10 ^ places)) / (2 * 10 ^ places * den) := by
    field_simp
  have hbound : (1 / (2 * 10 ^ places) : ℚ) = den / (2 * 10 ^ places * den) := by
    field_simp
  rw [hdiff, hbound, abs_le, neg_div', div_le_div_iff_of_pos_right (by positivity),
    div_le_div_iff_of_pos_right (by positivity)]
  constructor <;> linarith

end

end FixedWidth.Decimal
