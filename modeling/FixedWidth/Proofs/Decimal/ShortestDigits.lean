import FixedWidth.Decimal.Shortest
import FixedWidth.Proofs.Decimal.Nearest
import Mathlib.Tactic.Ring

/-!
# The shortest digits read back

On a grid that is finer than three quarters of the distance to the next number, one of the two
neighbours of a number reads back to it.  The last grid that is tried is so fine, and so is that of
the smallest number's first digit.  So the search never runs out: the digits it finds read back,
they are few enough for 64 bits, and their exponent is that of a binary number.
-/

namespace FixedWidth.Decimal

theorem Scaled.den_pos (d : Scaled) : 0 < d.den :=
  Nat.pow_pos (by decide)

namespace Binary64

/-! ## What reads back -/

theorem nearest_eq_of_between {num den b : Nat} (hden : 0 < den) (hpos : 0 < b)
    (hb : b < infinityBits) (hbelow : den * midpoint (b - 1) < 2 * (num * one))
    (habove : 2 * (num * one) < den * midpoint b) : nearest num den = b := by
  have hle : nearest num den ≤ b := (nearest_le_iff hden hb).2 (.inl habove)
  have hge : ¬ nearest num den ≤ b - 1 := by
    rw [nearest_le_iff hden (by omega)]
    omega
  omega

theorem nearest_zero {den : Nat} (hden : 0 < den) : nearest 0 den = 0 := by
  have hmid : 0 < midpoint 0 := by decide +kernel
  have hzero : 0 < infinityBits := by decide +kernel
  refine Nat.le_zero.1 ((nearest_le_iff hden hzero).2 (.inl ?_))
  rw [Nat.zero_mul, Nat.mul_zero]
  exact Nat.mul_pos hden hmid

/-- A binary number is its own nearest. -/
theorem nearest_eq_of_units {num den b : Nat} (hden : 0 < den) (hb : b < infinityBits)
    (h : num * one = den * unitsOf b) : nearest num den = b := by
  rcases Nat.eq_zero_or_pos b with rfl | hpos
  · have hnum : num = 0 := by
      rw [show unitsOf 0 = 0 from rfl, Nat.mul_zero] at h
      exact (Nat.mul_eq_zero.1 h).resolve_right one_units_pos.ne'
    rw [hnum, nearest_zero hden]
  · have hpred : unitsOf (b - 1) < unitsOf b := unitsOf_strictMono (by omega)
    have hsucc : unitsOf b < unitsOf (b + 1) := unitsOf_strictMono (by omega)
    refine nearest_eq_of_between hden hpos hb ?_ ?_
    · rw [h, midpoint, Nat.sub_add_cancel hpos, Nat.mul_left_comm]
      exact Nat.mul_lt_mul_of_pos_left (by omega) hden
    · rw [h, midpoint, Nat.mul_left_comm]
      exact Nat.mul_lt_mul_of_pos_left (by omega) hden

/-- The number before is at least half as far away as the one behind. -/
theorem IsShifted.unitsOf_pred {b m s : Nat} (h : IsShifted b m s) (hpos : 0 < b) :
    2 * Binary64.unitsOf (b - 1) + 2 ^ s ≤ 2 * Binary64.unitsOf b := by
  have heq := h.eq
  rw [h.unitsOf]
  by_cases hm : s = 0 ∨ 2 ^ 52 < m
  · have hprev : b - 1 = (m - 1) + s * 2 ^ 52 := by omega
    have hm' : m = (m - 1) + 1 := by omega
    have hmost := h.most
    rw [hprev, unitsOf_shifted (hm.imp id fun hm => by omega) (by omega)]
    calc
      2 * ((m - 1) * 2 ^ s) + 2 ^ s = (2 * (m - 1) + 1) * 2 ^ s := by ring
      _ ≤ (2 * m) * 2 ^ s := Nat.mul_le_mul_right _ (by omega)
      _ = 2 * (m * 2 ^ s) := by ring
  · have hleast := h.least
    have hs : s = (s - 1) + 1 := by omega
    have hm' : m = 2 ^ 52 := by omega
    have hprev : b - 1 = (2 ^ 53 - 1) + (s - 1) * 2 ^ 52 := by omega
    rw [hprev, unitsOf_shifted (.inr (by omega)) (by omega), hm']
    conv_lhs => rw [hs]
    conv_rhs => rw [hs]
    generalize s - 1 = j
    refine Nat.le_of_eq ?_
    rw [Nat.add_sub_cancel]
    ring

/-! ## One grid -/

variable {tie : Tie} {b : Nat}

/-- The multiples of `10 ^ k` lie closer together than three quarters of a shifted unit. -/
def IsFine (s : Nat) (k : Int) : Prop :=
  4 * (one * 10 ^ k.toNat) < 3 * (2 ^ s * 10 ^ (-k).toNat)

instance (s : Nat) (k : Int) : Decidable (IsFine s k) :=
  inferInstanceAs (Decidable (_ < _))

/-- On a fine grid the neighbour below or the neighbour above reads back. -/
theorem readsAs_or_of_isFine {m s : Nat} (hshift : IsShifted b m s) (hpos : 0 < b)
    (hb : b < infinityBits) {k : Int} (hfine : IsFine s k) {num den : Nat}
    (hnum : unitsOf b * 10 ^ (-k).toNat = num) (hden : one * 10 ^ k.toNat = den) :
    Scaled.readsAs ⟨num / den, k⟩ b = true ∨ Scaled.readsAs ⟨num / den + 1, k⟩ b = true := by
  have hdec : 0 < 10 ^ (-k).toNat := Nat.pow_pos (by decide)
  have hpred := hshift.unitsOf_pred hpos
  have hsucc : unitsOf (b + 1) = unitsOf b + 2 ^ s := by
    rw [hshift.unitsOf_succ, hshift.unitsOf]
    ring
  have hfine' : 4 * den < 3 * (2 ^ s * 10 ^ (-k).toNat) := hden ▸ hfine
  have hunits (n : Nat) : n * 10 ^ k.toNat * one = den * n := by
    rw [← hden]
    ring
  have hmid : 10 ^ (-k).toNat * midpoint b = 2 * num + 2 ^ s * 10 ^ (-k).toNat := by
    rw [← hnum, midpoint, hsucc]
    ring
  have hmid_pred :
      2 * (10 ^ (-k).toNat * midpoint (b - 1)) + 2 ^ s * 10 ^ (-k).toNat ≤ 4 * num := by
    rw [← hnum, midpoint, Nat.sub_add_cancel hpos]
    calc
      2 * (10 ^ (-k).toNat * (unitsOf (b - 1) + unitsOf b)) + 2 ^ s * 10 ^ (-k).toNat =
          10 ^ (-k).toNat * (2 * unitsOf (b - 1) + 2 ^ s + 2 * unitsOf b) := by ring
      _ ≤ 10 ^ (-k).toNat * (2 * unitsOf b + 2 * unitsOf b) :=
        Nat.mul_le_mul_left _ (Nat.add_le_add_right hpred _)
      _ = 4 * (unitsOf b * 10 ^ (-k).toNat) := by ring
  have hden' : 0 < den := hden ▸ Nat.mul_pos one_units_pos (Nat.pow_pos (by decide))
  have hfloor := Nat.div_add_mod num den
  have hmod := Nat.mod_lt num hden'
  have hnext : den * (num / den + 1) = den * (num / den) + den := Nat.mul_succ _ _
  have hunit : 0 < 2 ^ s * 10 ^ (-k).toNat := Nat.mul_pos (Nat.two_pow_pos s) hdec
  simp only [Scaled.readsAs, Scaled.num, Scaled.den, beq_iff_eq]
  -- the neighbours are less than three quarters of a unit apart, so the one below is less than a
  -- quarter away or the one above less than half
  by_cases hquarter : 4 * (num % den) < 2 ^ s * 10 ^ (-k).toNat
  · left
    refine nearest_eq_of_between hdec hpos hb ?_ ?_
    · rw [hunits]
      omega
    · rw [hunits]
      omega
  · right
    refine nearest_eq_of_between hdec hpos hb ?_ ?_
    · rw [hunits, hnext]
      omega
    · rw [hunits, hnext]
      omega

theorem isSome_onGrid? {m s : Nat} (hshift : IsShifted b m s) (hpos : 0 < b)
    (hb : b < infinityBits) {k : Int} (hfine : IsFine s k) : (onGrid? tie b k).isSome := by
  have hreads := readsAs_or_of_isFine hshift hpos hb hfine rfl rfl
  unfold onGrid?
  dsimp only
  generalize unitsOf b * 10 ^ (-k).toNat = num at hreads ⊢
  generalize one * 10 ^ k.toNat = den at hreads ⊢
  split
  · rfl
  · rename_i hbelow
    rw [if_pos (hreads.resolve_left hbelow)]
    rfl

/-- What a grid gives is a neighbour that reads back. -/
theorem of_onGrid?_eq_some {k : Int} {d : Scaled} (h : onGrid? tie b k = some d) :
    d.exponent = k ∧ nearest d.num d.den = b ∧
      d.digits ≤ unitsOf b * 10 ^ (-k).toNat / (one * 10 ^ k.toNat) + 1 := by
  unfold onGrid? at h
  dsimp only at h
  generalize unitsOf b * 10 ^ (-k).toNat = num at h ⊢
  generalize one * 10 ^ k.toNat = den at h ⊢
  split at h
  · rename_i hbelow
    obtain rfl := Option.some.inj h
    split
    · rename_i habove
      rcases roundDiv_eq_or tie num den with ⟨hround, -⟩ | ⟨hround, -⟩
      · rw [hround]
        exact ⟨rfl, beq_iff_eq.1 hbelow, Nat.le_succ _⟩
      · rw [hround]
        exact ⟨rfl, beq_iff_eq.1 habove, Nat.le_refl _⟩
    · exact ⟨rfl, beq_iff_eq.1 hbelow, Nat.le_succ _⟩
  · split at h
    · rename_i habove
      obtain rfl := Option.some.inj h
      exact ⟨rfl, beq_iff_eq.1 habove, Nat.le_refl _⟩
    · cases h

/-! ## The search -/

/-- If a grid among those that are tried gives something, the search ends there at the latest. -/
theorem exists_onGrid?_searchDown {tries j : Nat} {k : Int} (hj : j < tries)
    (h : (onGrid? tie b (k - j)).isSome) :
    ∃ k', k - j ≤ k' ∧ k' ≤ k ∧ onGrid? tie b k' = some (searchDown tie b tries k) := by
  induction tries generalizing j k with
  | zero => omega
  | succ tries ih =>
      rw [searchDown]
      rcases Option.eq_none_or_eq_some (onGrid? tie b k) with hnone | ⟨d, hfirst⟩
      · have hlater : j ≠ 0 := by
          rintro rfl
          rw [Int.natCast_zero, Int.sub_zero, hnone] at h
          exact Bool.noConfusion h
        have hgrid : k - j = (k - 1) - ((j - 1 : Nat) : Int) := by omega
        rw [hgrid] at h
        obtain ⟨k', hleast, hmost, hk'⟩ := ih (by omega) h
        refine ⟨k', by omega, by omega, ?_⟩
        rw [hnone, Option.getD_none]
        exact hk'
      · refine ⟨k, by omega, Int.le_refl k, ?_⟩
        rw [hfirst, Option.getD_some]

/-! ## The last grid -/

theorem log2_unitsOf {m s : Nat} (hshift : IsShifted b m s) (hpos : 0 < b) :
    s = (unitsOf b).log2 - 52 := by
  have hne : unitsOf b ≠ 0 := by
    have hlt := unitsOf_strictMono hpos
    omega
  rw [hshift.unitsOf] at hne ⊢
  rcases hshift.least with rfl | hleast
  · have hsmall : (m * 2 ^ 0).log2 < 53 := by
      rw [Nat.log2_lt hne, Nat.pow_zero, Nat.mul_one]
      exact hshift.most
    omega
  · have hlog : (m * 2 ^ s).log2 = 52 + s := by
      rw [Nat.log2_eq_iff hne, Nat.pow_add, Nat.add_right_comm, Nat.pow_add]
      exact ⟨Nat.mul_le_mul_right _ hleast,
        Nat.mul_lt_mul_of_pos_right hshift.most (Nat.two_pow_pos s)⟩
    omega

theorem log2_unitsOf_lt {n : Nat} (hpos : 0 < b) (hb : b < 2 ^ 52 + n * 2 ^ 52) :
    (unitsOf b).log2 < 52 + n := by
  have hlt := unitsOf_strictMono hb
  have hne : unitsOf b ≠ 0 := by
    have := unitsOf_strictMono hpos
    omega
  rw [unitsOf_shifted (.inr (Nat.le_refl _)) (by omega), ← Nat.pow_add] at hlt
  exact (Nat.log2_lt hne).2 hlt

/-- The exponent of the last grid that is tried for a number whose units have so many digits. -/
def lastExponent (log : Nat) : Int :=
  (log - 1073 : Int) * 30103 / 100000 - 17

theorem topExponent_eq (b : Nat) : topExponent b = lastExponent (unitsOf b).log2 + 19 := by
  unfold topExponent lastExponent
  omega

/-- The last grid is fine, and the digits on it are few. -/
theorem isFine_lastExponent {log : Nat} (h : log < 2098) :
    IsFine (log - 52) (lastExponent log) ∧
      2 ^ (log + 1) * 10 ^ (-lastExponent log).toNat ≤
        2 * 10 ^ 18 * (one * 10 ^ (lastExponent log).toNat) := by
  have hall : (List.range 2098).all (fun log => decide (IsFine (log - 52) (lastExponent log)) &&
      decide (2 ^ (log + 1) * 10 ^ (-lastExponent log).toNat ≤
        2 * 10 ^ 18 * (one * 10 ^ (lastExponent log).toNat))) = true := by
    decide +kernel
  have hlog := List.all_eq_true.1 hall log (List.mem_range.2 h)
  rw [Bool.and_eq_true, decide_eq_true_iff, decide_eq_true_iff] at hlog
  exact hlog

theorem isFine_smallest (s : Nat) : IsFine s (-324) := by
  have hunit : IsFine 0 (-324) := by decide +kernel
  unfold IsFine at *
  have hs : 2 ^ 0 ≤ 2 ^ s := Nat.pow_le_pow_right (by decide) (Nat.zero_le s)
  exact Nat.lt_of_lt_of_le hunit (Nat.mul_le_mul_left 3 (Nat.mul_le_mul_right _ hs))

/-- A quotient that is small on one grid is small on a coarser one. -/
theorem scaled_le_of_exponent_le {x y : Nat} {j k : Int} (hjk : j ≤ k)
    (h : x * 10 ^ (-j).toNat ≤ y * 10 ^ j.toNat) : x * 10 ^ (-k).toNat ≤ y * 10 ^ k.toNat := by
  obtain ⟨n, rfl⟩ : ∃ n : Nat, k = j + n := ⟨(k - j).toNat, by omega⟩
  clear hjk
  induction n with
  | zero => simpa using h
  | succ n ih =>
      by_cases hneg : j + n < 0
      · have hdown : (-(j + n)).toNat = (-(j + (n + 1 : Nat))).toNat + 1 := by omega
        have hup : (j + n).toNat = 0 := by omega
        have hup' : (j + (n + 1 : Nat)).toNat = 0 := by omega
        rw [hdown, hup, Nat.pow_succ, ← Nat.mul_assoc] at ih
        rw [hup']
        omega
      · have hdown : (-(j + n)).toNat = 0 := by omega
        have hdown' : (-(j + (n + 1 : Nat))).toNat = 0 := by omega
        have hup : (j + (n + 1 : Nat)).toNat = (j + n).toNat + 1 := by omega
        rw [hdown] at ih
        rw [hdown', hup, Nat.pow_succ, ← Nat.mul_assoc]
        omega

/-! ## What is found -/

/-- The decimal reads back to the bits, its digits fit 64 bits, and its exponent is that of a binary
number. -/
structure Spells (d : Scaled) (b : Nat) : Prop where
  nearest_eq : nearest d.num d.den = b
  digits_pos : 0 < d.digits
  digits_le : d.digits ≤ 2 * 10 ^ 18 + 1
  least : -324 ≤ d.exponent
  most : d.exponent ≤ 308

theorem digits_pos_of_nearest {d : Scaled} (hpos : 0 < b) (h : nearest d.num d.den = b) :
    0 < d.digits := by
  refine Nat.pos_of_ne_zero fun hzero => ?_
  have hnum : d.num = 0 := by rw [Scaled.num, hzero, Nat.zero_mul]
  rw [hnum, nearest_zero (Scaled.den_pos d)] at h
  omega

theorem exponent_lt_of_nearest {d : Scaled} {n : Nat} (hpos : 0 < b) (hb : b < infinityBits)
    (hmid : midpoint b < 2 * (10 ^ n * one)) (h : nearest d.num d.den = b) : d.exponent < n := by
  by_contra hlarge
  have hexponent : n ≤ d.exponent.toNat := by omega
  have hden : d.den = 1 := by
    rw [Scaled.den, show (-d.exponent).toNat = 0 by omega, Nat.pow_zero]
  have hnum : 10 ^ n ≤ d.num :=
    Nat.le_trans (Nat.pow_le_pow_right (by decide) hexponent)
      (Nat.le_mul_of_pos_left _ (digits_pos_of_nearest hpos h))
  have hscaled : 10 ^ n * one ≤ d.num * one := Nat.mul_le_mul_right one hnum
  have hle := (nearest_le_iff (Scaled.den_pos d) hb).1 (Nat.le_of_eq h)
  rw [hden, Nat.one_mul] at hle
  omega

/-- No finite number is as large as `10 ^ 309`. -/
theorem midpoint_lt {n : Nat} (hb : b < infinityBits) (hn : n = 309) :
    midpoint b < 2 * (10 ^ n * one) := by
  have htop : midpoint (infinityBits - 1) < 2 * (10 ^ n * one) := by
    subst hn
    decide +kernel
  exact Nat.lt_of_le_of_lt (midpoint_strictMono.monotone (Nat.le_sub_one_of_lt hb)) htop

section

variable (hpos : 0 < b) (hb : b < infinityBits)

include hpos hb

theorem log2_unitsOf_lt_of_finite : (unitsOf b).log2 < 2098 := by
  have hb' : b < 2 ^ 52 + 2046 * 2 ^ 52 := by
    unfold infinityBits at hb
    omega
  exact log2_unitsOf_lt hpos hb'

/-- Among the grids that are tried is that of the last exponent, or that of `10 ^ (-324)` if it
comes first. -/
theorem exists_isFine {m s : Nat} (hshift : IsShifted b m s) :
    ∃ j : Nat, j < 20 ∧ IsFine s (topExponent b - j) ∧ -324 ≤ topExponent b - j := by
  have hfine := (isFine_lastExponent (log2_unitsOf_lt_of_finite hpos hb)).1
  have htop := topExponent_eq b
  rw [← log2_unitsOf hshift hpos] at hfine
  have hlast : lastExponent (unitsOf b).log2 = topExponent b - (19 : Nat) := by omega
  have hleast : -341 ≤ lastExponent (unitsOf b).log2 := by
    unfold lastExponent
    omega
  by_cases hend : -324 ≤ lastExponent (unitsOf b).log2
  · exact ⟨19, by decide, hlast ▸ hfine, hlast ▸ hend⟩
  · refine ⟨(topExponent b + 324).toNat, by omega, ?_, by omega⟩
    have hgrid : topExponent b - ((topExponent b + 324).toNat : Int) = -324 := by omega
    rw [hgrid]
    exact isFine_smallest s

theorem quotient_le {k : Int} (hcoarser : lastExponent (unitsOf b).log2 ≤ k) :
    unitsOf b * 10 ^ (-k).toNat / (one * 10 ^ k.toNat) ≤ 2 * 10 ^ 18 := by
  have hfew := (isFine_lastExponent (log2_unitsOf_lt_of_finite hpos hb)).2
  have hunits : unitsOf b * 10 ^ (-lastExponent (unitsOf b).log2).toNat ≤
      2 * 10 ^ 18 * one * 10 ^ (lastExponent (unitsOf b).log2).toNat := by
    rw [Nat.mul_assoc _ one]
    exact Nat.le_trans (Nat.mul_le_mul_right _ (Nat.le_of_lt Nat.lt_log2_self)) hfew
  refine Nat.div_le_of_le_mul (Nat.le_trans (scaled_le_of_exponent_le hcoarser hunits) ?_)
  rw [Nat.mul_assoc, Nat.mul_comm]

theorem spells_shortest (tie : Tie) : Spells (shortest tie b) b := by
  obtain ⟨m, s, hshift⟩ := exists_isShifted b
  obtain ⟨j, hj, hgrid, hsmall⟩ := exists_isFine hpos hb hshift
  have hsome : (onGrid? tie b (topExponent b - j)).isSome := isSome_onGrid? hshift hpos hb hgrid
  obtain ⟨k, hk, -, hd⟩ := exists_onGrid?_searchDown hj hsome
  obtain ⟨hexponent, hnearest, hdigits⟩ := of_onGrid?_eq_some hd
  have htop := topExponent_eq b
  have hquotient := quotient_le hpos hb (k := k) (by omega)
  obtain ⟨n, hn⟩ : ∃ n, n = 309 := ⟨_, rfl⟩
  have hmost := exponent_lt_of_nearest hpos hb (midpoint_lt hb hn) hnearest
  unfold shortest
  refine ⟨hnearest, digits_pos_of_nearest hpos hnearest, ?_, by omega, by omega⟩
  exact Nat.le_trans hdigits (Nat.succ_le_succ hquotient)

end

end Binary64

end FixedWidth.Decimal
