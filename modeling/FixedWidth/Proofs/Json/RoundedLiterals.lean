import FixedWidth.Proofs.Json.IntegerLiterals
import FixedWidth.Proofs.Json.NumberLayout
import FixedWidth.Proofs.Json.ScaledNumbers

/-!
# Literals of binary numbers

A literal that is not a whole number of 64 bits denotes a binary number.  Its digits make a
significand as long as there is room for them, and the significand is rounded and then multiplied or
divided by a power of ten, which rounds again.  Here these steps are a relation, which the reader is
shown to compute.  Where the digits and the power are exact, the number denoted is the nearest one.
-/

namespace FixedWidth.Json

open Decimal (Binary64 Scaled)
open Decimal.Binary64

/-! ## Digits that are kept -/

/-- On top of a number, digits are kept as long as the result stays below the bound. -/
structure Fills (bound n : Nat) (kept left : List Char) : Prop where
  room : kept ≠ [] → Nat.ofDigitChars 10 kept n < bound
  full : ∀ d ∈ left.head?, bound ≤ 10 * Nat.ofDigitChars 10 kept n + Decimal.digitValue d

theorem gather_of_fills {bound n : Nat} {kept left : List Char} (h : Fills bound n kept left) :
    gather bound n (kept ++ left) = (Nat.ofDigitChars 10 kept n, left) := by
  induction kept generalizing n with
  | nil =>
      cases left with
      | nil => rfl
      | cons d left => exact if_neg (Nat.not_lt.2 (h.full d rfl))
  | cons d kept ih =>
      have hroom := h.room (List.cons_ne_nil d kept)
      rw [Nat.ofDigitChars_cons] at hroom ⊢
      have hstep : 10 * n + Decimal.digitValue d < bound :=
        Nat.lt_of_le_of_lt (le_ofDigitChars kept _) hroom
      rw [List.cons_append, gather, if_pos hstep]
      exact ih ⟨fun _ => hroom, h.full⟩

theorem exists_fills (bound n : Nat) (ds : List Char) :
    ∃ kept left, ds = kept ++ left ∧ Fills bound n kept left := by
  induction ds generalizing n with
  | nil => exact ⟨[], [], rfl, fun h => absurd rfl h, fun d hd => by cases hd⟩
  | cons d ds ih =>
      by_cases hstep : 10 * n + Decimal.digitValue d < bound
      · obtain ⟨kept, left, rfl, hroom, hfull⟩ := ih (10 * n + Decimal.digitValue d)
        refine ⟨d :: kept, left, rfl, fun _ => ?_, hfull⟩
        by_cases hkept : kept = []
        · subst hkept
          exact hstep
        · exact hroom hkept
      · refine ⟨[], d :: ds, rfl, fun h => absurd rfl h, fun c hc => ?_⟩
        cases hc
        exact Nat.not_lt.1 hstep

theorem Fills.lt {bound n : Nat} {kept left : List Char} (h : Fills bound n kept left)
    (hn : n < bound) : Nat.ofDigitChars 10 kept n < bound := by
  by_cases hkept : kept = []
  · subst hkept
    exact hn
  · exact h.room hkept

/-- Nothing is left of digits that have room together. -/
theorem Fills.left_eq_nil {bound n : Nat} {kept left : List Char} (h : Fills bound n kept left)
    (hlt : Nat.ofDigitChars 10 (kept ++ left) n < bound) : left = [] := by
  cases left with
  | nil => rfl
  | cons d left =>
      have hfull := h.full d rfl
      rw [Nat.ofDigitChars_append, Nat.ofDigitChars_cons] at hlt
      exact absurd (Nat.lt_of_le_of_lt (le_ofDigitChars left _) hlt) (Nat.not_lt.2 hfull)

/-! ## Powers of ten -/

/-- The binary number nearest to a power of ten. -/
def powerOfTen (n : Nat) : Binary64 := .ofRatio false (10 ^ n) 1

theorem tenPow_eq_powerOfTen (n : Nat) : tenPow n = powerOfTen n := rfl

/-- A number times a power of ten.  It is divided by `10 ^ 308` as often as the power is smaller. -/
inductive Scales : Binary64 → Int → Binary64 → Prop where
  | up {x : Binary64} {e : Int} (hleast : 0 ≤ e) (hmost : e ≤ 308)
      (hfinite : (x.mul (powerOfTen e.toNat)).isFinite = true) :
      Scales x e (x.mul (powerOfTen e.toNat))
  | down {x : Binary64} {e : Int} (hneg : e < 0) (hleast : -308 ≤ e) :
      Scales x e (x.div (powerOfTen e.natAbs))
  | further {x y : Binary64} {e : Int} (hless : e < -308)
      (h : Scales (x.div (powerOfTen 308)) (e + 308) y) : Scales x e y

theorem div_tenPow_of_isZero {x : Binary64} (hx : x.isZero = true) {n : Nat} (hn : n ≤ 308) :
    x.div (tenPow n) = x := by
  have hmagnitude : x.magnitude = 0 := of_decide_eq_true hx
  have hpos := unitsOf_pos_of_size (size_tenPow_pos hn)
  rw [Binary64.div, tenPow_eq, Binary64.units, Binary64.units, magnitude_ofParts (wholeBits_lt _),
    isNegative_ofParts (wholeBits_lt _), hmagnitude, show unitsOf 0 = 0 from rfl,
    Binary64.ofRatio, nearest_zero hpos, Bool.bne_false, ← hmagnitude, ofParts_magnitude]

/-- Division stops early at zero, which makes no difference. -/
theorem shrink_of_isZero {x : Binary64} (hx : x.isZero = true) (n : Nat) : shrink n x = x := by
  by_cases hn : n ≤ 308
  · rw [shrink_of_le hn, div_tenPow_of_isZero hx hn]
  · rw [shrink, if_neg hn, if_pos hx]

theorem shrink_step {n : Nat} (hn : 308 < n) (x : Binary64) :
    shrink n x = shrink (n - 308) (x.div (tenPow 308)) := by
  cases hx : x.isZero with
  | true => rw [shrink_of_isZero hx, div_tenPow_of_isZero hx (Nat.le_refl 308), shrink_of_isZero hx]
  | false => exact shrink_of_lt hn hx

theorem scales_shrink {e : Int} (hneg : e < 0) (x : Binary64) : Scales x e (shrink e.natAbs x) := by
  generalize hn : e.natAbs = n
  induction n using Nat.strongRecOn generalizing e x with
  | ind n ih =>
      subst hn
      by_cases hleast : -308 ≤ e
      · rw [shrink_of_le (by omega), tenPow_eq_powerOfTen]
        exact .down hneg hleast
      · rw [shrink_step (by omega), tenPow_eq_powerOfTen]
        exact .further (by omega) (ih (e.natAbs - 308) (by omega) (by omega) _ (by omega))

theorem Scales.eq_shrink {x y : Binary64} {e : Int} (h : Scales x e y) (hneg : e < 0) :
    y = shrink e.natAbs x := by
  induction h with
  | up hleast => omega
  | down _ hleast => rw [shrink_of_le (by omega), tenPow_eq_powerOfTen]
  | @further x y e hless h ih =>
      rw [shrink_step (by omega), tenPow_eq_powerOfTen,
        show e.natAbs - 308 = (e + 308).natAbs by omega]
      exact ih (by omega)

/-! ## Significands -/

theorem isZero_ofRatio_one {s : Nat} (hs : s ≠ 0) :
    (Binary64.ofRatio false s 1).isZero = false := by
  have hone : 0 < wholeBits 1 := by decide +kernel
  have hmono := wholeBits_mono (Nat.one_le_iff_ne_zero.2 hs)
  rw [Binary64.isZero, Binary64.ofRatio, ← wholeBits, magnitude_ofParts (wholeBits_lt _)]
  exact decide_eq_false (by omega)

theorem scale?_eq_some_iff {s : Nat} (hs : s ≠ 0) {e : Int} {y : Binary64} :
    scale? s e = some y ↔ Scales (.ofRatio false s 1) e y := by
  unfold scale?
  dsimp only
  by_cases hneg : e < 0
  · rw [if_pos hneg, Option.some.injEq]
    constructor
    · rintro rfl
      exact scales_shrink hneg _
    · intro h
      exact (h.eq_shrink hneg).symm
  · rw [if_neg hneg, isZero_ofRatio_one hs, tenPow_eq_powerOfTen]
    constructor
    · intro h
      split at h
      · cases h
      · split at h
        · rename_i hmost hfinite
          cases h
          exact .up (by omega) (by omega) hfinite
        · cases h
    · intro h
      cases h with
      | up hleast hmost hfinite => rw [if_neg (by omega), if_pos hfinite]
      | down | further => omega

theorem productBits_zero (c : Nat) : productBits (wholeBits 0) c = 0 := by
  have hzero : unitsOf (wholeBits 0) = 0 := by decide +kernel
  rw [productBits, hzero, Nat.zero_mul]
  exact nearest_zero (Nat.mul_pos one_units_pos one_units_pos)

theorem scale?_zero (e : Int) : scale? 0 e = some .zero := by
  by_cases hbetween : 0 ≤ e ∧ e ≤ 308
  · have hfinite : 0 < infinityBits := by decide
    rw [scale?_of_nonneg hbetween.1 hbetween.2 (by rwa [productBits_zero]), productBits_zero]
    rfl
  · have hzero : Binary64.ofRatio false 0 1 = .zero := by decide +kernel
    have hisZero : Binary64.zero.isZero = true := rfl
    unfold scale?
    dsimp only
    rw [hzero, if_pos hisZero, shrink_of_isZero hisZero]
    split
    · rfl
    · rw [if_pos (by omega)]

theorem productBits_one {a : Nat} (ha : a < infinityBits) : productBits a (wholeBits 1) = a := by
  have hone : unitsOf (wholeBits 1) = 1 * one := isBinary_of_le (by decide)
  rw [productBits, hone, Nat.one_mul]
  refine nearest_eq_of_units (Nat.mul_pos one_units_pos one_units_pos) ha ?_
  rw [Nat.mul_assoc, Nat.mul_comm]

/-- The nullth power changes nothing. -/
theorem scale?_nullth {n : Nat} (hn : n < 2 ^ 64) : scale? n 0 = some (.ofRatio false n 1) := by
  have hfinite : wholeBits n < infinityBits := digits_finite (d := ⟨n, 0⟩) hn
  have hsame : productBits (wholeBits n) (wholeBits (10 ^ (0 : Int).toNat)) = wholeBits n :=
    productBits_one hfinite
  rw [scale?_of_nonneg (Int.le_refl 0) (by decide) (by rwa [hsame]), hsame]
  rfl

theorem neg_ofParts {c : Nat} (hc : c < 2 ^ 63) : (ofParts false c).neg = ofParts true c := by
  rw [Binary64.neg, isNegative_ofParts hc, magnitude_ofParts hc]
  rfl

/-! ## Literals -/

namespace Literal

/-- A literal without fraction and exponent that fits 64 bits. -/
structure IsInteger (l : Literal) : Prop where
  fraction_eq : l.fraction = none
  exponent_eq : l.exponent = none
  fits : Fits l.negative l.whole

/-- What is kept of a literal without its exponent: a digit that is dropped before the point counts
as a factor of ten. -/
inductive Keeps (l : Literal) : Scaled → Prop where
  | mk {whole dropped fraction lost : List Char} (hwhole : l.whole = whole ++ dropped)
      (hfraction : l.fraction.getD [] = fraction ++ lost) (hfirst : Fills (2 ^ 64) 0 whole dropped)
      (hthen : Fills (2 ^ 64) (Nat.ofDigitChars 10 whole 0) fraction lost) :
      Keeps l ⟨Nat.ofDigitChars 10 (whole ++ fraction) 0, dropped.length - fraction.length⟩

/-- The power of ten that the exponent stands for, or the nullth. -/
def power (l : Literal) : Int := (l.exponent.map Exponent.value).getD 0

/-- A number with the sign of the literal. -/
def withSign (l : Literal) (x : Binary64) : Binary64 := if l.negative then x.neg else x

/-- The number that a literal makes of what is kept of it.  An exponent of more than 31 bits is as
good as infinite. -/
inductive Rounds (l : Literal) : Scaled → Binary64 → Prop where
  | zero {e : Int} : Rounds l ⟨0, e⟩ (l.withSign .zero)
  | scaled {s : Nat} {e : Int} {y : Binary64} (hs : s ≠ 0)
      (hpower : ∀ x ∈ l.exponent, Nat.ofDigitChars 10 x.digits 0 < 2 ^ 31)
      (h : Scales (.ofRatio false s 1) (e + l.power) y) : Rounds l ⟨s, e⟩ (l.withSign y)
  | tiny {d : Scaled} {x : Exponent} (hx : x ∈ l.exponent) (hnegative : x.negative = true)
      (hbeyond : 2 ^ 31 ≤ Nat.ofDigitChars 10 x.digits 0) : Rounds l d (l.withSign .zero)

/-- The binary number that a literal is read as, if it is read as one. -/
def RoundsTo (l : Literal) (x : Binary64) : Prop := ∃ d, l.Keeps d ∧ l.Rounds d x

theorem exists_keeps (l : Literal) : ∃ d, l.Keeps d := by
  obtain ⟨whole, dropped, hwhole, hfirst⟩ := exists_fills (2 ^ 64) 0 l.whole
  obtain ⟨fraction, lost, hfraction, hthen⟩ :=
    exists_fills (2 ^ 64) (Nat.ofDigitChars 10 whole 0) (l.fraction.getD [])
  exact ⟨_, .mk hwhole hfraction hfirst hthen⟩

section

variable {l : Literal} {s : Nat} {e : Int}

theorem scaled_of_lt (h : ∀ x ∈ l.exponent, Nat.ofDigitChars 10 x.digits 0 < 2 ^ 31) :
    l.scaled s e = match scale? s (e + l.power) with
      | some y => .ok (.float (l.withSign y))
      | none => .error 0 := by
  unfold scaled power
  cases hexponent : l.exponent with
  | none =>
      rw [Option.map_none, Option.getD_none, Int.add_zero]
      rfl
  | some x =>
      have hsum : (if x.negative then e - Nat.ofDigitChars 10 x.digits 0
          else e + Nat.ofDigitChars 10 x.digits 0) = e + x.value := by
        unfold Exponent.value
        split <;> omega
      simp only [gather_of_lt (h x hexponent), hsum, Option.map_some, Option.getD_some]
      rfl

theorem scaled_of_beyond {x : Exponent} (hx : l.exponent = some x)
    (hbeyond : 2 ^ 31 ≤ Nat.ofDigitChars 10 x.digits 0) :
    (∃ unread, l.scaled s e = .error unread) ∧ s ≠ 0 ∧ x.negative = false ∨
      l.scaled s e = .ok (.float (l.withSign .zero)) ∧ (s = 0 ∨ x.negative = true) := by
  have hleft : (gather (2 ^ 31) 0 x.digits).2 ≠ [] := by
    rw [ne_eq, gather_snd_eq_nil_iff (by decide)]
    exact Nat.not_lt.2 hbeyond
  unfold scaled
  rcases hgather : gather (2 ^ 31) 0 x.digits with ⟨k, _ | ⟨c, unread⟩⟩
  · rw [hgather] at hleft
    exact absurd rfl hleft
  · simp only [hx, hgather]
    by_cases htoo : s ≠ 0 ∧ !x.negative
    · rw [if_pos htoo]
      exact .inl ⟨⟨_, rfl⟩, htoo.1, by simpa using htoo.2⟩
    · rw [if_neg htoo]
      refine .inr ⟨rfl, ?_⟩
      by_cases hs : s = 0
      · exact .inl hs
      · exact .inr (by simpa [hs] using htoo)

theorem scaled_eq_float_iff_of_lt
    (hpower : ∀ p ∈ l.exponent, Nat.ofDigitChars 10 p.digits 0 < 2 ^ 31) {x : Binary64} :
    l.scaled s e = .ok (.float x) ↔ l.Rounds ⟨s, e⟩ x := by
  rw [scaled_of_lt hpower]
  by_cases hs : s = 0
  · subst hs
    simp only [scale?_zero]
    constructor
    · intro h
      cases h
      exact .zero
    · intro h
      cases h with
      | zero => rfl
      | scaled hs => exact absurd rfl hs
      | tiny => rfl
  · constructor
    · intro h
      split at h
      · rename_i y hy
        cases h
        exact .scaled hs hpower ((scale?_eq_some_iff hs).1 hy)
      · cases h
    · intro h
      cases h with
      | zero => exact absurd rfl hs
      | scaled _ _ h => rw [(scale?_eq_some_iff hs).2 h]
      | tiny hp _ hbeyond => exact absurd (hpower _ hp) (Nat.not_lt.2 hbeyond)

theorem scaled_eq_float_iff_of_beyond {p : Exponent} (hp : l.exponent = some p)
    (hbeyond : 2 ^ 31 ≤ Nat.ofDigitChars 10 p.digits 0) {x : Binary64} :
    l.scaled s e = .ok (.float x) ↔ l.Rounds ⟨s, e⟩ x := by
  rcases scaled_of_beyond (s := s) (e := e) hp hbeyond with
    ⟨⟨unread, herror⟩, hs, hpositive⟩ | ⟨hzero, hsmall⟩
  · rw [herror]
    constructor
    · intro h
      cases h
    · intro h
      cases h with
      | zero => exact absurd rfl hs
      | scaled _ hpower => exact absurd (hpower p hp) (Nat.not_lt.2 hbeyond)
      | tiny hother hnegative =>
          cases Option.mem_unique hp hother
          exact absurd hnegative (by simp [hpositive])
  · rw [hzero]
    constructor
    · intro h
      cases h
      rcases hsmall with rfl | hnegative
      · exact .zero
      · exact .tiny hp hnegative hbeyond
    · intro h
      cases h with
      | zero => rfl
      | scaled _ hpower => exact absurd (hpower p hp) (Nat.not_lt.2 hbeyond)
      | tiny => rfl

end

theorem scaled_eq_float_iff {l : Literal} {d : Scaled} {x : Binary64} :
    l.scaled d.digits d.exponent = .ok (.float x) ↔ l.Rounds d x := by
  by_cases hpower : ∀ p ∈ l.exponent, Nat.ofDigitChars 10 p.digits 0 < 2 ^ 31
  · exact scaled_eq_float_iff_of_lt hpower
  · simp only [not_forall, Nat.not_lt] at hpower
    obtain ⟨p, hp, hbeyond⟩ := hpower
    exact scaled_eq_float_iff_of_beyond hp hbeyond

/-- Digits alone that do not fit make a number beyond the signed ones, or a zero with a sign. -/
theorem negative_of_not_isInteger {l : Literal} (h : ¬ l.IsInteger) (hfraction : l.fraction = none)
    (hexponent : l.exponent = none) (hlt : Nat.ofDigitChars 10 l.whole 0 < 2 ^ 64) :
    l.negative = true ∧
      (Nat.ofDigitChars 10 l.whole 0 = 0 ∨ 2 ^ 63 < Nat.ofDigitChars 10 l.whole 0) := by
  cases hnegative : l.negative with
  | false =>
      refine absurd ⟨hfraction, hexponent, fun hzero => ?_, ?_, ?_⟩ h
      · rw [hnegative] at hzero
        exact Bool.false_ne_true hzero.1
      · simp only [wholeNumber, hnegative, Bool.false_eq_true, if_false]
        omega
      · simp only [wholeNumber, hnegative, Bool.false_eq_true, if_false]
        omega
  | true =>
      refine ⟨rfl, ?_⟩
      by_contra hsmall
      refine h ⟨hfraction, hexponent, fun hzero => hsmall (.inl ?_), ?_, ?_⟩
      · rw [hzero.2]
        rfl
      · simp only [wholeNumber, hnegative, if_true]
        omega
      · simp only [wholeNumber, hnegative, if_true]
        omega

theorem value_of_keeps {l : Literal} {d : Scaled} (hkept : l.Keeps d) (h : ¬ l.IsInteger) :
    l.value = l.scaled d.digits d.exponent := by
  obtain @⟨whole, dropped, fraction, lost, hwhole, hfraction, hfirst, hthen⟩ := hkept
  unfold value
  simp only [hwhole, gather_of_fills hfirst, hfraction, gather_of_fills hthen]
  split
  · rename_i hplain
    obtain ⟨hnofraction, hnoexponent, rfl⟩ := hplain
    rw [hnofraction] at hfraction
    obtain ⟨rfl, rfl⟩ := List.append_eq_nil_iff.1 hfraction.symm
    rw [List.append_nil] at hwhole ⊢
    have hlt := hfirst.lt (by decide)
    rw [← hwhole] at hlt ⊢
    obtain ⟨hnegative, hlarge⟩ := negative_of_not_isInteger h hnofraction hnoexponent hlt
    have hpower : l.power = 0 := by rw [power, hnoexponent]; rfl
    rw [wholeValue, if_pos hnegative, if_pos hlarge,
      scaled_of_lt fun x hx => absurd (hnoexponent.symm.trans hx) (by simp), hpower]
    simp only [List.length_nil, Int.sub_self, Int.add_zero, scale?_nullth hlt, withSign, hnegative,
      if_true]
  · have hlength : (fraction ++ lost).length - lost.length = fraction.length := by
      rw [List.length_append, Nat.add_sub_cancel]
    rw [hlength, Nat.ofDigitChars_append]

theorem IsInteger.value_eq {l : Literal} (h : l.IsInteger) (hwhole : IsWhole l.whole) :
    l.value = .ok (.integer (wholeNumber l.negative l.whole)) := by
  obtain ⟨negative, whole, fraction, exponent⟩ := l
  obtain ⟨rfl, rfl, hfits⟩ := h
  exact value_of_fits hwhole hfits

theorem value_eq_float_iff {l : Literal} (hwhole : IsWhole l.whole) {x : Binary64} :
    l.value = .ok (.float x) ↔ ¬ l.IsInteger ∧ l.RoundsTo x := by
  constructor
  · intro hvalue
    have hinteger : ¬ l.IsInteger := fun h => by
      cases hvalue.symm.trans (h.value_eq hwhole)
    obtain ⟨d, hkept⟩ := l.exists_keeps
    rw [value_of_keeps hkept hinteger] at hvalue
    exact ⟨hinteger, d, hkept, scaled_eq_float_iff.1 hvalue⟩
  · rintro ⟨hinteger, d, hkept, hx⟩
    rw [value_of_keeps hkept hinteger]
    exact scaled_eq_float_iff.2 hx

theorem value_eq_integer_iff {l : Literal} (hwhole : IsWhole l.whole) {n : Int} :
    l.value = .ok (.integer n) ↔ l.IsInteger ∧ n = wholeNumber l.negative l.whole := by
  constructor
  · intro hvalue
    by_cases h : l.IsInteger
    · refine ⟨h, ?_⟩
      cases hvalue.symm.trans (h.value_eq hwhole)
      rfl
    · obtain ⟨d, hkept⟩ := l.exists_keeps
      rw [value_of_keeps hkept h] at hvalue
      exact absurd hvalue (scaled_ne_integer _ _ _ _)
  · rintro ⟨h, rfl⟩
    exact h.value_eq hwhole

/-! ### Exact digits and powers -/

theorem Keeps.eq_decimal {l : Literal} {d : Scaled} (h : l.Keeps d)
    (hfew : l.decimal.digits < 2 ^ 64) :
    d.digits = l.decimal.digits ∧ d.exponent + l.power = l.decimal.exponent := by
  obtain @⟨whole, dropped, fraction, lost, hwhole, hfraction, hfirst, hthen⟩ := h
  rw [decimal, hwhole, hfraction, Nat.ofDigitChars_append] at hfew
  have hdropped : dropped = [] :=
    hfirst.left_eq_nil (Nat.lt_of_le_of_lt (le_ofDigitChars _ _) hfew)
  rw [hdropped, List.append_nil] at hfew hwhole
  have hlost : lost = [] := hthen.left_eq_nil hfew
  rw [hlost, List.append_nil] at hfraction
  rw [decimal, hwhole, hfraction, hdropped, power]
  refine ⟨rfl, ?_⟩
  simp only [List.length_nil]
  omega

theorem withSign_ofParts (l : Literal) {c : Nat} (hc : c < 2 ^ 63) :
    l.withSign (ofParts false c) = ofParts l.negative c := by
  unfold withSign
  cases l.negative with
  | true => exact neg_ofParts hc
  | false => rfl

theorem nearest_lt_of_num_le {d : Scaled} {top : Nat} (hnum : d.num ≤ top)
    (htop : 2 * (top * one) < midpoint (infinityBits - 1)) :
    nearest d.num d.den < infinityBits := by
  have hmono : nearest d.num d.den ≤ wholeBits d.num :=
    nearest_mono (Scaled.den_pos d) Nat.one_pos (Nat.mul_le_mul_left _ (Scaled.den_pos d))
  exact Nat.lt_of_le_of_lt hmono (wholeBits_finite hnum htop)

theorem nearest_finite_of_exact {d : Scaled} (hdigits : d.digits ≤ 2 ^ 53)
    (hexponent : d.exponent.natAbs ≤ 22) : nearest d.num d.den < infinityBits := by
  have hnum : d.num ≤ 2 ^ 53 * 10 ^ 22 :=
    Nat.mul_le_mul hdigits (Nat.pow_le_pow_right (by decide) (by omega))
  exact nearest_lt_of_num_le hnum (by decide +kernel)

theorem scale?_of_exact {d : Scaled} (hpos : 0 < d.digits) (hdigits : d.digits ≤ 2 ^ 53)
    (hexponent : d.exponent.natAbs ≤ 22) :
    scale? d.digits d.exponent = some (ofParts false (nearest d.num d.den)) := by
  have hfew : d.digits < 2 ^ 64 := by omega
  have hnone := losses_eq_zero hdigits hexponent
  have hfinite : nearest d.num d.den + losses d < infinityBits := by
    rw [hnone, Nat.add_zero]
    exact nearest_finite_of_exact hdigits hexponent
  have hnear : ReadsNear d (losses d) := by
    by_cases hneg : d.exponent < 0
    · exact readsNear_of_neg hpos hfew hneg (by omega) hfinite
    · exact readsNear_of_nonneg hpos hfew (by omega) (by omega) hfinite
  obtain ⟨c, hread, -, habove, hbelow⟩ := hnear
  have hsame : c = nearest d.num d.den := by omega
  rw [hread, hsame]

/-- Where the digits and the power are exact, the number is the one nearest to the decimal. -/
theorem RoundsTo.eq_nearest {l : Literal} {x : Binary64} (h : l.RoundsTo x)
    (hdigits : l.decimal.digits ≤ 2 ^ 53) (hexponent : l.decimal.exponent.natAbs ≤ 22) :
    x = .ofRatio l.negative l.decimal.num l.decimal.den := by
  obtain ⟨d, hkept, hrounds⟩ := h
  obtain ⟨hsame, hplace⟩ := hkept.eq_decimal (by omega)
  rw [Binary64.ofRatio, ← l.withSign_ofParts (nearest_lt _ _)]
  cases hrounds with
  | zero =>
      rw [Scaled.num, ← hsame, Nat.zero_mul, nearest_zero (Scaled.den_pos _)]
      rfl
  | @scaled s e y hs hpower hscales =>
      have hread := (scale?_eq_some_iff hs).2 hscales
      dsimp only at hsame hplace
      rw [hplace, hsame, scale?_of_exact (by omega) hdigits hexponent] at hread
      cases hread
      rfl
  | @tiny _ p hp hnegative hbeyond =>
      have hsmall : l.power ≤ -2 ^ 31 := by
        rw [power, show l.exponent = some p from hp, Option.map_some, Option.getD_some,
          Exponent.value, if_pos hnegative]
        omega
      have hplace : l.decimal.exponent = l.power - (l.fraction.getD []).length := rfl
      omega

theorem exists_roundsTo {l : Literal} (hdigits : l.decimal.digits ≤ 2 ^ 53)
    (hexponent : l.decimal.exponent.natAbs ≤ 22)
    (hpower : ∀ x ∈ l.exponent, Nat.ofDigitChars 10 x.digits 0 < 2 ^ 31) : ∃ x, l.RoundsTo x := by
  obtain ⟨⟨s, e⟩, hkept⟩ := l.exists_keeps
  obtain ⟨hsame, hplace⟩ := hkept.eq_decimal (by omega)
  dsimp only at hsame hplace
  by_cases hs : s = 0
  · subst hs
    exact ⟨_, _, hkept, .zero⟩
  · have hread := scale?_of_exact (by omega) hdigits hexponent
    rw [← hsame, ← hplace] at hread
    exact ⟨_, _, hkept, .scaled hs hpower ((scale?_eq_some_iff hs).1 hread)⟩

theorem roundsTo_nearest {l : Literal} (hdigits : l.decimal.digits ≤ 2 ^ 53)
    (hexponent : l.decimal.exponent.natAbs ≤ 22)
    (hpower : ∀ x ∈ l.exponent, Nat.ofDigitChars 10 x.digits 0 < 2 ^ 31) :
    l.RoundsTo (.ofRatio l.negative l.decimal.num l.decimal.den) := by
  obtain ⟨x, hx⟩ := exists_roundsTo hdigits hexponent hpower
  rwa [← hx.eq_nearest hdigits hexponent]

end Literal

end FixedWidth.Json
