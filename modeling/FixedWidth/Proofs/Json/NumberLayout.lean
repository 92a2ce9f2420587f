import FixedWidth.Decimal.Style
import FixedWidth.Proofs.Decimal.ShortestDigits
import FixedWidth.Proofs.Json.WholeNumber

/-!
# How binary numbers are written

The layout of a decimal is a numeral, whatever style sets it out, as long as the mark before an
exponent is one that JSON knows.  The digits of the numeral, as one whole number, and the exponent
of the last of them are those of the decimal; only where zeros fill it up to the point, and one
follows, do they count as digits.  So a finite number is known by its text.
-/

namespace FixedWidth.Decimal.Style

/-- The digits and the exponent as they are written: a whole number is filled up to the point, and
a zero follows. -/
def written (st : Style) (d : Scaled) : Scaled :=
  let place := d.exponent + (Nat.toDigits 10 d.digits).length - 1
  if st.plainFrom ≤ place ∧ place < st.plainBelow ∧ 0 ≤ d.exponent then
    ⟨d.digits * 10 ^ (d.exponent.toNat + 1), -1⟩
  else d

/-- The decimal that a finite number is written as. -/
def decimal (st : Style) (x : Binary64) : Scaled :=
  if x.isZero then ⟨0, -1⟩ else st.written (Binary64.shortest st.tie x.magnitude)

end FixedWidth.Decimal.Style

namespace FixedWidth.Json

open Decimal (Binary64 Scaled Style)

/-! ## What the characters of a literal say -/

def Exponent.value (x : Exponent) : Int :=
  if x.negative then -(Nat.ofDigitChars 10 x.digits 0 : Int) else Nat.ofDigitChars 10 x.digits 0

namespace Literal

/-- All digits as one whole number, and the exponent of the last of them. -/
def decimal (l : Literal) : Scaled where
  digits := Nat.ofDigitChars 10 (l.whole ++ l.fraction.getD []) 0
  exponent := (l.exponent.map Exponent.value).getD 0 - (l.fraction.getD []).length

/-- The literal has a fraction or an exponent, and none of its digits is dropped. -/
structure IsShort (l : Literal) : Prop where
  marked : ¬ (l.fraction = none ∧ l.exponent = none)
  digits_lt : l.decimal.digits < 2 ^ 64
  exponent_lt : ∀ x ∈ l.exponent, Nat.ofDigitChars 10 x.digits 0 < 2 ^ 31

theorem IsShort.value_eq {l : Literal} (h : l.IsShort) {x : Binary64}
    (hx : scale? l.decimal.digits l.decimal.exponent = some x) :
    l.value = .ok (.float (l.signed x)) := by
  have happend := h.digits_lt
  rw [decimal, Nat.ofDigitChars_append] at happend
  have hwhole : Nat.ofDigitChars 10 l.whole 0 < 2 ^ 64 :=
    Nat.lt_of_le_of_lt (le_ofDigitChars _ _) happend
  rw [decimal, Nat.ofDigitChars_append] at hx
  dsimp only at hx happend
  unfold Literal.value Literal.scaled
  simp only [gather_of_lt hwhole, gather_of_lt happend, List.length_nil, Nat.sub_zero, and_true,
    h.marked, if_false]
  cases hexponent : l.exponent with
  | none =>
      rw [hexponent, Option.map_none, Option.getD_none] at hx
      simp only [Int.natCast_zero, hx]
  | some e =>
      rw [hexponent, Option.map_some, Option.getD_some] at hx
      have hsum : (if e.negative then
          ((0 : Nat) : Int) - (l.fraction.getD []).length - Nat.ofDigitChars 10 e.digits 0
          else ((0 : Nat) : Int) - (l.fraction.getD []).length + Nat.ofDigitChars 10 e.digits 0) =
            e.value - (l.fraction.getD []).length := by
        unfold Exponent.value
        split <;> omega
      simp only [gather_of_lt (h.exponent_lt e hexponent), hsum, hx]

end Literal

/-! ## Digits and zeros -/

theorem ofDigitChars_zeros (k : Nat) : Nat.ofDigitChars 10 (List.replicate k '0') 0 = 0 := by
  induction k with
  | zero => rfl
  | succ k ih =>
      rw [List.replicate_succ, Nat.ofDigitChars_cons]
      exact ih

theorem ofDigitChars_append_zeros (ds : List Char) (k : Nat) :
    Nat.ofDigitChars 10 (ds ++ List.replicate k '0') 0 = Nat.ofDigitChars 10 ds 0 * 10 ^ k := by
  rw [Nat.ofDigitChars_append, Nat.ofDigitChars_eq_ofDigitChars_zero, ofDigitChars_zeros,
    List.length_replicate, Nat.add_zero, Nat.mul_comm]

theorem ofDigitChars_zeros_append (k : Nat) (ds : List Char) :
    Nat.ofDigitChars 10 (List.replicate k '0' ++ ds) 0 = Nat.ofDigitChars 10 ds 0 := by
  rw [Nat.ofDigitChars_append, ofDigitChars_zeros]

theorem isDigit_of_mem_zeros {k : Nat} {c : Char} (h : c ∈ List.replicate k '0') :
    c.isDigit = true := by
  rw [List.eq_of_mem_replicate h]
  rfl

section

variable {n : Nat} {ds ds' : List Char}

theorem isWhole_of_prefix (hpos : 0 < n) (hds : Nat.toDigits 10 n = ds ++ ds') (hne : ds ≠ []) :
    IsWhole ds where
  ne_nil := hne
  isDigit c hc := (isWhole_toDigits n).isDigit c (hds ▸ List.mem_append_left ds' hc)
  eq_of_head hhead := by
    have hzero := head?_toDigits_ne hpos
    rw [hds, List.head?_append, hhead] at hzero
    exact absurd rfl hzero

theorem isWhole_take (hpos : 0 < n) {k : Nat} (hk : 0 < k) :
    IsWhole ((Nat.toDigits 10 n).take k) := by
  refine isWhole_of_prefix hpos (List.take_append_drop k _).symm fun hnil => ?_
  rcases List.take_eq_nil_iff.1 hnil with hzero | hempty
  · omega
  · exact Nat.toDigits_ne_nil hempty

theorem isWhole_append_zeros (hpos : 0 < n) (k : Nat) :
    IsWhole (Nat.toDigits 10 n ++ List.replicate k '0') where
  ne_nil := List.append_ne_nil_of_left_ne_nil Nat.toDigits_ne_nil _
  isDigit c hc := (List.mem_append.1 hc).elim ((isWhole_toDigits n).isDigit c) isDigit_of_mem_zeros
  eq_of_head hhead := by
    obtain ⟨d, ds, hds⟩ := List.exists_cons_of_ne_nil (Nat.toDigits_ne_nil (b := 10) (n := n))
    have hzero := head?_toDigits_ne hpos
    rw [hds] at hzero hhead
    exact absurd hhead hzero

end

/-! ## Layouts -/

/-- The literal is marked as a binary number and has this sign and this decimal, and an exponent, if
there is one, of that absolute value. -/
structure Literal.StandsFor (l : Literal) (negative : Bool) (d : Scaled) (place : Nat) : Prop where
  negative_eq : l.negative = negative
  marked : ¬ (l.fraction = none ∧ l.exponent = none)
  decimal_eq : l.decimal = d
  exponent_eq : ∀ x ∈ l.exponent, Nat.ofDigitChars 10 x.digits 0 = place

section

variable {negative : Bool} {n place : Nat} {rest : List Char}

theorem numeral_point {whole fraction : List Char} (hwhole : IsWhole whole)
    (hfraction : IsDigits fraction) (negative : Bool) (rest : List Char) :
    Numeral (sign negative ++ (whole ++ '.' :: fraction ++ rest))
      ⟨negative, whole, some fraction, none⟩ rest := by
  rw [List.append_assoc whole, List.cons_append]
  exact .mk hwhole (.digits hfraction) .absent

theorem standsFor_point (negative : Bool) (whole fraction : List Char) (place : Nat) :
    Literal.StandsFor ⟨negative, whole, some fraction, none⟩ negative
      ⟨Nat.ofDigitChars 10 (whole ++ fraction) 0, -fraction.length⟩ place where
  negative_eq := rfl
  marked := by simp
  decimal_eq := by simp [Literal.decimal]
  exponent_eq := by
    intro x hx
    cases hx

theorem exists_numeral_fraction (negative : Bool) (rest : List Char) (zeros n place : Nat) :
    ∃ l, Numeral (sign negative ++ (Style.fraction zeros (Nat.toDigits 10 n) ++ rest)) l rest ∧
      l.StandsFor negative ⟨n, -(zeros + (Nat.toDigits 10 n).length : Nat)⟩ place := by
  have hdigits : IsDigits (List.replicate zeros '0' ++ Nat.toDigits 10 n) :=
    ⟨List.append_ne_nil_of_right_ne_nil _ Nat.toDigits_ne_nil, fun c hc =>
      (List.mem_append.1 hc).elim isDigit_of_mem_zeros ((isWhole_toDigits n).isDigit c)⟩
  have hstands := standsFor_point negative ['0'] (List.replicate zeros '0' ++ Nat.toDigits 10 n)
    place
  have hvalue : Nat.ofDigitChars 10 (['0'] ++ (List.replicate zeros '0' ++ Nat.toDigits 10 n)) 0 =
      n := by
    rw [Nat.ofDigitChars_append]
    exact (ofDigitChars_zeros_append _ _).trans Nat.ofDigitChars_ten_toDigits
  rw [hvalue, List.length_append, List.length_replicate] at hstands
  exact ⟨_, numeral_point isWhole_zero hdigits negative rest, hstands⟩

theorem exists_numeral_positional (hpos : 0 < n) (negative : Bool) (rest : List Char) {whole : Nat}
    (hwhole : 0 < whole) (place : Nat) :
    ∃ l, Numeral (sign negative ++ (Style.positional whole (Nat.toDigits 10 n) ++ rest)) l rest ∧
      l.StandsFor negative (if (Nat.toDigits 10 n).length ≤ whole then
        ⟨n * 10 ^ (whole - (Nat.toDigits 10 n).length + 1), -1⟩
        else ⟨n, -((Nat.toDigits 10 n).length - whole : Nat)⟩) place := by
  unfold Style.positional
  split
  · rename_i hlong
    have hstands := standsFor_point negative
      (Nat.toDigits 10 n ++ List.replicate (whole - (Nat.toDigits 10 n).length) '0') ['0'] place
    have hvalue : Nat.ofDigitChars 10 (Nat.toDigits 10 n ++
        List.replicate (whole - (Nat.toDigits 10 n).length) '0' ++ ['0']) 0 =
          n * 10 ^ (whole - (Nat.toDigits 10 n).length + 1) := by
      rw [List.append_assoc, ← List.replicate_succ', ofDigitChars_append_zeros,
        Nat.ofDigitChars_ten_toDigits]
    rw [hvalue] at hstands
    exact ⟨_, numeral_point (isWhole_append_zeros hpos _) isWhole_zero.isDigits negative rest,
      hstands⟩
  · rename_i hshort
    have hstands := standsFor_point negative ((Nat.toDigits 10 n).take whole)
      ((Nat.toDigits 10 n).drop whole) place
    rw [List.take_append_drop, Nat.ofDigitChars_ten_toDigits, List.length_drop] at hstands
    have hlast : IsDigits ((Nat.toDigits 10 n).drop whole) := by
      refine ⟨fun hnil => ?_, fun c hc => (isWhole_toDigits n).isDigit c (List.mem_of_mem_drop hc)⟩
      have := List.drop_eq_nil_iff.1 hnil
      omega
    exact ⟨_, numeral_point (isWhole_take hpos hwhole) hlast negative rest, hstands⟩

section

variable {whole fraction mark : List Char} {x : Exponent}

theorem numeral_exponent (hwhole : IsWhole whole) (hfraction : ∀ c ∈ fraction, c.isDigit = true)
    (hmark : (mark, x.negative) ∈ exponentSigns) (hx : IsDigits x.digits) (negative : Bool)
    (rest : List Char) :
    Numeral (sign negative ++ (whole ++ (if fraction.isEmpty then [] else '.' :: fraction) ++
        'e' :: (mark ++ x.digits) ++ rest))
      ⟨negative, whole, if fraction.isEmpty then none else some fraction, some x⟩ rest := by
  have hpower : Power ('e' :: (mark ++ (x.digits ++ rest))) (some x) rest :=
    .exponent (.inl rfl) hmark hx
  simp only [List.append_assoc, List.cons_append]
  cases fraction with
  | nil => exact .mk hwhole .absent hpower
  | cons c fraction => exact .mk hwhole (.digits ⟨List.cons_ne_nil _ _, hfraction⟩) hpower

theorem standsFor_exponent (negative : Bool) (whole fraction : List Char) (x : Exponent) :
    Literal.StandsFor ⟨negative, whole, if fraction.isEmpty then none else some fraction, some x⟩
      negative ⟨Nat.ofDigitChars 10 (whole ++ fraction) 0, x.value - fraction.length⟩
      (Nat.ofDigitChars 10 x.digits 0) where
  negative_eq := rfl
  marked h := by cases h.2
  decimal_eq := by
    cases fraction with
    | nil => rfl
    | cons c fraction => rfl
  exponent_eq := by
    rintro y ⟨⟩
    rfl

end

variable {st : Style}

theorem exists_numeral_scientific (hplus : (st.plus.toList, false) ∈ exponentSigns) (hpos : 0 < n)
    (negative : Bool) (rest : List Char) (place : Int) :
    ∃ l, Numeral (sign negative ++ (st.scientific place (Nat.toDigits 10 n) ++ rest)) l rest ∧
      l.StandsFor negative ⟨n, place - ((Nat.toDigits 10 n).length - 1 : Nat)⟩ place.natAbs := by
  have hlast (c : Char) (hc : c ∈ (Nat.toDigits 10 n).drop 1) : c.isDigit = true :=
    (isWhole_toDigits n).isDigit c (List.mem_of_mem_drop hc)
  have hmark : (if place < 0 then ['-'] else st.plus.toList, decide (place < 0)) ∈
      exponentSigns := by
    by_cases hneg : place < 0
    · simp [hneg, exponentSigns]
    · simpa [hneg] using hplus
  have hvalue : Exponent.value ⟨decide (place < 0), Nat.toDigits 10 place.natAbs⟩ = place := by
    rw [Exponent.value, Nat.ofDigitChars_ten_toDigits]
    by_cases hneg : place < 0
    · simp only [hneg, decide_true, if_true]
      omega
    · simp only [hneg, decide_false, Bool.false_eq_true, if_false]
      omega
  have hstands := standsFor_exponent negative ((Nat.toDigits 10 n).take 1)
    ((Nat.toDigits 10 n).drop 1) ⟨decide (place < 0), Nat.toDigits 10 place.natAbs⟩
  rw [List.take_append_drop, hvalue, List.length_drop, Nat.ofDigitChars_ten_toDigits,
    Nat.ofDigitChars_ten_toDigits] at hstands
  have hnumeral := numeral_exponent (x := ⟨decide (place < 0), Nat.toDigits 10 place.natAbs⟩)
    (isWhole_take hpos Nat.one_pos) hlast hmark (isWhole_toDigits place.natAbs).isDigits negative
    rest
  rw [Style.scientific]
  exact ⟨_, hnumeral, hstands⟩

/-! ## The decimal of a layout -/

theorem exists_numeral_layout (hplus : (st.plus.toList, false) ∈ exponentSigns) {d : Scaled}
    (hpos : 0 < d.digits) (negative : Bool) (rest : List Char) :
    ∃ l, Numeral (sign negative ++ (st.layout d ++ rest)) l rest ∧
      l.StandsFor negative (st.written d)
        (d.exponent + (Nat.toDigits 10 d.digits).length - 1).natAbs := by
  have hlength : 0 < (Nat.toDigits 10 d.digits).length :=
    List.length_pos_iff.2 Nat.toDigits_ne_nil
  unfold Style.layout Style.written
  dsimp only
  generalize hplace : d.exponent + (Nat.toDigits 10 d.digits).length - 1 = place
  by_cases hplain : st.plainFrom ≤ place ∧ place < st.plainBelow
  · rw [if_pos hplain]
    by_cases hneg : place < 0
    · rw [if_pos hneg, if_neg (by omega)]
      have hexponent : -(((-place - 1).toNat + (Nat.toDigits 10 d.digits).length : Nat) : Int) =
          d.exponent := by omega
      have hfraction :=
        exists_numeral_fraction negative rest (-place - 1).toNat d.digits place.natAbs
      rwa [hexponent] at hfraction
    · rw [if_neg hneg]
      have hpositional := exists_numeral_positional hpos negative rest
        (by omega : 0 < (place + 1).toNat) place.natAbs
      -- the digits reach the point exactly if the last of them has no negative exponent
      by_cases hexponent : 0 ≤ d.exponent
      · have hzeros : (place + 1).toNat - (Nat.toDigits 10 d.digits).length = d.exponent.toNat := by
          omega
        rw [if_pos ⟨hplain.1, hplain.2, hexponent⟩]
        rwa [if_pos (by omega), hzeros] at hpositional
      · have hplaces : -(((Nat.toDigits 10 d.digits).length - (place + 1).toNat : Nat) : Int) =
            d.exponent := by
          omega
        rw [if_neg fun h => hexponent h.2.2]
        rwa [if_neg (by omega), hplaces] at hpositional
  · rw [if_neg hplain, if_neg fun h => hplain ⟨h.1, h.2.1⟩]
    have hscientific := exists_numeral_scientific hplus hpos negative rest place
    rwa [show place - ((Nat.toDigits 10 d.digits).length - 1 : Nat) = d.exponent by omega]
      at hscientific

end

end FixedWidth.Json

/-! ## Numbers as they are written -/

namespace FixedWidth.Decimal.Style

open Binary64 (nearest infinityBits shortest Spells spells_shortest)

variable {st : Style} {d : Scaled} {b : Nat}

theorem spells_written (h : Spells d b) (hst : st.plainBelow ≤ 16) : Spells (st.written d) b := by
  unfold written
  dsimp only
  split
  · rename_i hplain
    obtain ⟨-, hbelow, hexponent⟩ := hplain
    have hlt : d.digits < 10 ^ (Nat.toDigits 10 d.digits).length :=
      (Nat.length_toDigits_le_iff (by decide)
        (List.length_pos_iff.2 Nat.toDigits_ne_nil)).1 (Nat.le_refl _)
    have hmost : d.digits * 10 ^ (d.exponent.toNat + 1) ≤ 10 ^ 17 := by
      calc
        d.digits * 10 ^ (d.exponent.toNat + 1) ≤
            10 ^ (Nat.toDigits 10 d.digits).length * 10 ^ (d.exponent.toNat + 1) :=
          Nat.mul_le_mul_right _ (Nat.le_of_lt hlt)
        _ = 10 ^ ((Nat.toDigits 10 d.digits).length + (d.exponent.toNat + 1)) :=
          (Nat.pow_add _ _ _).symm
        _ ≤ 10 ^ 17 := Nat.pow_le_pow_right (by decide) (by omega)
    refine ⟨?_, Nat.mul_pos h.digits_pos (Nat.pow_pos (by decide)), ?_, ?_, ?_⟩
    · rw [← h.nearest_eq]
      refine Binary64.nearest_congr (Scaled.den_pos _) (Scaled.den_pos _) ?_
      have hden : d.den = 1 := by
        rw [Scaled.den, show (-d.exponent).toNat = 0 by omega, Nat.pow_zero]
      have hten : Scaled.den ⟨d.digits * 10 ^ (d.exponent.toNat + 1), -1⟩ = 10 := rfl
      have hnum : Scaled.num ⟨d.digits * 10 ^ (d.exponent.toNat + 1), -1⟩ =
          d.digits * 10 ^ (d.exponent.toNat + 1) := Nat.mul_one _
      rw [hden, hten, hnum, Nat.mul_one, Scaled.num, Nat.pow_succ, Nat.mul_assoc]
    · dsimp only
      omega
    · show (-324 : Int) ≤ -1
      decide
    · show (-1 : Int) ≤ 308
      decide
  · exact h

theorem written_of_le (h : st.plainBelow ≤ d.exponent) : st.written d = d := by
  have hlength : 0 < (Nat.toDigits 10 d.digits).length := List.length_pos_iff.2 Nat.toDigits_ne_nil
  unfold written
  dsimp only
  rw [if_neg]
  omega

/-! ## The decimal of a finite number -/

section

variable {x : Binary64} (hx : x.isFinite = true)

include hx

theorem magnitude_lt : x.magnitude < infinityBits :=
  of_decide_eq_true hx

theorem spells_decimal (hst : st.plainBelow ≤ 16) (hzero : x.isZero = false) :
    Spells (st.decimal x) x.magnitude := by
  have hpos : 0 < x.magnitude := Nat.pos_of_ne_zero (of_decide_eq_false hzero)
  rw [decimal, hzero, if_neg Bool.false_ne_true]
  exact spells_written (spells_shortest hpos (magnitude_lt hx) st.tie) hst

theorem nearest_decimal (hst : st.plainBelow ≤ 16) :
    nearest (st.decimal x).num (st.decimal x).den = x.magnitude := by
  cases hzero : x.isZero with
  | true =>
      have hmagnitude : x.magnitude = 0 := of_decide_eq_true hzero
      rw [decimal, hzero, hmagnitude, if_pos rfl]
      exact Binary64.nearest_zero (Scaled.den_pos _)
  | false => exact (spells_decimal hx hst hzero).nearest_eq

theorem digits_decimal_lt (hst : st.plainBelow ≤ 16) : (st.decimal x).digits < 2 ^ 64 := by
  cases hzero : x.isZero with
  | true =>
      rw [decimal, hzero, if_pos rfl]
      decide
  | false =>
      have := (spells_decimal hx hst hzero).digits_le
      omega

theorem exists_numeral_render (hplus : (st.plus.toList, false) ∈ Json.exponentSigns)
    (rest : List Char) :
    ∃ l place, Json.Numeral ((st.render x).toList ++ rest) l rest ∧
      l.StandsFor x.isNegative (st.decimal x) place ∧ place < 2 ^ 31 := by
  have hnan : x.isNaN = false := by
    have := magnitude_lt hx
    exact decide_eq_false (by omega)
  have hchars : (st.render x).toList = Json.sign x.isNegative ++
      if x.isZero then ['0', '.', '0'] else st.layout (shortest st.tie x.magnitude) := by
    rw [render, hnan, hx, if_neg Bool.false_ne_true, if_neg (by decide), String.toList_ofList]
    cases x.isNegative <;> rfl
  rw [hchars, decimal]
  cases hzero : x.isZero with
  | true =>
      rw [if_pos rfl, if_pos rfl, List.append_assoc]
      obtain ⟨l, hl, hstands⟩ := Json.exists_numeral_fraction x.isNegative rest 0 0 0
      exact ⟨l, 0, hl, hstands, by decide⟩
  | false =>
      have hpos : 0 < x.magnitude := Nat.pos_of_ne_zero (of_decide_eq_false hzero)
      have hspells := spells_shortest hpos (magnitude_lt hx) st.tie
      rw [if_neg Bool.false_ne_true, if_neg Bool.false_ne_true, List.append_assoc]
      obtain ⟨l, hl, hstands⟩ :=
        Json.exists_numeral_layout hplus hspells.digits_pos x.isNegative rest
      refine ⟨l, _, hl, hstands, ?_⟩
      have hlength : (Nat.toDigits 10 (shortest st.tie x.magnitude).digits).length ≤ 19 := by
        rw [Nat.length_toDigits_le_iff (by decide) (by decide)]
        have := hspells.digits_le
        omega
      have hleast := hspells.least
      have hmost := hspells.most
      omega

end

/-- A finite number is known by its text. -/
theorem render_inj (hst : st.plainBelow ≤ 16) (hplus : (st.plus.toList, false) ∈ Json.exponentSigns)
    {x y : Binary64} (hx : x.isFinite = true) (hy : y.isFinite = true)
    (h : st.render x = st.render y) : x = y := by
  obtain ⟨l, _, hl, hstands, _⟩ := exists_numeral_render hx hplus []
  obtain ⟨l', _, hl', hstands', _⟩ := exists_numeral_render hy hplus []
  have hread : Json.readLiteral .cutValue _ = .ok (l, []) := hl.read Json.endsNumber_nil
  rw [h, hl'.read Json.endsNumber_nil] at hread
  obtain rfl : l' = l := congrArg Prod.fst (Except.ok.inj hread)
  have hsign : x.isNegative = y.isNegative := hstands.negative_eq.symm.trans hstands'.negative_eq
  have hmagnitude : x.magnitude = y.magnitude := by
    rw [← nearest_decimal hx hst, ← nearest_decimal hy hst, ← hstands.decimal_eq,
      ← hstands'.decimal_eq]
  rw [← Binary64.ofParts_magnitude x, ← Binary64.ofParts_magnitude y, hsign, hmagnitude]

end FixedWidth.Decimal.Style
