import FixedWidth.Proofs.Json.WholeNumber
import Mathlib.Data.List.Induction

/-!
# Literals of digits alone

Digits without a superfluous zero in front are the decimal form of what they denote.  A literal of
such digits denotes a whole number exactly if that fits 64 bits, signed or unsigned, and is written
in no other way; otherwise it is taken for a binary number.
-/

namespace FixedWidth.Json

/-! ## Digits and their value -/

theorem digitValue_lt {c : Char} (h : c.isDigit = true) : Decimal.digitValue c < 10 := by
  have hrange : 0x30 ≤ c.toNat ∧ c.toNat ≤ 0x39 := by
    simpa [Char.isDigit, UInt32.le_iff_toNat_le] using h
  rw [Decimal.digitValue]
  omega

theorem digitChar_digitValue {c : Char} (h : c.isDigit = true) :
    Nat.digitChar (Decimal.digitValue c) = c := by
  have hrange : 0x30 ≤ c.toNat ∧ c.toNat ≤ 0x39 := by
    simpa [Char.isDigit, UInt32.le_iff_toNat_le] using h
  apply Char.toNat_inj.1
  rw [Nat.toNat_digitChar_of_lt_ten (digitValue_lt h), Decimal.digitValue]
  omega

theorem ofDigitChars_pos {ds : List Char} (h : IsWhole ds) (hzero : ds ≠ ['0']) :
    0 < Nat.ofDigitChars 10 ds 0 := by
  obtain ⟨d, ds, rfl⟩ := List.exists_cons_of_ne_nil h.ne_nil
  have hd : d.isDigit = true := h.isDigit d List.mem_cons_self
  have hvalue : Decimal.digitValue d ≠ 0 := by
    intro hv
    have hchar := digitChar_digitValue hd
    rw [hv] at hchar
    exact hzero (h.eq_of_head (by rw [← hchar]; rfl))
  rw [Nat.ofDigitChars_cons, Nat.mul_zero, Nat.zero_add]
  exact Nat.lt_of_lt_of_le (Nat.pos_of_ne_zero hvalue) (le_ofDigitChars ds _)

theorem ofDigitChars_eq_zero_iff {ds : List Char} (h : IsWhole ds) :
    Nat.ofDigitChars 10 ds 0 = 0 ↔ ds = ['0'] := by
  constructor
  · intro hvalue
    by_contra hzero
    have hpos := ofDigitChars_pos h hzero
    omega
  · rintro rfl
    rfl

/-- The digits of a whole number are read back from its value. -/
theorem toDigits_ofDigitChars {ds : List Char} (h : IsWhole ds) :
    Nat.toDigits 10 (Nat.ofDigitChars 10 ds 0) = ds := by
  induction ds using List.reverseRecOn with
  | nil => exact absurd rfl h.ne_nil
  | append_singleton ds d ih =>
      have hd : d.isDigit = true := h.isDigit d (List.mem_append_right ds List.mem_cons_self)
      have hlast : Nat.toDigits 10 (Decimal.digitValue d) = [d] := by
        rw [Nat.toDigits_of_lt_base (digitValue_lt hd), digitChar_digitValue hd]
      have hvalue : Nat.ofDigitChars 10 (ds ++ [d]) 0 =
          10 * Nat.ofDigitChars 10 ds 0 + Decimal.digitValue d := by
        rw [Nat.ofDigitChars_append, Nat.ofDigitChars_cons, Nat.ofDigitChars_nil]
        rfl
      rw [hvalue]
      by_cases hnil : ds = []
      · subst hnil
        simpa using hlast
      · have hwhole : IsWhole ds := by
          refine ⟨hnil, fun c hc => h.isDigit c (List.mem_append_left [d] hc), fun hhead => ?_⟩
          have hlong := h.eq_of_head (by rw [List.head?_append, hhead]; rfl)
          have hlength := congrArg List.length hlong
          rw [List.length_append] at hlength
          exact absurd (List.length_eq_zero_iff.1 (Nat.succ.inj hlength)) hnil
        have hzero : ds ≠ ['0'] := by
          rintro rfl
          have hlong := h.eq_of_head rfl
          simp at hlong
        rw [← Nat.toDigits_append_toDigits (by decide) (ofDigitChars_pos hwhole hzero)
          (digitValue_lt hd), ih hwhole, hlast]

/-! ## What is gathered -/

/-- No digit is left exactly if the value of all of them is below the bound. -/
theorem gather_snd_eq_nil_iff {bound n : Nat} (hn : n < bound) (ds : List Char) :
    (gather bound n ds).2 = [] ↔ Nat.ofDigitChars 10 ds n < bound := by
  constructor
  · intro h
    induction ds generalizing n with
    | nil => exact hn
    | cons d ds ih =>
        rw [gather] at h
        split at h
        · rename_i hd
          rw [Nat.ofDigitChars_cons]
          exact ih hd h
        · cases h
  · intro h
    rw [gather_of_lt h]

/-! ## What is denoted -/

/-- The whole number that a sign and digits stand for. -/
def wholeNumber (negative : Bool) (ds : List Char) : Int :=
  if negative then -(Nat.ofDigitChars 10 ds 0 : Int) else Nat.ofDigitChars 10 ds 0

theorem scaled_ne_integer (l : Literal) (significand : Nat) (e : Int) (n : Int) :
    l.scaled significand e ≠ .ok (.integer n) := by
  intro h
  unfold Literal.scaled at h
  dsimp only at h
  split at h
  · split at h <;> cases h
  · split at h
    · split at h <;> cases h
    · split at h <;> cases h

/-- A literal of digits alone that is not `-0` denotes a whole number if it fits. -/
structure Fits (negative : Bool) (ds : List Char) : Prop where
  not_minus_zero : ¬ (negative = true ∧ ds = ['0'])
  least : -2 ^ 63 ≤ wholeNumber negative ds
  most : wholeNumber negative ds < 2 ^ 64

theorem value_of_fits {negative : Bool} {ds : List Char} (hds : IsWhole ds)
    (h : Fits negative ds) :
    Literal.value ⟨negative, ds, none, none⟩ = .ok (.integer (wholeNumber negative ds)) := by
  obtain ⟨hzero, hleast, hmost⟩ := h
  cases negative with
  | true =>
      have hne : Nat.ofDigitChars 10 ds 0 ≠ 0 := fun hvalue =>
        hzero ⟨rfl, (ofDigitChars_eq_zero_iff hds).1 hvalue⟩
      simp only [wholeNumber, if_true] at hleast hmost ⊢
      have hsmall : ¬ (Nat.ofDigitChars 10 ds 0 = 0 ∨ 2 ^ 63 < Nat.ofDigitChars 10 ds 0) := by omega
      rw [value_of_whole (by omega)]
      simp only [Literal.wholeValue, if_true, if_neg hsmall]
  | false =>
      simp only [wholeNumber, Bool.false_eq_true, if_false] at hmost ⊢
      rw [value_of_whole (by omega)]
      rfl

/-- If it does not fit, it denotes a binary number, or one that is out of range. -/
theorem value_of_not_fits {negative : Bool} {ds : List Char} (h : ¬ Fits negative ds) :
    (∃ x, Literal.value ⟨negative, ds, none, none⟩ = .ok (.float x)) ∨
      Literal.value ⟨negative, ds, none, none⟩ = .error 0 := by
  by_cases hlt : Nat.ofDigitChars 10 ds 0 < 2 ^ 64
  · rw [value_of_whole hlt]
    left
    cases negative with
    | true =>
        have hbinary : Nat.ofDigitChars 10 ds 0 = 0 ∨ 2 ^ 63 < Nat.ofDigitChars 10 ds 0 := by
          by_contra hsmall
          refine h ⟨fun hzero => hsmall (.inl (hzero.2 ▸ rfl)), ?_, ?_⟩ <;>
            simp only [wholeNumber, if_true] <;> omega
        exact ⟨_, by simp only [Literal.wholeValue, if_true, if_pos hbinary]; rfl⟩
    | false =>
        refine absurd ⟨fun hzero => Bool.false_ne_true hzero.1, ?_, ?_⟩ h <;>
          simp only [wholeNumber, Bool.false_eq_true, if_false] <;> omega
  · have hdropped : ¬ ((none : Option (List Char)) = none ∧ (none : Option Exponent) = none ∧
        (gather (2 ^ 64) 0 ds).2 = []) := by
      rw [gather_snd_eq_nil_iff (by decide)]
      exact fun hall => hlt hall.2.2
    unfold Literal.value
    dsimp only
    rw [if_neg hdropped]
    unfold Literal.scaled
    dsimp only
    split
    · exact .inl ⟨_, rfl⟩
    · exact .inr rfl

end FixedWidth.Json
