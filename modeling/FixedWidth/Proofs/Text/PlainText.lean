import FixedWidth.Proofs.Text.EscapedText
import FixedWidth.Proofs.Text.UnprintableRanges
import Mathlib.Tactic.TFAE

/-!
# Text that stands for itself

A character that is not plain takes two characters at the least when it is escaped, so a text is as
long as its escaped form only if it is its escaped form.  That is so for the printable texts without
double quotes and backslashes.
-/

namespace FixedWidth.Text

/-! ## Plain characters -/

/-- The character stands for itself in an escaped text. -/
def IsPlain (c : Char) : Prop := escapeChar c = [c]

instance : DecidablePred IsPlain := fun c => inferInstanceAs (Decidable (escapeChar c = [c]))

theorem isPlain_of_ascii {c : Char} (hleast : 0x20 ≤ c.toNat) (hmost : c.toNat < 0x7F)
    (hquote : c ≠ '"') (hslash : c ≠ '\\') : IsPlain c :=
  escapeChar_of_printable (isUnprintable_eq_false_of_ascii hleast hmost) hquote hslash

theorem isPlain_of_isDigit {c : Char} (h : c.isDigit = true) : IsPlain c := by
  have hrange : 0x30 ≤ c.toNat ∧ c.toNat ≤ 0x39 := by
    simpa [Char.isDigit, UInt32.le_iff_toNat_le] using h
  refine isPlain_of_ascii (by omega) (by omega) ?_ ?_
  · rintro rfl
    exact absurd h (by decide)
  · rintro rfl
    exact absurd h (by decide)

theorem isPlain_of_mem_toDigits {n : Nat} {c : Char} (h : c ∈ Nat.toDigits 10 n) : IsPlain c :=
  isPlain_of_isDigit (Nat.isDigit_of_mem_toDigits (by decide) (by decide) h)

theorem isPlain_of_all {s : List Char} (h : s.all (IsPlain ·) = true) : ∀ c ∈ s, IsPlain c := by
  simpa using h

theorem escapeChars_of_isPlain {s : List Char} (h : ∀ c ∈ s, IsPlain c) : escapeChars s = s := by
  induction s with
  | nil => rfl
  | cons c s ih =>
      have hc : escapeChar c = [c] := h c List.mem_cons_self
      rw [escapeChars_cons, hc, ih fun d hd => h d (List.mem_cons_of_mem c hd),
        List.singleton_append]

theorem isPlain_iff {c : Char} :
    IsPlain c ↔ isUnprintable c = false ∧ c ≠ '"' ∧ c ≠ '\\' := by
  constructor
  · intro h
    refine ⟨?_, ?_, ?_⟩
    · apply isUnprintable_of_mem_escapeChar (c := c)
      rw [h]
      exact List.mem_singleton_self c
    · rintro rfl
      exact absurd h (by decide)
    · rintro rfl
      exact absurd h (by decide)
  · rintro ⟨hprintable, hquote, hslash⟩
    exact escapeChar_of_printable hprintable hquote hslash

/-! ## Lengths -/

theorem two_le_length_escapeChar {c : Char} (h : ¬ IsPlain c) : 2 ≤ (escapeChar c).length := by
  unfold IsPlain at h
  unfold escapeChar at h ⊢
  cases hletter : letterOf? c with
  | some l => exact Nat.le_refl 2
  | none =>
      rw [hletter] at h
      by_cases hprintable : isUnprintable c = true
      · rw [if_pos hprintable]
        simp only [List.length_append, List.length_cons]
        omega
      · exact absurd (if_neg hprintable) h

theorem length_escapeChar_pos (c : Char) : 1 ≤ (escapeChar c).length := by
  by_cases h : IsPlain c
  · rw [show escapeChar c = [c] from h]
    exact Nat.le_refl 1
  · exact Nat.le_of_succ_le (two_le_length_escapeChar h)

theorem length_le_length_escapeChars (s : List Char) : s.length ≤ (escapeChars s).length := by
  induction s with
  | nil => exact Nat.le_refl 0
  | cons c s ih =>
      have hc := length_escapeChar_pos c
      rw [escapeChars_cons, List.length_append, List.length_cons]
      omega

theorem isPlain_of_length_escapeChars {s : List Char} (h : (escapeChars s).length = s.length) :
    ∀ c ∈ s, IsPlain c := by
  induction s with
  | nil => simp
  | cons c s ih =>
      have hs := length_le_length_escapeChars s
      rw [escapeChars_cons, List.length_append, List.length_cons] at h
      have hc : IsPlain c := by
        by_contra hc
        have htwo := two_le_length_escapeChar hc
        omega
      have hpos := length_escapeChar_pos c
      intro d hd
      rcases List.mem_cons.1 hd with rfl | hd
      · exact hc
      · exact ih (by omega) d hd

/-- A text is never longer than its escaped form.  It is its escaped form, and as long as that, if
and only if its characters are visible, do not extend others unless as halfwidth sound marks, and
are no double quotes and no backslashes.  The characters of an escaped form are always visible and,
but for these marks, never extend others. -/
theorem escape_unchanged_tfae (s : String) :
    s.length ≤ (escape s).length ∧
      [escape s = s,
        (escape s).length = s.length,
        ∀ c ∈ s.toList, isInvisible c = false ∧
          (extendsGrapheme c = true → isSoundMark c = true) ∧ c ≠ '"' ∧ c ≠ '\\'].TFAE ∧
      ∀ c ∈ (escape s).toList,
        isInvisible c = false ∧ (extendsGrapheme c = true → isSoundMark c = true) := by
  have hlength : (escape s).length = (escapeChars s.toList).length := by
    rw [escape, String.length_ofList]
  refine ⟨?_, ?_, ?_⟩
  · rw [hlength]
    exact length_le_length_escapeChars s.toList
  · tfae_have 1 → 2 := by
      intro h
      rw [h]
    tfae_have 2 → 3 := by
      intro h c hc
      rw [hlength] at h
      have hplain := isPlain_iff.1 (isPlain_of_length_escapeChars h c hc)
      rwa [isUnprintable_eq_false_iff, and_assoc] at hplain
    tfae_have 3 → 1 := by
      intro h
      have hplain : ∀ c ∈ s.toList, IsPlain c := by
        intro c hc
        rw [isPlain_iff, isUnprintable_eq_false_iff, and_assoc]
        exact h c hc
      rw [escape, escapeChars_of_isPlain hplain, String.ofList_toList]
    tfae_finish
  · intro c hc
    rw [escape, String.toList_ofList] at hc
    exact isUnprintable_eq_false_iff.1 (isUnprintable_of_mem_escapeChars hc)

/-- A halfwidth sound mark stays behind its letter; a combining accent is spelled out. -/
theorem escape_of_marked_letters :
    escape "\uFF8A\uFF9E" = "\uFF8A\uFF9E" ∧ "e\u0301".length < (escape "e\u0301").length := by
  obtain ⟨-, hsound, -⟩ := escape_unchanged_tfae "\uFF8A\uFF9E"
  obtain ⟨hle, haccent, -⟩ := escape_unchanged_tfae "e\u0301"
  constructor
  · apply (hsound.out 2 0).1
    have hall : ("\uFF8A\uFF9E".toList.all fun c => isInvisible c = false ∧
        (extendsGrapheme c = true → isSoundMark c = true) ∧ c ≠ '"' ∧ c ≠ '\\') = true := by
      decide +kernel
    intro c hc
    exact of_decide_eq_true (List.all_eq_true.1 hall c hc)
  · apply Nat.lt_of_le_of_ne hle
    intro heq
    have hplain := (haccent.out 1 2).1 heq.symm
    obtain ⟨-, hmark, -⟩ := hplain '\u0301' (by decide +kernel)
    exact absurd (hmark (by decide +kernel)) (by decide)

/-- A sound mark extends the grapheme before it, and it is not escaped for that. -/
theorem sound_mark_extends_unescaped :
    escape "\uFF9E" = "\uFF9E" ∧
      ¬ ∀ c ∈ "\uFF9E".toList,
        isInvisible c = false ∧ extendsGrapheme c = false ∧ c ≠ '"' ∧ c ≠ '\\' := by
  refine ⟨by decide +kernel, ?_⟩
  intro h
  have hextends : extendsGrapheme '\uFF9E' = true := by decide +kernel
  obtain ⟨-, hstands, -⟩ := h '\uFF9E' (by decide +kernel)
  rw [hextends] at hstands
  cases hstands

end FixedWidth.Text
