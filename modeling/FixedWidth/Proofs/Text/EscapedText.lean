import FixedWidth.Text.Escape
import Mathlib.Data.List.DropRight

/-!
# Escaped text

Escaping writes each character on its own, and each is read back on its own, so two texts with one
escaped form are the same.  The quoted form is the escaped one between two bytes that are quotes.
An escaped form holds printable characters only, and it ends in as many spaces as the text does.
-/

namespace FixedWidth.Text

theorem ofLetter?_of_letterOf? {c l : Char} (h : letterOf? c = some l) :
    l ≠ 'u' ∧ ofLetter? l = some c := by
  unfold letterOf? at h
  split at h <;> cases h <;> exact ⟨by decide, rfl⟩

theorem control_or_eq_of_letterOf? {c l : Char} (h : letterOf? c = some l) :
    c.toNat < 0x20 ∨ c = '"' ∨ c = '\\' := by
  unfold letterOf? at h
  split at h <;> cases h <;> decide

/-! ## Reading back -/

theorem unescapeFrom_digitChar {d : Nat} (hd : d < 16) (n : Nat) (s : List Char) :
    unescapeFrom (.digits n) (Nat.digitChar d :: s) = unescapeFrom (.digits (16 * n + d)) s := by
  have hbrace : ∀ d < 16, Nat.digitChar d ≠ '\x7d' := by decide
  rw [unescapeFrom, hexValue?_digitChar hd]
  exact hbrace d hd

/-- The digits of a code point are read from the front, so the last of them is taken off in the
induction. -/
theorem unescapeFrom_toDigits (n : Nat) (s : List Char) :
    unescapeFrom (.digits 0) (Nat.toDigits 16 n ++ s) = unescapeFrom (.digits n) s := by
  induction n using Nat.strongRecOn generalizing s with
  | ind n ih =>
      by_cases hn : n < 16
      · rw [Nat.toDigits_of_lt_base hn, List.singleton_append, unescapeFrom_digitChar hn,
          Nat.mul_zero, Nat.zero_add]
      · rw [Nat.toDigits_of_base_le (by decide) (by omega), List.append_assoc,
          ih (n / 16) (by omega), List.singleton_append, unescapeFrom_digitChar (by omega),
          Nat.div_add_mod]

theorem unescapeFrom_escapeChar (c : Char) (s : List Char) :
    unescapeFrom .plain (escapeChar c ++ s) = (unescapeFrom .plain s).map (c :: ·) := by
  unfold escapeChar
  cases hletter : letterOf? c with
  | some l =>
      obtain ⟨hne, hl⟩ := ofLetter?_of_letterOf? hletter
      simp only [List.cons_append, List.nil_append, unescapeFrom, hl]
  | none =>
      by_cases hplain : isUnprintable c = true
      · have hvalid : c.toNat.isValidChar := c.valid
        simp only [if_pos hplain, List.append_assoc, List.cons_append, List.nil_append,
          unescapeFrom, unescapeFrom_toDigits, if_pos hvalid, Char.ofNat_toNat]
      · have hslash : c ≠ '\\' := by
          rintro rfl
          cases hletter
        simp only [if_neg hplain, List.singleton_append]
        rw [unescapeFrom]
        exact hslash

theorem unescapeFrom_escapeChars (s : List Char) :
    unescapeFrom .plain (escapeChars s) = some s := by
  induction s with
  | nil => rfl
  | cons c s ih => rw [escapeChars_cons, unescapeFrom_escapeChar, ih, Option.map_some]

theorem unescape_escape (s : String) : unescape (escape s) = some s := by
  rw [unescape, escape, String.toList_ofList, unescapeFrom_escapeChars, Option.map_some,
    String.ofList_toList]

theorem escapeChars_inj {s t : List Char} : escapeChars s = escapeChars t ↔ s = t := by
  constructor
  · intro h
    have hread := congrArg (unescapeFrom .plain) h
    rw [unescapeFrom_escapeChars, unescapeFrom_escapeChars] at hread
    exact Option.some.inj hread
  · rintro rfl
    rfl

/-! ## Quotes -/

theorem isValid_quote (s : String) :
    (⟨1⟩ : String.Pos.Raw).IsValid (quote s) ∧
      (⟨(quote s).utf8ByteSize - 1⟩ : String.Pos.Raw).IsValid (quote s) := by
  have hsize : "\"".utf8ByteSize = 1 := by decide
  constructor
  · exact String.Pos.Raw.isValid_iff_exists_append.2
      ⟨"\"", escape s ++ "\"", String.append_assoc, rfl⟩
  · refine String.Pos.Raw.isValid_iff_exists_append.2 ⟨"\"" ++ escape s, "\"", rfl, ?_⟩
    rw [quote, String.utf8ByteSize_append, hsize, Nat.add_sub_cancel]
    rfl

theorem extract_quote (s : String) :
    (quote s).toByteArray.extract 1 ((quote s).utf8ByteSize - 1) = (escape s).toByteArray := by
  have hsize : "\"".utf8ByteSize = 1 := by decide
  have hfirst : 1 = "\"".toByteArray.size + 0 := by decide
  have hlast : (quote s).utf8ByteSize - 1 =
      "\"".toByteArray.size + (escape s).toByteArray.size := by
    simp only [quote, String.utf8ByteSize_append, String.size_toByteArray, hsize,
      Nat.add_sub_cancel]
  rw [hlast, hfirst, quote, String.append_assoc, String.toByteArray_append,
    ByteArray.extract_append_size_add, String.toByteArray_append,
    ByteArray.extract_append_eq_left rfl]

/-- An escaped text is read back, so that no two texts have one escaped form, and it is escaped
part by part.  Without its first and its last byte, between which characters end and begin, a
quoted form is the escaped one, and those two bytes are quotes. -/
theorem escape_reversible :
    (∀ s, unescape (escape s) = some s) ∧ Function.Injective escape ∧
      (∀ s t, escape (s ++ t) = escape s ++ escape t) ∧
      ∀ s, (⟨1⟩ : String.Pos.Raw).IsValid (quote s) ∧
        (⟨(quote s).utf8ByteSize - 1⟩ : String.Pos.Raw).IsValid (quote s) ∧
          (quote s).toByteArray.extract 1 ((quote s).utf8ByteSize - 1) = (escape s).toByteArray ∧
            (quote s).toList = '"' :: (escape s).toList ++ ['"'] := by
  refine ⟨unescape_escape, ?_, ?_, ?_⟩
  · intro s t h
    have hread := unescape_escape s
    rw [h, unescape_escape t] at hread
    exact (Option.some.inj hread).symm
  · intro s t
    rw [escape, escape, escape, String.toList_append, escapeChars_append, String.ofList_append]
  · intro s
    obtain ⟨hfirst, hlast⟩ := isValid_quote s
    refine ⟨hfirst, hlast, extract_quote s, ?_⟩
    rw [quote, String.toList_append, String.toList_append]
    rfl

/-! ## Printable characters -/

theorem isUnprintable_eq_false_of_ascii {c : Char} (hleast : 0x20 ≤ c.toNat)
    (hmost : c.toNat < 0x7F) : isUnprintable c = false := by
  have hlow : c.toNat < 0x80 := by omega
  have hcontrol : ¬ c.toNat < 0x20 := by omega
  have hdelete : c.toNat ≠ 0x7F := by omega
  simp [isUnprintable, hlow, hcontrol, hdelete]

theorem isUnprintable_of_control {c : Char} (h : c.toNat < 0x20) : isUnprintable c = true := by
  have hlow : c.toNat < 0x80 := by omega
  simp [isUnprintable, hlow, h]

theorem escapeChar_of_printable {c : Char} (h : isUnprintable c = false) (hquote : c ≠ '"')
    (hslash : c ≠ '\\') : escapeChar c = [c] := by
  have hletter : letterOf? c = none := by
    cases hl : letterOf? c with
    | none => rfl
    | some l =>
        rcases control_or_eq_of_letterOf? hl with hcontrol | hc | hc
        · rw [isUnprintable_of_control hcontrol] at h
          cases h
        · exact absurd hc hquote
        · exact absurd hc hslash
  simp [escapeChar, hletter, h]

theorem isUnprintable_digitChar {d : Nat} (h : d < 16) :
    isUnprintable (Nat.digitChar d) = false := by
  have hall : ∀ d < 16, 0x20 ≤ (Nat.digitChar d).toNat ∧ (Nat.digitChar d).toNat < 0x7F := by decide
  exact isUnprintable_eq_false_of_ascii (hall d h).1 (hall d h).2

theorem isUnprintable_of_mem_toDigits {n : Nat} {c : Char} (h : c ∈ Nat.toDigits 16 n) :
    isUnprintable c = false := by
  induction n using Nat.strongRecOn with
  | ind n ih =>
      by_cases hn : n < 16
      · rw [Nat.toDigits_of_lt_base hn, List.mem_singleton] at h
        rw [h]
        exact isUnprintable_digitChar hn
      · rw [Nat.toDigits_of_base_le (by decide) (by omega), List.mem_append,
          List.mem_singleton] at h
        rcases h with h | rfl
        · exact ih (n / 16) (by omega) h
        · exact isUnprintable_digitChar (by omega)

theorem isUnprintable_of_letterOf? {c l : Char} (h : letterOf? c = some l) :
    isUnprintable l = false := by
  unfold letterOf? at h
  split at h <;> cases h <;> rfl

theorem isUnprintable_of_mem_escapeChar {c d : Char} (h : d ∈ escapeChar c) :
    isUnprintable d = false := by
  unfold escapeChar at h
  cases hletter : letterOf? c with
  | some l =>
      simp only [hletter, List.mem_cons, List.not_mem_nil, or_false] at h
      rcases h with rfl | rfl
      · rfl
      · exact isUnprintable_of_letterOf? hletter
  | none =>
      by_cases hplain : isUnprintable c = true
      · simp only [hletter, if_pos hplain, List.mem_append, List.mem_cons, List.not_mem_nil,
          or_false] at h
        rcases h with ((rfl | rfl | rfl) | hdigit) | rfl
        · rfl
        · rfl
        · rfl
        · exact isUnprintable_of_mem_toDigits hdigit
        · rfl
      · simp only [hletter, if_neg hplain, List.mem_singleton] at h
        rw [h]
        simpa using hplain

theorem isUnprintable_of_mem_escapeChars {s : List Char} {c : Char} (h : c ∈ escapeChars s) :
    isUnprintable c = false := by
  obtain ⟨d, _, hd⟩ := List.mem_flatMap.1 h
  exact isUnprintable_of_mem_escapeChar hd

/-! ## Spaces at the end -/

def trimSpaces (s : List Char) : List Char :=
  s.rdropWhile (· == ' ')

/-- Only a space is escaped to something that ends in one. -/
theorem exists_escapeChar_eq_concat {c : Char} (h : c ≠ ' ') :
    ∃ s d, escapeChar c = s ++ [d] ∧ d ≠ ' ' := by
  unfold escapeChar
  cases hletter : letterOf? c with
  | some l =>
      refine ⟨['\\'], l, rfl, ?_⟩
      rintro rfl
      exact absurd (ofLetter?_of_letterOf? hletter).2 (by simp [ofLetter?])
  | none =>
      by_cases hplain : isUnprintable c = true
      · exact ⟨['\\', 'u', '\x7b'] ++ Nat.toDigits 16 c.toNat, '\x7d', if_pos hplain, by decide⟩
      · exact ⟨[], c, if_neg hplain, h⟩

theorem trimSpaces_escapeChars (s : List Char) :
    trimSpaces (escapeChars s) = escapeChars (trimSpaces s) := by
  induction s using List.reverseRecOn with
  | nil => rfl
  | append_singleton s c ih =>
      rw [escapeChars_append]
      by_cases hc : c = ' '
      · subst hc
        have hspace : escapeChars [' '] = [' '] := by decide
        rw [hspace, trimSpaces, trimSpaces, List.rdropWhile_concat_pos _ _ _ rfl,
          List.rdropWhile_concat_pos _ _ _ rfl]
        exact ih
      · obtain ⟨e, d, he, hd⟩ := exists_escapeChar_eq_concat hc
        have hkept : trimSpaces (s ++ [c]) = s ++ [c] :=
          List.rdropWhile_concat_neg _ _ _ (by simpa using hc)
        rw [hkept, escapeChars_append, escapeChars_cons, escapeChars_nil, List.append_nil, he,
          ← List.append_assoc]
        exact List.rdropWhile_concat_neg _ _ _ (by simpa using hd)

/-- Escaping tells texts apart even if the spaces at their ends are left out of account. -/
theorem trimSpaces_escapeChars_inj {s t : List Char} :
    trimSpaces (escapeChars s) = trimSpaces (escapeChars t) ↔ trimSpaces s = trimSpaces t := by
  rw [trimSpaces_escapeChars, trimSpaces_escapeChars, escapeChars_inj]

end FixedWidth.Text
