import FixedWidth.Json.Write
import FixedWidth.Proofs.Json.Grammar

/-!
# Written text in JSON

Each character is written on its own, as itself or as an escape, and the grammar has what is
written for this character.  So a written text is a quoted text whatever it holds, and ends at the
closing quote that was written.
-/

namespace FixedWidth.Json

theorem mem_escapeLetters {c l : Char} (h : escapeLetter? c = some l) :
    (l, c) ∈ escapeLetters := by
  unfold escapeLetter? at h
  split at h <;> cases h <;> decide

/-- A control is written by its code point, whose first two digits are zero. -/
theorem hex4_control {n : Nat} (h : n < 0x20) (s : List Char) :
    Hex4 ('0' :: '0' :: Nat.digitChar (n / 16) :: Nat.digitChar (n % 16) :: s) n s := by
  have hhigh := Text.hexValue?_digitChar (show n / 16 < 16 by omega)
  have hlow := Text.hexValue?_digitChar (show n % 16 < 16 by omega)
  have hzero : Text.hexValue? '0' = some 0 := by decide
  have hvalue : ((0 * 16 + 0) * 16 + n / 16) * 16 + n % 16 = n := by omega
  have hhex : Hex4 ('0' :: '0' :: Nat.digitChar (n / 16) :: Nat.digitChar (n % 16) :: s)
      (((0 * 16 + 0) * 16 + n / 16) * 16 + n % 16) s := .mk hzero hzero hhigh hlow
  rwa [hvalue] at hhex

theorem character_writeChar (c : Char) (s : List Char) : Character (writeChar c ++ s) c s := by
  unfold writeChar
  cases hletter : escapeLetter? c with
  | some l => exact .letter (mem_escapeLetters hletter)
  | none =>
      by_cases hcontrol : c.toNat < 0x20
      · simp only [if_pos hcontrol]
        exact .unit (hex4_control hcontrol s)
      · have hquote : c ≠ '"' := by
          rintro rfl
          simp [escapeLetter?] at hletter
        have hslash : c ≠ '\\' := by
          rintro rfl
          simp [escapeLetter?] at hletter
        simp only [if_neg hcontrol]
        exact .plain hquote hslash (Nat.not_lt.1 hcontrol)

theorem body_written (cs rest : List Char) :
    Body (cs.flatMap writeChar ++ '"' :: rest) cs rest := by
  induction cs with
  | nil => exact .close
  | cons c cs ih =>
      rw [List.flatMap_cons, List.append_assoc]
      exact .character (character_writeChar c _) ih

theorem quoted_writeQuoted (text : String) (rest : List Char) :
    Quoted ((writeQuoted text).toList ++ rest) text rest := by
  rw [writeQuoted, String.toList_ofList, List.append_assoc]
  exact .mk (body_written text.toList rest)

end FixedWidth.Json
