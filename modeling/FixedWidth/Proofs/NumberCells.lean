import FixedWidth.Proofs.CellText
import FixedWidth.Proofs.Json.Documents

/-!
# Numbers as cells

A text that is one number and nothing else is read as the cell of what the number denotes, and is
refused only if that is out of range.  A binary number is never displayed as digits alone: it has a
point, an exponent or a word.
-/

namespace FixedWidth

/-! ## A number alone -/

namespace Json

theorem readValue_of_readScalar_error {frames : List Frame} {s t : List Char} {c : Char} {f : Fault}
    (hs : skipBlanks s = c :: t) (hlist : c ≠ '[') (hrecord : c ≠ '\x7b')
    (h : readScalar c t = .error f) : readValue frames s = .error f := by
  rw [readValue, hs]
  split
  · contradiction
  · rename_i hcons
    cases hcons
    exact absurd rfl hlist
  · rename_i hcons
    cases hcons
    exact absurd rfl hrecord
  · rename_i hcons
    cases hcons
    rw [h]

theorem readValue_of_numeral_error {s : List Char} {l : Literal} {unread : Nat}
    (h : Numeral s l []) (hvalue : l.value = .error unread) :
    readValue [] s = .error ⟨.numberTooLarge, unread⟩ := by
  obtain ⟨c, t, rfl, hc⟩ := h.exists_cons
  have hbegins := beginsScalar_of_number hc
  have hread : readScalar c t = .error ⟨.numberTooLarge, unread⟩ := by
    simp only [readScalar_number hc, readNumber, h.read endsNumber_nil, hvalue, byteCount,
      List.foldl_nil, Nat.zero_add]
    rfl
  exact readValue_of_readScalar_error (skipBlanks_cons hbegins.not_blank t) hbegins.ne_open
    hbegins.ne_record hread

end Json

namespace Cell

theorem ofJson_of_value {s : List Char} {l : Json.Literal} {n : Json.Number}
    (h : Json.Numeral s l []) (hvalue : l.value = .ok n) :
    Cell.ofJson (String.ofList s) = .ok n.toCell := by
  refine Json.readShape_eq_ok_iff.2
    ⟨.number n, s, [], ?_, .of_scalar (.number h hvalue) _, .nil, rfl⟩
  rw [String.toList_ofList]
  exact .nil

theorem ofJson_of_value_error {s : List Char} {l : Json.Literal} {unread : Nat}
    (h : Json.Numeral s l []) (hvalue : l.value = .error unread) :
    ∃ p, Cell.ofJson (String.ofList s) = .error ⟨.numberTooLarge, some p⟩ := by
  rw [Cell.ofJson, Json.readShape, String.toList_ofList]
  simp only [Json.readValue_of_numeral_error h hvalue]
  exact ⟨_, rfl⟩

/-! ## Binary numbers are not displayed as whole ones -/

theorem point_or_letter_mem_layout (st : Decimal.Style) (d : Decimal.Scaled) :
    '.' ∈ st.layout d ∨ 'e' ∈ st.layout d := by
  unfold Decimal.Style.layout
  dsimp only
  split
  · left
    split
    · simp [Decimal.Style.fraction]
    · unfold Decimal.Style.positional
      split <;> simp
  · right
    simp [Decimal.Style.scientific]

/-- A character that is neither a digit nor a minus sign. -/
theorem exists_mark_of_display_float (x : Decimal.Binary64) :
    ∃ c ∈ (Cell.float x).display.toList, c.isDigit = false ∧ c ≠ '-' := by
  have hbody : ∃ c ∈ (if x.isZero then ['0', '.', '0']
      else floatStyle.layout (Decimal.Binary64.shortest floatStyle.tie x.magnitude)),
        c.isDigit = false ∧ c ≠ '-' := by
    split
    · exact ⟨'.', by simp, by decide, by decide⟩
    · rcases point_or_letter_mem_layout floatStyle
        (Decimal.Binary64.shortest floatStyle.tie x.magnitude) with h | h
      · exact ⟨'.', h, by decide, by decide⟩
      · exact ⟨'e', h, by decide, by decide⟩
  rw [display, Decimal.Style.render]
  split
  · exact ⟨'N', by decide, by decide, by decide⟩
  · split
    · split
      · exact ⟨'i', by decide, by decide, by decide⟩
      · exact ⟨'i', by decide, by decide, by decide⟩
    · obtain ⟨c, hc, hmark⟩ := hbody
      refine ⟨c, ?_, hmark⟩
      rw [String.toList_ofList]
      split
      · exact List.mem_cons_of_mem '-' hc
      · exact hc

end Cell

end FixedWidth
