import FixedWidth.Cell
import FixedWidth.Proofs.Text.PlainText
import FixedWidth.Text.Column

/-!
# The text of a cell

Numbers are written with digits and a few letters and marks, none of which is ever escaped.  So it
makes no difference that they go into a column as they read: what a column shows of a cell is its
display, escaped, and all of it is printable.
-/

namespace FixedWidth

/-! ## Numbers -/

namespace Decimal

open Text (IsPlain)

theorem isPlain_of_mem_integerChars {n : Int} {c : Char} (h : c ∈ integerChars n) : IsPlain c := by
  unfold integerChars at h
  split at h
  · rcases List.mem_cons.1 h with rfl | h
    · exact (by decide : Text.IsPlain '-')
    · exact Text.isPlain_of_mem_toDigits h
  · exact Text.isPlain_of_mem_toDigits h

namespace Style

theorem mem_of_mem_fraction {zeros : Nat} {digits : List Char} {c : Char}
    (h : c ∈ fraction zeros digits) : c ∈ digits ∨ c ∈ ['0', '.'] := by
  simp only [fraction, List.mem_append, List.mem_replicate] at h
  rcases h with (h | ⟨_, rfl⟩) | h
  · exact .inr h
  · exact .inr List.mem_cons_self
  · exact .inl h

theorem mem_of_mem_positional {whole : Nat} {digits : List Char} {c : Char}
    (h : c ∈ positional whole digits) : c ∈ digits ∨ c ∈ ['0', '.'] := by
  unfold positional at h
  split at h
  · simp only [List.mem_append, List.mem_replicate] at h
    rcases h with (h | ⟨_, rfl⟩) | h
    · exact .inl h
    · exact .inr List.mem_cons_self
    · exact .inr (by simpa [or_comm] using h)
  · simp only [List.mem_append, List.mem_cons] at h
    rcases h with h | rfl | h
    · exact .inl (List.mem_of_mem_take h)
    · exact .inr (by decide)
    · exact .inl (List.mem_of_mem_drop h)

theorem mem_of_mem_scientific {st : Style} {place : Int} {digits : List Char} {c : Char}
    (h : c ∈ st.scientific place digits) :
    c ∈ digits ∨ c ∈ Nat.toDigits 10 place.natAbs ∨ c ∈ st.plus.toList ∨ c ∈ ['.', 'e', '-'] := by
  simp only [scientific, List.mem_append, List.mem_cons] at h
  rcases h with (h | h) | rfl | h | h
  · exact .inl (List.mem_of_mem_take h)
  · split at h
    · cases h
    · rcases List.mem_cons.1 h with rfl | h
      · exact .inr (.inr (.inr (by decide)))
      · exact .inl (List.mem_of_mem_drop h)
  · exact .inr (.inr (.inr (by decide)))
  · split at h
    · exact .inr (.inr (.inr (by simp_all)))
    · exact .inr (.inr (.inl h))
  · exact .inr (.inl h)

/-- The texts of the style itself have plain characters. -/
structure IsPlain (st : Style) : Prop where
  plus : ∀ c ∈ st.plus.toList, Text.IsPlain c
  notANumber : ∀ c ∈ st.notANumber.toList, Text.IsPlain c
  infinity : ∀ c ∈ st.infinity.toList, Text.IsPlain c
  negativeInfinity : ∀ c ∈ st.negativeInfinity.toList, Text.IsPlain c

theorem isPlain_of_mem_layout {st : Style} (hst : st.IsPlain) {d : Scaled} {c : Char}
    (h : c ∈ st.layout d) : Text.IsPlain c := by
  have hmarks : ∀ c ∈ ['0', '.', 'e', '-'], Text.IsPlain c := Text.isPlain_of_all (by decide)
  unfold layout at h
  dsimp only at h
  split at h
  · have hpart : c ∈ Nat.toDigits 10 d.digits ∨ c ∈ ['0', '.'] := by
      split at h
      · exact mem_of_mem_fraction h
      · exact mem_of_mem_positional h
    rcases hpart with hdigit | hmark
    · exact Text.isPlain_of_mem_toDigits hdigit
    · exact hmarks c (List.mem_append_left ['e', '-'] hmark)
  · rcases mem_of_mem_scientific h with hdigit | hdigit | hplus | hmark
    · exact Text.isPlain_of_mem_toDigits hdigit
    · exact Text.isPlain_of_mem_toDigits hdigit
    · exact hst.plus c hplus
    · exact hmarks c (List.mem_cons_of_mem '0' hmark)

theorem isPlain_of_mem_render {st : Style} (hst : st.IsPlain) {x : Binary64} {c : Char}
    (h : c ∈ (st.render x).toList) : Text.IsPlain c := by
  have hzero : ∀ c ∈ ['0', '.', '0'], Text.IsPlain c := Text.isPlain_of_all (by decide)
  have hbody : ∀ c ∈ (if x.isZero then ['0', '.', '0']
      else st.layout (Binary64.shortest st.tie x.magnitude)), Text.IsPlain c := by
    intro c hc
    split at hc
    · exact hzero c hc
    · exact isPlain_of_mem_layout hst hc
  unfold render at h
  split at h
  · exact hst.notANumber c h
  · split at h
    · split at h
      · exact hst.negativeInfinity c h
      · exact hst.infinity c h
    · rw [String.toList_ofList] at h
      split at h
      · rcases List.mem_cons.1 h with rfl | h
        · exact (by decide : Text.IsPlain '-')
        · exact hbody c h
      · exact hbody c h

end Style

end Decimal

/-! ## Cells -/

namespace Cell

theorem isPlain_floatStyle : floatStyle.IsPlain where
  plus := Text.isPlain_of_all (by decide)
  notANumber := Text.isPlain_of_all (by decide)
  infinity := Text.isPlain_of_all (by decide)
  negativeInfinity := Text.isPlain_of_all (by decide)

theorem isPlain_of_mem_display {c : Cell} (h : c.isNumeric = true) {d : Char}
    (hd : d ∈ c.display.toList) : Text.IsPlain d := by
  cases c with
  | integer n =>
      rw [display, Decimal.integer, String.toList_ofList] at hd
      exact Decimal.isPlain_of_mem_integerChars hd
  | unsigned n =>
      rw [display, Decimal.integer, String.toList_ofList] at hd
      exact Decimal.isPlain_of_mem_integerChars hd
  | float x => exact Decimal.Style.isPlain_of_mem_render isPlain_floatStyle hd
  | text s => cases h
  | flag b => cases h

theorem escape_display (c : Cell) (h : c.isNumeric = true) :
    Text.escape c.display = c.display := by
  rw [Text.escape, Text.escapeChars_of_isPlain fun d hd => isPlain_of_mem_display h hd,
    String.ofList_toList]

/-- Leaving numbers as they read is no exception to escaping. -/
theorem shown_eq_escape_display (c : Cell) : c.shown = Text.escape c.display := by
  cases c with
  | text s => rfl
  | flag b => rfl
  | integer n => exact (escape_display (.integer n) rfl).symm
  | unsigned n => exact (escape_display (.unsigned n) rfl).symm
  | float x => exact (escape_display (.float x) rfl).symm

theorem toList_shown (c : Cell) : c.shown.toList = Text.escapeChars c.display.toList := by
  rw [shown_eq_escape_display, Text.escape, String.toList_ofList]

theorem isUnprintable_of_mem_shown {c : Cell} {d : Char} (h : d ∈ c.shown.toList) :
    Text.isUnprintable d = false := by
  rw [toList_shown] at h
  exact Text.isUnprintable_of_mem_escapeChars h

/-- The text of any cell in a column is its display, escaped.  A number is displayed in characters
that stand for themselves, so escaping leaves the display as it is, and the number is wrapped by the
characters of its display. -/
theorem shown_and_wrapped_by_display (c : Cell) :
    c.shown = Text.escape c.display ∧
      (c.isNumeric = true →
        (∀ d ∈ c.display.toList, Text.escapeChar d = [d]) ∧
          Text.escape c.display = c.display ∧
            ∀ width, Text.wrap width c.shown = Text.wrap width c.display) := by
  refine ⟨c.shown_eq_escape_display, fun h => ?_⟩
  have hplain : ∀ d ∈ c.display.toList, Text.IsPlain d := fun d hd => isPlain_of_mem_display h hd
  refine ⟨hplain, c.escape_display h, fun width => ?_⟩
  rw [c.shown_eq_escape_display, c.escape_display h]

/-- The least number above zero is displayed with an exponent, and cut inside it. -/
theorem shown_and_wrapped_least_float :
    let c : Cell := .float ⟨1⟩
    c.isNumeric = true ∧ c.display = "5e-324" ∧ c.shown = "5e-324" ∧
      Text.wrap 4 c.shown = ["5e-3", "24"] := by
  intro c
  have hnumeric : c.isNumeric = true := rfl
  have hdisplay : c.display = "5e-324" := by decide +kernel
  obtain ⟨hshown, hnumber⟩ := shown_and_wrapped_by_display c
  obtain ⟨-, hescape, hwrap⟩ := hnumber hnumeric
  refine ⟨hnumeric, hdisplay, hshown.trans (hescape.trans hdisplay), ?_⟩
  rw [hwrap 4, hdisplay]
  decide +kernel

end Cell

end FixedWidth
