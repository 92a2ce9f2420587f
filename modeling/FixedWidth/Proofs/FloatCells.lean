import FixedWidth.Proofs.Json.NumberLayout
import FixedWidth.Proofs.Json.ScaledNumbers
import FixedWidth.Proofs.LineNumbers
import FixedWidth.Proofs.NumberCells
import FixedWidth.Proofs.RowGrammar
import FixedWidth.Proofs.RowStream

/-!
# Binary numbers come back near

A finite number is written with the fewest digits that stand for it, but the reader rounds more
than once.  What comes back is a finite number of the same sign whose bits are at most as many
places away as steps before the last rounding, and the number itself where these are exact.  A
number that comes back as another one reads differently in a column.
-/

namespace FixedWidth

open Decimal (Binary64 Style)

/-! ## What is read back -/

namespace Json

open Decimal.Binary64 (infinityBits ofParts)

/-- The binary number that is read where another has been written. -/
def reread (x : Binary64) : Binary64 :=
  match scale? (numberStyle.decimal x).digits (numberStyle.decimal x).exponent with
  | some y => if x.isNegative then y.neg else y
  | none => x

theorem numberStyle_plus : (numberStyle.plus.toList, false) ∈ exponentSigns := by
  decide

theorem reread_of_scale {x : Binary64} {c : Nat}
    (h : scale? (numberStyle.decimal x).digits (numberStyle.decimal x).exponent =
      some (ofParts false c)) (hc : c < 2 ^ 63) : reread x = ofParts x.isNegative c := by
  rw [reread, h]
  cases hnegative : x.isNegative with
  | true => exact neg_ofParts hc
  | false => rfl

section

variable {x : Binary64} (hx : x.isFinite = true)

include hx

theorem readsNear_decimal :
    ReadsNear (numberStyle.decimal x) (losses (numberStyle.decimal x)) := by
  have hlt := Style.magnitude_lt hx
  cases hzero : x.isZero with
  | true =>
      rw [Style.decimal, hzero, if_pos rfl]
      exact readsNear_zero
  | false =>
      by_cases hlarge : infinityBits ≤ x.magnitude + 3
      · obtain ⟨hexponent, hnear⟩ := readsNear_of_largest hlt hlarge
        rw [Style.decimal, hzero, if_neg Bool.false_ne_true, Style.written_of_le]
        · exact hnear
        · rw [show numberStyle.tie = .even from rfl, hexponent]
          decide
      · exact readsNear_of_spells (Style.spells_decimal hx (Int.le_refl 16) hzero) (by omega)

/-- What is read back has the sign of what was written, and its bits are near. -/
theorem exists_reread :
    ∃ c, reread x = ofParts x.isNegative c ∧ c < infinityBits ∧
      c ≤ x.magnitude + losses (numberStyle.decimal x) ∧
      x.magnitude ≤ c + losses (numberStyle.decimal x) := by
  obtain ⟨c, hread, hfinite, habove, hbelow⟩ := readsNear_decimal hx
  rw [Style.nearest_decimal hx (Int.le_refl 16)] at habove hbelow
  exact ⟨c, reread_of_scale hread (by have := Decimal.Binary64.infinityBits_lt; omega), hfinite,
    habove, hbelow⟩

theorem exists_numeral_toJson (rest : List Char) :
    ∃ l, Numeral ((Cell.float x).toJson.toList ++ rest) l rest ∧
      l.decimal = numberStyle.decimal x ∧ l.value = .ok (.float (reread x)) := by
  obtain ⟨l, place, hl, hstands, hplace⟩ := Style.exists_numeral_render hx numberStyle_plus rest
  obtain ⟨c, hread, -⟩ := readsNear_decimal hx
  have hshort : l.IsShort := by
    refine ⟨hstands.marked, ?_, fun e he => ?_⟩
    · rw [hstands.decimal_eq]
      exact Style.digits_decimal_lt hx (Int.le_refl 16)
    · rw [hstands.exponent_eq e he]
      exact hplace
  refine ⟨l, hl, hstands.decimal_eq, ?_⟩
  rw [← hstands.decimal_eq] at hread
  rw [hshort.value_eq hread, reread, ← hstands.decimal_eq, hread, Literal.signed,
    hstands.negative_eq]

end

end Json

namespace Cell

/-- What comes back of a cell: a binary number may be another. -/
def reread : Cell → Cell
  | .float x => .float (Json.reread x)
  | c => c

/-- What has a written form that is read as a cell of the same kind. -/
def IsReadable : Cell → Prop
  | .float x => x.isFinite = true
  | c => c.IsExact

theorem ofJson_float {x : Binary64} (hx : x.isFinite = true) :
    Cell.ofJson (Cell.float x).toJson = .ok (.float (Json.reread x)) := by
  obtain ⟨l, hl, -, hvalue⟩ := Json.exists_numeral_toJson hx []
  rw [List.append_nil] at hl
  have hread := ofJson_of_value hl hvalue
  rwa [String.ofList_toList] at hread

theorem cellText_of_isExact {c : Cell} (h : c.IsExact) (rest : List Char) :
    CellText (c.toJson.toList ++ rest) c rest :=
  (cellText_iff 0 _ c rest).2 ⟨c.value, .of_scalar (scalar_toJson h rest) 0, toCell?_value h⟩

theorem cellText_toJson {c : Cell} (h : c.IsReadable) (rest : List Char) :
    CellText (c.toJson.toList ++ rest) c.reread rest := by
  cases c with
  | float x =>
      obtain ⟨l, hl, -, hvalue⟩ := Json.exists_numeral_toJson h rest
      exact .number hl hvalue
  | text s => exact cellText_of_isExact (c := .text s) h rest
  | integer n => exact cellText_of_isExact (c := .integer n) h rest
  | unsigned n => exact cellText_of_isExact (c := .unsigned n) h rest
  | flag b => exact cellText_of_isExact (c := .flag b) h rest

end Cell

theorem Input.rows_listJson {cells : List Cell} (h : ∀ c ∈ cells, c.IsReadable) :
    Input.rows (Cell.listJson cells).toUTF8.data.toList =
      [.ok (.ofCells (cells.map Cell.reread))] := by
  have hlist : (Cell.listJson cells).toList =
      '[' :: (",".intercalate (cells.map Cell.toJson)).toList ++ [']'] := by
    simp [Cell.listJson]
  have htrim : Text.trimBlanks (Cell.listJson cells).toList = (Cell.listJson cells).toList := by
    rw [hlist]
    exact Text.trimBlanks_enclosed (by decide) (by decide) _
  have hrow : parseRow 1 (String.ofList (Cell.listJson cells).toList) =
      .ok (some (.ofCells (cells.map Cell.reread))) := by
    rw [parseRow_eq_some_iff, String.toList_ofList, ofJson_trimBlanks_eq_ofCells_iff, htrim]
    exact Cell.enclosed_items fun c hc rest => Cell.cellText_toJson (h c hc) rest
  rw [toUTF8_eq_utf8, rows_of_lineFeed_notMem
    (lineFeed_notMem_utf8 (Cell.lineFeed_notMem_listJson cells)), readLine_utf8 hrow]
  rfl

/-! ## The whole -/

theorem Cell.shown_float_inj {x y : Binary64} (hx : x.isFinite = true) (hy : y.isFinite = true) :
    (Cell.float x).shown = (Cell.float y).shown ↔ x = y := by
  have hplus : (floatStyle.plus.toList, false) ∈ Json.exponentSigns := by decide
  have hbelow : floatStyle.plainBelow ≤ 16 := Int.le_refl 16
  constructor
  · exact Style.render_inj hbelow hplus hx hy
  · exact congrArg fun x => (Cell.float x).shown

/-- A finite number comes back as a finite number of the same sign, and its bits are at most as many
places away as steps before the last one round.  So it shows the same text again exactly if none of
these roundings has taken effect. -/
theorem finite_floats_read_back :
    (∀ x : Binary64, x.isFinite = true →
      let d := Json.numberStyle.decimal x
      let y := Json.reread x
      (∃ l, Json.Numeral (Cell.float x).toJson.toList l [] ∧ l.decimal = d) ∧
      Cell.ofJson (Cell.float x).toJson = .ok (.float y) ∧
      y.isFinite = true ∧ y.isNegative = x.isNegative ∧
      y.magnitude ≤ x.magnitude + Json.losses d ∧ x.magnitude ≤ y.magnitude + Json.losses d ∧
      Json.losses d ≤ 3 ∧
      (d.digits ≤ 2 ^ 53 → d.exponent.natAbs ≤ 22 → y = x) ∧
      ((Cell.float y).shown = (Cell.float x).shown ↔ y = x)) ∧
    ∀ cells : List Cell, (∀ c ∈ cells, c.IsReadable) →
      Input.rows (Cell.listJson cells).toUTF8.data.toList =
        [.ok (.ofCells (cells.map Cell.reread))] := by
  refine ⟨fun x hx => ?_, fun cells => Input.rows_listJson⟩
  intro d y
  obtain ⟨c, hy, hfinite, habove, hbelow⟩ := Json.exists_reread hx
  have hc : c < 2 ^ 63 := Nat.lt_trans hfinite Binary64.infinityBits_lt
  have hmagnitude : y.magnitude = c := by
    rw [show y = Json.reread x from rfl, hy, Binary64.magnitude_ofParts hc]
  have hsign : y.isNegative = x.isNegative := by
    rw [show y = Json.reread x from rfl, hy, Binary64.isNegative_ofParts hc]
  have hyfinite : y.isFinite = true := decide_eq_true (hmagnitude ▸ hfinite)
  obtain ⟨l, hl, hdecimal, -⟩ := Json.exists_numeral_toJson hx []
  rw [List.append_nil] at hl
  refine ⟨⟨l, hl, hdecimal⟩, Cell.ofJson_float hx, hyfinite, hsign, hmagnitude ▸ habove,
    hmagnitude ▸ hbelow, Json.losses_le d, fun hdigits hexponent => ?_,
    Cell.shown_float_inj hyfinite hx⟩
  have hsame : c = x.magnitude := by
    rw [Json.losses_eq_zero hdigits hexponent] at habove hbelow
    omega
  rw [show y = Json.reread x from rfl, hy, hsame, Binary64.ofParts_magnitude]

/-- A tenth comes back, alone and beside a text. -/
theorem tenth_reads_back :
    (⟨0x3FB999999999999A⟩ : Binary64).isFinite = true ∧
      Cell.ofJson "0.1" = .ok (.float ⟨0x3FB999999999999A⟩) ∧
      (∀ c ∈ [Cell.text "ratio", .float ⟨0x3FB999999999999A⟩], c.IsReadable) ∧
      Input.rows "[\"ratio\",0.1]".toUTF8.data.toList =
        [.ok (.pair (.text "ratio") (.float ⟨0x3FB999999999999A⟩))] := by
  have hfinite : (⟨0x3FB999999999999A⟩ : Binary64).isFinite = true := by decide +kernel
  have hdecimal : Json.numberStyle.decimal ⟨0x3FB999999999999A⟩ = ⟨1, -1⟩ := by decide +kernel
  obtain ⟨-, hread, -, -, -, -, -, hsame, -⟩ := finite_floats_read_back.1 _ hfinite
  rw [hdecimal] at hsame
  have hback := hsame (by decide) (by decide)
  have hreadable : ∀ c ∈ [Cell.text "ratio", .float ⟨0x3FB999999999999A⟩], c.IsReadable := by
    intro c hc
    rcases List.mem_cons.1 hc with rfl | hc
    · trivial
    · cases List.mem_singleton.1 hc
      exact hfinite
  have hrows := finite_floats_read_back.2 _ hreadable
  have htext : Cell.listJson [.text "ratio", .float ⟨0x3FB999999999999A⟩] = "[\"ratio\",0.1]" := by
    decide +kernel
  have hnumber : (Cell.float ⟨0x3FB999999999999A⟩).toJson = "0.1" := by decide +kernel
  have hmap : [Cell.text "ratio", .float ⟨0x3FB999999999999A⟩].map Cell.reread =
      [.text "ratio", .float (Json.reread ⟨0x3FB999999999999A⟩)] := rfl
  rw [htext, hmap, hback] at hrows
  rw [hnumber, hback] at hread
  exact ⟨hfinite, hread, hreadable, hrows⟩

/-- Seventeen digits make more than `2 ^ 53`, and the number that comes back is the one before. -/
theorem float_read_back_as_neighbour :
    (⟨0x433FFFFFFFFFFFFF⟩ : Binary64).isFinite = true ∧
      (Cell.float ⟨0x433FFFFFFFFFFFFF⟩).toJson = "9007199254740991.0" ∧
      Cell.ofJson "9007199254740991.0" = .ok (.float ⟨0x433FFFFFFFFFFFFE⟩) ∧
      Cell.ofJson "9007199254740991.0" ≠ .ok (.float ⟨0x433FFFFFFFFFFFFF⟩) ∧
      (Cell.float ⟨0x433FFFFFFFFFFFFF⟩).shown = "9007199254740991.0" ∧
      (Cell.float ⟨0x433FFFFFFFFFFFFE⟩).shown = "9007199254740990.0" := by
  have hfinite : (⟨0x433FFFFFFFFFFFFF⟩ : Binary64).isFinite = true := by decide +kernel
  have hdecimal : Json.numberStyle.decimal ⟨0x433FFFFFFFFFFFFF⟩ = ⟨90071992547409910, -1⟩ := by
    decide +kernel
  have hwritten : (Cell.float ⟨0x433FFFFFFFFFFFFF⟩).toJson = "9007199254740991.0" := by
    decide +kernel
  have hscale : Json.scale? (Json.numberStyle.decimal ⟨0x433FFFFFFFFFFFFF⟩).digits
      (Json.numberStyle.decimal ⟨0x433FFFFFFFFFFFFF⟩).exponent =
        some (Binary64.ofParts false 0x433FFFFFFFFFFFFE) := by
    rw [hdecimal, Json.scale?_of_neg (by decide) (by decide)]
    decide +kernel
  have hback : Json.reread ⟨0x433FFFFFFFFFFFFF⟩ = ⟨0x433FFFFFFFFFFFFE⟩ := by
    rw [Json.reread_of_scale hscale (by decide)]
    decide +kernel
  have hread := Cell.ofJson_float hfinite
  rw [hwritten, hback] at hread
  refine ⟨hfinite, hwritten, hread, ?_, by decide +kernel, by decide +kernel⟩
  rw [hread]
  decide

end FixedWidth
