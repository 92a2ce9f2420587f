import FixedWidth.Proofs.Json.IntegerLiterals
import FixedWidth.Proofs.NumberCells
import FixedWidth.Proofs.RowGrammar

/-!
# Integers are exact or not integers at all

A literal of digits is read as a whole number if it fits 64 bits, signed or unsigned, and then the
cell reads as the literal does.  Any other is taken for a binary number, which reads differently, or
is out of range.  No number that fits the signed cells is ever kept in an unsigned one.
-/

namespace FixedWidth

open Json (IsWhole Fits wholeNumber)

/-! ## Literals that fit -/

theorem Decimal.integerChars_wholeNumber {negative : Bool} {ds : List Char} (hds : IsWhole ds)
    (h : Fits negative ds) :
    Decimal.integerChars (wholeNumber negative ds) = Json.sign negative ++ ds := by
  cases negative with
  | true =>
      have hpos := Json.ofDigitChars_pos hds fun hzero => h.not_minus_zero ⟨rfl, hzero⟩
      have hneg : wholeNumber true ds < 0 := by
        simp only [wholeNumber, if_true]
        omega
      have habs : (wholeNumber true ds).natAbs = Nat.ofDigitChars 10 ds 0 := by
        simp [wholeNumber]
      rw [Decimal.integerChars, if_pos hneg, habs, Json.toDigits_ofDigitChars hds]
      rfl
  | false =>
      have hneg : ¬ wholeNumber false ds < 0 := by
        simp only [wholeNumber, Bool.false_eq_true, if_false]
        omega
      have habs : (wholeNumber false ds).natAbs = Nat.ofDigitChars 10 ds 0 := by
        simp [wholeNumber]
      rw [Decimal.integerChars, if_neg hneg, habs, Json.toDigits_ofDigitChars hds]
      rfl

namespace Cell

/-- The cell of a whole number of 64 bits reads as its decimal form. -/
theorem display_toCell_integer {n : Int} (hleast : -2 ^ 63 ≤ n) (hmost : n < 2 ^ 64) :
    (Json.Number.integer n).toCell.display = Decimal.integer n := by
  rw [Json.Number.toCell]
  split
  · rename_i hsigned
    rw [display, Int64.toInt_ofInt_of_le hleast hsigned]
  · rename_i hsigned
    rw [display, toNat_ofNat_of_unsigned hsigned hmost]

theorem shown_of_isNumeric {c : Cell} (h : c.isNumeric = true) : c.shown = c.display := by
  cases c with
  | text | flag => cases h
  | integer | unsigned | float => rfl

end Cell

theorem Json.isNumeric_toCell (n : Json.Number) : n.toCell.isNumeric = true := by
  cases n with
  | float x => rfl
  | integer n =>
      rw [Json.Number.toCell]
      split <;> rfl

section Literal

variable {negative : Bool} {ds : List Char}

theorem numeral_of_isWhole (hds : IsWhole ds) (negative : Bool) :
    Json.Numeral (Json.sign negative ++ ds) ⟨negative, ds, none, none⟩ [] := by
  have hnumeral : Json.Numeral (Json.sign negative ++ (ds ++ [])) ⟨negative, ds, none, none⟩ [] :=
    .mk hds .absent .absent
  rwa [List.append_nil] at hnumeral

theorem isDigit_or_eq_of_mem_literal (hds : IsWhole ds) {c : Char}
    (h : c ∈ Json.sign negative ++ ds) : c.isDigit = true ∨ c = '-' := by
  rcases List.mem_append.1 h with hsign | hdigit
  · cases negative with
    | true => exact .inr (List.mem_singleton.1 hsign)
    | false => cases hsign
  · exact .inl (hds.isDigit c hdigit)

theorem ofJson_of_fits (hds : IsWhole ds) (h : Fits negative ds) :
    Cell.ofJson (String.ofList (Json.sign negative ++ ds)) =
      .ok (Json.Number.integer (wholeNumber negative ds)).toCell :=
  Cell.ofJson_of_value (numeral_of_isWhole hds negative) (Json.value_of_fits hds h)

theorem display_of_fits (hds : IsWhole ds) (h : Fits negative ds) :
    (Json.Number.integer (wholeNumber negative ds)).toCell.display =
      String.ofList (Json.sign negative ++ ds) := by
  rw [Cell.display_toCell_integer h.least h.most, Decimal.integer,
    Decimal.integerChars_wholeNumber hds h]

theorem display_float_ne_literal (hds : IsWhole ds) (x : Decimal.Binary64) :
    (Cell.float x).display ≠ String.ofList (Json.sign negative ++ ds) := by
  intro heq
  obtain ⟨c, hc, hdigit, hminus⟩ := Cell.exists_mark_of_display_float x
  rw [heq, String.toList_ofList] at hc
  rcases isDigit_or_eq_of_mem_literal hds hc with h | h
  · simp [h] at hdigit
  · exact hminus h

theorem ofJson_of_not_fits (hds : IsWhole ds) (h : ¬ Fits negative ds) :
    (∃ x, Cell.ofJson (String.ofList (Json.sign negative ++ ds)) = .ok (.float x)) ∨
      ∃ p, Cell.ofJson (String.ofList (Json.sign negative ++ ds)) =
        .error ⟨.numberTooLarge, some p⟩ := by
  have hnumeral := numeral_of_isWhole hds negative
  rcases Json.value_of_not_fits h with ⟨x, hx⟩ | hlarge
  · exact .inl ⟨x, Cell.ofJson_of_value hnumeral hx⟩
  · exact .inr (Cell.ofJson_of_value_error hnumeral hlarge)

end Literal

/-! ## Unsigned cells -/

theorem le_of_cellText_unsigned {s rest : List Char} {u : UInt64}
    (h : CellText s (.unsigned u) rest) : 2 ^ 63 ≤ u.toNat := by
  cases h with
  | unsigned _ _ _ hleast => exact hleast

theorem le_of_ofJson_unsigned {text : String} {u : UInt64}
    (h : Cell.ofJson text = .ok (.unsigned u)) : 2 ^ 63 ≤ u.toNat := by
  obtain ⟨v, s, rest, -, hv, -, hcell⟩ := Json.readShape_eq_ok_iff.1 h
  exact le_of_cellText_unsigned ((cellText_iff _ s _ rest).2 ⟨v, hv, hcell⟩)

section Enclosed

variable {α : Type} {Item : List Char → α → List Char → Prop} {s rest : List Char} {xs : List α}

theorem Json.Later.exists_of_mem {closing : Char} (h : Json.Later Item closing s xs rest) {x : α}
    (hx : x ∈ xs) : ∃ t u, Item t x u := by
  induction h with
  | close => cases hx
  | item hcomma hblank hitem hlater ih =>
      rcases List.mem_cons.1 hx with rfl | hx
      · exact ⟨_, _, hitem⟩
      · exact ih hx

theorem Json.Enclosed.exists_of_mem {opening closing : Char}
    (h : Json.Enclosed Item opening closing s xs rest) {x : α} (hx : x ∈ xs) :
    ∃ t u, Item t x u := by
  cases h with
  | empty => cases hx
  | items hblank hitem hlater =>
      rcases List.mem_cons.1 hx with rfl | hx
      · exact ⟨_, _, hitem⟩
      · exact hlater.exists_of_mem hx

end Enclosed

theorem le_of_parseRow_unsigned {line : Nat} {text : String} {cells : List Cell} {u : UInt64}
    (h : parseRow line text = .ok (some (.ofCells cells))) (hu : .unsigned u ∈ cells) :
    2 ^ 63 ≤ u.toNat := by
  have hlist := ofJson_trimBlanks_eq_ofCells_iff.1 (parseRow_eq_some_iff.1 h)
  obtain ⟨s, rest, hcell⟩ := hlist.exists_of_mem hu
  exact le_of_cellText_unsigned hcell

/-! ## The whole -/

/-- Digits with a sign are read as the whole number they denote if that fits, and no other way of
reading them shows them again. -/
theorem ofJson_integer_literal :
    (∀ (negative : Bool) (ds : List Char), IsWhole ds →
      let text := String.ofList (Json.sign negative ++ ds)
      let n := wholeNumber negative ds
      (Fits negative ds →
        Cell.ofJson text = .ok (if n < 2 ^ 63 then .integer (Int64.ofInt n)
            else .unsigned (UInt64.ofNat n.toNat)) ∧
          (∀ i : Int64, i.toInt = n → Cell.ofJson text = .ok (.integer i)) ∧
          (∀ u : UInt64, u.toNat = n → Cell.ofJson text = .ok (.ofUInt64 u)) ∧
          ∀ c, Cell.ofJson text = .ok c → c.display = text ∧ c.shown = text) ∧
      (¬ Fits negative ds →
        (∃ x, Cell.ofJson text = .ok (.float x) ∧ (Cell.float x).display ≠ text) ∨
          ∃ p, Cell.ofJson text = .error ⟨.numberTooLarge, some p⟩) ∧
      ((∃ c, Cell.ofJson text = .ok c ∧ c.shown = text) ↔ Fits negative ds)) ∧
      (∀ (text : String) (u : UInt64), Cell.ofJson text = .ok (.unsigned u) → 2 ^ 63 ≤ u.toNat) ∧
      (∀ (line : Nat) (text : String) (cells : List Cell) (u : UInt64),
        parseRow line text = .ok (some (.ofCells cells)) → .unsigned u ∈ cells →
          2 ^ 63 ≤ u.toNat) ∧
      ∀ u v : UInt64, Cell.ofUInt64 u = .unsigned v → 2 ^ 63 ≤ v.toNat := by
  refine ⟨fun negative ds hds => ?_, fun text u => le_of_ofJson_unsigned,
    fun line text cells u => le_of_parseRow_unsigned, fun u v huv => ?_⟩
  · intro text n
    have hkept (h : Fits negative ds) : Cell.ofJson text = .ok (Json.Number.integer n).toCell :=
      ofJson_of_fits hds h
    have hshown (h : Fits negative ds) : (Json.Number.integer n).toCell.shown = text := by
      rw [Cell.shown_of_isNumeric (Json.isNumeric_toCell _)]
      exact display_of_fits hds h
    refine ⟨fun h => ⟨hkept h, fun i hi => ?_, fun u hu => ?_, fun c hc => ?_⟩, fun h => ?_, ?_⟩
    · rw [hkept h, ← hi, Cell.toCell_toInt]
    · rw [hkept h, ← hu, Cell.toCell_toNat]
    · rw [hkept h, Except.ok.injEq] at hc
      exact hc ▸ ⟨display_of_fits hds h, hshown h⟩
    · rcases ofJson_of_not_fits hds h with ⟨x, hx⟩ | hlarge
      · exact .inl ⟨x, hx, display_float_ne_literal hds x⟩
      · exact .inr hlarge
    · constructor
      · rintro ⟨c, hc, hsame⟩
        by_contra h
        rcases ofJson_of_not_fits hds h with ⟨x, hx⟩ | ⟨p, hp⟩
        · cases hc.symm.trans hx
          exact display_float_ne_literal hds x hsame
        · cases hc.symm.trans hp
      · exact fun h => ⟨_, hkept h, hshown h⟩
  · rw [Cell.ofUInt64] at huv
    split at huv
    · cases huv
    · cases huv
      omega

/-- The least signed number and the greatest unsigned one, and the next literals beyond them. -/
theorem ofJson_literals_at_the_limits :
    (IsWhole "9223372036854775808".toList ∧ Fits true "9223372036854775808".toList ∧
        Cell.ofJson "-9223372036854775808" = .ok (.integer Int64.minValue)) ∧
      (IsWhole "18446744073709551615".toList ∧ Fits false "18446744073709551615".toList ∧
        Cell.ofJson "18446744073709551615" = .ok (.unsigned 18446744073709551615)) ∧
      (IsWhole "9223372036854775809".toList ∧ ¬ Fits true "9223372036854775809".toList ∧
        ¬ ∃ c, Cell.ofJson "-9223372036854775809" = .ok c ∧ c.shown = "-9223372036854775809") ∧
      (2 : Nat) ^ 63 ≤ (18446744073709551615 : UInt64).toNat := by
  have least : IsWhole "9223372036854775808".toList ∧ Fits true "9223372036854775808".toList := by
    refine ⟨by decide, ⟨by decide, ?_, ?_⟩⟩ <;>
      decide +kernel
  have most : IsWhole "18446744073709551615".toList ∧ Fits false "18446744073709551615".toList := by
    refine ⟨by decide, ⟨by decide, ?_, ?_⟩⟩ <;>
      decide +kernel
  have below : IsWhole "9223372036854775809".toList ∧ ¬ Fits true "9223372036854775809".toList := by
    refine ⟨by decide, fun h => ?_⟩
    exact absurd h.least (by decide +kernel)
  have hleast := ((ofJson_integer_literal.1 true _ least.1).1 least.2).2.1 Int64.minValue
    (by decide +kernel)
  have hmost := ((ofJson_integer_literal.1 false _ most.1).1 most.2).2.2.1 18446744073709551615
    (by decide +kernel)
  have hbelow := (ofJson_integer_literal.1 true _ below.1).2.2
  exact ⟨⟨least.1, least.2, hleast⟩, ⟨most.1, most.2, hmost⟩,
    ⟨below.1, below.2, fun h => below.2 (hbelow.1 h)⟩,
    ofJson_integer_literal.2.1 "18446744073709551615" _ hmost⟩

end FixedWidth
