import FixedWidth.Proofs.InputLines
import FixedWidth.Proofs.Json.Documents
import FixedWidth.Proofs.Json.RoundedLiterals

/-!
# The grammar of a row

Without the blanks around it, a line is empty, a quoted text, or a list of cells.  Nothing else is
a row, however close it comes: a list inside a list, a null, a number that is out of range or any
text behind the end are refused with the number of the line.
-/

namespace FixedWidth

open Json (Blanks Quoted Numeral Enclosed Denotes wholeNumber)

/-! ## The ends of a line -/

namespace Text

theorem not_blank_of_head {s t : List Char} {c : Char} (h : trimBlanks s = c :: t) :
    isBlank c = false := by
  have hsuffix := List.dropWhile_suffix isBlank (l := (s.dropWhile isBlank).reverse)
  have hprefix := List.reverse_prefix.2 hsuffix
  rw [List.reverse_reverse, ← trimBlanks, h] at hprefix
  obtain ⟨u, hu⟩ := hprefix
  have hhead := List.head?_dropWhile_not isBlank s
  rw [← hu] at hhead
  simpa using hhead

theorem not_blank_of_last {s t : List Char} {c : Char} (h : trimBlanks s = t ++ [c]) :
    isBlank c = false := by
  have hreverse : (s.dropWhile isBlank).reverse.dropWhile isBlank = c :: t.reverse := by
    rw [← List.reverse_inj, ← trimBlanks, h]
    simp
  have hhead := List.head?_dropWhile_not isBlank (s.dropWhile isBlank).reverse
  rw [hreverse] at hhead
  simpa using hhead

end Text

theorem isBlank_of_blanks {s : List Char} (h : Blanks s []) : ∀ c ∈ s, Text.isBlank c = true := by
  intro c hc
  have hnil : s.dropWhile Char.isWhitespace = [] := h.skipBlanks_eq
  rw [← List.takeWhile_append_dropWhile (p := Char.isWhitespace) (l := s), hnil,
    List.append_nil] at hc
  exact Text.isBlank_of_isWhitespace (List.all_eq_true.1 List.all_takeWhile c hc)

theorem eq_of_blanks_trimBlanks {s t : List Char} (h : Blanks (Text.trimBlanks s) t) :
    t = Text.trimBlanks s := by
  generalize hs : Text.trimBlanks s = b at h
  cases h with
  | nil => rfl
  | cons hc h =>
      have hblank := Text.isBlank_of_isWhitespace (Json.isWhitespace_iff_mem.2 hc)
      rw [Text.not_blank_of_head hs] at hblank
      cases hblank

theorem eq_nil_of_suffix_trimBlanks {s rest : List Char} (hsuffix : rest <:+ Text.trimBlanks s)
    (h : Blanks rest []) : rest = [] := by
  rcases List.eq_nil_or_concat rest with rfl | ⟨t, c, rfl⟩
  · rfl
  · obtain ⟨u, hu⟩ := hsuffix
    rw [List.concat_eq_append] at h hu
    rw [← List.append_assoc] at hu
    have hblank := isBlank_of_blanks h c (by simp)
    rw [Text.not_blank_of_last hu.symm] at hblank
    cases hblank

/-! ## Cells -/

/-- A cell is a text, a truth value, or a number.  A whole number of 64 bits keeps its value, and is
unsigned only if it lies above the signed ones.  Any other number is rounded, and must not be out of
range. -/
inductive CellText : List Char → Cell → List Char → Prop where
  | text {s rest : List Char} {x : String} (h : Quoted s x rest) : CellText s (.text x) rest
  | true {rest : List Char} : CellText ("true".toList ++ rest) (.flag true) rest
  | false {rest : List Char} : CellText ("false".toList ++ rest) (.flag false) rest
  | integer {s rest : List Char} {l : Json.Literal} {i : Int64} (h : Numeral s l rest)
      (hl : l.IsInteger) (hi : i.toInt = wholeNumber l.negative l.whole) :
      CellText s (.integer i) rest
  | unsigned {s rest : List Char} {l : Json.Literal} {u : UInt64} (h : Numeral s l rest)
      (hl : l.IsInteger) (hu : u.toNat = wholeNumber l.negative l.whole)
      (hleast : 2 ^ 63 ≤ u.toNat) : CellText s (.unsigned u) rest
  | float {s rest : List Char} {l : Json.Literal} {x : Decimal.Binary64} (h : Numeral s l rest)
      (hl : ¬ l.IsInteger) (hx : l.RoundsTo x) : CellText s (.float x) rest

theorem CellText.suffix {s rest : List Char} {c : Cell} (h : CellText s c rest) : rest <:+ s := by
  cases h with
  | text h => exact h.suffix
  | true => exact ⟨"true".toList, rfl⟩
  | false => exact ⟨"false".toList, rfl⟩
  | integer h | unsigned h | float h => exact h.suffix

theorem denotes_text_iff {depth : Nat} {s rest : List Char} {x : String} :
    Denotes depth s (.text x) rest ↔ Quoted s x rest := by
  constructor
  · intro h
    rcases h.scalar_or with h | ⟨items, hv⟩ | ⟨fields, hv⟩
    · cases h with
      | text h => exact h
    · cases hv
    · cases hv
  · intro h
    exact .of_scalar (.text h) depth

theorem denotes_list_iff {depth : Nat} {s rest : List Char} {items : List Json.Value} :
    Denotes (depth + 1) s (.list items) rest ↔
      Enclosed (Denotes depth) '[' ']' s items rest := by
  constructor
  · rintro (h | ⟨items, hv, h⟩ | ⟨fields, hv, -⟩)
    · cases h
    · cases hv
      exact h
    · cases hv
  · exact .list

namespace Cell

theorem toCell_toInt (i : Int64) : (Json.Number.integer i.toInt).toCell = .integer i := by
  rw [Json.Number.toCell, if_pos i.toInt_lt, Int64.ofInt_toInt]

theorem toCell_toNat (u : UInt64) : (Json.Number.integer u.toNat).toCell = .ofUInt64 u := by
  rw [Json.Number.toCell, ofUInt64]
  by_cases h : u.toNat < 2 ^ 63
  · rw [if_pos (by omega), if_pos h, Int64.ofInt_eq_ofNat]
  · rw [if_neg (by omega), if_neg h, Int.toNat_natCast, UInt64.ofNat_toNat]

end Cell

theorem toNat_ofNat_of_unsigned {n : Int} (hleast : ¬ n < 2 ^ 63) (hmost : n < 2 ^ 64) :
    ((UInt64.ofNat n.toNat).toNat : Int) = n := by
  have hlt : n.toNat < UInt64.size := by
    rw [UInt64.size]
    omega
  rw [UInt64.toNat_ofNat_of_lt' hlt]
  omega

section Number

variable {s rest : List Char} {l : Json.Literal}

/-- A literal in range is the text of the cell that its value has. -/
theorem CellText.number (h : Numeral s l rest) {n : Json.Number} (hn : l.value = .ok n) :
    CellText s n.toCell rest := by
  cases n with
  | float x =>
      obtain ⟨hl, hx⟩ := (Json.Literal.value_eq_float_iff h.isWhole).1 hn
      exact .float h hl hx
  | integer n =>
      obtain ⟨hl, hvalue⟩ := (Json.Literal.value_eq_integer_iff h.isWhole).1 hn
      have hleast : -2 ^ 63 ≤ n := hvalue ▸ hl.fits.least
      have hmost : n < 2 ^ 64 := hvalue ▸ hl.fits.most
      rw [Json.Number.toCell]
      split
      · rename_i hsigned
        exact .integer h hl ((Int64.toInt_ofInt_of_le hleast hsigned).trans hvalue)
      · rename_i hsigned
        have hnat := toNat_ofNat_of_unsigned hsigned hmost
        exact .unsigned h hl (hnat.trans hvalue) (by omega)

theorem Json.Literal.IsInteger.value_of_eq (hl : l.IsInteger) (h : Numeral s l rest) {n : Int}
    (hn : n = wholeNumber l.negative l.whole) : l.value = .ok (.integer n) :=
  (Json.Literal.value_eq_integer_iff h.isWhole).2 ⟨hl, hn⟩

end Number

/-- A text stands for a cell exactly if it denotes a value that has a cell. -/
theorem cellText_iff (depth : Nat) (s : List Char) (c : Cell) (rest : List Char) :
    CellText s c rest ↔ ∃ v, Denotes depth s v rest ∧ v.toCell? = some c := by
  constructor
  · intro h
    cases h with
    | text h => exact ⟨_, .of_scalar (.text h) depth, rfl⟩
    | true => exact ⟨_, .of_scalar .true depth, rfl⟩
    | false => exact ⟨_, .of_scalar .false depth, rfl⟩
    | integer h hl hi =>
        refine ⟨_, .of_scalar (.number h (hl.value_of_eq h hi)) depth, ?_⟩
        rw [Json.Value.toCell?, Cell.toCell_toInt]
    | unsigned h hl hu hleast =>
        refine ⟨_, .of_scalar (.number h (hl.value_of_eq h hu)) depth, ?_⟩
        rw [Json.Value.toCell?, Cell.toCell_toNat, Cell.ofUInt64, if_neg (Nat.not_lt.2 hleast)]
    | float h hl hx =>
        have hn := (Json.Literal.value_eq_float_iff h.isWhole).2 ⟨hl, hx⟩
        exact ⟨_, .of_scalar (.number h hn) depth, rfl⟩
  · rintro ⟨v, h, hc⟩
    rcases h.scalar_or with h | ⟨items, rfl⟩ | ⟨fields, rfl⟩
    · cases h with
      | null => cases hc
      | true =>
          cases hc
          exact .true
      | false =>
          cases hc
          exact .false
      | number h hn =>
          cases hc
          exact .number h hn
      | text h =>
          cases hc
          exact .text h
    · cases hc
    · cases hc

/-! ## Rows -/

namespace Row

theorem ofCells_inj {cells others : List Cell} :
    ofCells cells = ofCells others ↔ cells = others := by
  constructor
  · intro h
    rcases cells with _ | ⟨c, _ | ⟨d, _ | ⟨e, cells⟩⟩⟩ <;>
      rcases others with _ | ⟨c', _ | ⟨d', _ | ⟨e', others⟩⟩⟩ <;>
        simp_all [ofCells]
  · rintro rfl
    rfl

theorem ofCells_ne_line (cells : List Cell) (s : String) : ofCells cells ≠ .line s := by
  rcases cells with _ | ⟨c, _ | ⟨d, _ | ⟨e, cells⟩⟩⟩ <;> exact Row.noConfusion

theorem ofCells_eq_wide_iff {cells others : List Cell} :
    ofCells cells = .wide others ↔ 3 ≤ cells.length ∧ cells = others := by
  rcases cells with _ | ⟨c, _ | ⟨d, _ | ⟨e, cells⟩⟩⟩ <;> simp [ofCells]

end Row

theorem toRow?_eq_line_iff {v : Json.Value} {x : String} :
    v.toRow? = some (.line x) ↔ v = .text x := by
  constructor
  · intro h
    cases v with
    | text y =>
        cases h
        rfl
    | list items =>
        obtain ⟨cells, -, hcells⟩ := Option.map_eq_some_iff.1 h
        exact absurd hcells (Row.ofCells_ne_line cells x)
    | null | flag | number | record => cases h
  · rintro rfl
    rfl

theorem toRow?_eq_ofCells_iff {v : Json.Value} {cells : List Cell} :
    v.toRow? = some (.ofCells cells) ↔
      ∃ items, v = .list items ∧ items.mapM Json.Value.toCell? = some cells := by
  constructor
  · intro h
    cases v with
    | text y =>
        rw [Json.Value.toRow?, Option.some.injEq] at h
        exact absurd h.symm (Row.ofCells_ne_line cells y)
    | list items =>
        obtain ⟨others, hothers, hcells⟩ := Option.map_eq_some_iff.1 h
        exact ⟨items, rfl, Row.ofCells_inj.1 hcells ▸ hothers⟩
    | null | flag | number | record => cases h
  · rintro ⟨items, rfl, hitems⟩
    rw [Json.Value.toRow?, hitems, Option.map_some]

section Line

variable {text : List Char}

theorem ofJson_trimBlanks_eq_line_iff {x : String} :
    Row.ofJson (String.ofList (Text.trimBlanks text)) = .ok (.line x) ↔
      Quoted (Text.trimBlanks text) x [] := by
  rw [Row.ofJson, Json.readShape_eq_ok_iff, String.toList_ofList]
  constructor
  · rintro ⟨v, s, rest, hs, hv, hrest, hx⟩
    rw [toRow?_eq_line_iff.1 hx, denotes_text_iff, eq_of_blanks_trimBlanks hs] at hv
    rwa [eq_nil_of_suffix_trimBlanks hv.suffix hrest] at hv
  · intro h
    exact ⟨.text x, _, [], .nil, denotes_text_iff.2 h, .nil, rfl⟩

theorem ofJson_trimBlanks_eq_ofCells_iff {cells : List Cell} :
    Row.ofJson (String.ofList (Text.trimBlanks text)) = .ok (.ofCells cells) ↔
      Enclosed CellText '[' ']' (Text.trimBlanks text) cells [] := by
  have hitem := cellText_iff (Json.maxDepth - 2)
  rw [Row.ofJson, Json.readShape_eq_ok_iff, String.toList_ofList]
  constructor
  · rintro ⟨v, s, rest, hs, hv, hrest, hcells⟩
    obtain ⟨items, rfl, hitems⟩ := toRow?_eq_ofCells_iff.1 hcells
    have hlist := (Json.enclosed_iff hitem).2 ⟨items, denotes_list_iff.1 hv, hitems⟩
    rw [eq_of_blanks_trimBlanks hs] at hlist
    rwa [eq_nil_of_suffix_trimBlanks (hlist.suffix CellText.suffix) hrest] at hlist
  · intro h
    obtain ⟨items, hlist, hitems⟩ := (Json.enclosed_iff hitem).1 h
    exact ⟨.list items, _, [], .nil, denotes_list_iff.2 hlist, .nil,
      toRow?_eq_ofCells_iff.2 ⟨items, rfl, hitems⟩⟩

end Line

/-- Every row that is read from JSON is a status line or is made from cells. -/
theorem exists_of_ofJson_eq_ok {text : String} {row : Row} (h : Row.ofJson text = .ok row) :
    (∃ s, row = .line s) ∨ ∃ cells, row = .ofCells cells := by
  obtain ⟨v, s, rest, -, -, -, hrow⟩ := Json.readShape_eq_ok_iff.1 h
  cases v with
  | text x =>
      cases hrow
      exact .inl ⟨x, rfl⟩
  | list items =>
      obtain ⟨cells, -, rfl⟩ := Option.map_eq_some_iff.1 hrow
      exact .inr ⟨cells, rfl⟩
  | null | flag | number | record => cases hrow

/-- A number that is read as a binary one is the one nearest to it if its digits and its power of
ten are exact. -/
theorem CellText.exists_numeral_of_float {s rest : List Char} {x : Decimal.Binary64}
    (h : CellText s (.float x) rest) :
    ∃ l, Numeral s l rest ∧ (l.decimal.digits ≤ 2 ^ 53 → l.decimal.exponent.natAbs ≤ 22 →
      x = .ofRatio l.negative l.decimal.num l.decimal.den) := by
  cases h with
  | float h hl hx => exact ⟨_, h, hx.eq_nearest⟩

theorem CellText.float_of_exact {s rest : List Char} {l : Json.Literal} {x : Decimal.Binary64}
    (h : Numeral s l rest) (hl : ¬ l.IsInteger) (hdigits : l.decimal.digits ≤ 2 ^ 53)
    (hexponent : l.decimal.exponent.natAbs ≤ 22)
    (hpower : ∀ p ∈ l.exponent, Nat.ofDigitChars 10 p.digits 0 < 2 ^ 31)
    (hx : .ofRatio l.negative l.decimal.num l.decimal.den = x) : CellText s (.float x) rest :=
  .float h hl (hx ▸ Json.Literal.roundsTo_nearest hdigits hexponent hpower)

/-- A line is read as the grammar has it, and refused with its own number if it is not in it. -/
theorem parseRow_grammar (line : Nat) (text : String) :
    let b := Text.trimBlanks text.toList
    let cellsAre (cells : List Cell) : Prop := Enclosed CellText '[' ']' b cells []
    (parseRow line text = .ok none ↔ b = []) ∧
      (∀ s, parseRow line text = .ok (some (.line s)) ↔ Quoted b s []) ∧
      (∀ cells, parseRow line text = .ok (some (.ofCells cells)) ↔ cellsAre cells) ∧
      ((∃ refusal, parseRow line text = .error (.badLine line refusal)) ↔
        b ≠ [] ∧ (∀ s, ¬ Quoted b s []) ∧ ∀ cells, ¬ cellsAre cells) ∧
      (parseRow line text = .ok (some .empty) ↔ cellsAre []) ∧
      (∀ c, parseRow line text = .ok (some (.single c)) ↔ cellsAre [c]) ∧
      (∀ key value, parseRow line text = .ok (some (.pair key value)) ↔ cellsAre [key, value]) ∧
      (∀ cells, parseRow line text = .ok (some (.wide cells)) ↔
        3 ≤ cells.length ∧ cellsAre cells) ∧
      ∀ s x rest, CellText s (.float x) rest → ∃ l, Numeral s l rest ∧
        (l.decimal.digits ≤ 2 ^ 53 → l.decimal.exponent.natAbs ≤ 22 →
          x = .ofRatio l.negative l.decimal.num l.decimal.den) := by
  intro b cellsAre
  have hline (s : String) : parseRow line text = .ok (some (.line s)) ↔ Quoted b s [] :=
    parseRow_eq_some_iff.trans ofJson_trimBlanks_eq_line_iff
  have hcells (cells : List Cell) :
      parseRow line text = .ok (some (.ofCells cells)) ↔ cellsAre cells :=
    parseRow_eq_some_iff.trans ofJson_trimBlanks_eq_ofCells_iff
  refine ⟨parseRow_eq_none_iff, hline, hcells, ?_, hcells [], fun c => hcells [c],
    fun key value => hcells [key, value], ?_, fun _ _ _ => CellText.exists_numeral_of_float⟩
  · constructor
    · rintro ⟨refusal, hrefused⟩
      obtain ⟨hne, -⟩ := parseRow_eq_error_iff.1 hrefused
      refine ⟨hne, fun s hs => ?_, fun cells hlist => ?_⟩
      · cases hrefused.symm.trans ((hline s).2 hs)
      · cases hrefused.symm.trans ((hcells cells).2 hlist)
    · rintro ⟨hne, hnoLine, hnoCells⟩
      cases hread : Row.ofJson (String.ofList b) with
      | error refusal => exact ⟨refusal, parseRow_eq_error_iff.2 ⟨hne, refusal, hread, rfl⟩⟩
      | ok row =>
          rcases exists_of_ofJson_eq_ok hread with ⟨s, rfl⟩ | ⟨cells, rfl⟩
          · exact absurd (ofJson_trimBlanks_eq_line_iff.1 hread) (hnoLine s)
          · exact absurd (ofJson_trimBlanks_eq_ofCells_iff.1 hread) (hnoCells cells)
  · intro cells
    constructor
    · intro hwide
      rcases exists_of_ofJson_eq_ok (parseRow_eq_some_iff.1 hwide) with ⟨s, hs⟩ | ⟨others, hothers⟩
      · cases hs
      · obtain ⟨hlength, rfl⟩ := Row.ofCells_eq_wide_iff.1 hothers.symm
        rw [hothers] at hwide
        exact ⟨hlength, (hcells others).1 hwide⟩
    · rintro ⟨hlength, hlist⟩
      rw [← Row.ofCells_eq_wide_iff.2 ⟨hlength, rfl⟩]
      exact (hcells cells).2 hlist

/-- Numbers of each kind between brackets, and a number alone, which is no row. -/
theorem parseRow_number_tokens :
    parseRow 7 "[-5, 18446744073709551615,-0,2.5e-1]" =
        .ok (some (.wide [.integer (-5), .unsigned 18446744073709551615,
          .float ⟨0x8000000000000000⟩, .float ⟨0x3FD0000000000000⟩])) ∧
      ∃ refusal, parseRow 7 "25" = .error (.badLine 7 refusal) := by
  have hinteger (rest : List Char) : CellText ("-5".toList ++ rest) (.integer (-5)) rest := by
    have hnumeral : Numeral (Json.sign true ++ ("5".toList ++ rest))
        ⟨true, "5".toList, none, none⟩ rest := .mk (by decide) .absent .absent
    exact .integer hnumeral ⟨rfl, rfl, by decide, by decide, by decide⟩ (by decide)
  have hunsigned (rest : List Char) : CellText ("18446744073709551615".toList ++ rest)
      (.unsigned 18446744073709551615) rest := by
    have hnumeral : Numeral (Json.sign false ++ ("18446744073709551615".toList ++ rest))
        ⟨false, "18446744073709551615".toList, none, none⟩ rest :=
      .mk (by decide) .absent .absent
    refine .unsigned hnumeral ⟨rfl, rfl, by decide, ?_, ?_⟩ ?_ ?_ <;> decide +kernel
  have hzero (rest : List Char) :
      CellText ("-0".toList ++ rest) (.float ⟨0x8000000000000000⟩) rest := by
    have hnumeral : Numeral (Json.sign true ++ ("0".toList ++ rest))
        ⟨true, "0".toList, none, none⟩ rest := .mk (by decide) .absent .absent
    refine .float_of_exact hnumeral (fun hl => hl.fits.not_minus_zero ⟨rfl, rfl⟩) ?_ ?_ ?_ ?_
    · decide +kernel
    · decide
    · decide
    · decide +kernel
  have hquarter (rest : List Char) :
      CellText ("2.5e-1".toList ++ rest) (.float ⟨0x3FD0000000000000⟩) rest := by
    have hpower : Json.Power ('e' :: ("-".toList ++ ("1".toList ++ rest)))
        (some ⟨true, "1".toList⟩) rest := .exponent (.inl rfl) (by decide) (by decide)
    have hnumeral : Numeral (Json.sign false ++ ("2".toList ++ '.' :: ("5".toList ++ _)))
        ⟨false, "2".toList, some "5".toList, some ⟨true, "1".toList⟩⟩ rest :=
      .mk (by decide) (.digits (by decide)) hpower
    refine .float_of_exact hnumeral (fun hl => nomatch hl.fraction_eq) ?_ ?_ ?_ ?_
    · decide +kernel
    · decide
    · decide
    · decide +kernel
  obtain ⟨-, -, -, -, -, -, -, hwide, -⟩ :=
    parseRow_grammar 7 "[-5, 18446744073709551615,-0,2.5e-1]"
  obtain ⟨-, -, -, hrefused, -⟩ := parseRow_grammar 7 "25"
  refine ⟨(hwide _).2 ⟨by decide, ?_⟩, hrefused.2 ⟨by decide, fun s hs => ?_, fun cells h => ?_⟩⟩
  · have htext : Text.trimBlanks "[-5, 18446744073709551615,-0,2.5e-1]".toList =
        '[' :: ("-5".toList ++ ',' :: ' ' :: ("18446744073709551615".toList ++ ',' ::
          ("-0".toList ++ ',' :: ("2.5e-1".toList ++ [']'])))) := by decide +kernel
    rw [htext]
    apply Enclosed.items .nil (hinteger _)
    apply Json.Later.item .nil (.cons (by decide) .nil) (hunsigned _)
    apply Json.Later.item .nil .nil (hzero _)
    apply Json.Later.item .nil .nil (hquarter _)
    exact .close .nil
  · cases hs
  · cases h

end FixedWidth
