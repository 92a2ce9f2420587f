import FixedWidth.Proofs.LineCount
import FixedWidth.Proofs.UsableWidth

/-!
# What stands on the lines of a wrapped row

A wrapped row that is printed brings whole lines to the sink, each as long as the width.  A single
cell runs over all of them.  A key and its value keep to columns of their own, so that what stands
in one column depends on its own text alone, and an inset moves the keys and nothing else.
-/

namespace FixedWidth

open Input (utf8)

/-! ## Controls -/

namespace Text

/-- The controls of ASCII and of Latin-1, and the separators of lines and of paragraphs. -/
def isControl (c : Char) : Bool :=
  c.toNat < 0x20 || (0x7F ≤ c.toNat && c.toNat ≤ 0x9F) || c.toNat == 0x2028 || c.toNat == 0x2029

theorem isUnprintable_of_mem_ranges {c : Char} {r : Nat × Nat} (hmem : r ∈ unprintableRanges)
    (hc : 0x80 ≤ c.toNat) (hleast : r.1 ≤ c.toNat) (hmost : c.toNat ≤ r.2) :
    isUnprintable c = true := by
  rw [isUnprintable, if_neg (Nat.not_lt.2 hc), List.any_eq_true]
  exact ⟨r, hmem, by simp [hleast, hmost]⟩

theorem isUnprintable_of_isControl {c : Char} (h : isControl c = true) :
    isUnprintable c = true := by
  have hlatin : (0x80, 0xA0) ∈ unprintableRanges := by decide +kernel
  have hseparators : (0x2028, 0x202F) ∈ unprintableRanges := by decide +kernel
  simp only [isControl, Bool.or_eq_true, Bool.and_eq_true, decide_eq_true_eq, beq_iff_eq] at h
  by_cases hlow : c.toNat < 0x80
  · have hcontrol : c.toNat < 0x20 ∨ c.toNat = 0x7F := by omega
    simpa [isUnprintable, hlow] using hcontrol
  · rcases h with ((h | h) | h) | h
    · omega
    · exact isUnprintable_of_mem_ranges hlatin (by omega) (by simp; omega) (by simp; omega)
    · exact isUnprintable_of_mem_ranges hseparators (by omega) (by simp; omega) (by simp; omega)
    · exact isUnprintable_of_mem_ranges hseparators (by omega) (by simp; omega) (by simp; omega)

end Text

theorem Row.isControl_of_mem_textLines {row : Row} (hrow : row.isWrapped = true) {width : Nat}
    {inset : Bool} {l : List Char} {c : Char} (hl : l ∈ row.textLines width inset) (hc : c ∈ l) :
    Text.isControl c = false := by
  have hprintable := Row.isUnprintable_of_mem_textLines hrow hl hc
  cases hcontrol : Text.isControl c with
  | false => rfl
  | true =>
      rw [Text.isUnprintable_of_isControl hcontrol] at hprintable
      cases hprintable

/-! ## Printing -/

/-- The step succeeds and brings these lines to the sink, with a line feed behind each. -/
structure Session.Prints (s : Session) (step : Step) (lines : List (List Char)) : Prop where
  failure_eq : (s.step step).1 = none
  taken_eq : (s.step step).2.sink.taken.toList = s.sink.taken.toList ++ utf8 (Text.ended lines)

theorem Session.prints_row {s : Session} (hopen : s.sink.IsOpen)
    (hwidth : s.formatter.width ≤ Text.maxPad) (row : Row) (inset : Bool) :
    s.Prints (.row row inset) (row.textLines s.formatter.width inset) := by
  have hcolumn : row.columnWidth s.formatter.width ≤ Text.maxPad :=
    Nat.le_trans (row.columnWidth_le s.formatter.width) hwidth
  have hdrawn := (hopen.draw (row.marks s.formatter.width inset)).1
  rw [if_pos (Row.forall_isSome_text?_iff.2 hcolumn)] at hdrawn
  rcases hdraw : s.sink.draw (row.marks s.formatter.width inset) with ⟨failure, sink⟩
  rw [hdraw] at hdrawn
  subst hdrawn
  have hstep : s.step (.row row inset) = (none, { s with sink }.printed row) := by
    simp only [Session.step, Session.row, hdraw]
  refine ⟨by rw [hstep], ?_⟩
  rw [hstep, ← Row.rendering_eq_utf8 hcolumn]
  exact (Sink.took_draw_of_none hdraw).2.taken

/-! ## One column -/

theorem Row.flatten_dropLast_textLines_single {width : Nat} (hwidth : 0 < width) (inset : Bool)
    (c : Cell) :
    ((Row.single c).textLines width inset).dropLast.flatten <+: c.shown.toList := by
  have hfull : ∀ p ∈ (Text.pieces (width - 1) c.shown.toList).dropLast,
      Text.fill width p = p := by
    intro p hp
    have hlength := Text.length_of_mem_dropLast_pieces hp
    exact Text.fill_of_le_length (by omega)
  have hlines : (Row.single c).textLines width inset =
      (Text.pieces (width - 1) c.shown.toList).map (Text.fill width) := by
    rw [textLines, Text.fields, lineCount_single, Nat.sub_self, List.replicate_zero,
      List.append_nil]
  rw [hlines, ← List.map_dropLast, List.map_congr_left hfull, List.map_id']
  obtain ⟨last, hlast⟩ := List.dropLast_prefix (Text.pieces (width - 1) c.shown.toList)
  refine ⟨last.flatten, ?_⟩
  rw [← List.flatten_append, hlast, Text.flatten_pieces]

/-- A cell alone is printed over all the width, on as many lines as its text needs.  All of them
but the last are full, and one after another they are the text and then spaces. -/
theorem Session.prints_single {s : Session} (hopen : s.sink.IsOpen)
    (hwidth : s.formatter.width ≤ Text.maxPad) (c : Cell) (inset : Bool) :
    let width := s.formatter.width
    ∃ lines, s.Prints (.row (.single c) inset) lines ∧
      lines.length = max 1 (c.shown.length ⌈/⌉ width) ∧
      (∀ l ∈ lines, l.length = width ∧ ∀ d ∈ l, Text.isControl d = false) ∧
      lines.dropLast.flatten <+: c.shown.toList ∧
      ∃ blanks, lines.flatten = c.shown.toList ++ List.replicate blanks ' ' := by
  intro width
  have hleast := s.formatter.minWidth_le
  have hpos : 0 < width := Nat.lt_of_lt_of_le (by decide) hleast
  have hfit := Nat.le_of_eq (Row.lineCount_single width c).symm
  refine ⟨(Row.single c).textLines width inset, prints_row hopen hwidth _ inset, ?_, ?_,
    Row.flatten_dropLast_textLines_single hpos inset c, ?_⟩
  · rw [Row.length_textLines, Row.lineCount_eq_linesNeeded hleast, Row.linesNeeded]
  · intro l hl
    exact ⟨Text.length_of_mem_fields hpos hl, fun d => Row.isControl_of_mem_textLines rfl hl⟩
  · exact ⟨_, Text.flatten_fields hpos hfit⟩

/-- A line break is escaped before the text is cut, so that here its letter stands alone on the
second of two lines. -/
theorem Session.prints_single_broken :
    let s : Session := ⟨⟨4, 2, by decide⟩, { perCall := some 1, interrupts := true }, #[]⟩
    s.sink.IsOpen ∧ s.formatter.width ≤ Text.maxPad ∧
      ∃ lines, s.Prints (.row (.single (.text "abc\n")) true) lines ∧ lines.length = 2 ∧
        ∃ blanks, lines.flatten = "abc\\n".toList ++ List.replicate blanks ' ' := by
  intro s
  have hopen : s.sink.IsOpen := ⟨rfl, by decide⟩
  have hwidth : s.formatter.width ≤ Text.maxPad := by decide
  have hshown : (Cell.text "abc\n").shown = "abc\\n" := by decide +kernel
  obtain ⟨lines, hprints, hlength, -, -, hflatten⟩ :=
    prints_single hopen hwidth (.text "abc\n") true
  rw [hshown] at hlength hflatten
  have hneeded : max 1 ("abc\\n".length ⌈/⌉ s.formatter.width) = 2 := by decide
  exact ⟨hopen, hwidth, lines, hprints, hlength.trans hneeded, hflatten⟩

/-! ## Two columns -/

namespace Text

/-- The characters of a line that stand in a column. -/
def columnAt (offset width : Nat) (line : List Char) : List Char :=
  (line.drop offset).take width

/-- The column shows the text from the top down, each line the part of it that is its turn, and
blanks where nothing is left. -/
structure InColumn (offset width : Nat) (text : List Char) (lines : List (List Char)) : Prop where
  columnAt_eq : ∀ i (h : i < lines.length),
    columnAt offset width lines[i] = fill width ((text.drop (i * width)).take width)
  flatten_eq : ∃ blanks, (lines.map (columnAt offset width)).flatten =
    text ++ List.replicate blanks ' '

theorem inColumn_of_map_eq {offset width : Nat} (hwidth : 0 < width) {text : List Char}
    {lines : List (List Char)} (hfit : (pieces (width - 1) text).length ≤ lines.length)
    (h : lines.map (columnAt offset width) = fields width lines.length text) :
    InColumn offset width text lines where
  columnAt_eq := by
    intro i hi
    have hget := congrArg (·[i]?) h
    simp only [fields_eq_map_range hwidth hfit, List.getElem?_map, List.getElem?_range hi,
      List.getElem?_eq_getElem hi, Option.map_some, Option.some.injEq] at hget
    exact hget
  flatten_eq := ⟨_, (congrArg List.flatten h).trans (flatten_fields hwidth hfit)⟩

end Text

/-- Where the keys begin on a line. -/
def keyOffset (inset : Bool) : Nat := if inset then 1 else 0

section PairText

variable {inset : Bool} {key value : List Char}

theorem length_pairText : (pairText inset key value).length = key.length + 2 + value.length := by
  cases inset <;> simp [pairText] <;> omega

theorem columnAt_key : Text.columnAt (keyOffset inset) key.length (pairText inset key value) =
    key := by
  cases inset <;> simp [Text.columnAt, keyOffset, pairText]

theorem columnAt_value :
    Text.columnAt (key.length + 2) value.length (pairText inset key value) = value := by
  have hpast (n : Nat) : key.drop (key.length + n) = [] :=
    List.drop_eq_nil_of_le (Nat.le_add_right key.length n)
  cases inset <;> simp [Text.columnAt, pairText, List.drop_append, hpast]

theorem getElem?_pairText_of_gap {i : Nat}
    (hkey : i < keyOffset inset ∨ keyOffset inset + key.length ≤ i) (hgap : i < key.length + 2) :
    (pairText inset key value)[i]? = some ' ' := by
  cases inset with
  | false =>
      have hle : key.length ≤ i := by
        simp only [keyOffset, Bool.false_eq_true, if_false] at hkey
        omega
      have hsplit : pairText false key value = key ++ ([' ', ' '] ++ value) := by simp [pairText]
      have hblank : i - key.length = 0 ∨ i - key.length = 1 := by omega
      rw [hsplit, List.getElem?_append_right hle]
      rcases hblank with h | h <;> rw [h] <;> rfl
  | true =>
      have hsplit : pairText true key value = ' ' :: (key ++ ' ' :: value) := by simp [pairText]
      have hblank : i = 0 ∨ i = key.length + 1 := by
        simp only [keyOffset, if_true] at hkey
        omega
      rw [hsplit]
      rcases hblank with rfl | rfl
      · rfl
      · rw [List.getElem?_cons_succ, List.getElem?_append_right (Nat.le_refl _), Nat.sub_self]
        rfl

theorem map_columnAt_key {keys values : List (List Char)} {keyWidth : Nat}
    (hkeys : ∀ k ∈ keys, k.length = keyWidth) (hlines : keys.length = values.length) :
    (List.zipWith (pairText inset) keys values).map
      (Text.columnAt (keyOffset inset) keyWidth) = keys := by
  rw [← List.map_uncurry_zip_eq_zipWith, List.map_map]
  refine Eq.trans (List.map_congr_left fun line hline => ?_)
    (List.map_fst_zip (Nat.le_of_eq hlines))
  rw [← hkeys _ (List.of_mem_zip hline).1]
  exact columnAt_key

theorem map_columnAt_value {keys values : List (List Char)} {keyWidth valueWidth : Nat}
    (hkeys : ∀ k ∈ keys, k.length = keyWidth) (hvalues : ∀ v ∈ values, v.length = valueWidth)
    (hlines : keys.length = values.length) :
    (List.zipWith (pairText inset) keys values).map
      (Text.columnAt (keyWidth + 2) valueWidth) = values := by
  rw [← List.map_uncurry_zip_eq_zipWith, List.map_map]
  refine Eq.trans (List.map_congr_left fun line hline => ?_)
    (List.map_snd_zip (Nat.le_of_eq hlines.symm))
  rw [← hkeys _ (List.of_mem_zip hline).1, ← hvalues _ (List.of_mem_zip hline).2]
  exact columnAt_value

end PairText

namespace Row

variable {width : Nat}

theorem map_columnAt_textLines (h : minWidth ≤ width) (k v : Cell) (inset : Bool) :
    let lines := (Row.pair k v).textLines width inset
    lines.map (Text.columnAt (keyOffset inset) (pairWidths width).1) =
        Text.fields (pairWidths width).1 lines.length k.shown.toList ∧
      lines.map (Text.columnAt ((pairWidths width).1 + 2) (pairWidths width).2) =
        Text.fields (pairWidths width).2 lines.length v.shown.toList := by
  obtain ⟨hkeyPos, hvaluePos⟩ := pairWidths_pos h
  have hkeys := Text.length_fields (length_keyPieces_le width k v)
  have hvalues := Text.length_fields (length_valuePieces_le width k v)
  have hlines := hkeys.trans hvalues.symm
  intro lines
  rw [show lines.length = (Row.pair k v).lineCount width from length_textLines width inset _]
  constructor
  · exact map_columnAt_key (fun f => Text.length_of_mem_fields hkeyPos) hlines
  · exact map_columnAt_value (fun f => Text.length_of_mem_fields hkeyPos)
      (fun f => Text.length_of_mem_fields hvaluePos) hlines

theorem inColumn_textLines (h : minWidth ≤ width) (k v : Cell) (inset : Bool) :
    let lines := (Row.pair k v).textLines width inset
    Text.InColumn (keyOffset inset) (pairWidths width).1 k.shown.toList lines ∧
      Text.InColumn ((pairWidths width).1 + 2) (pairWidths width).2 v.shown.toList lines := by
  obtain ⟨hkeyPos, hvaluePos⟩ := pairWidths_pos h
  obtain ⟨hkeys, hvalues⟩ := map_columnAt_textLines h k v inset
  have hcount := length_textLines width inset (.pair k v)
  intro lines
  constructor
  · refine Text.inColumn_of_map_eq hkeyPos ?_ hkeys
    rw [hcount]
    exact length_keyPieces_le width k v
  · refine Text.inColumn_of_map_eq hvaluePos ?_ hvalues
    rw [hcount]
    exact length_valuePieces_le width k v

theorem exists_pairText_of_mem_textLines (h : minWidth ≤ width) {k v : Cell} {inset : Bool}
    {l : List Char} (hl : l ∈ (Row.pair k v).textLines width inset) :
    ∃ key value, l = pairText inset key value ∧ key.length = (pairWidths width).1 ∧
      value.length = (pairWidths width).2 := by
  obtain ⟨hkeyPos, hvaluePos⟩ := pairWidths_pos h
  rw [textLines, ← List.map_uncurry_zip_eq_zipWith] at hl
  obtain ⟨⟨key, value⟩, hline, rfl⟩ := List.mem_map.1 hl
  obtain ⟨hkey, hvalue⟩ := List.of_mem_zip hline
  exact ⟨key, value, rfl, Text.length_of_mem_fields hkeyPos hkey,
    Text.length_of_mem_fields hvaluePos hvalue⟩

end Row

/-- A key and its value are printed side by side, on as many lines as the longer of the two needs
in its column.  The columns stand where the width puts them, and all else on a line is blank.  So
the inset moves the keys by one and leaves the rest as it is, and neither column shows anything of
the other text. -/
theorem Session.prints_pair {s : Session} (hopen : s.sink.IsOpen)
    (hwidth : s.formatter.width ≤ Text.maxPad) (k v : Cell) :
    let width := s.formatter.width
    let keyWidth := width / 4
    let valueWidth := width - keyWidth - 2
    ∃ lines : Bool → List (List Char),
      (∀ inset, s.Prints (.row (.pair k v) inset) (lines inset) ∧
        (lines inset).length =
          max 1 (max (k.shown.length ⌈/⌉ keyWidth) (v.shown.length ⌈/⌉ valueWidth)) ∧
        (∀ l ∈ lines inset, l.length = width ∧ (∀ d ∈ l, Text.isControl d = false) ∧
          ∀ i < keyWidth + 2, i < keyOffset inset ∨ keyOffset inset + keyWidth ≤ i →
            l[i]? = some ' ') ∧
        Text.InColumn (keyOffset inset) keyWidth k.shown.toList (lines inset) ∧
        Text.InColumn (keyWidth + 2) valueWidth v.shown.toList (lines inset)) ∧
      (lines true).length = (lines false).length ∧
      (lines true).map (Text.columnAt (keyOffset true) keyWidth) =
        (lines false).map (Text.columnAt (keyOffset false) keyWidth) ∧
      (lines true).map (Text.columnAt (keyWidth + 2) valueWidth) =
        (lines false).map (Text.columnAt (keyWidth + 2) valueWidth) := by
  intro width keyWidth valueWidth
  have hleast : minWidth ≤ width := s.formatter.minWidth_le
  have hkeyWidth : keyWidth = (pairWidths width).1 := rfl
  have hvalueWidth : valueWidth = (pairWidths width).2 := Nat.sub_sub width (width / 4) 2
  have htotal : (pairWidths width).1 + 2 + (pairWidths width).2 = width := by
    simp only [minWidth, pairWidths, columnGap] at hleast ⊢
    omega
  rw [hkeyWidth, hvalueWidth]
  have hcount (inset : Bool) : ((Row.pair k v).textLines width inset).length =
      (Row.pair k v).lineCount width := Row.length_textLines width inset _
  have hcolumns (inset : Bool) := Row.map_columnAt_textLines hleast k v inset
  refine ⟨(Row.pair k v).textLines width, fun inset => ⟨prints_row hopen hwidth _ inset,
    ?_, ?_, Row.inColumn_textLines hleast k v inset⟩, ?_, ?_, ?_⟩
  · rw [hcount, Row.lineCount_eq_linesNeeded hleast, Row.linesNeeded]
  · intro l hl
    obtain ⟨key, value, hpair, hkey, hvalue⟩ := Row.exists_pairText_of_mem_textLines hleast hl
    refine ⟨?_, fun d => Row.isControl_of_mem_textLines rfl hl, fun i hi houtside => ?_⟩
    · rw [hpair, length_pairText, hkey, hvalue, htotal]
    · rw [hpair]
      rw [← hkey] at hi houtside
      exact getElem?_pairText_of_gap houtside hi
  · rw [hcount, hcount]
  · rw [(hcolumns true).1, (hcolumns false).1, hcount, hcount]
  · rw [(hcolumns true).2, (hcolumns false).2, hcount, hcount]

/-- The key takes two lines of its narrow column and the value one of its own, inset or not. -/
theorem Session.prints_pair_with_broken_key :
    let s : Session := ⟨⟨8, 0, by decide⟩, { perCall := some 3 }, #[]⟩
    let row : Row := .pair (.text "é\n") (.integer 5)
    s.sink.IsOpen ∧ s.formatter.width ≤ Text.maxPad ∧
      ∃ lines : Bool → List (List Char),
        ∀ inset, s.Prints (.row row inset) (lines inset) ∧ (lines inset).length = 2 ∧
          Text.InColumn (keyOffset inset) 2 "é\\n".toList (lines inset) ∧
          Text.InColumn 4 4 ['5'] (lines inset) := by
  intro s row
  have hopen : s.sink.IsOpen := ⟨rfl, by decide⟩
  have hwidth : s.formatter.width ≤ Text.maxPad := by decide
  have hkey : (Cell.text "é\n").shown = "é\\n" := by decide +kernel
  have hvalue : (Cell.integer 5).shown = "5" := by decide +kernel
  have hkeyWidth : s.formatter.width / 4 = 2 := by decide
  have hvalueWidth : s.formatter.width - 2 - 2 = 4 := by decide
  have hneeded : max 1 (max ("é\\n".length ⌈/⌉ 2) ("5".length ⌈/⌉ 4)) = 2 := by decide
  obtain ⟨lines, hlines, -⟩ := prints_pair hopen hwidth (.text "é\n") (.integer 5)
  rw [hkey, hvalue, hkeyWidth, hvalueWidth] at hlines
  refine ⟨hopen, hwidth, lines, fun inset => ?_⟩
  obtain ⟨hprints, hlength, -, hkeys, hvalues⟩ := hlines inset
  exact ⟨hprints, hlength.trans hneeded, hkeys, hvalues⟩

end FixedWidth
