import FixedWidth.Proofs.BoundedSession
import FixedWidth.Proofs.RowLines

/-!
# Wrapped rows show their cells

What is printed for a row in columns can be read back.  The columns are told apart by position on
every line, the fields of a column are put together again, and the text in them is the escaped text
of a cell.  Only spaces at the end of a text cannot be told from those that fill up its column.
-/

namespace FixedWidth

/-! ## Two columns on a line -/

theorem pairText_inj {inset : Bool} {key key' value value' : List Char}
    (h : key.length = key'.length) :
    pairText inset key value = pairText inset key' value' ↔ key = key' ∧ value = value' := by
  constructor
  · intro heq
    simp only [pairText, List.append_assoc, List.append_right_inj] at heq
    obtain ⟨rfl, hrest⟩ := List.append_inj heq h
    rw [List.append_right_inj, List.append_right_inj] at hrest
    exact ⟨rfl, hrest⟩
  · rintro ⟨rfl, rfl⟩
    rfl

/-- Where all keys are equally long, lines show their keys and their values. -/
theorem zipWith_pairText_inj {inset : Bool} {n : Nat} {keys keys' values values' : List (List Char)}
    (hkeys : ∀ k ∈ keys, k.length = n) (hkeys' : ∀ k ∈ keys', k.length = n)
    (hlines : keys.length = values.length) (hlines' : keys'.length = values'.length) :
    List.zipWith (pairText inset) keys values = List.zipWith (pairText inset) keys' values' ↔
      keys = keys' ∧ values = values' := by
  induction keys generalizing keys' values values' with
  | nil =>
      cases List.eq_nil_of_length_eq_zero hlines.symm
      cases keys' with
      | nil =>
          cases List.eq_nil_of_length_eq_zero hlines'.symm
          simp
      | cons k' keys' =>
          cases values' with
          | nil => cases hlines'
          | cons v' values' => simp
  | cons k keys ih =>
      cases values with
      | nil => cases hlines
      | cons v values =>
          cases keys' with
          | nil => simp
          | cons k' keys' =>
              cases values' with
              | nil => cases hlines'
              | cons v' values' =>
                  rw [List.forall_mem_cons] at hkeys hkeys'
                  have hlength : k.length = k'.length := hkeys.1.trans hkeys'.1.symm
                  have hrest := ih hkeys.2 hkeys'.2 (Nat.succ.inj hlines) (Nat.succ.inj hlines')
                  simp only [List.zipWith_cons_cons, List.cons.injEq, pairText_inj hlength, hrest]
                  exact and_and_and_comm

/-! ## Rows -/

namespace Row

/-- Rows with the same lines have as many of them, so only such rows have to be compared. -/
theorem textLines_eq_iff {row row' : Row} {width : Nat} {inset inset' : Bool} {P : Prop}
    (h : row.lineCount width = row'.lineCount width →
      (row.textLines width inset = row'.textLines width inset' ↔ P)) :
    row.textLines width inset = row'.textLines width inset' ↔
      row.lineCount width = row'.lineCount width ∧ P := by
  constructor
  · intro heq
    have hcount : row.lineCount width = row'.lineCount width := by
      rw [← row.length_textLines width inset, heq, row'.length_textLines width inset']
    exact ⟨hcount, (h hcount).1 heq⟩
  · rintro ⟨hcount, hP⟩
    exact (h hcount).2 hP

theorem fields_shown_inj {width lines : Nat} (hwidth : 0 < width) {c d : Cell}
    (hc : (Text.pieces (width - 1) c.shown.toList).length ≤ lines)
    (hd : (Text.pieces (width - 1) d.shown.toList).length ≤ lines) :
    Text.fields width lines c.shown.toList = Text.fields width lines d.shown.toList ↔
      Text.trimSpaces c.display.toList = Text.trimSpaces d.display.toList := by
  rw [Text.fields_inj hwidth hc hd, c.toList_shown, d.toList_shown, Text.trimSpaces_escapeChars_inj]

theorem textLines_single_inj {width : Nat} (hwidth : minWidth ≤ width) {c d : Cell}
    {inset inset' : Bool} :
    (Row.single c).textLines width inset = (Row.single d).textLines width inset' ↔
      (Row.single c).lineCount width = (Row.single d).lineCount width ∧
        Text.trimSpaces c.display.toList = Text.trimSpaces d.display.toList := by
  have hpos : 0 < width := Nat.lt_of_lt_of_le (by decide) hwidth
  apply textLines_eq_iff
  intro hcount
  rw [textLines, textLines, hcount]
  apply fields_shown_inj hpos
  · rw [← lineCount_single, hcount]
  · rw [← lineCount_single]

theorem textLines_pair_inj {width : Nat} (hwidth : minWidth ≤ width) {k v k' v' : Cell}
    {inset : Bool} :
    (Row.pair k v).textLines width inset = (Row.pair k' v').textLines width inset ↔
      (Row.pair k v).lineCount width = (Row.pair k' v').lineCount width ∧
        Text.trimSpaces k.display.toList = Text.trimSpaces k'.display.toList ∧
          Text.trimSpaces v.display.toList = Text.trimSpaces v'.display.toList := by
  obtain ⟨hkeyPos, hvaluePos⟩ := pairWidths_pos hwidth
  apply textLines_eq_iff
  intro hcount
  have hk := length_keyPieces_le width k v
  have hv := length_valuePieces_le width k v
  have hk' := length_keyPieces_le width k' v'
  have hv' := length_valuePieces_le width k' v'
  rw [hcount] at hk hv
  rw [textLines, textLines, hcount, zipWith_pairText_inj, fields_shown_inj hkeyPos hk hk',
    fields_shown_inj hvaluePos hv hv']
  · exact fun key => Text.length_of_mem_fields hkeyPos
  · exact fun key => Text.length_of_mem_fields hkeyPos
  · rw [Text.length_fields hk, Text.length_fields hv]
  · rw [Text.length_fields hk', Text.length_fields hv']

end Row

namespace Formatter

theorem output_row {f : Formatter} (hwidth : f.width ≤ Text.maxPad) (row : Row) (inset : Bool) :
    f.output (.row row inset) = Input.utf8 (Text.ended (row.textLines f.width inset)) := by
  rw [output_eq_bytes hwidth]
  exact Row.rendering_eq_utf8 (Nat.le_trans (row.columnWidth_le f.width) hwidth) inset

theorem output_row_inj {f : Formatter} (hwidth : f.width ≤ Text.maxPad) {row row' : Row}
    {inset inset' : Bool} (hrow : row.isWrapped = true) (hrow' : row'.isWrapped = true) :
    f.output (.row row inset) = f.output (.row row' inset') ↔
      row.textLines f.width inset = row'.textLines f.width inset' := by
  rw [output_row hwidth, output_row hwidth, Input.utf8_inj,
    Text.ended_inj (fun _ => Row.lineFeed_notMem_textLines hrow)
      fun _ => Row.lineFeed_notMem_textLines hrow']

theorem count_output_row {f : Formatter} (hwidth : f.width ≤ Text.maxPad) {row : Row}
    (hrow : row.isWrapped = true) (inset : Bool) :
    (f.output (.row row inset)).count Input.lineFeed = row.lineCount f.width := by
  rw [output_eq_bytes hwidth, ← Nat.add_zero (row.lineCount f.width),
    ← Row.ownLineFeeds_of_isWrapped hrow]
  exact Row.count_rendering (Nat.le_trans (row.columnWidth_le f.width) hwidth) inset

/-- Two wrapped rows are printed alike if they take as many lines and their texts differ at most in
the spaces at their ends.  The lines that they take are those that can be counted in the output,
and each is a line of the layout. -/
theorem output_wrapped_row_inj (f : Formatter) (hwidth : f.width ≤ Text.maxPad) :
    let lines (row : Row) (inset : Bool) := (f.output (.row row inset)).count Input.lineFeed
    (∀ (s t : String) (inset inset' : Bool),
      f.output (.row (.single (.text s)) inset) = f.output (.row (.single (.text t)) inset') ↔
        lines (.single (.text s)) inset = lines (.single (.text t)) inset' ∧
          Text.trimSpaces s.toList = Text.trimSpaces t.toList) ∧
      (∀ (k v k' v' : String) (inset : Bool),
        f.output (.row (.pair (.text k) (.text v)) inset) =
            f.output (.row (.pair (.text k') (.text v')) inset) ↔
          lines (.pair (.text k) (.text v)) inset = lines (.pair (.text k') (.text v')) inset ∧
            Text.trimSpaces k.toList = Text.trimSpaces k'.toList ∧
              Text.trimSpaces v.toList = Text.trimSpaces v'.toList) ∧
        ∀ (row : Row) (inset : Bool), row.isWrapped = true →
          lines row inset = row.lineCount f.width := by
  intro lines
  have hlines (row : Row) (inset : Bool) (hrow : row.isWrapped = true) :
      lines row inset = row.lineCount f.width := count_output_row hwidth hrow inset
  refine ⟨?_, ?_, hlines⟩
  · intro s t inset inset'
    rw [hlines _ _ rfl, hlines _ _ rfl, output_row_inj hwidth rfl rfl]
    exact Row.textLines_single_inj f.minWidth_le
  · intro k v k' v' inset
    rw [hlines _ _ rfl, hlines _ _ rfl, output_row_inj hwidth rfl rfl]
    exact Row.textLines_pair_inj f.minWidth_le

/-- A line break that is escaped over the end of a line is not taken for a backslash and a letter,
and of the spaces behind a key or its value nothing is to be seen. -/
theorem output_of_broken_escape :
    let f : Formatter := ⟨8, 0, by decide⟩
    f.width ≤ Text.maxPad ∧
      f.output (.row (.single (.text "abcdefg\n")) true) ≠
        f.output (.row (.single (.text "abcdefg\\n")) true) ∧
      f.output (.row (.pair (.text "k ") (.text "v")) false) =
        f.output (.row (.pair (.text "k") (.text "v  ")) false) := by
  intro f
  have hwidth : f.width ≤ Text.maxPad := by decide
  obtain ⟨hsingle, hpair, _⟩ := output_wrapped_row_inj f hwidth
  refine ⟨hwidth, ?_, ?_⟩
  · intro h
    have htrim := ((hsingle _ _ _ _).1 h).2
    exact absurd htrim (by decide)
  · apply (hpair _ _ _ _ _).2
    decide +kernel

end Formatter

end FixedWidth
