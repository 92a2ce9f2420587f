import FixedWidth.Proofs.CellText
import FixedWidth.Proofs.InputLines
import FixedWidth.Proofs.SessionStep
import FixedWidth.Proofs.Text.ColumnFields

/-!
# The lines of a row

A row is printed line by line.  On the lines of a wrapped row stand the fields of its texts, which
are escaped, so a line feed on the sink is the end of a line that the row is said to take.  What is
printed as it is may hold line feeds of its own.
-/

namespace FixedWidth

/-! ## Lines of text -/

namespace Input

theorem utf8_inj {s t : List Char} : utf8 s = utf8 t ↔ s = t := by
  constructor
  · intro h
    have hread := fromUTF8?_utf8 s
    rw [h, fromUTF8?_utf8 t, Option.some.injEq, String.ofList_inj] at hread
    exact hread.symm
  · rintro rfl
    rfl

theorem count_utf8 (s : List Char) : (utf8 s).count lineFeed = s.count '\n' := by
  induction s with
  | nil => rfl
  | cons c s ih =>
      have hsplit : utf8 (c :: s) = utf8 [c] ++ utf8 s := utf8_append [c] s
      rw [hsplit, List.count_append, ih, List.count_cons, Nat.add_comm]
      congr 1
      by_cases hc : c = '\n'
      · subst hc
        decide
      · rw [if_neg (by simpa using hc), List.count_eq_zero]
        exact lineFeed_notMem_utf8 (by simpa using Ne.symm hc)

end Input

namespace Text

/-- Lines with a line feed behind each. -/
def ended (lines : List (List Char)) : List Char :=
  lines.flatMap fun l => l ++ ['\n']

theorem utf8_ended (lines : List (List Char)) :
    Input.utf8 (ended lines) = lines.flatMap fun l => Input.utf8 (l ++ ['\n']) :=
  List.flatMap_assoc

theorem ended_inj {lines others : List (List Char)} (h : ∀ l ∈ lines, '\n' ∉ l)
    (h' : ∀ l ∈ others, '\n' ∉ l) : ended lines = ended others ↔ lines = others := by
  constructor
  · intro heq
    have hsplit := congrArg (split '\n') heq
    rw [ended, ended, split_ended h, split_ended h'] at hsplit
    exact List.append_cancel_right hsplit
  · rintro rfl
    rfl

theorem count_ended (lines : List (List Char)) :
    (ended lines).count '\n' = lines.length + (lines.map (List.count '\n')).sum := by
  induction lines with
  | nil => rfl
  | cons l lines ih =>
      have hcons : ended (l :: lines) = (l ++ ['\n']) ++ ended lines := List.flatMap_cons
      rw [hcons, List.count_append, List.count_append, List.count_singleton_self, ih,
        List.length_cons, List.map_cons, List.sum_cons]
      omega

end Text

/-! ## Marks -/

open Input (utf8)

theorem Mark.bytes_text (s : String) : (Mark.text s).bytes = utf8 s.toList :=
  Input.toUTF8_eq_utf8 s

theorem Mark.bytes_column {width : Nat} (h : width ≤ Text.maxPad) (s : String) :
    (Mark.column width s).bytes = utf8 (Text.fill width s.toList) := by
  rw [Mark.bytes, Mark.text?, Text.pad?_eq_fill h, Option.getD_some, Input.toUTF8_eq_utf8,
    String.toList_ofList]

theorem bytes_singleLine {width : Nat} (h : width ≤ Text.maxPad) (s : String) :
    (singleLine width s).flatMap Mark.bytes = utf8 (Text.fill width s.toList ++ ['\n']) := by
  simp [singleLine, Mark.newline, Mark.bytes_text, Mark.bytes_column h, ← Input.utf8_append]

def pairText (inset : Bool) (key value : List Char) : List Char :=
  (if inset then [' '] else []) ++ key ++ (if inset then [] else [' ']) ++ [' '] ++ value

theorem bytes_pairLine {width : Nat}
    (h : max (pairWidths width).1 (pairWidths width).2 ≤ Text.maxPad) (inset : Bool)
    (line : String × String) :
    (pairLine width inset line).flatMap Mark.bytes =
      utf8 (pairText inset (Text.fill (pairWidths width).1 line.1.toList)
        (Text.fill (pairWidths width).2 line.2.toList) ++ ['\n']) := by
  have hkey := Mark.bytes_column (Nat.le_trans (Nat.le_max_left _ _) h) line.1
  have hvalue := Mark.bytes_column (Nat.le_trans (Nat.le_max_right _ _) h) line.2
  have hspace : (Mark.text " ").bytes = utf8 [' '] := Mark.bytes_text " "
  have hnewline : (Mark.text "\n").bytes = utf8 ['\n'] := Mark.bytes_text "\n"
  cases inset <;> simp [pairLine, pairText, Mark.newline, Mark.space, hspace, hnewline, hkey,
    hvalue, ← Input.utf8_append]

theorem pairWidths_pos {width : Nat} (h : minWidth ≤ width) :
    0 < (pairWidths width).1 ∧ 0 < (pairWidths width).2 := by
  simp only [minWidth, pairWidths, columnGap] at h ⊢
  omega

theorem sideBySide_eq_zip (keys values : List String) :
    sideBySide keys values =
      (keys ++ List.replicate (values.length - keys.length) "").zip
        (values ++ List.replicate (keys.length - values.length) "") := by
  unfold sideBySide
  induction keys generalizing values with
  | nil =>
      induction values with
      | nil => rfl
      | cons v values ih => simpa [List.replicate_succ] using ih
  | cons k keys ih =>
      cases values with
      | nil =>
          have hrest := ih []
          simpa [List.replicate_succ] using hrest
      | cons v values =>
          have hrest := ih values
          simpa [Nat.succ_sub_succ] using hrest

/-! ## Rows -/

namespace Row

/-- The lines of a row without their ends.  Only the fields of wrapped rows are cut to a width. -/
def textLines (width : Nat) (inset : Bool) : Row → List (List Char)
  | .empty => []
  | .line s => [Text.fill width s.toList]
  | .single c => Text.fields width (lineCount width (.single c)) c.shown.toList
  | .pair k v =>
    List.zipWith (pairText inset)
      (Text.fields (pairWidths width).1 (lineCount width (.pair k v)) k.shown.toList)
      (Text.fields (pairWidths width).2 (lineCount width (.pair k v)) v.shown.toList)
  | .wide cells => [[' '] ++ (" ".intercalate (cells.map Cell.display)).toList]

theorem lineCount_single (width : Nat) (c : Cell) :
    (Row.single c).lineCount width = (Text.pieces (width - 1) c.shown.toList).length := by
  rw [lineCount, Text.wrap, List.length_map]

theorem pairLines_eq_zip (width : Nat) (k v : Cell) :
    pairLines width k v =
      let keys := Text.wrap (pairWidths width).1 k.shown
      let values := Text.wrap (pairWidths width).2 v.shown
      (keys ++ List.replicate (values.length - keys.length) "").zip
        (values ++ List.replicate (keys.length - values.length) "") :=
  sideBySide_eq_zip _ _

theorem lineCount_pair (width : Nat) (k v : Cell) :
    (Row.pair k v).lineCount width =
      max (Text.pieces ((pairWidths width).1 - 1) k.shown.toList).length
        (Text.pieces ((pairWidths width).2 - 1) v.shown.toList).length := by
  simp only [lineCount, pairLines_eq_zip, Text.wrap, List.length_zip,
    List.length_append, List.length_map, List.length_replicate]
  omega

theorem length_keyPieces_le (width : Nat) (k v : Cell) :
    (Text.pieces ((pairWidths width).1 - 1) k.shown.toList).length ≤
      (Row.pair k v).lineCount width := by
  rw [lineCount_pair]
  exact Nat.le_max_left _ _

theorem length_valuePieces_le (width : Nat) (k v : Cell) :
    (Text.pieces ((pairWidths width).2 - 1) v.shown.toList).length ≤
      (Row.pair k v).lineCount width := by
  rw [lineCount_pair]
  exact Nat.le_max_right _ _

theorem length_textLines (width : Nat) (inset : Bool) (row : Row) :
    (row.textLines width inset).length = row.lineCount width := by
  cases row with
  | single c => exact Text.length_fields (Nat.le_of_eq (lineCount_single width c).symm)
  | pair k v =>
      rw [textLines, List.length_zipWith, Text.length_fields (length_keyPieces_le width k v),
        Text.length_fields (length_valuePieces_le width k v), Nat.min_self]
  | empty => rfl
  | line s => rfl
  | wide cells => rfl

/-- The row is laid out in columns, over as many lines as its texts need. -/
def isWrapped : Row → Bool
  | .single _ | .pair _ _ => true
  | .empty | .line _ | .wide _ => false

theorem isUnprintable_of_mem_fields {width lines : Nat} {cell : Cell} {f : List Char} {c : Char}
    (hf : f ∈ Text.fields width lines cell.shown.toList) (hc : c ∈ f) :
    Text.isUnprintable c = false := by
  rcases Text.mem_or_eq_of_mem_fields hf hc with hc | rfl
  · exact Cell.isUnprintable_of_mem_shown hc
  · rfl

theorem isUnprintable_of_mem_textLines {row : Row} (hrow : row.isWrapped = true) {width : Nat}
    {inset : Bool} {l : List Char} {c : Char} (hl : l ∈ row.textLines width inset) (hc : c ∈ l) :
    Text.isUnprintable c = false := by
  cases row with
  | single cell => exact isUnprintable_of_mem_fields hl hc
  | pair k v =>
      rw [textLines, ← List.map_uncurry_zip_eq_zipWith] at hl
      obtain ⟨⟨key, value⟩, hline, rfl⟩ := List.mem_map.1 hl
      obtain ⟨hkey, hvalue⟩ := List.of_mem_zip hline
      have hpart : c = ' ' ∨ c ∈ key ∨ c ∈ value := by
        cases inset <;> simpa [pairText, or_assoc, or_left_comm] using hc
      rcases hpart with rfl | hc | hc
      · rfl
      · exact isUnprintable_of_mem_fields hkey hc
      · exact isUnprintable_of_mem_fields hvalue hc
  | empty => cases hrow
  | line s => cases hrow
  | wide cells => cases hrow

theorem lineFeed_notMem_textLines {row : Row} (hrow : row.isWrapped = true) {width : Nat}
    {inset : Bool} {l : List Char} (h : l ∈ row.textLines width inset) : '\n' ∉ l := by
  intro hmem
  have hprintable := isUnprintable_of_mem_textLines hrow h hmem
  cases hprintable

theorem fields_wrap {width lines : Nat} {s : String} :
    (Text.wrap width s ++ List.replicate (lines - (Text.wrap width s).length) "").map
        (fun p => Text.fill width p.toList) = Text.fields width lines s.toList := by
  simp [Text.wrap, Text.fields]

theorem rendering_single {width : Nat} (h : width ≤ Text.maxPad) (inset : Bool) (c : Cell) :
    (Row.single c).rendering width inset =
      utf8 (Text.ended ((Row.single c).textLines width inset)) := by
  have hfields : (Row.single c).textLines width inset =
      (Text.wrap width c.shown).map fun p => Text.fill width p.toList := by
    rw [textLines, lineCount, ← fields_wrap, Nat.sub_self, List.replicate_zero, List.append_nil]
  calc
    _ = (Text.wrap width c.shown).flatMap fun p => (singleLine width p).flatMap Mark.bytes :=
      List.flatMap_assoc
    _ = (Text.wrap width c.shown).flatMap fun p => utf8 (Text.fill width p.toList ++ ['\n']) := by
      simp only [bytes_singleLine h]
    _ = _ := by rw [hfields, Text.utf8_ended, List.flatMap_map]

theorem rendering_pair {width : Nat}
    (h : max (pairWidths width).1 (pairWidths width).2 ≤ Text.maxPad) (inset : Bool) (k v : Cell) :
    (Row.pair k v).rendering width inset =
      utf8 (Text.ended ((Row.pair k v).textLines width inset)) := by
  have hfields : (Row.pair k v).textLines width inset =
      (pairLines width k v).map fun line =>
        pairText inset (Text.fill (pairWidths width).1 line.1.toList)
          (Text.fill (pairWidths width).2 line.2.toList) := by
    -- Each column is continued by as many empty texts as the other one is longer.
    have hkeys (m n : Nat) : max m n - m = n - m := by omega
    have hvalues (m n : Nat) : max m n - n = m - n := by omega
    have hlines : (Row.pair k v).lineCount width =
        max (Text.wrap (pairWidths width).1 k.shown).length
          (Text.wrap (pairWidths width).2 v.shown).length := by
      rw [lineCount_pair, Text.wrap, Text.wrap, List.length_map, List.length_map]
    rw [textLines, ← fields_wrap, ← fields_wrap, List.zipWith_map, hlines, hkeys, hvalues,
      pairLines_eq_zip, List.map_zip_eq_zipWith]
    rfl
  calc
    _ = (pairLines width k v).flatMap fun line =>
        (pairLine width inset line).flatMap Mark.bytes := List.flatMap_assoc
    _ = (pairLines width k v).flatMap fun line =>
        utf8 (pairText inset (Text.fill (pairWidths width).1 line.1.toList)
          (Text.fill (pairWidths width).2 line.2.toList) ++ ['\n']) := by
      simp only [bytes_pairLine h]
    _ = _ := by rw [hfields, Text.utf8_ended, List.flatMap_map]

theorem rendering_eq_utf8 {row : Row} {width : Nat} (h : row.columnWidth width ≤ Text.maxPad)
    (inset : Bool) :
    row.rendering width inset = utf8 (Text.ended (row.textLines width inset)) := by
  cases row with
  | empty => rfl
  | line s =>
      have hended : Text.ended ((Row.line s).textLines width inset) =
          Text.fill width s.toList ++ ['\n'] := List.append_nil _
      rw [hended]
      exact bytes_singleLine h s
  | single c => exact rendering_single h inset c
  | pair k v => exact rendering_pair h inset k v
  | wide cells =>
      have hspace : (Mark.text " ").bytes = utf8 [' '] := Mark.bytes_text " "
      have hnewline : (Mark.text "\n").bytes = utf8 ['\n'] := Mark.bytes_text "\n"
      simp [rendering, marks, Mark.space, Mark.newline, hspace, hnewline, Mark.bytes_text,
        textLines, Text.ended, ← Input.utf8_append]

/-! ## Line feeds -/

/-- The line feeds in texts that are printed as they are. -/
def ownLineFeeds : Row → Nat
  | .line s => s.toList.count '\n'
  | .wide cells => (cells.map fun c => c.display.toList.count '\n').sum
  | .empty | .single _ | .pair _ _ => 0

theorem ownLineFeeds_of_isWrapped {row : Row} (h : row.isWrapped = true) :
    row.ownLineFeeds = 0 := by
  cases row with
  | single c => rfl
  | pair k v => rfl
  | empty => cases h
  | line s => cases h
  | wide cells => cases h

theorem count_intercalate_space (texts : List String) :
    (" ".intercalate texts).toList.count '\n' = (texts.map fun s => s.toList.count '\n').sum := by
  rw [String.toList_intercalate]
  induction texts with
  | nil => rfl
  | cons s texts ih =>
      cases texts with
      | nil => simp
      | cons t texts =>
          have hspace : " ".toList.count '\n' = 0 := by decide
          rw [List.map_cons, List.map_cons, List.intercalate_cons_cons, List.count_append,
            List.count_append, hspace, ← List.map_cons, ih]
          rfl

theorem sum_count_textLines (row : Row) (width : Nat) (inset : Bool) :
    ((row.textLines width inset).map (List.count '\n')).sum = row.ownLineFeeds := by
  have hwrapped (hrow : row.isWrapped = true) :
      ((row.textLines width inset).map (List.count '\n')).sum = row.ownLineFeeds := by
    rw [ownLineFeeds_of_isWrapped hrow]
    apply List.sum_eq_zero_iff_forall_eq_nat.2
    intro n hn
    obtain ⟨l, hl, rfl⟩ := List.mem_map.1 hn
    exact List.count_eq_zero.2 (lineFeed_notMem_textLines hrow hl)
  cases row with
  | single c => exact hwrapped rfl
  | pair k v => exact hwrapped rfl
  | empty => rfl
  | line s => simp [textLines, Text.fill, ownLineFeeds, List.count_replicate]
  | wide cells =>
      have htexts := count_intercalate_space (cells.map Cell.display)
      rw [List.map_map] at htexts
      have hcount : (' ' :: (" ".intercalate (cells.map Cell.display)).toList).count '\n' =
          (" ".intercalate (cells.map Cell.display)).toList.count '\n' :=
        List.count_cons_of_ne (by decide)
      rw [textLines, List.map_singleton, List.sum_singleton, List.singleton_append, hcount, htexts]
      rfl

theorem count_rendering {row : Row} {width : Nat} (h : row.columnWidth width ≤ Text.maxPad)
    (inset : Bool) :
    (row.rendering width inset).count Input.lineFeed = row.lineCount width + row.ownLineFeeds := by
  rw [rendering_eq_utf8 h, Input.count_utf8, Text.count_ended, length_textLines,
    sum_count_textLines]

end Row

end FixedWidth
