import FixedWidth.Proofs.RowLines

/-!
# The lines that a row takes

How many lines a row is said to take follows from the lengths of its texts.  A row that has been
printed has brought as many line feeds to the sink, and besides them only those that are in a text
printed as it is.  So no text in a column is ever taken for a line of its own, but a status line and
values side by side may be.
-/

namespace FixedWidth

open Input (lineFeed)

namespace Row

/-- The lines that a row needs in columns of a fixed width.  A text without characters needs one. -/
def linesNeeded (width : Nat) : Row → Nat
  | .empty => 0
  | .line _ => 1
  | .single c => max 1 (c.shown.length ⌈/⌉ width)
  | .pair k v =>
    max 1 (max (k.shown.length ⌈/⌉ (pairWidths width).1) (v.shown.length ⌈/⌉ (pairWidths width).2))
  | .wide _ => 1

theorem length_pieces_shown {width : Nat} (h : 0 < width) (c : Cell) :
    (Text.pieces (width - 1) c.shown.toList).length = max 1 (c.shown.length ⌈/⌉ width) := by
  rw [Text.length_pieces, Nat.sub_add_cancel h, String.length_toList]

theorem lineCount_eq_linesNeeded {width : Nat} (h : minWidth ≤ width) (row : Row) :
    row.lineCount width = row.linesNeeded width := by
  cases row with
  | single c =>
      have hpos : 0 < width := Nat.lt_of_lt_of_le (by decide) h
      rw [lineCount_single, length_pieces_shown hpos, linesNeeded]
  | pair k v =>
      obtain ⟨hkey, hvalue⟩ := pairWidths_pos h
      rw [lineCount_pair, length_pieces_shown hkey, length_pieces_shown hvalue, linesNeeded]
      omega
  | empty => rfl
  | line s => rfl
  | wide cells => rfl

end Row

namespace Step

variable {step : Step} {row : Row} {inset : Bool}

theorem marks_of_row? (h : step.row? = some (row, inset)) (f : Formatter) :
    step.marks f = row.marks f.width inset := by
  cases step with
  | header titles => cases h
  | footer elapsed => cases h
  | row r i =>
      cases h
      rfl
  | line number text =>
      simp only [marks, h]
      rfl

theorem settle_of_row? (h : step.row? = some (row, inset)) (s : Session) :
    s.settle step = s.printed row := by
  cases step with
  | header titles => cases h
  | footer elapsed => cases h
  | row r i =>
      cases h
      rfl
  | line number text =>
      simp only [Session.settle, h]
      rfl

end Step

namespace Session

/-- A row that is printed, on any sink and for any width, brings a line feed for every line that it
needs and for every line feed in a text printed as it is.  If the row is counted, the lines that it
needs are noted, so what is noted for a wrapped row is what stands on the sink. -/
theorem count_lineFeed_of_printed_row {s t : Session} {step : Step} {row : Row} {inset : Bool}
    (hrow : step.row? = some (row, inset)) (hstep : s.step step = (none, t)) :
    ∃ out, t.sink.taken.toList = s.sink.taken.toList ++ out ∧
      out.count lineFeed = row.linesNeeded s.formatter.width + row.ownLineFeeds ∧
      t.events =
        if row.isCounted then
          s.events.push (.rendered t.formatter.rowCount (row.linesNeeded s.formatter.width))
        else s.events := by
  rw [step_eq, Step.marks_of_row? hrow] at hstep
  rcases hdraw : s.sink.draw (row.marks s.formatter.width inset) with ⟨_ | failure, sink⟩
  · rw [hdraw] at hstep
    obtain ⟨hmarks, htook⟩ := Sink.took_draw_of_none hdraw
    have hneeded := row.lineCount_eq_linesNeeded s.formatter.minWidth_le
    have ht : t = { s with sink }.printed row := by
      rw [← Step.settle_of_row? hrow]
      exact (congrArg Prod.snd hstep).symm
    subst ht
    refine ⟨row.rendering s.formatter.width inset, htook.taken, ?_, ?_⟩
    · rw [Row.count_rendering (Row.forall_isSome_text?_iff.1 hmarks), hneeded]
    · simp only [printed, Formatter.width_counting, hneeded]
  · rw [hdraw] at hstep
    cases hstep

/-- A key with a line break takes two lines of its narrow column, and so do the bytes. -/
theorem count_lineFeed_of_broken_key :
    let s : Session := ⟨⟨8, 4, by decide⟩, { perCall := some 1, interrupts := true }, #[]⟩
    let row : Row := .pair (.text "a\n") (.text "cd")
    let step : Step := .row row false
    step.row? = some (row, false) ∧ (s.step step).1 = none ∧
      (s.step step).2.sink.taken.toList.count lineFeed = 2 ∧
      (s.step step).2.events = #[.rendered 5 2] := by
  intro s row step
  have hnone : (s.step step).1 = none := by decide +kernel
  have hstep : s.step step = (none, (s.step step).2) := Prod.ext hnone rfl
  obtain ⟨out, htaken, hcount, hevents⟩ := count_lineFeed_of_printed_row rfl hstep
  have hneeded : row.linesNeeded s.formatter.width = 2 := by decide +kernel
  have hrows : (s.step step).2.formatter.rowCount = 5 := by decide +kernel
  refine ⟨rfl, hnone, ?_, ?_⟩
  · rw [htaken]
    exact hcount.trans (by rw [hneeded]; rfl)
  · rw [hevents, hneeded, hrows]
    rfl

/-- A status line may look like a shorter one and a closing line, and values side by side may take
two lines where one is noted. -/
theorem lines_forged_by_printed_text :
    let s : Session := ⟨⟨8, 0, by decide⟩, {}, #[]⟩
    let status := s.step (.row (.line "x       \n0 row(s) in 0.0000 seconds") true)
    let wide := s.step (.row (.wide [.text "a\nb", .text "c", .text "d"]) true)
    status.1 = none ∧ status.2.sink.taken.toList.count lineFeed = 2 ∧
      status.2.sink.taken =
        (s.run [.row (.line "x") true, .footer (some .none)]).2.sink.taken ∧
      wide.1 = none ∧ wide.2.sink.taken.toList.count lineFeed = 2 ∧
        wide.2.events = #[.rendered 1 1] := by
  decide +kernel

end Session

end FixedWidth
