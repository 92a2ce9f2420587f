import FixedWidth.Proofs.InputLines
import FixedWidth.Proofs.SinkRoom
import FixedWidth.Session

/-!
# A step as drawing and settling

Every step of a session draws some marks, which depend on the formatter alone, and then settles:
the session is changed only after all of them have been drawn.  A step that is stopped while it
draws leaves the formatter as it was.
-/

namespace FixedWidth

/-! ## Marks that can be drawn -/

@[simp] theorem column_mem_singleLine {columnWidth width : Nat} {s line : String} :
    .column columnWidth s ∈ singleLine width line ↔ columnWidth = width ∧ s = line := by
  simp [singleLine, Mark.newline]

@[simp] theorem column_mem_pairLine {columnWidth width : Nat} {inset : Bool} {s : String}
    {line : String × String} :
    .column columnWidth s ∈ pairLine width inset line ↔
      columnWidth = (pairWidths width).1 ∧ s = line.1 ∨
        columnWidth = (pairWidths width).2 ∧ s = line.2 := by
  cases inset <;> simp [pairLine, Mark.newline, Mark.space]

/-- The width of the widest column that a row has to fill. -/
def Row.columnWidth (width : Nat) : Row → Nat
  | .empty | .wide _ => 0
  | .line _ | .single _ => width
  | .pair _ _ => max (pairWidths width).1 (pairWidths width).2

theorem Row.columnWidth_le (row : Row) (width : Nat) : row.columnWidth width ≤ width := by
  cases row with
  | pair k v =>
      simp only [columnWidth, pairWidths]
      omega
  | empty => exact Nat.zero_le width
  | wide cells => exact Nat.zero_le width
  | line s => exact Nat.le_refl width
  | single c => exact Nat.le_refl width

theorem Row.le_columnWidth_of_mem {row : Row} {inset : Bool} {width columnWidth : Nat} {s : String}
    (h : .column columnWidth s ∈ row.marks width inset) : columnWidth ≤ row.columnWidth width := by
  cases row with
  | empty => simp [marks] at h
  | line t => exact Nat.le_of_eq (column_mem_singleLine.mp h).1
  | single c =>
      obtain ⟨t, _, ht⟩ := List.mem_flatMap.mp h
      exact Nat.le_of_eq (column_mem_singleLine.mp ht).1
  | pair k v =>
      obtain ⟨t, _, ht⟩ := List.mem_flatMap.mp h
      rcases column_mem_pairLine.mp ht with ⟨rfl, _⟩ | ⟨rfl, _⟩
      · exact Nat.le_max_left _ _
      · exact Nat.le_max_right _ _
  | wide cells => simp [marks, Mark.space, Mark.newline] at h

theorem sideBySide_ne_nil {keys : List String} (h : keys ≠ []) (values : List String) :
    sideBySide keys values ≠ [] := by
  cases keys with
  | nil => exact absurd rfl h
  | cons k keys => cases values <;> simp [sideBySide]

theorem Row.exists_column_columnWidth (row : Row) (inset : Bool) (width : Nat) :
    row.columnWidth width = 0 ∨ ∃ s, .column (row.columnWidth width) s ∈ row.marks width inset := by
  have hwrap (columnWidth : Nat) (c : Cell) : Text.wrap columnWidth c.shown ≠ [] := by
    simp [Text.wrap, Text.pieces_ne_nil]
  cases row with
  | empty => exact .inl rfl
  | line s => exact .inr ⟨s, column_mem_singleLine.2 ⟨rfl, rfl⟩⟩
  | single c =>
      obtain ⟨piece, hpiece⟩ := List.exists_mem_of_ne_nil _ (hwrap width c)
      exact .inr ⟨piece, List.mem_flatMap.2 ⟨piece, hpiece, column_mem_singleLine.2 ⟨rfl, rfl⟩⟩⟩
  | pair k v =>
      have hne : pairLines width k v ≠ [] := sideBySide_ne_nil (hwrap (pairWidths width).1 k) _
      obtain ⟨line, hline⟩ := List.exists_mem_of_ne_nil _ hne
      rw [columnWidth]
      rcases Nat.le_total (pairWidths width).1 (pairWidths width).2 with hle | hle
      · rw [Nat.max_eq_right hle]
        exact .inr ⟨line.2, List.mem_flatMap.2
          ⟨line, hline, column_mem_pairLine.2 (.inr ⟨rfl, rfl⟩)⟩⟩
      · rw [Nat.max_eq_left hle]
        exact .inr ⟨line.1, List.mem_flatMap.2
          ⟨line, hline, column_mem_pairLine.2 (.inl ⟨rfl, rfl⟩)⟩⟩
  | wide cells => exact .inl rfl

theorem Mark.isSome_text?_column {width : Nat} {s : String} :
    (Mark.column width s).text?.isSome ↔ width ≤ Text.maxPad := by
  rw [Mark.text?, Text.pad?]
  split <;> simp [*]

/-- A row can be drawn to its end if its widest column can be filled, and only then. -/
theorem Row.forall_isSome_text?_iff {row : Row} {inset : Bool} {width : Nat} :
    (∀ m ∈ row.marks width inset, m.text?.isSome) ↔ row.columnWidth width ≤ Text.maxPad := by
  constructor
  · intro h
    rcases row.exists_column_columnWidth inset width with hzero | ⟨s, hmem⟩
    · rw [hzero]
      exact Nat.zero_le _
    · exact Mark.isSome_text?_column.1 (h _ hmem)
  · intro hwidth m hm
    cases m with
    | text s => rfl
    | column columnWidth s =>
        exact Mark.isSome_text?_column.2 (Nat.le_trans (Row.le_columnWidth_of_mem hm) hwidth)

/-! ## The two parts of a step -/

namespace Step

/-- The row that a step prints, not counting titles. -/
def row? : Step → Option (Row × Bool)
  | .row r inset => some (r, inset)
  | .line number text =>
    match parseRow number text with
    | .ok (some r) => some (r, true)
    | _ => none
  | .header _ | .footer _ => none

def marks (f : Formatter) : Step → List Mark
  | .header titles => (Row.ofTitles titles).marks f.width false
  | .footer none => []
  | .footer (some t) => [.text (summary f.rowCount t), .newline]
  | step => (step.row?.map fun p => p.1.marks f.width p.2).getD []

/-- The width of the widest column that a step has to fill. -/
def columnWidth (width : Nat) : Step → Nat
  | .header titles => (Row.ofTitles titles).columnWidth width
  | .footer _ => 0
  | step => (step.row?.map fun p => p.1.columnWidth width).getD 0

theorem columnWidth_le (step : Step) (width : Nat) : step.columnWidth width ≤ width := by
  cases step with
  | header titles => exact (Row.ofTitles titles).columnWidth_le width
  | row row inset => exact row.columnWidth_le width
  | line number text =>
      simp only [columnWidth, row?]
      rcases parseRow number text with failure | _ | row
      · exact Nat.zero_le width
      · exact Nat.zero_le width
      · exact row.columnWidth_le width
  | footer elapsed => exact Nat.zero_le width

theorem forall_isSome_text?_iff {step : Step} {f : Formatter} :
    (∀ m ∈ step.marks f, m.text?.isSome) ↔ step.columnWidth f.width ≤ Text.maxPad := by
  cases step with
  | header titles => exact Row.forall_isSome_text?_iff
  | row row inset => exact Row.forall_isSome_text?_iff
  | line number text =>
      simp only [marks, columnWidth, row?]
      rcases parseRow number text with failure | _ | row
      · simp
      · simp
      · exact Row.forall_isSome_text?_iff
  | footer elapsed => cases elapsed <;> simp [marks, columnWidth, Mark.newline, Mark.text?]

/-- The failure of a step for which there is nothing to draw. -/
def refusal : Step → Option Failure
  | .line number text =>
    match parseRow number text with
    | .error failure => some failure
    | .ok _ => none
  | _ => none

end Step

/-- What becomes of a formatter when a step has been drawn. -/
def Formatter.after (f : Formatter) : Step → Formatter
  | .header _ => f.reset
  | .footer _ => f
  | step => (step.row?.map fun p => f.counting p.1).getD f

@[simp] theorem Formatter.width_after (f : Formatter) (step : Step) :
    (f.after step).width = f.width := by
  cases step with
  | header titles => rfl
  | row r inset => exact Formatter.width_counting f r
  | line number text =>
      simp only [Formatter.after, Step.row?]
      rcases parseRow number text with failure | _ | r
      · rfl
      · rfl
      · exact Formatter.width_counting f r
  | footer elapsed => rfl

def Session.settle (s : Session) : Step → Session
  | .header titles =>
    if titles.isEmpty then s.restart else (s.printed (Row.ofTitles titles)).restart
  | .footer _ => s
  | step => (step.row?.map fun p => s.printed p.1).getD s

namespace Session

/-- Drawing comes first, and only a step that has been drawn settles. -/
theorem step_eq (s : Session) (step : Step) :
    s.step step =
      match s.sink.draw (step.marks s.formatter) with
      | (some failure, sink) => (some failure, { s with sink })
      | (none, sink) => (step.refusal, { s with sink }.settle step) := by
  cases step with
  | header titles =>
      cases titles with
      | nil => rfl
      | cons t ts =>
          simp only [Session.step, header, List.isEmpty_cons, Bool.false_eq_true, if_false, row,
            Step.marks, Step.refusal, settle]
          rcases s.sink.draw ((Row.ofTitles (t :: ts)).marks s.formatter.width false) with
            ⟨_ | failure, sink⟩ <;> rfl
  | row row inset => rfl
  | line number text =>
      simp only [Session.step, Step.marks, Step.refusal, settle, Step.row?]
      rcases parseRow number text with failure | _ | row <;> rfl
  | footer elapsed =>
      cases elapsed with
      | none => rfl
      | some t =>
          simp only [Session.step, footer, Step.marks, Step.refusal, settle]
          rcases s.sink.draw [.text (summary s.formatter.rowCount t), .newline] with
            ⟨_ | failure, sink⟩ <;> rfl

@[simp] theorem run_nil (s : Session) : s.run [] = ([], s) := rfl

theorem run_cons (s : Session) (step : Step) (steps : List Step) :
    s.run (step :: steps) =
      ((s.step step).1 :: ((s.step step).2.run steps).1, ((s.step step).2.run steps).2) := rfl

theorem sink_settle (s : Session) (step : Step) : (s.settle step).sink = s.sink := by
  cases step with
  | header titles => cases titles <;> rfl
  | row row inset => rfl
  | line number text =>
      simp only [settle, Step.row?]
      rcases parseRow number text with failure | _ | row <;> rfl
  | footer elapsed => rfl

theorem formatter_settle (s : Session) (step : Step) :
    (s.settle step).formatter = s.formatter.after step := by
  cases step with
  | header titles =>
      cases titles with
      | nil => rfl
      | cons t ts =>
          show (s.formatter.counting (Row.ofTitles (t :: ts))).reset = s.formatter.reset
          unfold Formatter.counting
          split <;> rfl
  | row row inset => rfl
  | line number text =>
      simp only [settle, Step.row?, Formatter.after]
      rcases parseRow number text with failure | _ | row <;> rfl
  | footer elapsed => rfl

@[simp] theorem width_step (s : Session) (step : Step) :
    (s.step step).2.formatter.width = s.formatter.width := by
  rw [step_eq]
  rcases s.sink.draw (step.marks s.formatter) with ⟨_ | failure, sink⟩
  · show ({ s with sink }.settle step).formatter.width = s.formatter.width
    rw [formatter_settle, Formatter.width_after]
  · rfl

@[simp] theorem width_run (s : Session) (steps : List Step) :
    (s.run steps).2.formatter.width = s.formatter.width := by
  induction steps generalizing s with
  | nil => rfl
  | cons step steps ih => rw [run_cons, ih, width_step]

end Session

/-! ## A step on a sink -/

def Step.bytes (f : Formatter) (step : Step) : List UInt8 :=
  (step.marks f).flatMap Mark.bytes

theorem Step.refusal_ne_stream (step : Step) (cause : StreamFault) :
    step.refusal ≠ some (.stream cause) := by
  intro h
  cases step with
  | line number text =>
      simp only [Step.refusal] at h
      split at h
      · rename_i failure hline
        obtain ⟨-, refusal, -, rfl⟩ := parseRow_eq_error_iff.1 hline
        simp at h
      · simp at h
  | _ => simp [Step.refusal] at h

namespace Session

/-- What has come of a step: the sink has been written to, and the formatter has moved on unless
the sink refused. -/
structure Stepped (s : Session) (step : Step) (fault : Option StreamFault)
    (result : Option Failure × Session) : Prop where
  wrote : s.sink.Wrote (step.bytes s.formatter) fault result.2.sink
  failure_eq : result.1 = (fault.map Failure.stream).or step.refusal
  formatter_eq : result.2.formatter = if fault.isSome then s.formatter else s.formatter.after step

theorem stepped_step (s : Session) (hwidth : s.formatter.width ≤ Text.maxPad)
    (hcall : s.sink.perCall ≠ some 0) (step : Step) :
    ∃ fault, s.Stepped step fault (s.step step) := by
  have hcolumn := Nat.le_trans (step.columnWidth_le s.formatter.width) hwidth
  obtain ⟨fault, hfault, hwrote⟩ := s.sink.wrote_draw hcall (step.marks s.formatter)
    (Step.forall_isSome_text?_iff.2 hcolumn)
  refine ⟨fault, ?_⟩
  rw [step_eq]
  rcases hd : s.sink.draw (step.marks s.formatter) with ⟨failure, sink⟩
  rw [hd] at hfault hwrote
  subst hfault
  cases fault with
  | none =>
      refine ⟨?_, rfl, ?_⟩
      · show s.sink.Wrote (step.bytes s.formatter) none ({ s with sink }.settle step).sink
        rw [sink_settle]
        exact hwrote
      · exact formatter_settle { s with sink } step
  | some cause => exact ⟨hwrote, rfl, rfl⟩

theorem Stepped.perCall_ne {s : Session} {step : Step} {fault : Option StreamFault}
    {result : Option Failure × Session} (h : s.Stepped step fault result)
    (hcall : s.sink.perCall ≠ some 0) : result.2.sink.perCall ≠ some 0 := by
  rw [h.wrote.took.perCall]
  exact hcall

end Session

end FixedWidth
