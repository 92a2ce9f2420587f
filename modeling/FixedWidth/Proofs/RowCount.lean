import FixedWidth.Proofs.SessionStep

/-!
# The count of rows

The count is compared with the record of a session, which says of each step whether it failed.
A step that fails leaves the count alone, so the count is always the number of rows printed since
the last header that was.  Nothing is assumed of the sink, and the width may be too great for
columns to be padded.
-/

namespace FixedWidth

namespace Step

def isHeader : Step → Bool
  | .header _ => true
  | .row .. | .line .. | .footer _ => false

def addsRow (step : Step) : Bool :=
  step.row?.any fun p => p.1.isCounted

theorem addsRow_line_of_forall_ne {number : Nat} {text : String}
    (h : ∀ r, parseRow number text ≠ .ok (some r)) : (Step.line number text).addsRow = false := by
  simp only [addsRow, row?]
  rcases hline : parseRow number text with failure | _ | r
  · rfl
  · rfl
  · exact absurd hline (h r)

theorem row?_of_refusal {step : Step} {failure : Failure} (h : step.refusal = some failure) :
    step.isHeader = false ∧ step.row? = none := by
  cases step with
  | line number text =>
      refine ⟨rfl, ?_⟩
      rcases hline : parseRow number text with problem | r
      · simp [row?, hline]
      · simp [refusal, hline] at h
  | _ => cases h

end Step

namespace Formatter

/-- A formatter as it is built, by any of the ways to build one. -/
def IsNew (f : Formatter) : Prop :=
  f = standard ∨ (∃ width, ofWidth width = .ok f) ∨ ∃ options, ofOptions options = .ok f

theorem rowCount_of_ofWidth {width : Nat} {f : Formatter} (h : ofWidth width = .ok f) :
    f.rowCount = 0 := by
  unfold ofWidth at h
  split at h
  · cases h
    rfl
  · cases h

theorem IsNew.rowCount_eq {f : Formatter} (h : f.IsNew) : f.rowCount = 0 := by
  rcases h with rfl | ⟨width, hwidth⟩ | ⟨options, hoptions⟩
  · rfl
  · exact rowCount_of_ofWidth hwidth
  · unfold ofOptions at hoptions
    split at hoptions
    · exact rowCount_of_ofWidth hoptions
    · cases hoptions
    · cases hoptions

theorem rowCount_counting (f : Formatter) (r : Row) :
    (f.counting r).rowCount = f.rowCount + if r.isCounted then 1 else 0 := by
  unfold counting
  split <;> rfl

theorem after_of_not_header {step : Step} (h : step.isHeader = false) (f : Formatter) :
    f.after step = (step.row?.map fun p => f.counting p.1).getD f := by
  cases step with
  | header titles => cases h
  | _ => rfl

theorem rowCount_after (f : Formatter) (step : Step) :
    (f.after step).rowCount =
      if step.isHeader then 0 else f.rowCount + if step.addsRow then 1 else 0 := by
  cases hheader : step.isHeader with
  | true =>
      cases step with
      | header titles => rfl
      | _ => cases hheader
  | false =>
      rw [after_of_not_header hheader, Step.addsRow]
      cases step.row? with
      | none => rfl
      | some p => exact rowCount_counting f p.1

/-- A line that is refused moves the formatter no more than a sink that refuses. -/
theorem after_of_refusal {step : Step} {failure : Failure} (h : step.refusal = some failure)
    (f : Formatter) : f.after step = f := by
  obtain ⟨hheader, hrow⟩ := Step.row?_of_refusal h
  rw [after_of_not_header hheader, hrow]
  rfl

end Formatter

namespace Session

theorem formatter_step (s : Session) (step : Step) :
    (s.step step).2.formatter =
      if (s.step step).1.isSome then s.formatter else s.formatter.after step := by
  rw [step_eq]
  rcases s.sink.draw (step.marks s.formatter) with ⟨_ | failure, sink⟩
  · show ({ s with sink }.settle step).formatter =
      if step.refusal.isSome then s.formatter else s.formatter.after step
    rw [formatter_settle]
    cases hrefusal : step.refusal with
    | none => rfl
    | some failure => exact Formatter.after_of_refusal hrefusal s.formatter
  · rfl

/-- The steps of a session with what came of each. -/
abbrev Record := List (Step × Option Failure)

/-- The rows printed since the last header in the record, or since its beginning. -/
def Record.rowsSinceHeader (record : Record) : Nat :=
  (record.reverse.takeWhile fun p => !(p.1.isHeader && p.2.isNone)).countP
    fun p => p.1.addsRow && p.2.isNone

theorem Record.rowsSinceHeader_concat (record : Record) (step : Step) (failure : Option Failure) :
    Record.rowsSinceHeader (record ++ [(step, failure)]) =
      if failure.isSome then record.rowsSinceHeader
      else if step.isHeader then 0
      else record.rowsSinceHeader + if step.addsRow then 1 else 0 := by
  unfold Record.rowsSinceHeader
  rw [List.reverse_append, List.reverse_singleton, List.singleton_append, List.takeWhile_cons]
  cases failure with
  | some failure => simp
  | none =>
      cases hheader : step.isHeader with
      | true => simp
      | false => simp [List.countP_cons]

theorem rowCount_step {s : Session} {record : Record}
    (h : s.formatter.rowCount = record.rowsSinceHeader) (step : Step) :
    (s.step step).2.formatter.rowCount =
      Record.rowsSinceHeader (record ++ [(step, (s.step step).1)]) := by
  rw [formatter_step, Record.rowsSinceHeader_concat, ← h]
  split
  · rfl
  · exact Formatter.rowCount_after s.formatter step

/-- The invariant, for a session that has a record behind it. -/
theorem rowCount_run {s : Session} {record : Record}
    (h : s.formatter.rowCount = record.rowsSinceHeader) (steps : List Step) :
    (s.run steps).2.formatter.rowCount =
      Record.rowsSinceHeader (record ++ steps.zip (s.run steps).1) := by
  induction steps generalizing s record with
  | nil => simpa using h
  | cons step steps ih =>
      have hrest := ih (rowCount_step h step)
      rw [run_cons, List.zip_cons_cons]
      simpa only [List.append_assoc, List.singleton_append] using hrest

theorem length_run (s : Session) (steps : List Step) : (s.run steps).1.length = steps.length := by
  induction steps generalizing s with
  | nil => rfl
  | cons step steps ih => rw [run_cons, List.length_cons, List.length_cons, ih]

theorem rowCount_step_of_idle (s : Session) {step : Step} (hheader : step.isHeader = false)
    (hrow : step.addsRow = false) :
    (s.step step).2.formatter.rowCount = s.formatter.rowCount := by
  rw [formatter_step]
  split
  · rfl
  · rw [Formatter.rowCount_after, hheader, hrow]
    rfl

/-- On any sink, going on after failures, the count is the number of rows printed since the last
header.  A step that fails changes nothing about the formatter, a header without titles cannot
fail, and what is not a counted row leaves the count alone whether it fails or not. -/
theorem rowCount_eq_rowsSinceHeader {f : Formatter} (hnew : f.IsNew) (k : Sink)
    (events : Array Log.Event) (steps : List Step) :
    let s : Session := ⟨f, k, events⟩
    let now := (s.run steps).2
    let count (step : Step) : Nat := (now.step step).2.formatter.rowCount
    (s.run steps).1.length = steps.length ∧
      now.formatter.rowCount = Record.rowsSinceHeader (steps.zip (s.run steps).1) ∧
      now.formatter.width = f.width ∧
      (∀ step, (now.step step).1 ≠ none → (now.step step).2.formatter = now.formatter) ∧
      ((now.step (.header [])).1 = none ∧ count (.header []) = 0) ∧
      (∀ inset, count (.row .empty inset) = now.formatter.rowCount) ∧
      (∀ text inset, count (.row (.line text) inset) = now.formatter.rowCount) ∧
      (∀ number text, (∀ r, parseRow number text ≠ .ok (some r)) →
        count (.line number text) = now.formatter.rowCount) ∧
      ∀ elapsed, count (.footer elapsed) = now.formatter.rowCount := by
  intro s now count
  refine ⟨length_run s steps, ?_, width_run s steps, ?_, ⟨rfl, rfl⟩, ?_, ?_, ?_, ?_⟩
  · have hstart : s.formatter.rowCount = Record.rowsSinceHeader [] := hnew.rowCount_eq
    simpa using rowCount_run hstart steps
  · intro step hfails
    rw [formatter_step, if_pos (Option.isSome_iff_ne_none.mpr hfails)]
  · intro inset
    exact rowCount_step_of_idle now rfl rfl
  · intro text inset
    exact rowCount_step_of_idle now rfl rfl
  · intro number text hline
    exact rowCount_step_of_idle now rfl (Step.addsRow_line_of_forall_ne hline)
  · intro elapsed
    exact rowCount_step_of_idle now rfl rfl

/-- The titles are cut short, and the three rows before them still count. -/
theorem rowCount_of_cut_header :
    let s : Session := ⟨⟨8, 0, by decide⟩, { limit := some 55 }, #[]⟩
    let steps : List Step :=
      [.row (.single (.flag true)) true, .row (.pair (.flag true) (.flag true)) false,
        .row (.wide [.flag true, .flag true, .flag true]) true, .row (.line "done") true,
        .header ["a", "b", "c"], .footer none]
    s.formatter.IsNew ∧ (s.run steps).1 = [none, none, none, none, some (.stream .diskFull), none] ∧
      Record.rowsSinceHeader (steps.zip (s.run steps).1) = 3 ∧
      (s.run steps).2.formatter.rowCount = 3 := by
  intro s steps
  have hnew : s.formatter.IsNew := Or.inr (Or.inl ⟨8, rfl⟩)
  have hresults :
      (s.run steps).1 = [none, none, none, none, some (.stream .diskFull), none] := by
    decide +kernel
  have hcount : Record.rowsSinceHeader (steps.zip (s.run steps).1) = 3 := by
    rw [hresults]
    rfl
  exact ⟨hnew, hresults, hcount,
    (rowCount_eq_rowsSinceHeader hnew s.sink s.events steps).2.1.trans hcount⟩

end Session

end FixedWidth
