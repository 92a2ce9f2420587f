import FixedWidth.Proofs.SessionStep

/-!
# Widths that can be used

A formatter is built for any width that is not too narrow, but a column wider than `Text.maxPad`
cannot be filled.  On a sink that takes every write nothing else stops a step, and whether a step is
stopped there depends on the width and on the shape of its row alone.
-/

namespace FixedWidth

/-- What comes of a step if the sink does not stop it. -/
def Step.outcome (width : Nat) (step : Step) : Option Failure :=
  if step.columnWidth width ≤ Text.maxPad then step.refusal else some .tooWide

/-! ## A sink that takes every write -/

/-- The sink has no limit, and takes some bytes in every call. -/
structure Sink.IsOpen (k : Sink) : Prop where
  limit : k.limit = none
  perCall : k.perCall ≠ some 0

theorem Sink.IsOpen.write {k : Sink} (hk : k.IsOpen) (bytes : List UInt8) :
    (k.write bytes).1 = none ∧ (k.write bytes).2.IsOpen := by
  have hwrote := k.wrote_write hk.perCall bytes
  refine ⟨?_, ?_, ?_⟩
  · have hroom : k.room = none := by rw [room, hk.limit, Option.map_none]
    rw [hwrote.fault_eq, answer, hroom, upTo_none, if_neg (Nat.lt_irrefl _)]
  · rw [hwrote.took.limit, hk.limit]
  · rw [hwrote.took.perCall]
    exact hk.perCall

theorem Sink.IsOpen.draw {k : Sink} (hk : k.IsOpen) (marks : List Mark) :
    (k.draw marks).1 = (if ∀ m ∈ marks, m.text?.isSome then none else some .tooWide) ∧
      (k.draw marks).2.IsOpen := by
  induction marks generalizing k with
  | nil => exact ⟨by simp [Sink.draw], hk⟩
  | cons m marks ih =>
      cases hm : m.text? with
      | none =>
          simp only [Sink.draw, hm]
          exact ⟨by simp [hm], hk⟩
      | some s =>
          obtain ⟨hnone, hnext⟩ := hk.write s.toUTF8.data.toList
          rcases hwrite : k.write s.toUTF8.data.toList with ⟨_ | cause, next⟩
          · rw [hwrite] at hnext
            simp only [Sink.draw, hm, hwrite, List.forall_mem_cons, Option.isSome_some, true_and]
            exact ih hnext
          · rw [hwrite] at hnone
            cases hnone

namespace Session

theorem step_of_isOpen {s : Session} (h : s.sink.IsOpen) (step : Step) :
    (s.step step).1 = step.outcome s.formatter.width ∧ (s.step step).2.sink.IsOpen := by
  obtain ⟨hfailure, hopen⟩ := h.draw (step.marks s.formatter)
  simp only [Step.forall_isSome_text?_iff] at hfailure
  rw [step_eq, Step.outcome]
  rcases hdraw : s.sink.draw (step.marks s.formatter) with ⟨failure, sink⟩
  rw [hdraw] at hfailure hopen
  by_cases hwidth : step.columnWidth s.formatter.width ≤ Text.maxPad
  · rw [if_pos hwidth] at hfailure ⊢
    subst hfailure
    refine ⟨rfl, ?_⟩
    show ({ s with sink }.settle step).sink.IsOpen
    rw [sink_settle]
    exact hopen
  · rw [if_neg hwidth] at hfailure ⊢
    subst hfailure
    exact ⟨rfl, hopen⟩

/-- On a sink that takes every write, each step of a session fails for one of two reasons.  Either
it is a line that is refused, or it has to fill a column that is too wide, which for a formatter
whose own width can be padded does not happen.  So then rows of any shape, titles and closing lines
are all printed. -/
theorem run_on_open_sink {s : Session} (h : s.sink.IsOpen) (steps : List Step) :
    (s.run steps).1 = steps.map (Step.outcome s.formatter.width) ∧
      (s.formatter.width ≤ Text.maxPad → (s.run steps).1 = steps.map Step.refusal) := by
  have hrun : (s.run steps).1 = steps.map (Step.outcome s.formatter.width) := by
    induction steps generalizing s with
    | nil => rfl
    | cons step steps ih =>
        obtain ⟨hfailure, hopen⟩ := step_of_isOpen h step
        rw [run_cons, ih hopen, width_step, hfailure, List.map_cons]
  refine ⟨hrun, fun hwidth => ?_⟩
  rw [hrun]
  refine List.map_congr_left fun step _ => ?_
  rw [Step.outcome, if_pos (Nat.le_trans (step.columnWidth_le s.formatter.width) hwidth)]

/-- A column of all the width is too wide here, while a key and its value share the width and a row
on one line fills no column at all. -/
theorem run_with_too_wide_column :
    let narrow : Session := ⟨⟨80, 0, by decide⟩, {}, #[]⟩
    let broad : Session := ⟨⟨70000, 0, by decide⟩, { perCall := some 3, interrupts := true }, #[]⟩
    let steps : List Step :=
      [.header ["a", "b"], .row (.line "x") true, .row (.single (.flag true)) true,
        .row (.pair (.text "k") (.text "v")) false, .row (.wide [.text "a\nb"]) true,
        .footer (some .none)]
    narrow.sink.IsOpen ∧ broad.sink.IsOpen ∧ narrow.formatter.width ≤ Text.maxPad ∧
      (narrow.run steps).1 = [none, none, none, none, none, none] ∧
      (broad.run steps).1 = [none, some .tooWide, some .tooWide, none, none, none] := by
  intro narrow broad steps
  have hnarrow : narrow.sink.IsOpen := ⟨rfl, by decide⟩
  have hbroad : broad.sink.IsOpen := ⟨rfl, by decide⟩
  have hwidth : narrow.formatter.width ≤ Text.maxPad := by decide
  refine ⟨hnarrow, hbroad, hwidth, (run_on_open_sink hnarrow steps).2 hwidth,
    (run_on_open_sink hbroad steps).1.trans ?_⟩
  decide +kernel

/-- A width may be accepted although an empty status line cannot be printed with it. -/
theorem tooWide_of_accepted_width :
    ∃ f, Formatter.ofWidth 65536 = .ok f ∧
      (Session.step ⟨f, {}, #[]⟩ (.row (.line "") true)).1 = some .tooWide :=
  ⟨⟨65536, 0, by decide⟩, rfl, rfl⟩

end Session

end FixedWidth
