import FixedWidth.Proofs.SessionStep

/-!
# Sessions on a sink that fills up

A session is compared with the same session on a sink that takes everything.  Up to the step that
is stopped the two write the same bytes, and from then on the full sink takes nothing, so what it
holds is a first part of what the other one holds.  How the sink counts its calls, whether it
interrupts them and how it says that it is full make no difference to a session.
-/

namespace FixedWidth

namespace Session

/-! ## A run -/

def runBytes (f : Formatter) : List Step → List UInt8
  | [] => []
  | step :: steps => step.bytes f ++ runBytes (f.after step) steps

theorem wrote_run (s : Session) (hwidth : s.formatter.width ≤ Text.maxPad)
    (hcall : s.sink.perCall ≠ some 0) (steps : List Step) :
    ∃ fault, s.sink.Wrote (runBytes s.formatter steps) fault (s.run steps).2.sink := by
  induction steps generalizing s with
  | nil => exact ⟨none, Sink.Wrote.nil s.sink⟩
  | cons step steps ih =>
      obtain ⟨fault, hstep⟩ := s.stepped_step hwidth hcall step
      obtain ⟨later, hrest⟩ := ih (s.step step).2 (by rw [width_step]; exact hwidth)
        (hstep.perCall_ne hcall)
      rw [run_cons, runBytes]
      cases fault with
      | none =>
          have hformatter : (s.step step).2.formatter = s.formatter.after step :=
            hstep.formatter_eq
          rw [hformatter] at hrest
          exact ⟨later, hstep.wrote.append_of_none hrest⟩
      | some cause =>
          -- The sink is full, so it does not matter that the formatter has stayed behind.
          have hnothing := hrest.took_nil_of_full hstep.wrote.room_eq_zero
          exact ⟨some cause, hstep.wrote.append_of_full _ hnothing⟩

/-! ## Two runs -/

/-- Two sessions are alike if they differ at most in how their sinks answer. -/
structure Alike (s t : Session) : Prop where
  formatter : s.formatter = t.formatter
  taken : s.sink.taken = t.sink.taken
  limit : s.sink.limit = t.sink.limit

theorem Alike.room {s t : Session} (h : s.Alike t) : s.sink.room = t.sink.room := by
  rw [Sink.room, Sink.room, h.limit, h.taken]

theorem Alike.step {s t : Session} (h : s.Alike t) (hwidth : s.formatter.width ≤ Text.maxPad)
    (hs : s.sink.perCall ≠ some 0) (ht : t.sink.perCall ≠ some 0) (step : Step) :
    (s.step step).1.isSome = (t.step step).1.isSome ∧ (s.step step).2.Alike (t.step step).2 := by
  obtain ⟨fault, hfault⟩ := s.stepped_step hwidth hs step
  obtain ⟨other, hother⟩ := t.stepped_step (by rw [← h.formatter]; exact hwidth) ht step
  have hsame : fault.isSome = other.isSome := by
    rw [hfault.wrote.fault_eq, hother.wrote.fault_eq, h.formatter]
    simp only [Sink.answer, h.room]
    split <;> rfl
  refine ⟨?_, ?_, ?_, ?_⟩
  · rw [hfault.failure_eq, hother.failure_eq]
    simp only [Option.isSome_or, Option.isSome_map, hsame]
  · rw [hfault.formatter_eq, hother.formatter_eq, hsame, h.formatter]
  · apply Array.toList_inj.mp
    rw [hfault.wrote.took.taken, hother.wrote.took.taken, h.taken, h.formatter]
    simp only [Sink.fitting, h.room]
  · rw [hfault.wrote.took.limit, hother.wrote.took.limit, h.limit]

theorem Alike.run {s t : Session} (h : s.Alike t) (hwidth : s.formatter.width ≤ Text.maxPad)
    (hs : s.sink.perCall ≠ some 0) (ht : t.sink.perCall ≠ some 0) (steps : List Step) :
    (s.run steps).1.map Option.isSome = (t.run steps).1.map Option.isSome ∧
      (s.run steps).2.Alike (t.run steps).2 := by
  induction steps generalizing s t with
  | nil => exact ⟨rfl, h⟩
  | cons step steps ih =>
      obtain ⟨hfails, hnext⟩ := h.step hwidth hs ht step
      obtain ⟨_, hstep⟩ := s.stepped_step hwidth hs step
      obtain ⟨_, hother⟩ := t.stepped_step (by rw [← h.formatter]; exact hwidth) ht step
      obtain ⟨hrest, hlast⟩ := ih hnext (by rw [width_step]; exact hwidth)
        (hstep.perCall_ne hs) (hother.perCall_ne ht)
      simp only [run_cons, List.map_cons, hfails, hrest]
      exact ⟨trivial, hlast⟩

end Session

/-! ## Against a sink that takes everything -/

/-- The session of a formatter whose sink takes everything. -/
def Session.unbounded (f : Formatter) : Session := ⟨f, {}, #[]⟩

/-- The bytes that a step writes for a formatter if nothing stops it. -/
def Formatter.output (f : Formatter) (step : Step) : List UInt8 :=
  ((Session.unbounded f).step step).2.sink.taken.toList

theorem Sink.Wrote.taken_of_unbounded {bytes : List UInt8} {fault : Option StreamFault}
    {next : Sink} (h : Sink.Wrote {} bytes fault next) : next.taken.toList = bytes := by
  simpa [Sink.fitting, Sink.room] using h.took.taken

theorem Formatter.output_eq_bytes {f : Formatter} (hwidth : f.width ≤ Text.maxPad) (step : Step) :
    f.output step = step.bytes f := by
  obtain ⟨_, hstep⟩ := (Session.unbounded f).stepped_step hwidth (by simp [Session.unbounded]) step
  exact hstep.wrote.taken_of_unbounded

/-- A session on a sink with limited room.  Each step appends to the sink the first part of its
output for which there is room, and fails for the sink's sake exactly if that is not all of it.
So the sink ends with the first part of what a sink without limit would hold, and two sinks with
the same room serve a session alike, whatever they take in a call, however often they interrupt
and however they say that they are full. -/
theorem run_on_bounded_sink (s : Session) (hwidth : s.formatter.width ≤ Text.maxPad)
    (hcall : s.sink.perCall ≠ some 0) (steps : List Step) :
    (∀ step,
      let now := (s.run steps).2
      let out := now.formatter.output step
      now.sink.limit = s.sink.limit ∧
        (now.step step).2.sink.taken.toList =
          now.sink.taken.toList ++ out.take (Sink.upTo out.length now.sink.room) ∧
        ∀ cause, (now.step step).1 = some (.stream cause) ↔
          (∃ room, now.sink.room = some room ∧ room < out.length) ∧
            cause = s.sink.atLimit.fault) ∧
      (let whole := ((Session.unbounded s.formatter).run steps).2.sink.taken.toList
       (s.run steps).2.sink.taken.toList =
        s.sink.taken.toList ++ whole.take (Sink.upTo whole.length s.sink.room)) ∧
        ∀ k : Sink, k.taken = s.sink.taken → k.limit = s.sink.limit → k.perCall ≠ some 0 →
          let other : Session := { s with sink := k }
          (s.run steps).1.map Option.isSome = (other.run steps).1.map Option.isSome ∧
            (s.run steps).2.sink.taken = (other.run steps).2.sink.taken ∧
              (s.run steps).2.formatter.rowCount = (other.run steps).2.formatter.rowCount := by
  obtain ⟨fault, hrun⟩ := s.wrote_run hwidth hcall steps
  refine ⟨?_, ?_, ?_⟩
  · intro step now out
    have hnow : now.formatter.width ≤ Text.maxPad := by
      rw [Session.width_run]
      exact hwidth
    obtain ⟨stopped, hstep⟩ := now.stepped_step hnow (by rw [hrun.took.perCall]; exact hcall) step
    have hout : out = step.bytes now.formatter := Formatter.output_eq_bytes hnow step
    refine ⟨hrun.took.limit, ?_, ?_⟩
    · rw [hout]
      exact hstep.wrote.took.taken
    · intro cause
      have hanswer : now.sink.answer out.length = some cause ↔ _ := Sink.answer_eq_some_iff
      rw [hrun.took.atLimit] at hanswer
      rw [← hanswer, hout, ← hstep.wrote.fault_eq, hstep.failure_eq]
      have hother := step.refusal_ne_stream cause
      cases stopped with
      | none => simpa using hother
      | some c => simp
  · intro whole
    obtain ⟨_, hwhole⟩ := (Session.unbounded s.formatter).wrote_run hwidth
      (by simp [Session.unbounded]) steps
    have heq : whole = Session.runBytes s.formatter steps := hwhole.taken_of_unbounded
    rw [heq]
    exact hrun.took.taken
  · intro k htaken hlimit hk other
    have halike : s.Alike other := ⟨rfl, htaken.symm, hlimit.symm⟩
    obtain ⟨hfails, hlast⟩ := halike.run hwidth hcall hk steps
    exact ⟨hfails, hlast.taken, congrArg Formatter.rowCount hlast.formatter⟩

/-- A full sink stops the second row inside its text, two bytes to a call. -/
theorem run_on_sink_of_seven_bytes :
    let s : Session :=
      ⟨⟨4, 0, by decide⟩,
        { limit := some 7, atLimit := .takesNothing, perCall := some 2, interrupts := true }, #[]⟩
    let steps : List Step :=
      [.row (.line "ab") true, .header [], .row (.single (.text "xyz")) true, .footer (some .none)]
    s.formatter.width ≤ Text.maxPad ∧ s.sink.perCall ≠ some 0 ∧
      (s.run steps).2.sink.taken.toList = [97, 98, 32, 32, 10, 120, 121] := by
  intro s steps
  have hwidth : s.formatter.width ≤ Text.maxPad := by decide
  have hcall : s.sink.perCall ≠ some 0 := by decide
  have hrun := (run_on_bounded_sink s hwidth hcall steps).2.1
  refine ⟨hwidth, hcall, hrun.trans ?_⟩
  decide +kernel

end FixedWidth
