import FixedWidth.CommandLine.Program
import FixedWidth.Proofs.FaultyLines
import FixedWidth.Proofs.FilePaths
import FixedWidth.Proofs.RowCount

/-!
# What a run of the program prints

The rows that are printed are those before the first failure among the items of the input.  On a
stream that takes everything nothing else can fail, so standard output and exit code are functions
of the titles, of these rows and of whether a failure follows them.
-/

namespace FixedWidth

/-! ## Items -/

def goodRows (items : List (Except Failure Row)) : List Row :=
  (items.takeWhile Except.isOk).filterMap Except.toOption

def firstFailure? (items : List (Except Failure Row)) : Option Failure :=
  items.findSome? fun
    | .ok _ => none
    | .error failure => some failure

@[simp] theorem goodRows_ok (r : Row) (items : List (Except Failure Row)) :
    goodRows (.ok r :: items) = r :: goodRows items := rfl

@[simp] theorem firstFailure?_ok (r : Row) (items : List (Except Failure Row)) :
    firstFailure? (.ok r :: items) = firstFailure? items := rfl

/-- What is said of an item that is not a row. -/
inductive Reported : Failure → String → Prop where
  | badLine {number : Nat} {refusal : Json.Refusal} :
      Reported (.badLine number refusal)
        ("invalid row input on line " ++ Decimal.integer number ++ ": " ++ refusal.message)
  | stream {cause : StreamFault} :
      Reported (.stream cause) ("IO error: " ++ cause.message ++ ": " ++ cause.message)

section Input

variable {stdin : List UInt8} {files : FileTree} {input : String}
  {items : List (Except Failure Row)}

end Input

/-! ## Rows that count -/

def closingLine (rowCount : Nat) (t : Elapsed) : List UInt8 :=
  (summary rowCount t ++ "\n").toUTF8.data.toList

namespace Session

/-- A session in which nothing that is printed can fail. -/
structure IsFree (s : Session) : Prop where
  width_le : s.formatter.width ≤ Text.maxPad
  limit_eq : s.sink.limit = none
  perCall_ne : s.sink.perCall ≠ some 0

theorem IsFree.step {s : Session} (h : s.IsFree) {step : Step} (hstep : step.refusal = none) :
    (s.step step).1 = none ∧ s.sink.Took (step.bytes s.formatter) (s.step step).2.sink ∧
      (s.step step).2.formatter = s.formatter.after step ∧ (s.step step).2.IsFree := by
  obtain ⟨fault, hresult⟩ := s.stepped_step h.width_le h.perCall_ne step
  have hroom : s.sink.room = none := by rw [Sink.room, h.limit_eq, Option.map_none]
  have hfault : fault = none := by
    rw [hresult.wrote.fault_eq]
    simp [Sink.answer, hroom]
  subst hfault
  have htook := hresult.wrote.took
  simp only [Sink.fitting, hroom, Sink.upTo_none, List.take_length] at htook
  refine ⟨?_, htook, hresult.formatter_eq, ?_, ?_, ?_⟩
  · rw [hresult.failure_eq, hstep]
    rfl
  · rw [width_step]
    exact h.width_le
  · rw [htook.limit]
    exact h.limit_eq
  · exact hresult.perCall_ne h.perCall_ne

theorem IsFree.printAll {s : Session} (h : s.IsFree) (items : List (Except Failure Row)) :
    (s.printAll items).1 = firstFailure? items ∧
      s.sink.Took ((goodRows items).flatMap (Row.rendering s.formatter.width true))
        (s.printAll items).2.sink ∧
      (s.printAll items).2.formatter.rowCount =
        s.formatter.rowCount + (goodRows items).countP Row.isCounted ∧
      (s.printAll items).2.IsFree := by
  induction items generalizing s with
  | nil => exact ⟨rfl, Sink.Took.refl s.sink, rfl, h⟩
  | cons item items ih =>
      cases item with
      | error failure => exact ⟨rfl, Sink.Took.refl s.sink, rfl, h⟩
      | ok r =>
          obtain ⟨hnone, htook, hformatter, hfree⟩ :=
            h.step (show (Step.row r true).refusal = none from rfl)
          obtain ⟨hfailure, hrest, hcount, hlast⟩ := ih hfree
          have hrow : s.row r true = (none, (s.step (.row r true)).2) := Prod.ext hnone rfl
          have hprint : s.printAll (.ok r :: items) =
              (s.step (.row r true)).2.printAll items := by
            rw [Session.printAll, hrow]
          rw [hprint, firstFailure?_ok, goodRows_ok, List.flatMap_cons, List.countP_cons]
          rw [width_step] at hrest
          refine ⟨hfailure, htook.trans hrest, ?_, hlast⟩
          rw [hcount, hformatter]
          show (s.formatter.counting r).rowCount + _ = _
          rw [Formatter.rowCount_counting]
          omega

end Session

namespace CommandLine

theorem bytes_footer (f : Formatter) (elapsed : Option Elapsed) :
    (Step.footer elapsed).bytes f = (elapsed.map (closingLine f.rowCount)).getD [] := by
  cases elapsed with
  | none => rfl
  | some t =>
      simp [Step.bytes, Step.marks, closingLine, Mark.newline, Mark.bytes, Mark.text?]

/-- The line for a failure, if there has been one. -/
def failureLine : Option String → String
  | none => ""
  | some report => "Error: " ++ report ++ "\n"

/-- The error stream holds what the log has to say, and then a line for the failure. -/
structure Reports (outcome : Outcome) (log : Option String) (report : Option String) : Prop where
  stderr_eq : ∃ events, outcome.stderr =
    (readFilter log).2 ++ logLines (readFilter log).1 events ++ failureLine report
  of_no_log : log = none → outcome.stderr = failureLine report

/-- A run that prints the titles, the rows before the first failure and, if the time is wanted and
nothing fails, the closing line.  The first failure alone decides the exit code and is reported. -/
structure Prints (outcome : Outcome) (log : Option String) (request : Request)
    (items : List (Except Failure Row)) (elapsed : Elapsed) : Prop where
  stdout_eq : outcome.stdout =
    (Row.ofTitles request.titles).rendering request.width.toNat false ++
      (goodRows items).flatMap (Row.rendering request.width.toNat true) ++
        (if request.timing = true ∧ firstFailure? items = none then
          closingLine ((goodRows items).countP Row.isCounted) elapsed
        else [])
  exitCode_eq : outcome.exitCode = if firstFailure? items = none then 0 else 1
  reports_none : firstFailure? items = none → Reports outcome log none
  reports_some : ∀ failure, firstFailure? items = some failure →
    ∃ report, Reported failure report ∧ Reports outcome log (some report)

theorem run_of_print {args : List String} {request : Request}
    (hargs : Command.ofArguments args = .print request) (log : Option String)
    (stdin : List UInt8) (files : FileTree) (elapsed : Elapsed) :
    let outcome :=
      print (readFilter log).1 request (openInput stdin files request.input) elapsed
    run args log stdin files elapsed =
      { outcome with stderr := (readFilter log).2 ++ outcome.stderr } := by
  intro outcome
  simp only [run, runCommand, hargs]
  rfl

end CommandLine

end FixedWidth
