import FixedWidth.Formatter
import FixedWidth.Input
import FixedWidth.Log
import FixedWidth.Sink
import FixedWidth.Summary

/-!
# Sessions

A session is a formatter with the sink that it prints to and the events that it has noted.  A step
prints something; if it fails, what it has written stays written, the count of rows stays as it
was, and the session goes on.
-/

namespace FixedWidth

structure Session where
  formatter : Formatter
  sink : Sink
  events : Array Log.Event := #[]

/-- What the caller of a formatter asks for. -/
inductive Step where
  | header (titles : List String)
  | row (row : Row) (inset : Bool)
  /-- the row on a line of input, if there is one -/
  | line (number : Nat) (text : String)
  /-- the closing line, if a time is given -/
  | footer (elapsed : Option Elapsed)

namespace Session

/-- What follows a row that has been printed: it is counted, and a counted row is noted. -/
def printed (s : Session) (row : Row) : Session :=
  let formatter := s.formatter.counting row
  { s with
    formatter
    events :=
      if row.isCounted then
        s.events.push (.rendered formatter.rowCount (row.lineCount formatter.width))
      else s.events }

def row (s : Session) (row : Row) (inset : Bool) : Option Failure × Session :=
  match s.sink.draw (row.marks s.formatter.width inset) with
  | (some failure, sink) => (some failure, { s with sink })
  | (none, sink) => (none, { s with sink }.printed row)

def restart (s : Session) : Session :=
  { s with formatter := s.formatter.reset, events := s.events.push (.reset s.formatter.rowCount) }

/-- Prints titles as a row that is not inset, if there are any, and begins to count anew. -/
def header (s : Session) (titles : List String) : Option Failure × Session :=
  if titles.isEmpty then (none, s.restart)
  else
    match s.row (Row.ofTitles titles) false with
    | (some failure, s) => (some failure, s)
    | (none, s) => (none, s.restart)

def footer (s : Session) (elapsed : Option Elapsed) : Option Failure × Session :=
  match elapsed with
  | none => (none, s)
  | some t =>
    let (failure, sink) := s.sink.draw [.text (summary s.formatter.rowCount t), .newline]
    (failure, { s with sink })

def step (s : Session) : Step → Option Failure × Session
  | .header titles => s.header titles
  | .row row inset => s.row row inset
  | .line number text =>
    match parseRow number text with
    | .error failure => (some failure, s)
    | .ok none => (none, s)
    | .ok (some row) => s.row row true
  | .footer elapsed => s.footer elapsed

/-- Runs steps one after another, whether they fail or not. -/
def run (s : Session) : List Step → List (Option Failure) × Session
  | [] => ([], s)
  | step :: steps =>
    let (failure, s) := s.step step
    let (failures, s) := s.run steps
    (failure :: failures, s)

end Session

end FixedWidth
