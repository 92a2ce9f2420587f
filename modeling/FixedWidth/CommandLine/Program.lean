import FixedWidth.CommandLine.Arguments
import FixedWidth.FileTree
import FixedWidth.Session

/-!
# The program

The program prints the rows of an input to a stream that takes everything.  It looks at its
arguments, the name of the format, the input and the options, in this order, and then prints a
header, the rows up to the first that fails, and a closing line if none has failed.
-/

namespace FixedWidth

/-- The rows that can be read from a source.  A directory cannot be read. -/
def Source.rows : Source → List (Except Failure Row)
  | .bytes content => Input.rows content
  | .directory => [.error (.stream .isDirectory)]

/-- Prints rows up to the first failure. -/
def Session.printAll (s : Session) : List (Except Failure Row) → Option Failure × Session
  | [] => (none, s)
  | .error failure :: _ => (some failure, s)
  | .ok row :: rows =>
    match s.row row true with
    | (some failure, s) => (some failure, s)
    | (none, s) => s.printAll rows

namespace CommandLine

structure Outcome where
  exitCode : Nat
  stdout : List UInt8
  stderr : String
deriving DecidableEq

/-- The exit code after a failure.  A column that is too wide stops the program short. -/
def exitCode : Option Failure → Nat
  | none => 0
  | some .tooWide => 101
  | some _ => 1

def errorLine (report : String) : String :=
  "Error: " ++ report ++ "\n"

def Outcome.refusal (report : String) : Outcome := ⟨1, [], errorLine report⟩

def logLines (filter : Log.Filter) (events : List Log.Event) : String :=
  String.join ((events.filter filter.shows).map Log.Event.line)

def printResult (s : Session) (titles : List String) (rows : List (Except Failure Row))
    (elapsed : Option Elapsed) : Option Failure × Session :=
  match s.header titles with
  | (some failure, s) => (some failure, s)
  | (none, s) =>
    match s.printAll rows with
    | (some failure, s) => (some failure, s)
    | (none, s) =>
      match s.footer elapsed with
      | (some failure, s) => (some failure, s)
      | (none, s) => (none, { s with events := s.events.push (.finished s.formatter.rowCount) })

/-- Answers a request with an input that has been opened, or not, and the time that it took. -/
def print (filter : Log.Filter) (request : Request) (input : Except OpenFault Source)
    (elapsed : Elapsed) : Outcome :=
  match Format.ofName request.format with
  | .error failure => .refusal failure.report
  | .ok format =>
    let options : Options := ⟨format, request.width⟩
    let started : List Log.Event := [.started request.input options]
    let refused (report : String) : Outcome :=
      ⟨1, [], logLines filter started ++ errorLine report⟩
    match input with
    | .error fault =>
      refused ("failed to open input '" ++ request.input ++ "': " ++ fault.message)
    | .ok source =>
      match Formatter.ofOptions options with
      | .error failure => refused failure.report
      | .ok formatter =>
        let (failure, s) :=
          printResult ⟨formatter, {}, #[.ready formatter.width]⟩ request.titles source.rows
            (if request.timing then some elapsed else none)
        ⟨exitCode failure, s.sink.taken.toList,
          logLines filter (started ++ s.events.toList) ++
            (failure.map (errorLine ·.report)).getD ""⟩

/-- The filter for the log and the warnings about its text.  Without a text only warnings and
errors are shown. -/
def readFilter (log : Option String) : Log.Filter × String :=
  match log with
  | none => (.standard, "")
  | some s =>
    let (filter, problems) := Log.Filter.read s
    (filter, String.join (problems.map Log.warning))

/-- The source that a path names; a dash is the standard input. -/
def openInput (stdin : List UInt8) (files : FileTree) (path : String) : Except OpenFault Source :=
  if path = "-" then .ok (.bytes stdin) else files.openPath path

/-- Whether an input that can be opened is read: the options must have a formatter. -/
def Request.readsInput (request : Request) : Bool :=
  match Format.ofName request.format with
  | .ok format => (Formatter.ofOptions ⟨format, request.width⟩).toBool
  | .error _ => false

/-- Carries out a command.  The input is looked at only if there is something to print. -/
def runCommand (command : Command) (log : Option String) (input : Except OpenFault Source)
    (elapsed : Elapsed) : Outcome :=
  let (filter, warnings) := readFilter log
  let outcome : Outcome :=
    match command with
    | .help => ⟨0, helpText.toUTF8.data.toList, ""⟩
    | .version => ⟨0, versionText.toUTF8.data.toList, ""⟩
    | .misuse => ⟨2, [], ""⟩
    | .print request => print filter request input elapsed
  { outcome with stderr := warnings ++ outcome.stderr }

/-- A run of the program on files held in memory. -/
def run (args : List String) (log : Option String) (stdin : List UInt8) (files : FileTree)
    (elapsed : Elapsed) : Outcome :=
  let command := Command.ofArguments args
  let input :=
    match command with
    | .print request => openInput stdin files request.input
    | _ => .error .absent
  runCommand command log input elapsed

end CommandLine

end FixedWidth
