import FixedWidth.Options
import FixedWidth.Pattern.Compile
import FixedWidth.Text.Blank
import FixedWidth.Text.Column
import FixedWidth.Text.Control
import FixedWidth.Text.Split

/-!
# The log

What happens while a result is printed is noted as events.  A filter, written as a list of
directives and perhaps a pattern, decides which of them are shown.
-/

namespace FixedWidth

namespace Log

/-! ## Events -/

inductive Level where
  | error
  | warn
  | info
  | debug
  | trace
deriving DecidableEq

namespace Level

def name : Level → String
  | .error => "ERROR"
  | .warn => "WARN"
  | .info => "INFO"
  | .debug => "DEBUG"
  | .trace => "TRACE"

def verbosity : Level → Nat
  | .error => 1
  | .warn => 2
  | .info => 3
  | .debug => 4
  | .trace => 5

end Level

inductive Event where
  /-- the program begins with an input and options -/
  | started (input : String) (options : Options)
  /-- a formatter has been built -/
  | ready (width : Nat)
  /-- a row has been printed, and is the last of so many -/
  | rendered (rowCount lines : Nat)
  /-- a header has set the count of rows back -/
  | reset (rowCount : Nat)
  /-- the program has printed all rows -/
  | finished (rowCount : Nat)
deriving DecidableEq

namespace Event

def level : Event → Level
  | .started .. | .ready _ | .reset _ => .debug
  | .rendered .. => .trace
  | .finished _ => .info

def target : Event → String
  | .started .. | .finished _ => "shellfmt"
  | .ready _ | .rendered .. | .reset _ => "shellfmtlib::output::console"

def message : Event → String
  | .started input options => "formatting " ++ input ++ " with " ++ options.describe
  | .ready width => "console formatter ready (width " ++ Decimal.integer width ++ ")"
  | .rendered n lines =>
    "row " ++ Decimal.integer n ++ " rendered on " ++ Decimal.integer lines ++ " line(s)"
  | .reset n => "header reset row count (was " ++ Decimal.integer n ++ ")"
  | .finished n => Decimal.integer n ++ " row(s) formatted"

/-- How far lines of a message are inset, from the second one. -/
def inset : Nat := 4

def insetLines (message : String) : String :=
  ("\n" ++ Text.spaces inset).intercalate (Text.splitString '\n' message)

/-- The entry of the log for the event.  The name of the level is filled up to five characters. -/
def line (e : Event) : String :=
  Text.plain <|
    "[" ++ e.level.name ++ Text.spaces (5 - e.level.name.length) ++ " " ++ e.target ++ "] " ++
      insetLines e.message ++ "\n"

end Event

/-! ## Filters -/

/-- What is noted by targets whose name begins as given, or by all, is shown up to a verbosity. -/
structure Directive where
  target : Option String
  verbosity : Nat
deriving DecidableEq

def Directive.concerns (d : Directive) (target : String) : Bool :=
  d.target.all fun name => name.toList.isPrefixOf target.toList

/-- How many characters of a target a directive names. -/
def Directive.precision (d : Directive) : Nat := (d.target.map (·.length)).getD 0

structure Filter where
  directives : List Directive
  /-- what messages have to match -/
  pattern : Option Pattern.Expr
deriving DecidableEq

def fullVerbosity : Nat := Level.trace.verbosity

def verbosityOf? (s : String) : Option Nat :=
  match Text.lower s with
  | "off" => some 0
  | "error" => some Level.error.verbosity
  | "warn" => some Level.warn.verbosity
  | "info" => some Level.info.verbosity
  | "debug" => some Level.debug.verbosity
  | "trace" => some Level.trace.verbosity
  | _ => none

def trimmed (s : String) : String :=
  String.ofList (Text.trimBlanks s.toList)

/-- Reads a directive: a verbosity for everything, a target to be shown in full, or a target and
its verbosity.  A faulty one gives the part of it that is to blame. -/
def Directive.read (s : String) : Except String Directive :=
  match Text.splitString '=' s with
  | [one] =>
    match verbosityOf? one with
    | some v => .ok ⟨none, v⟩
    | none => .ok ⟨some one, fullVerbosity⟩
  | [target, level] =>
    let level := trimmed level
    if level.isEmpty then .ok ⟨some target, fullVerbosity⟩
    else
      match verbosityOf? level with
      | some v => .ok ⟨some target, v⟩
      | none => .error level
  | _ => .error s

/-- Puts a directive in the place of one for the same target, or else at the end. -/
def insertDirective (d : Directive) : List Directive → List Directive
  | [] => [d]
  | e :: ds => if e.target = d.target then d :: ds else e :: insertDirective d ds

/-- Adds the directives of a list to others, and tells the parts of it that are to blame. -/
def readDirectives (known : List Directive) : List String → List Directive × List String
  | [] => (known, [])
  | s :: rest =>
    if s.isEmpty then readDirectives known rest
    else
      match Directive.read s with
      | .ok d => readDirectives (insertDirective d known) rest
      | .error part =>
        let (good, bad) := readDirectives known rest
        (good, part :: bad)

def Filter.standard : Filter := ⟨[⟨none, Level.warn.verbosity⟩], none⟩

def readPattern (s : String) : Option Pattern.Expr × List String :=
  match Pattern.Expr.ofString s with
  | .ok e => (some e, [])
  | .error r => (none, ["invalid regex filter - " ++ r.message s])

/-- A filter and what is wrong with its text.  Directives are separated by commas, and a slash
begins the pattern that messages must match. -/
def Filter.read (s : String) : Filter × List String :=
  match Text.splitString '/' s with
  | directives :: rest =>
    if rest.length ≤ 1 then
      let (good, bad) := readDirectives [] ((Text.splitString ',' directives).map trimmed)
      let (pattern, problems) := (rest.head?.map readPattern).getD (none, [])
      (⟨good, pattern⟩, (bad.map fun part => "invalid logging spec '" ++ part ++ "'") ++ problems)
    else (⟨[], none⟩, ["invalid logging spec '" ++ s ++ "' (too many '/'s)"])
  | [] => (⟨[], none⟩, [])

def warning (problem : String) : String :=
  "warning: " ++ problem ++ ", ignoring it\n"

/-- Of the directives for a target the most precise decides, and of equally precise ones the last
one. -/
def Filter.directiveFor? (f : Filter) (target : String) : Option Directive :=
  f.directives.foldl (fun best d =>
    if d.concerns target ∧ (best.map (·.precision)).getD 0 ≤ d.precision then some d else best) none

/-- Whether an event is shown.  Without any directive only errors are. -/
def Filter.shows (f : Filter) (e : Event) : Bool :=
  let limit :=
    if f.directives.isEmpty then Level.error.verbosity
    else ((f.directiveFor? e.target).map (·.verbosity)).getD 0
  decide (e.level.verbosity ≤ limit) && f.pattern.all (·.isMatch e.message)

end Log

end FixedWidth
