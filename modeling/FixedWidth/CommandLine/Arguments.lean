import FixedWidth.Decimal.Integer
import FixedWidth.Text.Split

/-!
# The command line

Arguments are read from left to right.  Help and version are given as soon as they are asked for,
if nothing before them is wrong.
-/

namespace FixedWidth.CommandLine

/-- What the program has been asked to print, and how. -/
structure Request where
  input : String
  format : String
  width : UInt64
  titles : List String
  timing : Bool
deriving DecidableEq

inductive Command where
  | help
  | version
  /-- the arguments make no sense -/
  | misuse
  | print (request : Request)
deriving DecidableEq

def helpText : String :=
"Render database shell results as fixed-width console text

Usage: shellfmt [OPTIONS] [input]

Arguments:
  [input]  JSON-lines file of result rows (defaults to stdin) [default: -]

Options:
      --format <format>              Formatter for outputting results: console | html | json [default: console]
      --format-width <format-width>  Width of table outputs [default: 110] [alias: --width]
      --header <header>              Column titles printed before the rows (comma-separated)
      --timing                       Print row count and elapsed time after the rows
  -h, --help                         Print help
  -V, --version                      Print version
"

def versionText : String := "shellfmt 0.3.0\n"

/-- An option that takes a value. -/
inductive Setting where
  | format
  | width
  | header
deriving DecidableEq

/-- What an argument is, taken by itself. -/
inductive Argument where
  | help
  | version
  | timing
  /-- an option whose value is the next argument -/
  | setting (s : Setting)
  | settingTo (s : Setting) (value : String)
  /-- what ends the options -/
  | endOfOptions
  | operand (s : String)
  | unknown
deriving DecidableEq

def Setting.ofName? : String → Option Setting
  | "format" => some .format
  | "format-width" => some .width
  | "width" => some .width
  | "header" => some .header
  | _ => none

/-- The argument that two dashes and a name make. -/
def Argument.ofName (name : String) : Argument :=
  match name with
  | "help" => .help
  | "version" => .version
  | "timing" => .timing
  | name =>
    match Setting.ofName? name with
    | some s => .setting s
    | none => .unknown

/-- The argument that two dashes, a name, an equals sign and a value make. -/
def Argument.ofNameAndValue (name value : String) : Argument :=
  match Setting.ofName? name with
  | some s => .settingTo s value
  | none => .unknown

/-- The argument that two dashes and other characters make. -/
def Argument.ofLong (s : List Char) : Argument :=
  let name := String.ofList (s.takeWhile (· ≠ '='))
  match s.dropWhile (· ≠ '=') with
  | [] => .ofName name
  | _ :: value => .ofNameAndValue name (String.ofList value)

def Argument.ofChars : List Char → Argument
  | ['-', '-'] => .endOfOptions
  | '-' :: '-' :: s => .ofLong s
  | '-' :: 'h' :: _ => .help
  | '-' :: 'V' :: _ => .version
  | '-' :: _ :: _ => .unknown
  | s => .operand (String.ofList s)

def Argument.ofString (s : String) : Argument :=
  .ofChars s.toList

/-- Whether an argument may be the value of the option before it. -/
def isValue (s : String) : Bool :=
  match s.toList with
  | '-' :: _ :: _ => false
  | _ => true

/-- Reads a width: digits, perhaps after a plus sign, for a number of 64 bits. -/
def readWidth (s : String) : Option UInt64 :=
  let digits :=
    match s.toList with
    | '+' :: digits => digits
    | digits => digits
  if digits.isEmpty ∨ !digits.all Char.isDigit then none
  else
    let n := digits.foldl (fun n d => 10 * n + (d.toNat - 0x30)) 0
    if n < UInt64.size then some (UInt64.ofNat n) else none

structure Given where
  input : Option String := none
  format : Option String := none
  width : Option UInt64 := none
  titles : List String := []
  timing : Bool := false
deriving DecidableEq

namespace Given

def defaultWidth : UInt64 := 110

def request (g : Given) : Request where
  input := g.input.getD "-"
  format := g.format.getD "console"
  width := g.width.getD defaultWidth
  titles := g.titles
  timing := g.timing

/-- Gives an option a value.  Titles are separated by commas and add up; any other option is given
once. -/
def set (g : Given) (s : Setting) (value : String) : Option Given :=
  match s with
  | .header => some { g with titles := g.titles ++ Text.splitString ',' value }
  | .format => if g.format.isSome then none else some { g with format := some value }
  | .width =>
    if g.width.isSome then none
    else (readWidth value).map fun w => { g with width := some w }

def setInput (g : Given) (path : String) : Option Given :=
  if g.input.isSome then none else some { g with input := some path }

def setTiming (g : Given) : Option Given :=
  if g.timing then none else some { g with timing := true }

end Given

/-- Reads the arguments after the end of the options. -/
def readOperands (g : Given) : List String → Command
  | [] => .print g.request
  | path :: rest =>
    match g.setInput path with
    | some g => readOperands g rest
    | none => .misuse

/-- Reads arguments, of which the first is the value of the `awaiting` option, if there is one. -/
def readArguments (g : Given) (awaiting : Option Setting) : List String → Command
  | [] => if awaiting.isSome then .misuse else .print g.request
  | arg :: rest =>
    match awaiting with
    | some s =>
      if isValue arg then
        match g.set s arg with
        | some g => readArguments g none rest
        | none => .misuse
      else .misuse
    | none =>
      match Argument.ofString arg with
      | .help => .help
      | .version => .version
      | .unknown => .misuse
      | .endOfOptions => readOperands g rest
      | .setting s => readArguments g (some s) rest
      | .settingTo s value =>
        match g.set s value with
        | some g => readArguments g none rest
        | none => .misuse
      | .timing =>
        match g.setTiming with
        | some g => readArguments g none rest
        | none => .misuse
      | .operand path =>
        match g.setInput path with
        | some g => readArguments g none rest
        | none => .misuse

def Command.ofArguments (args : List String) : Command :=
  readArguments {} none args

end FixedWidth.CommandLine
