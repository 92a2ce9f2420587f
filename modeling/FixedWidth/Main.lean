import FixedWidth.CommandLine.Program

/-!
# The executable

Reads the arguments, the text of the log filter and the input, and leaves everything else to the
program.
-/

namespace FixedWidth.CommandLine

/-- Why a file could not be opened, from what the system says of it. -/
def openFault : IO.Error → OpenFault
  | .noFileOrDirectory .. => .absent
  | .inappropriateType .. => .notDirectory
  | .invalidArgument _ 36 _ => .tooLong
  | e => .other (toString e)

partial def readAll (stream : IO.FS.Stream) (taken : ByteArray) : IO ByteArray := do
  let chunk ← stream.read 65536
  if chunk.isEmpty then return taken else readAll stream (taken ++ chunk)

/-- Opens a file and reads it.  What can be opened but not read is a directory. -/
def readFile (path : String) : IO (Except OpenFault Source) := do
  match ← (IO.FS.Handle.mk path .read).toBaseIO with
  | .error e => return .error (openFault e)
  | .ok handle =>
    match ← handle.readBinToEnd.toBaseIO with
    | .error _ => return .ok .directory
    | .ok content => return .ok (.bytes content.data.toList)

/-- The input of a request.  The standard input is left alone if nothing will be made of it. -/
def inputOf (request : Request) : IO (Except OpenFault Source) := do
  if request.input ≠ "-" then readFile request.input
  else if request.readsInput then
    return .ok (.bytes (← readAll (← IO.getStdin) ByteArray.empty).data.toList)
  else return .ok (.bytes [])

def outcomeOf (args : List String) (log : Option String) : IO Outcome := do
  match Command.ofArguments args with
  | .print request =>
    let begun ← IO.monoNanosNow
    let input ← inputOf request
    let ended ← IO.monoNanosNow
    return runCommand (.print request) log input (.ofParts 0 (ended - begun))
  | command => return runCommand command log (.error .absent) .none

end FixedWidth.CommandLine

open FixedWidth.CommandLine in
def main (args : List String) : IO UInt32 := do
  let outcome ← outcomeOf args (← IO.getEnv "RUST_LOG")
  (← IO.getStdout).write outcome.stdout.toByteArray
  (← IO.getStderr).putStr outcome.stderr
  return UInt32.ofNat outcome.exitCode
