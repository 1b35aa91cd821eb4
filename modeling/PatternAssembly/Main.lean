import PatternAssembly.CommandLine.Filter

/-!
# The command line

Reads the arguments and the standard input, and prints what the run leaves behind.

## Main definitions

* `main`
-/
namespace PatternAssembly.CommandLine

/-- What is said of a command line that is not run. -/
def UsageError.notice : UsageError → String
  | unknownArgument => "error: unexpected argument found"
  | missingValue => "error: a value is required for an option but none was supplied"
  | conflict => "error: an argument cannot be used with another one, or not more than once"
  | missingOption => "error: a required argument was not provided"
  | tooManyValues => "error: unexpected value found for an option without one"
  | help => "grep with patterns built from readable options"
  | version => "0.1.0"

/-- Everything that a stream still holds. -/
partial def readRest (stream : IO.FS.Stream) (soFar : ByteArray) : IO ByteArray := do
  let chunk ← stream.read 65536
  if chunk.isEmpty then pure soFar else readRest stream (soFar ++ chunk)

/-- Runs a command line. -/
def runProgram (arguments : List String) : IO UInt32 := do
  match Arguments.read arguments with
  | .error e =>
    if e.exitCode = 0 then IO.println e.notice else IO.eprintln e.notice
    pure (UInt32.ofNat e.exitCode)
  | .ok a =>
    let input ← if a.printPattern then pure ByteArray.empty
      else readRest (← IO.getStdin) ByteArray.empty
    let outcome := a.run input.toList
    IO.print outcome.stdout
    IO.eprint outcome.stderr
    pure (UInt32.ofNat outcome.exitCode)

end PatternAssembly.CommandLine

/-- The program. -/
def main (arguments : List String) : IO UInt32 :=
  PatternAssembly.CommandLine.runProgram arguments
