import FlatTables.Program

/-!
# The program on the files of the machine

`Machine.perform` carries a procedure out on real files, with what the operating system answers
turned into the failures that procedures know. `main` does what `Program.run` says for the
arguments and the environment of the process.
-/

set_option autoImplicit false
set_option relaxedAutoImplicit false

namespace FlatTables.Machine

/-- A failure with the number and the words of the operating system. -/
def ofCode (code : Nat) (summary : String) : FileFailure :=
  match code with
  | 2 => .notFound
  | 20 => .notDirectory
  | 21 => .isDirectory
  | 36 => .nameTooLong
  | code => .system code summary

/-- The failure that an error of the operating system stands for. -/
def ofError : IO.Error → FileFailure
  | .noFileOrDirectory _ _ _ => .notFound
  | .inappropriateType _ code details => ofCode code.toNat details
  | .invalidArgument _ code details => ofCode code.toNat details
  | .permissionDenied _ code details => ofCode code.toNat details
  | .resourceExhausted _ code details => ofCode code.toNat details
  | .alreadyExists _ code details => ofCode code.toNat details
  | .hardwareFault code details => ofCode code.toNat details
  | .unsupportedOperation code details => ofCode code.toNat details
  | .otherError code details => ofCode code.toNat details
  | error => .system 0 error.toString

/-- An action on the file at a path. -/
def onFile {α : Type} (path : String) (action : IO α) : IO (Except FileFailure α) := do
  if path.toList.contains '\x00' then return .error .nulInPath
  else
    try
      return .ok (← action)
    catch error => return .error (ofError error)

/-- All that is left to read of a stream. -/
partial def readToEnd (stream : IO.FS.Stream) (content : ByteArray) : IO ByteArray := do
  let part ← stream.read 65536
  if part.isEmpty then return content else readToEnd stream (content ++ part)

/-- Carries a procedure out, and gives the reported events, first one first, with its result.
`events` are those reported before, newest first. -/
def perform {α : Type} (events : List Event) : Procedure α → IO (α × List Event)
  | .done result => return (result, events.reverse)
  | .report event next => perform (event :: events) next
  | .readFile path next => do
    let content ← onFile path (IO.FS.readBinFile path)
    perform events (next content)
  | .writeFile path content next => do
    let outcome ← onFile path (IO.FS.writeBinFile path content)
    perform events (next outcome)
  | .readInput next => do
    let content ← readToEnd (← IO.getStdin) .empty
    perform events (next content)

/-- The variables of the environment that the program looks at. -/
def environment : IO Program.Environment := do
  let values ← Program.observedVariables.mapM fun name ↦ do
    return (← IO.getEnv name).map fun value ↦ (name, value)
  return values.filterMap id

/-- Writes a report and gives its exit code. -/
def finish (report : Program.Report) : IO UInt32 := do
  IO.print report.output
  IO.eprint report.errors
  return report.exitCode.toUInt32

end FlatTables.Machine

open FlatTables in
/-- The program. -/
def main (arguments : List String) : IO UInt32 := do
  let environment ← Machine.environment
  match Command.Invocation.parse arguments with
  | .error error => Machine.finish (Program.usageReport error)
  | .ok invocation =>
    let (result, events) ← Machine.perform [] (Program.procedure environment invocation)
    Machine.finish (Program.report environment invocation result events)
