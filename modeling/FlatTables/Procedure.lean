import FlatTables.File.Disk
import FlatTables.Log.Event

/-!
# Procedures

A procedure is the part of a run that meets the world, as a value: it ends with a result, or does
one thing and goes on with what came of it. What it can do is to read a file, to write one, to
read the standard input and to report an event.

`Procedure.run` carries a procedure out on a disk. Only a write that succeeds changes the disk.
The program carries the same procedures out on the files of the machine.
-/

set_option autoImplicit false
set_option relaxedAutoImplicit false

namespace FlatTables

/-- A computation that reads and writes files and reports events. -/
inductive Procedure (α : Type) : Type
  | done (result : α)
  | report (event : Event) (next : Procedure α)
  | readFile (path : String) (next : Except FileFailure ByteArray → Procedure α)
  | writeFile (path : String) (content : ByteArray) (next : Except FileFailure Unit → Procedure α)
  | readInput (next : ByteArray → Procedure α)

namespace Procedure

variable {α β : Type}

/-- One procedure after another. -/
def andThen : Procedure α → (α → Procedure β) → Procedure β
  | .done result, following => following result
  | .report event next, following => .report event (next.andThen following)
  | .readFile path next, following => .readFile path fun content ↦ (next content).andThen following
  | .writeFile path content next, following =>
    .writeFile path content fun outcome ↦ (next outcome).andThen following
  | .readInput next, following => .readInput fun content ↦ (next content).andThen following

instance : Monad Procedure where
  pure := .done
  bind := andThen

/-- Reports an event. -/
def log (event : Event) : Procedure Unit :=
  .report event (.done ())

/-- Reports events in order. -/
def logAll (events : List Event) : Procedure Unit :=
  events.forM log

/-- The content of a file. -/
def contentOf (path : String) : Procedure (Except FileFailure ByteArray) :=
  .readFile path .done

/-- Text read from bytes. -/
def decodeText (content : ByteArray) : Except FileFailure String :=
  match String.fromUTF8? content with
  | some text => .ok text
  | none => .error .notText

/-- The content of a file, which has to be text. -/
def textOf (path : String) : Procedure (Except FileFailure String) := do
  return (← contentOf path).bind decodeText

/-- The standard input, which has to be text. -/
def inputText : Procedure (Except FileFailure String) :=
  .readInput fun content ↦ .done (decodeText content)

/-- Makes a text the content of a file. -/
def store (path text : String) : Procedure (Except FileFailure Unit) :=
  .writeFile path text.toUTF8 .done

/-- What a procedure leaves behind. -/
structure Outcome (α : Type) where
  result : α
  disk : Disk
  /-- The reported events, first one first. -/
  events : List Event

/-- Carries a procedure out on a disk, with the given standard input. -/
def run (input : ByteArray) (disk : Disk) : Procedure α → Outcome α
  | .done result => ⟨result, disk, []⟩
  | .report event next =>
    let outcome := next.run input disk
    { outcome with events := event :: outcome.events }
  | .readFile path next => (next (disk.read path)).run input disk
  | .writeFile path content next =>
    match disk.write path content with
    | .ok changed => (next (.ok ())).run input changed
    | .error failure => (next (.error failure)).run input disk
  | .readInput next => (next input).run input disk

end Procedure

end FlatTables
