import FlatTables.Query.ClauseText

/-!
# Options on a command line

A command line has one level for the program and one for the subcommand. A level knows its
options, its positional arguments and the names of its subcommands (`Level`); what the arguments
say is collected in a draft by the functions that the level gives.

Arguments are read from left to right (`Level.scan`). An option that takes a value is pending
until the value is there and something else begins; only then is it settled, that is, checked
and put into the draft. So of two faults the first to be settled is reported. The first argument
that names a subcommand ends the level, unless an option still waits for its value. After `--`
every argument is positional.

Short options may be put together behind one dash, and the value of the last may follow at once,
with or without `=`. A value that begins with a dash has to be given that way or behind the `=`
of a long option.
-/

set_option autoImplicit false
set_option relaxedAutoImplicit false

namespace FlatTables.Command

/-- Why a command line is not carried out. -/
inductive UsageError
  | displayHelp
  | displayVersion
  /-- Nothing at all is asked for. -/
  | displayHelpOnMissing
  | missingSubcommand
  | invalidSubcommand
  | unknownArgument
  | missingRequiredArgument
  /-- A value is absent, or none of those that are possible. -/
  | invalidValue
  /-- An option is given twice. -/
  | argumentConflict
  /-- A value is given to an option that takes none. -/
  | tooManyValues
  /-- A value is no clause of its kind. -/
  | valueValidation (error : ClauseError)
deriving DecidableEq

/-- What an option does. -/
inductive Action (σ : Type)
  /-- Notes that the option is there. -/
  | flag (store : σ → σ)
  /-- Takes a value; a `repeatable` one may be given more than once. -/
  | value (repeatable : Bool) (store : String → σ → Except UsageError σ)
  | help
  | version

/-- An option. -/
structure Opt (σ : Type) where
  long : String
  short : Option Char := none
  action : Action σ

/-- A positional argument: how its value is put into the draft. -/
abbrev Positional (σ : Type) := String → σ → Except UsageError σ

/-- The options and arguments of one level. -/
structure Level (σ : Type) where
  options : List (Opt σ)
  positionals : List (Positional σ) := []
  subcommands : List String := []

/-- What is waiting to be settled. -/
inductive Pending (σ : Type)
  /-- An option without its value. -/
  | awaiting (option : Opt σ) (repeatable : Bool) (store : String → σ → Except UsageError σ)
  /-- An option with its value. -/
  | valued (option : Opt σ) (repeatable : Bool) (store : String → σ → Except UsageError σ)
      (value : String)
  | positional (store : Positional σ) (value : String)

/-- The reading of a level between two arguments. -/
structure Progress (σ : Type) where
  draft : σ
  /-- The long names of the options that have been settled. -/
  given : List String := []
  pending : Option (Pending σ) := none
  /-- The positional arguments still to come. -/
  positionals : List (Positional σ)
  /-- Whether every further argument is positional. -/
  trailing : Bool := false

namespace Progress

variable {σ : Type}

/-- Notes that an option has been given, which most may be once only. -/
def give (progress : Progress σ) (option : Opt σ) (repeatable : Bool) :
    Except UsageError (Progress σ) :=
  if progress.given.contains option.long && !repeatable then .error .argumentConflict
  else .ok { progress with given := option.long :: progress.given }

/-- Puts the value of an option into the draft. -/
def take (progress : Progress σ) (option : Opt σ) (repeatable : Bool)
    (store : String → σ → Except UsageError σ) (value : String) :
    Except UsageError (Progress σ) := do
  let progress ← progress.give option repeatable
  return { progress with draft := ← store value progress.draft }

/-- Settles what is pending. -/
def settle (progress : Progress σ) : Except UsageError (Progress σ) :=
  let settled := { progress with pending := none }
  match progress.pending with
  | none => .ok settled
  | some (.awaiting ..) => .error .invalidValue
  | some (.valued option repeatable store value) => settled.take option repeatable store value
  | some (.positional store value) => do return { settled with draft := ← store value settled.draft }

/-- Settles what is pending and then notes an option that takes no value. -/
def raise (progress : Progress σ) (option : Opt σ) (store : σ → σ) :
    Except UsageError (Progress σ) := do
  let progress ← (← progress.settle).give option false
  return { progress with draft := store progress.draft }

/-- Whether the next argument is a value, whatever it names. -/
def isAwaiting (progress : Progress σ) : Bool :=
  match progress.pending with
  | some (.awaiting ..) => true
  | _ => false

/-- An option that takes a value, which may follow at once. -/
def await (progress : Progress σ) (option : Opt σ) (repeatable : Bool)
    (store : String → σ → Except UsageError σ) (attached : Option String) :
    Except UsageError (Progress σ) := do
  let progress ← progress.settle
  match attached with
  | some value => progress.take option repeatable store value
  | none => return { progress with pending := some (.awaiting option repeatable store) }

end Progress

namespace Level

variable {σ : Type}

/-- A long option, with the value behind its `=` if there is one. -/
def long (level : Level σ) (progress : Progress σ) (name : String) (attached : Option String) :
    Except UsageError (Progress σ) :=
  match level.options.find? fun option ↦ option.long == name with
  | none => .error .unknownArgument
  | some option =>
    match option.action, attached with
    | .value repeatable store, attached => progress.await option repeatable store attached
    | _, some _ => .error .tooManyValues
    | .flag store, none => progress.raise option store
    | .help, none => do let _ ← progress.settle; .error .displayHelp
    | .version, none => do let _ ← progress.settle; .error .displayVersion

/-- Short options behind one dash. -/
def short (level : Level σ) : Progress σ → List Char → Except UsageError (Progress σ)
  | progress, [] => .ok progress
  | progress, letter :: rest =>
    match level.options.find? fun option ↦ option.short == some letter with
    | none => .error .unknownArgument
    | some option =>
      match option.action with
      | .value repeatable store =>
        let attached := match rest with
          | [] => none
          | '=' :: value => some (String.ofList value)
          | value => some (String.ofList value)
        progress.await option repeatable store attached
      | .flag store => do short level (← progress.raise option store) rest
      | .help => do let _ ← progress.settle; .error .displayHelp
      | .version => do let _ ← progress.settle; .error .displayVersion

/-- An argument that is no option and no value of one. -/
def positional (level : Level σ) (progress : Progress σ) (argument : String) :
    Except UsageError (Progress σ) :=
  match progress.positionals with
  | store :: others => do
    let settled ← progress.settle
    return { settled with pending := some (.positional store argument), positionals := others }
  | [] =>
    if level.subcommands.isEmpty then .error .unknownArgument
    else if progress.trailing && level.subcommands.contains argument then .error .unknownArgument
    else .error .invalidSubcommand

/-- One argument that names no subcommand. -/
def argument (level : Level σ) (progress : Progress σ) (argument : String) :
    Except UsageError (Progress σ) :=
  if progress.trailing then level.positional progress argument
  else
    match argument.toList with
    | ['-', '-'] => .ok { progress with trailing := true }
    | '-' :: '-' :: name =>
      match Text.splitFirst? '=' name with
      | some (name, value) =>
        level.long progress (String.ofList name) (some (String.ofList value))
      | none => level.long progress (String.ofList name) none
    | '-' :: letter :: letters => level.short progress (letter :: letters)
    | _ =>
      match progress.pending with
      | some (.awaiting option repeatable store) =>
        .ok { progress with pending := some (.valued option repeatable store argument) }
      | _ => level.positional progress argument

/-- Reads a level up to its end, or up to the name of a subcommand, which is given together with
the arguments behind it. -/
def scan (level : Level σ) : Progress σ → List String →
    Except UsageError (Progress σ × Option (String × List String))
  | progress, [] => .ok (progress, none)
  | progress, argument :: rest =>
    if !progress.trailing && !progress.isAwaiting && level.subcommands.contains argument then
      .ok (progress, some (argument, rest))
    else do scan level (← level.argument progress argument) rest

/-- Where the reading of a level begins. -/
def start (level : Level σ) (draft : σ) : Progress σ :=
  { draft, positionals := level.positionals }

end Level

end FlatTables.Command
