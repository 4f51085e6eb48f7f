import FlatTables.Text.Quoted

/-!
# Failures of files

Why a file could not be read or written: what the operating system answered, or that the path or
the content is no text the program can use.
-/

set_option autoImplicit false
set_option relaxedAutoImplicit false

namespace FlatTables

/-- Why a file could not be read or written. -/
inductive FileFailure
  /-- Nothing has this path. -/
  | notFound
  /-- A directory has this path. -/
  | isDirectory
  /-- The path goes on behind a file. -/
  | notDirectory
  /-- A name in the path, or the path itself, is too long. -/
  | nameTooLong
  /-- The path holds a NUL character. -/
  | nulInPath
  /-- The content is not UTF-8 text. -/
  | notText
  /-- Anything else the operating system answers. -/
  | system (code : Nat) (summary : String)
deriving DecidableEq

namespace FileFailure

/-- The class of a failure. -/
def kind : FileFailure → String
  | .notFound => "NotFound"
  | .isDirectory => "IsADirectory"
  | .notDirectory => "NotADirectory"
  | .nameTooLong => "InvalidFilename"
  | .nulInPath => "InvalidInput"
  | .notText => "InvalidData"
  | .system _ _ => "Other"

/-- The number that the operating system gives to a failure of its own. -/
def code? : FileFailure → Option Nat
  | .notFound => some 2
  | .isDirectory => some 21
  | .notDirectory => some 20
  | .nameTooLong => some 36
  | .nulInPath => none
  | .notText => none
  | .system code _ => some code

/-- A failure in a few words. -/
def summary : FileFailure → String
  | .notFound => "No such file or directory"
  | .isDirectory => "Is a directory"
  | .notDirectory => "Not a directory"
  | .nameTooLong => "File name too long"
  | .nulInPath => "file name contained an unexpected NUL byte"
  | .notText => "stream did not contain valid UTF-8"
  | .system _ summary => summary

/-- The text of a failure. -/
def message (failure : FileFailure) : String :=
  match failure.code? with
  | some code => failure.summary ++ " (os error " ++ toString code ++ ")"
  | none => failure.summary

/-- A failure with its parts. -/
def details (failure : FileFailure) : String :=
  match failure.code? with
  | some code =>
    "Os \x7b code: " ++ toString code ++ ", kind: " ++ failure.kind ++ ", message: " ++
      quoted failure.summary ++ " \x7d"
  | none =>
    "Error \x7b kind: " ++ failure.kind ++ ", message: " ++ quoted failure.summary ++ " \x7d"

end FileFailure

end FlatTables
