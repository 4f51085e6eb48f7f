import FlatTables.Json.Fields
import FlatTables.Json.Value
import FlatTables.Path

/-!
# Configuration

Where the files of tables are and how they are written. Each setting has a default, and a JSON
text may give any of them. A table name with an extension is a path seen from the directory; a
name without one gets the configured extension first.
-/

set_option autoImplicit false
set_option relaxedAutoImplicit false

namespace FlatTables

open Json

/-- What becomes of rows whose number of fields is not that of the header. -/
inductive Arity
  /-- Short rows are filled with empty fields, long ones are refused. -/
  | pad
  /-- Short and long rows are refused. -/
  | strict
deriving DecidableEq

namespace Arity

/-- The name that configurations use. -/
def name : Arity → String
  | .pad => "pad"
  | .strict => "strict"

/-- Both policies, in the order in which messages list them. -/
def all : List Arity :=
  [.pad, .strict]

end Arity

/-- Where tables are and how they are written. -/
structure Config where
  /-- The directory of the files. -/
  directory : String := "."
  /-- The extension of names that have none. -/
  extension : String := "csv"
  delimiter : Char := ','
  /-- The column that inserts number. -/
  idColumn : String := "id"
  arity : Arity := .pad
deriving DecidableEq

namespace Config

/-- The path of the file of a table. -/
def tablePath (config : Config) (table : String) : String :=
  if (Path.extension? table).isSome then Path.join config.directory table
  else Path.join config.directory (table ++ "." ++ config.extension)

/-- Reads a text of one character. -/
def characterReader : Reader Char := do
  let text ← Reader.string "a character"
  match text.toList with
  | [c] => return c
  | _ => Reader.refuse (.wrongValue text "a character")

/-- How a configuration is read. -/
def shape : Shape Config where
  title := "struct EngineConfig"
  start := {}
  slots := [
    ⟨"data_dir", false, fun config ↦ do
      return { config with directory := ← Reader.string "path string" }⟩,
    ⟨"extension", false, fun config ↦ do
      return { config with extension := ← Reader.string "a string" }⟩,
    ⟨"delimiter", false, fun config ↦ do return { config with delimiter := ← characterReader }⟩,
    ⟨"id_column", false, fun config ↦ do
      return { config with idColumn := ← Reader.string "a string" }⟩,
    ⟨"arity", false, fun config ↦ do
      return { config with
        arity := ← Reader.variant (Arity.all.map fun arity ↦ (arity.name, arity)) }⟩]

/-- The configuration that a JSON text gives. -/
def ofText (text : String) : Except Problem Config :=
  shape.reader.readAll text

end Config

end FlatTables
