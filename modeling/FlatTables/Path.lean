import FlatTables.Text.Split

/-!
# Paths

A path is kept as the text it was given as; what is read off it does not depend on the files
there are. Its segments are the texts between slashes. Its last name is its last segment that is
neither empty nor a single dot, unless that is the segment for the parent directory, which is no
name. The extension is what follows the last dot of that name, provided that something stands
before the dot; it may be empty.
-/

set_option autoImplicit false
set_option relaxedAutoImplicit false

namespace FlatTables.Path

/-- The texts between the slashes of a path. -/
def segments (path : String) : List String :=
  Text.cut '/' path

/-- Whether a path starts at the root. -/
def isAbsolute (path : String) : Bool :=
  path.toList.head? == some '/'

/-- The last segment that names something. -/
def lastName? (path : String) : Option String :=
  match ((segments path).filter fun segment ↦ segment != "" && segment != ".").getLast? with
  | some ".." => none
  | last => last

/-- A name parted at its last dot, when something stands before that dot. -/
def splitExtension? (name : String) : Option (String × String) :=
  match Text.cutLast? '.' name with
  | some ("", _) => none
  | parts => parts

/-- The extension of the last name. -/
def extension? (path : String) : Option String := do
  let name ← lastName? path
  let (_, extension) ← splitExtension? name
  return extension

/-- The last name without its extension. -/
def stem? (path : String) : Option String := do
  let name ← lastName? path
  return match splitExtension? name with
    | some (stem, _) => stem
    | none => name

/-- A path seen from a directory. An absolute path stands for itself, and a slash is put between
the two unless the directory ends in one or is the empty path. -/
def join (directory path : String) : String :=
  if isAbsolute path || directory == "" then path
  else if directory.toList.getLast? == some '/' then directory ++ path
  else directory ++ "/" ++ path

end FlatTables.Path
