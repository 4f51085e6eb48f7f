import FlatTables.File.Failure
import FlatTables.Path

/-!
# Disks

A disk is a tree of directories and files, kept as the list of what stands at each location. A
location is the list of names on the way from the root. A path is followed segment by segment
(`Disk.follow`), each one looked up in the directory reached so far: the empty segment and the
single dot stay, the double dot goes up, and a name goes down. So every place that a path goes
through has to be a directory.

Reading needs a file at the path. Writing replaces the file at the path or makes one in a
directory that exists (`Disk.write`); a write that fails leaves the disk as it was.
-/

set_option autoImplicit false
set_option relaxedAutoImplicit false

namespace FlatTables

/-- The names on the way from the root. -/
abbrev Location := List String

/-- What stands at a location. -/
inductive Entry
  | file (content : ByteArray)
  | directory

instance : DecidableEq Entry
  | .directory, .directory => isTrue rfl
  | .directory, .file _ => isFalse nofun
  | .file _, .directory => isFalse nofun
  | .file left, .file right =>
    match ByteArray.instDecidableEq left right with
    | isTrue equal => isTrue (congrArg Entry.file equal)
    | isFalse different => isFalse fun equal ↦ different (Entry.file.inj equal)

/-- A tree of directories and files. -/
structure Disk where
  /-- What stands where; of two entries for one location the first counts. -/
  entries : List (Location × Entry) := []
  /-- Where relative paths start. -/
  workingDirectory : Location := []
deriving DecidableEq

namespace Disk

/-- What stands at a location. The root is always a directory. -/
def entry? (disk : Disk) (location : Location) : Option Entry :=
  if location = [] then some .directory else disk.entries.lookup location

/-- Puts a file or a directory at a location. -/
def put (disk : Disk) (location : Location) (entry : Entry) : Disk :=
  { disk with
    entries :=
      if disk.entries.any fun (other, _) ↦ other == location then
        disk.entries.map fun (other, old) ↦
          if other = location then (other, entry) else (other, old)
      else disk.entries ++ [(location, entry)] }

/-- The longest name that a directory can hold, in bytes. -/
def maxNameBytes : Nat := 255

/-- The longest path that can be followed, in bytes. -/
def maxPathBytes : Nat := 4095

/-- Looks one segment of a path up at the location reached so far. -/
def follow (disk : Disk) (location : Location) (segment : String) :
    Except FileFailure Location :=
  if disk.entry? location ≠ some .directory then .error .notDirectory
  else if segment = "" ∨ segment = "." then .ok location
  else if segment = ".." then .ok location.dropLast
  else if maxNameBytes < segment.utf8ByteSize then .error .nameTooLong
  else if (disk.entry? (location ++ [segment])).isSome then .ok (location ++ [segment])
  else .error .notFound

/-- Where the segments of a path lead from a location. -/
def walk (disk : Disk) (location : Location) (segments : List String) :
    Except FileFailure Location :=
  segments.foldlM disk.follow location

/-- Where a path starts. -/
def origin (disk : Disk) (path : String) : Location :=
  if Path.isAbsolute path then [] else disk.workingDirectory

/-- The location that a path leads to. -/
def locate (disk : Disk) (path : String) : Except FileFailure Location :=
  if path.toList.contains '\x00' then .error .nulInPath
  else if path = "" then .error .notFound
  else if maxPathBytes < path.utf8ByteSize then .error .nameTooLong
  else disk.walk (disk.origin path) (Path.segments path)

/-- The content of the file at a path. -/
def read (disk : Disk) (path : String) : Except FileFailure ByteArray := do
  let location ← disk.locate path
  match disk.entry? location with
  | some (.file content) => .ok content
  | some .directory => .error .isDirectory
  | none => .error .notFound

/-- The location at which a path that leads nowhere would make a file: its last segment is a
name, and the others lead to a directory. -/
def newLocation? (disk : Disk) (path : String) : Option Location := do
  let segments := Path.segments path
  let name ← segments.getLast?
  let parent ← (disk.walk (disk.origin path) segments.dropLast).toOption
  if name = "" ∨ disk.entry? parent ≠ some .directory then none
  else some (parent ++ [name])

/-- The disk after a file has been written at a path. -/
def write (disk : Disk) (path : String) (content : ByteArray) : Except FileFailure Disk :=
  match disk.locate path with
  | .ok location =>
    if disk.entry? location = some .directory then .error .isDirectory
    else .ok (disk.put location (.file content))
  | .error .notFound =>
    if path = "" then .error .notFound
    else
      match disk.newLocation? path with
      | some location => .ok (disk.put location (.file content))
      | none => .error .notFound
  | .error failure => .error failure

/-! ### Making and removing -/

/-- Puts a directory at a location and at those on the way to it, where nothing stands yet. -/
def makeDirectories (disk : Disk) (location : Location) : Disk :=
  (List.range location.length).foldl
    (fun disk above ↦
      let step := location.take (above + 1)
      if (disk.entry? step).isNone then disk.put step .directory else disk) disk

/-- Removes what stands at a location and all that is below it. -/
def remove (disk : Disk) (location : Location) : Disk :=
  { disk with entries := disk.entries.filter fun (other, _) ↦ !location.isPrefixOf other }

/-- The files below a location with the names that lead there. -/
def filesBelow (disk : Disk) (location : Location) : List (Location × ByteArray) :=
  disk.entries.filterMap fun (other, entry) ↦
    match entry with
    | .file content =>
      if location.isPrefixOf other then some (other.drop location.length, content) else none
    | .directory => none

end Disk

end FlatTables
