import FlatTables.Pattern.Reader
import FlatTables.Text.Letter

/-!
# Openings of groups

An opening parenthesis begins a group. A question mark behind it gives the group a name or flags of
its own; flags followed by the closing parenthesis are no group and hold for what comes behind
them. `Reader.groupOpening` reads all that belongs to the opening.
-/

set_option autoImplicit false
set_option relaxedAutoImplicit false

namespace FlatTables.Pattern

/-- What an opening parenthesis begins. -/
inductive GroupOpening
  | flags (span : Span) (settings : Settings)
  | group (captures : Bool) (settings : Settings)

namespace Reader

/-- What has been read of some flags: those given, with where, and the dash that clears those behind
it. -/
structure FlagList where
  given : List (Flag × Bool × Span) := []
  dash : Option Span := none
  /-- Whether the dash is the last thing read. -/
  dangling : Bool := false

/-- Reads a flag or the dash. -/
def flag (found : FlagList) (c : Char) : Reader FlagList := do
  let span ← spanNext
  if c = '-' then
    match found.dash with
    | some earlier => fail .repeatedNegation span earlier
    | none => return { found with dash := some span, dangling := true }
  else
    match Flag.letters.lookup c with
    | none => fail .unknownFlag span
    | some flag =>
      match found.given.lookup flag with
      | some (_, earlier) => fail .duplicateFlag span earlier
      | none =>
        let item := (flag, found.dash.isNone, span)
        return { found with given := found.given ++ [item], dangling := false }

/-- Reads flags up to a colon or a closing parenthesis; `fuel` bounds their number. -/
def flags : (fuel : Nat) → FlagList → Reader Settings
  | 0, _ => return []
  | fuel + 1, found => do
    match ← next? with
    | none => fail .unfinishedFlags (← spanHere)
    | some c =>
      if c = ':' ∨ c = ')' then
        match found.dangling, found.dash with
        | true, some dash => fail .danglingNegation dash
        | _, _ => return found.given.map fun (flag, value, _) ↦ (flag, value)
      else
        let found ← flag found c
        advance
        flags fuel found

/-- Whether a character can stand in the name of a group. -/
def isNameChar (first : Bool) (c : Char) : Bool :=
  c == '_' || Text.isLetter c ||
    (!first && (c == '.' || c == '[' || c == ']' || Text.isNumeric c))

/-- Reads the name of a group up to the closing bracket; `fuel` bounds its length. -/
def groupName : (fuel : Nat) → (first : Bool) → Reader (List Char)
  | 0, _ => return []
  | fuel + 1, first => do
    match ← next? with
    | none => fail .unfinishedName (← spanHere)
    | some c =>
      if c = '>' then return []
      else if isNameChar first c then
        advance
        return c :: (← groupName fuel false)
      else fail .invalidNameCharacter (← spanNext)

/-- Reads the name of a group, which no group before may have. -/
def newGroupName : Reader Unit := do
  let start ← here
  let name := String.ofList (← groupName ((← get).rest.length + 1) true)
  let span ← spanFrom start
  advance
  if name = "" then fail .emptyName ⟨start, start⟩
  match (← get).names.lookup name with
  | some earlier => fail .duplicateName span earlier
  | none => modify fun state ↦ { state with names := (name, span) :: state.names }

/-- What may not stand behind an opening parenthesis: looking around it without taking anything. -/
def lookArounds : List String :=
  ["?=", "?!", "?<=", "?<!"]

/-- Reads an opening parenthesis and all that belongs to it. -/
def groupOpening : Reader GroupOpening := do
  let opening ← spanNext
  advance
  passBlanks
  for lookAround in lookArounds do
    if ← advancePast lookAround then fail .lookAround (← spanFrom opening.start)
  let inner ← spanHere
  if (← advancePast "?P<") || (← advancePast "?<") then
    newGroupName
    return .group true []
  else if ← advancePast "?" then
    if ← atEnd then fail .unclosedGroup opening
    let settings ← flags ((← get).rest.length + 1) {}
    let last ← next?
    advance
    if last = some ':' then return .group false settings
    else if settings.isEmpty then fail .missingRepeated inner
    else return .flags (← spanFrom opening.start) settings
  else return .group true []

end Reader

end FlatTables.Pattern
