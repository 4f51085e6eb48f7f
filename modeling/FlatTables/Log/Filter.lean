import FlatTables.Log.Event
import FlatTables.Pattern.Sense

/-!
# Which events are logged

A log filter is a list of directives: a directive gives the least severity that is logged for the
sources that begin with its name, and one without a name gives it for all. For an event the
directive with the longest fitting name decides. A filter may also ask for a pattern that has to be
found in the text of an event.

Directives are written between commas as `name=severity`, as a name alone, which logs everything
of it, or as a severity alone; the pattern follows them behind a slash. What cannot be read is left
out with a warning.
-/

set_option autoImplicit false
set_option relaxedAutoImplicit false

namespace FlatTables

/-- The least severity that is logged for some sources; `none` logs nothing. -/
structure Directive where
  source : Option String
  least : Option Severity
deriving DecidableEq

namespace Directive

/-- How much of the source of an event the name of a directive fits, if it does. -/
def fit? (directive : Directive) (source : String) : Option Nat :=
  match directive.source with
  | none => some 0
  | some name => if name.toList.isPrefixOf source.toList then some name.length else none

end Directive

/-- What decides which events are logged. -/
structure LogFilter where
  directives : List Directive := []
  pattern : Option Pattern := none
deriving DecidableEq

namespace LogFilter

/-- Sets what is logged for a name; an earlier directive of the same name is replaced. -/
def set (filter : LogFilter) (directive : Directive) : LogFilter :=
  { filter with
    directives :=
      if filter.directives.any fun other ↦ other.source == directive.source then
        filter.directives.map fun other ↦
          if other.source = directive.source then directive else other
      else filter.directives ++ [directive] }

/-- The directive that decides about a source. -/
def deciding? (filter : LogFilter) (source : String) : Option Directive :=
  (filter.directives.foldl
    (fun best directive ↦
      match directive.fit? source, best with
      | none, best => best
      | some fit, none => some (fit, directive)
      | some fit, some (bestFit, bestDirective) =>
        if bestFit ≤ fit then some (fit, directive) else some (bestFit, bestDirective))
    (none : Option (Nat × Directive))).map Prod.snd

/-- Whether an event is logged. -/
def allows (filter : LogFilter) (event : Event) : Bool :=
  let severe := match filter.deciding? event.source with
    | some ⟨_, some least⟩ => event.severity.rank ≤ least.rank
    | _ => false
  severe && filter.pattern.all fun pattern ↦ pattern.foundIn event.message

/-! ### Reading -/

/-- The severity of a name in any case; the name `off` stands for none. -/
def severityOfText? (text : String) : Option (Option Severity) :=
  if Text.sameIgnoringCase text "off" then some none
  else
    (Severity.all.find? fun severity ↦ Text.sameIgnoringCase text severity.name).map some

/-- The warning for a text that is no directive. -/
def warning (text : String) : String :=
  "warning: invalid logging spec '" ++ text ++ "', ignoring it"

/-- The directive that a text gives, or a warning. -/
def directiveOfText (text : String) : Except String Directive :=
  match Text.cut '=' text with
  | [name] =>
    match severityOfText? name with
    | some least => .ok ⟨none, least⟩
    | none => .ok ⟨some name, some .trace⟩
  | [name, severity] =>
    let severity := Text.trim severity
    if severity = "" then .ok ⟨some name, some .trace⟩
    else
      match severityOfText? severity with
      | some least => .ok ⟨some name, least⟩
      | none => .error (warning severity)
  | _ => .error (warning text)

/-- Adds the directive of a text to a filter, or a warning to the others. -/
def addText (read : LogFilter × List String) (text : String) : LogFilter × List String :=
  let text := Text.trim text
  if text = "" then read
  else
    match directiveOfText text with
    | .ok directive => (read.1.set directive, read.2)
    | .error warning => (read.1, read.2 ++ [warning])

/-- Adds the pattern of a text to a filter, or a warning to the others. -/
def addPattern (read : LogFilter × List String) (text : String) : LogFilter × List String :=
  match Pattern.ofText text with
  | .ok pattern => ({ read.1 with pattern := some pattern }, read.2)
  | .error reason => (read.1, read.2 ++ ["warning: invalid regex filter - " ++ reason])

/-- The filter that a text gives, with warnings. -/
def ofText (text : String) : LogFilter × List String :=
  match Text.cut '/' text with
  | [directives] => (Text.cut ',' directives).foldl addText ({}, [])
  | [directives, pattern] => addPattern ((Text.cut ',' directives).foldl addText ({}, [])) pattern
  | _ => ({}, [warning text ++ " (too many '/'s)"])

/-! ### Writing -/

/-- A text that is logged: a line within it stands four blanks in. -/
def indent (text : String) : String :=
  "\n    ".intercalate (Text.cut '\n' text)

/-- The line that an event is logged as. -/
def line (event : Event) : String :=
  let name := event.severity.name
  let padding := String.ofList (List.replicate (5 - name.length) ' ')
  "[" ++ name ++ padding ++ " " ++ event.source ++ "] " ++ indent event.message

end LogFilter

end FlatTables
