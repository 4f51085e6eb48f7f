/-!
# Delimited text

A text holds records, one a line, with fields parted by a delimiter. A field that holds the
delimiter, a double quote or a line break is written between double quotes with each inner quote
doubled, so a record may span lines. Lines end with LF or CRLF, and a line with nothing on it is
no record.

`decode` is a machine that reads one character at a time (`Decoder.step`) and is asked for its
records at the end (`Decoder.finish`). Two characters mean something only once the next one is
known: a carriage return, which is data unless a line feed follows, and a quote inside quotes,
which closes the field unless a second one follows. Each has a mode of its own, so the machine
never looks ahead and reading a text in two parts is reading it in one
(`Decoder.read_append`).

`encodeRecord` writes a record so that it reads back. A record of one empty field is written as
a pair of quotes, since a blank line would stand for no record.
-/

set_option autoImplicit false
set_option relaxedAutoImplicit false

namespace FlatTables.Delimited

/-- A record and the line, counted from one, that it starts on. -/
structure Record where
  line : Nat
  fields : List String
deriving DecidableEq

/-- A quoted field is still open at the end of the text; `line` is where its record starts. -/
structure Unterminated where
  line : Nat
deriving DecidableEq

/-! ### Reading -/

/-- What the characters read so far leave open. -/
inductive Mode
  /-- Outside quotes. -/
  | plain
  /-- Outside quotes, after a carriage return that is data unless a line feed follows. -/
  | carriageReturn
  /-- Inside quotes. -/
  | quoted
  /-- Inside quotes, after a quote that closes them unless a second one follows. -/
  | quoteSeen
deriving DecidableEq

/-- The decoder between two characters. Lists are kept newest first. -/
structure Decoder where
  /-- The records that are complete. -/
  records : List Record
  /-- The complete fields of the current record. -/
  fields : List String
  /-- The characters of the current field. -/
  field : List Char
  /-- Whether the current field had an opening quote. -/
  wasQuoted : Bool
  mode : Mode
  /-- The line the next character stands on. -/
  line : Nat
  /-- The line the current record starts on. -/
  startLine : Nat
deriving DecidableEq

namespace Decoder

/-- The decoder at the beginning of a text. -/
def start : Decoder :=
  ⟨[], [], [], false, .plain, 1, 1⟩

/-- Adds a character to the current field. -/
def push (decoder : Decoder) (c : Char) : Decoder :=
  { decoder with field := c :: decoder.field }

/-- Ends the current field and begins the next one of the same record. -/
def endField (decoder : Decoder) : Decoder :=
  { decoder with
    fields := String.ofList decoder.field.reverse :: decoder.fields
    field := []
    wasQuoted := false }

/-- Ends the current record with the current field. A record of one empty field without quotes
is a blank line and is dropped. -/
def endRecord (decoder : Decoder) : Decoder :=
  let blank := decoder.fields.isEmpty && decoder.field.isEmpty && !decoder.wasQuoted
  let fields := (String.ofList decoder.field.reverse :: decoder.fields).reverse
  { decoder with
    records := if blank then decoder.records else ⟨decoder.startLine, fields⟩ :: decoder.records
    fields := []
    field := []
    wasQuoted := false }

/-- Ends the line: the record is complete and the next one starts on the line after. -/
def newline (decoder : Decoder) : Decoder :=
  { decoder.endRecord with line := decoder.line + 1, startLine := decoder.line + 1 }

/-- A character outside quotes that neither opens quotes nor ends a line. -/
def ordinary (delimiter : Char) (decoder : Decoder) (c : Char) : Decoder :=
  if c = delimiter then decoder.endField else decoder.push c

/-- A character outside quotes. A quote opens a quoted field at the field's beginning only, and
quotes and line ends are recognised before the delimiter is. -/
def outside (delimiter : Char) (decoder : Decoder) (c : Char) : Decoder :=
  if c = '"' ∧ decoder.field = [] ∧ decoder.wasQuoted = false then
    { decoder with mode := .quoted, wasQuoted := true }
  else if c = '\r' then { decoder with mode := .carriageReturn }
  else if c = '\n' then decoder.newline
  else decoder.ordinary delimiter c

/-- Reads one character. -/
def step (delimiter : Char) (decoder : Decoder) (c : Char) : Decoder :=
  match decoder.mode with
  | .plain => decoder.outside delimiter c
  | .carriageReturn =>
    let waiting := { decoder with mode := .plain }
    if c = '\n' then waiting.newline else (waiting.ordinary delimiter '\r').outside delimiter c
  | .quoted =>
    if c = '"' then { decoder with mode := .quoteSeen }
    else if c = '\n' then { decoder.push c with line := decoder.line + 1 }
    else decoder.push c
  | .quoteSeen =>
    if c = '"' then { decoder.push c with mode := .quoted }
    else { decoder with mode := .plain }.outside delimiter c

/-- Reads a run of characters. -/
def read (delimiter : Char) (decoder : Decoder) (text : List Char) : Decoder :=
  text.foldl (step delimiter) decoder

theorem read_append (delimiter : Char) (decoder : Decoder) (first second : List Char) :
    decoder.read delimiter (first ++ second) =
      (decoder.read delimiter first).read delimiter second :=
  List.foldl_append

/-- The records in the order of the text, the current one among them unless nothing of it has
been read. -/
def flush (decoder : Decoder) : List Record :=
  if decoder.field = [] ∧ decoder.fields = [] ∧ decoder.wasQuoted = false then
    decoder.records.reverse
  else decoder.endRecord.records.reverse

/-- The end of the text. A carriage return that no line feed followed is data. -/
def finish (delimiter : Char) (decoder : Decoder) : Except Unterminated (List Record) :=
  match decoder.mode with
  | .quoted => .error ⟨decoder.startLine⟩
  | .carriageReturn => .ok (decoder.ordinary delimiter '\r').flush
  | .plain | .quoteSeen => .ok decoder.flush

end Decoder

/-- The records of a text, or the record whose quoted field never closes. -/
def decode (delimiter : Char) (text : String) : Except Unterminated (List Record) :=
  (Decoder.start.read delimiter text.toList).finish delimiter

/-! ### Writing -/

/-- Whether a field holds a character that would be read as more than itself. -/
def needsQuotes (delimiter : Char) (field : String) : Bool :=
  field.toList.any fun c ↦ c == delimiter || c == '"' || c == '\n' || c == '\r'

/-- The text between quotes that stands for a field: each quote is doubled. -/
def quotedBody (field : List Char) : List Char :=
  field.flatMap fun c ↦ if c = '"' then ['"', '"'] else [c]

/-- The text of one field. `alone` says that the record has no other. -/
def encodeField (delimiter : Char) (alone : Bool) (field : String) : List Char :=
  if (alone && field.isEmpty) || needsQuotes delimiter field then
    '"' :: (quotedBody field.toList ++ ['"'])
  else field.toList

/-- The characters of one record, its line end included. -/
def encodeChars (delimiter : Char) (fields : List String) : List Char :=
  [delimiter].intercalate (fields.map (encodeField delimiter (fields.length == 1))) ++ ['\n']

/-- The line, or lines, that one record is written as. -/
def encodeRecord (delimiter : Char) (fields : List String) : String :=
  String.ofList (encodeChars delimiter fields)

/-- The text of a list of records. -/
def encode (delimiter : Char) (records : List (List String)) : String :=
  String.ofList (records.flatMap (encodeChars delimiter))

end FlatTables.Delimited
