import Reshape.Grid.Basic
import Reshape.Text.Encoding

/-!
# Delimited text

* `Csv.encodingOf`: the encoding that is named for bytes that seem to be in a character set.
* `Csv.decode`: the text of bytes in a named encoding.
* `Csv.rows`: the rows of a text with a given delimiter; a quote counts only at the start of a
  field, inside quotes it is written twice, and lines without characters are no rows.
* `Csv.detectDelimiter`: the separator that the first line has most of.
* `Csv.grid`: the rows with blanks around cells removed, empty cells being blank.
-/

namespace Reshape.Csv

/-- The label for bytes that seem to be in a character set. What seems to be Latin-9 is named
Latin-1, and what is in no set that is known is UTF-8. -/
def encodingOf (charset : String) : String :=
  let name := String.ofList (Text.lower charset.toList)
  if ["ascii", "utf-8", "utf8", ""].contains name then "utf-8"
  else if ["iso-8859-1", "iso-8859-15", "latin-1", "latin1"].contains name then "iso-8859-1"
  else if ["windows-1252", "cp1252"].contains name then "windows-1252"
  else charset

/-- The text of bytes in the encoding of a label. -/
def decode (label : String) (bs : List UInt8) : Except TableError (List Char) :=
  match Text.decodeAs? label.toList bs with
  | some cs => .ok cs
  | none => .error (.encoding (String.ofList (Text.lower label.toList)))

/-- Where in a row a reader is. -/
inductive Place
  /-- Before a row. -/
  | rowStart
  /-- Before a field. -/
  | fieldStart
  /-- In a field without quotes, or after its closing quote. -/
  | plain
  /-- Between quotes. -/
  | quoted
  /-- After a quote between quotes. -/
  | quoteSeen
  deriving DecidableEq, Repr

/-- What has been read: the current field and row and all rows before, each in reverse. -/
structure State where
  place : Place
  field : List Char
  row : List (List Char)
  rows : List (List (List Char))
  deriving DecidableEq, Repr

namespace State

def start : State := ⟨.rowStart, [], [], []⟩

/-- Adds a character to the field. -/
def push (s : State) (c : Char) (place : Place) : State :=
  { s with place := place, field := c :: s.field }

/-- Ends the field. -/
def endField (s : State) : State :=
  { s with place := .fieldStart, field := [], row := s.field.reverse :: s.row }

/-- Ends the field and the row. -/
def endRow (s : State) : State :=
  ⟨.rowStart, [], [], (s.field.reverse :: s.row).reverse :: s.rows⟩

end State

def isLineEnd (c : Char) : Bool := c == '\n' || c == '\r'

/-- A character of a field without quotes. -/
def stepPlain (delimiter : Char) (s : State) (c : Char) : State :=
  if c = delimiter then s.endField
  else if isLineEnd c then s.endRow
  else s.push c .plain

/-- The first character of a field. -/
def stepField (delimiter : Char) (s : State) (c : Char) : State :=
  if c = '"' then { s with place := .quoted } else stepPlain delimiter s c

/-- One character. -/
def step (delimiter : Char) (s : State) (c : Char) : State :=
  match s.place with
  | .rowStart => if isLineEnd c then s else stepField delimiter s c
  | .fieldStart => stepField delimiter s c
  | .plain => stepPlain delimiter s c
  | .quoted => if c = '"' then { s with place := .quoteSeen } else s.push c .quoted
  | .quoteSeen => if c = '"' then s.push c .quoted else stepPlain delimiter s c

/-- The rows of a text. -/
def rows (delimiter : Char) (cs : List Char) : List (List (List Char)) :=
  let s := (Text.skipMark cs).foldl (step delimiter) .start
  (if s.place = .rowStart then s else s.endRow).rows.reverse

/-- The separators, in order of preference. -/
def separators : List Char := [';', ',', '\t', '|']

/-- The separator that the first line has most of; a comma if it has none. -/
def detectDelimiter (cs : List Char) : Char :=
  let line := cs.takeWhile (· ≠ '\n')
  (separators.foldl (fun best c => if best.2 < line.count c then (c, line.count c) else best)
    (',', 0)).1

/-- The value of a cell. -/
def cell (cs : List Char) : Value :=
  let cs := Text.trim cs
  if cs.isEmpty then .null else .string (String.ofList cs)

/-- The grid of a text. -/
def grid (delimiter : Char) (cs : List Char) : Grid :=
  ⟨⟨0, 0⟩, (rows delimiter cs).map (·.map cell)⟩

end Reshape.Csv
