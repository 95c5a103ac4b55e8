import Reshape.Csv
import Reshape.Error
import Reshape.Files
import Reshape.Json.Draft

/-!
# Records in files

* `Records.read`: the records of a JSON text, a delimited text or a sheet of a workbook, told apart
  by the extension of the path.
* `Records.write`: writes a workbook with one sheet, and the same records as JSON beside it.
-/

namespace Reshape.Records

/-- What part of a table to read. -/
structure Selection where
  /-- The sheet of a workbook. -/
  sheet : String
  /-- Addresses in place of the corners of the region in use. -/
  first : Option String
  last : Option String
  deriving DecidableEq, Repr

def isJson (path : String) : Bool := Path.hasExtension path "json"

def isCsv (path : String) : Bool := Path.hasExtension path "csv"

/-- Whether a path tells of another kind of workbook than those that are written here. -/
def isForeignWorkbook (path : String) : Bool :=
  match Path.extension? path with
  | some e => ["xls", "xla", "xlsb", "ods"].contains e
  | none => false

/-- The elements of the array that a file holds as JSON. -/
def readJson (f : Files) (path : String) : Except TableError (List Value) :=
  match f.text? path with
  | none => .error .io
  | some text => match Value.ofText? text with
    | none => .error .json
    | some (.array items) => .ok items
    | some _ => .error (.notRecordArray path)

/-- The grid of a delimited text, in the encoding that its bytes and with the delimiter that its
first line suggests. -/
def readCsv (f : Files) (path : String) : Except TableError Grid :=
  match f.find? path with
  | none => .error .io
  | some c => do
    let cs ← Csv.decode (Csv.encodingOf (f.codec.charset c.bytes)) c.bytes
    return Csv.grid (Csv.detectDelimiter cs) cs

/-- The workbook that a file is. -/
def readWorkbook (f : Files) (path : String) : Except TableError Workbook :=
  match (f.find? path).bind Content.workbook?, isForeignWorkbook path with
  | some w, false => .ok w
  | _, _ => .error .workbook

/-- The names of the sheets of a workbook. -/
def sheetNames (f : Files) (path : String) : Except TableError (List String) :=
  (readWorkbook f path).map Workbook.sheetNames

/-- The grid of a sheet of a workbook. -/
def readSheet (f : Files) (path sheet : String) : Except TableError Grid :=
  match readWorkbook f path with
  | .error e => .error e
  | .ok w => match w.lookup sheet with
    | some s => .ok s.read
    | none => .error (.sheetNotFound path sheet)

/-- The records of a file. -/
def read (f : Files) (path : String) (selection : Selection) : Except TableError (List Value) :=
  if isJson path then readJson f path
  else do
    let grid ← if isCsv path then readCsv f path else readSheet f path selection.sheet
    grid.selectRecords selection.first selection.last

/-- Where the records of a workbook stand as JSON. -/
def mirror (path : String) : String := path ++ ".json"

/-- Writes records as indented JSON. -/
def writeJson (f : Files) (path : String) (c : Collection) : Except TableError Files :=
  match f.write path (.text (Value.array c).prettyText) with
  | .ok f => .ok f
  | .error _ => .error .io

/-- The files after a workbook is written. -/
def writeSheet (f : Files) (path sheet : String) (c : Collection) : Except TableError Files :=
  let columns := (Table.fieldNames c).length
  if 65535 < columns then .error (.tooManyColumns columns)
  else match Workbook.sheetOfRecords? sheet c with
    | none => .error .workbookWrite
    | some s =>
      match f.write path (.workbook ⟨f.codec.pack sheet s, Workbook.ofSheet? sheet s⟩) with
      | .ok f => .ok f
      | .error _ => .error .workbookWrite

/-- The files after records are written, and the error if not all could be. -/
def write (f : Files) (path sheet : String) (c : Collection) : Files × Except TableError Unit :=
  match writeSheet f path sheet c with
  | .error e => (f, .error e)
  | .ok f => match writeJson f (mirror path) c with
    | .error e => (f, .error e)
    | .ok f => (f, .ok ())

end Reshape.Records
