import Reshape.Grid.Basic
import Reshape.Grid.Table
import Reshape.Workbook.TextTable

/-!
# Workbooks

* `Sheet.ofRecords`: the sheet that records are written to, one column for each field.
* `Sheet.read`: the grid read back, which is the smallest that holds all cells that are not blank.
* `Workbook.sheetOfRecords?`: the sheet of a workbook, if its name and contents are allowed.
* `Workbook.ofSheet?`: the workbook that is read where one with this sheet was written.
-/

namespace Reshape

/-- Rows of cells from the first row and column on. -/
abbrev Sheet := List (List Value)

namespace Sheet

/-- What a cell holds for a value: truth values, binary64 numbers and texts. Null and the empty text
leave it blank. -/
def cell : Value → Value
  | .null => .null
  | .bool b => .bool b
  | .number n => .number (.float n.toBinary64)
  | v => if v.display = "" then .null else .string v.display

/-- What a cell is read as; numbers that are whole become whole numbers. -/
def readCell : Value → Value
  | .number n => .number (.ofBinary64 n.toBinary64)
  | v => v

/-- The sheet that records are written to: the names of the fields and a row for each record. -/
def ofRecords (c : Collection) : Sheet :=
  let t := Table.ofRecords c
  (t.headers.map (cell ∘ .string)) :: t.rows.map (·.map cell)

/-- The texts of the cells. -/
def texts (s : Sheet) : List String :=
  s.flatMap (·.filterMap fun
    | .string t => some t
    | _ => none)

/-- A cell as it is read, given what texts are read as. -/
def storedCell (back : String → Option String) : Value → Option Value
  | .string t => (back t).map .string
  | v => some v

/-- The sheet as it is read; none if its texts cannot be read. -/
def stored? (s : Sheet) : Option Sheet := do
  let back ← TextTable.readBack? s.texts
  s.mapM (·.mapM (storedCell back))

/-- Whether a cell is blank. -/
def isBlank : Value → Bool
  | .null => true
  | _ => false

/-- Whether a row is blank. -/
def isBlankRow (row : List Value) : Bool := row.all isBlank

/-- The number of blank cells at the start of a row. -/
def indent (row : List Value) : Nat := (row.takeWhile isBlank).length

/-- The number of cells of a row without the blank ones at its end. -/
def extent (row : List Value) : Nat :=
  row.length - (row.reverse.takeWhile isBlank).length

/-- The cells of a row from one column to before another one, blank where the row is shorter. -/
def slice (first last : Nat) (row : List Value) : List Value :=
  (row ++ List.replicate (last - row.length) Value.null).extract first last

/-- The grid read back. -/
def read (s : Sheet) : Grid :=
  let rows := ((s.dropWhile isBlankRow).reverse.dropWhile isBlankRow).reverse
  let used := rows.filter (!isBlankRow ·)
  let first := used.foldl (fun n row => min n (indent row)) ((used.head?.map indent).getD 0)
  let last := used.foldl (fun n row => max n (extent row)) 0
  if used.isEmpty then ⟨⟨0, 0⟩, []⟩
  else ⟨⟨(s.takeWhile isBlankRow).length, first⟩,
    rows.map fun row => (slice first last row).map readCell⟩

/-- The most columns, rows and characters of a cell that a sheet has room for. -/
def maxColumns : Nat := 16384

def maxRows : Nat := 1048576

def maxText : Nat := 32767

/-- Whether a cell has room for what it is to hold. -/
def fitsCell : Value → Bool
  | .string t => decide (t.length ≤ maxText)
  | _ => true

/-- Whether a sheet has room for the rows. What is blank takes no room. -/
def fits (s : Sheet) : Bool :=
  (s.drop maxRows).all isBlankRow &&
    s.all fun row => (row.drop maxColumns).all isBlank && row.all fitsCell

/-- Whether a sheet can have the name: one to 31 characters, of which some are not allowed. -/
def validName (name : String) : Bool :=
  let cs := name.toList
  !cs.isEmpty && decide (cs.length ≤ 31) &&
    !cs.any (['[', ']', ':', '*', '?', '/', '\\'].contains ·) &&
    cs.head? ≠ some '\'' && cs.getLast? ≠ some '\''

end Sheet

/-- Sheets with their names, in order. -/
abbrev Workbook := List (String × Sheet)

namespace Workbook

/-- The names of the sheets. -/
def sheetNames (w : Workbook) : List String := w.map (·.1)

/-- The sheet of a new workbook with the records on it, if the name and the records are allowed. -/
def sheetOfRecords? (name : String) (c : Collection) : Option Sheet :=
  let s := Sheet.ofRecords c
  if Sheet.validName name && Sheet.fits s then some s else none

/-- The workbook that is read where one with this sheet was written. -/
def ofSheet? (name : String) (s : Sheet) : Option Workbook := s.stored?.map fun s => [(name, s)]

end Workbook

end Reshape
