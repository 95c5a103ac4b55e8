import Reshape.Grid.Position
import Reshape.Json.Writer
import Std.Data.HashMap

/-!
# Grids of cells

* `Region`: a rectangle of cells, both corners included.
* `Grid`: rows of cells, of which the first cell of the first row is at `origin`; null cells are
  blank.
* `Grid.bounds?`: the region in use.
* `Grid.headerNames`: names for columns from the texts above them; a text that repeats is numbered.
* `Grid.records`: a region as records, the first of its rows naming the fields.
-/

namespace Reshape

/-- A rectangle of cells, both corners included. -/
structure Region where
  first : Position
  last : Position
  deriving DecidableEq, Repr

namespace Region

/-- The region with corners replaced by those that are given. -/
def override (r : Region) (first last : Option String) : Except TableError Region := do
  let first ← match first with
    | some text => Position.parse text
    | none => .ok r.first
  let last ← match last with
    | some text => Position.parse text
    | none => .ok r.last
  return ⟨first, last⟩

end Region

/-- Rows of cells, the first of which starts at `origin`. -/
structure Grid where
  origin : Position
  rows : List (List Value)
  deriving DecidableEq

namespace Grid

/-- The number of cells in the longest row. -/
def width (g : Grid) : Nat := g.rows.foldl (fun n row => max n row.length) 0

/-- The region in use, unless there are no cells. -/
def bounds? (g : Grid) : Option Region :=
  if g.rows.isEmpty ∨ g.width = 0 then none
  else some ⟨g.origin, g.origin.row + g.rows.length - 1, g.origin.column + g.width - 1⟩

/-- The cells of a row. -/
def line (g : Grid) (row : Nat) : List Value :=
  if row < g.origin.row then [] else (g.rows[row - g.origin.row]?).getD []

/-- The cell of a column in a row, unless it is blank. -/
def cellOf (g : Grid) (row : List Value) (column : Nat) : Option Value :=
  if column < g.origin.column then none
  else (row[column - g.origin.column]?).filter (· ≠ .null)

/-- The cell at a position, unless it is blank. -/
def cell (g : Grid) (p : Position) : Option Value := g.cellOf (g.line p.row) p.column

/-! ## Names of columns -/

/-- The name above a column whose header cell is blank. -/
def blankName : String := "__EMPTY"

/-- The text of a header cell. -/
def headerText (cell : Option Value) : String :=
  match cell.map Value.display with
  | none | some "" => blankName
  | some s => s

/-- The name of the next column with a text that `count` columns before it have. -/
def numbered (text : String) (count : Nat) : String :=
  if count = 0 then text else text ++ "_" ++ Number.intText count

/-- How often texts occur. -/
abbrev Tally := Std.HashMap String Nat

/-- How often a text occurs. -/
def Tally.count (seen : Tally) (text : String) : Nat := (seen[text]?).getD 0

/-- The tally with one more text. -/
def Tally.add (seen : Tally) (text : String) : Tally :=
  Std.HashMap.insert seen text (seen.count text + 1)

theorem Tally.count_empty (text : String) : Tally.count ∅ text = 0 := by
  simp [Tally.count]

theorem Tally.count_add (seen : Tally) (text other : String) :
    (seen.add text).count other = seen.count other + if text = other then 1 else 0 := by
  unfold Tally.count Tally.add
  rw [Std.HashMap.getElem?_insert]
  by_cases h : text = other
  · subst h
    simp [Tally.count]
  · simp [h]

/-- Names for columns after those with the texts that were seen. -/
def headerNamesFrom (seen : Tally) : List String → List String
  | [] => []
  | t :: ts => numbered t (seen.count t) :: headerNamesFrom (seen.add t) ts

/-- Names for columns; a text that repeats is numbered. -/
def headerNames (texts : List String) : List String := headerNamesFrom ∅ texts

/-! ## Records -/

/-- The numbers from `first` to `last`. -/
def span (first last : Nat) : List Nat := List.range' first (last + 1 - first)

/-- The record of a row: its cells under their names, blank ones left out. -/
def rowRecord (names : List String) (cells : List (Option Value)) : Record :=
  (names.zip cells).foldl (fun r f => match f.2 with
    | some v => Record.insert r f.1 v
    | none => r) []

/-- The region without what is after the region in use. -/
def clamp (used region : Region) : Region :=
  ⟨region.first, min region.last.row used.last.row, min region.last.column used.last.column⟩

/-- The cells of a row in the columns. -/
def cells (g : Grid) (columns : List Nat) (row : Nat) : List (Option Value) :=
  let line := g.line row
  columns.map (g.cellOf line)

/-- The records of a region: its first row names the fields, and rows without cells are left out.
All rows before the origin are such rows. -/
def records (g : Grid) (region : Region) : List Value :=
  match g.bounds? with
  | none => []
  | some used =>
    let region := clamp used region
    if region.last.row < region.first.row ∨ region.last.column < region.first.column then []
    else
      let columns := span region.first.column region.last.column
      let names := headerNames ((g.cells columns region.first.row).map headerText)
      let rows := span (max (region.first.row + 1) g.origin.row) region.last.row
      ((rows.map fun row => rowRecord names (g.cells columns row)).filter (!·.isEmpty)).map .object

/-- The records of the region in use with corners replaced; a grid without cells has none, whatever
the corners. -/
def selectRecords (g : Grid) (first last : Option String) : Except TableError (List Value) :=
  match g.bounds? with
  | none => .ok []
  | some used => (used.override first last).map g.records

end Grid

end Reshape
