import Reshape.Workbook.Markup
import Reshape.Workbook.StoredText

/-!
# The table of a workbook's texts

Cells refer to a table that holds each text once, as marked-up text. A text that looks like markup
for runs of text is taken for such markup.

* `TextTable.write`: the marked-up table of texts.
* `TextTable.read?`: the texts of a marked-up table.
* `TextTable.readBack?`: what each text is read as after all are written.
-/

namespace Reshape.TextTable

/-- Whether a text looks like runs of text. -/
def isRuns (t : String) : Bool := t.startsWith "<r>" && t.endsWith "</r>"

/-- A text in the table. -/
def writeText (t : String) : List Char :=
  "<si>".toList ++
    (if isRuns t then t.toList
      else "<t>".toList ++ Markup.escape (StoredText.ofText t.toList) ++ "</t>".toList) ++
    "</si>".toList

/-- The marked-up table. -/
def write (texts : List String) : List Char :=
  "<sst>".toList ++ texts.flatMap writeText ++ "</sst>".toList

/-! ## Reading -/

/-- Where a part of the table stands. -/
inductive Place
  | table
  /-- In an element that holds a text: its name, the text of its runs so far, and whether that is
  how the text is spoken. -/
  | element (name : List Char) (runs : Option (List Char)) (spoken : Bool)
  /-- In text to be read: the name of what holds it, and the text so far. -/
  | text (element : List Char) (runs : Option (List Char)) (name value : List Char)
  /-- After the text of an element, with elements of its name open in it. -/
  | rest (name value : List Char) (nested : Nat)
  deriving DecidableEq, Repr

/-- A reading of the table. -/
structure Reading where
  place : Place
  /-- The texts read so far, in reverse. -/
  texts : List String
  /-- The number of elements that are open. -/
  depth : Nat
  deriving DecidableEq, Repr

namespace Reading

/-- The reading after a text is complete. -/
def complete (r : Reading) (text : List Char) : Reading :=
  { r with place := .table, texts := String.ofList text :: r.texts }

/-- The reading in another place. -/
def moveTo (r : Reading) (place : Place) : Reading := { r with place := place }

/-- The reading after the start of an element. -/
def opened (r : Reading) (name : List Char) : Reading :=
  match r.place with
  | .table =>
    if Markup.localName name = "si".toList then r.moveTo (.element name none false) else r
  | .element e runs spoken =>
    let kind := Markup.localName name
    if kind = "r".toList then r.moveTo (.element e (some (runs.getD [])) spoken)
    else if kind = "rPh".toList then r.moveTo (.element e runs true)
    else if kind = "t".toList && !spoken then r.moveTo (.text e runs name [])
    else r
  | .text .. => r
  | .rest e value nested => if name = e then r.moveTo (.rest e value (nested + 1)) else r

/-- The reading after the end of an element. -/
def closed (r : Reading) (name : List Char) : Reading :=
  match r.place with
  | .table => r
  | .element e runs _ =>
    if name = e then
      match runs with
      | some text => r.complete text
      | none => r.moveTo .table
    else if Markup.localName name = "rPh".toList then r.moveTo (.element e runs false)
    else r
  | .text e runs n value =>
    if name = n then
      match runs with
      | some text => r.moveTo (.element e (some (text ++ value)) false)
      | none => r.moveTo (.rest e value 0)
    else r
  | .rest e value nested =>
    if name = e then if nested = 0 then r.complete value else r.moveTo (.rest e value (nested - 1))
    else r

/-- The texts that the parts of the table give; none if it is not well formed. -/
def run (r : Reading) : List Markup.Event → Option (List String)
  | [] => none
  | .opened name :: es => run { r.opened name with depth := r.depth + 1 } es
  | .closed name :: es =>
    if r.depth = 0 then none
    else if r.place = .table ∧ Markup.localName name = "sst".toList then some r.texts.reverse
    else run { r.closed name with depth := r.depth - 1 } es
  | .text cs :: es =>
    match r.place with
    | .text e runs name value =>
      (Markup.unescape? cs).bind fun cs => run (r.moveTo (.text e runs name (value ++ cs))) es
    | _ => run r es
  | .other :: es => run r es
  | .broken :: _ => none

end Reading

/-- The texts of a marked-up table. -/
def read? (cs : List Char) : Option (List String) :=
  Reading.run ⟨.table, [], 0⟩ (Markup.events cs)

/-! ## Reading back -/

/-- The texts, each once. -/
def distinct (texts : List String) : List String :=
  texts.foldr (fun t ts => t :: ts.filter (· ≠ t)) []

/-- What each of the texts is read as: the text with its codes, unless some of them look like runs
of text. -/
def readBack? (texts : List String) : Option (String → Option String) :=
  if texts.any isRuns then
    let texts := distinct texts
    (read? (write texts)).map fun read t => (texts.zip read).lookup t
  else some fun t => some (String.ofList (StoredText.ofText t.toList))

end Reshape.TextTable
