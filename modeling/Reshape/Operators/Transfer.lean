import Reshape.Operators.Parameter
import Reshape.Records

/-!
# Loading and saving collections

* `Transfer.load`: replaces a collection by the records of a file.
* `Transfer.save`: writes a collection to a workbook and as JSON beside it.
-/

namespace Reshape.Transfer

/-- The error of a file as the cause of a failure. -/
def ofTable : Except TableError α → Except Cause α
  | .ok a => .ok a
  | .error e => .error (.table e)

/-- The parameters of `load`. -/
def loadStruct : Shape.Struct :=
  ⟨"LoadParams", [⟨"path", .optionalText, false⟩, ⟨"sheetName", .optionalText, true⟩,
    ⟨"rangeFrom", .optionalText, true⟩, ⟨"rangeTo", .optionalText, true⟩]⟩

/-- The parameters of `save`. -/
def saveStruct : Shape.Struct :=
  ⟨"SaveParams", [⟨"path", .optionalText, false⟩, ⟨"sheetName", .optionalText, true⟩]⟩

/-- The entry that says how many records were read. -/
def readEntry (count : Nat) (path : String) : LogEntry :=
  ⟨.info, "Read " ++ Number.intText count ++ " records from " ++ path, 1⟩

/-- The entry that says how many records were written. -/
def writtenEntry (count : Nat) (path : String) : LogEntry :=
  ⟨.info, "Wrote " ++ Number.intText count ++ " records to " ++ path ++ " and " ++
    Records.mirror path, 1⟩

/-- The records of the file that the parameters name, and the entry that they were read. -/
def records (base : Option String) (files : Files) (job : String) (raw : Value) :
    Except Cause (Collection × LogEntry) := do
  let params ← Operator.load.readWith (Shape.readRecord loadStruct) raw
  let path := Path.joinTo base (← params.required "path")
  let records ← ofTable (Records.read files path
    ⟨(params.text? "sheetName").getD job, params.text? "rangeFrom", params.text? "rangeTo"⟩)
  return (records, readEntry records.length path)

/-- The operator `load`. -/
def load (base : Option String) (job : String) (raw : Value) : Attempt Cause Unit := do
  let (c, entry) ← Attempt.ask (records base ·.files job raw)
  Attempt.note [entry]
  Attempt.put job c

/-- What the operator `save` is to write: the path, the sheet and the records. -/
def saveTarget (base : Option String) (s : Store) (job : String) (raw : Value) :
    Except Cause (String × String × Collection) := do
  let params ← Operator.save.readWith (Shape.readRecord saveStruct) raw
  let path := Path.joinTo base (← params.required "path")
  let c ← s.find job
  return (path, (params.text? "sheetName").getD job, c)

/-- Writes records to files, which change also if only a part could be written. -/
def write (path sheet : String) (c : Collection) : Attempt Cause Unit := fun s =>
  let (files, written) := Records.write s.files path sheet c
  (ofTable written, { s with files })

/-- The operator `save`. -/
def save (base : Option String) (job : String) (raw : Value) : Attempt Cause Unit := do
  let (path, sheet, c) ← Attempt.ask (saveTarget base ·.store job raw)
  write path sheet c
  Attempt.note [writtenEntry c.length path]

end Reshape.Transfer
