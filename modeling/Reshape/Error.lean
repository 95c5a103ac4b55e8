import Reshape.Expression.SyntaxError
import Reshape.Operator
import Reshape.Number.Basic

/-!
# Errors

* `TableError`: why records could not be read from or written to a file.
* `Cause`: why an operator failed.
* `RunError`: the cause, with the collection and the operator that failed.
-/

namespace Reshape

inductive TableError
  /-- A file could not be read or written. -/
  | io
  /-- A file is no JSON text. -/
  | json
  /-- A file is no workbook. -/
  | workbook
  /-- A workbook could not be written. -/
  | workbookWrite
  | encoding (label : String)
  | sheetNotFound (path sheet : String)
  | invalidCellAddress (text : String)
  | notRecordArray (path : String)
  | tooManyColumns (n : Nat)
  deriving DecidableEq, Repr

/-- The text of the error; where it goes on with the words of the system, it stops before them. -/
def TableError.message : TableError → String
  | .io => "I/O error:"
  | .json => "JSON error:"
  | .workbook => "Workbook error:"
  | .workbookWrite => "Workbook write error:"
  | .encoding label => "Encoding error: unsupported encoding '" ++ label ++ "'"
  | .sheetNotFound path sheet => "Sheet '" ++ sheet ++ "' not found in " ++ path
  | .invalidCellAddress text => "Invalid cell address: '" ++ text ++ "'"
  | .notRecordArray path => path ++ " does not contain a JSON array"
  | .tooManyColumns n => "Too many columns for a sheet: " ++ Number.intText n

inductive Cause
  | missingCollection (name : String)
  | missingParameter (field : String)
  | invalidParameter (param expected : String)
  | conflictingParameters (params : String)
  | invalidExpression (e : SyntaxError)
  | unknownMapper (name : String)
  | table (e : TableError)
  deriving DecidableEq, Repr

structure RunError where
  /-- The collection of the job. -/
  collection : String
  operator : Operator
  cause : Cause
  deriving DecidableEq, Repr

def RunError.message (e : RunError) : String :=
  let place := e.collection ++ "." ++ e.operator.name ++ ": "
  match e.cause with
  | .missingCollection name => "Collection '" ++ name ++ "' is missing"
  | .missingParameter field => place ++ "required parameter '" ++ field ++ "' is missing"
  | .invalidParameter param expected =>
    place ++ "parameter '" ++ param ++ "' is not " ++ expected
  | .conflictingParameters params => place ++ params ++ " cannot be given together"
  | .invalidExpression e => place ++ "invalid expression " ++ e.message
  | .unknownMapper name => place ++ "no mapper registered as '" ++ name ++ "'"
  | .table e => e.message

end Reshape
