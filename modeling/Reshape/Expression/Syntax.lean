import Reshape.Value.Basic

/-!
# The expression language

A program is a list of statements that assign and delete fields of one record.

* `Expr`: literals, fields, negations and binary operations.
* `Action`: an assignment or a deletion.
* `Statement`: an action, or actions under a condition.
-/

namespace Reshape

inductive Comparison
  | eq | ne | lt | le | gt | ge
  deriving DecidableEq, Repr

inductive BinaryOp
  | or | and | compare (c : Comparison) | add | sub
  deriving DecidableEq, Repr

inductive Expr
  | literal (v : Value)
  | field (name : String)
  | not (e : Expr)
  | neg (e : Expr)
  | binary (op : BinaryOp) (l r : Expr)
  deriving DecidableEq, Inhabited

inductive Action
  | assign (field : String) (e : Expr)
  | delete (field : String)
  deriving DecidableEq

inductive Statement
  | action (a : Action)
  /-- The first actions if the condition is true, the others if it is not. -/
  | branch (condition : Expr) (yes no : List Action)
  deriving DecidableEq

/-- Statements to be performed in order. -/
abbrev Program := List Statement

end Reshape
