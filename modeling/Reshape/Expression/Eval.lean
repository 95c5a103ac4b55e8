import Reshape.Expression.Syntax
import Reshape.Value.Equality
import Reshape.Json.Writer

/-!
# What programs do

* `Expr.eval`: the value of an expression on a record; a missing field is null.
* `Value.compare?`: the order of numbers by value and of strings by code point; nothing else is
  ordered.
* `Program.apply`: the record after all statements.
-/

namespace Reshape

namespace Value

/-- The binary64 value of a number. -/
def toBinary64? : Value → Option Binary64
  | .number n => some n.toBinary64
  | _ => none

/-- The order of two numbers or two strings. -/
def compare? : Value → Value → Option Ordering
  | .number a, .number b => some (compare a.toBinary64.toInt b.toBinary64.toInt)
  | .string a, .string b => some (if a < b then .lt else if a = b then .eq else .gt)
  | _, _ => none

/-- The sum of two numbers, or the texts of the values joined. -/
def add (a b : Value) : Value :=
  match a.toBinary64?, b.toBinary64? with
  | some x, some y => ofBinary64? (x.add? y)
  | _, _ => .string (a.display ++ b.display)

/-- The difference of two numbers; null for other values. -/
def sub (a b : Value) : Value :=
  match a.toBinary64?, b.toBinary64? with
  | some x, some y => ofBinary64? (x.sub? y)
  | _, _ => .null

/-- A number with its sign turned; null for other values. -/
def neg (a : Value) : Value :=
  match a.toBinary64? with
  | some x => ofBinary64? (some x.neg)
  | none => .null

end Value

/-- Whether the comparison holds. -/
def Comparison.holds (c : Comparison) (a b : Value) : Bool :=
  match c with
  | .eq => a.strictEq b
  | .ne => !a.strictEq b
  | .lt => a.compare? b == some .lt
  | .le => a.compare? b == some .lt || a.compare? b == some .eq
  | .gt => a.compare? b == some .gt
  | .ge => a.compare? b == some .gt || a.compare? b == some .eq

/-- The value of the operation on its operands' values. -/
def BinaryOp.eval (op : BinaryOp) (a b : Value) : Value :=
  match op with
  | .or => .bool (a.truthy || b.truthy)
  | .and => .bool (a.truthy && b.truthy)
  | .compare c => .bool (c.holds a b)
  | .add => a.add b
  | .sub => a.sub b

/-- The value of the expression on the record. -/
def Expr.eval (r : Record) : Expr → Value
  | .literal v => v
  | .field name => (r.get? name).getD .null
  | .not e => .bool !(e.eval r).truthy
  | .neg e => (e.eval r).neg
  | .binary op a b => op.eval (a.eval r) (b.eval r)

/-- The record after the action. -/
def Action.apply (r : Record) : Action → Record
  | .assign name e => r.insert name (e.eval r)
  | .delete name => r.erase name

/-- The record after the statement. -/
def Statement.apply (r : Record) : Statement → Record
  | .action a => a.apply r
  | .branch condition yes no =>
    (if (condition.eval r).truthy then yes else no).foldl Action.apply r

/-- The record after all statements. -/
def Program.apply (p : Program) (r : Record) : Record := p.foldl Statement.apply r

end Reshape
