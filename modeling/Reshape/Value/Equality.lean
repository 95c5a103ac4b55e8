import Reshape.Value.Basic

/-!
# Equality of values

* `Value.same`: equality kind by kind; whole numbers and binary64 numbers are never the same, and
  the order of an object's fields does not matter.
* `Value.strictEq`: numbers are compared by value, also inside arrays; objects are compared by
  `same`.
* `Value.fieldEq`: `strictEq` where a side may be absent.
* `Value.elem`: membership in a list by `strictEq`.
-/

namespace Reshape.Value

mutual

/-- Equality kind by kind. -/
def same : Value → Value → Bool
  | .null, .null => true
  | .bool a, .bool b => a == b
  | .number a, .number b => a.same b
  | .string a, .string b => a == b
  | .array a, .array b => sameItems a b
  | .object a, .object b => a.length == b.length && sameFields a b
  | _, _ => false

def sameItems : List Value → List Value → Bool
  | [], [] => true
  | x :: a, y :: b => same x y && sameItems a b
  | _, _ => false

/-- Whether each of the fields is in the record `b`, with the same value. -/
def sameFields : List (String × Value) → Record → Bool
  | [], _ => true
  | (k, x) :: a, b =>
    (match b.get? k with
      | some y => same x y
      | none => false) && sameFields a b

end

mutual

/-- Equality with numbers compared by value, at the top and inside arrays. -/
def strictEq : Value → Value → Bool
  | .number a, .number b => a.eqv b
  | .array a, .array b => strictEqItems a b
  | a, b => same a b

def strictEqItems : List Value → List Value → Bool
  | [], [] => true
  | x :: a, y :: b => strictEq x y && strictEqItems a b
  | _, _ => false

end

/-- Two absent fields are equal; an absent one never equals a present one. -/
def fieldEq : Option Value → Option Value → Bool
  | none, none => true
  | some a, some b => strictEq a b
  | _, _ => false

/-- Whether the list has an element equal to the value; an absent value is in no list. -/
def elem (list : List Value) : Option Value → Bool
  | none => false
  | some v => list.any (strictEq · v)

end Reshape.Value
