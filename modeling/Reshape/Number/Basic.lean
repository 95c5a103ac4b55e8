import Reshape.Number.Decimal

/-!
# Numbers

A number is a whole number of up to 64 bits, kept exactly, or a finite binary64 number. The two are
spelled differently (`1` and `1.0`) and compared by value.

* `Number`: the two kinds.
* `Number.toBinary64`: the nearest binary64 number.
* `Number.eqv`: equality by value; two whole numbers below `2 ^ 63` are compared exactly and
  everything else through `toBinary64`.
* `Number.same`: equality of numbers of one kind.
* `Number.ofBinary64`: a whole number if the given one is whole and below `2 ^ 53`.
* `Number.text`: the number as it is written.
-/

namespace Reshape

/-- The whole numbers that are kept exactly: 64 bits with or without a sign, from `-2 ^ 63` to
before `2 ^ 64`. -/
def IsWord (n : Int) : Prop := -9223372036854775808 ≤ n ∧ n < 18446744073709551616

instance (n : Int) : Decidable (IsWord n) := inferInstanceAs (Decidable (_ ∧ _))

inductive Number
  /-- A whole number of 64 bits. -/
  | int (n : Int) (isWord : IsWord n)
  /-- A finite binary64 number. -/
  | float (x : Binary64)
  deriving DecidableEq

namespace Number

theorem natAbs_le_of_isWord {n : Int} (h : IsWord n) : n.natAbs ≤ 18446744073709551616 := by
  unfold IsWord at h
  omega

/-- The whole number, if it has at most 64 bits. -/
def ofInt? (n : Int) : Option Number := if h : IsWord n then some (.int n h) else none

/-- The binary64 number nearest to the number. -/
def toBinary64 : Number → Binary64
  | .int n h =>
    ⟨decide (n < 0), roundUnits (n.natAbs * one64) 1,
      Binary64.representable_roundUnits (Binary64.roundUnits_lt_limit64 (natAbs_le_of_isWord h))⟩
  | .float x => x

/-- The whole number, if it is one below `2 ^ 63`. -/
def signedWord? : Number → Option Int
  | .int n _ => if n < 9223372036854775808 then some n else none
  | .float _ => none

/-- Equality by value. -/
def eqv (a b : Number) : Bool :=
  match a.signedWord?, b.signedWord? with
  | some m, some n => m == n
  | _, _ => a.toBinary64.eqv b.toBinary64

/-- Equality of numbers of one kind; a whole number is never the same as a binary64 number. -/
def same : Number → Number → Bool
  | .int m _, .int n _ => m == n
  | .float x, .float y => x.eqv y
  | _, _ => false

theorem isWord_truncate {x : Binary64} (h : x.isSmallWhole = true) : IsWord x.truncate := by
  have hu : x.units / one64 < Nat.pow 2 53 := by
    simp only [Binary64.isSmallWhole, Bool.and_eq_true, decide_eq_true_eq] at h
    exact (Nat.div_lt_iff_lt_mul Binary64.one64_pos).2 h.2
  generalize hq : x.units / one64 = q at hu
  have hq' : q < 9007199254740992 := hu
  show -9223372036854775808 ≤ x.truncate ∧ x.truncate < 18446744073709551616
  unfold Binary64.truncate
  rw [hq]
  split <;> omega

/-- A whole number where the given one is whole and below `2 ^ 53`. -/
def ofBinary64 (x : Binary64) : Number :=
  if h : x.isSmallWhole = true then .int x.truncate (isWord_truncate h) else .float x

/-- Whether the value is zero. -/
def isZero (n : Number) : Bool := n.toBinary64.units == 0

/-- The decimal digits of a whole number. -/
def intText (n : Int) : String :=
  String.ofList ((if n < 0 then ['-'] else []) ++ Nat.toDigits 10 n.natAbs)

/-- The number as it is written. -/
def text : Number → String
  | .int n _ => intText n
  | .float x => x.text

end Number

end Reshape
