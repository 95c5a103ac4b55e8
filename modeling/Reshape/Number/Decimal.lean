import Reshape.Number.Binary64

/-!
# Decimal numerals and their binary64 values

* `Decimal`: a sign, a whole number and a power of ten to multiply it by.
* `Decimal.ofChars?`: the numeral that a text spells.
* `Decimal.nearest?`: the binary64 number nearest to a numeral.
* `Decimal.scaled?`: a numeral read by scaling its rounded digits, which rounds more than once.
* `Binary64.shortest`: the numeral with the fewest digits of which a number is the nearest; among
  those the closest one, of two equally close ones the even one.
* `Decimal.text`: positional or scientific notation.
-/

namespace Reshape

/-! ## Digits -/

def isDigit (c : Char) : Bool := '0' ≤ c && c ≤ '9'

def digitValue (c : Char) : Nat := c.toNat - 48

/-- The whole number that a list of digits stands for. -/
def digitsValue (ds : List Char) : Nat := ds.foldl (fun n d => 10 * n + digitValue d) 0

/-- The digits at the start of the text, and the rest. -/
def spanDigits (cs : List Char) : List Char × List Char := cs.span isDigit

/-- The number of decimal digits of `n`; zero has none. -/
def digitCount (n : Nat) : Nat := if n = 0 then 0 else (Nat.toDigits 10 n).length

/-- The numeral `± digits * 10 ^ exponent`. -/
structure Decimal where
  negative : Bool
  digits : Nat
  exponent : Int
  deriving DecidableEq, Repr

namespace Decimal

/-! ## Reading -/

/-- Reads an exponent after its `e`. -/
def scanExponent (cs : List Char) : Option (Int × List Char) :=
  let (negative, cs) := match cs with
    | '+' :: r => (false, r)
    | '-' :: r => (true, r)
    | r => (false, r)
  let (ds, rest) := spanDigits cs
  if ds.isEmpty then none
  else
    let n : Int := digitsValue ds
    some (if negative then -n else n, rest)

/-- The numeral that a text spells: digits with at most one point among them or at an end, after an
optional sign and before an optional exponent. -/
def ofChars? (cs : List Char) : Option Decimal :=
  let (negative, cs) := match cs with
    | '-' :: r => (true, r)
    | '+' :: r => (false, r)
    | r => (false, r)
  let (whole, cs) := spanDigits cs
  let (fraction, cs) := match cs with
    | '.' :: r => spanDigits r
    | r => ([], r)
  if whole.isEmpty && fraction.isEmpty then none
  else
    let d (e : Int) : Decimal := ⟨negative, digitsValue (whole ++ fraction), e - fraction.length⟩
    match cs with
    | [] => some (d 0)
    | c :: r =>
      if c = 'e' ∨ c = 'E' then
        match scanExponent r with
        | some (e, []) => some (d e)
        | _ => none
      else none

/-! ## Values -/

/-- The binary64 number nearest to the numeral, unless it is beyond the range. Numerals of
`10 ^ 400` and more are beyond it; those below `10 ^ (-400)` are nearest to zero. -/
def nearest? (d : Decimal) : Option Binary64 :=
  let top := (digitCount d.digits : Int) + d.exponent
  if d.digits = 0 ∨ top < -400 then some ⟨d.negative, 0, Binary64.representable_zero⟩
  else if 400 < top then none
  else if 0 ≤ d.exponent then
    Binary64.ofRatio? d.negative (d.digits * Nat.pow 10 d.exponent.toNat * one64) 1
  else Binary64.ofRatio? d.negative (d.digits * one64) (Nat.pow 10 (-d.exponent).toNat)

/-- The number nearest to `10 ^ n`. -/
def tenTo (n : Nat) : Option Binary64 := Binary64.ofRatio? false (Nat.pow 10 n * one64) 1

/-- Divides `x` by `10 ^ n`, in steps of at most `10 ^ 308`. -/
def scaleDown (x : Binary64) (n : Nat) : Option Binary64 :=
  if n ≤ 308 then do x.div? (← tenTo n)
  else if x.units = 0 then some x
  else do
    let y ← x.div? (← tenTo 308)
    scaleDown y (n - 308)
termination_by n

/-- The numeral with its digits rounded before the power of ten is applied. -/
def scaled? (d : Decimal) : Option Binary64 := do
  let whole ← Binary64.ofRatio? d.negative (d.digits * one64) 1
  if d.exponent < 0 then scaleDown whole (-d.exponent).toNat
  else if d.exponent ≤ 308 then whole.mul? (← tenTo d.exponent.toNat)
  else if whole.units = 0 then some whole
  else none

/-! ## Text -/

/-- The power of ten of the first digit. -/
def leading (d : Decimal) : Int := (digitCount d.digits : Int) + d.exponent - 1

/-- The numeral without the zeros that end its digits, at most `fuel` of them. -/
def trim (d : Decimal) : Nat → Decimal
  | 0 => d
  | fuel + 1 =>
    if d.digits ≠ 0 ∧ d.digits % 10 = 0 then
      trim { d with digits := d.digits / 10, exponent := d.exponent + 1 } fuel
    else d

/-- Positional notation for leading powers from `10 ^ (-5)` to `10 ^ 15`, with at least one digit on
each side of the point; scientific notation with a signed exponent otherwise. -/
def text (d : Decimal) : String :=
  let ds := if d.digits = 0 then ['0'] else Nat.toDigits 10 d.digits
  let sign := if d.negative then "-" else ""
  let lead := if d.digits = 0 then 0 else d.leading
  sign ++ String.ofList (
    if -5 ≤ lead ∧ lead ≤ 15 then
      if lead < 0 then
        '0' :: '.' :: (List.replicate (-lead - 1).toNat '0' ++ ds)
      else
        let whole := lead.toNat + 1
        let fraction := ds.drop whole
        ds.take whole ++ List.replicate (whole - ds.length) '0' ++ '.' ::
          (if fraction.isEmpty then ['0'] else fraction)
    else
      ds.take 1 ++ (if ds.length ≤ 1 then [] else '.' :: ds.drop 1) ++
        'e' :: (if lead < 0 then '-' else '+') :: Nat.toDigits 10 lead.natAbs)

end Decimal

namespace Binary64

/-- Whether the number is the nearest one to the numeral. -/
def readsBack (x : Binary64) (d : Decimal) : Bool := d.nearest? == some x

/-- The power of ten of the first digit of a positive count of units. -/
def leadingPower (units : Nat) : Int :=
  (digitCount (units * Nat.pow 10 324 / one64) : Int) - 325

/-- The two numerals of the grid `10 ^ exponent` around the number, the closer one first. -/
def neighbours (x : Binary64) (exponent : Int) : Decimal × Decimal :=
  let num := if 0 ≤ exponent then x.units else x.units * Nat.pow 10 (-exponent).toNat
  let den := if 0 ≤ exponent then one64 * Nat.pow 10 exponent.toNat else one64
  let low := num / den
  let closest := roundDiv num den
  (⟨x.negative, closest, exponent⟩, ⟨x.negative, if closest = low then low + 1 else low, exponent⟩)

/-- Tries the grids with `count` digits, one more, and so on, `fuel` of them in all. The first digit
is that of the given power of ten. -/
def shortestFrom (x : Binary64) (lead : Int) (count : Nat) : Nat → Decimal
  | 0 => (x.neighbours (lead - 16)).1
  | fuel + 1 =>
    let (first, second) := x.neighbours (lead + 1 - count)
    if x.readsBack first then first
    else if x.readsBack second then second
    else shortestFrom x lead (count + 1) fuel

/-- The shortest numeral that reads back as the number. -/
def shortest (x : Binary64) : Decimal :=
  if x.units = 0 then ⟨x.negative, 0, 0⟩ else (shortestFrom x (leadingPower x.units) 1 17).trim 400

/-- The text of the shortest numeral. -/
def text (x : Binary64) : String := x.shortest.text

end Binary64

end Reshape
