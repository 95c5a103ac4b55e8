import Reshape.Number.Basic

/-!
# Number and string literals

* `Json.Numeral`: the parts of a number literal, and `Json.scanNumeral`, which reads one.
* `Json.Numeral.number?`: its value; whole numbers of 64 bits are exact, and every other literal is
  the binary64 number that `Decimal.scaled?` gives for the digits that fit a 64-bit word.
* `Json.scanString`: the characters up to the closing quote.
-/

namespace Reshape.Json

/-! ## Numbers -/

/-- The parts of a number literal. -/
structure Numeral where
  negative : Bool
  whole : List Char
  fraction : Option (List Char)
  exponent : Option Int
  deriving DecidableEq, Repr

/-- Reads a number literal: a zero does not start a longer whole part, and a point and an exponent
have digits after them. -/
def scanNumeral (cs : List Char) : Option (Numeral × List Char) := do
  let (negative, cs) := match cs with
    | '-' :: r => (true, r)
    | r => (false, r)
  let (whole, cs) := spanDigits cs
  if whole.isEmpty ∨ (whole.head? = some '0' ∧ whole.length ≠ 1) then none
  let (fraction, cs) ← match cs with
    | '.' :: r =>
      let (ds, r) := spanDigits r
      if ds.isEmpty then none else some (some ds, r)
    | r => some (none, r)
  let (exponent, cs) ← match cs with
    | 'e' :: r | 'E' :: r => (Decimal.scanExponent r).map fun (e, r) => (some e, r)
    | r => some (none, r)
  return (⟨negative, whole, fraction, exponent⟩, cs)

/-- Adds digits to a number for as long as it fits a 64-bit word; the digits left over. -/
def fillWord (n : Nat) : List Char → Nat × List Char
  | [] => (n, [])
  | d :: ds =>
    let next := 10 * n + digitValue d
    if next < 18446744073709551616 then fillWord next ds else (n, d :: ds)

namespace Numeral

/-- The numeral made of the digits that fit a 64-bit word. -/
def toDecimal (l : Numeral) : Decimal :=
  let (n, dropped) := fillWord 0 l.whole
  let fraction := l.fraction.getD []
  let (n, unread) := fillWord n fraction
  ⟨l.negative, n, (dropped.length : Int) - (fraction.length - unread.length : Nat) +
    l.exponent.getD 0⟩

/-- The value of the literal, unless it is beyond the range. -/
def number? (l : Numeral) : Option Number :=
  let n : Int := digitsValue l.whole
  let signed := if l.negative then -n else n
  if l.fraction.isNone ∧ l.exponent.isNone ∧ (l.negative → 0 < n) ∧ IsWord signed then
    Number.ofInt? signed
  else l.toDecimal.scaled?.map .float

end Numeral

/-! ## Strings -/

/-- A part of a quoted string. -/
inductive Piece
  | char (c : Char)
  /-- Sixteen bits given by four hexadecimal digits. -/
  | unit (n : Nat)

def hexValue (c : Char) : Option Nat :=
  if '0' ≤ c ∧ c ≤ '9' then some (c.toNat - 48)
  else if 'a' ≤ c ∧ c ≤ 'f' then some (c.toNat - 87)
  else if 'A' ≤ c ∧ c ≤ 'F' then some (c.toNat - 55)
  else none

def hexUnit (a b c d : Char) : Option Nat := do
  return (← hexValue a) * 4096 + (← hexValue b) * 256 + (← hexValue c) * 16 + (← hexValue d)

/-- The character that a backslash and a letter stand for. -/
def unescape (c : Char) : Option Char :=
  match c with
  | '"' | '\\' | '/' => some c
  | 'b' => some '\x08'
  | 'f' => some '\x0c'
  | 'n' => some '\n'
  | 'r' => some '\r'
  | 't' => some '\t'
  | _ => none

/-- The parts of a string up to its closing quote, and the text after that. Control characters and
unknown escapes break the string off. -/
def scanPieces : List Char → Option (List Piece × List Char)
  | [] => none
  | '"' :: rest => some ([], rest)
  | '\\' :: 'u' :: a :: b :: c :: d :: rest =>
    match hexUnit a b c d, scanPieces rest with
    | some n, some (ps, rest) => some (.unit n :: ps, rest)
    | _, _ => none
  | '\\' :: e :: rest =>
    match unescape e, scanPieces rest with
    | some c, some (ps, rest) => some (.char c :: ps, rest)
    | _, _ => none
  | c :: rest =>
    if c = '\\' ∨ c.toNat < 0x20 then none
    else match scanPieces rest with
      | some (ps, rest) => some (.char c :: ps, rest)
      | none => none

/-- The characters of the parts; a unit of a surrogate pair needs its other half beside it. -/
def joinPieces : List Piece → Option (List Char)
  | [] => some []
  | .char c :: ps => (joinPieces ps).map (c :: ·)
  | .unit n :: ps =>
    if n < 0xD800 ∨ 0xDFFF < n then (joinPieces ps).map (Char.ofNat n :: ·)
    else match ps with
      | .unit m :: ps =>
        if n < 0xDC00 ∧ 0xDC00 ≤ m ∧ m ≤ 0xDFFF then
          (joinPieces ps).map (Char.ofNat (0x10000 + (n - 0xD800) * 1024 + (m - 0xDC00)) :: ·)
        else none
      | _ => none

/-- The string up to its closing quote, if that has a value, and the text after the quote. -/
def scanString (cs : List Char) : Option (Option String × List Char) :=
  (scanPieces cs).map fun (ps, rest) => ((joinPieces ps).map String.ofList, rest)

end Reshape.Json
