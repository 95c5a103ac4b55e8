import Reshape.Error
import Reshape.Text.Blank

/-!
# Positions of cells

* `Position`: a row and a column, both counted from zero.
* `Position.columnNumber`: letters read as a number without a zero, from `A` for one to `Z` for
  twenty-six.
* `Position.ofText?`: the position of an address such as `D4` or `$AA$10`.
-/

namespace Reshape

structure Position where
  row : Nat
  column : Nat
  deriving DecidableEq, Repr

namespace Position

/-- Whether the character is one of the letters of column names. -/
def isLetter (c : Char) : Bool := ('a' ≤ c && c ≤ 'z') || ('A' ≤ c && c ≤ 'Z')

/-- The place of a letter in the alphabet, from one. -/
def letterValue (c : Char) : Nat := if 'a' ≤ c then c.toNat - 96 else c.toNat - 64

/-- Letters read as a number without a zero. -/
def columnNumber (letters : List Char) : Nat :=
  letters.foldl (fun n c => n * 26 + letterValue c) 0

/-- The text after a dollar sign, if there is one. -/
def skipDollar : List Char → List Char
  | '$' :: cs => cs
  | cs => cs

/-- The position of an address without blanks: one to three letters and one to seven digits, with an
optional dollar sign before each. -/
def ofChars? (cs : List Char) : Option Position :=
  let cs := skipDollar cs
  let letters := cs.takeWhile isLetter
  let digits := skipDollar (cs.dropWhile isLetter)
  if 1 ≤ letters.length ∧ letters.length ≤ 3 ∧ 1 ≤ digits.length ∧ digits.length ≤ 7 ∧
      digits.all isDigit ∧ digitsValue digits ≠ 0 then
    some ⟨digitsValue digits - 1, columnNumber letters - 1⟩
  else none

/-- The position of an address, blanks around it aside. -/
def ofText? (text : String) : Option Position := ofChars? (Text.trim text.toList)

/-- The position of an address, which has to be one. -/
def parse (text : String) : Except TableError Position :=
  match ofText? text with
  | some p => .ok p
  | none => .error (.invalidCellAddress text)

end Position

end Reshape
