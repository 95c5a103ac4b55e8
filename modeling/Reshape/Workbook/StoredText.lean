/-!
# Texts as cells hold them

Characters that markup cannot hold stand as codes of four digits between `_x` and a low line. What
looks like the start of such a code gets the code of a low line in front.

* `StoredText.ofText`: the characters of a cell for a text.
-/

namespace Reshape.StoredText

/-- Whether the character is a digit of base 16. -/
def isHexDigit (c : Char) : Bool :=
  ('0' ≤ c && c ≤ '9') || ('a' ≤ c && c ≤ 'f') || ('A' ≤ c && c ≤ 'F')

/-- The digit of base 16, in capitals. -/
def hexDigit (n : Nat) : Char :=
  Char.ofNat (if n % 16 < 10 then '0'.toNat + n % 16 else 'A'.toNat + (n % 16 - 10))

/-- The code of a character. -/
def code (c : Char) : List Char :=
  let n := c.toNat
  ['_', 'x', hexDigit (n / 4096), hexDigit (n / 256), hexDigit (n / 16), hexDigit n, '_']

/-- Whether the characters start like a code: with `_x`, four digits and one more character. -/
def startsLikeCode : List Char → Bool
  | '_' :: 'x' :: a :: b :: c :: d :: _ :: _ => [a, b, c, d].all isHexDigit
  | _ => false

/-- Whether the character stands as its code: a control character other than a tab and the end of a
line, or one of the last two of the first plane. -/
def needsCode (c : Char) : Bool :=
  (c.toNat < 0x20 && c ≠ '\t' && c ≠ '\n') || c = '\ufffe' || c = '\uffff'

/-- The characters of a cell for a text. -/
def ofText : List Char → List Char
  | [] => []
  | c :: cs =>
    (if startsLikeCode (c :: cs) then code '_' |>.dropLast else []) ++
      (if needsCode c then code c else [c]) ++ ofText cs

end Reshape.StoredText
