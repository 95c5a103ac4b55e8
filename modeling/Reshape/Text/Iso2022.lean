import Reshape.Text.MultiByte

/-!
# Japanese text in seven bits

Escapes of three bytes change what the bytes after them stand for.

* `Iso2022.Mode`: what bytes stand for.
* `Iso2022.decode`: the text of bytes.
-/

namespace Reshape.Text.Iso2022

inductive Mode
  | ascii
  /-- As in ASCII, with the signs for yen and overline. -/
  | roman
  | katakana
  /-- Two bytes a character. -/
  | pairs
  deriving DecidableEq, Repr

/-- The mode that the two bytes after an escape byte ask for. -/
def Mode.ofEscape? : List Nat → Option Mode
  | 0x28 :: 0x42 :: _ => some .ascii
  | 0x28 :: 0x4a :: _ => some .roman
  | 0x28 :: 0x49 :: _ => some .katakana
  | 0x24 :: 0x40 :: _ => some .pairs
  | 0x24 :: 0x42 :: _ => some .pairs
  | _ => none

/-- The character of a byte that stands alone. -/
def single (mode : Mode) (b : Nat) : Char :=
  match mode with
  | .katakana =>
    if MultiByte.between 0x21 0x5f b then Char.ofNat (0xff61 + (b - 0x21)) else replacement
  | .roman =>
    if b = 0x5c then '\u00a5'
    else if b = 0x7e then '\u203e'
    else if b < 0x80 ∧ b ≠ 0x0e ∧ b ≠ 0x0f then Char.ofNat b
    else replacement
  | _ => if b < 0x80 ∧ b ≠ 0x0e ∧ b ≠ 0x0f then Char.ofNat b else replacement

/-- The text of bytes in a mode. An escape right after another one, without a character between
them, is malformed, which `escaped` watches for. -/
def decodeIn (mode : Mode) (escaped : Bool) : List Nat → List Char
  | [] => []
  | 0x1b :: bs =>
    match Mode.ofEscape? bs with
    | some mode =>
      (if escaped then [replacement] else []) ++ decodeIn mode true (bs.drop 2)
    | none => replacement :: decodeIn mode false bs
  | b :: bs =>
    if mode = .pairs then
      if MultiByte.between 0x21 0x7e b then
        match bs with
        | [] => [replacement]
        | 0x1b :: later => replacement :: decodeIn mode false (0x1b :: later)
        | second :: later =>
          (if MultiByte.between 0x21 0x7e second then
            (Index.jis0208? ((b - 0x21) * 94 + (second - 0x21))).getD replacement
          else replacement) :: decodeIn mode false later
      else replacement :: decodeIn mode false bs
    else single mode b :: decodeIn mode false bs
  termination_by bs => bs.length
  decreasing_by all_goals simp [List.length_drop]; try omega

/-- The text that the bytes spell. -/
def decode (bs : List Nat) : List Char := decodeIn .ascii false bs

end Reshape.Text.Iso2022
