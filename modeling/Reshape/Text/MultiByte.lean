import Reshape.Text.Index.Big5
import Reshape.Text.Index.Gb18030
import Reshape.Text.Index.Jis0208
import Reshape.Text.Index.Jis0212
import Reshape.Text.Index.Korean
import Reshape.Text.Utf

/-!
# Character sets of several bytes a character

Bytes below `0x80` stand for themselves, and the others begin a character of one to four bytes. What
spells none is read as one replacement character, and a byte below `0x80` at its end is read again.

* `MultiByte`: the sets.
* `MultiByte.read`: the characters that begin with a byte, and how many more bytes they take.
* `MultiByte.decode`: the text of bytes.
-/

namespace Reshape.Text

inductive MultiByte
  | gb18030
  | big5
  | eucJp
  | shiftJis
  | eucKr
  deriving DecidableEq, Repr

namespace MultiByte

/-- Whether a byte is one of those between two others. -/
def between (low high b : Nat) : Bool := low ≤ b && b ≤ high

/-- The character of half width that a byte stands for in Japanese text. -/
def halfWidth (b : Nat) : Char := Char.ofNat (0xff61 + (b - 0xa1))

/-- The end of a character that has no more bytes or a wrong one next. -/
def broken : List Nat → List Char × Nat
  | [] => ([replacement], 0)
  | b :: _ => ([replacement], if b < 0x80 then 0 else 1)

/-- A character of two bytes, of which the second is the next one. -/
def pair (spelled? : Nat → Option (List Char)) (bs : List Nat) : List Char × Nat :=
  match bs.head?.bind spelled? with
  | some cs => (cs, 1)
  | none => broken bs

/-- The place of the second byte in a row without the byte `0x7f`. -/
def column (b : Nat) : Nat := if b < 0x7f then b - 0x40 else b - 0x41

/-- Two bytes of the Chinese national standard. -/
def gb18030Pair? (lead b : Nat) : Option (List Char) :=
  if between 0x40 0x7e b || between 0x80 0xfe b then
    (Index.gb18030Pair? ((lead - 0x81) * 190 + column b)).map ([·])
  else none

/-- Two or four bytes of the Chinese national standard. -/
def readGb18030 (lead : Nat) : List Nat → List Char × Nat
  | [] => ([replacement], 0)
  | second :: bs =>
    if !between 0x30 0x39 second then pair (gb18030Pair? lead) (second :: bs)
    else
      match bs with
      | [] => ([replacement], 1)
      | third :: bs =>
        if !between 0x81 0xfe third then ([replacement], 0)
        else
          match bs with
          | [] => ([replacement], 2)
          | fourth :: _ =>
            if !between 0x30 0x39 fourth then ([replacement], 0)
            else
              let place := (((lead - 0x81) * 10 + (second - 0x30)) * 126 + (third - 0x81)) * 10
                + (fourth - 0x30)
              ([(Index.gb18030Quadruple? place).getD replacement], 3)

/-- Two bytes of Big5. -/
def big5? (lead b : Nat) : Option (List Char) :=
  if between 0x40 0x7e b then Index.big5? ((lead - 0x81) * 157 + (b - 0x40))
  else if between 0xa1 0xfe b then Index.big5? ((lead - 0x81) * 157 + (b - 0x62))
  else none

/-- Two bytes of the Japanese standards, which both have their highest bit. -/
def eucPair? (index? : Nat → Option Char) (lead b : Nat) : Option (List Char) :=
  if between 0xa1 0xfe lead && between 0xa1 0xfe b then
    (index? ((lead - 0xa1) * 94 + (b - 0xa1))).map ([·])
  else none

/-- One to three bytes of Japanese text in which each byte has its highest bit. -/
def readEucJp (lead : Nat) (bs : List Nat) : List Char × Nat :=
  match bs with
  | [] => ([replacement], 0)
  | b :: later =>
    if lead = 0x8e ∧ between 0xa1 0xdf b then ([halfWidth b], 1)
    else if lead = 0x8f ∧ between 0xa1 0xfe b then
      let (cs, n) := pair (eucPair? Index.jis0212? b) later
      (cs, n + 1)
    else pair (eucPair? Index.jis0208? lead) bs

/-- Two bytes of Japanese text with shifted rows. Some of them are for private use. -/
def shiftJis? (lead b : Nat) : Option (List Char) :=
  if between 0x40 0x7e b || between 0x80 0xfc b then
    let place := (lead - if lead < 0xa0 then 0x81 else 0xc1) * 188 + column b
    if 8836 ≤ place ∧ place ≤ 10715 then some [Char.ofNat (0xe000 + (place - 8836))]
    else (Index.jis0208? place).map ([·])
  else none

/-- Two bytes of Korean text. -/
def eucKr? (lead b : Nat) : Option (List Char) :=
  if between 0x41 0xfe b then (Index.korean? ((lead - 0x81) * 190 + (b - 0x41))).map ([·])
  else none

/-- The characters that begin with a byte from `0x80` on, and how many of the bytes after it they
take. -/
def read (lead : Nat) (bs : List Nat) : MultiByte → List Char × Nat
  | .gb18030 =>
    if lead = 0x80 then (['\u20ac'], 0)
    else if lead = 0xff then ([replacement], 0)
    else readGb18030 lead bs
  | .big5 => if between 0x81 0xfe lead then pair (big5? lead) bs else ([replacement], 0)
  | .eucJp =>
    if lead = 0x8e ∨ lead = 0x8f ∨ between 0xa1 0xfe lead then readEucJp lead bs
    else ([replacement], 0)
  | .shiftJis =>
    if lead = 0x80 then (['\u0080'], 0)
    else if between 0xa1 0xdf lead then ([halfWidth lead], 0)
    else if between 0x81 0x9f lead || between 0xe0 0xfc lead then pair (shiftJis? lead) bs
    else ([replacement], 0)
  | .eucKr => if between 0x81 0xfe lead then pair (eucKr? lead) bs else ([replacement], 0)

/-- The text that the bytes spell. -/
def decode (set : MultiByte) : List Nat → List Char
  | [] => []
  | b :: bs =>
    if b < 0x80 then Char.ofNat b :: decode set bs
    else (set.read b bs).1 ++ decode set (bs.drop (set.read b bs).2)
  termination_by bs => bs.length
  decreasing_by all_goals simp [List.length_drop]; try omega

end MultiByte

end Reshape.Text
