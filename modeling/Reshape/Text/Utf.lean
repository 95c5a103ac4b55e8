/-!
# Unicode encodings

Malformed input is read as replacement characters, one for each longest part that could have begun a
character.

* `bytes`: the bytes of a text in UTF-8.
* `skipMark`: a text without a byte order mark.
* `Utf8.decode`: text of one to four bytes a character.
* `Utf16.decode`: text of one or two units of two bytes a character.
-/

namespace Reshape.Text

/-- What malformed input is read as. -/
def replacement : Char := '\ufffd'

/-- The bytes of a text in UTF-8. -/
def bytes (s : String) : List UInt8 := s.toUTF8.data.toList

/-- The text without a byte order mark at its start. -/
def skipMark : List Char → List Char
  | '\ufeff' :: cs => cs
  | cs => cs

namespace Utf8

/-- The part of a character read so far. -/
structure Pending where
  /-- How many bytes are to come. -/
  missing : Nat
  /-- The bits read so far. -/
  bits : Nat
  /-- The least and the greatest byte that can come next. -/
  low : Nat
  high : Nat
  deriving DecidableEq, Repr

/-- The first byte of a character. -/
def begin (b : Nat) : List Char × Option Pending :=
  if b < 0x80 then ([Char.ofNat b], none)
  else if 0xc2 ≤ b ∧ b ≤ 0xdf then ([], some ⟨1, b - 0xc0, 0x80, 0xbf⟩)
  else if 0xe0 ≤ b ∧ b ≤ 0xef then
    ([], some ⟨2, b - 0xe0, if b = 0xe0 then 0xa0 else 0x80, if b = 0xed then 0x9f else 0xbf⟩)
  else if 0xf0 ≤ b ∧ b ≤ 0xf4 then
    ([], some ⟨3, b - 0xf0, if b = 0xf0 then 0x90 else 0x80, if b = 0xf4 then 0x8f else 0xbf⟩)
  else ([replacement], none)

/-- A byte after the part of a character read so far. -/
def step (pending : Option Pending) (b : Nat) : List Char × Option Pending :=
  match pending with
  | none => begin b
  | some p =>
    if p.low ≤ b ∧ b ≤ p.high then
      let bits := p.bits * 64 + (b - 0x80)
      if p.missing ≤ 1 then ([Char.ofNat bits], none)
      else ([], some ⟨p.missing - 1, bits, 0x80, 0xbf⟩)
    else
      let (cs, next) := begin b
      (replacement :: cs, next)

def decodeFrom (pending : Option Pending) : List UInt8 → List Char
  | [] => if pending.isSome then [replacement] else []
  | b :: bs =>
    let (cs, next) := step pending b.toNat
    cs ++ decodeFrom next bs

/-- The text that the bytes spell. -/
def decode (bs : List UInt8) : List Char := decodeFrom none bs

end Utf8

namespace Utf16

/-- A unit after the first half of a pair, if there is one. -/
def step (lead : Option Nat) (u : Nat) : List Char × Option Nat :=
  let alone : List Char × Option Nat :=
    if 0xd800 ≤ u ∧ u ≤ 0xdbff then ([], some u)
    else if 0xdc00 ≤ u ∧ u ≤ 0xdfff then ([replacement], none)
    else ([Char.ofNat u], none)
  match lead with
  | none => alone
  | some h =>
    if 0xdc00 ≤ u ∧ u ≤ 0xdfff then
      ([Char.ofNat (0x10000 + (h - 0xd800) * 1024 + (u - 0xdc00))], none)
    else (replacement :: alone.1, alone.2)

def decodeFrom (bigEndian : Bool) (lead : Option Nat) : List UInt8 → List Char
  | [] => if lead.isSome then [replacement] else []
  | [_] => [replacement]
  | a :: b :: bs =>
    let u := if bigEndian then a.toNat * 256 + b.toNat else b.toNat * 256 + a.toNat
    let (cs, next) := step lead u
    cs ++ decodeFrom bigEndian next bs

/-- The text that the bytes spell. -/
def decode (bigEndian : Bool) (bs : List UInt8) : List Char := decodeFrom bigEndian none bs

end Utf16

end Reshape.Text
