import Reshape.Proofs.Replaying
import Reshape.Records

/-!
# Texts in UTF-8 that are read as they are

The reader of UTF-8 takes byte after byte and can find any of them malformed. In the bytes of a text
it finds none: the first byte of a character tells how many are to come and what the next one can
be, and every further one is in its range.

* `Utf8.decodeFrom_more`, `Utf8.decodeFrom_last`: a byte inside a character, and its last one.
* `Utf8.decodeFrom_utf8EncodeChar`: one character before any other bytes. `Utf8.decode_bytes`: the
  bytes of a text.
* `Csv.decode_bytes`: the same under a label. `Content.bytes_of_text?`: a file that is a text
  consists of its bytes. `Records.readCsv_text`: the grid of a delimited text in a file.
-/

namespace Reshape

namespace Text.Utf8

/-! ## One character -/

section Bytes

variable {n missing bits low high : Nat} {p : Pending} {bs : List UInt8}

theorem toNat_ofNat (h : n < 256) : (UInt8.ofNat n).toNat = n := by
  rw [UInt8.toNat_ofNat', Nat.mod_eq_of_lt h]

/-- The first of two bytes. -/
theorem begin_two (h : 2 ≤ n) (h' : n < 32) : begin (n + 192) = ([], some ⟨1, n, 0x80, 0xbf⟩) := by
  rw [begin, if_neg (by omega), if_pos (by omega), Nat.add_sub_cancel]

/-- The first of three bytes. The second one is not to spell a character of two bytes or half of a
pair. -/
theorem begin_three (h : n < 16) : begin (n + 224) =
    ([], some ⟨2, n, if n = 0 then 0xa0 else 0x80, if n = 13 then 0x9f else 0xbf⟩) := by
  rw [begin, if_neg (by omega), if_neg (by omega), if_pos (by omega), Nat.add_sub_cancel]
  simp only [Nat.add_eq_right, Nat.reduceEqDiff]

/-- The first of four bytes. The second one is not to spell a character of three bytes or what is
beyond the last character. -/
theorem begin_four (h : n < 5) : begin (n + 240) =
    ([], some ⟨3, n, if n = 0 then 0x90 else 0x80, if n = 4 then 0x8f else 0xbf⟩) := by
  rw [begin, if_neg (by omega), if_neg (by omega), if_neg (by omega), if_pos (by omega),
    Nat.add_sub_cancel]
  simp only [Nat.add_eq_right, Nat.reduceEqDiff]

theorem decodeFrom_begin (h : begin n = ([], some p)) (hn : n < 256) :
    decodeFrom none (UInt8.ofNat n :: bs) = decodeFrom (some p) bs := by
  rw [decodeFrom, step, toNat_ofNat hn, h]
  exact List.nil_append _

/-- A byte in its range before the last one of a character adds six bits. -/
theorem decodeFrom_more (hlow : low ≤ n + 128) (hhigh : n + 128 ≤ high) (hn : n < 64) :
    decodeFrom (some ⟨missing + 2, bits, low, high⟩) (UInt8.ofNat (n + 128) :: bs) =
      decodeFrom (some ⟨missing + 1, bits * 64 + n, 0x80, 0xbf⟩) bs := by
  rw [decodeFrom, step, toNat_ofNat (by omega), if_pos ⟨hlow, hhigh⟩, Nat.add_sub_cancel]
  rfl

/-- The last byte of a character gives the last six bits. -/
theorem decodeFrom_last (hlow : low ≤ n + 128) (hhigh : n + 128 ≤ high) (hn : n < 64) :
    decodeFrom (some ⟨1, bits, low, high⟩) (UInt8.ofNat (n + 128) :: bs) =
      Char.ofNat (bits * 64 + n) :: decodeFrom none bs := by
  rw [decodeFrom, step, toNat_ofNat (by omega), if_pos ⟨hlow, hhigh⟩, Nat.add_sub_cancel]
  rfl

end Bytes

/-- **A character is read back**, whatever comes after it. -/
theorem decodeFrom_utf8EncodeChar (c : Char) (bs : List UInt8) :
    decodeFrom none (String.utf8EncodeChar c ++ bs) = c :: decodeFrom none bs := by
  have hc : Char.ofNat c.val.toNat = c := Char.ofNat_toNat c
  have hvalid : c.val.toNat < 0xd800 ∨ 0xdfff < c.val.toNat ∧ c.val.toNat < 0x110000 := c.valid
  rw [String.utf8EncodeChar]
  generalize c.val.toNat = v at hc hvalid ⊢
  by_cases h1 : v ≤ 0x7f
  · rw [if_pos h1, List.singleton_append, decodeFrom, step, toNat_ofNat (by omega), begin,
      if_pos (by omega), hc]
    rfl
  by_cases h2 : v ≤ 0x7ff
  · rw [if_neg h1, if_pos h2, Nat.mod_eq_of_lt (show v / 64 < 32 by omega)]
    have hbits : v / 64 * 64 + v % 64 = v := by omega
    rw [List.cons_append, List.singleton_append,
      decodeFrom_begin (begin_two (by omega) (by omega)) (by omega),
      decodeFrom_last (by omega) (by omega) (by omega), hbits, hc]
  by_cases h3 : v ≤ 0xffff
  · rw [if_neg h1, if_neg h2, if_pos h3, Nat.mod_eq_of_lt (show v / 4096 < 16 by omega)]
    have hbits : (v / 4096 * 64 + v / 64 % 64) * 64 + v % 64 = v := by omega
    rw [List.cons_append, List.cons_append, List.singleton_append,
      decodeFrom_begin (begin_three (by omega)) (by omega),
      decodeFrom_more (by split_ifs <;> omega) (by split_ifs <;> omega) (by omega),
      decodeFrom_last (by omega) (by omega) (by omega), hbits, hc]
  · rw [if_neg h1, if_neg h2, if_neg h3, Nat.mod_eq_of_lt (show v / 262144 < 8 by omega)]
    have hbits : ((v / 262144 * 64 + v / 4096 % 64) * 64 + v / 64 % 64) * 64 + v % 64 = v := by
      omega
    rw [List.cons_append, List.cons_append, List.cons_append, List.singleton_append,
      decodeFrom_begin (begin_four (by omega)) (by omega),
      decodeFrom_more (by split_ifs <;> omega) (by split_ifs <;> omega) (by omega),
      decodeFrom_more (by omega) (by omega) (by omega),
      decodeFrom_last (by omega) (by omega) (by omega), hbits, hc]

/-! ## Texts -/

/-- **The bytes of a text spell that text.** -/
theorem decode_bytes (s : String) : decode (bytes s) = s.toList := by
  rw [decode, bytes_eq_flatMap]
  induction s.toList with
  | nil => rfl
  | cons c cs ih => rw [List.flatMap_cons, decodeFrom_utf8EncodeChar, ih]

end Text.Utf8

/-- Under the label of UTF-8 the bytes of a text spell it, without byte order marks at its start. -/
theorem Csv.decode_bytes (s : String) :
    Csv.decode "utf-8" (Text.bytes s) = .ok (s.toList.dropWhile (· = '\ufeff')) := by
  have hlower : Text.lower "utf-8".toList = "utf-8".toList := by decide +kernel
  have hname : String.ofList "utf-8".toList = "utf-8" := String.ofList_toList
  rw [Csv.decode, Text.decodeAs?, Text.decodeLowerAs?, hlower, hname, if_pos (.inl rfl),
    Text.Utf8.decode_bytes]
  rfl

/-- A file that is a text in UTF-8 consists of the bytes of that text. -/
theorem Content.bytes_of_text? {c : Content} {s : String} (h : c.text? = some s) :
    c.bytes = Text.bytes s := by
  cases c with
  | text t =>
    cases h
    rfl
  | workbook b =>
    rw [text?, String.fromUTF8?] at h
    split at h
    · cases h
      exact List.toList_data_toByteArray.symm
    · cases h

/-- **The grid of a file with a delimited text** is that of the text, if its bytes are taken for
UTF-8. -/
theorem Records.readCsv_text {f : Files} {path : String} {s : String}
    (hf : f.text? path = some s)
    (hcharset : Csv.encodingOf (f.codec.charset (Text.bytes s)) = "utf-8") :
    Records.readCsv f path = .ok (Csv.grid
      (Csv.detectDelimiter (s.toList.dropWhile (· = '\ufeff')))
      (s.toList.dropWhile (· = '\ufeff'))) := by
  obtain ⟨c, hfile, htext⟩ := Option.bind_eq_some_iff.1 hf
  rw [Records.readCsv, hfile]
  simp only [Content.bytes_of_text? htext]
  rw [hcharset, Csv.decode_bytes]
  rfl

end Reshape
