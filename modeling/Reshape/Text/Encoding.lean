import Reshape.Text.CodePage
import Reshape.Text.Iso2022
import Reshape.Text.Lower
import Reshape.Text.MultiByte

/-!
# Encodings

* `Encoding`: how bytes stand for characters.
* `Encoding.ofLabel?`: the encoding of a label.
* `Encoding.decode`: the text of bytes; a byte order mark at the start overrides the encoding.
* `Text.decodeAs?`: the text of bytes under a label, or none if no encoding has the label.
-/

namespace Reshape.Text

inductive Encoding
  | utf8
  | utf16 (bigEndian : Bool)
  /-- One byte a character; the list gives the upper half. -/
  | page (upper : List Nat)
  /-- One byte a character; the upper half is for private use. -/
  | userDefined
  /-- One to four bytes a character. -/
  | multiByte (set : MultiByte)
  /-- Japanese text in seven bits. -/
  | iso2022
  /-- An encoding of which nothing can be read. -/
  | replacement
  deriving DecidableEq

namespace Encoding

/-- The encodings and their labels. -/
def labels : List (Encoding × List String) :=
  [(.utf8, ["unicode-1-1-utf-8", "unicode11utf8", "unicode20utf8", "utf-8", "utf8",
      "x-unicode20utf8"]),
   (.page CodePage.ibm866, ["866", "cp866", "csibm866", "ibm866"]),
   (.page CodePage.iso8859_2, ["csisolatin2", "iso-8859-2", "iso-ir-101", "iso8859-2",
      "iso88592", "iso_8859-2", "iso_8859-2:1987", "l2", "latin2"]),
   (.page CodePage.iso8859_3, ["csisolatin3", "iso-8859-3", "iso-ir-109", "iso8859-3",
      "iso88593", "iso_8859-3", "iso_8859-3:1988", "l3", "latin3"]),
   (.page CodePage.iso8859_4, ["csisolatin4", "iso-8859-4", "iso-ir-110", "iso8859-4",
      "iso88594", "iso_8859-4", "iso_8859-4:1988", "l4", "latin4"]),
   (.page CodePage.iso8859_5, ["csisolatincyrillic", "cyrillic", "iso-8859-5", "iso-ir-144",
      "iso8859-5", "iso88595", "iso_8859-5", "iso_8859-5:1988"]),
   (.page CodePage.iso8859_6, ["arabic", "asmo-708", "csiso88596e", "csiso88596i",
      "csisolatinarabic", "ecma-114", "iso-8859-6", "iso-8859-6-e", "iso-8859-6-i", "iso-ir-127",
      "iso8859-6", "iso88596", "iso_8859-6", "iso_8859-6:1987"]),
   (.page CodePage.iso8859_7, ["csisolatingreek", "ecma-118", "elot_928", "greek", "greek8",
      "iso-8859-7", "iso-ir-126", "iso8859-7", "iso88597", "iso_8859-7", "iso_8859-7:1987",
      "sun_eu_greek"]),
   (.page CodePage.iso8859_8, ["csiso88598e", "csisolatinhebrew", "hebrew", "iso-8859-8",
      "iso-8859-8-e", "iso-ir-138", "iso8859-8", "iso88598", "iso_8859-8", "iso_8859-8:1988",
      "visual", "csiso88598i", "iso-8859-8-i", "logical"]),
   (.page CodePage.iso8859_10, ["csisolatin6", "iso-8859-10", "iso-ir-157", "iso8859-10",
      "iso885910", "l6", "latin6"]),
   (.page CodePage.iso8859_13, ["iso-8859-13", "iso8859-13", "iso885913"]),
   (.page CodePage.iso8859_14, ["iso-8859-14", "iso8859-14", "iso885914"]),
   (.page CodePage.iso8859_15, ["csisolatin9", "iso-8859-15", "iso8859-15", "iso885915",
      "iso_8859-15", "l9"]),
   (.page CodePage.iso8859_16, ["iso-8859-16"]),
   (.page CodePage.koi8R, ["cskoi8r", "koi", "koi8", "koi8-r", "koi8_r"]),
   (.page CodePage.koi8U, ["koi8-ru", "koi8-u"]),
   (.page CodePage.macintosh, ["csmacintosh", "mac", "macintosh", "x-mac-roman"]),
   (.page CodePage.windows874, ["dos-874", "iso-8859-11", "iso8859-11", "iso885911", "tis-620",
      "windows-874"]),
   (.page CodePage.windows1250, ["cp1250", "windows-1250", "x-cp1250"]),
   (.page CodePage.windows1251, ["cp1251", "windows-1251", "x-cp1251"]),
   (.page CodePage.windows1252, ["ansi_x3.4-1968", "ascii", "cp1252", "cp819", "csisolatin1",
      "ibm819", "iso-8859-1", "iso-ir-100", "iso8859-1", "iso88591", "iso_8859-1",
      "iso_8859-1:1987", "l1", "latin1", "us-ascii", "windows-1252", "x-cp1252"]),
   (.page CodePage.windows1253, ["cp1253", "windows-1253", "x-cp1253"]),
   (.page CodePage.windows1254, ["cp1254", "csisolatin5", "iso-8859-9", "iso-ir-148",
      "iso8859-9", "iso88599", "iso_8859-9", "iso_8859-9:1989", "l5", "latin5", "windows-1254",
      "x-cp1254"]),
   (.page CodePage.windows1255, ["cp1255", "windows-1255", "x-cp1255"]),
   (.page CodePage.windows1256, ["cp1256", "windows-1256", "x-cp1256"]),
   (.page CodePage.windows1257, ["cp1257", "windows-1257", "x-cp1257"]),
   (.page CodePage.windows1258, ["cp1258", "windows-1258", "x-cp1258"]),
   (.page CodePage.macCyrillic, ["x-mac-cyrillic", "x-mac-ukrainian"]),
   (.multiByte .gb18030, ["chinese", "csgb2312", "csiso58gb231280", "gb2312", "gb_2312",
      "gb_2312-80", "gbk", "iso-ir-58", "x-gbk", "gb18030"]),
   (.multiByte .big5, ["big5", "big5-hkscs", "cn-big5", "csbig5", "x-x-big5"]),
   (.multiByte .eucJp, ["cseucpkdfmtjapanese", "euc-jp", "x-euc-jp"]),
   (.iso2022, ["csiso2022jp", "iso-2022-jp"]),
   (.multiByte .shiftJis, ["csshiftjis", "ms932", "ms_kanji", "shift-jis", "shift_jis", "sjis",
      "windows-31j", "x-sjis"]),
   (.multiByte .eucKr, ["cseuckr", "csksc56011987", "euc-kr", "iso-ir-149", "korean",
      "ks_c_5601-1987", "ks_c_5601-1989", "ksc5601", "ksc_5601", "windows-949"]),
   (.replacement, ["csiso2022kr", "hz-gb-2312", "iso-2022-cn", "iso-2022-cn-ext", "iso-2022-kr",
      "replacement"]),
   (.utf16 true, ["unicodefffe", "utf-16be"]),
   (.utf16 false, ["csunicode", "iso-10646-ucs-2", "ucs-2", "unicode", "unicodefeff", "utf-16",
      "utf-16le"]),
   (.userDefined, ["x-user-defined"])]

/-- Whether blanks of this kind may surround a label. -/
def isLabelBlank (c : Char) : Bool :=
  c == ' ' || c == '\t' || c == '\n' || c == '\x0c' || c == '\r'

/-- The encoding of a label in lower case. -/
def ofLabel? (label : List Char) : Option Encoding :=
  let label := ((label.dropWhile isLabelBlank).reverse.dropWhile isLabelBlank).reverse
  (labels.find? fun e => e.2.contains (String.ofList label)).map (·.1)

/-- The character of a byte. -/
def pageChar (upper : List Nat) (b : UInt8) : Char :=
  if b.toNat < 0x80 then Char.ofNat b.toNat
  else Char.ofNat ((upper[b.toNat - 0x80]?).getD 0xfffd)

/-- The text of bytes in which there is no byte order mark. -/
def decodeUnmarked (bs : List UInt8) : Encoding → List Char
  | .utf8 => Utf8.decode bs
  | .utf16 bigEndian => Utf16.decode bigEndian bs
  | .page upper => bs.map (pageChar upper)
  | .userDefined =>
    bs.map fun b => Char.ofNat (if b.toNat < 0x80 then b.toNat else 0xf700 + b.toNat)
  | .multiByte set => set.decode (bs.map UInt8.toNat)
  | .iso2022 => Iso2022.decode (bs.map UInt8.toNat)
  | .replacement => if bs.isEmpty then [] else [Text.replacement]

/-- The text of bytes. -/
def decode (e : Encoding) : List UInt8 → List Char
  | 0xef :: 0xbb :: 0xbf :: bs => decodeUnmarked bs .utf8
  | 0xff :: 0xfe :: bs => decodeUnmarked bs (.utf16 false)
  | 0xfe :: 0xff :: bs => decodeUnmarked bs (.utf16 true)
  | bs => decodeUnmarked bs e

end Encoding

/-- The text of bytes under a label in lower case. Three labels of UTF-8 let no mark override them,
and the labels of Latin-1 stand for Latin-9. -/
def decodeLowerAs? (label : List Char) (bs : List UInt8) : Option (List Char) :=
  let name := String.ofList label
  if name = "utf-8" ∨ name = "utf8" ∨ name = "ascii" then some (Utf8.decode bs)
  else if name = "iso-8859-1" ∨ name = "latin-1" ∨ name = "latin1" then
    some (Encoding.decode (.page CodePage.iso8859_15) bs)
  else (Encoding.ofLabel? label).map (·.decode bs)

/-- The text of bytes under a label, without byte order marks at its start. -/
def decodeAs? (label : List Char) (bs : List UInt8) : Option (List Char) :=
  (decodeLowerAs? (lower label) bs).map (·.dropWhile (· = '\ufeff'))

end Reshape.Text
