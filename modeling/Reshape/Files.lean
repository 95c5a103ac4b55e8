import Reshape.Catalog
import Reshape.Path
import Reshape.Text.Utf
import Reshape.Workbook

/-!
# Files

* `Content`: what a file holds: bytes, and the text or the workbook that they are.
* `Codec`: what other programs make of bytes.
* `Files`: what stands where, and the directory that relative paths start from.
* `FileError`: why a file cannot be written.
* `Files.locate`: the place that a path leads to; every step on the way has to be a directory.
* `Files.find?`, `Files.write`: reading and writing a file. A file is written only into a directory
  that is there.
-/

namespace Reshape

/-- Bytes, and the workbook that they hold, if they hold one that can be read. -/
structure Binary where
  bytes : List UInt8
  workbook : Option Workbook
  deriving DecidableEq

inductive Content
  /-- A text in UTF-8. -/
  | text (s : String)
  /-- A workbook, or anything else that is not to be taken for a text. -/
  | workbook (b : Binary)
  deriving DecidableEq

namespace Content

/-- What the file consists of. -/
def bytes : Content → List UInt8
  | .text s => Text.bytes s
  | .workbook b => b.bytes

/-- The text that the file is in UTF-8. -/
def text? : Content → Option String
  | .text s => some s
  | .workbook b => String.fromUTF8? b.bytes.toByteArray

/-- The workbook that the file is. -/
def workbook? : Content → Option Workbook
  | .text _ => none
  | .workbook b => b.workbook

end Content

/-- What other programs make of bytes: the character set that they seem to be in, and those of a
workbook with one sheet. -/
@[class] structure Codec where
  charset : List UInt8 → String
  pack : String → Sheet → List UInt8

/-- The usual codec takes all bytes for UTF-8. A workbook begins as an archive does and is no
text. -/
instance : Codec := ⟨fun _ => "utf-8", fun _ _ => [0x50, 0x4b, 0x03, 0x04, 0x80]⟩

inductive FileError
  | missing | notDirectory | isDirectory
  /-- The path or one of its parts is too long. -/
  | tooLong
  /-- The path holds a character that ends paths. -/
  | notAPath
  deriving DecidableEq, Repr

/-- The error as the system words it. -/
def FileError.message : FileError → String
  | .missing => "No such file or directory (os error 2)"
  | .notDirectory => "Not a directory (os error 20)"
  | .isDirectory => "Is a directory (os error 21)"
  | .tooLong => "File name too long (os error 36)"
  | .notAPath => "file name contained an unexpected NUL byte"

structure Files where
  /-- Files by their places, the parts of which are joined by slashes. -/
  entries : Catalog Content
  /-- The directory that relative paths start from. -/
  home : List String
  /-- Directories that are there even if they hold no files. -/
  directories : List (List String)
  /-- The usual one where none is given. -/
  [codec : Codec]

namespace Files

instance : Inhabited Files := ⟨⟨.empty, [], []⟩⟩

/-- The name of a place. -/
def key (place : List String) : String := String.intercalate "/" place

/-- Whether a place is a directory: the home, one that is there anyway, or what leads to those or to
a file. -/
def isDirectory (f : Files) (place : List String) : Bool :=
  (f.home :: f.directories).any (place.isPrefixOf ·) ||
    f.entries.names.any fun k => (key place ++ "/").toList.isPrefixOf k.toList

/-- The most bytes that a part of a path has. -/
def maxPart : Nat := 255

/-- The most bytes that a path has. -/
def maxPath : Nat := 4095

/-- Follows the parts of a path from a place. -/
def walk (f : Files) : List String → List String → Except FileError (List String)
  | place, [] => .ok place
  | place, p :: ps =>
    if !f.isDirectory place then
      .error (if (f.entries.get? (key place)).isSome then .notDirectory else .missing)
    else if p = "" ∨ p = "." then walk f place ps
    else if p = ".." then walk f place.dropLast ps
    else if maxPart < p.utf8ByteSize then .error .tooLong
    else walk f (place ++ [p]) ps

/-- The place that the parts of a path lead to, if the path can be one. -/
def locateParts (f : Files) (path : String) (parts : List String) :
    Except FileError (List String) :=
  if path.contains '\x00' then .error .notAPath
  else if path = "" then .error .missing
  else if maxPath < path.utf8ByteSize then .error .tooLong
  else f.walk (if Path.isAbsolute path then [] else f.home) parts

/-- The place that a path leads to. -/
def locate (f : Files) (path : String) : Except FileError (List String) :=
  f.locateParts path (Path.parts path)

/-- The place that a path leads to when a file is written there. What ends in a slash is taken for a
directory, whether it is one or not. -/
def locateNew (f : Files) (path : String) : Except FileError (List String) :=
  let named := ((Path.parts path).reverse.dropWhile (· = "")).reverse
  if (Path.parts path).getLast? = some "" then
    match f.locateParts path (named.dropLast ++ [""]) with
    | .error e => .error e
    | .ok _ => .error .isDirectory
  else f.locate path

/-- The file that a path leads to. -/
def find? (f : Files) (path : String) : Option Content :=
  match f.locate path with
  | .ok place => f.entries.get? (key place)
  | .error _ => none

/-- The text that a path leads to. -/
def text? (f : Files) (path : String) : Option String :=
  (f.find? path).bind Content.text?

/-- The files after one is written. -/
def write (f : Files) (path : String) (c : Content) : Except FileError Files :=
  match f.locateNew path with
  | .error e => .error e
  | .ok place =>
    if f.isDirectory place then .error .isDirectory
    else .ok { f with entries := f.entries.insert (key place) c }

end Files

end Reshape
