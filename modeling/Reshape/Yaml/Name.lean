import Reshape.Json.Literal
import Reshape.Yaml.Cursor
import Reshape.Yaml.Token

/-!
# Names and directives

* `Yaml.readName`: the name of an anchor or an alias.
* `Yaml.readTag`: the tag of a node.
* `Yaml.readDirective`: a line that tells about the document after it.
-/

namespace Reshape.Yaml

/-- Whether the character can stand in a name. -/
def isWordChar (c : Char) : Bool := c.isAlphanum || c == '_' || c == '-'

/-- The characters up to one of another kind, and what follows. -/
def readWhile (p : Char → Bool) (c : Cursor) : List Char × Cursor :=
  (c.rest.takeWhile p, c.skipWhile p)

/-- The name after an ampersand or an asterisk. -/
def readName (c : Cursor) : Option (List Char × Cursor) :=
  let (name, next) := readWhile isWordChar (c.advance 1)
  let ends := match next.rest with
    | d :: _ => atBlank next.rest || ['?', ':', ',', ']', '\x7d', '%', '@', '\x60'].contains d
    | [] => true
  if !name.isEmpty && ends then some (name, next) else none

/-! ## Tags -/

/-- Whether the character can stand in a tag; between angle brackets some more can. -/
def isTagChar (bracketed : Bool) (c : Char) : Bool :=
  isWordChar c ||
    [';', '/', '?', ':', '@', '&', '=', '+', '$', '.', '%', '!', '~', '*', '\'', '(',
      ')'].contains c ||
    (bracketed && [',', '[', ']'].contains c)

/-- The number of bytes of a character that starts with the byte. -/
def byteCount (b : Nat) : Nat :=
  if b < 0x80 then 1
  else if 0xc0 ≤ b ∧ b < 0xe0 then 2
  else if 0xe0 ≤ b ∧ b < 0xf0 then 3
  else if 0xf0 ≤ b ∧ b < 0xf8 then 4
  else 0

/-- The characters of a tag, after what is given in reverse. A percent sign and two digits are a
byte; `missing` bytes are missing of the character that is being read. -/
def readTagChars (bracketed : Bool) (missing : Nat) (rev : List Char) :
    List Char → Option (List Char)
  | '%' :: a :: b :: cs => do
    let n := (← Json.hexValue a) * 16 + (← Json.hexValue b)
    if missing = 0 then
      if byteCount n = 0 then none
      else readTagChars bracketed (byteCount n - 1) (b :: a :: '%' :: rev) cs
    else if 0x80 ≤ n ∧ n < 0xc0 then
      readTagChars bracketed (missing - 1) (b :: a :: '%' :: rev) cs
    else none
  | [] => if missing = 0 then some rev.reverse else none
  | c :: cs =>
    if missing ≠ 0 ∨ c = '%' then none
    else if isTagChar bracketed c then readTagChars bracketed 0 (c :: rev) cs
    else some rev.reverse

/-- The text of a tag with each byte after a percent sign as a character. -/
def tagText : List Char → List Char
  | '%' :: a :: b :: cs =>
    Char.ofNat ((Json.hexValue a).getD 0 * 16 + (Json.hexValue b).getD 0) :: tagText cs
  | c :: cs => c :: tagText cs
  | [] => []

/-- The rest of a tag after `head`; there has to be something. -/
def readTagRest (bracketed : Bool) (head : List Char) (c : Cursor) :
    Option (List Char × Cursor) :=
  match readTagChars bracketed 0 [] c.rest with
  | none => none
  | some cs =>
    if head.isEmpty && cs.isEmpty then none
    else some (head.drop 1 ++ tagText cs, c.advance cs.length)

/-- An exclamation mark and what could be a handle with it. -/
def readHandle (c : Cursor) : Option (List Char × Cursor) :=
  match c.rest with
  | '!' :: _ =>
    let (word, next) := readWhile isWordChar (c.advance 1)
    if next.rest.head? = some '!' then some ('!' :: word ++ ['!'], next.advance 1)
    else some ('!' :: word, next)
  | _ => none

/-- The tag at the cursor. -/
def readTagAt (c : Cursor) : Option (Tag × Cursor) :=
  match c.rest with
  | '!' :: '<' :: _ => do
    let (suffix, next) ← readTagRest true [] (c.advance 2)
    if next.rest.head? = some '>' then some (⟨[], suffix⟩, next.advance 1) else none
  | _ => do
    let (handle, next) ← readHandle c
    if 2 ≤ handle.length ∧ handle.getLast? = some '!' then
      let (suffix, next) ← readTagRest false [] next
      return (⟨handle, suffix⟩, next)
    else
      let (suffix, next) ← readTagRest false handle next
      return (if suffix.isEmpty then ⟨[], ['!']⟩ else ⟨['!'], suffix⟩, next)

/-- The tag at the cursor, after which there is a blank or, between brackets, a comma. -/
def readTag (flow : Bool) (c : Cursor) : Option (Tag × Cursor) := do
  let (t, next) ← readTagAt c
  if atBlank next.rest ∨ (flow ∧ next.rest.head? = some ',') then some (t, next) else none

/-! ## Directives -/

/-- A number of one to nine digits. -/
def readVersionNumber (c : Cursor) : Option (Nat × Cursor) :=
  let (digits, next) := readWhile Char.isDigit c
  if digits.isEmpty ∨ 9 < digits.length then none
  else some (digits.foldl (fun n d => n * 10 + (d.toNat - '0'.toNat)) 0, next)

/-- Two numbers with a point between them. -/
def readVersion (c : Cursor) : Option (Token × Cursor) := do
  let (major, c) ← readVersionNumber c
  if c.rest.head? = some '.' then
    let (minor, c) ← readVersionNumber (c.advance 1)
    return (.version major minor, c)
  else none

/-- A handle and what it stands for. -/
def readHandleMeaning (c : Cursor) : Option (Token × Cursor) := do
  let (handle, c) ← readHandle c
  if handle.length = 1 ∨ (2 ≤ handle.length ∧ handle.getLast? = some '!') then
    if (c.rest.head?.map isBlank) = some true then
      let (start, c) ← readTagRest true [] c.skipBlanks
      if atBlank c.rest then some (.handle handle start, c) else none
    else none
  else none

/-- The directive at the cursor, and the start of the next line. -/
def readDirective (c : Cursor) : Option (Token × Cursor) := do
  let (name, c) := readWhile isWordChar (c.advance 1)
  if !atBlank c.rest then none
  let (token, c) ← match String.ofList name with
    | "YAML" => readVersion c.skipBlanks
    | "TAG" => readHandleMeaning c.skipBlanks
    | _ => none
  return (token, ← c.endLine?)

end Reshape.Yaml
