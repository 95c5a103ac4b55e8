/-!
# Paths

* `Path.join`: a path relative to a directory.
* `Path.place`: the place that a path leads to.
* `Path.parent`: the directory that a path names a file in.
* `Path.extension?`: what stands after the last point of a file's name.
* `Path.hasExtension`: whether that is a given word, in capitals or not.
-/

namespace Reshape.Path

/-- The parts of a path between slashes. -/
def splitChars : List Char → List (List Char)
  | [] => [[]]
  | c :: cs =>
    if c = '/' then [] :: splitChars cs
    else match splitChars cs with
      | p :: ps => (c :: p) :: ps
      | [] => [[c]]

/-- The parts of a path between slashes. -/
def parts (path : String) : List String := (splitChars path.toList).map String.ofList

/-- Whether the path starts at the root. -/
def isAbsolute (path : String) : Bool := path.toList.head? = some '/'

/-- The path seen from a directory. -/
def join (dir path : String) : String :=
  if isAbsolute path || dir = "" then path
  else if dir.toList.getLast? = some '/' then dir ++ path
  else dir ++ "/" ++ path

/-- The path seen from a directory, if one is given. -/
def joinTo (dir : Option String) (path : String) : String :=
  match dir with
  | some dir => join dir path
  | none => path

/-- Follows the parts of a path from a place. -/
def follow (place : List String) : List String → List String
  | [] => place
  | p :: ps =>
    if p = "" ∨ p = "." then follow place ps
    else if p = ".." then follow place.dropLast ps
    else follow (place ++ [p]) ps

/-- The place that a path leads to from a directory. -/
def place (home : List String) (path : String) : List String :=
  follow (if isAbsolute path then [] else home) (parts path)

/-- The parts of a path in reverse, without those at the end that lead nowhere else. -/
def dropIdle : List String → List String
  | [] => []
  | [p] => [p]
  | p :: ps => if p = "" ∨ p = "." then dropIdle ps else p :: ps

/-- The path without its last part. -/
def parent (path : String) : String :=
  match dropIdle (dropIdle (parts path).reverse).tail with
  | [""] => if isAbsolute path then "/" else ""
  | ps => String.intercalate "/" ps.reverse

/-- The name of the file that a path ends in, in reverse; none if it ends in a step upwards. -/
def fileName? (path : String) : Option (List Char) :=
  match ((parts path).filter fun p => p ≠ "" ∧ p ≠ ".").getLast? with
  | none | some ".." => none
  | some name => some name.toList.reverse

/-- What stands after the last point of the file's name, unless that is where the name starts. -/
def extension? (path : String) : Option String :=
  match fileName? path with
  | none => none
  | some name =>
    let ext := name.takeWhile (· ≠ '.')
    if (name.drop ext.length).length ≤ 1 then none else some (String.ofList ext.reverse)

/-- The character as a small letter, if it is one of the first twenty-six. -/
def smallLetter (c : Char) : Char := if 'A' ≤ c ∧ c ≤ 'Z' then Char.ofNat (c.toNat + 32) else c

/-- Whether the extension is the given word, in capitals or not. -/
def hasExtension (path ext : String) : Bool :=
  match extension? path with
  | none => false
  | some e => e.toList.map smallLetter = ext.toList

end Reshape.Path
