import Reshape.Yaml.Grammar
import Reshape.Yaml.Tokens

/-!
# Documents

* `Yaml.Document`: a node, and the nodes in it that aliases can stand for.
* `Document.ofTokens?`: the document of tokens, of which there is one.
* `Document.ofText?`: the document of a text.
-/

namespace Reshape.Yaml

/-! ## Anchors -/

namespace Node

mutual

/-- The nodes with an anchor, in the order in which they start. -/
def anchored : Node → List (Nat × Node)
  | .scalar anchor s => anchor.toList.map (·, .scalar anchor s)
  | .sequence anchor tag items =>
    anchor.toList.map (·, .sequence anchor tag items) ++ anchoredItems items
  | .mapping anchor tag fields =>
    anchor.toList.map (·, .mapping anchor tag fields) ++ anchoredFields fields
  | .alias _ => []

def anchoredItems : List Node → List (Nat × Node)
  | [] => []
  | n :: ns => anchored n ++ anchoredItems ns

def anchoredFields : List (Node × Node) → List (Nat × Node)
  | [] => []
  | (k, v) :: fs => anchored k ++ (anchored v ++ anchoredFields fs)

end

mutual

/-- The number of scalars and aliases, and of starts and ends of sequences and mappings. -/
def size : Node → Nat
  | .scalar _ _ | .alias _ => 1
  | .sequence _ _ items => 2 + sizeOfItems items
  | .mapping _ _ fields => 2 + sizeOfFields fields

def sizeOfItems : List Node → Nat
  | [] => 0
  | n :: ns => size n + sizeOfItems ns

def sizeOfFields : List (Node × Node) → Nat
  | [] => 0
  | (k, v) :: fs => size k + (size v + sizeOfFields fs)

end

end Node

/-- A node, and the nodes in it with an anchor, the last one first. -/
structure Document where
  root : Node
  anchored : List (Nat × Node)

namespace Document

/-- The document of a node. -/
def ofNode (n : Node) : Document := ⟨n, n.anchored.reverse⟩

/-- The node that an alias stands for. -/
def target? (d : Document) (anchor : Nat) : Option Node := d.anchored.lookup anchor

/-! ## Directives -/

/-- The handles that stand for something in each document. -/
def standardHandles : Handles :=
  [(['!'], ['!']), (['!', '!'], Scalar.tagPrefix.toList)]

/-- The handles that directives tell about, and the tokens after the directives. The version is told
once, and so is what a handle stands for. -/
def readDirectives (versioned : Bool) (handles : Handles) :
    List Token → Option (Handles × List Token)
  | .version major minor :: ts =>
    if versioned || major ≠ 1 || (minor ≠ 1 && minor ≠ 2) then none
    else readDirectives true handles ts
  | .handle name start :: ts =>
    if (handles.lookup name).isSome then none
    else readDirectives versioned ((name, start) :: handles) ts
  | ts => some (handles ++ standardHandles, ts)

/-! ## Documents -/

/-- Whether the node of a document is left out. -/
def endsDocument : Token → Bool
  | .version .. | .handle .. | .documentStart | .documentEnd | .streamEnd => true
  | _ => false

/-- The node of a document. What is told before it ends with three dashes; without them nothing is
told. -/
def readRoot (ts : List Token) : Option (Node × Rest) :=
  let fuel := 4 * (ts.length + 1)
  match ts with
  | .version .. :: _ | .handle .. :: _ | .documentStart :: _ =>
    match readDirectives false [] ts with
    | some (handles, .documentStart :: ts) =>
      orLeftOut endsDocument (readNode handles fuel .element) ⟨ts, []⟩
    | _ => none
  | ts => readNode standardHandles fuel .element ⟨ts, []⟩

/-- The document of tokens; there is one, and marks of its end can follow. -/
def ofTokens? (ts : List Token) : Option Document :=
  match readRoot ts with
  | some (n, r) =>
    if r.tokens.dropWhile (· == .documentEnd) = [.streamEnd] then some (ofNode n) else none
  | none => none

/-! ## Texts -/

/-- Whether a text may contain the character. -/
def isAllowed (c : Char) : Bool :=
  let n := c.toNat
  n == 0x9 || n == 0xa || (0x20 ≤ n && n ≤ 0x7e) || (0xa0 ≤ n && n ≤ 0xfffd) || 0x10000 ≤ n

/-- The text with each line ended by one and the same character. -/
def normalize : List Char → List Char
  | '\r' :: '\n' :: cs => '\n' :: normalize cs
  | '\r' :: cs | '\u0085' :: cs => '\n' :: normalize cs
  | c :: cs => c :: normalize cs
  | [] => []

/-- The document of a text. -/
def ofText? (text : String) : Option Document :=
  let cs := normalize text.toList
  if cs.all isAllowed then (tokens? cs).bind ofTokens? else none

end Document

end Reshape.Yaml
