import Reshape.Yaml.Node
import Reshape.Yaml.Token

/-!
# Nodes of tokens

The tokens of a node follow each other: its anchor and its tag, in either order, and then a scalar
or what starts a collection. Where a node is left out, it is an empty scalar.

* `Yaml.Rest`: the tokens that are left, and the numbers of the anchors so far.
* `Yaml.Properties`: an anchor and a tag.
* `Yaml.readNode`: the node of the next tokens.
-/

namespace Reshape.Yaml

/-- The tokens that are left, and the numbers of the anchors so far. -/
structure Rest where
  tokens : List Token
  anchors : List (List Char × Nat)
  deriving DecidableEq, Repr

namespace Rest

/-- Passes to other tokens. -/
def moveTo (r : Rest) (ts : List Token) : Rest := { r with tokens := ts }

/-- The number of a node with an anchor: how many names are in use before it. A name that is used
again stands for the later node from then on, so two nodes can have one number. -/
def enter (r : Rest) : Option (List Char) → Option Nat × Rest
  | none => (none, r)
  | some name =>
    let n := r.anchors.length
    (some n, { r with anchors := (name, n) :: r.anchors.filter (·.1 ≠ name) })

end Rest

/-! ## Properties -/

/-- What is said about a node before it. -/
structure Properties where
  anchor : Option (List Char)
  tag : Option Tag
  deriving DecidableEq, Repr

/-- Whether nothing is said. -/
def Properties.isEmpty (p : Properties) : Bool := p.anchor.isNone && p.tag.isNone

/-- The anchor and the tag of a node, and the tokens after them. -/
def readProperties : List Token → Properties × List Token
  | .anchor a :: .tag t :: ts | .tag t :: .anchor a :: ts => (⟨some a, some t⟩, ts)
  | .anchor a :: ts => (⟨some a, none⟩, ts)
  | .tag t :: ts => (⟨none, some t⟩, ts)
  | ts => (⟨none, none⟩, ts)

/-- The handles of a document, and what they stand for. -/
abbrev Handles := List (List Char × List Char)

/-- The tag in full; its handle has to stand for something. -/
def Tag.text? (handles : Handles) (t : Tag) : Option String :=
  if t.handle.isEmpty then some (String.ofList t.suffix)
  else (handles.lookup t.handle).map fun start => String.ofList (start ++ t.suffix)

/-! ## Nodes -/

/-- Where a node stands. -/
inductive Place
  | element
  /-- A key or a value in block style. The dashes of a sequence need not be indented there. -/
  | field
  | flow
  deriving DecidableEq, Repr

/-- Whether an element of a sequence is left out. -/
def endsElement (t : Token) : Bool := t == .blockEntry || t == .blockEnd

/-- Whether a key or a value is left out. -/
def endsField (t : Token) : Bool := t == .key || t == .value || t == .blockEnd

/-- Whether an element of a sequence that is not indented is left out. -/
def endsLooseElement (t : Token) : Bool := t == .blockEntry || endsField t

/-- Whether a value between brackets is left out. -/
def endsFlow (close t : Token) : Bool := t == .flowEntry || t == close

/-- Whether a key between brackets is left out. -/
def endsFlowKey (close t : Token) : Bool := t == .value || endsFlow close t

/-- A node that is left out. -/
def Node.leftOut : Node := .scalar none ⟨"", true, none⟩

/-- The next node, unless it is left out. -/
def orLeftOut (ends : Token → Bool) (read : Rest → Option (Node × Rest)) (r : Rest) :
    Option (Node × Rest) :=
  if (r.tokens.head?.map ends) = some true then some (.leftOut, r) else read r

/-- The node after a colon, unless one of them is left out. -/
def afterColon (ends : Token → Bool) (read : Rest → Option (Node × Rest)) (r : Rest) :
    Option (Node × Rest) :=
  match r.tokens with
  | .value :: ts => orLeftOut ends read (r.moveTo ts)
  | _ => some (.leftOut, r)

/-- Passes the comma before an element or a field that is not the first one. -/
def Rest.passComma? (r : Rest) (first : Bool) : Option Rest :=
  match first, r.tokens with
  | true, _ => some r
  | false, .flowEntry :: ts => some (r.moveTo ts)
  | false, _ => none

/-- The node of a scalar. A lone exclamation mark leaves it as it is. -/
def scalarNode (anchor : Option Nat) (tag : Option String) (text : List Char) (plain : Bool) :
    Node :=
  .scalar anchor ⟨String.ofList text, plain, tag.filter (· ≠ "!")⟩

/-- The node of properties alone. -/
def Properties.node? (p : Properties) (anchor : Option Nat) (tag : Option String) : Option Node :=
  if p.isEmpty then none else some (.scalar anchor ⟨"", true, tag⟩)

mutual

/-- The node of the next tokens. -/
def readNode (handles : Handles) : Nat → Place → Rest → Option (Node × Rest)
  | 0, _, _ => none
  | fuel + 1, place, r =>
    match r.tokens with
    | .alias name :: ts => (r.anchors.lookup name).map fun n => (.alias n, r.moveTo ts)
    | ts => do
      let (p, ts) := readProperties ts
      let tag ← p.tag.mapM (Tag.text? handles)
      let (anchor, r) := r.enter p.anchor
      let alone := (p.node? anchor tag).map fun n => (n, r.moveTo ts)
      match ts, place with
      | .scalar text plain :: ts, _ => some (scalarNode anchor tag text plain, r.moveTo ts)
      | .flowSequenceStart :: ts, _ =>
        let (items, r) ← readFlowElements handles fuel true (r.moveTo ts)
        return (.sequence anchor tag items, r)
      | .flowMappingStart :: ts, _ =>
        let (fields, r) ← readFlowFields handles fuel true (r.moveTo ts)
        return (.mapping anchor tag fields, r)
      | _, .flow => alone
      | .blockEntry :: _, .field =>
        let (items, r) ← readLooseElements handles fuel (r.moveTo ts)
        return (.sequence anchor tag items, r)
      | .blockSequenceStart :: ts, _ =>
        let (items, r) ← readElements handles fuel (r.moveTo ts)
        return (.sequence anchor tag items, r)
      | .blockMappingStart :: ts, _ =>
        let (fields, r) ← readFields handles fuel (r.moveTo ts)
        return (.mapping anchor tag fields, r)
      | _, _ => alone

/-- The elements of a sequence in block style. -/
def readElements (handles : Handles) : Nat → Rest → Option (List Node × Rest)
  | 0, _ => none
  | fuel + 1, r =>
    match r.tokens with
    | .blockEntry :: ts => do
      let (item, r) ← orLeftOut endsElement (readNode handles fuel .element) (r.moveTo ts)
      let (items, r) ← readElements handles fuel r
      return (item :: items, r)
    | .blockEnd :: ts => some ([], r.moveTo ts)
    | _ => none

/-- The elements of a sequence that is not indented. -/
def readLooseElements (handles : Handles) : Nat → Rest → Option (List Node × Rest)
  | 0, _ => none
  | fuel + 1, r =>
    match r.tokens with
    | .blockEntry :: ts => do
      let (item, r) ← orLeftOut endsLooseElement (readNode handles fuel .element) (r.moveTo ts)
      let (items, r) ← readLooseElements handles fuel r
      return (item :: items, r)
    | _ => some ([], r)

/-- The fields of a mapping in block style. -/
def readFields (handles : Handles) : Nat → Rest → Option (List (Node × Node) × Rest)
  | 0, _ => none
  | fuel + 1, r =>
    match r.tokens with
    | .key :: ts => do
      let (key, r) ← orLeftOut endsField (readNode handles fuel .field) (r.moveTo ts)
      let (value, r) ← afterColon endsField (readNode handles fuel .field) r
      let (fields, r) ← readFields handles fuel r
      return ((key, value) :: fields, r)
    | .blockEnd :: ts => some ([], r.moveTo ts)
    | _ => none

/-- The elements up to the closing bracket. A pair is a mapping of its own; a key that is left out
takes the mark after it along. -/
def readFlowElements (handles : Handles) : Nat → Bool → Rest → Option (List Node × Rest)
  | 0, _, _ => none
  | fuel + 1, first, r => do
    let close := Token.flowSequenceEnd
    if r.tokens.head? = some close then return ([], r.moveTo r.tokens.tail)
    let r ← r.passComma? first
    match r.tokens with
    | .flowSequenceEnd :: ts => some ([], r.moveTo ts)
    | .key :: ts =>
      let (key, r) ← if (ts.head?.map (endsFlowKey close)) = some true
        then some (Node.leftOut, r.moveTo ts.tail) else readNode handles fuel .flow (r.moveTo ts)
      let (value, r) ← afterColon (endsFlow close) (readNode handles fuel .flow) r
      let (items, r) ← readFlowElements handles fuel false r
      return (.mapping none none [(key, value)] :: items, r)
    | _ =>
      let (item, r) ← readNode handles fuel .flow r
      let (items, r) ← readFlowElements handles fuel false r
      return (item :: items, r)

/-- The fields up to the closing brace. -/
def readFlowFields (handles : Handles) : Nat → Bool → Rest → Option (List (Node × Node) × Rest)
  | 0, _, _ => none
  | fuel + 1, first, r => do
    let close := Token.flowMappingEnd
    if r.tokens.head? = some close then return ([], r.moveTo r.tokens.tail)
    let r ← r.passComma? first
    match r.tokens with
    | .flowMappingEnd :: ts => some ([], r.moveTo ts)
    | .key :: ts =>
      let (key, r) ← orLeftOut (endsFlowKey close) (readNode handles fuel .flow) (r.moveTo ts)
      let (value, r) ← afterColon (endsFlow close) (readNode handles fuel .flow) r
      let (fields, r) ← readFlowFields handles fuel false r
      return ((key, value) :: fields, r)
    | _ =>
      let (key, r) ← readNode handles fuel .flow r
      let (fields, r) ← readFlowFields handles fuel false r
      return ((key, .leftOut) :: fields, r)

end

end Reshape.Yaml
