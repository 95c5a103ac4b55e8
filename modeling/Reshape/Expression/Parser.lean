import Reshape.Expression.Token

/-!
# Reading programs

A reader takes tokens and either gives what it read and the tokens after it, or a cause and the
tokens from the one that does not fit.

* `Expr.readWith`: the levels of precedence, from `or` down to `primary`, over a reader for what
  stands between parentheses.
* `Expr.read`, `Statement.read`, `Program.read`: readers of tokens.
* `Program.parse`: the program of a text, or the first syntax error in it.
-/

namespace Reshape

/-- What a reader makes of tokens. -/
abbrev Reading (α : Type) := Except (SyntaxCause × List Token) (α × List Token)

/-- A reader of tokens. -/
abbrev Reader (α : Type) := List Token → Reading α

/-- Changes what was read. -/
def Reading.map (f : α → β) : Reading α → Reading β
  | .error e => .error e
  | .ok (a, ts) => .ok (f a, ts)

namespace Expr

/-! ## Levels of precedence -/

section Levels

variable (inner : Reader Expr)

/-- A literal, a field, or what `inner` reads between parentheses. -/
def readPrimary : Reader Expr
  | [] => .error (.unexpectedEnd, [])
  | .literal v :: ts => .ok (.literal v, ts)
  | .field name :: ts => .ok (.field name, ts)
  | .keyword .true :: ts => .ok (.literal (.bool true), ts)
  | .keyword .false :: ts => .ok (.literal (.bool false), ts)
  | .keyword .null :: ts => .ok (.literal .null, ts)
  | .keyword k :: ts => .error (.unexpectedKeyword k, .keyword k :: ts)
  | .openParen :: ts =>
    match inner ts with
    | .error e => .error e
    | .ok (e, .closeParen :: ts) => .ok (e, ts)
    | .ok (_, ts) => .error (.expectedClose, ts)
  | t :: ts => .error (.expectedValue, t :: ts)

/-- Any number of minus signs before a primary expression. -/
def readUnary : Reader Expr
  | .minus :: ts => Reading.map .neg (readUnary ts)
  | ts => readPrimary inner ts

/-- Operands joined to the left by the operators that `op?` knows, at most `fuel` of them. -/
def readChain (op? : Token → Option BinaryOp) (operand : Reader Expr) : Nat → Expr → Reader Expr
  | fuel + 1, left, t :: ts =>
    match op? t with
    | none => .ok (left, t :: ts)
    | some op => match operand ts with
      | .error e => .error e
      | .ok (right, ts) => readChain op? operand fuel (.binary op left right) ts
  | _, left, ts => .ok (left, ts)

/-- One operand and those joined to it. -/
def readJoined (op? : Token → Option BinaryOp) (operand : Reader Expr) : Reader Expr := fun ts =>
  match operand ts with
  | .error e => .error e
  | .ok (left, ts) => readChain op? operand ts.length left ts

def sumOp? : Token → Option BinaryOp
  | .plus => some .add
  | .minus => some .sub
  | _ => none

def andOp? : Token → Option BinaryOp
  | .keyword .and => some .and
  | _ => none

def orOp? : Token → Option BinaryOp
  | .keyword .or => some .or
  | _ => none

def readSum : Reader Expr := readJoined sumOp? (readUnary inner)

/-- A sum, or two of them compared. -/
def readComparison : Reader Expr := fun ts =>
  match readSum inner ts with
  | .error e => .error e
  | .ok (left, .comparison c :: ts) => Reading.map (.binary (.compare c) left) (readSum inner ts)
  | .ok (left, ts) => .ok (left, ts)

/-- Any number of `not` before a comparison. -/
def readNot : Reader Expr
  | .keyword .not :: ts => Reading.map .not (readNot ts)
  | ts => readComparison inner ts

def readAnd : Reader Expr := readJoined andOp? (readNot inner)

/-- An expression with what `inner` reads between parentheses. -/
def readWith : Reader Expr := readJoined orOp? (readAnd inner)

end Levels

/-- An expression with parentheses nested less than `depth` deep. -/
def readNested : Nat → Reader Expr
  | 0, ts => .error (.expectedValue, ts)
  | depth + 1, ts => readWith (readNested depth) ts

/-- An expression. Parentheses nest less deep than there are tokens. -/
def read : Reader Expr := fun ts => readNested (ts.length + 1) ts

end Expr

namespace Action

def readFieldName : Reader String
  | .field name :: ts => .ok (name, ts)
  | ts => .error (.expectedFieldName, ts)

/-- A deletion or an assignment. -/
def read : Reader Action
  | .keyword .delete :: ts => Reading.map .delete (readFieldName ts)
  | ts => match readFieldName ts with
    | .error e => .error e
    | .ok (name, .assign :: ts) => Reading.map (.assign name) (Expr.read ts)
    | .ok (_, ts) => .error (.expectedAssign, ts)

/-- Actions separated by commas, at most `fuel + 1` of them. -/
def readListWith : Nat → Reader (List Action)
  | 0, ts => Reading.map (fun a => [a]) (read ts)
  | fuel + 1, ts => match read ts with
    | .error e => .error e
    | .ok (a, .comma :: ts) => Reading.map (a :: ·) (readListWith fuel ts)
    | .ok (a, ts) => .ok ([a], ts)

/-- Actions separated by commas. -/
def readList : Reader (List Action) := fun ts => readListWith ts.length ts

end Action

/-- A statement. -/
def Statement.read : Reader Statement
  | .keyword .if :: ts => match Expr.read ts with
    | .error e => .error e
    | .ok (condition, .keyword .then :: ts) => match Action.readList ts with
      | .error e => .error e
      | .ok (yes, .keyword .else :: ts) => Reading.map (.branch condition yes) (Action.readList ts)
      | .ok (yes, ts) => .ok (.branch condition yes [], ts)
    | .ok (_, ts) => .error (.expectedThen, ts)
  | ts => Reading.map .action (Action.read ts)

namespace Program

/-- Statements separated by semicolons, of which more may stand anywhere between statements, up to
the end of the tokens; at most `fuel` steps. -/
def readWith : Nat → List Token → Except (SyntaxCause × List Token) Program
  | _, [] => .ok []
  | 0, ts => .error (.expectedSemicolon, ts)
  | fuel + 1, .semicolon :: ts => readWith fuel ts
  | fuel + 1, ts => match Statement.read ts with
    | .error e => .error e
    | .ok (s, []) => .ok [s]
    | .ok (s, .semicolon :: ts) => (readWith fuel ts).map (s :: ·)
    | .ok (_, ts) => .error (.expectedSemicolon, ts)

/-- The statements that all of the tokens make. -/
def read (ts : List Token) : Except (SyntaxCause × List Token) Program := readWith ts.length ts

/-- The offset at which the last `count` tokens start. -/
def offsetOfRest (text : String) (lexemes : List Lexeme) (count : Nat) : Nat :=
  match lexemes.drop (lexemes.length - count) with
  | l :: _ => l.offset
  | [] => byteLength text.toList

/-- The program of a text, which has at least one statement. -/
def parse (text : String) : Except SyntaxError Program :=
  match Lexeme.scan text with
  | .error e => .error e
  | .ok lexemes => match read (lexemes.map (·.token)) with
    | .error (cause, rest) => .error ⟨offsetOfRest text lexemes rest.length, cause⟩
    | .ok [] => .error ⟨0, .emptyProgram⟩
    | .ok program => .ok program

end Program

end Reshape
