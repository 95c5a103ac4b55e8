import Reshape.Proofs.Grammar

/-!
# Scripts

A script is a program as it is to be written: with names and strings between quotes, one space
between two tokens, and parentheses only around a phrase that is looser than its place.

* `Word`: a token and a text that spells it. `Word.splits_line`: words with a space between each two
  split into their tokens.
* `Script`: the statements of a program as they are to be written, where numbers are given by their
  digits. `Script.program` is the program that is meant, and `Script.text` its text.
-/

namespace Reshape

/-! ## Words -/

/-- A token and a text that spells it. -/
structure Word where
  text : List Char
  token : Token
  spells : Token.Spells text token

/-- The text of a comparison. -/
def Comparison.text : Comparison → List Char
  | .eq => ['=', '=']
  | .ne => ['!', '=']
  | .lt => ['<']
  | .le => ['<', '=']
  | .gt => ['>']
  | .ge => ['>', '=']

namespace Script

/-- A name of a field that can stand between quotes. -/
structure Name where
  text : String
  unquoted : Token.nameQuote ∉ text.toList

/-- A text of digits and points that starts with a digit and has a value. -/
structure Numeral where
  first : Char
  rest : List Char
  decimal : Decimal
  isDigit_first : isDigit first = true
  isNumberPart_rest : ∀ c ∈ rest, Token.isNumberPart c = true
  ofChars?_eq : Decimal.ofChars? (first :: rest) = some decimal

/-- The number that the digits stand for. -/
def Numeral.value (n : Numeral) : Value := .ofBinary64? n.decimal.nearest?

end Script

namespace Word

def keyword (k : Keyword) : Word := ⟨k.text.toList, .keyword k, .keyword k⟩

def comparison (c : Comparison) : Word :=
  ⟨c.text, .comparison c, .symbol (by cases c <;> decide)⟩

def assign : Word := ⟨['='], .assign, .symbol (by decide)⟩

def plus : Word := ⟨['+'], .plus, .symbol (by decide)⟩

def minus : Word := ⟨['-'], .minus, .symbol (by decide)⟩

def comma : Word := ⟨[','], .comma, .symbol (by decide)⟩

def openParen : Word := ⟨['('], .openParen, .symbol (by decide)⟩

def closeParen : Word := ⟨[')'], .closeParen, .symbol (by decide)⟩

/-- A character of a string between single quotes: quotes and backslashes follow a backslash. -/
def escape (c : Char) : List Char := if c = '\'' ∨ c = '\\' then ['\\', c] else [c]

theorem quotes_flatMap_escape (s : List Char) : Token.Quotes '\'' (s.flatMap escape) s := by
  induction s with
  | nil => exact .nil
  | cons c s ih =>
    rw [List.flatMap_cons, escape]
    split
    · rename_i hc
      have hescaped := Token.Quotes.escape c ih
      have hplain : Token.unescape c = c := by obtain rfl | rfl := hc <;> decide
      rwa [hplain] at hescaped
    · rename_i hc
      exact .plain c (fun h => hc (.inl h)) (fun h => hc (.inr h)) ih

def string (s : String) : Word where
  text := '\'' :: (s.toList.flatMap escape ++ ['\''])
  token := .literal (.string s)
  spells := by
    have h := Token.Spells.string '\'' (.inl rfl) (quotes_flatMap_escape s.toList)
    rwa [String.ofList_toList] at h

def name (n : Script.Name) : Word where
  text := Token.nameQuote :: (n.text.toList ++ [Token.nameQuote])
  token := .field n.text
  spells := by
    have h := Token.Spells.quotedName n.unquoted
    rwa [String.ofList_toList] at h

def numeral (n : Script.Numeral) : Word :=
  ⟨n.first :: n.rest, .literal n.value,
    Token.spells_number n.isDigit_first n.isNumberPart_rest n.ofChars?_eq⟩

/-- The words with a space between each two. -/
def line (ws : List Word) : List Char := [' '].intercalate (ws.map text)

end Word

/-! ### What words split into -/

/-- No token goes on with the character. -/
def Token.Separates (c : Char) : Prop := ∀ text, ¬ Prolongs c text

theorem Token.separates_of_classes {c : Char} (hd : isNumberPart c = false)
    (hn : isNamePart c = false) (he : c ≠ '=') : Separates c := by
  intro text h
  cases text with
  | nil => exact h
  | cons d ds =>
    rw [Prolongs] at h
    split at h
    · simp [hd] at h
    · split at h
      · simp [hn] at h
      · exact he h.2.2

/-- Blanks separate tokens. -/
theorem Token.separates_of_isBlank {c : Char} (h : Text.isBlank c = true) : Separates c := by
  have classes : ∀ n ∈ Text.codes Text.blankRanges,
      Text.inRanges Text.numericRanges n = false ∧ n ≠ '.'.toNat ∧ n ≠ '='.toNat := by
    decide +kernel
  obtain ⟨hnumeric, hpoint, hequals⟩ := classes _ (Text.mem_codes_of_inRanges h)
  obtain ⟨hdigit, hstart⟩ := classes_of_isBlank h
  obtain ⟨halpha, hunderscore⟩ := Bool.or_eq_false_iff.1 hstart
  refine separates_of_classes ?_ ?_ fun he => hequals (congrArg Char.toNat he)
  · rw [isNumberPart, hdigit, Bool.false_or, beq_eq_false_iff_ne]
    exact fun he => hpoint (congrArg Char.toNat he)
  · rw [isNamePart, halpha, Text.isNumeric, hnumeric, hunderscore]
    rfl

namespace Splits

variable {cs ds : List Char} {ts us : List Token}

/-- Two texts, the second of which starts with what separates tokens. -/
theorem append (h : Splits cs ts) (hd : ∀ c ∈ ds.head?, Token.Separates c) (h' : Splits ds us) :
    Splits (cs ++ ds) (ts ++ us) := by
  induction h with
  | nil => exact h'
  | blank hb _ ih => exact .blank hb ih
  | @token text t rest ts hspells hp _ ih =>
    rw [List.append_assoc, List.cons_append]
    refine .token hspells (fun c hc => ?_) ih
    cases rest with
    | nil => exact hd c hc text
    | cons d rest => exact hp c hc

/-- Blanks before a text. -/
theorem blanks_append (h : Splits ds us) (hb : ∀ c ∈ cs, Text.isBlank c = true) :
    Splits (cs ++ ds) us := by
  induction cs with
  | nil => exact h
  | cons c cs ih =>
    exact .blank (hb c List.mem_cons_self) (ih fun d hd => hb d (List.mem_cons_of_mem c hd))

end Splits

theorem Word.splits (w : Word) : Splits w.text [w.token] := by
  have h : Splits (w.text ++ []) [w.token] := .token w.spells (by simp) .nil
  rwa [List.append_nil] at h

/-- Words with a space between each two split into their tokens. -/
theorem Word.splits_line (ws : List Word) : Splits (line ws) (ws.map token) := by
  induction ws with
  | nil => exact .nil
  | cons w ws ih =>
    cases ws with
    | nil =>
      rw [line, List.map_singleton, List.map_singleton, List.intercalate_singleton]
      exact w.splits
    | cons v ws =>
      have hspace : Text.isBlank ' ' = true := by decide
      rw [line, List.map_cons, List.map_cons, List.intercalate_cons_cons, List.append_assoc]
      refine w.splits.append (fun c hc => ?_) (.blank hspace ih)
      cases hc
      exact Token.separates_of_isBlank hspace

/-! ## Scripts -/

/-- The level of the phrases that an operator makes. -/
def BinaryOp.level : BinaryOp → Level
  | .or => .or
  | .and => .and
  | .compare _ => .comparison
  | .add | .sub => .sum

/-- The level of the left operand: that of the operator where operands are joined to the left. -/
def BinaryOp.leftLevel : BinaryOp → Level
  | .or => .or
  | .and => .and
  | .compare _ | .add | .sub => .sum

/-- The level of the right operand. -/
def BinaryOp.rightLevel : BinaryOp → Level
  | .or => .and
  | .and => .not
  | .compare _ => .sum
  | .add | .sub => .unary

/-- How an operator is written. -/
def BinaryOp.word : BinaryOp → Word
  | .or => .keyword .or
  | .and => .keyword .and
  | .compare c => .comparison c
  | .add => .plus
  | .sub => .minus

namespace Script

inductive Literal
  | string (s : String)
  | number (n : Numeral)
  | true | false | null

/-- An expression as it is to be written. -/
inductive Expr
  | literal (l : Literal)
  | field (name : Name)
  | not (e : Expr)
  | neg (e : Expr)
  | binary (op : BinaryOp) (l r : Expr)

inductive Action
  | assign (field : Name) (e : Expr)
  | delete (field : Name)

inductive Statement
  | action (a : Action)
  /-- Without an `else` if the second list is empty. -/
  | branch (condition : Expr) (yes no : List Action) (nonempty : yes ≠ [])

end Script

/-- A program as it is to be written. -/
structure Script where
  statements : List Script.Statement
  nonempty : statements ≠ []

namespace Script

/-! ### What is meant -/

def Literal.value : Literal → Value
  | .string s => .string s
  | .number n => n.value
  | .true => .bool Bool.true
  | .false => .bool Bool.false
  | .null => .null

/-- The expression that is meant. -/
def Expr.toExpr : Expr → Reshape.Expr
  | .literal l => .literal l.value
  | .field n => .field n.text
  | .not e => .not e.toExpr
  | .neg e => .neg e.toExpr
  | .binary op l r => .binary op l.toExpr r.toExpr

def Action.toAction : Action → Reshape.Action
  | .assign n e => .assign n.text e.toExpr
  | .delete n => .delete n.text

def Statement.toStatement : Statement → Reshape.Statement
  | .action a => .action a.toAction
  | .branch e yes no _ => .branch e.toExpr (yes.map Action.toAction) (no.map Action.toAction)

/-- The program that is meant. -/
def program (p : Script) : Program := p.statements.map Statement.toStatement

/-! ### How it is written -/

def Literal.word : Literal → Word
  | .string s => .string s
  | .number n => .numeral n
  | .true => .keyword .true
  | .false => .keyword .false
  | .null => .keyword .null

/-- The words of a phrase of the level `m` in a place for phrases of the level `l`: between
parentheses if it is looser than that. -/
def enclose (l m : Level) (ws : List Word) : List Word :=
  if m.rank ≤ l.rank then ws else .openParen :: (ws ++ [.closeParen])

/-- The level of the phrase that an expression is written as. -/
def Expr.level : Expr → Level
  | .literal _ | .field _ => .primary
  | .not _ => .not
  | .neg _ => .unary
  | .binary op _ _ => op.level

/-- The words of an expression, without parentheses around it. -/
def Expr.phrase : Expr → List Word
  | .literal v => [v.word]
  | .field n => [.name n]
  | .not e => .keyword .not :: enclose .not e.level e.phrase
  | .neg e => .minus :: enclose .unary e.level e.phrase
  | .binary op a b =>
    enclose op.leftLevel a.level a.phrase ++ op.word :: enclose op.rightLevel b.level b.phrase

/-- The words of an expression in a place for phrases of the level. -/
def Expr.words (e : Expr) (l : Level) : List Word := enclose l e.level e.phrase

def Action.words : Action → List Word
  | .assign n e => .name n :: .assign :: e.words .or
  | .delete n => [.keyword .delete, .name n]

/-- The words of actions separated by commas. -/
def Action.listWords (as : List Action) : List Word := [Word.comma].intercalate (as.map words)

def Statement.words : Statement → List Word
  | .action a => a.words
  | .branch e yes no _ =>
    .keyword .if :: (e.words .or ++ .keyword .then :: (Action.listWords yes ++
      if no = [] then [] else .keyword .else :: Action.listWords no))

/-- The text of the program. Before and after the semicolons that join the statements stand the
given texts. -/
def text (before after : List Char) (p : Script) : String :=
  .ofList ((before ++ ';' :: after).intercalate (p.statements.map fun s => Word.line s.words))

end Script

end Reshape
