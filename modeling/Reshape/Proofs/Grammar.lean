import Reshape.Expression.Parser
import Reshape.Proofs.Spelling

/-!
# The grammar of programs

The grammar is given as derivations of lists of tokens, and the readers are proved to be its
decision procedure. A derivation at a level of precedence is written on the left where operands are
joined to the left, so that the tree it carries is the only one its tokens have.

* `Expr.Derives`: the productions of expressions, from `or` down to `primary`.
* `Action.Derives`, `Action.ListDerives`, `Statement.Derives`, `Program.Derives`: the others.
* `Reader.Sound`: what a reader has read derives, which `Expr.sound_read`, `Action.sound_read` and
  `Statement.sound_read` say of the readers.
* `Level.resume`: a level that joins operands goes on with what follows a phrase of it.
  `Expr.Derives.read_eq`: a phrase is read, and reading resumes after it.
* `Program.read_eq_ok_iff`: tokens are read as a program exactly if they derive it.
* `Program.parse_eq_ok_iff`: a text is a program exactly if it splits into tokens that derive it.
-/

namespace Reshape

/-! ## Productions -/

/-- The levels of precedence, from the one that joins most loosely. -/
inductive Level
  | or | and | not | comparison | sum | unary | primary
  deriving DecidableEq

/-- The tokens are a phrase of the level, and this is its tree. -/
inductive Expr.Derives : Level → List Token → Expr → Prop
  -- or := and ('or' and)*
  | or_operand : Derives .and ts e → Derives .or ts e
  | or_join : Derives .or ts l → Derives .and us r →
      Derives .or (ts ++ .keyword .or :: us) (.binary .or l r)
  -- and := not ('and' not)*
  | and_operand : Derives .not ts e → Derives .and ts e
  | and_join : Derives .and ts l → Derives .not us r →
      Derives .and (ts ++ .keyword .and :: us) (.binary .and l r)
  -- not := 'not' not | comparison
  | not : Derives .not ts e → Derives .not (.keyword .not :: ts) (.not e)
  | not_operand : Derives .comparison ts e → Derives .not ts e
  -- comparison := sum (('==' | '!=' | '<' | '<=' | '>' | '>=') sum)?
  | comparison_operand : Derives .sum ts e → Derives .comparison ts e
  | compare (c : Comparison) : Derives .sum ts l → Derives .sum us r →
      Derives .comparison (ts ++ .comparison c :: us) (.binary (.compare c) l r)
  -- sum := unary (('+' | '-') unary)*
  | sum_operand : Derives .unary ts e → Derives .sum ts e
  | add : Derives .sum ts l → Derives .unary us r →
      Derives .sum (ts ++ .plus :: us) (.binary .add l r)
  | sub : Derives .sum ts l → Derives .unary us r →
      Derives .sum (ts ++ .minus :: us) (.binary .sub l r)
  -- unary := '-' unary | primary
  | neg : Derives .unary ts e → Derives .unary (.minus :: ts) (.neg e)
  | unary_operand : Derives .primary ts e → Derives .unary ts e
  -- primary := string | number | 'true' | 'false' | 'null' | field | '(' expr ')'
  | literal (v : Value) : Derives .primary [.literal v] (.literal v)
  | true : Derives .primary [.keyword .true] (.literal (.bool Bool.true))
  | false : Derives .primary [.keyword .false] (.literal (.bool Bool.false))
  | null : Derives .primary [.keyword .null] (.literal .null)
  | field (name : String) : Derives .primary [.field name] (.field name)
  | parens : Derives .or ts e → Derives .primary (.openParen :: (ts ++ [.closeParen])) e

/-- The tokens are an action. -/
inductive Action.Derives : List Token → Action → Prop
  | assign (name : String) : Expr.Derives .or ts e →
      Derives (.field name :: .assign :: ts) (.assign name e)
  | delete (name : String) : Derives [.keyword .delete, .field name] (.delete name)

/-- The tokens are actions separated by commas. -/
inductive Action.ListDerives : List Token → List Action → Prop
  | last : Action.Derives ts a → ListDerives ts [a]
  | cons : Action.Derives ts a → ListDerives us as → ListDerives (ts ++ .comma :: us) (a :: as)

/-- The tokens are a statement. -/
inductive Statement.Derives : List Token → Statement → Prop
  | action : Action.Derives ts a → Derives ts (.action a)
  | branch : Expr.Derives .or ts e → Action.ListDerives us yes →
      Derives (.keyword .if :: (ts ++ .keyword .then :: us)) (.branch e yes [])
  | branch_else :
      Expr.Derives .or ts e → Action.ListDerives us yes → Action.ListDerives vs no →
      Derives (.keyword .if :: (ts ++ .keyword .then :: (us ++ .keyword .else :: vs)))
        (.branch e yes no)

/-- The tokens are statements with at least one semicolon between each two, and any number of
semicolons before, between and after them. -/
inductive Program.Derives : List Token → Program → Prop
  | nil : Derives [] []
  | semicolon : Derives ts p → Derives (.semicolon :: ts) p
  | last : Statement.Derives ts s → Derives ts [s]
  | cons : Statement.Derives ts s → Derives us p → Derives (ts ++ .semicolon :: us) (s :: p)

namespace Expr.Derives

variable {t : Token} {op : BinaryOp} {ts us : List Token} {a b : Expr}

theorem join_of_orOp? (h : orOp? t = some op) (ha : Derives .or ts a) (hb : Derives .and us b) :
    Derives .or (ts ++ t :: us) (.binary op a b) := by
  unfold orOp? at h
  split at h <;> cases h
  exact .or_join ha hb

theorem join_of_andOp? (h : andOp? t = some op) (ha : Derives .and ts a) (hb : Derives .not us b) :
    Derives .and (ts ++ t :: us) (.binary op a b) := by
  unfold andOp? at h
  split at h <;> cases h
  exact .and_join ha hb

theorem join_of_sumOp? (h : sumOp? t = some op) (ha : Derives .sum ts a)
    (hb : Derives .unary us b) : Derives .sum (ts ++ t :: us) (.binary op a b) := by
  unfold sumOp? at h
  split at h <;> cases h
  · exact .add ha hb
  · exact .sub ha hb

end Expr.Derives

/-! ## What is read derives -/

/-- Whatever the reader reads derives from the tokens it has passed. -/
def Reader.Sound (read : Reader α) (D : List Token → α → Prop) : Prop :=
  ∀ {ts a rest}, read ts = .ok (a, rest) → ∃ used, ts = used ++ rest ∧ D used a

theorem Reading.map_eq_ok {f : α → β} {r : Reading α} {b : β} {rest : List Token}
    (h : r.map f = .ok (b, rest)) : ∃ a, r = .ok (a, rest) ∧ f a = b := by
  cases r with
  | error e => cases h
  | ok p =>
    obtain ⟨a, us⟩ := p
    injection h with h
    obtain ⟨rfl, rfl⟩ := Prod.mk.inj h
    exact ⟨a, rfl, rfl⟩

/-- A sound reader leaves no more tokens than there were. -/
theorem Reader.Sound.length_le {read : Reader α} {D : List Token → α → Prop}
    (hs : Reader.Sound read D) (h : read ts = .ok (a, rest)) : rest.length ≤ ts.length := by
  obtain ⟨used, rfl, -⟩ := hs h
  simp

namespace Expr

section Levels

variable {inner : Reader Expr}

theorem sound_readPrimary (hi : Reader.Sound inner (Derives .or)) :
    Reader.Sound (readPrimary inner) (Derives .primary) := by
  intro ts e rest h
  unfold readPrimary at h
  split at h
  case h_2 v ts => cases h; exact ⟨[.literal v], rfl, .literal v⟩
  case h_3 name ts => cases h; exact ⟨[.field name], rfl, .field name⟩
  case h_4 ts => cases h; exact ⟨[.keyword .true], rfl, .true⟩
  case h_5 ts => cases h; exact ⟨[.keyword .false], rfl, .false⟩
  case h_6 ts => cases h; exact ⟨[.keyword .null], rfl, .null⟩
  case h_8 ts =>
    split at h
    · cases h
    · rename_i e' us he
      cases h
      obtain ⟨used, rfl, hd⟩ := hi he
      exact ⟨.openParen :: (used ++ [.closeParen]), by simp, .parens hd⟩
    · cases h
  all_goals cases h

theorem sound_readUnary (hi : Reader.Sound inner (Derives .or)) :
    Reader.Sound (readUnary inner) (Derives .unary) := by
  intro ts
  induction ts using readUnary.induct with
  | case1 ts ih =>
    intro e rest h
    rw [readUnary] at h
    obtain ⟨a, ha, rfl⟩ := Reading.map_eq_ok h
    obtain ⟨used, rfl, hd⟩ := ih ha
    exact ⟨.minus :: used, rfl, .neg hd⟩
  | case2 ts hts =>
    intro e rest h
    rw [readUnary] at h
    · obtain ⟨used, rfl, hd⟩ := sound_readPrimary hi h
      exact ⟨used, rfl, .unary_operand hd⟩
    · exact hts

/-- Operands joined by operators are sound if the level has both productions: an operand alone, and
a phrase joined to one more operand. -/
theorem sound_readJoined {op? : Token → Option BinaryOp} {operand : Reader Expr} {l m : Level}
    (one : ∀ {ts e}, Derives m ts e → Derives l ts e)
    (more : ∀ {ts us t op a b}, op? t = some op → Derives l ts a → Derives m us b →
      Derives l (ts ++ t :: us) (.binary op a b))
    (ho : Reader.Sound operand (Derives m)) :
    Reader.Sound (readJoined op? operand) (Derives l) := by
  -- The chain has already read the phrase `left` from the tokens `used`.
  have chain : ∀ fuel left ts e rest used, Derives l used left →
      readChain op? operand fuel left ts = .ok (e, rest) →
        ∃ more, ts = more ++ rest ∧ Derives l (used ++ more) e := by
    intro fuel left ts
    induction fuel, left, ts using readChain.induct op? operand with
    | case1 fuel left t ts hop =>
      intro e rest used hl h
      simp only [readChain, hop, Except.ok.injEq, Prod.mk.injEq] at h
      obtain ⟨rfl, rfl⟩ := h
      exact ⟨[], rfl, by simpa using hl⟩
    | case2 fuel left t ts op hop error he =>
      intro e rest used hl h
      simp [readChain, hop, he] at h
    | case3 fuel left t ts op hop right us he ih =>
      intro e rest used hl h
      simp only [readChain, hop, he] at h
      obtain ⟨passed, rfl, hr⟩ := ho he
      obtain ⟨later, rfl, hd⟩ := ih e rest _ (more hop hl hr) h
      exact ⟨t :: (passed ++ later), by simp, by simpa using hd⟩
    | case4 fuel left ts hts =>
      intro e rest used hl h
      rw [readChain] at h
      · injection h with h
        obtain ⟨rfl, rfl⟩ := Prod.mk.inj h
        exact ⟨[], rfl, by simpa using hl⟩
      · exact hts
  intro ts e rest h
  unfold readJoined at h
  split at h
  · cases h
  · rename_i left us he
    obtain ⟨used, rfl, hd⟩ := ho he
    obtain ⟨later, rfl, hd'⟩ := chain _ _ _ _ _ _ (one hd) h
    exact ⟨used ++ later, by simp, hd'⟩

theorem sound_readSum (hi : Reader.Sound inner (Derives .or)) :
    Reader.Sound (readSum inner) (Derives .sum) :=
  sound_readJoined .sum_operand .join_of_sumOp? (sound_readUnary hi)

theorem sound_readComparison (hi : Reader.Sound inner (Derives .or)) :
    Reader.Sound (readComparison inner) (Derives .comparison) := by
  intro ts e rest h
  unfold readComparison at h
  split at h
  · cases h
  · rename_i left c us he
    obtain ⟨used, rfl, hl⟩ := sound_readSum hi he
    obtain ⟨right, hr, rfl⟩ := Reading.map_eq_ok h
    obtain ⟨used', rfl, hd⟩ := sound_readSum hi hr
    exact ⟨used ++ .comparison c :: used', by simp, .compare c hl hd⟩
  · rename_i left us _ he
    cases h
    obtain ⟨used, rfl, hl⟩ := sound_readSum hi he
    exact ⟨used, rfl, .comparison_operand hl⟩

theorem sound_readNot (hi : Reader.Sound inner (Derives .or)) :
    Reader.Sound (readNot inner) (Derives .not) := by
  intro ts
  induction ts using readNot.induct with
  | case1 ts ih =>
    intro e rest h
    rw [readNot] at h
    obtain ⟨a, ha, rfl⟩ := Reading.map_eq_ok h
    obtain ⟨used, rfl, hd⟩ := ih ha
    exact ⟨.keyword .not :: used, rfl, .not hd⟩
  | case2 ts hts =>
    intro e rest h
    rw [readNot] at h
    · obtain ⟨used, rfl, hd⟩ := sound_readComparison hi h
      exact ⟨used, rfl, .not_operand hd⟩
    · exact hts

theorem sound_readAnd (hi : Reader.Sound inner (Derives .or)) :
    Reader.Sound (readAnd inner) (Derives .and) :=
  sound_readJoined .and_operand .join_of_andOp? (sound_readNot hi)

theorem sound_readWith (hi : Reader.Sound inner (Derives .or)) :
    Reader.Sound (readWith inner) (Derives .or) :=
  sound_readJoined .or_operand .join_of_orOp? (sound_readAnd hi)

end Levels

theorem sound_readNested : ∀ depth, Reader.Sound (readNested depth) (Derives .or)
  | 0 => fun h => nomatch h
  | depth + 1 => sound_readWith (sound_readNested depth)

theorem sound_read : Reader.Sound read (Derives .or) := sound_readNested _

end Expr

theorem Action.sound_readFieldName :
    Reader.Sound readFieldName (fun ts name => ts = [.field name]) := by
  intro ts name rest h
  unfold readFieldName at h
  split at h <;> cases h
  exact ⟨[.field name], rfl, rfl⟩

theorem Action.sound_read : Reader.Sound read Derives := by
  intro ts a rest h
  unfold read at h
  split at h
  · obtain ⟨name, hn, rfl⟩ := Reading.map_eq_ok h
    obtain ⟨_, rfl, rfl⟩ := sound_readFieldName hn
    exact ⟨[.keyword .delete, .field name], rfl, .delete name⟩
  · split at h
    · cases h
    · rename_i name us hn
      obtain ⟨_, rfl, rfl⟩ := sound_readFieldName hn
      obtain ⟨e, he, rfl⟩ := Reading.map_eq_ok h
      obtain ⟨used, rfl, hd⟩ := Expr.sound_read he
      exact ⟨.field name :: .assign :: used, rfl, .assign name hd⟩
    · cases h

theorem Action.sound_readListWith (fuel : Nat) : Reader.Sound (readListWith fuel) ListDerives := by
  induction fuel with
  | zero =>
    intro ts as rest h
    obtain ⟨a, ha, rfl⟩ := Reading.map_eq_ok h
    obtain ⟨used, rfl, hd⟩ := sound_read ha
    exact ⟨used, rfl, .last hd⟩
  | succ fuel ih =>
    intro ts as rest h
    unfold readListWith at h
    split at h
    · cases h
    · rename_i a us ha
      obtain ⟨used, rfl, hd⟩ := sound_read ha
      obtain ⟨as, has, rfl⟩ := Reading.map_eq_ok h
      obtain ⟨later, rfl, hl⟩ := ih has
      exact ⟨used ++ .comma :: later, by simp, .cons hd hl⟩
    · rename_i a us _ ha
      cases h
      obtain ⟨used, rfl, hd⟩ := sound_read ha
      exact ⟨used, rfl, .last hd⟩

theorem Action.sound_readList : Reader.Sound readList ListDerives := sound_readListWith _

theorem Statement.sound_read : Reader.Sound read Derives := by
  intro ts s rest h
  unfold read at h
  split at h
  · split at h
    · cases h
    · rename_i condition us hc
      obtain ⟨used, rfl, hd⟩ := Expr.sound_read hc
      split at h
      · cases h
      · rename_i yes vs hy
        obtain ⟨used', rfl, hy'⟩ := Action.sound_readList hy
        obtain ⟨no, hn, rfl⟩ := Reading.map_eq_ok h
        obtain ⟨used'', rfl, hn'⟩ := Action.sound_readList hn
        exact ⟨.keyword .if :: (used ++ .keyword .then :: (used' ++ .keyword .else :: used'')),
          by simp, .branch_else hd hy' hn'⟩
      · rename_i yes vs _ hy
        cases h
        obtain ⟨used', rfl, hy'⟩ := Action.sound_readList hy
        exact ⟨.keyword .if :: (used ++ .keyword .then :: used'), by simp, .branch hd hy'⟩
    · cases h
  · obtain ⟨a, ha, rfl⟩ := Reading.map_eq_ok h
    obtain ⟨used, rfl, hd⟩ := Action.sound_read ha
    exact ⟨used, rfl, .action hd⟩

theorem Program.derives_of_readWith {fuel : Nat} {ts : List Token} {p : Program}
    (h : readWith fuel ts = .ok p) : Derives ts p := by
  induction fuel, ts using readWith.induct generalizing p with
  | case1 fuel => rw [readWith] at h; cases h; exact .nil
  | case2 ts hts => rw [readWith] at h; exact nomatch h; exact hts
  | case3 fuel ts ih => rw [readWith] at h; exact .semicolon (ih h)
  | case4 fuel ts hts hsemi error hs => simp [readWith, hs] at h
  | case5 fuel ts hts hsemi s hs =>
    simp only [readWith, hs] at h
    cases h
    obtain ⟨used, rfl, hd⟩ := Statement.sound_read hs
    simpa using Derives.last hd
  | case6 fuel ts hts hsemi s us hs ih =>
    simp only [readWith, hs] at h
    cases hp : readWith fuel us with
    | error e => simp [hp, Except.map] at h
    | ok q =>
      simp only [hp, Except.map, Except.ok.injEq] at h
      obtain ⟨used, rfl, hd⟩ := Statement.sound_read hs
      exact h ▸ .cons hd (ih hp)
  | case7 fuel ts hts hsemi s us _ _ hs => simp [readWith, hs] at h

/-! ## What derives is read -/

/-- The tightest level of which a phrase can begin with the token. -/
def Token.begins? : Token → Option Level
  | .literal _ | .field _ | .keyword .true | .keyword .false | .keyword .null | .openParen =>
    some .primary
  | .minus => some .unary
  | .keyword .not => some .not
  | _ => none

/-- The level at which a token joins two phrases. -/
def Token.joins? : Token → Option Level
  | .plus | .minus => some .sum
  | .comparison _ => some .comparison
  | .keyword .and => some .and
  | .keyword .or => some .or
  | _ => none

namespace Level

/-- How loosely a level joins. -/
def rank : Level → Nat
  | .primary => 0
  | .unary => 1
  | .sum => 2
  | .comparison => 3
  | .not => 4
  | .and => 5
  | .or => 6

/-- A phrase of the level can begin as the tokens do. -/
def Begins (l : Level) (ts : List Token) : Prop :=
  ∃ t ∈ ts.head?, ∃ m ∈ t.begins?, m.rank ≤ l.rank

/-- What follows a phrase does not join it to another one at the level or at a tighter one. -/
def Ends (l : Level) (rest : List Token) : Prop :=
  ∀ t ∈ rest.head?, ∀ m ∈ t.joins?, l.rank < m.rank

theorem Begins.of_le {l m : Level} {ts : List Token} (h : l.Begins ts) (hm : l.rank ≤ m.rank) :
    m.Begins ts := by
  obtain ⟨t, ht, k, hk, hle⟩ := h
  exact ⟨t, ht, k, hk, Nat.le_trans hle hm⟩

theorem Begins.append {l : Level} {ts : List Token} (h : l.Begins ts) (us : List Token) :
    l.Begins (ts ++ us) := by
  obtain ⟨t, ht, hb⟩ := h
  exact ⟨t, by simp [Option.mem_def.1 ht], hb⟩

theorem Ends.of_le {l m : Level} {rest : List Token} (h : l.Ends rest) (hm : m.rank ≤ l.rank) :
    m.Ends rest :=
  fun t ht k hk => Nat.lt_of_le_of_lt hm (h t ht k hk)

theorem ends_cons {l : Level} {t : Token} {ts : List Token}
    (h : ∀ m ∈ t.joins?, l.rank < m.rank) : l.Ends (t :: ts) := by
  intro u hu
  simp only [List.head?_cons, Option.mem_some] at hu
  exact hu ▸ h

variable (inner : Reader Expr)

/-- The reader of a level. -/
def read : Level → Reader Expr
  | .or => Expr.readWith inner
  | .and => Expr.readAnd inner
  | .not => Expr.readNot inner
  | .comparison => Expr.readComparison inner
  | .sum => Expr.readSum inner
  | .unary => Expr.readUnary inner
  | .primary => Expr.readPrimary inner

/-- What is left to do after a phrase of the level: where operands are joined, to go on with the
operators that follow. -/
def resume (l : Level) (e : Expr) : Reader Expr := fun rest =>
  match l with
  | .or => Expr.readChain Expr.orOp? (Expr.readAnd inner) rest.length e rest
  | .and => Expr.readChain Expr.andOp? (Expr.readNot inner) rest.length e rest
  | .sum => Expr.readChain Expr.sumOp? (Expr.readUnary inner) rest.length e rest
  | _ => .ok (e, rest)

/-- The level of the operands that a level joins; a level that joins none is its own. -/
def operand : Level → Level
  | .or => .and
  | .and => .not
  | .sum => .unary
  | l => l

theorem rank_operand_le (l : Level) : l.operand.rank ≤ l.rank := by cases l <;> decide

end Level

namespace Expr

theorem Derives.begins {l : Level} {ts : List Token} {e : Expr} (h : Derives l ts e) :
    l.Begins ts := by
  induction h with
  | or_operand _ ih | and_operand _ ih | not_operand _ ih | comparison_operand _ ih
  | sum_operand _ ih | unary_operand _ ih => exact ih.of_le (by decide)
  | or_join _ _ ih _ | and_join _ _ ih _ | add _ _ ih _ | sub _ _ ih _ => exact ih.append _
  | compare _ _ _ ih _ => exact (ih.append _).of_le (by decide)
  | not | neg | literal | true | false | null | field | parens =>
    exact ⟨_, rfl, _, rfl, by decide⟩

section Chain

variable {op? : Token → Option BinaryOp} {operand : Reader Expr}

theorem readJoined_eq {e : Expr} (h : operand ts = .ok (e, rest)) :
    readJoined op? operand ts = readChain op? operand rest.length e rest := by
  simp only [readJoined, h]

theorem readChain_of_head {fuel : Nat} {e : Expr} {ts : List Token}
    (h : ∀ t ∈ ts.head?, op? t = none) : readChain op? operand fuel e ts = .ok (e, ts) := by
  cases fuel with
  | zero => rw [readChain]; simp
  | succ fuel =>
    cases ts with
    | nil => rw [readChain]; simp
    | cons t ts => simp only [readChain, h t rfl]

/-- Any fuel that is not less than the number of tokens is enough. -/
theorem readChain_fuel {D : List Token → Expr → Prop} (hs : Reader.Sound operand D)
    {m n : Nat} {e : Expr} {ts : List Token} (hm : ts.length ≤ m) (hn : ts.length ≤ n) :
    readChain op? operand m e ts = readChain op? operand n e ts := by
  induction m generalizing n e ts with
  | zero =>
    obtain rfl : ts = [] := List.length_eq_zero_iff.1 (Nat.le_zero.1 hm)
    rw [readChain_of_head (by simp), readChain_of_head (by simp)]
  | succ m ih =>
    cases ts with
    | nil => rw [readChain_of_head (by simp), readChain_of_head (by simp)]
    | cons t ts =>
      obtain ⟨n, rfl⟩ : ∃ k, n = k + 1 := ⟨n - 1, by simp at hn; omega⟩
      simp only [readChain]
      split
      · rfl
      · split
        · rfl
        · rename_i us h
          have := hs.length_le h
          simp only [List.length_cons] at hm hn
          exact ih (by omega) (by omega)

/-- If reading resumes before an operator, it resumes after the operand that this joins. -/
theorem readJoined_join {D : List Token → Expr → Prop} (hs : Reader.Sound operand D)
    {ts us : List Token} {t : Token} {op : BinaryOp} {l r : Expr} (hop : op? t = some op)
    (hl : readJoined op? operand (ts ++ t :: (us ++ rest)) =
      readChain op? operand (t :: (us ++ rest)).length l (t :: (us ++ rest)))
    (hr : operand (us ++ rest) = .ok (r, rest)) :
    readJoined op? operand ((ts ++ t :: us) ++ rest) =
      readChain op? operand rest.length (.binary op l r) rest := by
  rw [List.append_assoc, List.cons_append, hl]
  simp only [List.length_cons, readChain, hop, hr]
  exact readChain_fuel hs (hs.length_le hr) (Nat.le_refl _)

end Chain

end Expr

/-- Nothing is left to do where a phrase of the level ends. -/
theorem Level.resume_of_ends {inner : Reader Expr} {l : Level} {e : Expr} {rest : List Token}
    (h : l.Ends rest) : l.resume inner e rest = .ok (e, rest) := by
  cases l with
  | not | comparison | unary | primary => rfl
  | or =>
    refine Expr.readChain_of_head fun t ht => ?_
    have := h t ht
    unfold Expr.orOp?
    split
    · exact absurd (this .or rfl) (by decide)
    · rfl
  | and =>
    refine Expr.readChain_of_head fun t ht => ?_
    have := h t ht
    unfold Expr.andOp?
    split
    · exact absurd (this .and rfl) (by decide)
    · rfl
  | sum =>
    refine Expr.readChain_of_head fun t ht => ?_
    have := h t ht
    unfold Expr.sumOp?
    split
    · exact absurd (this .sum rfl) (by decide)
    · exact absurd (this .sum rfl) (by decide)
    · rfl

namespace Expr

section Levels

variable {inner : Reader Expr}

theorem readUnary_of_begins {ts : List Token} (h : Level.primary.Begins ts) :
    readUnary inner ts = readPrimary inner ts := by
  rw [readUnary]
  rintro us rfl
  obtain ⟨t, ht, m, hm, hle⟩ := h
  cases ht
  cases hm
  exact absurd hle (by decide)

theorem readNot_of_begins {ts : List Token} (h : Level.comparison.Begins ts) :
    readNot inner ts = readComparison inner ts := by
  rw [readNot]
  rintro us rfl
  obtain ⟨t, ht, m, hm, hle⟩ := h
  cases ht
  cases hm
  exact absurd hle (by decide)

theorem readComparison_of_ends {e : Expr} (h : readSum inner ts = .ok (e, rest))
    (hr : Level.comparison.Ends rest) : readComparison inner ts = .ok (e, rest) := by
  unfold readComparison
  rw [h]
  split
  case h_1 he => cases he
  case h_2 c us he =>
    cases he
    exact absurd (hr _ rfl .comparison rfl) (by decide)
  case h_3 he => exact he.symm

end Levels

/-- **A phrase is read.** With parentheses read as deep as the phrase is long, its reader gets to
the end of it, to go on there if its level joins operands. -/
theorem Derives.read_eq {l : Level} {used : List Token} {e : Expr} (h : Derives l used e) :
    ∀ {depth : Nat} {rest : List Token}, used.length ≤ depth → l.operand.Ends rest →
      l.read (readNested depth) (used ++ rest) = l.resume (readNested depth) e rest := by
  -- Where the phrase ends, its reader gives it.
  have done {l : Level} {used : List Token} {e : Expr} {depth : Nat} {rest : List Token}
      (ih : ∀ {depth : Nat} {rest : List Token}, used.length ≤ depth → l.operand.Ends rest →
        l.read (readNested depth) (used ++ rest) = l.resume (readNested depth) e rest)
      (hlen : used.length ≤ depth) (hr : l.Ends rest) :
      l.read (readNested depth) (used ++ rest) = .ok (e, rest) :=
    (ih hlen (hr.of_le l.rank_operand_le)).trans (Level.resume_of_ends hr)
  induction h with
  | or_operand hd ih | and_operand hd ih | sum_operand hd ih =>
    intro depth rest hlen hr
    exact readJoined_eq (done ih hlen hr)
  | not_operand hd ih =>
    intro depth rest hlen hr
    exact (readNot_of_begins (hd.begins.append _)).trans (done ih hlen (hr.of_le (by decide)))
  | comparison_operand hd ih =>
    intro depth rest hlen hr
    exact readComparison_of_ends (done ih hlen (hr.of_le (by decide))) hr
  | unary_operand hd ih =>
    intro depth rest hlen hr
    exact (readUnary_of_begins (hd.begins.append _)).trans (done ih hlen (hr.of_le (by decide)))
  | or_join _ _ ihl ihr =>
    intro depth rest hlen hr
    simp only [List.length_append, List.length_cons] at hlen
    have hop : orOp? (.keyword .or) = some .or := rfl
    exact readJoined_join (sound_readAnd (sound_readNested depth)) hop
      (ihl (by omega) (Level.ends_cons (by decide))) (done ihr (by omega) hr)
  | and_join _ _ ihl ihr =>
    intro depth rest hlen hr
    simp only [List.length_append, List.length_cons] at hlen
    have hop : andOp? (.keyword .and) = some .and := rfl
    exact readJoined_join (sound_readNot (sound_readNested depth)) hop
      (ihl (by omega) (Level.ends_cons (by decide))) (done ihr (by omega) hr)
  | add _ _ ihl ihr =>
    intro depth rest hlen hr
    simp only [List.length_append, List.length_cons] at hlen
    have hop : sumOp? .plus = some .add := rfl
    exact readJoined_join (sound_readUnary (sound_readNested depth)) hop
      (ihl (by omega) (Level.ends_cons (by decide))) (done ihr (by omega) hr)
  | sub _ _ ihl ihr =>
    intro depth rest hlen hr
    simp only [List.length_append, List.length_cons] at hlen
    have hop : sumOp? .minus = some .sub := rfl
    exact readJoined_join (sound_readUnary (sound_readNested depth)) hop
      (ihl (by omega) (Level.ends_cons (by decide))) (done ihr (by omega) hr)
  | @compare ts l us r c _ _ ihl ihr =>
    intro depth rest hlen hr
    simp only [List.length_append, List.length_cons] at hlen
    have hl : readSum (readNested depth) (ts ++ .comparison c :: (us ++ rest)) =
        .ok (l, .comparison c :: (us ++ rest)) :=
      done ihl (by omega) (Level.ends_cons (by simp [Token.joins?, Level.rank]))
    have hr : readSum (readNested depth) (us ++ rest) = .ok (r, rest) :=
      done ihr (by omega) (hr.of_le (by decide))
    show readComparison (readNested depth) _ = .ok _
    rw [List.append_assoc, List.cons_append]
    simp only [readComparison, hl, hr, Reading.map]
  | @not ts e _ ih =>
    intro depth rest hlen hr
    simp only [List.length_cons] at hlen
    have h : readNot (readNested depth) (ts ++ rest) = .ok (e, rest) := done ih (by omega) hr
    show readNot (readNested depth) (.keyword .not :: (ts ++ rest)) = .ok _
    simp only [readNot, h, Reading.map]
  | @neg ts e _ ih =>
    intro depth rest hlen hr
    simp only [List.length_cons] at hlen
    have h : readUnary (readNested depth) (ts ++ rest) = .ok (e, rest) := done ih (by omega) hr
    show readUnary (readNested depth) (.minus :: (ts ++ rest)) = .ok _
    simp only [readUnary, h, Reading.map]
  | literal | true | false | null | field => intros; rfl
  | @parens ts e _ ih =>
    intro depth rest hlen hr
    simp only [List.length_append, List.length_cons] at hlen
    obtain ⟨depth, rfl⟩ : ∃ d, depth = d + 1 := ⟨depth - 1, by omega⟩
    have h : readWith (readNested depth) (ts ++ .closeParen :: rest) =
        .ok (e, .closeParen :: rest) :=
      done ih (by omega) (Level.ends_cons (by decide))
    show readPrimary (readNested (depth + 1)) (.openParen :: (ts ++ [.closeParen] ++ rest)) = .ok _
    rw [List.append_assoc, List.singleton_append]
    simp only [readPrimary, readNested, h]

/-- An expression is read if what follows does not join it to something. -/
theorem Derives.read_append {ts rest : List Token} {e : Expr} (h : Derives .or ts e)
    (hr : Level.or.Ends rest) : read (ts ++ rest) = .ok (e, rest) :=
  (h.read_eq (by simp) (hr.of_le (by decide))).trans (Level.resume_of_ends hr)

end Expr

/-! ### Actions, statements and programs -/

theorem Action.Derives.read_append {ts rest : List Token} {a : Action} (h : Derives ts a)
    (hr : Level.or.Ends rest) : read (ts ++ rest) = .ok (a, rest) := by
  cases h with
  | assign name he =>
    show Reading.map (Action.assign name) (Expr.read (_ ++ rest)) = .ok _
    rw [he.read_append hr, Reading.map]
  | delete name => rfl

/-- What follows a list of actions does not go on with it. -/
structure Action.ListEnds (rest : List Token) : Prop where
  ends : Level.or.Ends rest
  no_comma : rest.head? ≠ some .comma

theorem Action.ListDerives.readListWith_append {ts rest : List Token} {as : List Action}
    (h : ListDerives ts as) (hr : ListEnds rest) {fuel : Nat} (hf : ts.length ≤ fuel) :
    readListWith fuel (ts ++ rest) = .ok (as, rest) := by
  induction h generalizing fuel with
  | @last ts a ha =>
    have h := ha.read_append hr.ends
    cases fuel with
    | zero => rw [readListWith, h, Reading.map]
    | succ fuel =>
      unfold readListWith
      rw [h]
      split
      case h_1 he => cases he
      case h_2 he => cases he; exact absurd rfl hr.no_comma
      case h_3 he => cases he; rfl
  | @cons ts a us as ha _ ih =>
    simp only [List.length_append, List.length_cons] at hf
    obtain ⟨fuel, rfl⟩ : ∃ n, fuel = n + 1 := ⟨fuel - 1, by omega⟩
    have h : read (ts ++ .comma :: (us ++ rest)) = .ok (a, .comma :: (us ++ rest)) :=
      ha.read_append (Level.ends_cons (by decide))
    have hl : readListWith fuel (us ++ rest) = .ok (as, rest) := ih (by omega)
    rw [List.append_assoc, List.cons_append]
    simp only [readListWith, h, hl, Reading.map]

theorem Action.ListDerives.read_append {ts rest : List Token} {as : List Action}
    (h : ListDerives ts as) (hr : ListEnds rest) : readList (ts ++ rest) = .ok (as, rest) :=
  h.readListWith_append hr (by simp)

/-- What follows a statement of a program. -/
def Statement.Ends (rest : List Token) : Prop := ∀ t ∈ rest.head?, t = .semicolon

theorem Statement.Ends.listEnds {rest : List Token} (h : Ends rest) : Action.ListEnds rest := by
  constructor
  · intro t ht m hm
    rw [h t ht] at hm
    cases hm
  · intro hc
    cases h _ hc

theorem Statement.Derives.read_append {ts rest : List Token} {s : Statement} (h : Derives ts s)
    (hr : Ends rest) : read (ts ++ rest) = .ok (s, rest) := by
  cases h with
  | @action _ a ha =>
    have h := ha.read_append hr.listEnds.ends
    cases ha <;> exact congrArg (Reading.map Statement.action) h
  | @branch ts e us yes he hy =>
    have he : Expr.read (ts ++ .keyword .then :: (us ++ rest)) =
        .ok (e, .keyword .then :: (us ++ rest)) :=
      he.read_append (Level.ends_cons (by decide))
    have hy := hy.read_append hr.listEnds
    show read (.keyword .if :: (ts ++ .keyword .then :: us ++ rest)) = .ok _
    rw [List.append_assoc, List.cons_append]
    simp only [read, he, hy]
    split
    case h_1 hx => cases hx
    case h_2 hx => cases hx; cases hr _ rfl
    case h_3 hx => cases hx; rfl
  | @branch_else ts e us yes vs no he hy hn =>
    have he : Expr.read (ts ++ .keyword .then :: (us ++ .keyword .else :: (vs ++ rest))) =
        .ok (e, .keyword .then :: (us ++ .keyword .else :: (vs ++ rest))) :=
      he.read_append (Level.ends_cons (by decide))
    have hy : Action.readList (us ++ .keyword .else :: (vs ++ rest)) =
        .ok (yes, .keyword .else :: (vs ++ rest)) :=
      hy.read_append ⟨Level.ends_cons (by decide), by simp⟩
    have hn := hn.read_append hr.listEnds
    show read (.keyword .if :: (ts ++ .keyword .then :: (us ++ .keyword .else :: vs) ++ rest)) =
      .ok _
    simp only [List.append_assoc, List.cons_append, read, he, hy, hn, Reading.map]

/-- A statement starts with a token other than a semicolon. -/
theorem Statement.Derives.head_ne {ts : List Token} {s : Statement} (h : Derives ts s) :
    ∃ t us, ts = t :: us ∧ t ≠ .semicolon := by
  cases h with
  | action ha => cases ha <;> exact ⟨_, _, rfl, by simp⟩
  | branch | branch_else => exact ⟨_, _, rfl, by simp⟩

theorem Program.Derives.readWith_eq {ts : List Token} {p : Program} (h : Derives ts p)
    {fuel : Nat} (hf : ts.length ≤ fuel) : readWith fuel ts = .ok p := by
  induction h generalizing fuel with
  | nil => rw [readWith]
  | semicolon _ ih =>
    obtain ⟨fuel, rfl⟩ : ∃ n, fuel = n + 1 := ⟨fuel - 1, by simp at hf; omega⟩
    rw [readWith]
    exact ih (by simpa using hf)
  | @last ts s hs =>
    have h : Statement.read (ts ++ []) = .ok (s, []) := hs.read_append (by simp [Statement.Ends])
    rw [List.append_nil] at h
    obtain ⟨t, us, rfl, ht⟩ := hs.head_ne
    obtain ⟨fuel, rfl⟩ : ∃ n, fuel = n + 1 := ⟨fuel - 1, by simp at hf; omega⟩
    rw [readWith, h]
    · simp
    · rintro vs ⟨⟩
      exact ht rfl
  | @cons ts s us p hs _ ih =>
    have h : Statement.read (ts ++ .semicolon :: us) = .ok (s, .semicolon :: us) :=
      hs.read_append (by simp [Statement.Ends])
    simp only [List.length_append, List.length_cons] at hf
    obtain ⟨fuel, rfl⟩ : ∃ n, fuel = n + 1 := ⟨fuel - 1, by omega⟩
    have hp : readWith fuel us = .ok p := ih (by omega)
    obtain ⟨t, vs, rfl, ht⟩ := hs.head_ne
    rw [readWith, h]
    · simp only [hp, Except.map]
    · simp
    · rintro vs ⟨⟩
      exact ht rfl

/-- Tokens are read as the program that they derive. -/
theorem Program.read_eq_ok_iff {ts : List Token} {p : Program} :
    read ts = .ok p ↔ Derives ts p :=
  ⟨derives_of_readWith, fun h => h.readWith_eq (Nat.le_refl _)⟩

/-- Tokens derive at most one program. -/
theorem Program.Derives.unique {ts : List Token} {p q : Program} (hp : Derives ts p)
    (hq : Derives ts q) : p = q :=
  Except.ok.inj ((read_eq_ok_iff.2 hp).symm.trans (read_eq_ok_iff.2 hq))

/-- **A text is a program exactly if it splits into tokens that derive it**, one statement of it at
least. -/
theorem Program.parse_eq_ok_iff (text : String) (p : Program) :
    parse text = .ok p ↔ ∃ ts, Splits text.toList ts ∧ Derives ts p ∧ p ≠ [] := by
  constructor
  · intro h
    unfold parse at h
    split at h
    · cases h
    · rename_i lexemes hs
      split at h
      · cases h
      · cases h
      · rename_i q hne hq
        cases h
        exact ⟨_, Lexeme.scan_iff.1 ⟨lexemes, hs, rfl⟩, read_eq_ok_iff.1 hq, hne⟩
  · rintro ⟨ts, hsplit, hd, hne⟩
    obtain ⟨lexemes, hs, rfl⟩ := Lexeme.scan_iff.2 hsplit
    unfold parse
    rw [hs]
    simp only [read_eq_ok_iff.2 hd]

end Reshape
