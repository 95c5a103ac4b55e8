import Reshape.Proofs.Writing

/-!
# Completing refused programs

Where a reader refuses tokens, those it has passed begin a phrase: some words complete them.

* `Reader.Completes`: the reader has passed the beginning of a phrase whenever it refuses tokens.
* `Expr.completes_read`, `Action.completes_readList`, `Statement.completes_read`: the readers do.
* `Program.completes_readWith`: what is passed of a refused program begins a program.
-/

namespace Reshape

theorem Reading.map_eq_error {f : α → β} {r : Reading α} {c : SyntaxCause} {rest : List Token}
    (h : r.map f = .error (c, rest)) : r = .error (c, rest) := by
  cases r with
  | error e =>
    injection h with h
    rw [h]
  | ok p => cases h

/-- Whenever the reader refuses tokens, some words complete those that it has passed. -/
def Reader.Completes (read : Reader α) (D : List Token → α → Prop) : Prop :=
  ∀ {ts c rest}, read ts = .error (c, rest) →
    ∃ used, ∃ ws : List Word, ∃ a, ts = used ++ rest ∧ D (used ++ ws.map Word.token) a

namespace Expr

theorem derives_null (l : Level) : Derives l [.keyword .null] (.literal .null) :=
  Derives.null.of_le (Nat.zero_le _)

/-- Operands joined by operators are completed where an operand is. -/
theorem completes_readJoined {op? : Token → Option BinaryOp} {operand : Reader Expr} {l m : Level}
    (one : ∀ {ts e}, Derives m ts e → Derives l ts e)
    (more : ∀ {ts us t op a b}, op? t = some op → Derives l ts a → Derives m us b →
      Derives l (ts ++ t :: us) (.binary op a b))
    (hs : Reader.Sound operand (Derives m)) (ho : Reader.Completes operand (Derives m)) :
    Reader.Completes (readJoined op? operand) (Derives l) := by
  -- The chain has already read the phrase `left` from the tokens `used`.
  have chain : ∀ fuel left ts c rest used, Derives l used left →
      readChain op? operand fuel left ts = .error (c, rest) →
        ∃ more, ∃ ws : List Word, ∃ e, ts = more ++ rest ∧
          Derives l (used ++ (more ++ ws.map Word.token)) e := by
    intro fuel left ts
    induction fuel, left, ts using readChain.induct op? operand with
    | case1 fuel left t ts hop =>
      intro c rest used hl h
      simp [readChain, hop] at h
    | case2 fuel left t ts op hop error he =>
      intro c rest used hl h
      simp only [readChain, hop, he] at h
      cases h
      obtain ⟨passed, ws, e, rfl, hr⟩ := ho he
      exact ⟨t :: passed, ws, _, rfl, more hop hl hr⟩
    | case3 fuel left t ts op hop right us he ih =>
      intro c rest used hl h
      simp only [readChain, hop, he] at h
      obtain ⟨passed, rfl, hr⟩ := hs he
      obtain ⟨later, ws, e, rfl, hd⟩ := ih c rest _ (more hop hl hr) h
      exact ⟨t :: (passed ++ later), ws, e, by simp, by simpa using hd⟩
    | case4 fuel left ts hts =>
      intro c rest used hl h
      rw [readChain] at h
      · cases h
      · exact hts
  intro ts c rest h
  unfold readJoined at h
  split at h
  · rename_i he
    cases h
    obtain ⟨used, ws, e, rfl, hd⟩ := ho he
    exact ⟨used, ws, e, rfl, one hd⟩
  · rename_i left us he
    obtain ⟨used, rfl, hd⟩ := hs he
    obtain ⟨later, ws, e, rfl, hd'⟩ := chain _ _ _ _ _ _ (one hd) h
    exact ⟨used ++ later, ws, e, by simp, by simpa using hd'⟩

section Levels

variable {inner : Reader Expr} (hs : Reader.Sound inner (Derives .or))
  (hi : Reader.Completes inner (Derives .or))

include hs hi

theorem completes_readPrimary : Reader.Completes (readPrimary inner) (Derives .primary) := by
  intro ts c rest h
  -- any value completes a phrase of which nothing is read
  have value : ∃ used, ∃ ws : List Word, ∃ e,
      rest = used ++ rest ∧ Derives .primary (used ++ ws.map Word.token) e :=
    ⟨[], [.keyword .null], _, rfl, derives_null .primary⟩
  unfold readPrimary at h
  split at h
  case h_1 | h_7 | h_9 => cases h; exact value
  case h_8 ts =>
    split at h
    · rename_i he
      cases h
      obtain ⟨used, ws, e, rfl, hd⟩ := hi he
      refine ⟨.openParen :: used, ws ++ [.closeParen], e, rfl, ?_⟩
      rw [List.cons_append, List.map_append, ← List.append_assoc]
      exact hd.parens
    · cases h
    · rename_i e us _ he
      cases h
      obtain ⟨used, rfl, hd⟩ := hs he
      exact ⟨.openParen :: used, [.closeParen], e, rfl, hd.parens⟩
  all_goals cases h

theorem completes_readUnary : Reader.Completes (readUnary inner) (Derives .unary) := by
  intro ts
  induction ts using readUnary.induct with
  | case1 ts ih =>
    intro c rest h
    rw [readUnary] at h
    obtain ⟨used, ws, e, rfl, hd⟩ := ih (Reading.map_eq_error h)
    exact ⟨.minus :: used, ws, .neg e, rfl, hd.neg⟩
  | case2 ts hts =>
    intro c rest h
    rw [readUnary] at h
    · obtain ⟨used, ws, e, rfl, hd⟩ := completes_readPrimary hs hi h
      exact ⟨used, ws, e, rfl, .unary_operand hd⟩
    · exact hts

theorem completes_readSum : Reader.Completes (readSum inner) (Derives .sum) :=
  completes_readJoined .sum_operand .join_of_sumOp? (sound_readUnary hs)
    (completes_readUnary hs hi)

theorem completes_readComparison :
    Reader.Completes (readComparison inner) (Derives .comparison) := by
  intro ts c rest h
  unfold readComparison at h
  split at h
  · rename_i he
    cases h
    obtain ⟨used, ws, e, rfl, hd⟩ := completes_readSum hs hi he
    exact ⟨used, ws, e, rfl, .comparison_operand hd⟩
  · rename_i left op us he
    obtain ⟨used, rfl, hl⟩ := sound_readSum hs he
    obtain ⟨used', ws, right, rfl, hr⟩ := completes_readSum hs hi (Reading.map_eq_error h)
    exact ⟨used ++ .comparison op :: used', ws, _, by simp, by simpa using .compare op hl hr⟩
  · cases h

theorem completes_readNot : Reader.Completes (readNot inner) (Derives .not) := by
  intro ts
  induction ts using readNot.induct with
  | case1 ts ih =>
    intro c rest h
    rw [readNot] at h
    obtain ⟨used, ws, e, rfl, hd⟩ := ih (Reading.map_eq_error h)
    exact ⟨.keyword .not :: used, ws, .not e, rfl, hd.not⟩
  | case2 ts hts =>
    intro c rest h
    rw [readNot] at h
    · obtain ⟨used, ws, e, rfl, hd⟩ := completes_readComparison hs hi h
      exact ⟨used, ws, e, rfl, .not_operand hd⟩
    · exact hts

theorem completes_readAnd : Reader.Completes (readAnd inner) (Derives .and) :=
  completes_readJoined .and_operand .join_of_andOp? (sound_readNot hs)
    (completes_readNot hs hi)

theorem completes_readWith : Reader.Completes (readWith inner) (Derives .or) :=
  completes_readJoined .or_operand .join_of_orOp? (sound_readAnd hs)
    (completes_readAnd hs hi)

end Levels

theorem completes_readNested (depth : Nat) : Reader.Completes (readNested depth) (Derives .or) := by
  induction depth with
  | zero =>
    intro ts c rest h
    cases h
    exact ⟨[], [.keyword .null], _, rfl, derives_null .or⟩
  | succ depth ih => exact completes_readWith (sound_readNested depth) ih

theorem completes_read : Reader.Completes read (Derives .or) := completes_readNested _

end Expr

/-! ## Actions and statements -/

namespace Action

/-- The words of `x = null`, of which any number may be passed already. -/
def fillWords : List Word := [.name ⟨"x", by decide⟩, .assign, .keyword .null]

theorem derives_fillWords : ∃ a, Derives (fillWords.map Word.token) a :=
  ⟨_, .assign "x" (Expr.derives_null .or)⟩

theorem completes_read : Reader.Completes read Derives := by
  intro ts c rest h
  unfold read at h
  split at h
  · rename_i ts
    have hname := Reading.map_eq_error h
    unfold readFieldName at hname
    split at hname <;> cases hname
    exact ⟨[.keyword .delete], [.name ⟨"x", by decide⟩], _, rfl, .delete "x"⟩
  · split at h
    · rename_i hn
      cases h
      unfold readFieldName at hn
      split at hn <;> cases hn
      obtain ⟨a, ha⟩ := derives_fillWords
      exact ⟨[], fillWords, a, rfl, ha⟩
    · rename_i name us hn
      obtain ⟨_, rfl, rfl⟩ := sound_readFieldName hn
      obtain ⟨used, ws, e, rfl, hd⟩ := Expr.completes_read (Reading.map_eq_error h)
      exact ⟨.field name :: .assign :: used, ws, _, rfl, .assign name hd⟩
    · rename_i name us _ hn
      obtain ⟨_, rfl, rfl⟩ := sound_readFieldName hn
      cases h
      exact ⟨[.field name], [.assign, .keyword .null], _, rfl,
        .assign name (Expr.derives_null .or)⟩

theorem completes_readListWith (fuel : Nat) :
    Reader.Completes (readListWith fuel) ListDerives := by
  induction fuel with
  | zero =>
    intro ts c rest h
    obtain ⟨used, ws, a, rfl, hd⟩ := completes_read (Reading.map_eq_error h)
    exact ⟨used, ws, [a], rfl, .last hd⟩
  | succ fuel ih =>
    intro ts c rest h
    unfold readListWith at h
    split at h
    · rename_i he
      cases h
      obtain ⟨used, ws, a, rfl, hd⟩ := completes_read he
      exact ⟨used, ws, [a], rfl, .last hd⟩
    · rename_i a us ha
      obtain ⟨used, rfl, hd⟩ := sound_read ha
      obtain ⟨used', ws, as, rfl, hl⟩ := ih (Reading.map_eq_error h)
      exact ⟨used ++ .comma :: used', ws, a :: as, by simp, by simpa using .cons hd hl⟩
    · cases h

theorem completes_readList : Reader.Completes readList ListDerives := completes_readListWith _

end Action

theorem Statement.completes_read : Reader.Completes read Derives := by
  obtain ⟨fill, hfill⟩ := Action.derives_fillWords
  intro ts c rest h
  unfold read at h
  split at h
  · split at h
    · rename_i he
      cases h
      obtain ⟨used, ws, e, rfl, hd⟩ := Expr.completes_read he
      refine ⟨.keyword .if :: used, ws ++ .keyword .then :: Action.fillWords,
        .branch e [fill] [], rfl, ?_⟩
      rw [List.cons_append, List.map_append, ← List.append_assoc]
      exact .branch hd (.last hfill)
    · rename_i condition us hc
      obtain ⟨used, rfl, hd⟩ := Expr.sound_read hc
      split at h
      · rename_i he
        cases h
        obtain ⟨used', ws, yes, rfl, hy⟩ := Action.completes_readList he
        exact ⟨.keyword .if :: (used ++ .keyword .then :: used'), ws, _, by simp,
          by simpa using .branch hd hy⟩
      · rename_i yes vs hread
        obtain ⟨used', rfl, hy⟩ := Action.sound_readList hread
        obtain ⟨used'', ws, no, rfl, hn⟩ := Action.completes_readList (Reading.map_eq_error h)
        exact ⟨.keyword .if :: (used ++ .keyword .then :: (used' ++ .keyword .else :: used'')), ws,
          _, by simp, by simpa using .branch_else hd hy hn⟩
      · cases h
    · rename_i condition us _ hc
      cases h
      obtain ⟨used, rfl, hd⟩ := Expr.sound_read hc
      exact ⟨.keyword .if :: used, .keyword .then :: Action.fillWords, _, rfl,
        .branch hd (.last hfill)⟩
  · obtain ⟨used, ws, a, rfl, hd⟩ := Action.completes_read (Reading.map_eq_error h)
    exact ⟨used, ws, _, rfl, .action hd⟩

/-! ## Programs -/

namespace Program

/-- **What is passed of refused tokens begins a program** that has at least one statement. -/
theorem completes_readWith {fuel : Nat} {ts rest : List Token} {c : SyntaxCause}
    (h : readWith fuel ts = .error (c, rest)) : ∃ used, ∃ ws : List Word, ∃ p,
      ts = used ++ rest ∧ Derives (used ++ ws.map Word.token) p ∧ p ≠ [] := by
  induction fuel, ts using readWith.induct generalizing rest with
  | case1 fuel => rw [readWith] at h; cases h
  | case2 ts hts =>
    rw [readWith] at h
    · cases h
      obtain ⟨fill, hfill⟩ := Action.derives_fillWords
      exact ⟨[], Action.fillWords, _, rfl, .last (.action hfill), List.cons_ne_nil _ _⟩
    · exact hts
  | case3 fuel ts ih =>
    rw [readWith] at h
    obtain ⟨used, ws, p, rfl, hd, hne⟩ := ih h
    exact ⟨.semicolon :: used, ws, p, rfl, .semicolon hd, hne⟩
  | case4 fuel ts hts hsemi error hs =>
    simp only [readWith, hs] at h
    cases h
    obtain ⟨used, ws, s, rfl, hd⟩ := Statement.completes_read hs
    exact ⟨used, ws, [s], rfl, .last hd, List.cons_ne_nil _ _⟩
  | case5 fuel ts hts hsemi s hs => simp [readWith, hs] at h
  | case6 fuel ts hts hsemi s us hs ih =>
    simp only [readWith, hs] at h
    obtain ⟨used, rfl, hd⟩ := Statement.sound_read hs
    cases hp : readWith fuel us with
    | ok q => simp [hp, Except.map] at h
    | error e =>
      simp only [hp, Except.map, Except.error.injEq] at h
      subst h
      obtain ⟨used', ws, p, rfl, hp, -⟩ := ih hp
      exact ⟨used ++ .semicolon :: used', ws, s :: p, by simp, by simpa using .cons hd hp,
        List.cons_ne_nil _ _⟩
  | case7 fuel ts hts hsemi s us hnil hnext hs =>
    simp only [readWith, hs] at h
    cases h
    obtain ⟨used, rfl, hd⟩ := Statement.sound_read hs
    exact ⟨used, [], [s], rfl, by simpa using .last hd, List.cons_ne_nil _ _⟩

end Program

end Reshape
