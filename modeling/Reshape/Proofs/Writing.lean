import Reshape.Proofs.Script

/-!
# Writing programs and reading them back

* `Expr.Derives.of_le`: a phrase of a level is one of every looser level.
* `Expr.not_derives_join`: operands joined by an operator are no phrase of a tighter level.
* `Script.Expr.derives_words`: the words of an expression derive it in every place.
* `Script.exists_of_derives`: every program that some text derives can be written.
* `Script.parse_text`: the text of a script is read as its program.
-/

namespace Reshape

/-! ## Words derive what is meant -/

namespace Expr

/-- A phrase of a level is one of every looser level. -/
theorem Derives.of_le {l m : Level} {ts : List Token} {e : Expr} (h : Derives m ts e)
    (hm : m.rank ≤ l.rank) : Derives l ts e := by
  obtain ⟨k, hk⟩ := Nat.exists_eq_add_of_le hm
  clear hm
  induction k generalizing l with
  | zero =>
    obtain rfl : l = m := by cases l <;> cases m <;> first | rfl | cases hk
    exact h
  | succ k ih =>
    have tighter {j : Level} (hj : l.rank = j.rank + 1) : Derives j ts e := ih (by omega)
    cases l with
    | or => exact .or_operand (tighter (j := .and) rfl)
    | and => exact .and_operand (tighter (j := .not) rfl)
    | not => exact .not_operand (tighter (j := .comparison) rfl)
    | comparison => exact .comparison_operand (tighter (j := .sum) rfl)
    | sum => exact .sum_operand (tighter (j := .unary) rfl)
    | unary => exact .unary_operand (tighter (j := .primary) rfl)
    | primary => cases hk

/-- Two operands at their levels, joined by an operator. -/
theorem Derives.join (op : BinaryOp) {ts us : List Token} {a b : Expr}
    (ha : Derives op.leftLevel ts a) (hb : Derives op.rightLevel us b) :
    Derives op.level (ts ++ op.word.token :: us) (.binary op a b) := by
  cases op with
  | or => exact .or_join ha hb
  | and => exact .and_join ha hb
  | compare c => exact .compare c ha hb
  | add => exact .add ha hb
  | sub => exact .sub ha hb

/-- The first of the operands that a level joins. -/
theorem Derives.exists_operand {l : Level} {ts : List Token} {e : Expr} (h : Derives l ts e) :
    ∃ us rest x, ts = us ++ rest ∧ Derives l.operand us x ∧
      ∀ t ∈ rest.head?, t.joins? = some l := by
  -- the operator that joins one more operand follows the first one or comes later
  have join {l : Level} {ts us : List Token} {t : Token} (ht : t.joins? = some l)
      (h : ∃ us rest x, ts = us ++ rest ∧ Derives l.operand us x ∧
        ∀ t ∈ rest.head?, t.joins? = some l) :
      ∃ vs rest x, ts ++ t :: us = vs ++ rest ∧ Derives l.operand vs x ∧
        ∀ t ∈ rest.head?, t.joins? = some l := by
    obtain ⟨vs, rest, x, rfl, hx, hrest⟩ := h
    refine ⟨vs, rest ++ t :: us, x, List.append_assoc .., hx, fun u hu => ?_⟩
    cases rest with
    | nil => cases hu; exact ht
    | cons v rest => exact hrest u hu
  by_cases hl : l.operand = l
  · exact ⟨ts, [], e, (List.append_nil ts).symm, hl.symm ▸ h, nofun⟩
  · induction h with
    | or_operand hd | and_operand hd | sum_operand hd =>
      exact ⟨_, [], _, (List.append_nil _).symm, hd, nofun⟩
    | or_join _ _ ih _ | and_join _ _ ih _ | add _ _ ih _ | sub _ _ ih _ =>
      exact join rfl (ih hl)
    | _ => exact absurd rfl hl

/-- The first operand of those at the left of an operator. -/
theorem Derives.exists_left_operand (op : BinaryOp) {ts : List Token} {e : Expr}
    (h : Derives op.leftLevel ts e) : ∃ us rest x, ts = us ++ rest ∧
      Derives op.rightLevel us x ∧ ∀ t ∈ rest.head?, t.joins? = some op.level := by
  cases op with
  | compare c => exact ⟨ts, [], e, (List.append_nil ts).symm, h, nofun⟩
  | or | and | add | sub => exact h.exists_operand

theorem joins?_word (op : BinaryOp) : op.word.token.joins? = some op.level := by cases op <;> rfl

/-- Two operands joined by an operator are no phrase of a level that is tighter than it, whose
reader would stop after the first operand. -/
theorem not_derives_join {op : BinaryOp} {l : Level} {ts us : List Token} {a e : Expr}
    (ha : Derives op.leftLevel ts a) (hl : l.rank < op.level.rank) :
    ¬ Derives l (ts ++ op.word.token :: us) e := by
  intro h
  obtain ⟨vs, rest, x, rfl, hx, hrest⟩ := ha.exists_left_operand
  have hrank : op.level.rank = op.rightLevel.rank + 1 := by cases op <;> rfl
  have hends : op.rightLevel.Ends (rest ++ op.word.token :: us) := by
    intro t ht m hm
    have hjoins : t.joins? = some op.level := by
      cases rest with
      | nil => cases ht; exact joins?_word op
      | cons v rest => exact hrest t ht
    cases hjoins.symm.trans hm
    omega
  have hnil (m : Level) : m.Ends [] := nofun
  have hread := (h.of_le (m := l) (by omega)).read_eq (Nat.le_refl _) (hnil op.rightLevel.operand)
  rw [Level.resume_of_ends (hnil _), List.append_nil, List.append_assoc] at hread
  have hlength : vs.length ≤ (vs ++ (rest ++ op.word.token :: us)).length := by simp
  have hstop := hx.read_eq hlength (hends.of_le op.rightLevel.rank_operand_le)
  rw [hread, Level.resume_of_ends hends] at hstop
  simp at hstop

end Expr

/-- The tokens that a program was read from, one statement at least. -/
theorem Program.exists_derives_of_parse {text : String} {p : Program} (h : parse text = .ok p) :
    ∃ ts, Splits text.toList ts ∧ Derives ts p ∧ p ≠ [] := by
  unfold parse at h
  split at h
  · cases h
  · rename_i lexemes hscan
    split at h
    · cases h
    · cases h
    · rename_i q hne hread
      cases h
      exact ⟨_, Lexeme.scan_iff.1 ⟨lexemes, hscan, rfl⟩, read_eq_ok_iff.1 hread, hne⟩

/-- A text is read as the program that its tokens derive. -/
theorem Program.parse_ofList {cs : List Char} {ts : List Token} {p : Program} (hs : Splits cs ts)
    (hd : Derives ts p) (hne : p ≠ []) : parse (.ofList cs) = .ok p := by
  have htext : Splits (String.ofList cs).toList ts := by rwa [String.toList_ofList]
  obtain ⟨lexemes, hscan, rfl⟩ := Lexeme.scan_iff.2 htext
  unfold parse
  rw [hscan]
  simp only [read_eq_ok_iff.2 hd]

namespace Script

/-- A phrase in a place for phrases of a level, between parentheses if it has to be. -/
theorem derives_enclose {l m : Level} {ws : List Word} {e : Reshape.Expr}
    (h : Expr.Derives m (ws.map Word.token) e) :
    Expr.Derives l ((enclose l m ws).map Word.token) e := by
  rw [enclose]
  split
  · rename_i hle
    exact h.of_le hle
  · have hor : Expr.Derives .or (ws.map Word.token) e := h.of_le (by cases m <;> decide)
    have hparens := Expr.Derives.of_le (l := l) hor.parens (by cases l <;> decide)
    rw [List.map_cons, List.map_append]
    exact hparens

theorem Literal.derives_word (v : Literal) :
    Expr.Derives .primary [v.word.token] (.literal v.value) := by
  cases v with
  | string s => exact .literal (.string s)
  | number n => exact .literal n.value
  | true => exact .true
  | false => exact .false
  | null => exact .null

/-- The words of an expression derive it. -/
theorem Expr.derives_phrase (e : Expr) :
    Expr.Derives e.level (e.phrase.map Word.token) e.toExpr := by
  induction e with
  | literal v => exact v.derives_word
  | field n => exact .field n.text
  | not e ih => exact (derives_enclose ih).not
  | neg e ih => exact (derives_enclose ih).neg
  | binary op a b iha ihb =>
    rw [phrase, List.map_append, List.map_cons]
    exact .join op (derives_enclose iha) (derives_enclose ihb)

theorem Expr.derives_words (e : Expr) (l : Level) :
    Expr.Derives l ((e.words l).map Word.token) e.toExpr :=
  derives_enclose e.derives_phrase

/-- Parentheses are written only around what is no phrase of the level without them. -/
theorem Expr.not_derives_phrase {e : Expr} {l : Level} (h : l.rank < e.level.rank)
    (x : Reshape.Expr) : ¬ Expr.Derives l (e.phrase.map Word.token) x := by
  intro hx
  cases e with
  | literal | field => exact absurd h (Nat.not_lt_zero _)
  | not e =>
    obtain ⟨t, ht, m, hm, hle⟩ := hx.begins
    cases ht
    cases hm
    exact absurd hle (Nat.not_le.2 h)
  | neg e =>
    obtain ⟨t, ht, m, hm, hle⟩ := hx.begins
    cases ht
    cases hm
    exact absurd hle (Nat.not_le.2 h)
  | binary op a b =>
    rw [phrase, List.map_append, List.map_cons] at hx
    exact Reshape.Expr.not_derives_join (derives_enclose a.derives_phrase) h hx

theorem Action.derives_words (a : Action) :
    Action.Derives (a.words.map Word.token) a.toAction := by
  cases a with
  | assign n e => exact .assign n.text (e.derives_words .or)
  | delete n => exact .delete n.text

theorem Action.derives_listWords {as : List Action} (h : as ≠ []) :
    Action.ListDerives ((listWords as).map Word.token) (as.map toAction) := by
  induction as with
  | nil => exact absurd rfl h
  | cons a as ih =>
    cases as with
    | nil =>
      rw [listWords, List.map_singleton, List.map_singleton, List.intercalate_singleton]
      exact .last a.derives_words
    | cons b as =>
      have hrest := ih (List.cons_ne_nil b as)
      rw [listWords, List.map_cons, List.map_cons, List.intercalate_cons_cons, List.append_assoc,
        List.map_append, List.map_append]
      exact .cons a.derives_words hrest

theorem Statement.derives_words (s : Statement) :
    Statement.Derives (s.words.map Word.token) s.toStatement := by
  cases s with
  | action a => exact .action a.derives_words
  | branch e yes no hyes =>
    have hcondition := e.derives_words .or
    have hyes := Action.derives_listWords hyes
    rw [words, List.map_cons, List.map_append, List.map_cons, List.map_append]
    split
    · rename_i hno
      rw [hno, List.map_nil, List.append_nil]
      exact .branch hcondition hyes
    · rename_i hno
      exact .branch_else hcondition hyes (Action.derives_listWords hno)

/-! ## Programs -/

/-- The semicolon between two statements and the blanks around it. -/
theorem splits_semicolon {before after cs : List Char} {ts : List Token}
    (hb : ∀ c ∈ before, Text.isBlank c = true) (ha : ∀ c ∈ after, Text.isBlank c = true)
    (h : Splits cs ts) : Splits ((before ++ ';' :: after) ++ cs) (.semicolon :: ts) := by
  have hsemicolon : Token.Spells [';'] .semicolon := .symbol (by decide)
  have halone : ∀ c ∈ (after ++ cs).head?, ¬ Token.Prolongs c [';'] := fun c _ =>
    Token.not_prolongs (by decide) (by decide) (by simp)
  have htoken : Splits ([';'] ++ (after ++ cs)) (.semicolon :: ts) :=
    .token hsemicolon halone (h.blanks_append ha)
  rw [List.append_assoc]
  exact htoken.blanks_append hb

/-- What joins two statements separates their tokens. -/
theorem separates_head {before after : List Char}
    (hb : ∀ c ∈ before, Text.isBlank c = true) (cs : List Char) :
    ∀ c ∈ ((before ++ ';' :: after) ++ cs).head?, Token.Separates c := by
  intro c hc
  cases before with
  | nil =>
    cases hc
    exact Token.separates_of_classes (by decide) (by decide) (by decide)
  | cons d before =>
    cases hc
    exact Token.separates_of_isBlank (hb c List.mem_cons_self)

/-- The statements with semicolons between them split into tokens that derive them. -/
theorem splits_statements {before after : List Char}
    (hb : ∀ c ∈ before, Text.isBlank c = true) (ha : ∀ c ∈ after, Text.isBlank c = true)
    {ss : List Statement} (h : ss ≠ []) :
    ∃ ts, Splits ((before ++ ';' :: after).intercalate (ss.map fun s => Word.line s.words)) ts ∧
      Program.Derives ts (ss.map Statement.toStatement) := by
  induction ss with
  | nil => exact absurd rfl h
  | cons s ss ih =>
    cases ss with
    | nil =>
      rw [List.map_singleton, List.map_singleton, List.intercalate_singleton]
      exact ⟨_, Word.splits_line s.words, .last s.derives_words⟩
    | cons r ss =>
      obtain ⟨ts, hsplits, hderives⟩ := ih (List.cons_ne_nil r ss)
      rw [List.map_cons, List.map_cons, List.intercalate_cons_cons, List.append_assoc]
      exact ⟨_, (Word.splits_line s.words).append (separates_head hb _)
        (splits_semicolon hb ha hsplits), .cons s.derives_words hderives⟩

end Script

/-! ## Every program can be written -/

/-- What a script can say of a token: names that can be quoted and literals that can be written. -/
def Token.Writable : Token → Prop
  | .field name => nameQuote ∉ name.toList
  | .literal v => ∃ l : Script.Literal, l.value = v
  | _ => True

/-- Digits that have a value can be written. -/
theorem Token.writable_number {c : Char} {cs : List Char} {x : Decimal} (hc : isDigit c = true)
    (hcs : ∀ d ∈ cs, isNumberPart d = true) (hx : Decimal.ofChars? (c :: cs) = some x) :
    Writable (.literal (.ofBinary64? x.nearest?)) :=
  ⟨.number ⟨c, cs, x, hc, hcs, hx⟩, rfl⟩

/-- No word has a quote in it. -/
theorem Token.nameQuote_notMem {text : List Char} (h : IsWordText text) : nameQuote ∉ text := by
  obtain ⟨c, cs, rfl, hc, hcs⟩ := h
  intro hmem
  obtain rfl | hmem := List.mem_cons.1 hmem
  · exact absurd hc (by decide)
  · exact absurd (hcs _ hmem) (by decide)

theorem Token.Spells.writable {text : List Char} {t : Token} (h : Spells text t) : t.Writable := by
  cases h with
  | string q hq hb => exact ⟨.string _, rfl⟩
  | whole hne hds =>
    have hx := Decimal.ofChars?_whole hne hds
    cases text with
    | nil => exact absurd rfl hne
    | cons c cs =>
      refine writable_number (hds c List.mem_cons_self) (fun d hd => ?_) hx
      simp [isNumberPart, hds d (List.mem_cons_of_mem c hd)]
  | @decimal ds fs hne hds hfs =>
    have hx : Decimal.ofChars? (ds ++ '.' :: (fs ++ [])) = _ :=
      Decimal.ofChars?_point hne hds hfs (by simp)
    rw [List.append_nil, if_pos rfl] at hx
    cases ds with
    | nil => exact absurd rfl hne
    | cons c ds =>
      exact writable_number (hds c List.mem_cons_self)
        (fun d hd => isNumberPart_of_mem hds hfs (List.mem_cons_of_mem c hd)) hx
  | keyword => trivial
  | name hw _ => simpa [Writable] using nameQuote_notMem hw
  | quotedName hn => simpa [Writable] using hn
  | symbol hm =>
    simp only [symbols, List.mem_cons, List.not_mem_nil, or_false] at hm
    rcases hm with h | h | h | h | h | h | h | h | h | h | h | h | h <;> cases h <;> trivial

theorem Splits.writable {cs : List Char} {ts : List Token} (h : Splits cs ts) :
    ∀ t ∈ ts, t.Writable := by
  induction h with
  | nil => nofun
  | blank _ _ ih => exact ih
  | token hspells _ _ ih => exact List.forall_mem_cons.2 ⟨hspells.writable, ih⟩

/-- An expression that writable tokens derive can be written. -/
theorem Expr.Derives.exists_script {l : Level} {ts : List Token} {e : Expr} (h : Derives l ts e)
    (hw : ∀ t ∈ ts, t.Writable) : ∃ x : Script.Expr, x.toExpr = e := by
  induction h with
  | or_operand _ ih | and_operand _ ih | not_operand _ ih | comparison_operand _ ih
  | sum_operand _ ih | unary_operand _ ih => exact ih hw
  | or_join _ _ iha ihb | and_join _ _ iha ihb | compare _ _ _ iha ihb | add _ _ iha ihb
  | sub _ _ iha ihb =>
    simp only [List.forall_mem_append, List.forall_mem_cons] at hw
    obtain ⟨a, rfl⟩ := iha hw.1
    obtain ⟨b, rfl⟩ := ihb hw.2.2
    exact ⟨.binary _ a b, rfl⟩
  | not _ ih =>
    obtain ⟨a, rfl⟩ := ih fun t ht => hw t (List.mem_cons_of_mem _ ht)
    exact ⟨.not a, rfl⟩
  | neg _ ih =>
    obtain ⟨a, rfl⟩ := ih fun t ht => hw t (List.mem_cons_of_mem _ ht)
    exact ⟨.neg a, rfl⟩
  | literal v =>
    obtain ⟨l, rfl⟩ := hw _ List.mem_cons_self
    exact ⟨.literal l, rfl⟩
  | true => exact ⟨.literal .true, rfl⟩
  | false => exact ⟨.literal .false, rfl⟩
  | null => exact ⟨.literal .null, rfl⟩
  | field name => exact ⟨.field ⟨name, hw _ List.mem_cons_self⟩, rfl⟩
  | parens _ ih =>
    simp only [List.forall_mem_append, List.forall_mem_cons] at hw
    exact ih hw.2.1

theorem Action.Derives.exists_script {ts : List Token} {a : Action} (h : Derives ts a)
    (hw : ∀ t ∈ ts, t.Writable) : ∃ x : Script.Action, x.toAction = a := by
  cases h with
  | assign name he =>
    simp only [List.forall_mem_cons] at hw
    obtain ⟨e, rfl⟩ := he.exists_script hw.2.2
    exact ⟨.assign ⟨name, hw.1⟩ e, rfl⟩
  | delete name =>
    simp only [List.forall_mem_cons] at hw
    exact ⟨.delete ⟨name, hw.2.1⟩, rfl⟩

theorem Action.ListDerives.exists_script {ts : List Token} {as : List Action}
    (h : ListDerives ts as) (hw : ∀ t ∈ ts, t.Writable) :
    ∃ xs : List Script.Action, xs ≠ [] ∧ xs.map Script.Action.toAction = as := by
  induction h with
  | last ha =>
    obtain ⟨x, rfl⟩ := ha.exists_script hw
    exact ⟨[x], List.cons_ne_nil _ _, rfl⟩
  | cons ha _ ih =>
    simp only [List.forall_mem_append, List.forall_mem_cons] at hw
    obtain ⟨x, rfl⟩ := ha.exists_script hw.1
    obtain ⟨xs, -, rfl⟩ := ih hw.2.2
    exact ⟨x :: xs, List.cons_ne_nil _ _, rfl⟩

theorem Statement.Derives.exists_script {ts : List Token} {s : Statement} (h : Derives ts s)
    (hw : ∀ t ∈ ts, t.Writable) : ∃ x : Script.Statement, x.toStatement = s := by
  cases h with
  | action ha =>
    obtain ⟨x, rfl⟩ := ha.exists_script hw
    exact ⟨.action x, rfl⟩
  | branch he hy =>
    simp only [List.forall_mem_append, List.forall_mem_cons] at hw
    obtain ⟨e, rfl⟩ := he.exists_script hw.2.1
    obtain ⟨yes, hne, rfl⟩ := hy.exists_script hw.2.2.2
    exact ⟨.branch e yes [] hne, rfl⟩
  | branch_else he hy hn =>
    simp only [List.forall_mem_append, List.forall_mem_cons] at hw
    obtain ⟨e, rfl⟩ := he.exists_script hw.2.1
    obtain ⟨yes, hne, rfl⟩ := hy.exists_script hw.2.2.2.1
    obtain ⟨no, -, rfl⟩ := hn.exists_script hw.2.2.2.2.2
    exact ⟨.branch e yes no hne, rfl⟩

theorem Program.Derives.exists_script {ts : List Token} {p : Program} (h : Derives ts p)
    (hw : ∀ t ∈ ts, t.Writable) :
    ∃ xs : List Script.Statement, xs.map Script.Statement.toStatement = p := by
  induction h with
  | nil => exact ⟨[], rfl⟩
  | semicolon _ ih => exact ih fun t ht => hw t (List.mem_cons_of_mem _ ht)
  | last hs =>
    obtain ⟨x, rfl⟩ := hs.exists_script hw
    exact ⟨[x], rfl⟩
  | cons hs _ ih =>
    simp only [List.forall_mem_append, List.forall_mem_cons] at hw
    obtain ⟨x, rfl⟩ := hs.exists_script hw.1
    obtain ⟨xs, rfl⟩ := ih hw.2.2
    exact ⟨x :: xs, rfl⟩

namespace Script

/-- Every program that is in some text can be written. -/
theorem exists_of_derives {cs : List Char} {ts : List Token} {p : Program} (hs : Splits cs ts)
    (hd : Program.Derives ts p) (hne : p ≠ []) : ∃ s : Script, s.program = p := by
  obtain ⟨xs, rfl⟩ := hd.exists_script hs.writable
  exact ⟨⟨xs, fun h => hne (by rw [h, List.map_nil])⟩, rfl⟩

/-- **A program that was written is read back as itself**, with any blanks around the semicolons.
An expression is written without parentheses around it, or else it would be no phrase of the level
of its place without them. And every program that a text derives can be written. -/
theorem parse_text :
    (∀ (p : Script) (before after : List Char),
      (∀ c ∈ before, Text.isBlank c = true) → (∀ c ∈ after, Text.isBlank c = true) →
        Program.parse (p.text before after) = .ok p.program) ∧
    (∀ (e : Expr) (l : Level), e.words l = e.phrase ∨
      e.words l = .openParen :: (e.phrase ++ [.closeParen]) ∧
        ∀ x, ¬ Expr.Derives l (e.phrase.map Word.token) x) ∧
    ∀ (cs : List Char) (ts : List Token) (q : Program), Splits cs ts → Program.Derives ts q →
      q ≠ [] → ∃ p : Script, p.program = q := by
  refine ⟨fun p before after hb ha => ?_, fun e l => ?_, fun cs ts q => exists_of_derives⟩
  · obtain ⟨ts, hsplits, hderives⟩ := splits_statements hb ha p.nonempty
    exact Program.parse_ofList hsplits hderives (mt List.map_eq_nil_iff.1 p.nonempty)
  · rw [Expr.words, enclose]
    split
    · exact .inl rfl
    · rename_i hlt
      exact .inr ⟨rfl, Expr.not_derives_phrase (Nat.not_le.1 hlt)⟩

def nameA : Name := ⟨"a", by decide⟩

def nameB : Name := ⟨"b c", by decide⟩

/-- The digits `02.` for two. -/
def two : Numeral :=
  ⟨'0', ['2', '.'], ⟨false, 2, 0⟩, by decide, List.all_eq_true.1 rfl, by decide⟩

/-- A script with operands at the left and at the right of operators of every level. -/
def conditional : Script where
  statements := [
    .branch (.binary .and (.not (.binary .or (.field nameA) (.literal (.string "it's \\"))))
        (.binary (.compare .lt) (.neg (.binary .add (.field nameB) (.literal .null)))
          (.binary .sub (.binary .sub (.field nameB) (.literal (.number two)))
            (.binary .sub (.field nameB) (.neg (.literal .true))))))
      [.assign nameB (.binary (.compare .ne) (.field nameA) (.literal .false)), .delete nameA]
      [.delete nameB] (by simp),
    .action (.delete nameA)]
  nonempty := by simp

/-- A field set to another one, without quotes around the names. -/
theorem splits_assign : Splits ['x', '=', 'y'] [.field "x", .assign, .field "y"] := by
  have hx : Token.Spells ['x'] (.field (.ofList ['x'])) :=
    .name ⟨'x', [], rfl, by decide, by simp⟩ fun k => by cases k <;> decide
  have hy : Token.Spells ['y'] (.field (.ofList ['y'])) :=
    .name ⟨'y', [], rfl, by decide, by simp⟩ fun k => by cases k <;> decide
  have hassign : Token.Spells ['='] .assign := .symbol (by decide)
  have hxends : ¬ Token.Prolongs '=' ['x'] := by
    rw [Token.Prolongs, if_neg (by decide), if_pos (by decide)]
    decide
  have hassignends : ¬ Token.Prolongs 'y' ['='] :=
    Token.not_prolongs (by decide) (by decide) (by simp)
  have hrest : Splits ['=', 'y'] [.assign, .field "y"] :=
    .token hassign (by rintro c ⟨⟩; exact hassignends) (.token hy (by simp) .nil)
  exact .token hx (by rintro c ⟨⟩; exact hxends) hrest

theorem parse_text_conditional :
    (∀ c ∈ [' '], Text.isBlank c = true) ∧
    two.value = .number (.int 2 (by decide)) ∧
    conditional.text [] [' '] =
      "if not ( `a` or 'it\\'s \\\\' ) and - ( `b c` + null ) < `b c` - 02. - ( `b c` - - true ) " ++
        "then `b c` = `a` != false , delete `a` else delete `b c`; delete `a`" ∧
    Program.parse (conditional.text [] [' ']) = .ok [
      .branch (.binary .and
          (.not (.binary .or (.field "a") (.literal (.string "it's \\"))))
          (.binary (.compare .lt) (.neg (.binary .add (.field "b c") (.literal .null)))
            (.binary .sub (.binary .sub (.field "b c") (.literal two.value))
              (.binary .sub (.field "b c") (.neg (.literal (.bool true)))))))
        [.assign "b c" (.binary (.compare .ne) (.field "a") (.literal (.bool false))),
          .delete "a"]
        [.delete "b c"],
      .action (.delete "a")] ∧
    Splits ['x', '=', 'y'] [.field "x", .assign, .field "y"] ∧
    Program.Derives [.field "x", .assign, .field "y"] [.action (.assign "x" (.field "y"))] ∧
    ∃ p : Script, p.program = [.action (.assign "x" (.field "y"))] := by
  have hblank : ∀ c ∈ [' '], Text.isBlank c = true := List.all_eq_true.1 rfl
  have hderives : Program.Derives [.field "x", .assign, .field "y"]
      [.action (.assign "x" (.field "y"))] :=
    .last (.action (.assign "x" (Expr.Derives.of_le (.field "y") (Nat.zero_le _))))
  exact ⟨hblank, by decide +kernel, by decide +kernel,
    parse_text.1 conditional [] [' '] (by simp) hblank, splits_assign, hderives,
    parse_text.2.2 _ _ _ splits_assign hderives (List.cons_ne_nil _ _)⟩

end Script

end Reshape
