import Reshape.Proofs.Sequencing

/-!
# Entries as program texts

What entries of `mapValues` and `mapFields` say of one field can be said by a program text, in which
names and strings stand between quotes.

* `Revision.replacementText`: the text for an entry with `field`, `from` and `to`.
  `Revision.apply_replacement`: what becomes of a record.
* `Renaming.movingText`: the text for an entry with `from` and `to`. `Renaming.apply_moving`: what
  becomes of a record that has the field.
* `Operator.run_as_text`: lists of entries and of their texts.
-/

namespace Reshape

open Script (Name Literal)

/-- A name between quotes. -/
def Script.Name.quoted (n : Name) : String := "`" ++ n.text ++ "`"

/-- A literal as it is written: a string between single quotes, with a backslash before each quote
and each backslash in it. -/
def Script.Literal.text (v : Literal) : String := .ofList v.word.text

/-- Null equals no other value. -/
theorem Value.strictEq_null {v : Value} (h : v ≠ .null) : strictEq .null v = false := by
  cases v with
  | null => exact absurd rfl h
  | _ => rfl

/-! ## Replacing values -/

namespace Revision

variable (f : Name) (old new : Literal)

/-- An entry of `mapValues` that replaces a value of a field. -/
def replacementEntry (field : String) (old new : Value) : Value :=
  .object [("field", .string field), ("from", old), ("to", new)]

def replacementText : String :=
  "if " ++ f.quoted ++ " == " ++ old.text ++ " then " ++ f.quoted ++ " = " ++ new.text

def replacementStatement : Script.Statement :=
  .branch (.binary (.compare .eq) (.field f) (.literal old)) [.assign f (.literal new)] []
    (List.cons_ne_nil _ _)

theorem ofList_line_replacement :
    .ofList (Word.line (replacementStatement f old new).words) = replacementText f old new := by
  have hwords : (replacementStatement f old new).words = [.keyword .if, .name f, .comparison .eq,
      old.word, .keyword .then, .name f, .assign, new.word] := rfl
  rw [hwords, ← String.toList_inj, String.toList_ofList]
  simp [replacementText, Word.line, Name.quoted, Literal.text, Word.keyword, Word.name,
    Word.comparison, Word.assign, Keyword.text, Comparison.text, Token.nameQuote]

theorem parse_replacementText : Program.parse (replacementText f old new) =
    .ok [(replacementStatement f old new).toStatement] := by
  rw [← ofList_line_replacement]
  exact Program.parse_ofList (Word.splits_line _)
    (.last (replacementStatement f old new).derives_words) (List.cons_ne_nil _ _)

variable {old}

/-- The text does to a record what the entry does. A field that is not there is no replaced value:
the text takes it for null. -/
theorem apply_replacement (hold : old.value ≠ .null) (r : Record) :
    Program.apply [(replacementStatement f old new).toStatement] r =
      (replace f.text old.value new.value).apply r := by
  change (if (Value.bool (((r.get? f.text).getD .null).strictEq old.value)).truthy then
    [Action.assign f.text (.literal new.value)] else []).foldl Action.apply r = _
  rw [Revision.apply]
  cases r.get? f.text with
  | none =>
    rw [Option.getD_none, Value.strictEq_null hold]
    rfl
  | some v =>
    rw [Option.getD_some]
    dsimp only
    cases v.strictEq old.value <;> rfl

end Revision

/-! ## Renaming fields -/

namespace Renaming

variable (a b : Name)

/-- An entry of `mapFields` that moves a field. -/
def movingEntry (source target : String) : Value :=
  .object [("from", .string source), ("to", .string target)]

def movingText : String := b.quoted ++ " = " ++ a.quoted ++ "; delete " ++ a.quoted

def movingProgram : Program :=
  [.action (.assign b.text (.field a.text)), .action (.delete a.text)]

theorem parse_movingText : Program.parse (movingText a b) = .ok (movingProgram a b) := by
  let move : Script.Action := .assign b (.field a)
  let drop : Script.Action := .delete a
  have htext : movingText a b =
      .ofList (Word.line move.words ++ ';' :: ' ' :: Word.line drop.words) := by
    have hmove : move.words = [.name b, .assign, .name a] := rfl
    have hdrop : drop.words = [.keyword .delete, .name a] := rfl
    rw [hmove, hdrop, ← String.toList_inj, String.toList_ofList]
    simp [movingText, Word.line, Name.quoted, Word.keyword, Word.name, Word.assign, Keyword.text,
      Token.nameQuote]
  have hblank : Text.isBlank ' ' = true := by decide
  have hsplits := (Word.splits_line move.words).append_semicolon
    (.blank hblank (Word.splits_line drop.words))
  have hderives := (Program.Derives.last (.action move.derives_words)).append
    (.last (.action drop.derives_words))
  rw [htext]
  exact Program.parse_ofList hsplits hderives (List.cons_ne_nil _ _)

variable {a b}

/-- The text moves a field as the entry does. Where the field is not, the text would set the other
one to null. -/
theorem apply_moving (hne : a.text ≠ b.text) {r : Record} (h : r.get? a.text ≠ none) :
    (movingProgram a b).apply r = (⟨a.text, b.text, false⟩ : Renaming).apply r := by
  obtain ⟨v, hv⟩ := Option.ne_none_iff_exists'.1 h
  rw [Renaming.apply, if_neg hne, hv]
  change (r.insert b.text ((r.get? a.text).getD .null)).erase a.text = _
  rw [hv]
  rfl

end Renaming

/-! ## Lists of entries -/

/-- **Entries are program texts.** Take a field whose name has no quote in it. The entry of
`mapValues` that replaces a value of it, a string or `true` or `false` or any other one but null
that can be written, does the same as the text with a condition and an assignment, alone or among
other entries. And the entry of `mapFields` that moves it to another such field makes of every
record that has it what the text with an assignment and a deletion makes of it. -/
theorem Operator.run_as_text :
    (∀ (f : Name) (old new : Literal), old.value ≠ .null →
      ∀ (setting : Setting) (job : String) (s : Session),
        let run (items : List Value) := Operator.mapValues.run setting job (.array items) s
        let entry := Revision.replacementEntry f.text old.value new.value
        let text := Revision.textEntry (Revision.replacementText f old new)
        (∀ before after, run (before ++ [entry] ++ after) = run (before ++ [text] ++ after)) ∧
        ∀ c, s.store.get? job = some c → ∃ log, run [text] = (.ok (), ⟨s.store.insert job
          (c.map (·.mapFields fun r => (Revision.replace f.text old.value new.value).apply r)),
          s.files, log⟩)) ∧
    ∀ (a b : Name), a.text ≠ b.text → ∃ p : Program,
      Program.parse (Renaming.movingText a b) = .ok p ∧
      (∀ r : Record, r.get? a.text ≠ none →
        p.apply r = (⟨a.text, b.text, false⟩ : Renaming).apply r) ∧
      ∀ (setting : Setting) (job : String) (s : Session) (c : Collection),
        s.store.get? job = some c → ∃ log log',
          Operator.mapFields.run setting job (.array [Renaming.movingEntry a.text b.text]) s =
            (.ok (), ⟨s.store.insert job
              (c.map (·.mapFields (⟨a.text, b.text, false⟩ : Renaming).apply)), s.files, log⟩) ∧
          Operator.mapValues.run setting job
              (.array [Revision.textEntry (Renaming.movingText a b)]) s =
            (.ok (), ⟨s.store.insert job (c.map (·.mapFields p.apply)), s.files, log'⟩) := by
  refine ⟨fun f old new hold setting job s => ⟨fun before after => ?_, fun c hc => ?_⟩,
    fun a b hne => ⟨_, Renaming.parse_movingText a b, fun r => Renaming.apply_moving hne,
      fun setting job s c hc => ?_⟩⟩
  · have hentry : Revision.ofItems setting.mappers
        [Revision.replacementEntry f.text old.value new.value] =
          some (.ok [.replace f.text old.value new.value]) :=
      Revision.ofItems_singleton (e := .replace f.text old.value new.value) rfl rfl
    have htext : Revision.ofItems setting.mappers
        [Revision.textEntry (Revision.replacementText f old new)] =
          some (.ok [.program [(Revision.replacementStatement f old new).toStatement]]) :=
      Revision.ofItems_textEntry (Revision.parse_replacementText f old new)
    refine Operator.run_mapValues_congr (Revision.readAll_congr hentry htext (fun r => ?_) s.store
      before after)
    exact (Revision.apply_replacement f new hold r).symm
  · obtain ⟨log, hrun⟩ := Operator.run_textEntry (Revision.parse_replacementText f old new) hc
    rw [funext (Revision.apply_replacement f new hold)] at hrun
    exact ⟨log, hrun⟩
  · have hms : Renaming.readAll s.store (.array [Renaming.movingEntry a.text b.text]) =
        .ok [⟨a.text, b.text, false⟩] := rfl
    obtain ⟨log, hfields⟩ := run_of_change_put (by decide) (change_mapFields hc hms)
    obtain ⟨log', hvalues⟩ := Operator.run_textEntry (Renaming.parse_movingText a b) hc
    exact ⟨log, log', hfields, hvalues⟩

def quoteField : Name := ⟨"o'k", by decide⟩

def plainField : Name := ⟨"if", by decide⟩

/-- A string with a quote and a backslash in it. -/
def quoteLiteral : Literal := .string "it's \\"

/-- A record with the string, and one without the field. -/
def quoteSession : Session :=
  ⟨.ofList [("a", [.object [("o'k", .string "it's \\"), ("if", .bool true)],
    .object [("if", .null)]])], default, []⟩

theorem Operator.run_as_text_quoteSession :
    quoteLiteral.value ≠ .null ∧
    Revision.replacementText quoteField quoteLiteral .false =
      "if `o'k` == 'it\\'s \\\\' then `o'k` = false" ∧
    mapValues.run ⟨none, .empty⟩ "a" (.array [Revision.replacementEntry "o'k"
        (.string "it's \\") (.bool false)]) quoteSession =
      mapValues.run ⟨none, .empty⟩ "a" (.array [Revision.textEntry
        "if `o'k` == 'it\\'s \\\\' then `o'k` = false"]) quoteSession ∧
    (∃ log, mapValues.run ⟨none, .empty⟩ "a" (.array [Revision.textEntry
        "if `o'k` == 'it\\'s \\\\' then `o'k` = false"]) quoteSession =
      (.ok (), ⟨quoteSession.store.insert "a" [.object [("o'k", .bool false), ("if", .bool true)],
        .object [("if", .null)]], quoteSession.files, log⟩)) ∧
    quoteField.text ≠ plainField.text ∧
    Renaming.movingText quoteField plainField = "`if` = `o'k`; delete `o'k`" ∧
    ∃ p : Program, Program.parse "`if` = `o'k`; delete `o'k`" = .ok p ∧
      p.apply [("o'k", .string "it's \\"), ("if", .bool true)] = [("if", .string "it's \\")] := by
  have hold : quoteLiteral.value ≠ .null := by decide
  have hne : quoteField.text ≠ plainField.text := by decide
  obtain ⟨hreplace, hmove⟩ := run_as_text
  obtain ⟨p, hparse, hp, -⟩ := hmove quoteField plainField hne
  obtain ⟨hsame, hrun⟩ :=
    hreplace quoteField quoteLiteral .false hold ⟨none, .empty⟩ "a" quoteSession
  exact ⟨hold, by decide, hsame [] [], hrun _ rfl, hne, by decide, p, hparse, hp _ (by decide)⟩

end Reshape
