import Reshape.Proofs.Canonical
import Reshape.Proofs.Recordwise
import Reshape.Proofs.Writing

/-!
# Programs one after another

Two program texts with a semicolon between them are the text of one program, which does what the
first does and then what the second does. The semicolon goes on no token of the first text, and no
statement goes on behind it.

* `Program.Derives.append`: the tokens of two programs with a semicolon between them.
* `Splits.append_semicolon`: the tokens of two texts with a semicolon between them.
* `Revision.readAll_congr`: entries of which the same becomes of every record may stand for each
  other in a list.
* `Program.parse_joined`: two texts joined by a semicolon, as programs and as entries of
  `mapValues`.
-/

namespace Reshape

/-! ## Texts and tokens -/

theorem Program.Derives.append {ts us : List Token} {p q : Program} (hp : Derives ts p)
    (hq : Derives us q) : Derives (ts ++ .semicolon :: us) (p ++ q) := by
  induction hp with
  | nil => exact .semicolon hq
  | semicolon _ ih => exact .semicolon ih
  | last hs => exact .cons hs hq
  | cons hs _ ih =>
    rw [List.append_assoc]
    exact .cons hs ih

theorem Splits.append_semicolon {cs ds : List Char} {ts us : List Token} (h : Splits cs ts)
    (h' : Splits ds us) : Splits (cs ++ ';' :: ds) (ts ++ .semicolon :: us) := by
  have hnone : ∀ c ∈ ([] : List Char), Text.isBlank c = true := List.forall_mem_nil _
  have hhead : ∀ c ∈ (([] ++ ';' :: []) ++ ds).head?, Token.Separates c :=
    Script.separates_head hnone ds
  have hrest : Splits (';' :: ds) (.semicolon :: us) := Script.splits_semicolon hnone hnone h'
  exact h.append hhead hrest

theorem Program.parse_append {text text' : String} {p q : Program} (hp : parse text = .ok p)
    (hq : parse text' = .ok q) : parse (text ++ ";" ++ text') = .ok (p ++ q) := by
  obtain ⟨ts, hsplits, hderives, hne⟩ := exists_derives_of_parse hp
  obtain ⟨us, hsplits', hderives', -⟩ := exists_derives_of_parse hq
  have htext : text ++ ";" ++ text' = .ofList (text.toList ++ ';' :: text'.toList) := by
    rw [← String.toList_inj, String.toList_ofList, String.toList_append, String.toList_append,
      List.append_assoc]
    rfl
  rw [htext]
  exact parse_ofList (hsplits.append_semicolon hsplits') (hderives.append hderives') (by simp [hne])

theorem Program.apply_append (p q : Program) (r : Record) :
    Program.apply (p ++ q) r = q.apply (p.apply r) :=
  List.foldl_append

/-! ## Entries of `mapValues` -/

namespace Revision

variable {mappers : Mappers} {items items' : List Value} {rs rs' : List Revision}

/-- What the elements of a list stand for, if they all are entries. -/
def ofItems (mappers : Mappers) (items : List Value) : Option (Except Cause (List Revision)) :=
  (items.mapM Entry.ofValue?).map (·.mapM (ofEntry mappers))

theorem ofItems_singleton {v : Value} {e : Entry} {r : Revision}
    (he : Entry.ofValue? v = some e) (hr : ofEntry mappers e = .ok r) :
    ofItems mappers [v] = some (.ok [r]) := by
  simp only [ofItems, List.mapM_cons, List.mapM_nil, he]
  change some (ofEntry mappers e >>= _) = _
  rw [hr]
  rfl

theorem ofItems_append (h : ofItems mappers items = some (.ok rs))
    (h' : ofItems mappers items' = some (.ok rs')) :
    ofItems mappers (items ++ items') = some (.ok (rs ++ rs')) := by
  obtain ⟨es, hes, hrs⟩ := Option.map_eq_some_iff.1 h
  obtain ⟨es', hes', hrs'⟩ := Option.map_eq_some_iff.1 h'
  rw [ofItems, List.mapM_append, hes, hes']
  change some ((es ++ es').mapM (ofEntry mappers)) = _
  rw [List.mapM_append, hrs, hrs']
  rfl

/-- Entries of which the same becomes of every record may stand for each other in a list, whatever
else is in it. -/
theorem readAll_congr (h : ofItems mappers items = some (.ok rs))
    (h' : ofItems mappers items' = some (.ok rs'))
    (heq : ∀ r, rs.foldl Revision.apply r = rs'.foldl Revision.apply r) (s : Store)
    (before after : List Value) :
    (readAll mappers s (.array (before ++ items ++ after))).map
        (fun rs r => rs.foldl Revision.apply r) =
      (readAll mappers s (.array (before ++ items' ++ after))).map
        fun rs r => rs.foldl Revision.apply r := by
  obtain ⟨es, hes, hrs⟩ := Option.map_eq_some_iff.1 h
  obtain ⟨es', hes', hrs'⟩ := Option.map_eq_some_iff.1 h'
  simp only [readAll, Reference.ofValue, Reference.resolveAs, Reference.resolve, List.mapM_append,
    hes, hes']
  -- what is no entry, or stands for nothing, is so in both lists
  cases before.mapM Entry.ofValue? with
  | none => rfl
  | some es₁ =>
    cases after.mapM Entry.ofValue? with
    | none => rfl
    | some es₂ =>
      change Except.map _ ((es₁ ++ es ++ es₂).mapM (ofEntry mappers)) =
        Except.map _ ((es₁ ++ es' ++ es₂).mapM (ofEntry mappers))
      simp only [List.mapM_append, hrs, hrs']
      cases es₁.mapM (ofEntry mappers) with
      | error e => rfl
      | ok rs₁ =>
        cases es₂.mapM (ofEntry mappers) with
        | error e => rfl
        | ok rs₂ =>
          refine congrArg Except.ok (funext fun r => ?_)
          simp only [List.foldl_append, heq]

/-- The entry that runs a program. -/
def textEntry (text : String) : Value := .object [("map", .string text)]

theorem ofItems_textEntry {text : String} {p : Program} (h : Program.parse text = .ok p) :
    ofItems mappers [textEntry text] = some (.ok [.program p]) := by
  refine ofItems_singleton (e := .expression text) rfl ?_
  rw [ofEntry, h]

end Revision

/-- The entry that runs a program makes of a collection what the program makes of its records. -/
theorem Operator.run_textEntry {setting : Setting} {job text : String} {p : Program} {s : Session}
    {c : Collection} (h : Program.parse text = .ok p) (hc : s.store.get? job = some c) :
    ∃ log, Operator.mapValues.run setting job (.array [Revision.textEntry text]) s =
      (.ok (), ⟨s.store.insert job (c.map (·.mapFields p.apply)), s.files, log⟩) := by
  have hrs : Revision.readAll setting.mappers s.store (.array [Revision.textEntry text]) =
      .ok [.program p] := by
    change [Revision.Entry.expression text].mapM (Revision.ofEntry setting.mappers) = _
    rw [List.mapM_cons, Revision.ofEntry, h]
    rfl
  exact run_of_change_put (by decide) (change_mapValues hc hrs)

/-- **Program texts are joined by a semicolon.** Of two texts that are programs, the joined text is
one program, which makes of every record what the second program makes of the result of the first.
So the joined text as one entry of `mapValues` does the same as the two texts as two entries, alone
or among others, and on a collection that is there it does so without failing. -/
theorem Program.parse_joined : ∀ (text text' : String) (p q : Program),
    parse text = .ok p → parse text' = .ok q →
    (∃ pq : Program, parse (text ++ ";" ++ text') = .ok pq ∧
      ∀ r, pq.apply r = q.apply (p.apply r)) ∧
    ∀ (setting : Setting) (job : String) (s : Session),
      let run (items : List Value) := Operator.mapValues.run setting job (.array items) s
      let entry := Revision.textEntry
      (∀ before after, run (before ++ [entry text, entry text'] ++ after) =
        run (before ++ [entry (text ++ ";" ++ text')] ++ after)) ∧
      ∀ c, s.store.get? job = some c → ∃ log, run [entry (text ++ ";" ++ text')] =
        (.ok (), ⟨s.store.insert job (c.map (·.mapFields fun r => q.apply (p.apply r))),
          s.files, log⟩) := by
  intro text text' p q hp hq
  have hjoined := parse_append hp hq
  have happly := apply_append p q
  refine ⟨⟨p ++ q, hjoined, happly⟩, fun setting job s => ⟨fun before after => ?_, fun c hc => ?_⟩⟩
  · have htwo : Revision.ofItems setting.mappers
        ([Revision.textEntry text] ++ [Revision.textEntry text']) =
          some (.ok ([.program p] ++ [.program q])) :=
      Revision.ofItems_append (Revision.ofItems_textEntry hp) (Revision.ofItems_textEntry hq)
    exact Operator.run_mapValues_congr (Revision.readAll_congr htwo
      (Revision.ofItems_textEntry hjoined) (fun r => (happly r).symm) s.store before after)
  · obtain ⟨log, hrun⟩ := Operator.run_textEntry hjoined hc
    rw [funext happly] at hrun
    exact ⟨log, hrun⟩

/-- Ends with a semicolon, and has one in a string. -/
def noteText : String := "if n<2.then `a b`='it\\'s;' ;"

/-- Starts with a semicolon. -/
def dropText : String := ";delete n"

def noteProgram : Program :=
  [.branch (.binary (.compare .lt) (.field "n") (.literal Script.two.value))
    [.assign "a b" (.literal (.string "it's;"))] []]

/-- Records with a number that is less than two and with one that is not, and a value. -/
def numberedRecords : Collection :=
  [.object [("n", .number (.int 0 Number.isWord_zero)), ("k", .string "x")],
    .object [("n", Script.two.value)], .null]

def numberedSession : Session := ⟨.ofList [("a", numberedRecords)], default, []⟩

theorem Program.parse_joined_noteText :
    parse noteText = .ok noteProgram ∧ parse dropText = .ok [.action (.delete "n")] ∧
    noteText ++ ";" ++ dropText = "if n<2.then `a b`='it\\'s;' ;;;delete n" ∧
    (∃ pq : Program, parse (noteText ++ ";" ++ dropText) = .ok pq ∧
      ∀ r, pq.apply r = Program.apply [.action (.delete "n")] (noteProgram.apply r)) ∧
    Operator.mapValues.run ⟨none, .empty⟩ "a"
        (.array [Revision.textEntry noteText, Revision.textEntry dropText]) numberedSession =
      Operator.mapValues.run ⟨none, .empty⟩ "a"
        (.array [Revision.textEntry (noteText ++ ";" ++ dropText)]) numberedSession ∧
    ∃ log, Operator.mapValues.run ⟨none, .empty⟩ "a"
        (.array [Revision.textEntry (noteText ++ ";" ++ dropText)]) numberedSession =
      (.ok (), ⟨numberedSession.store.insert "a" [.object [("k", .string "x"),
        ("a b", .string "it's;")], .object [], .null], numberedSession.files, log⟩) := by
  have hnote : parse noteText = .ok noteProgram := by decide +kernel
  have hdrop : parse dropText = .ok [.action (.delete "n")] := by decide +kernel
  obtain ⟨hparse, hrun⟩ := parse_joined noteText dropText _ _ hnote hdrop
  obtain ⟨hsame, hresult⟩ := hrun ⟨none, .empty⟩ "a" numberedSession
  obtain ⟨log, hlog⟩ := hresult numberedRecords rfl
  have hrecords : (numberedRecords.map (·.mapFields fun r =>
      Program.apply [.action (.delete "n")] (noteProgram.apply r))) =
        [.object [("k", .string "x"), ("a b", .string "it's;")], .object [], .null] := by
    decide +kernel
  rw [hrecords] at hlog
  exact ⟨hnote, hdrop, by decide, hparse, hsame [] [], log, hlog⟩

end Reshape
