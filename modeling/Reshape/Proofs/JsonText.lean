import Reshape.Json.Draft
import Reshape.Proofs.Literals

/-!
# Values that are read as they are written

A value is written without blanks or on indented lines. Both are layouts of one text, which is read
alike wherever the blanks stand.

* `Json.Layout`: where blanks stand. `Json.Layout.write_tight` and `Json.Layout.write_lines`: the
  two ways to write a value.
* `Value.Readable`: numbers that are read as they are written, distinct field names, and no more
  levels than are read.
* `Value.Readable.reads`: such a value is read in every layout, whatever follows it.
* `Value.ofText?_text`, `Value.ofText?_prettyText`: it is read from its text.
-/

namespace Reshape

/-! ## Drafts of values -/

namespace Draft

mutual

/-- The draft of a text that is complete. -/
def ofValue : Value → Draft
  | .null => .null
  | .bool b => .bool b
  | .number n => .number n
  | .string s => .string s
  | .array items => .array (ofValues items) true
  | .object fields => .object (ofFields fields) true

def ofValues : List Value → List Draft
  | [] => []
  | v :: r => ofValue v :: ofValues r

def ofFields : List (String × Value) → List (Option String × Draft)
  | [] => []
  | (k, v) :: r => (some k, ofValue v) :: ofFields r

end

theorem values?_ofValues {depth : Nat} {items : List Value}
    (h : ∀ v ∈ items, value? depth (ofValue v) = some v) :
    values? depth (ofValues items) = some items := by
  induction items with
  | nil => rfl
  | cons v r ih =>
    rw [ofValues, values?, h v List.mem_cons_self, ih fun w hw => h w (List.mem_cons_of_mem v hw)]
    rfl

theorem fieldValues?_ofFields {depth : Nat} {fields : List (String × Value)}
    (h : ∀ f ∈ fields, value? depth (ofValue f.2) = some f.2) :
    fieldValues? depth (ofFields fields) = some fields := by
  induction fields with
  | nil => rfl
  | cons f r ih =>
    obtain ⟨k, v⟩ := f
    rw [ofFields, fieldValues?, h (k, v) List.mem_cons_self,
      ih fun g hg => h g (List.mem_cons_of_mem _ hg)]
    rfl

/-! ## Blanks -/

variable {bs cs : List Char}

theorem skipBlanks_append (h : ∀ c ∈ bs, isBlank c = true) (cs : List Char) :
    skipBlanks (bs ++ cs) = skipBlanks cs :=
  List.dropWhile_append_of_pos h

theorem skipBlanks_cons {c : Char} (h : isBlank c = false) (cs : List Char) :
    skipBlanks (c :: cs) = c :: cs := by
  rw [skipBlanks, List.dropWhile_cons, h]
  rfl

theorem readValue_blanks (h : ∀ c ∈ bs, isBlank c = true) (fuel : Nat) (cs : List Char) :
    readValue fuel (bs ++ cs) = readValue fuel cs := by
  cases fuel with
  | zero => rfl
  | succ fuel => rw [readValue, readValue, skipBlanks_append h]

theorem readFields_blanks (h : ∀ c ∈ bs, isBlank c = true) (fuel : Nat) (cs : List Char) :
    readFields fuel (bs ++ cs) = readFields fuel cs := by
  cases fuel with
  | zero => rfl
  | succ fuel => rw [readFields, readFields, skipBlanks_append h]

/-- A numeral does not go on with a blank or a mark. -/
theorem ends_append (h : ∀ c ∈ bs, isBlank c = true) (hr : Json.Ends cs) :
    Json.Ends (bs ++ cs) := by
  intro c hc
  rw [List.head?_append, Option.mem_def, Option.or_eq_some_iff] at hc
  rcases hc with hc | ⟨-, hc⟩
  · have hb := h c (List.mem_of_mem_head? hc)
    simp only [isBlank, Bool.or_eq_true, beq_iff_eq] at hb
    rcases hb with ((rfl | rfl) | rfl) | rfl <;> decide
  · exact hr c hc

theorem ends_mark {c : Char} (hc : c ∈ [',', ']', '\x7d']) (cs : List Char) :
    Json.Ends (c :: cs) := by
  rintro d hd
  cases hd
  simp only [List.mem_cons, List.not_mem_nil, or_false] at hc
  rcases hc with rfl | rfl | rfl <;> decide

end Draft

namespace Json

/-! ## Layouts -/

/-- Where blanks stand: before elements and closing marks, by level, and after colons. -/
structure Layout where
  line : Nat → List Char
  gap : List Char
  line_blank : ∀ n, ∀ c ∈ line n, Draft.isBlank c = true
  gap_blank : ∀ c ∈ gap, Draft.isBlank c = true

namespace Layout

/-- No blanks. -/
def tight : Layout := ⟨fun _ => [], [], nofun, nofun⟩

theorem isBlank_of_mem_newline (n : Nat) : ∀ c ∈ newline n, Draft.isBlank c = true := by
  intro c hc
  rw [newline, List.mem_cons, List.mem_replicate] at hc
  rcases hc with rfl | ⟨-, rfl⟩ <;> decide

/-- Each element and field on a line of its own. -/
def lines : Layout := ⟨newline, [' '], isBlank_of_mem_newline, by simp [Draft.isBlank]⟩

@[simp] theorem tight_line (n : Nat) : tight.line n = [] := rfl

@[simp] theorem tight_gap : tight.gap = [] := rfl

@[simp] theorem lines_line (n : Nat) : lines.line n = newline n := rfl

@[simp] theorem lines_gap : lines.gap = [' '] := rfl

mutual

/-- A value in a layout. -/
def write (l : Layout) (level : Nat) : Value → List Char
  | .null => ['n', 'u', 'l', 'l']
  | .bool true => ['t', 'r', 'u', 'e']
  | .bool false => ['f', 'a', 'l', 's', 'e']
  | .number n => n.text.toList
  | .string s => quote s
  | .array [] => ['[', ']']
  | .array (x :: r) =>
    '[' :: (l.line (level + 1) ++ (write l (level + 1) x ++ writeItems l level r))
  | .object [] => ['\x7b', '\x7d']
  | .object ((k, x) :: r) =>
    '\x7b' :: (l.line (level + 1) ++ (quote k ++ ':' :: (l.gap ++ (write l (level + 1) x ++
      writeFields l level r))))

/-- Further elements and the closing bracket. -/
def writeItems (l : Layout) (level : Nat) : List Value → List Char
  | [] => l.line level ++ [']']
  | x :: r => ',' :: (l.line (level + 1) ++ (write l (level + 1) x ++ writeItems l level r))

/-- Further fields and the closing brace. -/
def writeFields (l : Layout) (level : Nat) : List (String × Value) → List Char
  | [] => l.line level ++ ['\x7d']
  | (k, x) :: r =>
    ',' :: (l.line (level + 1) ++ (quote k ++ ':' :: (l.gap ++ (write l (level + 1) x ++
      writeFields l level r))))

end

mutual

theorem write_tight (level : Nat) : ∀ v, tight.write level v = compact v
  | .null | .bool true | .bool false | .number _ | .string _ | .array [] | .object [] => by
    simp [write, compact]
  | .array (x :: r) => by
    simp [write, compact, write_tight (level + 1) x, writeItems_tight level r]
  | .object ((_, x) :: r) => by
    simp [write, compact, write_tight (level + 1) x, writeFields_tight level r]

theorem writeItems_tight (level : Nat) : ∀ r, tight.writeItems level r = compactItems r
  | [] => rfl
  | x :: r => by
    simp [writeItems, compactItems, write_tight (level + 1) x, writeItems_tight level r]

theorem writeFields_tight (level : Nat) : ∀ r, tight.writeFields level r = compactFields r
  | [] => rfl
  | (_, x) :: r => by
    simp [writeFields, compactFields, write_tight (level + 1) x, writeFields_tight level r]

end

mutual

theorem write_lines (level : Nat) : ∀ v, lines.write level v = pretty level v
  | .null | .bool true | .bool false | .number _ | .string _ | .array [] | .object [] => by
    simp [write, pretty, compact]
  | .array (x :: r) => by
    simp [write, pretty, write_lines (level + 1) x, writeItems_lines level r]
  | .object ((_, x) :: r) => by
    simp [write, pretty, write_lines (level + 1) x, writeFields_lines level r]

theorem writeItems_lines (level : Nat) : ∀ r, lines.writeItems level r = prettyItems level r
  | [] => rfl
  | x :: r => by
    simp [writeItems, prettyItems, write_lines (level + 1) x, writeItems_lines level r]

theorem writeFields_lines (level : Nat) : ∀ r, lines.writeFields level r = prettyFields level r
  | [] => rfl
  | (_, x) :: r => by
    simp [writeFields, prettyFields, write_lines (level + 1) x, writeFields_lines level r]

end

end Layout

end Json

namespace Draft

/-! ## One step -/

variable {cs : List Char} {fuel : Nat} {d : Draft} {rest rest' : List Char}

theorem readValue_scalar {c : Char} (hb : isBlank c = false) (hc : c ∉ ['"', '[', '\x7b'])
    (cs : List Char) : readValue (fuel + 1) (c :: cs) = readScalar (c :: cs) := by
  simp only [List.mem_cons, List.not_mem_nil, or_false, not_or] at hc
  rw [readValue, skipBlanks_cons hb]
  split
  · exact absurd ‹_› (by simp [hc.1])
  · exact absurd ‹_› (by simp [hc.2.1])
  · exact absurd ‹_› (by simp [hc.2.2])
  · rfl

theorem readScalar_numeral {c : Char} (hc : c ∉ ['n', 't', 'f']) {l : Json.Numeral} {n : Number}
    (h : Json.scanNumeral (c :: cs) = some (l, rest)) (hn : l.number? = some n) :
    readScalar (c :: cs) = (.number n, some rest) := by
  simp only [List.mem_cons, List.not_mem_nil, or_false, not_or] at hc
  unfold readScalar
  split
  · exact absurd ‹_› (by simp [hc.1])
  · exact absurd ‹_› (by simp [hc.2.1])
  · exact absurd ‹_› (by simp [hc.2.2])
  · simp only [h, hn]

/-- What a numeral starts with is no blank and starts nothing else. -/
theorem head_of_numeral {c : Char} (h : c = '-' ∨ isDigit c = true) :
    isBlank c = false ∧ c ≠ ']' ∧ c ∉ ['"', '[', '\x7b'] ∧ c ∉ ['n', 't', 'f'] := by
  have hne (d : Char) (hd : ¬ (d = '-' ∨ isDigit d = true)) : c ≠ d := fun hcd => hd (hcd ▸ h)
  refine ⟨?_, hne _ (by decide), ?_, ?_⟩
  · simp only [isBlank, Bool.or_eq_false_iff, beq_eq_false_iff_ne]
    exact ⟨⟨⟨hne _ (by decide), hne _ (by decide)⟩, hne _ (by decide)⟩, hne _ (by decide)⟩
  all_goals
    simp only [List.mem_cons, List.not_mem_nil, or_false, not_or]
    exact ⟨hne _ (by decide), hne _ (by decide), hne _ (by decide)⟩

/-- A numeral is read where the text does not go on with it. -/
theorem readValue_number {n : Number} (h : n.ReadsBack) (hr : Json.Ends rest) :
    readValue (fuel + 1) (n.text.toList ++ rest) = (.number n, some rest) := by
  obtain ⟨l, hl, hn⟩ := h
  have hscan := Json.scanNumeral_append hl hr
  obtain ⟨c, s, hs, hc⟩ := Json.head_of_scanNumeral hl
  obtain ⟨hb, -, hmark, hword⟩ := head_of_numeral hc
  rw [hs, List.cons_append] at hscan ⊢
  rw [readValue_scalar hb hmark, readScalar_numeral hword hscan hn]
  rfl

theorem readValue_string (s : String) :
    readValue (fuel + 1) (Json.quote s ++ rest) = (.string s, some rest) := by
  rw [Json.quote_append, readValue, skipBlanks_cons (by decide)]
  simp only [Json.scanString_quote]

theorem readValue_array {next : List Char} (hs : skipBlanks cs = next)
    (hn : ∀ s, next ≠ ']' :: s) : readValue (fuel + 1) ('[' :: cs) =
      (.array (readItems fuel next).1 (readItems fuel next).2.isSome, (readItems fuel next).2) := by
  rw [readValue, skipBlanks_cons (by decide)]
  simp only [hs]

theorem readValue_object {next : List Char} (hs : skipBlanks cs = next)
    (hn : ∀ s, next ≠ '\x7d' :: s) : readValue (fuel + 1) ('\x7b' :: cs) =
      (.object (readFields fuel next).1 (readFields fuel next).2.isSome,
        (readFields fuel next).2) := by
  rw [readValue, skipBlanks_cons (by decide)]
  simp only [hs]

theorem readItems_close (h : readValue fuel cs = (d, some rest))
    (hc : skipBlanks rest = ']' :: rest') : readItems (fuel + 1) cs = ([d], some rest') := by
  rw [readItems]
  simp only [h, hc]

theorem readItems_more {next : List Char} (h : readValue fuel cs = (d, some rest))
    (hc : skipBlanks rest = ',' :: rest') (hs : skipBlanks rest' = next)
    (hn : ∀ s, next ≠ ']' :: s) :
    readItems (fuel + 1) cs = (d :: (readItems fuel next).1, (readItems fuel next).2) := by
  rw [readItems]
  simp only [h, hc, hs]

section Field

variable {key : Option String} {value : Draft} {after next : List Char}

theorem readFields_close (hk : Json.scanString cs = some (key, rest))
    (hc : skipBlanks rest = ':' :: rest') (hv : readValue fuel rest' = (value, some after))
    (he : skipBlanks after = '\x7d' :: next) :
    readFields (fuel + 1) ('"' :: cs) = ([(key, value)], some next) := by
  rw [readFields, skipBlanks_cons (by decide)]
  simp only [hk, hc, hv, he]

theorem readFields_more (hk : Json.scanString cs = some (key, rest))
    (hc : skipBlanks rest = ':' :: rest') (hv : readValue fuel rest' = (value, some after))
    (he : skipBlanks after = ',' :: next) :
    readFields (fuel + 1) ('"' :: cs) =
      ((key, value) :: (readFields fuel next).1, (readFields fuel next).2) := by
  rw [readFields, skipBlanks_cons (by decide)]
  simp only [hk, hc, hv, he]

end Field

end Draft

namespace Json.Layout

open Draft

/-- The value is read in the layout, whatever follows it. -/
structure Reads (l : Layout) (v : Value) : Prop where
  head : ∀ level, ∃ c s, l.write level v = c :: s ∧ isBlank c = false ∧ c ≠ ']'
  read : ∀ level fuel rest, Ends rest → 2 * (l.write level v).length ≤ fuel →
    readValue fuel (l.write level v ++ rest) = (ofValue v, some rest)

variable {l : Layout} {level fuel : Nat}

/-- Some fuel is there for what has a first character. -/
theorem Reads.of_succ {v : Value}
    (head : ∀ level, ∃ c s, l.write level v = c :: s ∧ isBlank c = false ∧ c ≠ ']')
    (read : ∀ level fuel rest, Ends rest → 2 * (l.write level v).length ≤ fuel + 1 →
      readValue (fuel + 1) (l.write level v ++ rest) = (ofValue v, some rest)) : l.Reads v where
  head := head
  read level fuel rest hr hf := by
    obtain _ | fuel := fuel
    · obtain ⟨c, s, hs, -⟩ := head level
      simp [hs] at hf
    · exact read level fuel rest hr hf

/-- Elements are read up to the bracket that closes them. -/
theorem readItems_write {x : Value} {r : List Value} {rest : List Char}
    (h : ∀ y ∈ x :: r, l.Reads y)
    (hf : 2 * ((l.write (level + 1) x).length + (l.writeItems level r).length) ≤ fuel) :
    readItems fuel (l.write (level + 1) x ++ (l.writeItems level r ++ rest)) =
      (ofValues (x :: r), some rest) := by
  have hx := (h x List.mem_cons_self).read (level + 1)
  induction r generalizing x fuel with
  | nil =>
    obtain _ | fuel := fuel
    · simp [writeItems] at hf
    simp only [writeItems, List.length_append, List.length_cons] at hf
    have hends : Ends (l.line level ++ ']' :: rest) :=
      ends_append (l.line_blank level) (ends_mark (by simp) rest)
    rw [writeItems, List.append_assoc, List.singleton_append]
    refine readItems_close (hx fuel _ hends (by omega)) ?_
    rw [skipBlanks_append (l.line_blank level), skipBlanks_cons (by decide)]
  | cons y r ih =>
    obtain _ | fuel := fuel
    · simp [writeItems] at hf
    simp only [writeItems, List.length_append, List.length_cons] at hf
    have hy : ∀ z ∈ y :: r, l.Reads z := fun z hz => h z (List.mem_cons_of_mem x hz)
    have hrest := ih hy (by omega : _ ≤ fuel) ((hy y List.mem_cons_self).read (level + 1))
    -- The element after the comma is no closing bracket.
    obtain ⟨c, s, hs, hb, hc⟩ := (hy y List.mem_cons_self).head (level + 1)
    have hskip : skipBlanks (l.line (level + 1) ++ (l.write (level + 1) y ++
        (l.writeItems level r ++ rest))) =
        l.write (level + 1) y ++ (l.writeItems level r ++ rest) := by
      rw [skipBlanks_append (l.line_blank _), hs, List.cons_append, skipBlanks_cons hb]
    simp only [writeItems, List.cons_append, List.append_assoc]
    rw [readItems_more (hx fuel _ (ends_mark (by simp) _) (by omega))
      (skipBlanks_cons (by decide) _) hskip (by simp [hs, hc]), hrest]
    rfl

/-- Fields are read up to the brace that closes them. -/
theorem readFields_write {k : String} {x : Value} {r : Record} {rest : List Char}
    (h : ∀ f ∈ (k, x) :: r, l.Reads f.2)
    (hf : 2 * ((l.write (level + 1) x).length + (l.writeFields level r).length) ≤ fuel) :
    readFields fuel (quote k ++ ':' :: (l.gap ++ (l.write (level + 1) x ++
      (l.writeFields level r ++ rest)))) = (ofFields ((k, x) :: r), some rest) := by
  have hx : l.Reads x := h (k, x) List.mem_cons_self
  rw [quote_append]
  induction r generalizing k x fuel with
  | nil =>
    obtain _ | fuel := fuel
    · simp [writeFields] at hf
    simp only [writeFields, List.length_append, List.length_cons] at hf
    have hends : Ends (l.line level ++ '\x7d' :: rest) :=
      ends_append (l.line_blank level) (ends_mark (by simp) rest)
    have hv := hx.read (level + 1) fuel _ hends (by omega)
    rw [← readValue_blanks l.gap_blank] at hv
    have hclose : skipBlanks (l.line level ++ '\x7d' :: rest) = '\x7d' :: rest := by
      rw [skipBlanks_append (l.line_blank level), skipBlanks_cons (by decide)]
    rw [writeFields, List.append_assoc, List.singleton_append,
      readFields_close (scanString_quote k _) (skipBlanks_cons (by decide) _) hv hclose]
    rfl
  | cons f r ih =>
    obtain ⟨j, y⟩ := f
    obtain _ | fuel := fuel
    · simp [writeFields] at hf
    simp only [writeFields, List.length_append, List.length_cons] at hf
    have hy : ∀ g ∈ (j, y) :: r, l.Reads g.2 := fun g hg => h g (List.mem_cons_of_mem _ hg)
    have hrest := ih hy (by omega : _ ≤ fuel) (hy (j, y) List.mem_cons_self)
    rw [← quote_append, ← readFields_blanks (l.line_blank (level + 1))] at hrest
    have hv := hx.read (level + 1) fuel _ (ends_mark (by simp : ',' ∈ [',', ']', '\x7d'])
      (l.line (level + 1) ++ (quote j ++ ':' :: (l.gap ++ (l.write (level + 1) y ++
        (l.writeFields level r ++ rest)))))) (by omega)
    rw [← readValue_blanks l.gap_blank] at hv
    simp only [writeFields, List.cons_append, List.append_assoc]
    rw [readFields_more (scanString_quote k _) (skipBlanks_cons (by decide) _) hv
      (skipBlanks_cons (by decide) _), hrest]
    rfl

end Json.Layout

/-! ## Values -/

/-- The value is read as it is written where `depth` levels are read: its numbers are, and the
fields of an object have distinct names. -/
inductive Value.Readable : Nat → Value → Prop
  | null {depth : Nat} : Readable depth .null
  | bool {depth : Nat} (b : Bool) : Readable depth (.bool b)
  | number {depth : Nat} {n : Number} : n.ReadsBack → Readable depth (.number n)
  | string {depth : Nat} (s : String) : Readable depth (.string s)
  | array {depth : Nat} {items : List Value} : (∀ v ∈ items, Readable depth v) →
    Readable (depth + 1) (.array items)
  | object {depth : Nat} {fields : Record} : (Record.keys fields).Nodup →
    (∀ f ∈ fields, Readable depth f.2) → Readable (depth + 1) (.object fields)

namespace Value.Readable

open Json Json.Layout Draft

variable {depth : Nat} {v : Value}

/-- A readable value is read in every layout. -/
theorem reads (h : v.Readable depth) (l : Layout) : l.Reads v := by
  induction h with
  | null =>
    exact .of_succ (fun _ => ⟨'n', _, rfl, by decide, by decide⟩) fun _ _ _ _ _ => rfl
  | bool b =>
    cases b
    · exact .of_succ (fun _ => ⟨'f', _, rfl, by decide, by decide⟩) fun _ _ _ _ _ => rfl
    · exact .of_succ (fun _ => ⟨'t', _, rfl, by decide, by decide⟩) fun _ _ _ _ _ => rfl
  | number hn =>
    refine .of_succ (fun _ => ?_) fun _ _ _ hr _ => readValue_number hn hr
    obtain ⟨_, hl, -⟩ := hn
    obtain ⟨c, s, hs, hc⟩ := head_of_scanNumeral hl
    exact ⟨c, s, hs, (head_of_numeral hc).1, (head_of_numeral hc).2.1⟩
  | string s =>
    exact .of_succ (fun _ => ⟨'"', _, rfl, by decide, by decide⟩)
      fun _ _ _ _ _ => readValue_string s
  | @array _ items _ ih =>
    cases items with
    | nil => exact .of_succ (fun _ => ⟨'[', _, rfl, by decide, by decide⟩) fun _ _ _ _ _ => rfl
    | cons x r =>
      refine .of_succ (fun _ => ⟨'[', _, rfl, by decide, by decide⟩) fun level fuel rest _ hf => ?_
      obtain ⟨c, s, hs, hb, hc⟩ := (ih x List.mem_cons_self).head (level + 1)
      simp only [write, List.length_cons, List.length_append] at hf
      have hitems := @readItems_write l level fuel x r rest ih (by omega)
      have hskip : skipBlanks (l.line (level + 1) ++ (l.write (level + 1) x ++
          (l.writeItems level r ++ rest))) =
          l.write (level + 1) x ++ (l.writeItems level r ++ rest) := by
        rw [skipBlanks_append (l.line_blank _), hs, List.cons_append, skipBlanks_cons hb]
      simp only [write, List.cons_append, List.append_assoc]
      rw [readValue_array hskip (by simp [hs, hc]), hitems]
      rfl
  | @object _ fields hkeys _ ih =>
    cases fields with
    | nil => exact .of_succ (fun _ => ⟨'\x7b', _, rfl, by decide, by decide⟩) fun _ _ _ _ _ => rfl
    | cons f r =>
      obtain ⟨k, x⟩ := f
      refine .of_succ (fun _ => ⟨'\x7b', _, rfl, by decide, by decide⟩)
        fun level fuel rest _ hf => ?_
      simp only [write, List.length_cons, List.length_append] at hf
      have hfields := @readFields_write l level fuel k x r rest ih (by omega)
      have hskip : skipBlanks (l.line (level + 1) ++ (quote k ++ ':' :: (l.gap ++
          (l.write (level + 1) x ++ (l.writeFields level r ++ rest))))) =
          quote k ++ ':' :: (l.gap ++ (l.write (level + 1) x ++
            (l.writeFields level r ++ rest))) := by
        rw [skipBlanks_append (l.line_blank _), quote_append, skipBlanks_cons (by decide)]
      simp only [write, List.cons_append, List.append_assoc]
      rw [readValue_object hskip (by simp [quote_append]), hfields]
      rfl

/-- The draft of a readable value has the value. -/
theorem value?_ofValue (h : v.Readable depth) : value? depth (ofValue v) = some v := by
  induction h with
  | null | bool | number | string => rfl
  | array _ ih =>
    rw [ofValue, value?, if_neg (by simp), Nat.add_sub_cancel, values?_ofValues ih]
    rfl
  | object hkeys _ ih =>
    rw [ofValue, value?, if_neg (by simp), Nat.add_sub_cancel, fieldValues?_ofFields ih,
      Option.map_some, Record.ofList_of_nodup hkeys]

/-- The text is complete, however many levels are read. -/
theorem read_write (h : v.Readable depth) (l : Layout) :
    Draft.read (String.ofList (l.write 0 v)) = (ofValue v, true) := by
  have hread := (h.reads l).read 0 (2 * (l.write 0 v).length + 2) [] nofun (by omega)
  rw [List.append_nil] at hread
  rw [Draft.read, String.toList_ofList, hread]
  rfl

theorem ofText?_write (h : v.Readable maxDepth) (l : Layout) :
    Value.ofText? (String.ofList (l.write 0 v)) = some v := by
  rw [Value.ofText?, h.read_write l]
  exact h.value?_ofValue

end Value.Readable

/-- **A readable value is read from its text.** -/
theorem Value.ofText?_text {v : Value} (h : v.Readable Draft.maxDepth) :
    Value.ofText? v.text = some v := by
  rw [text, ← Json.Layout.write_tight 0]
  exact h.ofText?_write .tight

/-- **A readable value is read from its indented text.** -/
theorem Value.ofText?_prettyText {v : Value} (h : v.Readable Draft.maxDepth) :
    Value.ofText? v.prettyText = some v := by
  rw [prettyText, ← Json.Layout.write_lines]
  exact h.ofText?_write .lines

end Reshape
