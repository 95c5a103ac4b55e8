import Mathlib.Data.List.TakeWhile
import Reshape.Csv

/-!
# Delimited text that is read as it was written

A table is written with all of its cells between quotes. Whatever is in a cell, the reader is after
its closing quote when the cell has been read, and only then does a separator or a line end count.

* `Text.Trims`, `Text.trims_trim`: a text without the blanks around it.
* `Csv.writeRow`, `Csv.write`: a row and a table as they are written.
* `Csv.foldl_quoteCell`, `Csv.foldl_writeRow`, `Csv.foldl_write`: what the reader has read after a
  cell, a row and a table. `Csv.rows_write`: the rows of the table.
* `Csv.detectDelimiter_write`: the separator of the table is detected, if no cell of the first row
  has a separator or a line break in it.
* `Csv.grid_write`: the grid of the table.
-/

namespace Reshape

/-! ## Blanks around a text -/

namespace Text

/-- What is kept is the text without the blanks around it. -/
structure Trims (cs kept : List Char) : Prop where
  around : ∃ before after, cs = before ++ kept ++ after ∧
    ∀ c ∈ before ++ after, isBlank c = true
  first : ∀ c ∈ kept.head?, isBlank c = false
  last : ∀ c ∈ kept.getLast?, isBlank c = false

theorem isBlank_head_dropWhile {cs : List Char} {c : Char}
    (h : c ∈ (cs.dropWhile isBlank).head?) : isBlank c = false := by
  have hnot := List.head?_dropWhile_not isBlank cs
  rw [Option.mem_def.1 h] at hnot
  simpa using hnot

theorem trims_trim (cs : List Char) : Trims cs (trim cs) := by
  have hbefore : cs.takeWhile isBlank ++ cs.dropWhile isBlank = cs :=
    List.takeWhile_append_dropWhile
  have hafter : trim cs ++ ((cs.dropWhile isBlank).reverse.takeWhile isBlank).reverse =
      cs.dropWhile isBlank := by
    rw [trim, ← List.reverse_append, List.takeWhile_append_dropWhile, List.reverse_reverse]
  refine ⟨⟨_, _, by rw [List.append_assoc, hafter, hbefore], fun c hc => ?_⟩,
    fun c hc => ?_, fun c hc => ?_⟩
  · rcases List.mem_append.1 hc with hc | hc
    · exact List.mem_takeWhile_imp hc
    · exact List.mem_takeWhile_imp (List.mem_reverse.1 hc)
  · have hhead : c ∈ (cs.dropWhile isBlank).head? := by
      rw [← hafter, List.head?_append, Option.mem_def.1 hc]
      exact rfl
    exact isBlank_head_dropWhile hhead
  · rw [trim, List.getLast?_reverse] at hc
    exact isBlank_head_dropWhile hc

end Text

namespace Csv

/-! ## Tables as they are written -/

/-- How a line ends. -/
inductive LineEnd
  | lf
  | crlf
  deriving DecidableEq, Repr

def LineEnd.text : LineEnd → List Char
  | .lf => ['\n']
  | .crlf => ['\r', '\n']

/-- A text in which every quote is written twice. -/
def doubled (cs : List Char) : List Char := cs.flatMap fun c => if c = '"' then ['"', '"'] else [c]

/-- A cell between quotes. -/
def quoteCell (cs : List Char) : List Char := '"' :: (doubled cs ++ ['"'])

/-- The cells of a row with separators between them. -/
def writeRow (d : Char) (row : List (List Char)) : List Char := [d].intercalate (row.map quoteCell)

theorem writeRow_singleton (d : Char) (cell : List Char) : writeRow d [cell] = quoteCell cell :=
  List.intercalate_singleton

theorem writeRow_cons_cons (d : Char) (cell next : List Char) (row : List (List Char)) :
    writeRow d (cell :: next :: row) = quoteCell cell ++ d :: writeRow d (next :: row) := by
  rw [writeRow, List.map_cons, List.map_cons, List.intercalate_cons_cons, List.append_assoc]
  rfl

/-- Rows, each with its line end. -/
def write (d : Char) (table : List (List (List Char) × LineEnd)) : List Char :=
  table.flatMap fun r => writeRow d r.1 ++ r.2.text

/-! ## Reading -/

section Reading

variable {d : Char} {field : List Char} {row : List (List Char)} {rows : List (List (List Char))}

/-- Between quotes everything is added to the field; two quotes are read as one. -/
theorem foldl_doubled (cs : List Char) : (doubled cs).foldl (step d) ⟨.quoted, field, row, rows⟩ =
    ⟨.quoted, cs.reverse ++ field, row, rows⟩ := by
  induction cs generalizing field with
  | nil => rfl
  | cons c cs ih =>
    rw [doubled, List.flatMap_cons, List.foldl_append, ← doubled, List.reverse_cons,
      List.append_assoc]
    by_cases hc : c = '"'
    · subst hc
      exact ih
    · have hstep : [c].foldl (step d) ⟨.quoted, field, row, rows⟩ =
          ⟨.quoted, c :: field, row, rows⟩ := if_neg hc
      rw [if_neg hc, hstep]
      exact ih

/-- After a cell the reader is behind a quote, and the cell is the field. -/
theorem foldl_quoteCell {place : Place} (h : place = .rowStart ∨ place = .fieldStart)
    (cs : List Char) : (quoteCell cs).foldl (step d) ⟨place, [], row, rows⟩ =
      ⟨.quoteSeen, cs.reverse, row, rows⟩ := by
  have hopen : step d ⟨place, [], row, rows⟩ '"' = ⟨.quoted, [], row, rows⟩ := by
    rcases h with rfl | rfl <;> rfl
  rw [quoteCell, List.foldl_cons, hopen, List.foldl_append, foldl_doubled, List.append_nil]
  rfl

theorem step_delimiter (hd : d ≠ '"') : step d ⟨.quoteSeen, field, row, rows⟩ d =
    ⟨.fieldStart, [], field.reverse :: row, rows⟩ :=
  (if_neg hd).trans (if_pos rfl)

theorem foldl_lineEnd (hd : isLineEnd d = false) (e : LineEnd) :
    e.text.foldl (step d) ⟨.quoteSeen, field, row, rows⟩ =
      ⟨.rowStart, [], [], (field.reverse :: row).reverse :: rows⟩ := by
  have hend (c : Char) (hc : isLineEnd c = true) (hq : c ≠ '"') :
      step d ⟨.quoteSeen, field, row, rows⟩ c =
        ⟨.rowStart, [], [], (field.reverse :: row).reverse :: rows⟩ := by
    have hne : c ≠ d := fun heq => by simp [heq, hd] at hc
    exact (if_neg hq).trans ((if_neg hne).trans (if_pos hc))
  cases e with
  | lf => exact hend '\n' (by decide) (by decide)
  | crlf =>
    -- the row ends with the first character, and the second one is skipped before the next row
    rw [LineEnd.text, List.foldl_cons, hend '\r' (by decide) (by decide)]
    rfl

/-- After a row and its line end the reader is before the next row. -/
theorem foldl_writeRow (hq : d ≠ '"') (hd : isLineEnd d = false) {place : Place}
    (h : place = .rowStart ∨ place = .fieldStart) {cells : List (List Char)} (hcells : cells ≠ [])
    (e : LineEnd) : (writeRow d cells ++ e.text).foldl (step d) ⟨place, [], row, rows⟩ =
      ⟨.rowStart, [], [], (row.reverse ++ cells) :: rows⟩ := by
  induction cells generalizing place row with
  | nil => exact absurd rfl hcells
  | cons cell cells ih =>
    cases cells with
    | nil =>
      rw [writeRow_singleton, List.foldl_append, foldl_quoteCell h, foldl_lineEnd hd,
        List.reverse_reverse, List.reverse_cons]
    | cons next cells =>
      rw [writeRow_cons_cons, List.append_assoc, List.foldl_append, foldl_quoteCell h,
        List.cons_append, List.foldl_cons, step_delimiter hq,
        ih (.inr rfl) (List.cons_ne_nil next cells), List.reverse_reverse, List.reverse_cons,
        List.append_assoc, List.singleton_append]

theorem foldl_write (hq : d ≠ '"') (hd : isLineEnd d = false)
    {table : List (List (List Char) × LineEnd)} (h : ∀ r ∈ table, r.1 ≠ []) :
    (write d table).foldl (step d) ⟨.rowStart, [], [], rows⟩ =
      ⟨.rowStart, [], [], (table.map (·.1)).reverse ++ rows⟩ := by
  induction table generalizing rows with
  | nil => rfl
  | cons r table ih =>
    rw [List.forall_mem_cons] at h
    rw [write, List.flatMap_cons, ← write, List.foldl_append,
      foldl_writeRow hq hd (.inl rfl) h.1 r.2, ih h.2]
    simp

end Reading

/-- What is written of a row begins with a quote. -/
theorem writeRow_eq_cons (d : Char) {row : List (List Char)} (h : row ≠ []) :
    ∃ cs, writeRow d row = '"' :: cs := by
  match row with
  | [cell] => exact ⟨_, writeRow_singleton d cell⟩
  | cell :: next :: row => exact ⟨_, writeRow_cons_cons d cell next row⟩

/-- The rows of a table are read. -/
theorem rows_write {d : Char} (hq : d ≠ '"') (hd : isLineEnd d = false)
    {table : List (List (List Char) × LineEnd)} (h : ∀ r ∈ table, r.1 ≠ []) :
    rows d (write d table) = table.map (·.1) := by
  have hmark : Text.skipMark (write d table) = write d table := by
    cases table with
    | nil => rfl
    | cons r table =>
      obtain ⟨cs, hcs⟩ := writeRow_eq_cons d (h r List.mem_cons_self)
      rw [write, List.flatMap_cons, hcs]
      rfl
  rw [rows, hmark, State.start, foldl_write hq hd h]
  simp

/-! ## Detecting -/

variable {d : Char}

theorem mem_quoteCell {c : Char} {cs : List Char} (h : c ∈ quoteCell cs) : c = '"' ∨ c ∈ cs := by
  rw [quoteCell, doubled, List.mem_cons, List.mem_append, List.mem_flatMap,
    List.mem_singleton] at h
  rcases h with rfl | ⟨b, hb, hc⟩ | rfl
  · exact .inl rfl
  · split at hc
    · simp only [List.mem_cons, List.not_mem_nil, or_false, or_self] at hc
      exact .inl hc
    · exact .inr (List.mem_singleton.1 hc ▸ hb)
  · exact .inl rfl

theorem mem_writeRow {c : Char} {row : List (List Char)} (h : c ∈ writeRow d row) :
    c = '"' ∨ c = d ∨ ∃ cell ∈ row, c ∈ cell := by
  induction row with
  | nil => cases h
  | cons cell row ih =>
    have hcell (hc : c ∈ quoteCell cell) :
        c = '"' ∨ c = d ∨ ∃ other ∈ cell :: row, c ∈ other :=
      (mem_quoteCell hc).imp_right fun hc => .inr ⟨cell, List.mem_cons_self, hc⟩
    cases row with
    | nil => exact hcell (writeRow_singleton d cell ▸ h)
    | cons next row =>
      rw [writeRow_cons_cons, List.mem_append, List.mem_cons] at h
      rcases h with hc | hc | hc
      · exact hcell hc
      · exact .inr (.inl hc)
      · exact (ih hc).imp_right (.imp_right fun ⟨other, hother, hc⟩ =>
          ⟨other, List.mem_cons_of_mem cell hother, hc⟩)

/-- There is one separator fewer than cells. -/
theorem count_writeRow (hq : d ≠ '"') {row : List (List Char)} (h : ∀ cell ∈ row, d ∉ cell) :
    (writeRow d row).count d = row.length - 1 := by
  have hcell {cell : List Char} (hc : d ∉ cell) : (quoteCell cell).count d = 0 :=
    List.count_eq_zero.2 fun hmem => (mem_quoteCell hmem).elim hq hc
  induction row with
  | nil => rfl
  | cons cell row ih =>
    obtain ⟨hc, hrow⟩ := List.forall_mem_cons.1 h
    cases row with
    | nil => rw [writeRow_singleton, hcell hc, List.length_singleton]
    | cons next row =>
      rw [writeRow_cons_cons, List.count_append, hcell hc, List.count_cons_self, ih hrow]
      simp

/-- A separator is detected that the first line has while it has no other. -/
theorem detectDelimiter_of_count {cs : List Char} {n : Nat} (hd : d ∈ separators) (hn : 0 < n)
    (h : ∀ c ∈ separators, (cs.takeWhile (· ≠ '\n')).count c = if c = d then n else 0) :
    detectDelimiter cs = d := by
  unfold detectDelimiter
  simp only [separators, List.foldl_cons, List.foldl_nil, h ';' (by decide), h ',' (by decide),
    h '\t' (by decide), h '|' (by decide)]
  simp only [separators, List.mem_cons, List.not_mem_nil, or_false] at hd
  rcases hd with rfl | rfl | rfl | rfl <;> simp [hn]

/-- The first line of a table is its first row, but for the line end. -/
theorem takeWhile_write {first : List (List Char)} (hd : d ≠ '\n')
    (h : ∀ cell ∈ first, '\n' ∉ cell) (e : LineEnd) (rest : List (List (List Char) × LineEnd)) :
    (write d ((first, e) :: rest)).takeWhile (· ≠ '\n') =
      writeRow d first ++ e.text.takeWhile (· ≠ '\n') := by
  have hrow : ∀ c ∈ writeRow d first, decide (c ≠ '\n') = true := by
    intro c hc
    rw [decide_eq_true_eq]
    rintro rfl
    rcases mem_writeRow hc with hc | hc | ⟨cell, hcell, hc⟩
    · cases hc
    · exact hd hc.symm
    · exact h cell hcell hc
  rw [write, List.flatMap_cons, List.append_assoc, List.takeWhile_append_of_pos hrow]
  cases e <;> rfl

theorem detectDelimiter_write {first : List (List Char)} (hd : d ∈ separators)
    (hlength : 2 ≤ first.length) (h : ∀ cell ∈ first, ∀ c ∈ cell, c ∉ separators ∧ c ≠ '\n')
    (e : LineEnd) (rest : List (List (List Char) × LineEnd)) :
    detectDelimiter (write d ((first, e) :: rest)) = d := by
  have hmarks : ∀ c ∈ separators, c ≠ '"' ∧ c ≠ '\n' := by simp [separators]
  have hend : ∀ c ∈ separators, (e.text.takeWhile (· ≠ '\n')).count c = 0 := by
    cases e <;> simp [separators, LineEnd.text]
  refine detectDelimiter_of_count (n := first.length - 1) hd (by omega) fun c hc => ?_
  rw [takeWhile_write (hmarks d hd).2 (fun cell hcell hn => (h cell hcell _ hn).2 rfl),
    List.count_append, hend c hc, Nat.add_zero]
  split
  · rename_i heq
    subst heq
    exact count_writeRow (hmarks c hc).1 fun cell hcell hmem => (h cell hcell c hmem).1 hc
  · rename_i hne
    refine List.count_eq_zero.2 fun hmem => ?_
    rcases mem_writeRow hmem with heq | heq | ⟨cell, hcell, hmem⟩
    · exact (hmarks c hc).1 heq
    · exact hne heq
    · exact (h cell hcell c hmem).1 hc

/-! ## Grids -/

/-- **A table is read as it was written.** Its rows may have different lengths and line ends, and
its cells any characters; only the first row, which has at least two cells, is without separators
and line breaks in these. Then the separator is detected, and the grid has the rows of the table,
each cell without the blanks around it and null if nothing is left. -/
theorem grid_write (d : Char) (first : List (List Char)) (e : LineEnd)
    (rest : List (List (List Char) × LineEnd)) (hd : d ∈ separators) (hlength : 2 ≤ first.length)
    (hfirst : ∀ cell ∈ first, ∀ c ∈ cell, c ∉ separators ∧ c ≠ '\n')
    (hrest : ∀ r ∈ rest, r.1 ≠ []) :
    detectDelimiter (write d ((first, e) :: rest)) = d ∧
    grid d (write d ((first, e) :: rest)) =
      ⟨⟨0, 0⟩, (first :: rest.map (·.1)).map (·.map cell)⟩ ∧
    ∀ cs, ∃ kept, Text.Trims cs kept ∧
      cell cs = if kept = [] then .null else .string (String.ofList kept) := by
  have hmarks : ∀ c ∈ separators, c ≠ '"' ∧ isLineEnd c = false := by
    simp [separators, isLineEnd]
  have hrows : ∀ r ∈ (first, e) :: rest, r.1 ≠ [] := List.forall_mem_cons.2
    ⟨List.ne_nil_of_length_pos (Nat.lt_of_lt_of_le Nat.two_pos hlength), hrest⟩
  refine ⟨detectDelimiter_write hd hlength hfirst e rest, ?_, fun cs => ?_⟩
  · rw [grid, rows_write (hmarks d hd).1 (hmarks d hd).2 hrows, List.map_cons]
  · refine ⟨Text.trim cs, Text.trims_trim cs, ?_⟩
    rw [cell]
    simp only [List.isEmpty_iff]

/-- The first row is plain; the cell of the second one has a quote, a separator and a line break. -/
def raggedTable : List (List (List Char) × LineEnd) :=
  [([['a', 'b'], [' ']], .crlf), ([['"', ';', '\n', 'c']], .lf), ([[], ['d', ' '], ['|']], .lf)]

theorem grid_write_raggedTable :
    detectDelimiter (write ';' raggedTable) = ';' ∧
    write ';' raggedTable = "\"ab\";\" \"\r\n\"\"\";\nc\"\n\"\";\"d \";\"|\"\n".toList ∧
    grid ';' (write ';' raggedTable) = ⟨⟨0, 0⟩, [[.string "ab", .null], [.string "\";\nc"],
      [.null, .string "d", .string "|"]]⟩ := by
  obtain ⟨hdetect, hgrid, -⟩ := grid_write ';' [['a', 'b'], [' ']] .crlf
    [([['"', ';', '\n', 'c']], .lf), ([[], ['d', ' '], ['|']], .lf)] (by decide) (by decide)
    (by simp [separators]) (by simp)
  exact ⟨hdetect, by decide, hgrid.trans (by decide)⟩

end Csv

end Reshape
