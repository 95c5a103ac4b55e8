import Reshape.Proofs.Columns
import Reshape.Workbook

/-!
# What a sheet keeps of records

Records are written to a sheet as a row with the names of the fields and a row for each element.
They are read back from the smallest rectangle that holds all cells that are not blank, without the
rows that have none.

* `Value.kept?`, `Collection.sheetForm`: what is read back, told without a sheet.
* `Sheet.fits_iff`: a sheet has room for rows if it has for each of their cells.
  `Sheet.fits_ofRecords`: elements that are no records take none.
* `Sheet.read_headed`: a sheet under a row of names is read up to its last row in use.
* `Sheet.selectRecords_ofRecords`: records read from their own sheet are their sheet form.
-/

namespace Reshape

/-! ## The sheet form of records -/

/-- What a sheet keeps of a value: nothing of null and the empty text, whole numbers for numbers
that are whole, and the compact text of arrays and objects. -/
def Value.kept? : Value → Option Value
  | .null => none
  | .bool b => some (.bool b)
  | .number n => some (.number (.ofBinary64 n.toBinary64))
  | .string s => if s = "" then none else some (.string s)
  | .array items => some (.string (Value.array items).text)
  | .object fields => some (.string (Value.object fields).text)

/-- What a sheet keeps of a record, the fields in the order of the names. -/
def Record.kept (names : List String) (r : Record) : Record :=
  names.filterMap fun k => ((r.get? k).bind Value.kept?).map (k, ·)

/-- What a sheet keeps of a collection: what it keeps of its records, except those of which it keeps
nothing. -/
def Collection.sheetForm (c : Collection) : Collection :=
  (((c.filterMap Value.fields?).map (Record.kept c.fieldNames)).filter (!·.isEmpty)).map .object

theorem Value.ne_null_of_kept? {v w : Value} (h : v.kept? = some w) : w ≠ .null := by
  rintro rfl
  cases v <;> simp [kept?] at h

theorem Record.kept_nil (names : List String) : kept names [] = [] := by
  simp [kept, get?]

/-! ## Cells -/

theorem Value.text_array_ne (items : List Value) : (Value.array items).text ≠ "" := by
  cases items <;> simp [Value.text, Json.compact]

theorem Value.text_object_ne (fields : Record) : (Value.object fields).text ≠ "" := by
  cases fields <;> simp [Value.text, Json.compact]

/-- A grid whose first row names the columns. -/
def Grid.headed (names : List String) (rows : List (List Value)) : Grid :=
  ⟨⟨0, 0⟩, names.map .string :: rows⟩

namespace Sheet

/-- A cell is read as what a sheet keeps of its value. -/
theorem readCell_cell (v : Value) : readCell (cell v) = v.kept?.getD .null := by
  cases v with
  | null | bool | number => rfl
  | string s => by_cases hs : s = "" <;> simp [cell, Value.display, Value.kept?, readCell, hs]
  | array items => simp [cell, Value.display, Value.kept?, readCell, Value.text_array_ne]
  | object fields => simp [cell, Value.display, Value.kept?, readCell, Value.text_object_ne]

/-! ## Room for cells -/

theorem all_drop_iff {α : Type} {p : α → Bool} {l : List α} {n : Nat} :
    (l.drop n).all p = true ↔ ∀ i a, l[i]? = some a → n ≤ i → p a = true := by
  rw [List.all_eq_true]
  constructor
  · intro h i a ha hi
    refine h a (List.mem_iff_getElem?.2 ⟨i - n, ?_⟩)
    rw [List.getElem?_drop, Nat.add_sub_cancel' hi, ha]
  · intro h a ha
    obtain ⟨i, hi⟩ := List.mem_iff_getElem?.1 ha
    rw [List.getElem?_drop] at hi
    exact h _ a hi (Nat.le_add_right n i)

theorem fitsCell_of_isBlank {v : Value} (h : isBlank v = true) : fitsCell v = true := by
  cases v with
  | string t => cases h
  | _ => rfl

/-- A row has room exactly if each of its cells that is not blank has. -/
theorem fitsRow_iff {row : List Value} :
    ((row.drop maxColumns).all isBlank && row.all fitsCell) = true ↔
      ∀ j v, row[j]? = some v → isBlank v = false → j < maxColumns ∧ fitsCell v = true := by
  rw [Bool.and_eq_true, all_drop_iff, List.all_eq_true]
  constructor
  · rintro ⟨hblank, htext⟩ j v hj hv
    refine ⟨Nat.lt_of_not_le fun hle => ?_, htext v (List.mem_of_getElem? hj)⟩
    exact Bool.false_ne_true (hv.symm.trans (hblank j v hj hle))
  · refine fun h => ⟨fun j v hj hle => ?_, fun v hv => ?_⟩
    · by_contra hfull
      exact Nat.not_lt.2 hle (h j v hj (eq_false_of_ne_true hfull)).1
    · obtain ⟨j, hj⟩ := List.mem_iff_getElem?.1 hv
      by_cases hblank : isBlank v = true
      · exact fitsCell_of_isBlank hblank
      · exact (h j v hj (eq_false_of_ne_true hblank)).2

/-- **A sheet has room for rows** exactly if it has room for each of their cells that is not blank,
where the cell stands and for the text in it. -/
theorem fits_iff {s : Sheet} : fits s = true ↔ ∀ (i : Nat) row, s[i]? = some row → ∀ j v,
    row[j]? = some v → isBlank v = false → i < maxRows ∧ j < maxColumns ∧ fitsCell v = true := by
  rw [fits, Bool.and_eq_true, all_drop_iff, List.all_eq_true]
  constructor
  · rintro ⟨hrows, hcells⟩ i row hi j v hj hv
    obtain ⟨hcolumn, htext⟩ := fitsRow_iff.1 (hcells row (List.mem_of_getElem? hi)) j v hj hv
    refine ⟨Nat.lt_of_not_le fun hle => ?_, hcolumn, htext⟩
    have hblank := List.all_eq_true.1 (hrows i row hi hle) v (List.mem_of_getElem? hj)
    exact Bool.false_ne_true (hv.symm.trans hblank)
  · refine fun h => ⟨fun i row hi hle => List.all_eq_true.2 fun v hv => ?_, fun row hrow => ?_⟩
    · obtain ⟨j, hj⟩ := List.mem_iff_getElem?.1 hv
      by_contra hfull
      exact Nat.not_lt.2 hle (h i row hi j v hj (eq_false_of_ne_true hfull)).1
    · obtain ⟨i, hi⟩ := List.mem_iff_getElem?.1 hrow
      exact fitsRow_iff.2 fun j v hj hv => (h i row hi j v hj hv).2

/-- Rows without cells take no room, however many they are. -/
theorem fits_of_isBlankRow {s : Sheet} (h : ∀ row ∈ s, isBlankRow row = true) : fits s = true :=
  fits_iff.2 fun _ row hi _ v hj hv =>
    absurd (List.all_eq_true.1 (h row (List.mem_of_getElem? hi)) v (List.mem_of_getElem? hj))
      (by simp [hv])

/-! ## The rectangle in use -/

theorem dropWhile_concat {α : Type} {p : α → Bool} {a : α} (h : p a = false) (as : List α) :
    (as ++ [a]).dropWhile p = as.dropWhile p ++ [a] := by
  induction as with
  | nil => simp [h]
  | cons b as ih =>
    rw [List.cons_append, List.dropWhile_cons, List.dropWhile_cons]
    split
    · exact ih
    · rfl

/-- The rows without the blank ones at their end. -/
def trimmed (rows : List (List Value)) : List (List Value) :=
  (rows.reverse.dropWhile isBlankRow).reverse

theorem mem_of_mem_trimmed {row : List Value} {rows : List (List Value)}
    (h : row ∈ trimmed rows) : row ∈ rows := by
  rw [trimmed, List.mem_reverse] at h
  exact List.mem_reverse.1 ((List.dropWhile_suffix _).subset h)

theorem extent_le (row : List Value) : extent row ≤ row.length := Nat.sub_le ..

theorem slice_zero {w : Nat} {row : List Value} (h : row.length = w) : slice 0 w row = row := by
  simp [slice, h, List.take_of_length_le]

theorem indent_of_full {row : List Value} (h : ∀ v ∈ row, isBlank v = false) : indent row = 0 := by
  cases row with
  | nil => rfl
  | cons v row => simp [indent, h v List.mem_cons_self]

theorem extent_of_full {row : List Value} (h : ∀ v ∈ row, isBlank v = false) :
    extent row = row.length := by
  have hrev : indent row.reverse = 0 := indent_of_full fun v hv => h v (List.mem_reverse.1 hv)
  rw [extent, ← indent, hrev, Nat.sub_zero]

theorem foldl_min_zero (rows : List (List Value)) :
    rows.foldl (fun n row => min n (indent row)) 0 = 0 := by
  induction rows with
  | nil => rfl
  | cons row rows ih => rw [List.foldl_cons, Nat.zero_min, ih]

theorem foldl_max_extent {w : Nat} {rows : List (List Value)}
    (h : ∀ row ∈ rows, row.length = w) : rows.foldl (fun n row => max n (extent row)) w = w := by
  induction rows with
  | nil => rfl
  | cons row rows ih =>
    have hrow := h row List.mem_cons_self ▸ extent_le row
    rw [List.foldl_cons, Nat.max_eq_left hrow, ih fun r hr => h r (List.mem_cons_of_mem row hr)]

/-- A sheet under a row of names is read without the blank rows at its end. -/
theorem read_headed {names : List String} {rows : List (List Value)} (hne : names ≠ [])
    (hrows : ∀ row ∈ rows, row.length = names.length) :
    read (names.map .string :: rows) = Grid.headed names ((trimmed rows).map (·.map readCell)) := by
  generalize hheader : names.map Value.string = header
  have hlen : names.length = header.length := by rw [← hheader, List.length_map]
  have hfull : ∀ v ∈ header, isBlank v = false := by
    rw [← hheader]
    simp [isBlank]
  have hread : header.map readCell = header := by
    rw [← hheader, List.map_map]
    rfl
  have hhead : isBlankRow header = false := by
    cases header with
    | nil => exact absurd (List.map_eq_nil_iff.1 hheader) hne
    | cons v header => simp [isBlankRow, hfull v List.mem_cons_self]
  have hused : ((header :: rows).dropWhile isBlankRow).reverse.dropWhile isBlankRow =
      (header :: trimmed rows).reverse := by
    rw [List.dropWhile_cons_of_neg (by simp [hhead]), List.reverse_cons, dropWhile_concat hhead,
      List.reverse_cons, trimmed, List.reverse_reverse]
  have htrim : ∀ row ∈ trimmed rows, row.length = header.length := fun row hrow =>
    (hrows row (mem_of_mem_trimmed hrow)).trans hlen
  have hslice : ∀ row ∈ header :: trimmed rows, slice 0 header.length row = row := by
    intro row hrow
    obtain rfl | hrow := List.mem_cons.1 hrow
    · exact slice_zero rfl
    · exact slice_zero (htrim row hrow)
  simp only [read, hused, List.reverse_reverse, List.filter_cons, hhead, Bool.not_false, if_true,
    List.head?_cons, Option.map_some, Option.getD_some, List.foldl_cons, indent_of_full hfull,
    extent_of_full hfull, Nat.min_self, foldl_min_zero, List.isEmpty_cons, Nat.zero_max]
  rw [if_neg Bool.false_ne_true, List.takeWhile_cons_of_neg (by simp [hhead]), List.length_nil,
    foldl_max_extent fun row hrow => htrim row (List.mem_filter.1 hrow).1,
    List.map_congr_left fun row hrow => by rw [hslice row hrow], List.map_cons, hread,
    Grid.headed, hheader]

/-- A sheet without cells is read as nothing. -/
theorem read_of_blank {s : Sheet} (h : ∀ row ∈ s, isBlankRow row = true) :
    read s = ⟨⟨0, 0⟩, []⟩ := by
  have hdrop : s.dropWhile isBlankRow = [] := List.dropWhile_eq_nil_iff.2 h
  simp [read, hdrop]

end Sheet

/-- The records of a grid whose first row names the columns. -/
theorem Grid.selectRecords_headed {names : List String} {rows : List (List Value)}
    (hne : names ≠ []) (hnames : ∀ k ∈ names, k ≠ "") (hnodup : names.Nodup)
    (hrows : ∀ row ∈ rows, row.length = names.length) :
    (headed names rows).selectRecords none none =
      .ok (((rows.map (fieldsOf names)).filter (!·.isEmpty)).map .object) := by
  have heq : headed names rows = headedAt ⟨0, 0⟩ names rows := rfl
  rw [heq, selectRecords, bounds?_headedAt hne hrows]
  exact congrArg Except.ok (records_headedAt hne hnames hnodup hrows)

/-! ## Records of their own sheet -/

namespace Sheet

/-- The row of an element, as it is written and as it is read. -/
theorem readCell_row (names : List String) (v : Value) :
    ((Table.row names v).map cell).map readCell =
      names.map fun k => ((v.field? k).bind Value.kept?).getD .null := by
  rw [Table.row, List.map_map, List.map_map]
  refine List.map_congr_left fun k _ => ?_
  rw [Function.comp_apply, Function.comp_apply, readCell_cell]
  cases v.field? k <;> rfl

/-- The cells of an element's row that are not blank are what a sheet keeps of it. -/
theorem fieldsOf_readCell_row (names : List String) (v : Value) :
    Grid.fieldsOf names (((Table.row names v).map cell).map readCell) =
      Record.kept names (v.fields?.getD []) := by
  have hfield : ∀ k, Record.get? (v.fields?.getD []) k = v.field? k := by
    intro k
    rw [Value.field?]
    cases v.fields? <;> rfl
  rw [readCell_row, Grid.fieldsOf, Record.kept]
  induction names with
  | nil => rfl
  | cons k names ih =>
    rw [List.map_cons, List.zip_cons_cons, List.filterMap_cons, hfield]
    cases hk : (v.field? k).bind Value.kept? with
    | none =>
      rw [List.filter_cons_of_neg (by simp)]
      exact ih
    | some w =>
      obtain ⟨u, -, hu⟩ := Option.bind_eq_some_iff.1 hk
      rw [List.filter_cons_of_pos (by simpa using Value.ne_null_of_kept? hu), ih]
      rfl

/-- Rows are those up to the last one in use, and blank ones. -/
theorem exists_blank (rows : List (List Value)) :
    ∃ blanks, rows = trimmed rows ++ blanks ∧ ∀ row ∈ blanks, isBlankRow row = true := by
  refine ⟨(rows.reverse.takeWhile isBlankRow).reverse, ?_, fun row hrow => ?_⟩
  · rw [trimmed, ← List.reverse_append, List.takeWhile_append_dropWhile, List.reverse_reverse]
  · exact List.mem_takeWhile_imp (List.mem_reverse.1 hrow)

/-- A blank row has no cells to make a record of. -/
theorem fieldsOf_of_isBlankRow {row : List Value} (h : isBlankRow row = true)
    (names : List String) : Grid.fieldsOf names (row.map readCell) = [] := by
  rw [Grid.fieldsOf, List.filter_eq_nil_iff]
  rintro ⟨k, w⟩ hmem
  obtain ⟨v, hv, rfl⟩ := List.mem_map.1 (List.of_mem_zip hmem).2
  have hblank := List.all_eq_true.1 h v hv
  cases v <;> simp_all [isBlank, readCell]

/-- Blank rows at the end give no records. -/
theorem records_trimmed (names : List String) (rows : List (List Value)) :
    (((trimmed rows).map (·.map readCell)).map (Grid.fieldsOf names)).filter (!·.isEmpty) =
      ((rows.map (·.map readCell)).map (Grid.fieldsOf names)).filter (!·.isEmpty) := by
  obtain ⟨blanks, hrows, hblanks⟩ := exists_blank rows
  have hnone : ((blanks.map (·.map readCell)).map (Grid.fieldsOf names)).filter (!·.isEmpty) =
      [] := by
    rw [List.filter_eq_nil_iff, List.map_map]
    intro r hr
    obtain ⟨row, hrow, rfl⟩ := List.mem_map.1 hr
    rw [Function.comp_apply, fieldsOf_of_isBlankRow (hblanks row hrow)]
    exact Bool.false_ne_true
  conv_rhs => rw [hrows]
  rw [List.map_append, List.map_append, List.filter_append, hnone, List.append_nil]

/-- The rows below the names of the columns. -/
def body (c : Collection) : List (List Value) :=
  c.map fun v => (Table.row c.fieldNames v).map cell

theorem length_of_mem_body {c : Collection} {row : List Value} (h : row ∈ body c) :
    row.length = c.fieldNames.length := by
  obtain ⟨v, -, rfl⟩ := List.mem_map.1 h
  rw [List.length_map, Table.row, List.length_map]

theorem ofRecords_eq {c : Collection} (h : ∀ k ∈ c.fieldNames, k ≠ "") :
    ofRecords c = c.fieldNames.map .string :: body c := by
  have hheader : c.fieldNames.map (cell ∘ .string) = c.fieldNames.map .string :=
    List.map_congr_left fun k hk => if_neg (h k hk)
  rw [ofRecords, Table.ofRecords, Table.fieldNames_eq, hheader, List.map_map]
  rfl

/-- Without fields every row is blank. -/
theorem isBlankRow_of_mem_ofRecords {c : Collection} (h : c.fieldNames = []) :
    ∀ row ∈ ofRecords c, isBlankRow row = true := by
  intro row hrow
  rw [ofRecords_eq (by simp [h])] at hrow
  obtain rfl : row = [] := by
    obtain rfl | hrow := List.mem_cons.1 hrow
    · rw [h, List.map_nil]
    · rw [← List.length_eq_zero_iff, length_of_mem_body hrow, h, List.length_nil]
  rfl

/-- Elements that are no records can always be written, however many they are. -/
theorem fits_ofRecords {c : Collection} (h : ∀ v ∈ c, v.isObject = false) :
    fits (ofRecords c) = true := by
  refine fits_of_isBlankRow (isBlankRow_of_mem_ofRecords ?_)
  refine List.eq_nil_iff_forall_not_mem.2 fun k hk => ?_
  obtain ⟨r, hr, -⟩ := Collection.mem_fieldNames.1 hk
  cases h _ hr

/-- The rows of the body have what a sheet keeps of the records; elements that are no records have
nothing. -/
theorem records_body (c : Collection) :
    (((body c).map (·.map readCell)).map (Grid.fieldsOf c.fieldNames)).filter (!·.isEmpty) =
      ((c.filterMap Value.fields?).map (Record.kept c.fieldNames)).filter (!·.isEmpty) := by
  rw [body, List.map_map, List.map_map]
  generalize c.fieldNames = names
  induction c with
  | nil => rfl
  | cons v c ih =>
    rw [List.map_cons, List.filterMap_cons, List.filter_cons, ih, Function.comp_apply,
      Function.comp_apply, fieldsOf_readCell_row]
    cases v.fields? with
    | none => rw [Option.getD_none, Record.kept_nil, if_neg (by simp)]
    | some r => rw [Option.getD_some, List.map_cons, List.filter_cons]

/-- **Records read from their own sheet are their sheet form.** -/
theorem selectRecords_ofRecords {c : Collection}
    (hnames : ∀ r, .object r ∈ c → ∀ k ∈ Record.keys r, k ≠ "") :
    (read (ofRecords c)).selectRecords none none = .ok c.sheetForm := by
  have hne : ∀ k ∈ c.fieldNames, k ≠ "" := fun k hk =>
    have ⟨r, hr, hk⟩ := Collection.mem_fieldNames.1 hk
    hnames r hr k hk
  by_cases hempty : c.fieldNames = []
  · have hform : c.sheetForm = [] := by
      simp [Collection.sheetForm, hempty, Record.kept]
    rw [read_of_blank (isBlankRow_of_mem_ofRecords hempty), hform]
    rfl
  · have hlen : ∀ row ∈ (trimmed (body c)).map (·.map readCell),
        row.length = c.fieldNames.length := by
      intro row hrow
      obtain ⟨cells, hcells, rfl⟩ := List.mem_map.1 hrow
      rw [List.length_map, length_of_mem_body (mem_of_mem_trimmed hcells)]
    rw [ofRecords_eq hne, read_headed hempty fun row => length_of_mem_body,
      Grid.selectRecords_headed hempty hne c.nodup_fieldNames hlen, records_trimmed, records_body,
      Collection.sheetForm]

end Sheet

end Reshape
