import Mathlib.Data.List.Nodup
import Mathlib.Data.List.TakeWhile
import Reshape.Grid.Basic
import Reshape.Grid.Table

/-!
# Records and the columns of a grid

The fields of records are the columns of a table: their names stand in the first row of a grid, and
each record has a row below them.

* `Table.fieldNames_eq`: the columns are the fields in the order of their first appearance.
* `Grid.headerNames_of_nodup`, `Grid.rowRecord_of_nodup`: names that are all different name the
  columns as they are, and a row is read as its cells that are not blank.
* `Grid.records_headedAt`: the records of a grid whose first row names the columns.
* `Table.records_ofRecords`: records that were made a table are read from its grid.
-/

namespace Reshape

/-- A list is read element by element if each of its elements is. -/
theorem mapM_eq_pure_map {m : Type → Type} [Monad m] [LawfulMonad m] {α β : Type} {f : α → m β}
    {g : α → β} {as : List α} (h : ∀ a ∈ as, f a = pure (g a)) :
    as.mapM f = pure (as.map g) := by
  induction as with
  | nil => exact List.mapM_nil
  | cons a as ih =>
    obtain ⟨ha, has⟩ := List.forall_mem_cons.1 h
    rw [List.mapM_cons, ha, ih has, pure_bind, pure_bind, List.map_cons]

/-! ## Columns of a table -/

/-- The names of all fields of a collection, in the order of their first appearance. -/
def Collection.fieldNames (c : Collection) : List String :=
  ((c.filterMap Value.fields?).flatMap Record.keys).eraseDups

namespace Table

theorem foldl_addName (ks names : List String) :
    ks.foldl (fun names k => if names.contains k then names else names ++ [k]) names =
      names ++ (ks.filter (!names.contains ·)).eraseDups := by
  induction ks generalizing names with
  | nil => simp
  | cons k ks ih =>
    rw [List.foldl_cons]
    by_cases hk : k ∈ names
    · rw [if_pos (List.contains_iff_mem.2 hk), ih, List.filter_cons_of_neg (by simpa using hk)]
    · rw [if_neg (mt List.contains_iff_mem.1 hk), ih, List.filter_cons_of_pos (by simpa using hk),
        List.eraseDups_cons, List.filter_filter, List.append_assoc, List.singleton_append]
      congr 3
      refine List.filter_congr fun j _ => ?_
      rw [Bool.eq_iff_iff]
      simp [and_comm]

theorem fieldNames_eq (c : Collection) : fieldNames c = c.fieldNames := by
  have keys : (c.flatMap fun v => (v.fields?.getD []).keys) =
      (c.filterMap Value.fields?).flatMap Record.keys := by
    induction c with
    | nil => rfl
    | cons v c ih =>
      rw [List.flatMap_cons, ih, List.filterMap_cons]
      cases v.fields? <;> rfl
  rw [fieldNames, foldl_addName, keys, Collection.fieldNames]
  simp

theorem nodup_foldl_addName (ks : List String) {names : List String} (h : names.Nodup) :
    (ks.foldl (fun names k => if names.contains k then names else names ++ [k]) names).Nodup := by
  induction ks generalizing names with
  | nil => exact h
  | cons k ks ih =>
    rw [List.foldl_cons]
    split
    · exact ih h
    · rename_i hk
      exact ih (h.append (List.nodup_singleton k) (by simpa using hk))

end Table

namespace Collection

theorem nodup_fieldNames (c : Collection) : c.fieldNames.Nodup :=
  Table.fieldNames_eq c ▸ Table.nodup_foldl_addName _ List.nodup_nil

theorem mem_fieldNames {c : Collection} {k : String} :
    k ∈ c.fieldNames ↔ ∃ r, .object r ∈ c ∧ k ∈ Record.keys r := by
  simp only [fieldNames, List.mem_eraseDups, List.mem_flatMap, List.mem_filterMap]
  constructor
  · rintro ⟨r, ⟨v, hv, hr⟩, hk⟩
    cases v <;> cases hr
    exact ⟨r, hv, hk⟩
  · rintro ⟨r, hr, hk⟩
    exact ⟨r, ⟨.object r, hr, rfl⟩, hk⟩

end Collection

/-! ## Records of a grid -/

namespace Grid

theorem headerNamesFrom_of_nodup {seen : Tally} {names : List String} (h : names.Nodup)
    (hseen : ∀ k ∈ names, seen.count k = 0) : headerNamesFrom seen names = names := by
  induction names generalizing seen with
  | nil => rfl
  | cons k names ih =>
    obtain ⟨hk, hnames⟩ := List.nodup_cons.1 h
    rw [headerNamesFrom, numbered, if_pos (hseen k List.mem_cons_self), ih hnames]
    intro j hj
    have hne : k ≠ j := fun he => hk (he ▸ hj)
    rw [Tally.count_add, hseen j (List.mem_cons_of_mem k hj), if_neg hne]

/-- Names that are all different stay as they are. -/
theorem headerNames_of_nodup {names : List String} (h : names.Nodup) :
    headerNames names = names :=
  headerNamesFrom_of_nodup h fun k _ => Tally.count_empty k

/-- The cells of a row that are not blank, under the names of their columns. -/
def fieldsOf (names : List String) (row : List Value) : Record :=
  (names.zip row).filter (·.2 ≠ .null)

/-- A record with one more cell of a row. -/
def addCell (r : Record) (f : String × Option Value) : Record :=
  match f.2 with
  | some v => r.insert f.1 v
  | none => r

/-- A cell of a row unless it is blank. -/
def unlessBlank (v : Value) : Option Value := (some v).filter (· ≠ .null)

theorem foldl_addCell {names : List String} (h : names.Nodup) (row : List Value) {r : Record}
    (hr : ∀ k ∈ names, k ∉ r.keys) :
    (names.zip (row.map unlessBlank)).foldl addCell r = r ++ fieldsOf names row := by
  unfold fieldsOf
  induction names generalizing row r with
  | nil => simp
  | cons k names ih =>
    cases row with
    | nil => simp
    | cons v row =>
      obtain ⟨hk, hnames⟩ := List.nodup_cons.1 h
      have hr' := fun j hj => hr j (List.mem_cons_of_mem k hj)
      rw [List.map_cons, List.zip_cons_cons, List.foldl_cons, List.zip_cons_cons]
      by_cases hv : v = .null
      · rw [List.filter_cons_of_neg (by simp [hv]), addCell, unlessBlank,
          Option.filter_some_neg (by simp [hv])]
        exact ih hnames row hr'
      · rw [List.filter_cons_of_pos (by simp [hv]), addCell, unlessBlank,
          Option.filter_some_pos (by simp [hv])]
        have hadded : ∀ j ∈ names, j ∉ Record.keys (r ++ [(k, v)]) := by
          intro j hj hmem
          obtain hmem | rfl : j ∈ Record.keys r ∨ j = k := by simpa [Record.keys] using hmem
          · exact hr' j hj hmem
          · exact hk hj
        dsimp only
        rw [Record.insert_of_notMem (hr k List.mem_cons_self), ih hnames row hadded,
          List.append_assoc, List.singleton_append]

/-- The record of a row has its cells under their names, if those are all different. -/
theorem rowRecord_of_nodup {names : List String} (h : names.Nodup) (row : List Value) :
    rowRecord names (row.map unlessBlank) = fieldsOf names row :=
  foldl_addCell h row (by simp [Record.keys])

/-- A grid whose first row, which starts at `origin`, names the columns. -/
def headedAt (origin : Position) (names : List String) (rows : List (List Value)) : Grid :=
  ⟨origin, names.map .string :: rows⟩

section HeadedAt

variable {origin : Position} {names : List String} {rows : List (List Value)}

theorem width_headedAt (h : ∀ row ∈ rows, row.length = names.length) :
    (headedAt origin names rows).width = names.length := by
  have fold : rows.foldl (fun n row => max n row.length) names.length = names.length := by
    induction rows with
    | nil => rfl
    | cons row rows ih =>
      rw [List.foldl_cons, h row List.mem_cons_self, Nat.max_self]
      exact ih fun r hr => h r (List.mem_cons_of_mem row hr)
  rw [width, headedAt, List.foldl_cons, List.length_map, Nat.zero_max, fold]

theorem bounds?_headedAt (hne : names ≠ []) (h : ∀ row ∈ rows, row.length = names.length) :
    (headedAt origin names rows).bounds? =
      some ⟨origin, origin.row + rows.length, origin.column + names.length - 1⟩ := by
  have hpos := List.length_pos_iff.2 hne
  rw [bounds?, width_headedAt h, if_neg (by simp [headedAt]; omega)]
  simp [headedAt]

/-- Without columns no region is in use. -/
theorem bounds?_headedAt_nil (h : ∀ row ∈ rows, row = []) :
    (headedAt origin [] rows).bounds? = none := by
  rw [bounds?, width_headedAt fun row hrow => congrArg List.length (h row hrow), List.length_nil,
    if_pos (.inr rfl)]

/-- The columns in use. -/
theorem span_columns (hne : names ≠ []) (first : Nat) :
    span first (first + names.length - 1) = List.range' first names.length := by
  have hpos := List.length_pos_iff.2 hne
  rw [span]
  congr 1
  omega

/-- The cells of a row in all of its columns. -/
theorem cells_headedAt (hne : names ≠ []) {i : Nat} {row : List Value}
    (hrow : row.length = names.length) (hline : (headedAt origin names rows).line i = row) :
    (headedAt origin names rows).cells
      (span origin.column (origin.column + names.length - 1)) i = row.map unlessBlank := by
  rw [cells, hline, span_columns hne, ← hrow]
  refine List.ext_getElem (by simp) fun j h₁ h₂ => ?_
  have hj : j < row.length := by simpa using h₂
  have hcolumn : ¬ origin.column + j < origin.column := by omega
  simp [headedAt, cellOf, unlessBlank, hj, hcolumn]

theorem headerNames_headedAt (hne : names ≠ []) (hnames : ∀ k ∈ names, k ≠ "")
    (hnodup : names.Nodup) :
    headerNames (((headedAt origin names rows).cells
      (span origin.column (origin.column + names.length - 1)) origin.row).map headerText) =
        names := by
  have htext : ∀ k ∈ names, (headerText ∘ unlessBlank ∘ Value.string) k = k := by
    intro k hk
    have hcell : (unlessBlank (.string k)).map Value.display = some k := rfl
    rw [Function.comp_apply, Function.comp_apply, headerText, hcell]
    split
    · rename_i he
      cases he
    · rename_i he
      exact absurd (Option.some.inj he) (hnames k hk)
    · rename_i he
      exact (Option.some.inj he).symm
  have hline : (headedAt origin names rows).line origin.row = names.map .string := by
    simp [headedAt, line]
  rw [cells_headedAt hne (List.length_map ..) hline, List.map_map, List.map_map,
    Function.comp_assoc, List.map_congr_left htext, List.map_id', headerNames_of_nodup hnodup]

/-- The records of a grid whose first row names the columns. -/
theorem records_headedAt (hne : names ≠ []) (hnames : ∀ k ∈ names, k ≠ "")
    (hnodup : names.Nodup) (hrows : ∀ row ∈ rows, row.length = names.length) :
    (headedAt origin names rows).records
        ⟨origin, origin.row + rows.length, origin.column + names.length - 1⟩ =
      ((rows.map (fieldsOf names)).filter (!·.isEmpty)).map .object := by
  have hpos := List.length_pos_iff.2 hne
  have hrecords : (span (origin.row + 1) (origin.row + rows.length)).map
      (fun i => rowRecord names ((headedAt origin names rows).cells
        (span origin.column (origin.column + names.length - 1)) i)) =
      rows.map (fieldsOf names) := by
    refine List.ext_getElem (by simp [span]) fun i h₁ h₂ => ?_
    have hi : i < rows.length := by simpa using h₂
    have hline : (headedAt origin names rows).line (origin.row + 1 + i) = rows[i] := by
      have hoffset : origin.row + 1 + i - origin.row = i + 1 := by omega
      rw [line, if_neg (by simp [headedAt]; omega)]
      simp [headedAt, hoffset, hi]
    rw [List.getElem_map, List.getElem_map, ← rowRecord_of_nodup hnodup,
      ← cells_headedAt hne (hrows rows[i] (List.getElem_mem hi)) hline]
    simp [span]
  have hclamp (region : Region) : clamp region region = region := by simp [clamp]
  have hfirst : max (origin.row + 1) (headedAt origin names rows).origin.row = origin.row + 1 :=
    Nat.max_eq_left (Nat.le_succ _)
  unfold records
  rw [bounds?_headedAt hne hrows]
  dsimp only
  rw [hclamp, if_neg (by simp; omega), headerNames_headedAt hne hnames hnodup]
  dsimp only
  rw [hfirst]
  exact congrArg (fun rs => (rs.filter (!·.isEmpty)).map Value.object) hrecords

end HeadedAt

end Grid

/-! ## Records made a table -/

namespace Record

variable {r : Record} {names : List String} {k : String} {v : Value}

/-- The fields that are not null. -/
def present (r : Record) : Record := r.filter (·.2 ≠ .null)

/-- The fields in the order of the names. -/
def arrange (names : List String) (r : Record) : Record :=
  names.filterMap fun k => (r.get? k).map (k, ·)

theorem get?_eq_some_iff (h : r.keys.Nodup) : r.get? k = some v ↔ (k, v) ∈ r := by
  induction r with
  | nil => simp [get?]
  | cons f r ih =>
    obtain ⟨j, w⟩ := f
    obtain ⟨hj, hr⟩ := List.nodup_cons.1 h
    rw [List.mem_cons, ← ih hr, get?, List.lookup_cons]
    by_cases hk : k = j
    · subst hk
      have hnone : get? r k ≠ some v := fun hv =>
        hj (List.mem_map_of_mem (f := (·.1)) ((ih hr).1 hv))
      simp [hnone, eq_comm]
    · rw [beq_eq_false_iff_ne.2 hk]
      simp [hk, get?]

theorem nodup_keys_present (h : r.keys.Nodup) : r.present.keys.Nodup :=
  h.sublist (List.filter_sublist.map _)

theorem get?_present (h : r.keys.Nodup) : r.present.get? k = (r.get? k).filter (· ≠ .null) := by
  ext v
  rw [get?_eq_some_iff (nodup_keys_present h), Option.filter_eq_some_iff, get?_eq_some_iff h,
    present, List.mem_filter]

theorem mem_arrange : (k, v) ∈ r.arrange names ↔ k ∈ names ∧ r.get? k = some v := by
  simp only [arrange, List.mem_filterMap, Option.map_eq_some_iff, Prod.mk.injEq]
  constructor
  · rintro ⟨j, hj, w, hw, rfl, rfl⟩
    exact ⟨hj, hw⟩
  · rintro ⟨hk, hv⟩
    exact ⟨k, hk, v, hv, rfl, rfl⟩

theorem keys_arrange_sublist (names : List String) (r : Record) :
    (r.arrange names).keys.Sublist names := by
  induction names with
  | nil => exact .slnil
  | cons k names ih =>
    rw [arrange, List.filterMap_cons]
    cases r.get? k with
    | none => exact ih.cons k
    | some v => exact ih.cons_cons k

/-- Fields arranged under some names are those that have one of these names. -/
theorem arrange_perm_filter (hr : r.keys.Nodup) (hnames : names.Nodup) :
    (r.arrange names).Perm (r.filter (·.1 ∈ names)) := by
  have hnodup {r : Record} (h : r.keys.Nodup) : r.Nodup := List.Nodup.of_map _ h
  have harrange := hnodup (hnames.sublist (keys_arrange_sublist names r))
  refine (List.perm_ext_iff_of_nodup harrange ((hnodup hr).filter _)).2 fun ⟨k, v⟩ => ?_
  rw [mem_arrange, get?_eq_some_iff hr, List.mem_filter, decide_eq_true_eq]
  exact and_comm

/-- Arranged under names among which its own are, a record has the same fields. -/
theorem arrange_perm (hr : r.keys.Nodup) (hnames : names.Nodup) (hsub : r.keys ⊆ names) :
    (r.arrange names).Perm r := by
  have hall : r.filter (·.1 ∈ names) = r :=
    List.filter_eq_self.2 fun f hf => decide_eq_true (hsub (List.mem_map_of_mem hf))
  exact (arrange_perm_filter hr hnames).trans (.of_eq hall)

end Record

namespace Table

/-- The cells of a record's row that are not blank are its fields that are not null. -/
theorem fieldsOf_row {r : Record} (h : r.keys.Nodup) (names : List String) :
    Grid.fieldsOf names (row names (.object r)) = r.present.arrange names := by
  unfold Grid.fieldsOf row Record.arrange
  induction names with
  | nil => rfl
  | cons k names ih =>
    have hfield : Value.field? (.object r) k = r.get? k := rfl
    rw [List.map_cons, List.zip_cons_cons, List.filterMap_cons, Record.get?_present h, hfield]
    cases r.get? k with
    | none =>
      rw [List.filter_cons_of_neg (by simp)]
      exact ih
    | some v =>
      by_cases hv : v = .null
      · rw [List.filter_cons_of_neg (by simp [hv]), Option.filter_some_neg (by simp [hv])]
        exact ih
      · rw [List.filter_cons_of_pos (by simp [hv]), Option.filter_some_pos (by simp [hv]), ih]
        rfl

/-- The table as a grid whose first row, which starts at `origin`, names the columns. -/
def grid (t : Table) (origin : Position) : Grid := .headedAt origin t.headers t.rows

theorem headers_ofRecords (rs : List Record) :
    (ofRecords (rs.map .object)).headers = (rs.flatMap Record.keys).eraseDups := by
  have hfields : (rs.map Value.object).filterMap Value.fields? = rs := by
    rw [List.filterMap_map, show Value.fields? ∘ Value.object = some from rfl, List.filterMap_some]
  rw [ofRecords, fieldNames_eq, Collection.fieldNames, hfields]

theorem nodup_headers (c : Collection) : (ofRecords c).headers.Nodup :=
  nodup_foldl_addName _ List.nodup_nil

theorem length_of_mem_rows {c : Collection} {row : List Value} (h : row ∈ (ofRecords c).rows) :
    row.length = (ofRecords c).headers.length := by
  obtain ⟨v, -, rfl⟩ := List.mem_map.1 h
  exact List.length_map ..

/-- **Records that were made a table are read from its grid.** The columns are the fields in the
order of their first appearance, and each row has a cell for each of them. What is read from the
grid, wherever it starts, are the records without their null fields, the others in the order of the
columns, except records of which no field is left. -/
theorem records_ofRecords : ∀ (rs : List Record) (origin : Position),
    (∀ r ∈ rs, r.keys.Nodup ∧ ∀ k ∈ r.keys, k ≠ "") →
    let t := ofRecords (rs.map .object)
    let kept := ((rs.map fun r => r.present.arrange t.headers).filter (!·.isEmpty)).map Value.object
    t.headers = (rs.flatMap Record.keys).eraseDups ∧ t.headers.Nodup ∧
    t.rows.length = rs.length ∧ (∀ row ∈ t.rows, row.length = t.headers.length) ∧
    (∀ r ∈ rs, (r.present.arrange t.headers).Perm r.present ∧
      (r.present.arrange t.headers).keys.Sublist t.headers) ∧
    match (t.grid origin).bounds? with
      | some region => (t.grid origin).records region = kept
      | none => kept = [] := by
  intro rs origin hrs t kept
  have hheaders : t.headers = (rs.flatMap Record.keys).eraseDups := headers_ofRecords rs
  have hmem {k : String} : k ∈ t.headers ↔ ∃ r ∈ rs, k ∈ r.keys := by
    rw [hheaders, List.mem_eraseDups, List.mem_flatMap]
  have hnodup : t.headers.Nodup := nodup_headers _
  have hrows : ∀ row ∈ t.rows, row.length = t.headers.length := fun row => length_of_mem_rows
  have hfields : (t.rows.map (Grid.fieldsOf t.headers)) =
      rs.map fun r => r.present.arrange t.headers := by
    have hbody : t.rows = rs.map (row t.headers ∘ Value.object) := List.map_map
    rw [hbody, List.map_map]
    exact List.map_congr_left fun r hr => fieldsOf_row (hrs r hr).1 t.headers
  refine ⟨hheaders, hnodup, by simp [t, ofRecords], hrows, fun r hr => ?_, ?_⟩
  · refine ⟨Record.arrange_perm (Record.nodup_keys_present (hrs r hr).1) hnodup fun k hk => ?_,
      Record.keys_arrange_sublist ..⟩
    exact hmem.2 ⟨r, hr, (List.filter_sublist.map _).subset hk⟩
  · by_cases hempty : t.headers = []
    · -- without fields there are no cells, and nothing of a record is kept
      have hnone : (t.grid origin).bounds? = none := by
        rw [grid, hempty]
        exact Grid.bounds?_headedAt_nil fun row hrow =>
          List.eq_nil_of_length_eq_zero (by rw [hrows row hrow, hempty, List.length_nil])
      rw [hnone]
      simp [kept, hempty, Record.arrange]
    · have hnames : ∀ k ∈ t.headers, k ≠ "" := fun k hk =>
        have ⟨r, hr, hk⟩ := hmem.1 hk
        (hrs r hr).2 k hk
      rw [grid, Grid.bounds?_headedAt hempty hrows]
      exact (Grid.records_headedAt hempty hnames hnodup hrows).trans (by rw [hfields])

/-- Records with null fields, one of which has no others. -/
def guests : List Record :=
  [[("b", .null), ("a", .string "x")], [("a", .null)],
    [("c", .array [.null]), ("b", .bool true), ("a", .null)]]

theorem records_ofRecords_guests :
    (∀ r ∈ guests, r.keys.Nodup ∧ ∀ k ∈ r.keys, k ≠ "") ∧
    (ofRecords (guests.map .object)).headers = ["b", "a", "c"] ∧
    ((ofRecords (guests.map .object)).grid ⟨2, 7⟩).bounds? = some ⟨⟨2, 7⟩, ⟨5, 9⟩⟩ ∧
    ((ofRecords (guests.map .object)).grid ⟨2, 7⟩).records ⟨⟨2, 7⟩, ⟨5, 9⟩⟩ =
      [.object [("a", .string "x")], .object [("b", .bool true), ("c", .array [.null])]] := by
  have hrs : ∀ r ∈ guests, r.keys.Nodup ∧ ∀ k ∈ r.keys, k ≠ "" := by decide
  obtain ⟨-, -, -, -, -, hrecords⟩ := records_ofRecords guests ⟨2, 7⟩ hrs
  exact ⟨hrs, by decide, by decide, hrecords.trans (by decide)⟩

end Table

end Reshape
