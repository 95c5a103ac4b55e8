import Mathlib.Data.List.Nodup
import Reshape.Proofs.Columns
import Reshape.Proofs.Digits
import Reshape.Proofs.JsonReading

/-!
# Columns with names of their own

A text that stands above several columns is numbered from the second one on. The numbered names
share one name space with the texts, so one of them may be the text above another column.

* `Grid.numbered_inj`: different numbers, or different texts, make different names.
* `Grid.headerNames_eq_mapIdx`: the names of columns as numbered texts, each with the number of
  columns before it that have the text.
* `Grid.nodup_headerNames`: when the names of all columns differ.
* `Grid.rowRecord_eq`: the record of a row as its cells that are not blank.
* `Grid.records_eq`: the records of a region, wherever it starts.
-/

namespace Reshape

namespace Grid

/-! ## Numbered texts -/

theorem toList_numbered {text : String} {count : Nat} (h : 0 < count) :
    (numbered text count).toList = text.toList ++ '_' :: Nat.toDigits 10 count := by
  rw [numbered, if_neg (Nat.ne_of_gt h), Number.intText, if_neg (by simp)]
  simp

/-- The number after a text is what follows the last underscore. -/
theorem numbered_inj {text other : String} {m n : Nat} (hm : 0 < m) (hn : 0 < n)
    (h : numbered text m = numbered other n) : text = other ∧ m = n := by
  have split (cs : List Char) (k : Nat) :
      ((cs ++ '_' :: Nat.toDigits 10 k).reverse.takeWhile (· ≠ '_')) =
        (Nat.toDigits 10 k).reverse := by
    rw [List.reverse_append, List.reverse_cons, List.append_assoc]
    refine takeWhile_append (fun c hc => ?_) (by simp)
    have hdigit := isDigit_of_mem_toDigits (List.mem_reverse.1 hc)
    simpa using fun he : c = '_' => absurd (he ▸ hdigit) (by decide)
  have hlist := congrArg String.toList h
  rw [toList_numbered hm, toList_numbered hn] at hlist
  have hdigits : Nat.toDigits 10 m = Nat.toDigits 10 n := by
    have := congrArg (fun cs : List Char => cs.reverse.takeWhile (· ≠ '_')) hlist
    simp only [split] at this
    exact List.reverse_injective this
  rw [hdigits] at hlist
  refine ⟨String.toList_injective (List.append_cancel_right hlist), ?_⟩
  rw [← digitsValue_toDigits m, hdigits, digitsValue_toDigits]

/-! ## Names of columns -/

/-- The texts above columns after those that were seen, each with the number of columns before it
that have the text. -/
def occurrencesFrom (seen : Tally) : List String → List (String × Nat)
  | [] => []
  | t :: ts => (t, seen.count t) :: occurrencesFrom (seen.add t) ts

theorem mem_occurrencesFrom {seen : Tally} {texts : List String} {t : String} {k : Nat} :
    (t, k) ∈ occurrencesFrom seen texts ↔
      seen.count t ≤ k ∧ k < seen.count t + texts.count t := by
  induction texts generalizing seen with
  | nil => simp [occurrencesFrom]
  | cons u us ih =>
    rw [occurrencesFrom, List.mem_cons, ih, Tally.count_add, List.count_cons, Prod.mk.injEq]
    by_cases h : u = t
    · subst h
      simp only [true_and, beq_self_eq_true, if_true]
      omega
    · simp only [Ne.symm h, h, false_and, false_or, beq_iff_eq, if_false, Nat.add_zero]

theorem nodup_occurrencesFrom (seen : Tally) (texts : List String) :
    (occurrencesFrom seen texts).Nodup := by
  induction texts generalizing seen with
  | nil => exact List.nodup_nil
  | cons t ts ih =>
    refine List.nodup_cons.2 ⟨fun hmem => ?_, ih (seen.add t)⟩
    -- the text has been counted when the columns after it are looked at
    have hcount := (mem_occurrencesFrom.1 hmem).1
    rw [Tally.count_add, if_pos rfl] at hcount
    omega

theorem headerNamesFrom_eq (seen : Tally) (texts : List String) :
    headerNamesFrom seen texts = (occurrencesFrom seen texts).map fun o => numbered o.1 o.2 := by
  induction texts generalizing seen with
  | nil => rfl
  | cons t ts ih => rw [headerNamesFrom, ih, occurrencesFrom, List.map_cons]

theorem headerNamesFrom_eq_mapIdx (seen : Tally) (texts : List String) :
    headerNamesFrom seen texts =
      texts.mapIdx fun i t => numbered t (seen.count t + (texts.take i).count t) := by
  induction texts generalizing seen with
  | nil => rfl
  | cons u us ih =>
    rw [headerNamesFrom, ih, List.mapIdx_cons, List.take_zero, List.count_nil, Nat.add_zero]
    refine congrArg _ (List.mapIdx_eq_mapIdx_iff.2 fun i hi => ?_)
    rw [List.take_succ_cons, List.count_cons, Tally.count_add]
    simp only [beq_iff_eq]
    congr 1
    omega

/-- **A column is numbered** by the columns before it that have its text. -/
theorem headerNames_eq_mapIdx (texts : List String) :
    headerNames texts = texts.mapIdx fun i t => numbered t ((texts.take i).count t) := by
  rw [headerNames, headerNamesFrom_eq_mapIdx]
  simp only [Tally.count_empty, Nat.zero_add]

/-- No text is the numbered name of a column with another one. -/
def NoneNumbered (texts : List String) : Prop :=
  ∀ t ∈ texts, ∀ k < texts.count t, 0 < k → numbered t k ∉ texts

instance (texts : List String) : Decidable (NoneNumbered texts) :=
  inferInstanceAs (Decidable (∀ t ∈ texts, ∀ k < texts.count t, 0 < k → numbered t k ∉ texts))

/-- **The names of columns differ** exactly if none of the texts above them is a name that another
text is numbered as. -/
theorem nodup_headerNames {texts : List String} :
    (headerNames texts).Nodup ↔ NoneNumbered texts := by
  have hmem {t : String} {k : Nat} : (t, k) ∈ occurrencesFrom ∅ texts ↔ k < texts.count t := by
    rw [mem_occurrencesFrom, Tally.count_empty, Nat.zero_add]
    exact and_iff_right (Nat.zero_le k)
  have hfirst {t : String} : (t, 0) ∈ occurrencesFrom ∅ texts ↔ t ∈ texts := by
    rw [hmem, List.count_pos_iff]
  rw [headerNames, headerNamesFrom_eq, List.nodup_map_iff_inj_on (nodup_occurrencesFrom ∅ texts)]
  constructor
  · intro hinj t _ k hk hpos hname
    have := hinj (t, k) (hmem.2 hk) (numbered t k, 0) (hfirst.2 hname) rfl
    exact Nat.ne_of_gt hpos (congrArg Prod.snd this)
  · rintro hnone ⟨t, k⟩ ht ⟨u, l⟩ hu hname
    have mem {v : String} {n : Nat} (hv : (v, n) ∈ occurrencesFrom ∅ texts) : v ∈ texts :=
      List.count_pos_iff.1 (Nat.zero_lt_of_lt (hmem.1 hv))
    obtain rfl | hk := Nat.eq_zero_or_pos k <;> obtain rfl | hl := Nat.eq_zero_or_pos l
    · exact congrArg (·, 0) hname
    · exact absurd (hname ▸ mem ht) (hnone u (mem hu) l (hmem.1 hu) hl)
    · exact absurd (hname ▸ mem hu) (hnone t (mem ht) k (hmem.1 ht) hk)
    · obtain ⟨rfl, rfl⟩ := numbered_inj hk hl hname
      rfl

theorem length_headerNames (texts : List String) : (headerNames texts).length = texts.length := by
  have length (seen : Tally) (texts : List String) :
      (headerNamesFrom seen texts).length = texts.length := by
    induction texts generalizing seen with
    | nil => rfl
    | cons t ts ih => rw [headerNamesFrom, List.length_cons, ih, List.length_cons]
  exact length ∅ texts

end Grid

/-! ## Rows of a region -/

namespace Region

def columns (r : Region) : List Nat := Grid.span r.first.column r.last.column

/-- The rows below the first one, which names the fields. -/
def rowsBelow (r : Region) : List Nat := Grid.span (r.first.row + 1) r.last.row

end Region

namespace Grid

/-- The texts above the columns of a region. -/
def textsAbove (g : Grid) (r : Region) : List String :=
  (g.cells r.columns r.first.row).map headerText

/-- The names of the columns of a region. -/
def namesAbove (g : Grid) (r : Region) : List String := headerNames (g.textsAbove r)

/-- The cells of a row that are not blank, under the names of their columns. -/
def rowFields (g : Grid) (r : Region) (row : Nat) : Record :=
  ((g.namesAbove r).zip r.columns).filterMap fun f => (g.cell ⟨row, f.2⟩).map (f.1, ·)

/-- The number of cells below the first row of a region that are not blank. -/
def filledBelow (g : Grid) (r : Region) : Nat :=
  (r.rowsBelow.flatMap fun row =>
    r.columns.filter fun column => (g.cell ⟨row, column⟩).isSome).length

section Rows

variable {g : Grid} {r : Region} {row : Nat}

theorem length_namesAbove (g : Grid) (r : Region) :
    (g.namesAbove r).length = r.columns.length := by
  simp [namesAbove, length_headerNames, textsAbove, cells]

/-- The record of a row is made of its cells; of those under one name the last one counts. -/
theorem rowRecord_eq (g : Grid) (r : Region) (row : Nat) :
    rowRecord (g.namesAbove r) (g.cells r.columns row) = Record.ofList (g.rowFields r row) := by
  have hcells : g.cells r.columns row = r.columns.map fun column => g.cell ⟨row, column⟩ := rfl
  rw [rowRecord, hcells, List.zip_map_right, List.foldl_map, Record.ofList, rowFields,
    List.foldl_filterMap]
  congr 1
  funext fields f
  simp only [Prod.map_fst, Prod.map_snd, id_eq]
  cases g.cell ⟨row, f.2⟩ <;> rfl

theorem cell_of_lt (h : row < g.origin.row) (column : Nat) : g.cell ⟨row, column⟩ = none := by
  have hline : g.line row = [] := if_pos h
  simp [cell, cellOf, hline]

theorem rowFields_of_lt (h : row < g.origin.row) : g.rowFields r row = [] := by
  simp [rowFields, cell_of_lt h]

theorem length_rowFields (g : Grid) (r : Region) (row : Nat) : (g.rowFields r row).length =
    (r.columns.filter fun column => (g.cell ⟨row, column⟩).isSome).length := by
  rw [rowFields, List.length_filterMap_eq_countP, ← List.countP_eq_length_filter]
  simp only [Option.isSome_map]
  have hcount := List.countP_map (p := fun column => (g.cell ⟨row, column⟩).isSome) (f := Prod.snd)
    (l := (g.namesAbove r).zip r.columns)
  rw [List.map_snd_zip (Nat.le_of_eq (length_namesAbove g r).symm)] at hcount
  exact hcount.symm

theorem keys_rowFields_sublist (g : Grid) (r : Region) (row : Nat) :
    (g.rowFields r row).keys.Sublist (g.namesAbove r) := by
  have zipped (names : List String) (columns : List Nat) :
      (Record.keys ((names.zip columns).filterMap fun f =>
        (g.cell ⟨row, f.2⟩).map (f.1, ·))).Sublist names := by
    induction names generalizing columns with
    | nil => simp [Record.keys]
    | cons k names ih =>
      cases columns with
      | nil => simp [Record.keys]
      | cons column columns =>
        rw [List.zip_cons_cons, List.filterMap_cons]
        cases g.cell ⟨row, column⟩ with
        | none => exact (ih columns).cons k
        | some v => exact (ih columns).cons_cons k
  exact zipped _ _

/-- A cell that is not blank is in the record of its row, under a name of its column. -/
theorem get?_rowFields (h : (g.namesAbove r).Nodup) {name : String} {column : Nat} {v : Value}
    (hname : (name, column) ∈ (g.namesAbove r).zip r.columns)
    (hcell : g.cell ⟨row, column⟩ = some v) : (g.rowFields r row).get? name = some v := by
  rw [Record.get?_eq_some_iff (h.sublist (keys_rowFields_sublist g r row)), rowFields,
    List.mem_filterMap]
  exact ⟨(name, column), hname, by simp [hcell]⟩

theorem exists_name {column : Nat} (h : column ∈ r.columns) :
    ∃ name, (name, column) ∈ (g.namesAbove r).zip r.columns := by
  have hsnd := List.map_snd_zip (Nat.le_of_eq (length_namesAbove g r).symm)
  rw [← hsnd, List.mem_map] at h
  obtain ⟨⟨name, _⟩, hmem, rfl⟩ := h
  exact ⟨name, hmem⟩

end Rows

/-! ## What is read of a region -/

/-- Rows before the origin are blank, so it does not matter whether they are looked at. -/
theorem filter_map_span (f : Nat → Record) (origin : Nat) (h : ∀ row < origin, f row = [])
    (first last : Nat) : ((span (max first origin) last).map f).filter (!·.isEmpty) =
      ((span first last).map f).filter (!·.isEmpty) := by
  rcases Nat.le_total origin first with hle | hle
  · rw [Nat.max_eq_left hle]
  · have hsplit : span first last =
        List.range' first (min origin (last + 1) - first) ++ span origin last := by
      rcases Nat.le_total origin (last + 1) with hlast | hlast
      · rw [Nat.min_eq_left hlast, span, span]
        obtain ⟨n, rfl⟩ := Nat.exists_eq_add_of_le hle
        rw [Nat.add_sub_cancel_left, List.range'_append_1]
        congr 1
        omega
      · have hnone : span origin last = [] := by
          rw [span, Nat.sub_eq_zero_of_le hlast, List.range'_zero]
        rw [Nat.min_eq_right hlast, hnone, List.append_nil, span]
    have hbefore : ((List.range' first (min origin (last + 1) - first)).map f).filter
        (!·.isEmpty) = [] := by
      simp only [List.filter_eq_nil_iff, List.mem_map, List.mem_range'_1]
      rintro _ ⟨row, hrow, rfl⟩
      rw [h row (by omega)]
      simp
    rw [Nat.max_eq_right hle, hsplit, List.map_append, List.filter_append, hbefore, List.nil_append]

/-- The records of a region, wherever it starts. -/
theorem records_eq {g : Grid} {used : Region} (h : g.bounds? = some used) (region : Region) :
    g.records region = (((clamp used region).rowsBelow.map fun row =>
      Record.ofList (g.rowFields (clamp used region) row)).filter (!·.isEmpty)).map .object := by
  have hrows := filter_map_span
    (fun row => Record.ofList (g.rowFields (clamp used region) row)) g.origin.row
    (fun row hrow => by rw [rowFields_of_lt hrow]; rfl)
    ((clamp used region).first.row + 1) (clamp used region).last.row
  unfold records
  rw [h]
  dsimp only
  generalize clamp used region = r at hrows ⊢
  split
  · rename_i hempty
    rcases hempty with hrow | hcolumn
    · have hnone : r.rowsBelow = [] := by
        rw [Region.rowsBelow, span, Nat.sub_eq_zero_of_le (by omega), List.range'_zero]
      rw [hnone]
      rfl
    · have hnone : r.columns = [] := by
        rw [Region.columns, span, Nat.sub_eq_zero_of_le (by omega), List.range'_zero]
      have hfields : (fun row => Record.ofList (g.rowFields r row)) = fun _ => [] := by
        funext row
        rw [rowFields, hnone, List.zip_nil_right]
        rfl
      rw [hfields]
      simp
  · rw [Region.rowsBelow, ← hrows]
    congr 2
    exact List.map_congr_left fun row _ => rowRecord_eq g r row

/-- The records of a region of which the names of columns are known. -/
theorem records_of_names {g : Grid} {used r : Region} {names : List String}
    (h : g.bounds? = some used) (hnames : g.namesAbove r = names) (region : Region)
    (hclamp : clamp used region = r) :
    g.records region = ((r.rowsBelow.map fun row => Record.ofList
      ((names.zip r.columns).filterMap fun f => (g.cell ⟨row, f.2⟩).map (f.1, ·))).filter
        (!·.isEmpty)).map .object := by
  rw [records_eq h, hclamp, ← hnames]
  rfl

theorem length_le_width {g : Grid} {row : List Value} (h : row ∈ g.rows) :
    row.length ≤ g.width := by
  have fold (rows : List (List Value)) (n : Nat) :
      n ≤ rows.foldl (fun n row => max n row.length) n ∧
        ∀ row ∈ rows, row.length ≤ rows.foldl (fun n row => max n row.length) n := by
    induction rows generalizing n with
    | nil => simp
    | cons r rows ih =>
      obtain ⟨hle, hrows⟩ := ih (max n r.length)
      rw [List.foldl_cons, List.forall_mem_cons]
      exact ⟨(Nat.le_max_left ..).trans hle, (Nat.le_max_right ..).trans hle, hrows⟩
  exact (fold g.rows 0).2 row h

/-- A grid without cells has none that is not blank. -/
theorem cell_of_bounds? {g : Grid} (h : g.bounds? = none) (p : Position) : g.cell p = none := by
  have hline : g.line p.row = [] := by
    rw [line]
    split
    · rfl
    · cases hrow : g.rows[p.row - g.origin.row]? with
      | none => rfl
      | some row =>
        have hmem := List.mem_of_getElem? hrow
        have hnone : g.rows.isEmpty ∨ g.width = 0 := by
          by_contra hsome
          rw [bounds?, if_neg hsome] at h
          cases h
        rcases hnone with hrows | hwidth
        · rw [List.isEmpty_iff.1 hrows] at hmem
          cases hmem
        · have hle := length_le_width hmem
          rw [hwidth] at hle
          exact List.length_eq_zero_iff.1 (Nat.le_zero.1 hle)
  simp [cell, cellOf, hline]

end Grid

end Reshape
