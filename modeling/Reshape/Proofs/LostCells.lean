import Mathlib.Data.List.Dedup
import Mathlib.Data.List.Perm.Subperm
import Reshape.Proofs.Coordinates

/-!
# Cells that are lost

A row has one field for two columns of the same name, and the cell of the first of them is lost. So
the number of fields that are read tells whether the names of columns differ where it matters.

* `Record.length_ofList`: what is made of fields has as many of them only if their names differ.
* `Grid.fieldCount_records`: no cell of a region is lost exactly if the cells of every row are under
  different names.
* `Grid.object_mem_records`: such a row is read as it is.
* `Grid.records_of_region`: what is read of a region, and that it is read within 32 bits.
-/

namespace Reshape

namespace Record

/-- A record has fewer fields than it was made of, unless their names differ. -/
theorem length_ofList (fields : List (String × Value)) :
    (ofList fields).length ≤ fields.length ∧
      ((ofList fields).length = fields.length ↔ (keys fields).Nodup) := by
  have hkeys (r : Record) : r.keys.length = r.length := List.length_map ..
  have hdedup : (ofList fields).length ≤ (keys fields).dedup.length := by
    obtain ⟨hnodup, hmem⟩ := ofList_inv fields
    rw [← hkeys]
    exact (List.subperm_of_subset hnodup fun k hk =>
      List.mem_dedup.2 (List.map_subset _ hmem hk)).length_le
  have hsub := List.dedup_sublist (keys fields)
  have hle := hkeys fields ▸ hsub.length_le
  refine ⟨hdedup.trans hle, fun heq => ?_, fun h => by rw [ofList_of_nodup h]⟩
  have hlength : (keys fields).dedup.length = (keys fields).length := by
    rw [hkeys]
    omega
  exact List.dedup_eq_self.1 (hsub.eq_of_length hlength)

/-- The fields that are read are those of all rows: rows that are left out have none. -/
theorem flatMap_fields_filter (rs : List Record) :
    ((rs.filter (!·.isEmpty)).map Value.object).flatMap (fun v => v.fields?.getD []) =
      rs.flatten := by
  induction rs with
  | nil => rfl
  | cons r rs ih =>
    cases r with
    | nil => simpa using ih
    | cons f r => simpa [Value.fields?] using ih

/-- Records that were made of rows have as many fields as the rows if each has its own. -/
theorem length_flatten_ofList (rows : List (List (String × Value))) :
    (rows.map ofList).flatten.length ≤ rows.flatten.length ∧
      ((rows.map ofList).flatten.length = rows.flatten.length ↔
        ∀ row ∈ rows, (keys row).Nodup) := by
  induction rows with
  | nil => simp
  | cons row rows ih =>
    obtain ⟨hle, hiff⟩ := ih
    obtain ⟨hrow, hnodup⟩ := length_ofList row
    simp only [List.map_cons, List.flatten_cons, List.length_append, List.forall_mem_cons]
    rw [← hiff, ← hnodup]
    omega

end Record

namespace Grid

/-- The number of fields of all records. -/
def fieldCount (records : List Value) : Nat :=
  (records.flatMap fun v => v.fields?.getD []).length

/-- A cell of a region is lost if another one of its row is under the same name, and only then. -/
theorem fieldCount_records {g : Grid} {used : Region} (h : g.bounds? = some used)
    (region : Region) :
    fieldCount (g.records region) = g.filledBelow (clamp used region) ↔
      ∀ row ∈ (clamp used region).rowsBelow,
        (g.rowFields (clamp used region) row).keys.Nodup := by
  generalize hr : clamp used region = r
  have hfilled (rows : List Nat) : (rows.flatMap fun row =>
      r.columns.filter fun column => (g.cell ⟨row, column⟩).isSome).length =
        (rows.map (g.rowFields r)).flatten.length := by
    induction rows with
    | nil => rfl
    | cons row rows ih =>
      rw [List.flatMap_cons, List.length_append, ih, List.map_cons, List.flatten_cons,
        List.length_append, length_rowFields]
  have hcount := (Record.length_flatten_ofList (r.rowsBelow.map (g.rowFields r))).2
  rw [List.map_map, List.forall_mem_map, ← hfilled] at hcount
  rw [fieldCount, records_eq h, hr, Record.flatMap_fields_filter]
  exact hcount

/-- A row that has a field is read as it is if its fields have names of their own. -/
theorem object_mem_records {g : Grid} {used : Region} (h : g.bounds? = some used)
    {region : Region} {row : Nat} (hrow : row ∈ (clamp used region).rowsBelow)
    (hkeys : (g.rowFields (clamp used region) row).keys.Nodup) {name : String} {v : Value}
    (hget : (g.rowFields (clamp used region) row).get? name = some v) :
    .object (g.rowFields (clamp used region) row) ∈ g.records region := by
  have hsome : (!(g.rowFields (clamp used region) row).isEmpty) = true := by
    cases hfields : g.rowFields (clamp used region) row with
    | nil =>
      rw [hfields] at hget
      cases hget
    | cons f fields => rfl
  have hread := List.mem_map_of_mem (f := fun row =>
    Record.ofList (g.rowFields (clamp used region) row)) hrow
  rw [Record.ofList_of_nodup hkeys] at hread
  rw [records_eq h]
  exact List.mem_map_of_mem (List.mem_filter.2 ⟨hread, hsome⟩)

/-- **What is read of a region**: for each row its cells under the names of their columns. The names
differ unless one of the texts in the first row is what another one is numbered as. If they differ,
there is a field for every cell that is not blank, and it holds the cell. For a grid of which all
positions are of 32 bits, this is what is read within 32 bits. -/
theorem records_of_region : ∀ (g : Grid) (region : Region),
    (g.Fits → g.checkedRecords region = some (g.records region)) ∧
    match g.bounds? with
    | none => g.records region = [] ∧ ∀ p, g.cell p = none
    | some used =>
      let r := clamp used region
      g.records region = ((r.rowsBelow.map fun row =>
        Record.ofList (g.rowFields r row)).filter (!·.isEmpty)).map .object ∧
      (fieldCount (g.records region) = g.filledBelow r ↔
        ∀ row ∈ r.rowsBelow, (g.rowFields r row).keys.Nodup) ∧
      ((g.namesAbove r).Nodup ↔ NoneNumbered (g.textsAbove r)) ∧
      (NoneNumbered (g.textsAbove r) →
        fieldCount (g.records region) = g.filledBelow r ∧
        ∀ row ∈ r.rowsBelow, ∀ column ∈ r.columns, ∀ v, g.cell ⟨row, column⟩ = some v →
          ∃ name fields, (name, column) ∈ (g.namesAbove r).zip r.columns ∧
            fields = g.rowFields r row ∧ .object fields ∈ g.records region ∧
            fields.get? name = some v) := by
  intro g region
  refine ⟨fun h => checkedRecords_eq h region, ?_⟩
  cases hused : g.bounds? with
  | none =>
    have hrecords : g.records region = [] := by rw [records, hused]
    exact ⟨hrecords, cell_of_bounds? hused⟩
  | some used =>
    have hcount := fieldCount_records hused region
    have hrecords := records_eq hused region
    have hmem := @object_mem_records g used hused region
    dsimp only
    generalize clamp used region = r at hcount hrecords hmem ⊢
    refine ⟨hrecords, hcount, nodup_headerNames, fun hnone => ?_⟩
    have hnames : (g.namesAbove r).Nodup := nodup_headerNames.2 hnone
    have hkeys (row : Nat) : (g.rowFields r row).keys.Nodup :=
      hnames.sublist (keys_rowFields_sublist g r row)
    refine ⟨hcount.2 fun row _ => hkeys row, fun row hrow column hcolumn v hv => ?_⟩
    obtain ⟨name, hname⟩ := exists_name hcolumn
    have hget := get?_rowFields hnames hname hv
    exact ⟨name, g.rowFields r row, hname, rfl, hmem hrow (hkeys row) hget, hget⟩

/-- Two columns under one text and two under none. -/
def repeatedHeads : Grid :=
  ⟨⟨0, 0⟩, [[.string "x", .null, .string "x"],
    [.string "a", .null, .bool true, .string "b"]]⟩

/-- All cells below two repeated heads are read. -/
theorem records_of_region_repeatedHeads :
    repeatedHeads.Fits ∧ NoneNumbered (repeatedHeads.textsAbove ⟨⟨0, 0⟩, ⟨1, 3⟩⟩) ∧
      fieldCount (repeatedHeads.records ⟨⟨0, 0⟩, ⟨1, 3⟩⟩) = 3 ∧
      repeatedHeads.checkedRecords ⟨⟨0, 0⟩, ⟨1, 3⟩⟩ = some
        [.object [("x", .string "a"), ("x_1", .bool true), ("__EMPTY_1", .string "b")]] := by
  have hbounds : repeatedHeads.bounds? = some ⟨⟨0, 0⟩, ⟨1, 3⟩⟩ := by decide +kernel
  have hfits : repeatedHeads.Fits := by decide +kernel
  have hnone : NoneNumbered (repeatedHeads.textsAbove ⟨⟨0, 0⟩, ⟨1, 3⟩⟩) := by decide +kernel
  have hfilled : repeatedHeads.filledBelow ⟨⟨0, 0⟩, ⟨1, 3⟩⟩ = 3 := by decide +kernel
  have hnames : repeatedHeads.namesAbove ⟨⟨0, 0⟩, ⟨1, 3⟩⟩ =
      ["x", "__EMPTY", "x_1", "__EMPTY_1"] := by
    rw [namesAbove, headerNames_eq_mapIdx]
    decide +kernel
  obtain ⟨hchecked, -, -, -, hread⟩ := records_of_region repeatedHeads ⟨⟨0, 0⟩, ⟨1, 3⟩⟩
  refine ⟨hfits, hnone, (hread hnone).1.trans hfilled, ?_⟩
  rw [hchecked hfits, records_of_names hbounds hnames _ rfl]
  decide +kernel

/-- The third column is named as the second one is. -/
def numberedHead : Grid :=
  ⟨⟨0, 0⟩, [[.string "x", .string "x_1", .string "x"], [.string "a", .string "b", .string "c"]]⟩

/-- A text above a column may be the name of another column, and a cell of that one is lost. -/
theorem cell_lost_of_numberedHead :
    numberedHead.bounds? = some ⟨⟨0, 0⟩, ⟨1, 2⟩⟩ ∧
      ¬ (numberedHead.namesAbove ⟨⟨0, 0⟩, ⟨1, 2⟩⟩).Nodup ∧
      numberedHead.records ⟨⟨0, 0⟩, ⟨1, 2⟩⟩ =
        [.object [("x", .string "a"), ("x_1", .string "c")]] ∧
      numberedHead.filledBelow ⟨⟨0, 0⟩, ⟨1, 2⟩⟩ = 3 := by
  have hbounds : numberedHead.bounds? = some ⟨⟨0, 0⟩, ⟨1, 2⟩⟩ := by decide +kernel
  have hnames : numberedHead.namesAbove ⟨⟨0, 0⟩, ⟨1, 2⟩⟩ = ["x", "x_1", "x_1"] := by
    rw [namesAbove, headerNames_eq_mapIdx]
    decide +kernel
  refine ⟨hbounds, by rw [hnames]; decide, ?_, by decide +kernel⟩
  rw [records_of_names hbounds hnames _ rfl]
  decide +kernel

end Grid

end Reshape
