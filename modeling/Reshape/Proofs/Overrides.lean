import Reshape.Proofs.Coordinates

/-!
# Regions that are overridden

The corners of the region in use may be replaced by any others. The first corner stays where it is,
and the last one is moved back into the region in use. So a region that is extended downwards has
the records that it had before, and more after them.

* `Region.Contains`, `Grid.contains_of_cell`: all cells that are not blank are in use.
* `Grid.records_congr`: the records depend on the region without what is not in use.
* `Grid.records_prefix`: the records of a region that ends further up come first.
* `Grid.records_of_override`: this, and that nothing is calculated beyond 32 bits.
-/

namespace Reshape

/-- The position is in the rectangle. -/
def Region.Contains (r : Region) (p : Position) : Prop :=
  r.first.row ≤ p.row ∧ p.row ≤ r.last.row ∧ r.first.column ≤ p.column ∧ p.column ≤ r.last.column

instance (r : Region) (p : Position) : Decidable (r.Contains p) :=
  inferInstanceAs (Decidable (_ ∧ _ ∧ _ ∧ _))

namespace Grid

variable {g : Grid} {used r r' : Region}

/-! ## Cells in use -/

/-- A cell that is not blank stands in a row of the grid. -/
theorem exists_of_cell {p : Position} {v : Value} (h : g.cell p = some v) :
    g.origin.row ≤ p.row ∧ g.origin.column ≤ p.column ∧
      ∃ row ∈ g.rows[p.row - g.origin.row]?, p.column - g.origin.column < row.length := by
  rw [cell, cellOf] at h
  split at h
  · cases h
  · rename_i hcolumn
    obtain ⟨hget, -⟩ := Option.filter_eq_some_iff.1 h
    obtain ⟨hlt, -⟩ := List.getElem?_eq_some_iff.1 hget
    rw [line] at hlt
    split at hlt
    · simp at hlt
    · rename_i hrow
      cases hline : g.rows[p.row - g.origin.row]? with
      | none => simp [hline] at hlt
      | some row =>
        rw [hline, Option.getD_some] at hlt
        exact ⟨Nat.not_lt.1 hrow, Nat.not_lt.1 hcolumn, row, rfl, hlt⟩

theorem contains_of_cell {p : Position} {v : Value} (h : g.cell p = some v) :
    ∃ used, g.bounds? = some used ∧ used.Contains p := by
  cases hused : g.bounds? with
  | none =>
    rw [cell_of_bounds? hused] at h
    cases h
  | some used =>
    obtain ⟨hrow, hcolumn, row, hmem, hlt⟩ := exists_of_cell h
    obtain ⟨rfl, -, -⟩ := bounds?_eq_some hused
    obtain ⟨hlength, hget⟩ := List.getElem?_eq_some_iff.1 hmem
    have hwidth := length_le_width (List.mem_of_getElem hget)
    refine ⟨_, rfl, hrow, ?_, hcolumn, ?_⟩ <;> dsimp only <;> omega

/-! ## Records of clamped regions -/

theorem records_of_none (h : g.bounds? = none) (r : Region) : g.records r = [] := by
  rw [records, h]

/-- The records of regions that are the same where the grid is in use. -/
theorem records_congr (h : g.bounds? = some used) (hclamp : clamp used r = clamp used r') :
    g.records r = g.records r' := by
  rw [records_eq h, records_eq h, hclamp]

/-- There are no records of a region that starts right of its end or below it. -/
theorem records_of_lt (h : g.bounds? = some used)
    (hlt : min r.last.row used.last.row < r.first.row ∨
      min r.last.column used.last.column < r.first.column) : g.records r = [] := by
  rw [records, h]
  exact if_pos hlt

/-- Regions with one first corner and one last column have the same fields in each row. -/
theorem rowFields_congr (hfirst : r.first = r'.first) (hcolumn : r.last.column = r'.last.column)
    (row : Nat) : g.rowFields r row = g.rowFields r' row := by
  simp only [rowFields, namesAbove, textsAbove, Region.columns, hfirst, hcolumn]

theorem span_prefix (first : Nat) {last last' : Nat} (h : last ≤ last') :
    span first last <+: span first last' := by
  have hcount : last' + 1 - first =
      last + 1 - first + (last' + 1 - first - (last + 1 - first)) := by omega
  rw [span, span, hcount, ← List.range'_append_1]
  exact List.prefix_append ..

/-- The records of a region that ends further up come first. -/
theorem records_prefix (g : Grid) (first : Position) (column : Nat) {row row' : Nat}
    (h : row ≤ row') : g.records ⟨first, row, column⟩ <+: g.records ⟨first, row', column⟩ := by
  cases hused : g.bounds? with
  | none =>
    rw [records_of_none hused]
    exact List.nil_prefix
  | some used =>
    have hrows : (clamp used ⟨first, row, column⟩).rowsBelow <+:
        (clamp used ⟨first, row', column⟩).rowsBelow :=
      span_prefix _ (Nat.le_min.2 ⟨(Nat.min_le_left ..).trans h, Nat.min_le_right ..⟩)
    have hfields (below : Nat) : g.rowFields (clamp used ⟨first, row, column⟩) below =
        g.rowFields (clamp used ⟨first, row', column⟩) below := rowFields_congr rfl rfl below
    rw [records_eq hused, records_eq hused]
    simp only [hfields]
    exact ((hrows.map _).filter _).map _

/-- **Regions are overridden monotonically, within 32 bits.** Cells that are not blank are in use.
An end beyond what is in use is read as the end of it, for rows and columns apart. A region that
ends further up has the first of the records, and one that starts beyond its end has none. For a
grid of which all positions are of 32 bits, no step of the arithmetic fails, and neither does one
for any address. -/
theorem records_of_override : ∀ g : Grid,
    (∀ p v, g.cell p = some v → ∃ used, g.bounds? = some used ∧ used.Contains p) ∧
    (g.bounds? = none → ∀ r, g.records r = []) ∧
    (∀ used, g.bounds? = some used → ∀ first row column,
      g.records ⟨first, row, column⟩ =
        g.records ⟨first, min row used.last.row, min column used.last.column⟩ ∧
      g.records ⟨first, row, column⟩ = g.records ⟨first, min row used.last.row, column⟩ ∧
      g.records ⟨first, row, column⟩ = g.records ⟨first, row, min column used.last.column⟩ ∧
      (min row used.last.row < first.row ∨ min column used.last.column < first.column →
        g.records ⟨first, row, column⟩ = [])) ∧
    (∀ first column row row', row ≤ row' →
      g.records ⟨first, row, column⟩ <+: g.records ⟨first, row', column⟩) ∧
    (∀ text, Position.checked text = some (Position.parse text)) ∧
    (g.Fits → g.checkedBounds = some g.bounds? ∧
      ∀ r, g.checkedRecords r = some (g.records r)) := by
  intro g
  refine ⟨fun p v => contains_of_cell, records_of_none, fun used hused first row column => ?_,
    fun first column row row' => g.records_prefix first column, Position.checked_eq,
    fun h => ⟨checkedBounds_eq h, checkedRecords_eq h⟩⟩
  refine ⟨records_congr hused ?_, records_congr hused ?_, records_congr hused ?_,
    fun hlt => records_of_lt hused hlt⟩ <;> simp [clamp]

/-- A grid at `C5` with a blank cell and rows of different lengths. -/
def raggedGrid : Grid :=
  ⟨⟨4, 2⟩, [[.string "a", .string "b"], [.bool true], [.null, .bool false, .string "x"], []]⟩

theorem records_of_override_raggedGrid :
    raggedGrid.Fits ∧ raggedGrid.bounds? = some ⟨⟨4, 2⟩, ⟨7, 4⟩⟩ ∧
    raggedGrid.cell ⟨6, 4⟩ = some (.string "x") ∧ Region.Contains ⟨⟨4, 2⟩, ⟨7, 4⟩⟩ ⟨6, 4⟩ ∧
    Position.parse "ZZZ9999999" = .ok ⟨9999998, 18277⟩ ∧
    raggedGrid.records ⟨⟨4, 2⟩, ⟨9999998, 18277⟩⟩ = raggedGrid.records ⟨⟨4, 2⟩, ⟨7, 4⟩⟩ ∧
    raggedGrid.records ⟨⟨4, 2⟩, ⟨7, 4⟩⟩ = [.object [("a", .bool true)],
      .object [("b", .bool false), ("__EMPTY", .string "x")]] ∧
    raggedGrid.records ⟨⟨4, 2⟩, ⟨5, 3⟩⟩ <+: raggedGrid.records ⟨⟨4, 2⟩, ⟨9999998, 3⟩⟩ ∧
    raggedGrid.records ⟨⟨4, 2⟩, ⟨5, 3⟩⟩ = [.object [("a", .bool true)]] ∧
    raggedGrid.records ⟨⟨4, 2⟩, ⟨9999998, 3⟩⟩ =
      [.object [("a", .bool true)], .object [("b", .bool false)]] ∧
    raggedGrid.records ⟨⟨8, 2⟩, ⟨9999998, 18277⟩⟩ = [] ∧
    raggedGrid.checkedRecords ⟨⟨4, 2⟩, ⟨9999998, 18277⟩⟩ =
      some (raggedGrid.records ⟨⟨4, 2⟩, ⟨9999998, 18277⟩⟩) := by
  have hfits : raggedGrid.Fits := by decide
  have hbounds : raggedGrid.bounds? = some ⟨⟨4, 2⟩, ⟨7, 4⟩⟩ := by decide
  have hcell : raggedGrid.cell ⟨6, 4⟩ = some (.string "x") := by decide
  obtain ⟨hcontains, -, hend, hprefix, -, hchecked⟩ := records_of_override raggedGrid
  obtain ⟨used, hused, hin⟩ := hcontains _ _ hcell
  obtain rfl := Option.some.inj (hbounds.symm.trans hused)
  -- the names of three columns and of two
  have hthree : raggedGrid.namesAbove ⟨⟨4, 2⟩, ⟨7, 4⟩⟩ = ["a", "b", "__EMPTY"] :=
    headerNames_of_nodup (by decide +kernel)
  have hdiffer : (raggedGrid.textsAbove ⟨⟨4, 2⟩, ⟨7, 3⟩⟩).Nodup := by decide +kernel
  have htwo (row : Nat) : raggedGrid.namesAbove ⟨⟨4, 2⟩, ⟨row, 3⟩⟩ = ["a", "b"] :=
    headerNames_of_nodup hdiffer
  have hall : raggedGrid.records ⟨⟨4, 2⟩, ⟨7, 4⟩⟩ = [.object [("a", .bool true)],
      .object [("b", .bool false), ("__EMPTY", .string "x")]] := by
    rw [records_of_names hbounds hthree _ rfl]
    decide +kernel
  have hfirst : raggedGrid.records ⟨⟨4, 2⟩, ⟨5, 3⟩⟩ = [.object [("a", .bool true)]] := by
    rw [records_of_names hbounds (htwo 5) _ rfl]
    decide +kernel
  have hmore : raggedGrid.records ⟨⟨4, 2⟩, ⟨9999998, 3⟩⟩ =
      [.object [("a", .bool true)], .object [("b", .bool false)]] := by
    rw [records_of_names hbounds (htwo 7) _ (by decide)]
    decide +kernel
  exact ⟨hfits, hbounds, hcell, hin, by decide +kernel, (hend _ hbounds _ _ _).1, hall,
    hprefix _ _ _ _ (by decide), hfirst, hmore, (hend _ hbounds _ _ _).2.2.2 (by decide),
    (hchecked hfits).2 _⟩

end Grid

end Reshape
