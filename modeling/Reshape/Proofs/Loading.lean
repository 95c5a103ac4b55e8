import Reshape.Proofs.ColumnNames
import Reshape.Proofs.Saving
import Reshape.Proofs.Unambiguous

/-!
# Values that are loaded

Wherever records come from, no fields of theirs are ambiguous: a JSON object that gives a field
twice is read as one that has it once, and columns of one name become one field. The cells of
workbooks are values of their own, and those that are written are plain.

* `Draft.unambiguous_value?`: values of JSON texts.
* `Grid.Unambiguous.records`: records of a grid.
* `Files.Unambiguous`: what is asked of the cells of workbooks.
* `Records.unambiguous_read`: records of a file.
* `Records.unambiguous_write`: the files after records were written.
-/

namespace Reshape

/-- What is made of a list element by element comes from its elements. -/
theorem exists_of_mem_mapM {α β : Type} {f : α → Option β} {as : List α} {bs : List β}
    (h : as.mapM f = some bs) : ∀ b ∈ bs, ∃ a ∈ as, f a = some b := by
  induction as generalizing bs with
  | nil =>
    cases h
    nofun
  | cons a as ih =>
    rw [List.mapM_cons] at h
    obtain ⟨b, hb, h⟩ := Option.bind_eq_some_iff.1 h
    obtain ⟨cs, hcs, h⟩ := Option.bind_eq_some_iff.1 h
    cases h
    refine List.forall_mem_cons.2 ⟨⟨a, List.mem_cons_self, hb⟩, fun c hc => ?_⟩
    obtain ⟨a', ha', hc'⟩ := ih hcs c hc
    exact ⟨a', List.mem_cons_of_mem a ha', hc'⟩

/-! ## JSON -/

namespace Draft

mutual

/-- The value of a draft has no ambiguous fields. -/
theorem unambiguous_value? {depth : Nat} {v : Value} : ∀ d : Draft, d.value? depth = some v →
    v.Unambiguous
  | .null, h => by
    cases h
    exact .null
  | .bool b, h => by
    cases h
    exact .bool b
  | .number n, h => by
    cases h
    exact .number n
  | .string s, h => by
    cases h
    exact .string s
  | .array items closed, h => by
    obtain _ | depth := depth
    · simp [value?] at h
    rw [value?] at h
    split at h
    · cases h
    obtain ⟨vs, hvs, rfl⟩ := Option.map_eq_some_iff.1 h
    exact Value.Unambiguous.array_iff.2 (unambiguous_values? items hvs)
  | .object fields closed, h => by
    obtain _ | depth := depth
    · simp [value?] at h
    rw [value?] at h
    split at h
    · cases h
    obtain ⟨fs, hfs, rfl⟩ := Option.map_eq_some_iff.1 h
    exact .ofList (unambiguous_fieldValues? fields hfs)
  | .unreadable, h => by cases h
  | .broken, h => by cases h

theorem unambiguous_values? {depth : Nat} {vs : List Value} : ∀ ds : List Draft,
    values? depth ds = some vs → ∀ v ∈ vs, v.Unambiguous
  | [], h => by
    cases h
    nofun
  | d :: ds, h => by
    obtain ⟨w, hw, h⟩ := Option.bind_eq_some_iff.1 h
    obtain ⟨ws, hws, h⟩ := Option.bind_eq_some_iff.1 h
    cases h
    exact List.forall_mem_cons.2 ⟨unambiguous_value? d hw, unambiguous_values? ds hws⟩

theorem unambiguous_fieldValues? {depth : Nat} {fs : List (String × Value)} :
    ∀ ds : List (Option String × Draft), fieldValues? depth ds = some fs →
      ∀ f ∈ fs, f.2.Unambiguous
  | [], h => by
    cases h
    nofun
  | (k, d) :: ds, h => by
    obtain ⟨name, -, h⟩ := Option.bind_eq_some_iff.1 h
    obtain ⟨w, hw, h⟩ := Option.bind_eq_some_iff.1 h
    obtain ⟨ws, hws, h⟩ := Option.bind_eq_some_iff.1 h
    cases h
    exact List.forall_mem_cons.2 ⟨unambiguous_value? d hw, unambiguous_fieldValues? ds hws⟩

end

end Draft

theorem Value.unambiguous_ofText? {text : String} {v : Value} (h : ofText? text = some v) :
    v.Unambiguous := by
  rw [ofText?] at h
  dsimp only at h
  split at h
  · exact Draft.unambiguous_value? _ h
  · cases h

/-! ## Grids -/

namespace Grid

variable {g : Grid} {v : Value}

/-- No fields in the cells are ambiguous. -/
def Unambiguous (g : Grid) : Prop := ∀ row ∈ g.rows, ∀ v ∈ row, v.Unambiguous

theorem Unambiguous.cell (h : g.Unambiguous) {p : Position} (hv : g.cell p = some v) :
    v.Unambiguous := by
  have hline : ∀ w ∈ g.line p.row, w.Unambiguous := by
    rw [line]
    split
    · exact List.forall_mem_nil _
    · cases hrow : g.rows[p.row - g.origin.row]? with
      | none => exact List.forall_mem_nil _
      | some row => exact h row (List.mem_of_getElem? hrow)
  rw [Grid.cell, cellOf] at hv
  split at hv
  · cases hv
  · exact hline v (List.mem_of_getElem? (Option.filter_eq_some_iff.1 hv).1)

theorem Unambiguous.records (h : g.Unambiguous) (region : Region) (hv : v ∈ g.records region) :
    v.Unambiguous := by
  cases hused : g.bounds? with
  | none =>
    rw [Grid.records, hused] at hv
    cases hv
  | some used =>
    rw [records_eq hused, List.mem_map] at hv
    obtain ⟨r, hr, rfl⟩ := hv
    obtain ⟨row, -, rfl⟩ := List.mem_map.1 (List.mem_filter.1 hr).1
    refine .ofList fun f hf => ?_
    obtain ⟨⟨name, column⟩, -, hcell⟩ := List.mem_filterMap.1 hf
    obtain ⟨w, hw, rfl⟩ := Option.map_eq_some_iff.1 hcell
    exact h.cell hw

theorem Unambiguous.selectRecords (h : g.Unambiguous) {first last : Option String}
    {d : List Value} (hd : g.selectRecords first last = .ok d) : ∀ v ∈ d, v.Unambiguous := by
  rw [Grid.selectRecords] at hd
  split at hd
  · cases hd
    nofun
  · rename_i used _
    cases hregion : used.override first last with
    | error e =>
      rw [hregion] at hd
      cases hd
    | ok region =>
      rw [hregion] at hd
      cases hd
      exact fun v hv => h.records region hv

end Grid

theorem Csv.unambiguous_grid (delimiter : Char) (cs : List Char) :
    (Csv.grid delimiter cs).Unambiguous := by
  intro row hrow v hv
  obtain ⟨texts, -, rfl⟩ := List.mem_map.1 hrow
  obtain ⟨text, -, rfl⟩ := List.mem_map.1 hv
  unfold Csv.cell
  dsimp only
  split
  · exact .null
  · exact .string _

/-- No fields in the cells are ambiguous. -/
def Sheet.Unambiguous (s : Sheet) : Prop := ∀ row ∈ s, ∀ v ∈ row, v.Unambiguous

namespace Sheet

theorem unambiguous_readCell {v : Value} (h : v.Unambiguous) : (readCell v).Unambiguous := by
  cases v with
  | number n => exact .number _
  | _ => exact h

/-- A sheet is read as a grid of its own cells and blank ones. -/
theorem Unambiguous.read {s : Sheet} (h : s.Unambiguous) : s.read.Unambiguous := by
  unfold Sheet.read
  dsimp only
  split
  · nofun
  · intro cells hcells v hv
    obtain ⟨row, hrow, rfl⟩ := List.mem_map.1 hcells
    obtain ⟨w, hw, rfl⟩ := List.mem_map.1 hv
    have hmem : row ∈ s := by
      have hsub := (List.dropWhile_sublist _).subset (List.mem_reverse.1 hrow)
      exact (List.dropWhile_sublist _).subset (List.mem_reverse.1 hsub)
    refine unambiguous_readCell ?_
    rw [slice, List.extract_eq_take_drop] at hw
    rcases List.mem_append.1 (List.mem_of_mem_drop (List.mem_of_mem_take hw)) with hw | hw
    · exact h row hmem w hw
    · rw [List.eq_of_mem_replicate hw]
      exact .null

theorem unambiguous_cell (v : Value) : (cell v).Unambiguous := by
  unfold cell
  split
  · exact .null
  · exact .bool _
  · exact .number _
  · split
    · exact .null
    · exact .string _

theorem unambiguous_ofRecords (c : Collection) : (ofRecords c).Unambiguous := by
  intro row hrow v hv
  rcases List.mem_cons.1 hrow with rfl | hrow
  · obtain ⟨k, -, rfl⟩ := List.mem_map.1 hv
    exact unambiguous_cell _
  · obtain ⟨cells, -, rfl⟩ := List.mem_map.1 hrow
    obtain ⟨w, -, rfl⟩ := List.mem_map.1 hv
    exact unambiguous_cell w

theorem Unambiguous.stored? {s t : Sheet} (h : s.Unambiguous) (ht : s.stored? = some t) :
    t.Unambiguous := by
  rw [Sheet.stored?, Option.bind_eq_bind, Option.bind_eq_some_iff] at ht
  obtain ⟨back, -, ht⟩ := ht
  intro cells hcells v hv
  obtain ⟨row, hrow, hcells⟩ := exists_of_mem_mapM ht cells hcells
  obtain ⟨w, hw, hv⟩ := exists_of_mem_mapM hcells v hv
  cases w with
  | string text =>
    obtain ⟨u, -, rfl⟩ := Option.map_eq_some_iff.1 hv
    exact .string u
  | _ =>
    cases hv
    exact h row hrow _ hw

end Sheet

/-! ## Files -/

/-- No fields in the cells of the workbooks are ambiguous. -/
def Files.Unambiguous (f : Files) : Prop :=
  ∀ k c w, f.entries.get? k = some c → c.workbook? = some w → ∀ s ∈ w, Sheet.Unambiguous s.2

theorem Files.Unambiguous.write {f g : Files} (hf : f.Unambiguous) {path : String} {c : Content}
    (h : f.write path c = .ok g)
    (hc : ∀ w, c.workbook? = some w → ∀ s ∈ w, Sheet.Unambiguous s.2) : g.Unambiguous := by
  obtain ⟨place, -, -, rfl⟩ := Files.write_eq_ok h
  intro k d w hd
  rw [Catalog.get?_insert] at hd
  split at hd
  · obtain rfl := Option.some.inj hd
    exact hc w
  · exact hf k d w hd

namespace Records

theorem unambiguous_readJson {f : Files} {path : String} {d : List Value}
    (h : readJson f path = .ok d) : ∀ v ∈ d, v.Unambiguous := by
  rw [readJson] at h
  split at h
  · cases h
  · split at h
    · cases h
    · rename_i hitems
      cases h
      exact Value.Unambiguous.array_iff.1 (Value.unambiguous_ofText? hitems)
    · cases h

theorem unambiguous_readCsv {f : Files} {path : String} {g : Grid}
    (h : readCsv f path = .ok g) : g.Unambiguous := by
  rw [readCsv] at h
  split at h
  · cases h
  · obtain ⟨cs, -, h⟩ := bind_eq_ok.1 h
    cases h
    exact Csv.unambiguous_grid _ _

theorem exists_of_readWorkbook {f : Files} {path : String} {w : Workbook}
    (h : readWorkbook f path = .ok w) :
    ∃ k c, f.entries.get? k = some c ∧ c.workbook? = some w := by
  rw [readWorkbook] at h
  split at h
  · rename_i hfile _
    cases h
    obtain ⟨c, hfile, hc⟩ := Option.bind_eq_some_iff.1 hfile
    rw [Files.find?] at hfile
    split at hfile
    · exact ⟨_, c, hfile, hc⟩
    · cases hfile
  · cases h

theorem unambiguous_readSheet {f : Files} (hf : f.Unambiguous) {path sheet : String} {g : Grid}
    (h : readSheet f path sheet = .ok g) : g.Unambiguous := by
  rw [readSheet] at h
  split at h
  · cases h
  rename_i w hw
  split at h
  · rename_i s hs
    cases h
    refine Sheet.Unambiguous.read ?_
    obtain ⟨k, c, hk, hc⟩ := exists_of_readWorkbook hw
    exact hf k c w hk hc (sheet, s) (mem_of_lookup hs)
  · cases h

theorem unambiguous_read {f : Files} (hf : f.Unambiguous) {path : String} {selection : Selection}
    {d : List Value} (h : read f path selection = .ok d) : ∀ v ∈ d, v.Unambiguous := by
  rw [read] at h
  split at h
  · exact unambiguous_readJson h
  · dsimp only at h
    split at h
    · obtain ⟨grid, hgrid, h⟩ := bind_eq_ok.1 h
      exact (unambiguous_readCsv hgrid).selectRecords h
    · obtain ⟨grid, hgrid, h⟩ := bind_eq_ok.1 h
      exact (unambiguous_readSheet hf hgrid).selectRecords h

theorem unambiguous_write {f : Files} (hf : f.Unambiguous) (path sheet : String) (c : Collection) :
    (write f path sheet c).1.Unambiguous := by
  rw [write]
  split
  · exact hf
  · rename_i g hg
    have hbook : g.Unambiguous := by
      obtain ⟨bytes, hwrite⟩ := writeSheet_eq_ok hg
      refine hf.write hwrite fun w hw t ht => ?_
      obtain ⟨stored, hstored, rfl⟩ := Option.map_eq_some_iff.1 hw
      obtain rfl := List.mem_singleton.1 ht
      exact (Sheet.unambiguous_ofRecords c).stored? hstored
    split
    · exact hbook
    · rename_i hjson
      exact hbook.write (writeJson_eq_ok hjson) fun w hw => by cases hw

end Records

end Reshape
