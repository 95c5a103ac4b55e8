import Mathlib.Data.List.Induction
import Mathlib.Data.List.Nodup
import Reshape.Proofs.JsonText

/-!
# Values that were read

What a text is read as is read again from its own text, if only the numbers in it are. The levels do
not become more, and the names of the fields of an object differ.

* `Record.ofList_inv`: the fields of a record that is made of a list.
* `Value.numbers`, `Value.NumbersReadBack`: the numbers in a value.
* `Draft.readable_of_value?`: the value of a draft is readable where the draft was read.
-/

namespace Reshape

/-! ## Records -/

namespace Record

variable {r : Record} {f : String × Value}

theorem mem_of_mem_insert {k : String} {v : Value} (h : f ∈ r.insert k v) : f ∈ r ∨ f = (k, v) := by
  induction r with
  | nil => exact .inr (List.mem_singleton.1 h)
  | cons g r ih =>
    obtain ⟨j, w⟩ := g
    rw [insert] at h
    split at h
    · rename_i hj
      rcases List.mem_cons.1 h with rfl | h
      · exact .inr (by rw [hj])
      · exact .inl (List.mem_cons_of_mem _ h)
    · rcases List.mem_cons.1 h with rfl | h
      · exact .inl List.mem_cons_self
      · exact (ih h).imp_left (List.mem_cons_of_mem _)

theorem nodup_keys_insert (h : r.keys.Nodup) (k : String) (v : Value) :
    (r.insert k v).keys.Nodup := by
  induction r with
  | nil => exact List.nodup_singleton k
  | cons g r ih =>
    obtain ⟨j, w⟩ := g
    obtain ⟨hj, hr⟩ := List.nodup_cons.1 h
    rw [insert]
    split
    · exact h
    · rename_i hne
      refine List.nodup_cons.2 ⟨fun hmem => ?_, ih hr⟩
      obtain ⟨g, hg, hgj⟩ := List.mem_map.1 hmem
      rcases mem_of_mem_insert hg with hg | rfl
      · exact hj (List.mem_map.2 ⟨g, hg, hgj⟩)
      · exact hne hgj.symm

/-- The fields of a record are among those that it was made of, and their names differ. -/
theorem ofList_inv (fields : List (String × Value)) :
    (ofList fields).keys.Nodup ∧ ∀ f ∈ ofList fields, f ∈ fields := by
  induction fields using List.reverseRecOn with
  | nil => exact ⟨List.nodup_nil, nofun⟩
  | append_singleton fields f ih =>
    rw [ofList, List.foldl_append, ← ofList]
    refine ⟨nodup_keys_insert ih.1 f.1 f.2, fun g hg => ?_⟩
    rw [List.mem_append, List.mem_singleton]
    exact (mem_of_mem_insert hg).imp_left (ih.2 g)

end Record

/-! ## Numbers -/

namespace Value

mutual

/-- The numbers in a value. -/
def numbers : Value → List Number
  | .null | .bool _ | .string _ => []
  | .number n => [n]
  | .array items => numbersOfItems items
  | .object fields => numbersOfFields fields

def numbersOfItems : List Value → List Number
  | [] => []
  | v :: r => numbers v ++ numbersOfItems r

def numbersOfFields : List (String × Value) → List Number
  | [] => []
  | (_, v) :: r => numbers v ++ numbersOfFields r

end

theorem numbersOfItems_eq (items : List Value) : numbersOfItems items = items.flatMap numbers := by
  induction items with
  | nil => rfl
  | cons v r ih => rw [numbersOfItems, ih, List.flatMap_cons]

theorem numbersOfFields_eq (fields : List (String × Value)) :
    numbersOfFields fields = fields.flatMap fun f => numbers f.2 := by
  induction fields with
  | nil => rfl
  | cons f r ih => rw [numbersOfFields, ih, List.flatMap_cons]

/-- The numbers in the value are read as they are written. -/
def NumbersReadBack (v : Value) : Prop := ∀ n ∈ v.numbers, n.ReadsBack

namespace NumbersReadBack

theorem array_iff {items : List Value} :
    (Value.array items).NumbersReadBack ↔ ∀ v ∈ items, v.NumbersReadBack := by
  simp only [NumbersReadBack, numbers, numbersOfItems_eq, List.mem_flatMap]
  exact ⟨fun h v hv n hn => h n ⟨v, hv, hn⟩, fun h n ⟨v, hv, hn⟩ => h v hv n hn⟩

theorem object_iff {fields : Record} :
    (Value.object fields).NumbersReadBack ↔ ∀ f ∈ fields, f.2.NumbersReadBack := by
  simp only [NumbersReadBack, numbers, numbersOfFields_eq, List.mem_flatMap]
  exact ⟨fun h f hf n hn => h n ⟨f, hf, hn⟩, fun h n ⟨f, hf, hn⟩ => h f hf n hn⟩

end NumbersReadBack

/-- A value that is read where some levels are is also read where more are. -/
theorem Readable.succ {depth : Nat} {v : Value} (h : v.Readable depth) :
    v.Readable (depth + 1) := by
  induction h with
  | null => exact .null
  | bool b => exact .bool b
  | number hn => exact .number hn
  | string s => exact .string s
  | array _ ih => exact .array ih
  | object hkeys _ ih => exact .object hkeys ih

end Value

/-! ## Drafts -/

namespace Draft

mutual

/-- A value that was read is read again from its text. -/
theorem readable_of_value? {depth : Nat} {v : Value} : ∀ d : Draft, d.value? depth = some v →
    v.NumbersReadBack → v.Readable depth
  | .null, h, _ => by
    cases h
    exact .null
  | .bool b, h, _ => by
    cases h
    exact .bool b
  | .number n, h, hn => by
    cases h
    exact .number (hn n List.mem_cons_self)
  | .string s, h, _ => by
    cases h
    exact .string s
  | .array items closed, h, hn => by
    obtain _ | depth := depth
    · simp [value?] at h
    rw [value?] at h
    split at h
    · cases h
    obtain ⟨vs, hvs, rfl⟩ := Option.map_eq_some_iff.1 h
    exact .array fun v hv =>
      readable_of_values? items hvs v hv (Value.NumbersReadBack.array_iff.1 hn v hv)
  | .object fields closed, h, hn => by
    obtain _ | depth := depth
    · simp [value?] at h
    rw [value?] at h
    split at h
    · cases h
    obtain ⟨fs, hfs, rfl⟩ := Option.map_eq_some_iff.1 h
    obtain ⟨hkeys, hmem⟩ := Record.ofList_inv fs
    exact .object hkeys fun f hf =>
      readable_of_fieldValues? fields hfs f (hmem f hf) (Value.NumbersReadBack.object_iff.1 hn f hf)
  | .unreadable, h, _ => by cases h
  | .broken, h, _ => by cases h

theorem readable_of_values? {depth : Nat} {vs : List Value} : ∀ ds : List Draft,
    values? depth ds = some vs → ∀ v ∈ vs, v.NumbersReadBack → v.Readable depth
  | [], h => by
    cases h
    nofun
  | d :: ds, h => by
    obtain ⟨w, hw, h⟩ := Option.bind_eq_some_iff.1 h
    obtain ⟨ws, hws, h⟩ := Option.bind_eq_some_iff.1 h
    cases h
    exact List.forall_mem_cons.2 ⟨readable_of_value? d hw, readable_of_values? ds hws⟩

theorem readable_of_fieldValues? {depth : Nat} {fs : List (String × Value)} :
    ∀ ds : List (Option String × Draft), fieldValues? depth ds = some fs →
      ∀ f ∈ fs, f.2.NumbersReadBack → f.2.Readable depth
  | [], h => by
    cases h
    nofun
  | (k, d) :: ds, h => by
    obtain ⟨name, -, h⟩ := Option.bind_eq_some_iff.1 h
    obtain ⟨w, hw, h⟩ := Option.bind_eq_some_iff.1 h
    obtain ⟨ws, hws, h⟩ := Option.bind_eq_some_iff.1 h
    cases h
    exact List.forall_mem_cons.2 ⟨readable_of_value? d hw, readable_of_fieldValues? ds hws⟩

end

theorem ofFields_eq_map (fields : List (String × Value)) :
    ofFields fields = fields.map fun f => (some f.1, ofValue f.2) := by
  induction fields with
  | nil => rfl
  | cons f r ih => rw [ofFields, ih, List.map_cons]

end Draft

end Reshape
