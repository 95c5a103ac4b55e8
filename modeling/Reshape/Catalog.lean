/-!
# Items by name

* `Catalog`: items with distinct names, in increasing order of the names by code point.
* `Catalog.get?`, `insert`, `erase`: one equation each, `get?_insert` and `get?_erase`.
* `Catalog.ext_get?`: a catalog is determined by what its names stand for.
* `Catalog.ofList_entries`: a catalog is made of its entries.
-/

namespace Reshape

structure Catalog (α : Type) where
  entries : List (String × α)
  sorted : (entries.map (·.1)).Pairwise (· < ·)

namespace Catalog

variable {α : Type}

theorem ext {c d : Catalog α} (h : c.entries = d.entries) : c = d := by
  cases c; cases d; cases h; rfl

instance [DecidableEq α] : DecidableEq (Catalog α) := fun _ _ =>
  decidable_of_iff _ ⟨ext, congrArg entries⟩

/-- No items. -/
def empty : Catalog α := ⟨[], .nil⟩

instance : Inhabited (Catalog α) := ⟨empty⟩

/-- The item of a name. -/
def get? (c : Catalog α) (name : String) : Option α := c.entries.lookup name

def contains (c : Catalog α) (name : String) : Bool := (c.get? name).isSome

/-- The names in increasing order. -/
def names (c : Catalog α) : List String := c.entries.map (·.1)

def size (c : Catalog α) : Nat := c.entries.length

/-! ## Inserting -/

/-- The entries with one more, or one replaced. -/
def insertEntry (name : String) (a : α) : List (String × α) → List (String × α)
  | [] => [(name, a)]
  | (n, b) :: r =>
    if name < n then (name, a) :: (n, b) :: r
    else if name = n then (name, a) :: r
    else (n, b) :: insertEntry name a r

theorem mem_names_insertEntry {name n : String} {a : α} {l : List (String × α)} :
    n ∈ (insertEntry name a l).map (·.1) ↔ n = name ∨ n ∈ l.map (·.1) := by
  induction l with
  | nil => simp [insertEntry]
  | cons e r ih =>
    unfold insertEntry
    split
    · simp
    split
    · rename_i h; simp [h]
    · rw [List.map_cons, List.mem_cons, ih, List.map_cons, List.mem_cons]
      exact or_left_comm

theorem sorted_insertEntry {name : String} {a : α} {l : List (String × α)}
    (h : (l.map (·.1)).Pairwise (· < ·)) :
    ((insertEntry name a l).map (·.1)).Pairwise (· < ·) := by
  induction l with
  | nil => simp [insertEntry]
  | cons e r ih =>
    have hr := List.pairwise_cons.1 h
    unfold insertEntry
    split
    · rename_i hlt
      refine List.pairwise_cons.2 ⟨fun n hn => ?_, h⟩
      rcases List.mem_cons.1 hn with rfl | hn
      · exact hlt
      · exact String.lt_trans hlt (hr.1 n hn)
    split
    · rename_i heq
      exact List.pairwise_cons.2 ⟨fun n hn => heq ▸ hr.1 n hn, hr.2⟩
    · rename_i hlt hne
      refine List.pairwise_cons.2 ⟨fun n hn => ?_, ih hr.2⟩
      rcases mem_names_insertEntry.1 hn with rfl | hn
      · have hle := String.not_lt.1 hlt
        exact String.not_le.1 fun h' => hne (String.le_antisymm h' hle)
      · exact hr.1 n hn

/-- Sets the item of a name. -/
def insert (c : Catalog α) (name : String) (a : α) : Catalog α :=
  ⟨insertEntry name a c.entries, sorted_insertEntry c.sorted⟩

/-- Removes a name. -/
def erase (c : Catalog α) (name : String) : Catalog α :=
  ⟨c.entries.filter (·.1 ≠ name), c.sorted.sublist (List.filter_sublist.map _)⟩

/-- The items of a list; of items with one name the last counts. -/
def ofList (l : List (String × α)) : Catalog α := l.foldl (fun c e => c.insert e.1 e.2) empty

/-! ## What names stand for -/

theorem lookup_cons (n : String) (e : String × α) (l : List (String × α)) :
    (e :: l).lookup n = if n = e.1 then some e.2 else l.lookup n := by
  obtain ⟨k, a⟩ := e
  rw [List.lookup_cons]
  by_cases h : n = k
  · simp [h]
  · have : (n == k) = false := by simpa using h
    simp [this, h]

theorem lookup_insertEntry (name n : String) (a : α) (l : List (String × α)) :
    (insertEntry name a l).lookup n = if n = name then some a else l.lookup n := by
  induction l with
  | nil => simp [insertEntry, lookup_cons]
  | cons e r ih =>
    unfold insertEntry
    split
    · simp [lookup_cons]
    split
    · rename_i heq
      by_cases h : n = name <;> simp_all [lookup_cons]
    · rename_i hne
      by_cases h : n = e.1
      · have hn : n ≠ name := fun h' => hne (h' ▸ h)
        simp_all [lookup_cons]
      · simp [lookup_cons, h, ih]

theorem lookup_filter_ne (name n : String) (l : List (String × α)) :
    (l.filter (·.1 ≠ name)).lookup n = if n = name then none else l.lookup n := by
  induction l with
  | nil => simp
  | cons e r ih =>
    by_cases he : e.1 = name
    · rw [List.filter_cons, if_neg (by simp [he]), ih, lookup_cons, he]
      split <;> rfl
    · rw [List.filter_cons, if_pos (by simp [he]), lookup_cons, ih, lookup_cons]
      by_cases hn : n = e.1
      · simp [hn, he]
      · simp [hn]

@[simp] theorem get?_insert (c : Catalog α) (name n : String) (a : α) :
    (c.insert name a).get? n = if n = name then some a else c.get? n :=
  lookup_insertEntry name n a c.entries

@[simp] theorem get?_erase (c : Catalog α) (name n : String) :
    (c.erase name).get? n = if n = name then none else c.get? n :=
  lookup_filter_ne name n c.entries

@[simp] theorem get?_empty (n : String) : (empty : Catalog α).get? n = none := rfl

theorem lookup_eq_none {l : List (String × α)} {n : String}
    (h : ∀ m ∈ l.map (·.1), n < m) : l.lookup n = none := by
  induction l with
  | nil => rfl
  | cons e r ih =>
    have hlt := h e.1 (by simp)
    rw [lookup_cons, if_neg fun h' => String.lt_irrefl _ (h' ▸ hlt)]
    exact ih fun m hm => h m (List.mem_cons_of_mem _ hm)

/-- The first name is in no sorted list that starts with a greater one. -/
theorem lookup_cons_of_lt {e : String × α} {l : List (String × α)} {n : String}
    (hl : ((e :: l).map (·.1)).Pairwise (· < ·)) (h : n < e.1) : (e :: l).lookup n = none := by
  refine lookup_eq_none fun m hm => ?_
  rcases List.mem_cons.1 hm with rfl | hm
  · exact h
  · exact String.lt_trans h ((List.pairwise_cons.1 hl).1 m hm)

theorem entries_ext {l m : List (String × α)} (hl : (l.map (·.1)).Pairwise (· < ·))
    (hm : (m.map (·.1)).Pairwise (· < ·)) (h : ∀ n, l.lookup n = m.lookup n) : l = m := by
  induction l generalizing m with
  | nil =>
    cases m with
    | nil => rfl
    | cons e r => simpa [lookup_cons] using h e.1
  | cons d l ih =>
    cases m with
    | nil => simpa [lookup_cons] using h d.1
    | cons e m =>
      have hd := h d.1
      have he := h e.1
      have hde : d.1 = e.1 := by
        apply Classical.byContradiction
        intro hne
        rcases String.le_total d.1 e.1 with hle | hle
        · have hlt := String.not_le.1 fun h' => hne (String.le_antisymm hle h')
          rw [lookup_cons_of_lt hm hlt] at hd
          simp [lookup_cons] at hd
        · have hlt := String.not_le.1 fun h' => hne (String.le_antisymm h' hle)
          rw [lookup_cons_of_lt hl hlt] at he
          simp [lookup_cons] at he
      have hv : d.2 = e.2 := by simpa [lookup_cons, hde] using hd
      have hl' := List.pairwise_cons.1 hl
      have hm' := List.pairwise_cons.1 hm
      have hrest : l = m := by
        refine ih hl'.2 hm'.2 fun n => ?_
        by_cases hn : n = d.1
        · rw [hn, lookup_eq_none fun k hk => hl'.1 k hk,
            lookup_eq_none fun k hk => hde ▸ hm'.1 k hk]
        · have hn' : n ≠ e.1 := hde ▸ hn
          simpa [lookup_cons, hn, hn'] using h n
      rw [hrest, Prod.ext hde hv]

/-- Two catalogs in which every name stands for the same are equal. -/
theorem ext_get? {c d : Catalog α} (h : ∀ n, c.get? n = d.get? n) : c = d :=
  ext (entries_ext c.sorted d.sorted h)

theorem get?_insert_self (c : Catalog α) (name : String) (a : α) :
    (c.insert name a).get? name = some a := by
  rw [get?_insert, if_pos rfl]

theorem get?_insert_of_ne {name n : String} (h : n ≠ name) (c : Catalog α) (a : α) :
    (c.insert name a).get? n = c.get? n := by
  rw [get?_insert, if_neg h]

/-- Setting what is there changes nothing. -/
theorem insert_of_get? {c : Catalog α} {name : String} {a : α} (h : c.get? name = some a) :
    c.insert name a = c := by
  refine ext_get? fun n => ?_
  rw [get?_insert]
  split
  · rename_i hn
    rw [hn, h]
  · rfl

theorem insert_insert (c : Catalog α) (name : String) (a b : α) :
    (c.insert name a).insert name b = c.insert name b := by
  refine ext_get? fun n => ?_
  simp only [get?_insert]
  split <;> rfl

/-! ## Entries -/

theorem mem_of_mem_insertEntry {name : String} {a : α} {l : List (String × α)} {e : String × α}
    (h : e ∈ insertEntry name a l) : e ∈ l ∨ e = (name, a) := by
  induction l with
  | nil => exact .inr (List.mem_singleton.1 h)
  | cons d l ih =>
    unfold insertEntry at h
    split at h
    · exact (List.mem_cons.1 h).symm
    split at h
    · exact (List.mem_cons.1 h).symm.imp_left (List.mem_cons_of_mem d)
    · rcases List.mem_cons.1 h with rfl | h
      · exact .inl List.mem_cons_self
      · exact (ih h).imp_left (List.mem_cons_of_mem d)

theorem nodup_names (c : Catalog α) : c.names.Nodup := by
  refine List.Pairwise.imp (fun {a b} hlt heq => ?_) c.sorted
  subst heq
  exact String.lt_irrefl a hlt

/-- A name that comes after all others is appended. -/
theorem insertEntry_of_lt {name : String} {l : List (String × α)} (a : α)
    (h : ∀ e ∈ l, e.1 < name) : insertEntry name a l = l ++ [(name, a)] := by
  induction l with
  | nil => rfl
  | cons e l ih =>
    obtain ⟨he, hl⟩ := List.forall_mem_cons.1 h
    have hne : name ≠ e.1 := fun heq => String.lt_irrefl _ (heq ▸ he)
    rw [insertEntry, if_neg fun hlt => String.lt_irrefl _ (String.lt_trans hlt he), if_neg hne,
      ih hl, List.cons_append]

theorem entries_foldl_insert {c : Catalog α} {l : List (String × α)}
    (h : ((c.entries ++ l).map (·.1)).Pairwise (· < ·)) :
    (l.foldl (fun c e => c.insert e.1 e.2) c).entries = c.entries ++ l := by
  induction l generalizing c with
  | nil => exact (List.append_nil _).symm
  | cons e l ih =>
    have hlt : ∀ d ∈ c.entries, d.1 < e.1 := by
      intro d hd
      rw [List.map_append] at h
      exact (List.pairwise_append.1 h).2.2 _ (List.mem_map_of_mem hd) _ List.mem_cons_self
    have hinsert : (c.insert e.1 e.2).entries = c.entries ++ [e] := insertEntry_of_lt e.2 hlt
    rw [List.foldl_cons, ih (by rwa [hinsert, List.append_assoc]), hinsert, List.append_assoc]
    rfl

/-- A catalog is made of its entries. -/
theorem ofList_entries (c : Catalog α) : ofList c.entries = c :=
  ext (entries_foldl_insert (c := empty) c.sorted)

end Catalog

end Reshape
