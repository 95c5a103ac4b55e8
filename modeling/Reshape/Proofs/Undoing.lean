import Reshape.Proofs.Indirection
import Reshape.Proofs.Recordwise
import Reshape.Proofs.Scope
import Reshape.Proofs.Unambiguous

/-!
# Renamings that can be undone

A renamed field goes to the end of its record. Where the names that are taken and the names that are
given are all different, and no record has a field of a name that is given, no renaming meets
another one: the fields that are not renamed stand first, as they were, and then the renamed ones in
the order of the renamings. The renamings the other way round then give back every field.

* `Renaming.mentioned`, `Renaming.changedWithin_foldl`: whatever the renamings are, only the fields
  that they mention change.
* `Renaming.foldl_apply_eq`: what becomes of a record if no renaming meets another one.
* `Renaming.foldl_reverse_perm`: the way back.
* `Operator.run_undone`: the operator.
-/

namespace Reshape

/-- Objects are related as their records are, and other values are the same. -/
def Value.OnRecords (R : Record → Record → Prop) (v w : Value) : Prop :=
  (v.isObject = false ∧ w = v) ∨ ∃ r r', v = .object r ∧ w = .object r' ∧ R r r'

theorem Collection.onRecords_map {R : Record → Record → Prop} {f : Record → Record}
    {c : Collection} (h : ∀ r, .object r ∈ c → R r (f r)) :
    List.Forall₂ (Value.OnRecords R) c (c.map (·.mapFields f)) := by
  refine List.forall₂_map_right_iff.2 (List.forall₂_same.2 fun v hv => ?_)
  cases v with
  | object r => exact .inr ⟨r, f r, rfl, rfl, h r hv⟩
  | _ => exact .inl ⟨rfl, rfl⟩

namespace Renaming

variable {ms : List Renaming} {m : Renaming} {r : Record} {k : String}

/-! ## Whatever the renamings are -/

/-- The names that are taken and those that are given. -/
def mentioned (ms : List Renaming) : List String := ms.map source ++ ms.map target

theorem changedWithin_apply {names : List String} (hsource : m.source ∈ names)
    (htarget : m.target ∈ names) (r : Record) : r.ChangedWithin names (m.apply r) := by
  rw [apply]
  split
  · exact .refl names r
  · split
    · exact .refl names r
    · split
      · exact .insert htarget r _
      · exact (Record.ChangedWithin.insert htarget r _).trans (.erase hsource _)

theorem get?_apply_of_ne (hsource : k ≠ m.source) (htarget : k ≠ m.target) (r : Record) :
    (m.apply r).get? k = r.get? k := by
  have hchanged : r.ChangedWithin [m.source, m.target] (m.apply r) :=
    changedWithin_apply (by simp) (by simp) r
  exact hchanged.get?_eq k (by simp [hsource, htarget])

theorem changedWithin_foldl (ms : List Renaming) (r : Record) :
    r.ChangedWithin (mentioned ms) (ms.foldl (fun r m => m.apply r) r) :=
  Record.ChangedWithin.foldl (fun _ hm r =>
    changedWithin_apply (List.mem_append_left _ (List.mem_map_of_mem hm))
      (List.mem_append_right _ (List.mem_map_of_mem hm)) r) r

/-! ## Renamings that do not meet -/

/-- The fields that are renamed, under their new names. -/
def moved (ms : List Renaming) (r : Record) : Record :=
  ms.filterMap fun m => (r.get? m.source).map (m.target, ·)

/-- No field is copied, and no name stands twice among those that are taken or given. -/
structure Apart (ms : List Renaming) : Prop where
  copy : ∀ m ∈ ms, m.copy = false
  nodup : (mentioned ms).Nodup

/-- The renamings the other way round. -/
def reverse (ms : List Renaming) : List Renaming := ms.map fun m => ⟨m.target, m.source, false⟩

theorem mem_moved {f : String × Value} (h : f ∈ moved ms r) : f.1 ∈ ms.map target := by
  obtain ⟨m, hm, hf⟩ := List.mem_filterMap.1 h
  obtain ⟨v, -, rfl⟩ := Option.map_eq_some_iff.1 hf
  exact List.mem_map_of_mem hm

namespace Apart

theorem ne (h : Apart ms) {m m' : Renaming} (hm : m ∈ ms) (hm' : m' ∈ ms) :
    m.source ≠ m'.target :=
  (List.nodup_append.1 h.nodup).2.2 _ (List.mem_map_of_mem hm) _ (List.mem_map_of_mem hm')

theorem nodup_sources (h : Apart ms) : (ms.map source).Nodup := (List.nodup_append.1 h.nodup).1

theorem nodup_targets (h : Apart ms) : (ms.map target).Nodup := (List.nodup_append.1 h.nodup).2.1

theorem tail (h : Apart (m :: ms)) : Apart ms := by
  refine ⟨fun m' hm' => h.copy m' (List.mem_cons_of_mem m hm'), h.nodup.sublist ?_⟩
  exact (List.sublist_cons_self ..).append (List.sublist_cons_self ..)

/-- The renamings the other way round do not meet either, in whatever order they come. -/
theorem reverse {ms' : List Renaming} (h : Apart ms) (hms : ms'.Perm (Renaming.reverse ms)) :
    Apart ms' := by
  refine ⟨fun m hm => ?_, ?_⟩
  · obtain ⟨m', -, rfl⟩ := List.mem_map.1 (hms.mem_iff.1 hm)
    rfl
  · have hswap : (mentioned ms').Perm (ms.map target ++ ms.map source) := by
      refine ((hms.map source).append (hms.map target)).trans (.of_eq ?_)
      simp [Renaming.reverse, Function.comp_def]
    exact hswap.nodup_iff.2 (List.nodup_append_comm.1 h.nodup)

end Apart

/-! ### One renaming -/

/-- The record without the field, and the field at its end under the new name. -/
theorem apply_eq (hcopy : m.copy = false) (hne : m.source ≠ m.target) (ht : m.target ∉ r.keys) :
    m.apply r = r.erase m.source ++ moved [m] r := by
  rw [apply, if_neg hne]
  cases hv : r.get? m.source with
  | none =>
    have herase : r.erase m.source = r := List.filter_eq_self.2 fun f hf => by
      have hf : f.1 ≠ m.source := fun hk =>
        Record.get?_eq_none_iff.1 hv (hk ▸ List.mem_map_of_mem hf)
      simpa using hf
    simp [moved, hv, herase]
  | some v =>
    have hend : r.insert m.target v = r ++ [(m.target, v)] := Record.insert_of_notMem ht v
    simp [moved, hv, hcopy, hend, Record.erase, hne.symm]

/-! ### All renamings -/

theorem moved_cons (m : Renaming) (ms : List Renaming) (r : Record) :
    moved (m :: ms) r = moved [m] r ++ moved ms r :=
  List.filterMap_append (l := [m]) ..

theorem moved_congr {r s : Record} (h : ∀ m ∈ ms, r.get? m.source = s.get? m.source) :
    moved ms r = moved ms s :=
  List.filterMap_congr fun m hm => by rw [h m hm]

/-- The fields that are not renamed, and then those that are, in the order of the renamings. -/
theorem foldl_apply_eq (h : Apart ms) (ht : ∀ m ∈ ms, m.target ∉ r.keys) :
    ms.foldl (fun r m => m.apply r) r = r.filter (·.1 ∉ ms.map source) ++ moved ms r := by
  induction ms generalizing r with
  | nil => simp [moved]
  | cons m ms ih =>
    have hm := List.mem_cons_self (a := m) (l := ms)
    have hrest {m' : Renaming} (h : m' ∈ ms) : m' ∈ m :: ms := List.mem_cons_of_mem m h
    have hsource := (List.nodup_cons.1 h.nodup_sources).1
    have htarget := (List.nodup_cons.1 h.nodup_targets).1
    have hfirst := apply_eq (h.copy m hm) (h.ne hm hm) (ht m hm)
    have hfresh : ∀ m' ∈ ms, m'.target ∉ (m.apply r).keys := fun m' hm' => by
      rw [← Record.get?_eq_none_iff, get?_apply_of_ne (h.ne hm (hrest hm')).symm
        fun hk => htarget (hk ▸ List.mem_map_of_mem hm')]
      exact Record.get?_eq_none_iff.2 (ht m' (hrest hm'))
    -- the other renamings find the fields that the record had at first
    have hsame : moved ms (m.apply r) = moved ms r := moved_congr fun m' hm' =>
      get?_apply_of_ne (fun hk => hsource (hk ▸ List.mem_map_of_mem hm')) (h.ne (hrest hm') hm) r
    -- and do not meet the field that was renamed
    have hkept : (moved [m] r).filter (·.1 ∉ ms.map source) = moved [m] r := by
      refine List.filter_eq_self.2 fun f hf => decide_eq_true fun hk => ?_
      obtain ⟨m', hm', hk⟩ := List.mem_map.1 hk
      exact h.ne (hrest hm') hm (hk.trans (by simpa using mem_moved hf))
    have hrecord : (r.erase m.source).filter (·.1 ∉ ms.map source) =
        r.filter (·.1 ∉ (m :: ms).map source) := by
      rw [Record.erase, List.filter_filter]
      exact List.filter_congr fun f _ => by rw [Bool.eq_iff_iff]; simp [and_comm]
    rw [List.foldl_cons, ih h.tail hfresh, hsame, hfirst, List.filter_append, hkept, hrecord,
      moved_cons m ms, List.append_assoc]

theorem get?_moved_of_notMem (h : k ∉ ms.map target) : (moved ms r).get? k = none :=
  Record.get?_eq_none_iff.2 fun hk => by
    obtain ⟨f, hf, rfl⟩ := List.mem_map.1 hk
    exact h (mem_moved hf)

theorem get?_moved (h : (ms.map target).Nodup) (hm : m ∈ ms) :
    (moved ms r).get? m.target = r.get? m.source := by
  induction ms with
  | nil => cases hm
  | cons m' ms ih =>
    obtain ⟨hm', hms⟩ := List.nodup_cons.1 h
    rw [moved_cons, Record.get?, List.lookup_append]
    rcases List.mem_cons.1 hm with rfl | hm
    · have hrest : (moved ms r).lookup m.target = none := get?_moved_of_notMem hm'
      rw [hrest]
      cases hv : r.get? m.source <;> simp [moved, hv]
    · have hfirst : (moved [m'] r).lookup m.target = none := get?_moved_of_notMem fun hk =>
        hm' (List.mem_singleton.1 hk ▸ List.mem_map_of_mem hm)
      rw [hfirst]
      exact ih hms hm

theorem length_moved (ms : List Renaming) (r : Record) :
    (moved ms r).length = (r.arrange (ms.map source)).length := by
  rw [moved, Record.arrange, List.length_filterMap_eq_countP, List.length_filterMap_eq_countP,
    List.countP_map]
  exact List.countP_congr fun m _ => by simp

/-- The fields that are not renamed and those that are make the record. -/
theorem append_arrange_perm (hr : r.keys.Nodup) (h : (ms.map source).Nodup) :
    (r.filter (·.1 ∉ ms.map source) ++ r.arrange (ms.map source)).Perm r := by
  refine ((Record.arrange_perm_filter hr h).append_left _).trans ?_
  have hsplit := List.filter_append_perm (fun f => decide (f.1 ∈ ms.map source)) r
  simpa only [decide_not] using List.perm_append_comm.trans hsplit

/-- No field that is there has a name that is given. -/
theorem notMem_targets (ht : ∀ m ∈ ms, m.target ∉ r.keys) {f : String × Value} (hf : f ∈ r) :
    f.1 ∉ ms.map target := fun hk => by
  obtain ⟨m, hm, hk⟩ := List.mem_map.1 hk
  exact ht m hm (hk ▸ List.mem_map_of_mem hf)

/-- No field is left that has a name that is taken. -/
theorem notMem_keys_foldl (h : Apart ms) (ht : ∀ m ∈ ms, m.target ∉ r.keys) (hm : m ∈ ms) :
    m.source ∉ (ms.foldl (fun r m => m.apply r) r).keys := by
  rw [foldl_apply_eq h ht, Record.keys, List.mem_map]
  rintro ⟨f, hf, hk⟩
  rcases List.mem_append.1 hf with hf | hf
  · exact of_decide_eq_true (List.mem_filter.1 hf).2 (hk ▸ List.mem_map_of_mem hm)
  · obtain ⟨m', hm', hf⟩ := List.mem_map.1 (mem_moved hf)
    exact h.ne hm hm' (hk.symm.trans hf.symm)

/-- What becomes of a record if no renaming meets another one: it has as many fields, each that is
renamed has its value under the new name, and all others stand before these, as they were. -/
structure Renames (ms : List Renaming) (r r' : Record) : Prop where
  length_eq : r'.length = r.length
  get?_target : ∀ m ∈ ms, r'.get? m.target = r.get? m.source
  exists_append : ∃ renamed, r' = r.filter (·.1 ∉ mentioned ms) ++ renamed ∧
    ∀ f ∈ renamed, f.1 ∈ ms.map target

theorem renames_foldl (h : Apart ms) (hr : r.keys.Nodup) (ht : ∀ m ∈ ms, m.target ∉ r.keys) :
    Renames ms r (ms.foldl (fun r m => m.apply r) r) := by
  rw [foldl_apply_eq h ht]
  refine ⟨?_, fun m hm => ?_, moved ms r, ?_, fun f hf => mem_moved hf⟩
  · rw [← (append_arrange_perm hr h.nodup_sources).length_eq, List.length_append, length_moved,
      List.length_append]
  · have hother : (r.filter (·.1 ∉ ms.map source)).lookup m.target = none :=
      Record.get?_eq_none_iff.2 fun hk => ht m hm ((List.filter_sublist.map _).subset hk)
    rw [Record.get?, List.lookup_append, hother]
    exact get?_moved h.nodup_targets hm
  · -- no field has a name that is given
    congr 1
    refine List.filter_congr fun f hf => ?_
    have hfresh := notMem_targets ht hf
    rw [Bool.eq_iff_iff]
    simp [mentioned, hfresh]

/-- The renamings the other way round, in whatever order, give the record its fields back. -/
theorem foldl_reverse_perm {ms' : List Renaming} (h : Apart ms) (hr : r.keys.Nodup)
    (ht : ∀ m ∈ ms, m.target ∉ r.keys) (hms : ms'.Perm (reverse ms)) :
    (ms'.foldl (fun r m => m.apply r) (ms.foldl (fun r m => m.apply r) r)).Perm r := by
  have hrenames := renames_foldl h hr ht
  have hsources {k : String} : k ∈ ms'.map source ↔ k ∈ ms.map target := by
    rw [(hms.map source).mem_iff]
    simp [reverse, Function.comp_def]
  have hfresh : ∀ m' ∈ ms', m'.target ∉ (ms.foldl (fun r m => m.apply r) r).keys := by
    intro m' hm'
    obtain ⟨m, hm, rfl⟩ := List.mem_map.1 (hms.mem_iff.1 hm')
    exact notMem_keys_foldl h ht hm
  have hkept : (ms.foldl (fun r m => m.apply r) r).filter (·.1 ∉ ms'.map source) =
      r.filter (·.1 ∉ ms.map source) := by
    have hall : (r.filter (·.1 ∉ ms.map source)).filter (·.1 ∉ ms.map target) =
        r.filter (·.1 ∉ ms.map source) :=
      List.filter_eq_self.2 fun f hf => decide_eq_true
        (notMem_targets ht (List.mem_filter.1 hf).1)
    have hnone : (moved ms r).filter (·.1 ∉ ms.map target) = [] :=
      List.filter_eq_nil_iff.2 fun f hf => by simpa using mem_moved hf
    simp only [hsources]
    rw [foldl_apply_eq h ht, List.filter_append, hall, hnone, List.append_nil]
  have hmoved : (moved ms' (ms.foldl (fun r m => m.apply r) r)).Perm
      (r.arrange (ms.map source)) := by
    refine (hms.filterMap _).trans (.of_eq ?_)
    rw [reverse, Record.arrange, List.filterMap_map, List.filterMap_map]
    exact List.filterMap_congr fun m hm => congrArg (Option.map _) (hrenames.get?_target m hm)
  rw [foldl_apply_eq (h.reverse hms) hfresh, hkept]
  exact (hmoved.append_left _).trans (append_arrange_perm hr h.nodup_sources)

end Renaming

namespace Operator

/-- **Renamings can be undone.** Take renamings that copy nothing, where the names that are taken
and those that are given are all different, and a collection of which no record has a field of a
name that is given. The operator finishes and sets only this collection, in which every record has
as many fields as before, each that is renamed has its value under the new name, and all others
stand before these as they were. The renamings the other way round, in whatever order, then finish
too and give every record the fields that it had. Whatever the renamings are, each record stays in
its place and changes no field but those that they mention. -/
theorem run_undone :
    (∀ (setting : Setting) (job : String) (raw : Value) (s : Session) (c : Collection)
      (ms : List Renaming), s.store.get? job = some c → Renaming.readAll s.store raw = .ok ms →
      Renaming.Apart ms → (∀ v ∈ c, v.Unambiguous) →
      (∀ v ∈ c, ∀ m ∈ ms, v.field? m.target = none) →
        ∃ c', (∃ log, Operator.mapFields.run setting job raw s =
            (.ok (), ⟨s.store.insert job c', s.files, log⟩)) ∧
          List.Forall₂ (Value.OnRecords (Renaming.Renames ms)) c c' ∧
          ∀ (raw' : Value) (log : Log) (ms' : List Renaming),
            Renaming.readAll (s.store.insert job c') raw' = .ok ms' →
            ms'.Perm (Renaming.reverse ms) →
              ∃ c'', (∃ log', Operator.mapFields.run setting job raw'
                  ⟨s.store.insert job c', s.files, log⟩ =
                  (.ok (), ⟨s.store.insert job c'', s.files, log'⟩)) ∧
                List.Forall₂ (Value.OnRecords List.Perm) c c'') ∧
    (∀ (s : Store) (ms : List Renaming),
      Renaming.readAll s (Renaming.entries (ms.map fun m => (m.target, m.source))) =
        .ok (Renaming.reverse ms)) ∧
    ∀ (setting : Setting) (job : String) (raw : Value) (s : Session) (c : Collection)
      (ms : List Renaming), s.store.get? job = some c → Renaming.readAll s.store raw = .ok ms →
        ∃ c', (∃ log, Operator.mapFields.run setting job raw s =
            (.ok (), ⟨s.store.insert job c', s.files, log⟩)) ∧
          List.Forall₂ (Value.OnRecords (Record.ChangedWithin (Renaming.mentioned ms))) c c' := by
  refine ⟨fun setting job raw s c ms hc hms happart hun hfresh => ?_, fun s ms => ?_,
    fun setting job raw s c ms hc hms => ?_⟩
  · have hkeys : ∀ r, .object r ∈ c → (Record.keys r).Nodup := fun r hr =>
      (Value.Unambiguous.object_iff.1 (hun _ hr)).1
    have htargets : ∀ r, .object r ∈ c → ∀ m ∈ ms, m.target ∉ Record.keys r := fun r hr m hm =>
      Record.get?_eq_none_iff.1 (hfresh _ hr m hm)
    refine ⟨_, run_of_change_put (by decide) (change_mapFields hc hms),
      Collection.onRecords_map fun r hr =>
        Renaming.renames_foldl happart (hkeys r hr) (htargets r hr),
      fun raw' log ms' hms' hperm => ⟨_, ?_, Collection.onRecords_map fun r hr =>
        (Renaming.foldl_reverse_perm happart (hkeys r hr) (htargets r hr) hperm).symm⟩⟩
    obtain ⟨log', hrun⟩ := @run_of_change_put ⟨s.store.insert job _, s.files, log⟩ job raw'
      setting .mapFields job _ (by decide) (change_mapFields (Catalog.get?_insert_self ..) hms')
    refine ⟨log', ?_⟩
    rw [hrun, Catalog.insert_insert, List.map_map]
    simp only [Function.comp_def, Value.mapFields_mapFields]
  · rw [Renaming.readAll_entries, List.map_map]
    rfl
  · exact ⟨_, run_of_change_put (by decide) (change_mapFields hc hms),
      Collection.onRecords_map fun r _ => Renaming.changedWithin_foldl ms r⟩

/-- A record with three fields, and a value that is no record. -/
def visitors : Collection :=
  [.object [("name", .string "Ada"), ("town", .string "Turin"), ("age", .string "36")],
    .string "end"]

/-- A session with the visitors. -/
def sessionOfVisitors : Session := ⟨.ofList [("visitors", visitors)], default, []⟩

/-- Two renamings that do not meet. -/
def relabel : List Renaming := [⟨"name", "label", false⟩, ⟨"age", "years", false⟩]

/-- Two renamings that do: the second takes the name that the first gives. -/
def relabelTwice : List Renaming := [⟨"name", "label", false⟩, ⟨"label", "town", false⟩]

theorem run_undone_visitors :
    sessionOfVisitors.store.get? "visitors" = some visitors ∧
    Renaming.readAll sessionOfVisitors.store
      (Renaming.entries [("name", "label"), ("age", "years")]) = .ok relabel ∧
    Renaming.Apart relabel ∧ (∀ v ∈ visitors, v.Unambiguous) ∧
    (∀ v ∈ visitors, ∀ m ∈ relabel, v.field? m.target = none) ∧
    (∃ c', (∃ log, Operator.mapFields.run ⟨none, .empty⟩ "visitors"
          (Renaming.entries [("name", "label"), ("age", "years")]) sessionOfVisitors =
        (.ok (), ⟨sessionOfVisitors.store.insert "visitors" c', sessionOfVisitors.files, log⟩)) ∧
      List.Forall₂ (Value.OnRecords (Renaming.Renames relabel)) visitors c' ∧
      ∃ c'', (∃ log, Operator.mapFields.run ⟨none, .empty⟩ "visitors"
          (Renaming.entries [("label", "name"), ("years", "age")])
          ⟨sessionOfVisitors.store.insert "visitors" c', sessionOfVisitors.files, []⟩ =
        (.ok (), ⟨sessionOfVisitors.store.insert "visitors" c'', sessionOfVisitors.files, log⟩)) ∧
      List.Forall₂ (Value.OnRecords List.Perm) visitors c'') ∧
    Renaming.readAll sessionOfVisitors.store
      (Renaming.entries [("name", "label"), ("label", "town")]) = .ok relabelTwice ∧
    ∃ c', (∃ log, Operator.mapFields.run ⟨none, .empty⟩ "visitors"
          (Renaming.entries [("name", "label"), ("label", "town")]) sessionOfVisitors =
        (.ok (), ⟨sessionOfVisitors.store.insert "visitors" c', sessionOfVisitors.files, log⟩)) ∧
      List.Forall₂ (Value.OnRecords (Record.ChangedWithin (Renaming.mentioned relabelTwice)))
        visitors c' := by
  obtain ⟨happart, hentries, hall⟩ := run_undone
  have hrelabel : Renaming.Apart relabel := ⟨by decide, by decide⟩
  have hun : ∀ v ∈ visitors, v.Unambiguous := by decide
  refine ⟨rfl, rfl, hrelabel, hun, by decide, ?_, rfl,
    hall ⟨none, .empty⟩ "visitors" _ sessionOfVisitors visitors relabelTwice rfl rfl⟩
  obtain ⟨c', hrun, hrenames, hback⟩ := happart ⟨none, .empty⟩ "visitors"
    (Renaming.entries [("name", "label"), ("age", "years")]) sessionOfVisitors visitors relabel
    rfl rfl hrelabel hun (by decide)
  exact ⟨c', hrun, hrenames, hback _ [] _ (hentries _ relabel) (.refl _)⟩

end Operator

end Reshape
