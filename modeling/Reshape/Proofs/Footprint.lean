import Reshape.Proofs.Change

/-!
# The collections that an operator mentions

Besides the collection of the job, an operator without files reads and writes only the collections
that its parameters name. What it changes depends on those alone.

* `Operator.mentions`: the collections that the parameters of an operator name.
* `Store.AgreeOn`: two stores hold the same in the collections of some names.
* `Operator.change_of_agreeOn`: what an operator reads.
* `Operator.mem_of_written`: what an operator writes.
-/

namespace Reshape

/-- The collection that a value names where it is taken for a reference. -/
def Value.mentions : Value → List String
  | .string name => [name]
  | _ => []

/-- The collection that a parameter names. -/
def Record.mentions (r : Record) (k : String) : List String :=
  match r.value? k with
  | some v => v.mentions
  | none => []

/-- The collections that some parameters of a structure name. Where they have another shape, none is
looked for. -/
def Shape.mentions (st : Shape.Struct) (ks : List String) (raw : Value) : List String :=
  match Shape.readRecord st raw with
  | .ok r => ks.flatMap r.mentions
  | .error _ => []

/-- The collections that the parameters of an operator name. -/
def Operator.mentions (raw : Value) : Operator → List String
  | .load | .save => []
  | .copyTo | .mapFields | .mapValues => raw.mentions
  | .cloneObjects => Shape.mentions Clone.struct ["filter", "values"] raw
  | .filterObjects => match Filter.readPredicates raw with
    | .ok ps => ps.flatMap fun p => ["include", "exclude"].flatMap p.mentions
    | .error _ => []
  | .filterFields => Shape.mentions Filter.fieldsStruct ["include", "exclude"] raw
  | .copyToArray => Shape.mentions Copy.fieldStruct ["copyTo"] raw
  | .mergeObjects => Shape.mentions Merge.struct ["name"] raw
  | .aggregate => Shape.mentions Grouping.struct ["name"] raw

/-! ## What parameters read -/

namespace Store

/-- The stores hold the same in the collections of the names. -/
def AgreeOn (names : List String) (s t : Store) : Prop := ∀ n ∈ names, s.get? n = t.get? n

namespace AgreeOn

variable {names names' : List String} {s t : Store}

theorem mono (h : AgreeOn names s t) (hsub : names' ⊆ names) : AgreeOn names' s t :=
  fun n hn => h n (hsub hn)

theorem find_eq (h : AgreeOn names s t) {n : String} (hn : n ∈ names) : s.find n = t.find n := by
  rw [find, find, h n hn]

/-- A list given by name is the same in both stores, and so is one given literally. -/
theorem resolve_eq {v : Value} (h : AgreeOn v.mentions s t) (param : String) :
    (Reference.ofValue v).resolve s param = (Reference.ofValue v).resolve t param := by
  cases v with
  | string name => exact h.find_eq (List.mem_singleton_self name)
  | _ => rfl

theorem resolveAs_eq {α : Type} {v : Value} (h : AgreeOn v.mentions s t) (param expected : String)
    (read? : Value → Option α) : (Reference.ofValue v).resolveAs s param expected read? =
      (Reference.ofValue v).resolveAs t param expected read? := by
  rw [Reference.resolveAs, Reference.resolveAs, h.resolve_eq]

theorem requiredList_eq {r : Record} {k : String} (h : AgreeOn (r.mentions k) s t) :
    r.requiredList s k = r.requiredList t k := by
  rw [Record.requiredList, Record.requiredList]
  cases hk : r.value? k with
  | none => rfl
  | some v =>
    rw [Record.mentions, hk] at h
    exact h.resolve_eq k

end AgreeOn

end Store

theorem Shape.agreeOn_mentions {st : Shape.Struct} {ks : List String} {raw : Value} {r : Record}
    {s t : Store} (hr : Shape.readRecord st raw = .ok r)
    (h : s.AgreeOn (Shape.mentions st ks raw) t) {k : String} (hk : k ∈ ks) :
    s.AgreeOn (r.mentions k) t := by
  rw [Shape.mentions, hr] at h
  exact h.mono fun n hn => List.mem_flatMap.2 ⟨k, hk, hn⟩

theorem Shape.mem_mentions {st : Shape.Struct} {ks : List String} {raw : Value} {r : Record}
    (hr : Shape.readRecord st raw = .ok r) {k n : String} (hk : k ∈ ks) (hn : r.text? k = some n) :
    n ∈ Shape.mentions st ks raw := by
  rw [Shape.mentions, hr]
  refine List.mem_flatMap.2 ⟨k, hk, ?_⟩
  rw [Record.text?] at hn
  split at hn
  · rename_i m hm
    cases hn
    rw [Record.mentions, Record.value?, hm]
    exact List.mem_singleton_self n
  · cases hn

/-! ## What each operator reads -/

section Reads

variable {s t : Store} {job : String} {raw : Value}

theorem Copy.records_of_agreeOn (h : s.find job = t.find job) :
    Copy.records s job raw = Copy.records t job raw := by
  simp only [Copy.records, h]

theorem Copy.values_of_agreeOn (h : s.find job = t.find job) :
    Copy.values s job raw = Copy.values t job raw := by
  simp only [Copy.values, h]

theorem Grouping.records_of_agreeOn (h : s.find job = t.find job) :
    Grouping.records s job raw = Grouping.records t job raw := by
  simp only [Grouping.records, h]

theorem Clone.records_of_agreeOn (hjob : s.find job = t.find job)
    (h : s.AgreeOn (Operator.cloneObjects.mentions raw) t) :
    Clone.records s job raw = Clone.records t job raw := by
  refine bind_congr_ok fun params hp => ?_
  have hr := Operator.readWith_eq_ok.1 hp
  have hfilter := (Shape.agreeOn_mentions hr h (k := "filter") (by simp)).requiredList_eq
  have hvalues := (Shape.agreeOn_mentions hr h (k := "values") (by simp)).requiredList_eq
  simp only [hjob, hfilter, hvalues]

theorem Filter.mode_mentions {params : Record} {m : Filter.Mode} {v : Value}
    (h : Filter.mode params = .ok (m, v)) :
    v.mentions ⊆ ["include", "exclude"].flatMap params.mentions := by
  rw [Filter.mode] at h
  split at h <;> cases h <;> simp_all [Record.mentions]

theorem Filter.rule_of_agreeOn {params : Record}
    (h : s.AgreeOn (["include", "exclude"].flatMap params.mentions) t) :
    Filter.rule s params = Filter.rule t params := by
  rw [Filter.rule, Filter.rule]
  refine bind_congr_ok fun field _ => bind_congr_ok fun ⟨m, v⟩ hm => ?_
  simp only [(h.mono (Filter.mode_mentions hm)).resolve_eq]

theorem Filter.rules_of_agreeOn {ps : List Record}
    (h : s.AgreeOn (ps.flatMap fun p => ["include", "exclude"].flatMap p.mentions) t) :
    ps.mapM (Filter.rule s) = ps.mapM (Filter.rule t) := by
  induction ps with
  | nil => rfl
  | cons p ps ih =>
    rw [List.flatMap_cons] at h
    rw [List.mapM_cons, List.mapM_cons,
      Filter.rule_of_agreeOn (h.mono (List.subset_append_left ..)),
      ih (h.mono (List.subset_append_right ..))]

theorem Filter.records_of_agreeOn (hjob : s.find job = t.find job)
    (h : s.AgreeOn (Operator.filterObjects.mentions raw) t) :
    Filter.records s job raw = Filter.records t job raw := by
  refine bind_congr_ok fun ps hp => ?_
  rw [Operator.mentions, Operator.readWith_eq_ok.1 hp] at h
  simp only [hjob, Filter.rules_of_agreeOn h]

theorem Filter.fields_of_agreeOn (hjob : s.find job = t.find job)
    (h : s.AgreeOn (Operator.filterFields.mentions raw) t) :
    Filter.fields s job raw = Filter.fields t job raw := by
  refine bind_congr_ok fun params hp => ?_
  rw [Operator.mentions, Shape.mentions, Operator.readWith_eq_ok.1 hp] at h
  rw [hjob]
  refine bind_congr_ok fun c _ => bind_congr_ok fun ⟨m, v⟩ hm => ?_
  simp only [(h.mono (Filter.mode_mentions hm)).resolveAs_eq]

theorem Renaming.renamings_of_agreeOn (hjob : s.find job = t.find job)
    (h : s.AgreeOn (Operator.mapFields.mentions raw) t) :
    Renaming.renamings s job raw = Renaming.renamings t job raw := by
  rw [Operator.mentions] at h
  rw [Renaming.renamings, Renaming.renamings, hjob]
  refine bind_congr_ok fun c _ => ?_
  cases raw with
  | string name => exact h.resolveAs_eq ..
  | _ => rfl

theorem Revision.revisions_of_agreeOn {mappers : Mappers} (hjob : s.find job = t.find job)
    (h : s.AgreeOn (Operator.mapValues.mentions raw) t) :
    Revision.revisions mappers s job raw = Revision.revisions mappers t job raw := by
  rw [Revision.revisions, Revision.revisions, hjob, Revision.readAll, h.resolveAs_eq]
  rfl

theorem Merge.records_of_agreeOn (hjob : s.find job = t.find job)
    (h : s.AgreeOn (Operator.mergeObjects.mentions raw) t) :
    Merge.records s job raw = Merge.records t job raw := by
  refine bind_congr_ok fun params hp => bind_congr_ok fun other hother => ?_
  have hr := Operator.readWith_eq_ok.1 hp
  have hn := Shape.mem_mentions hr (List.mem_singleton_self _) (Record.required_eq_ok.1 hother)
  simp only [hjob, h.find_eq hn]

/-! ## What each operator writes -/

theorem Copy.mem_of_records {target : String} {c : Collection}
    (h : Copy.records s job raw = .ok (target, c)) : target ∈ Operator.copyTo.mentions raw := by
  obtain ⟨name, hname, h⟩ := bind_eq_ok.1 h
  obtain ⟨c', -, h⟩ := bind_eq_ok.1 h
  cases h
  have hr := Operator.readWith_eq_ok.1 hname
  cases raw <;> cases hr
  exact List.mem_singleton_self target

theorem Copy.mem_of_values {target : String} {vs : Collection}
    (h : Copy.values s job raw = .ok (target, vs)) :
    target ∈ Operator.copyToArray.mentions raw := by
  obtain ⟨params, hp, h⟩ := bind_eq_ok.1 h
  obtain ⟨name, hname, h⟩ := bind_eq_ok.1 h
  obtain ⟨field, -, h⟩ := bind_eq_ok.1 h
  obtain ⟨c, -, h⟩ := bind_eq_ok.1 h
  cases h
  exact Shape.mem_mentions (Operator.readWith_eq_ok.1 hp) (List.mem_singleton_self _)
    (Record.required_eq_ok.1 hname)

theorem Grouping.mem_of_records {target : String} {c : Collection} {entries : Log}
    (h : Grouping.records s job raw = .ok (target, c, entries)) :
    target ∈ job :: Operator.aggregate.mentions raw := by
  obtain ⟨params, hp, h⟩ := bind_eq_ok.1 h
  obtain ⟨aggregated, -, h⟩ := bind_eq_ok.1 h
  obtain ⟨aggregation, -, h⟩ := bind_eq_ok.1 h
  obtain ⟨c, -, h⟩ := bind_eq_ok.1 h
  cases h
  cases hname : params.text? "name" with
  | none => exact List.mem_cons_self
  | some name =>
    exact List.mem_cons_of_mem _ (Shape.mem_mentions (Operator.readWith_eq_ok.1 hp)
      (List.mem_singleton_self _) hname)

end Reads

namespace Operator

variable {setting : Setting} {job : String} {raw : Value} {s t : Session} {o : Operator}

/-- Whether the operator has nothing to do with files. -/
def IsInternal (o : Operator) : Prop := o ≠ .load ∧ o ≠ .save

instance : DecidablePred IsInternal := fun _ => inferInstanceAs (Decidable (_ ∧ _))

/-- What an operator adds to a collection that is the same in both stores. -/
theorem append_of_agreeOn {names : List String} {target : String} {s t : Store}
    (h : s.AgreeOn names t) (htarget : target ∈ names) (values : Collection) :
    Change.append s target values = Change.append t target values := by
  rw [Change.append, Change.append, h target htarget]

/-- **What an operator reads**: of the store, the collection of its job and those that its
parameters name. -/
theorem change_of_agreeOn (ho : o.IsInternal)
    (h : s.store.AgreeOn (job :: o.mentions raw) t.store) :
    o.change setting job raw s = o.change setting job raw t := by
  have hjob := h.find_eq List.mem_cons_self
  have hraw := h.mono (List.subset_cons_self ..)
  cases o with
  | load => exact absurd rfl ho.1
  | copyTo =>
    rw [change, change, Copy.records_of_agreeOn hjob]
    refine bind_congr_ok fun p hp => ?_
    obtain ⟨target, c⟩ := p
    exact congrArg Except.ok (append_of_agreeOn hraw (Copy.mem_of_records hp) c)
  | cloneObjects => rw [change, change, Clone.records_of_agreeOn hjob hraw]
  | filterObjects => rw [change, change, Filter.records_of_agreeOn hjob hraw]
  | filterFields => rw [change, change, Filter.fields_of_agreeOn hjob hraw, hjob]
  | mapFields => rw [change, change, Renaming.renamings_of_agreeOn hjob hraw, hjob]
  | mapValues => rw [change, change, Revision.revisions_of_agreeOn hjob hraw, hjob]
  | copyToArray =>
    rw [change, change, Copy.values_of_agreeOn hjob]
    refine bind_congr_ok fun p hp => ?_
    obtain ⟨target, vs⟩ := p
    exact congrArg Except.ok (append_of_agreeOn hraw (Copy.mem_of_values hp) vs)
  | mergeObjects => rw [change, change, Merge.records_of_agreeOn hjob hraw]
  | aggregate => rw [change, change, Grouping.records_of_agreeOn hjob]
  | save => exact absurd rfl ho.2

/-- **What an operator writes**: the collection of its job or one that its parameters name. -/
theorem mem_of_written {c : Change} {name : String} {records : Collection}
    (hc : o.change setting job raw s = .ok c) (hw : c.written = some (name, records)) :
    name ∈ job :: o.mentions raw := by
  cases o with
  | load | cloneObjects | filterObjects | mergeObjects =>
    obtain ⟨_, -, h⟩ := bind_eq_ok.1 hc
    cases h
    cases hw
    exact List.mem_cons_self
  | copyTo =>
    obtain ⟨_, hr, h⟩ := bind_eq_ok.1 hc
    cases h
    cases hw
    exact List.mem_cons_of_mem _ (Copy.mem_of_records hr)
  | copyToArray =>
    obtain ⟨_, hr, h⟩ := bind_eq_ok.1 hc
    cases h
    cases hw
    exact List.mem_cons_of_mem _ (Copy.mem_of_values hr)
  | filterFields | mapFields | mapValues =>
    obtain ⟨_, -, h⟩ := bind_eq_ok.1 hc
    obtain ⟨_, -, h⟩ := bind_eq_ok.1 h
    cases h
    cases hw
    exact List.mem_cons_self
  | aggregate =>
    obtain ⟨_, hr, h⟩ := bind_eq_ok.1 hc
    cases h
    cases hw
    exact Grouping.mem_of_records hr
  | save =>
    obtain ⟨_, -, h⟩ := bind_eq_ok.1 hc
    obtain ⟨_, -, h⟩ := bind_eq_ok.1 h
    cases h
    cases hw

end Operator

end Reshape
