import Reshape.Proofs.JsonReading
import Reshape.Proofs.KeyOrder

/-!
# Configurations that are read as they are written

What a configuration is read from may leave out its operations, give them by another name and give
null as parameters. A configuration is written with its operations and without null parameters, and
what is written is read as the same configuration.

* `Operation.Proper`: what is true of operations that were read. `Operation.of_ofDraft` and
  `Operation.ofDraft_ofValue`: such an operation is read, and read from its own draft.
* `Job.Legible`, `Config.Legible`: the same of jobs and configurations, by how deep they are nested.
  `Job.readFields_ofValue`, `Config.Legible.ofDraft_ofValue`: they are read from their own drafts,
  unless an empty list of operations is nested too deep.
* `Config.ofJson_toJson`: what is read from a text is read again from its own text.
-/

namespace Reshape

/-! ## Operations -/

theorem Entry.ofValue_name (k : Operator) {v : Value} (h : v ≠ .null) :
    Entry.ofValue k.name v = .operator k (some v) := by
  cases v with
  | null => exact absurd rfl h
  | bool | number | string | array | object => cases k <;> rfl

theorem Entry.ofValue_of_none {name : String} (h : Operator.ofName? name = none) (v : Value) :
    Entry.ofValue name v = .unknown name v := by
  simp [Entry.ofValue, h]

theorem Entry.given?_ofValue {name : String} {v : Value} {s : Operator × Value}
    (h : (Entry.ofValue name v).given? = some s) : v = s.2 ∧ s.2 ≠ .null := by
  unfold Entry.ofValue at h
  split at h
  · cases h
  · rename_i hv
    cases h
    exact ⟨rfl, hv⟩
  · cases h

theorem Entry.unknown_of_ofValue {name n : String} {v w : Value}
    (h : Entry.ofValue name v = .unknown n w) : v = w ∧ Operator.ofName? n = none := by
  unfold Entry.ofValue at h
  split at h
  · cases h
  · cases h
  · rename_i hname
    cases h
    exact ⟨rfl, hname⟩

@[simp] theorem Operator.ofName?_name (k : Operator) : ofName? k.name = some k := by
  cases k <;> rfl

namespace Operation

/-- No parameters are null, and no other setting has the name of an operator. -/
structure Proper (o : Operation) : Prop where
  parameters : ∀ s ∈ o.settings, s.2 ≠ .null
  unknown : ∀ e ∈ o.unknown.entries, Operator.ofName? e.1 = none

/-! ### What is read -/

theorem mem_of_mem_select {given : List (Operator × Value)} {ks : List Operator}
    {s : Operator × Value} (h : s ∈ select given ks) : s ∈ given := by
  obtain ⟨k, -, h⟩ := List.mem_filterMap.1 h
  obtain ⟨v, hv, rfl⟩ := Option.map_eq_some_iff.1 h
  obtain ⟨l, l', rfl, -⟩ := List.lookup_eq_some_iff.1 hv
  simp

theorem mem_of_mem_foldl_addTo {es : List Entry} {unknown : Catalog Value} {e : String × Value}
    (h : e ∈ (es.foldl Entry.addTo unknown).entries) :
    e ∈ unknown.entries ∨ .unknown e.1 e.2 ∈ es := by
  induction es generalizing unknown with
  | nil => exact .inl h
  | cons d es ih =>
    rcases ih h with hd | hes
    · cases d with
      | operator k v => exact .inl hd
      | unknown name v =>
        refine (Catalog.mem_of_mem_insertEntry hd).imp_right fun heq => ?_
        rw [heq]
        exact List.mem_cons_self
    · exact .inr (List.mem_cons_of_mem d hes)

/-- The fields of the object that an operation is written as. -/
def record (o : Operation) : Record :=
  o.settings.map (fun s => (s.1.name, s.2)) ++ o.unknown.entries

theorem toValue_eq (o : Operation) : o.toValue = .object o.record := rfl

theorem nodup_keys_record {o : Operation} (h : o.Proper) : o.record.keys.Nodup := by
  have hkeys : o.record.keys = (o.settings.map (·.1)).map Operator.name ++ o.unknown.names := by
    simp [record, Record.keys, Catalog.names, Function.comp_def]
  rw [hkeys, List.nodup_append]
  refine ⟨?_, ?_, ?_⟩
  · have hall : (Operator.all.map Operator.name).Nodup := by decide
    exact hall.sublist (o.ordered.map _)
  · exact o.unknown.nodup_names
  · rintro _ hk _ hn rfl
    obtain ⟨k, -, rfl⟩ := List.mem_map.1 hk
    obtain ⟨e, he, hek⟩ := List.mem_map.1 hn
    have hnone := h.unknown e he
    rw [hek, Operator.ofName?_name] at hnone
    cases hnone

/-- What the fields of an operation are read from. -/
theorem of_readFields {depth : Nat} {fields : List (Option String × Draft)} {o : Operation}
    (h : readFields depth [] [] .empty fields = .ok o) :
    o.Proper ∧ ∀ f ∈ o.record, ∃ d : Draft, d.value? depth = some f.2 := by
  obtain ⟨-, hes⟩ := readFields_eq_ok.1 h
  obtain ⟨-, -, rfl⟩ := ofEntries_eq_some.1 hes
  -- every entry is there because a field was read as it
  have hentry {e : Entry} (he : e ∈ fields.filterMap (Entry.ofDraft? depth)) :
      ∃ (d : Draft) (name : String) (v : Value),
        d.value? depth = some v ∧ Entry.ofValue name v = e := by
    obtain ⟨⟨name, d⟩, -, he⟩ := List.mem_filterMap.1 he
    cases name with
    | none => cases he
    | some name =>
      obtain ⟨v, hv, rfl⟩ := Option.map_eq_some_iff.1 he
      exact ⟨d, name, v, hv, rfl⟩
  have hsettings : ∀ s ∈ select ((fields.filterMap (Entry.ofDraft? depth)).filterMap
      Entry.given?).reverse Operator.all, s.2 ≠ .null ∧ ∃ d : Draft, d.value? depth = some s.2 := by
    intro s hs
    obtain ⟨e, he, hgiven⟩ := List.mem_filterMap.1 (List.mem_reverse.1 (mem_of_mem_select hs))
    obtain ⟨d, name, v, hv, rfl⟩ := hentry he
    obtain ⟨rfl, hnull⟩ := Entry.given?_ofValue hgiven
    exact ⟨hnull, d, hv⟩
  have hunknown : ∀ e ∈ ((fields.filterMap (Entry.ofDraft? depth)).foldl Entry.addTo
      .empty).entries, Operator.ofName? e.1 = none ∧ ∃ d : Draft, d.value? depth = some e.2 := by
    intro e he
    obtain ⟨d, name, v, hv, heq⟩ := hentry ((mem_of_mem_foldl_addTo he).resolve_left nofun)
    obtain ⟨rfl, hname⟩ := Entry.unknown_of_ofValue heq
    exact ⟨hname, d, hv⟩
  rw [List.append_nil]
  refine ⟨⟨fun s hs => (hsettings s hs).1, fun e he => (hunknown e he).1⟩, fun f hf => ?_⟩
  rcases List.mem_append.1 hf with hf | hf
  · obtain ⟨s, hs, rfl⟩ := List.mem_map.1 hf
    exact (hsettings s hs).2
  · exact (hunknown f hf).2

theorem of_ofDraft {depth : Nat} {d : Draft} {o : Operation} (h : ofDraft depth d = .ok o) :
    o.Proper ∧ (o.toValue.NumbersReadBack → o.toValue.Readable depth) := by
  match d with
  | .object fields closed =>
    obtain _ | depth := depth
    · cases h
    rw [ofDraft, if_neg (Nat.succ_ne_zero depth), Nat.add_sub_cancel] at h
    cases hr : readFields depth [] [] .empty fields with
    | error e =>
      rw [hr] at h
      cases h
    | ok p =>
      rw [hr] at h
      obtain rfl : p = o := by
        cases closed <;> cases h
        rfl
      obtain ⟨hproper, hfields⟩ := of_readFields hr
      refine ⟨hproper, fun hn => .object (nodup_keys_record hproper) fun f hf => ?_⟩
      obtain ⟨d, hd⟩ := hfields f hf
      exact d.readable_of_value? hd (Value.NumbersReadBack.object_iff.1 hn f hf)
  | .null | .bool _ | .number _ | .string _ | .unreadable | .array _ _ | .broken => cases h

theorem of_ofDrafts {depth : Nat} {ds : List Draft} {os : List Operation}
    (h : ofDrafts depth ds = .ok os) :
    ∀ o ∈ os, o.Proper ∧ (o.toValue.NumbersReadBack → o.toValue.Readable depth) := by
  induction ds generalizing os with
  | nil =>
    cases h
    nofun
  | cons d ds ih =>
    rw [ofDrafts] at h
    split at h
    · cases h
    · rename_i o ho
      cases hos : ofDrafts depth ds with
      | error e =>
        rw [hos] at h
        cases h
      | ok ps =>
        rw [hos] at h
        cases h
        exact List.forall_mem_cons.2 ⟨of_ofDraft ho, ih hos⟩

/-! ### What is written -/

/-- Settings in the order of the operators are left as they are. -/
theorem select_of_sublist {given : List (Operator × Value)} {ks : List Operator}
    (h : (given.map (·.1)).Sublist ks) (hks : ks.Nodup) : select given ks = given := by
  induction ks generalizing given with
  | nil =>
    obtain rfl : given = [] := List.map_eq_nil_iff.1 (List.sublist_nil.1 h)
    rfl
  | cons k ks ih =>
    obtain ⟨hk, hks'⟩ := List.nodup_cons.1 hks
    rw [select, List.filterMap_cons, ← select]
    -- either `k` has no parameters, or they come first
    rcases List.sublist_cons_iff.1 h with h | ⟨r, hr, h⟩
    · have hnone : given.lookup k = none := List.lookup_eq_none_iff.2 fun s hs =>
        bne_iff_ne.2 fun heq => hk (heq ▸ h.subset (List.mem_map_of_mem hs))
      rw [hnone]
      exact ih h hks'
    · obtain ⟨⟨k, v⟩, given, rfl, rfl, rfl⟩ := List.map_eq_cons_iff.1 hr
      have hskip : select ((k, v) :: given) ks = select given ks := by
        refine List.filterMap_congr fun j hj => ?_
        rw [List.lookup_cons, beq_false_of_ne fun heq : j = k => hk (heq ▸ hj)]
      rw [List.lookup_cons_self, hskip, ih h hks']
      rfl

/-- An operation is made of its settings, in whatever order they are given. -/
theorem ofList_of_perm {o : Operation} {given : List (Operator × Value)}
    (h : o.settings.Perm given) : ofList given o.unknown = o := by
  obtain ⟨settings, ordered, unknown⟩ := o
  have hnodup : Operator.all.Nodup := by decide
  have hsettings : select given Operator.all = settings := by
    rw [← select_of_sublist ordered hnodup]
    exact List.filterMap_congr fun k _ => by
      rw [lookup_of_perm h (hnodup.sublist ordered) k]
  simp only [ofList, hsettings]

/-- The settings that an operation is written as. -/
def entries (o : Operation) : List Entry :=
  o.settings.map (fun s => .operator s.1 (some s.2)) ++
    o.unknown.entries.map fun e => .unknown e.1 e.2

theorem map_ofValue_record {o : Operation} (h : o.Proper) :
    (o.record.map fun f => Entry.ofValue f.1 f.2) = o.entries := by
  rw [record, entries, List.map_append, List.map_map]
  refine congrArg₂ _ (List.map_congr_left fun s hs => ?_) (List.map_congr_left fun e he => ?_)
  · exact Entry.ofValue_name s.1 (h.parameters s hs)
  · exact Entry.ofValue_of_none (h.unknown e he) e.2

theorem ofEntries_entries (o : Operation) : ofEntries [] [] .empty o.entries = some o := by
  have hoperators : o.entries.filterMap Entry.operator? = o.settings.map (·.1) := by
    simp [entries, List.filterMap_map, Function.comp_def, Entry.operator?]
  have hgiven : o.entries.filterMap Entry.given? = o.settings := by
    simp [entries, List.filterMap_map, Function.comp_def, Entry.given?]
  have hunknown : o.entries.foldl Entry.addTo .empty = o.unknown := by
    simp only [entries, List.foldl_append, List.foldl_map, Entry.addTo, List.foldl_fixed]
    exact o.unknown.ofList_entries
  have hnodup : Operator.all.Nodup := by decide
  rw [ofEntries_eq_some, hoperators, hgiven, hunknown, List.append_nil]
  exact ⟨hnodup.sublist o.ordered, List.disjoint_nil_right _,
    (ofList_of_perm (List.reverse_perm _).symm).symm⟩

/-- An operation is read from its own draft. -/
theorem ofDraft_ofValue {depth : Nat} {o : Operation} (h : o.Proper)
    (hr : o.toValue.Readable depth) : ofDraft depth (Draft.ofValue o.toValue) = .ok o := by
  rw [toValue_eq] at hr ⊢
  cases hr with
  | @object depth _ _ hfields =>
    have hentry : ∀ f ∈ o.record, Entry.ofDraft? depth (some f.1, Draft.ofValue f.2) =
        some (Entry.ofValue f.1 f.2) := fun f hf => by
      rw [Entry.ofDraft?, (hfields f hf).value?_ofValue, Option.map_some]
    have hread : readFields depth [] [] .empty (Draft.ofFields o.record) = .ok o := by
      rw [Draft.ofFields_eq_map, readFields_eq_ok, List.forall_mem_map, List.filterMap_map]
      refine ⟨fun f hf => by rw [hentry f hf]; rfl, ?_⟩
      rw [List.filterMap_congr (g := some ∘ fun f => Entry.ofValue f.1 f.2) hentry,
        List.filterMap_eq_map, map_ofValue_record h, ofEntries_entries]
    rw [Draft.ofValue, ofDraft, if_neg (Nat.succ_ne_zero depth), Nat.add_sub_cancel, hread]
    rfl

theorem ofDrafts_ofValues {depth : Nat} {os : List Operation} (h : ∀ o ∈ os, o.Proper)
    (hr : ∀ o ∈ os, o.toValue.Readable depth) :
    ofDrafts depth (Draft.ofValues (os.map toValue)) = .ok os := by
  induction os with
  | nil => rfl
  | cons o os ih =>
    rw [List.forall_mem_cons] at h hr
    rw [List.map_cons, Draft.ofValues, ofDrafts, ofDraft_ofValue h.1 hr.1, ih h.2 hr.2]
    rfl

end Operation

/-! ## Jobs -/

/-- What is written as the operations of the job. -/
def Job.operationsValue (j : Job) : Value := .array (j.operations.map Operation.toValue)

/-- The job may be what a text is read as where `depth` levels are read inside it. If it has no
operations, these need not be written. -/
structure Job.Legible (depth : Nat) (j : Job) : Prop where
  proper : ∀ o ∈ j.operations, o.Proper
  readable : j.operations ≠ [] → j.operationsValue.Readable depth

namespace Job

theorem of_readFields {depth : Nat} {closed : Bool} {name : Option String}
    {os : Option (List Operation)} {fields : List (Option String × Draft)} {j : Job}
    (h : readFields depth closed name os fields = .ok j) :
    j.operations = os.getD [] ∨ ∃ d, Operation.listOfDraft depth d = .ok j.operations := by
  induction fields generalizing name os with
  | nil =>
    unfold readFields at h
    split at h
    · cases h
    split at h
    · cases h
    · cases h
      exact .inl rfl
  | cons f fields ih =>
    match f with
    | (none, d) => cases h
    | (some k, d) =>
      rw [readFields] at h
      split at h
      · split at h
        · cases h
        split at h
        · cases h
        · exact ih h
      split at h
      · split at h
        · cases h
        split at h
        · cases h
        · rename_i ps hps
          rcases ih h with hj | hj
          · exact .inr ⟨d, hj ▸ hps⟩
          · exact .inr hj
      split at h
      · exact ih h
      · cases h

theorem legible_of_readFields {depth : Nat} {closed : Bool}
    {fields : List (Option String × Draft)} {j : Job}
    (h : readFields depth closed none none fields = .ok j) (hn : j.toValue.NumbersReadBack) :
    j.Legible depth := by
  rcases of_readFields h with hnil | ⟨d, hd⟩
  · have hnil : j.operations = [] := hnil
    exact ⟨by simp [hnil], fun hne => absurd hnil hne⟩
  have hn : j.operationsValue.NumbersReadBack :=
    Value.NumbersReadBack.object_iff.1 hn ("ops", _) (by simp)
  match d with
  | .array items closed =>
    obtain _ | depth := depth
    · cases hd
    rw [Operation.listOfDraft, if_neg (Nat.succ_ne_zero depth), Nat.add_sub_cancel] at hd
    cases hr : Operation.ofDrafts depth items with
    | error e =>
      rw [hr] at hd
      cases hd
    | ok os =>
      rw [hr] at hd
      obtain rfl : os = j.operations := by
        cases closed <;> cases hd
        rfl
      have hos := Operation.of_ofDrafts hr
      refine ⟨fun o ho => (hos o ho).1, fun _ => .array (List.forall_mem_map.2 fun o ho => ?_)⟩
      exact (hos o ho).2 (Value.NumbersReadBack.array_iff.1 hn _ (List.mem_map_of_mem ho))
  | .null | .bool _ | .number _ | .string _ | .unreadable | .object _ _ | .broken => cases hd

/-- The operations are read from their own draft, unless they are none and nested too deep. -/
theorem listOfDraft_ofValue {depth : Nat} {j : Job} (h : j.Legible depth) :
    Operation.listOfDraft depth (Draft.ofValue j.operationsValue) =
      if depth = 0 ∧ j.operations = [] then .error .malformed else .ok j.operations := by
  rw [operationsValue, Draft.ofValue, Operation.listOfDraft]
  cases depth with
  | zero =>
    -- operations that were read take a level of their own
    have hnil : j.operations = [] := by
      by_contra hne
      cases h.readable hne
    rw [if_pos rfl, if_pos ⟨rfl, hnil⟩]
  | succ depth =>
    have hreadable : ∀ o ∈ j.operations, o.toValue.Readable depth := fun o ho => by
      have hr := h.readable (List.ne_nil_of_mem ho)
      cases hr with
      | array hr => exact hr _ (List.mem_map_of_mem ho)
    rw [if_neg (Nat.succ_ne_zero depth), if_neg (by simp), Nat.add_sub_cancel,
      Operation.ofDrafts_ofValues h.proper hreadable]
    rfl

/-- A job is read from its own draft, unless it has no operations and these are nested too deep. -/
theorem readFields_ofValue {depth : Nat} {j : Job} (h : j.Legible depth) :
    readFields depth true none none [(some "name", .string j.name),
      (some "ops", Draft.ofValue j.operationsValue)] =
        if depth = 0 ∧ j.operations = [] then .error .malformed else .ok j := by
  rw [readFields, if_pos rfl, if_neg (by simp), nameOfDraft]
  dsimp only
  rw [readFields, if_neg (by decide), if_pos (.inl rfl), if_neg (by simp), listOfDraft_ofValue h]
  by_cases hdeep : depth = 0 ∧ j.operations = []
  · rw [if_pos hdeep, if_pos hdeep]
  · rw [if_neg hdeep, if_neg hdeep]
    rfl

end Job

/-! ## Configurations -/

namespace Config

/-- The job stands inside `n` sequences of the configuration. -/
inductive Encloses : Nat → Config → Job → Prop
  | job (j : Job) : Encloses 0 (.job j) j
  | sequence {n : Nat} {cs : List Config} {c : Config} {j : Job} :
    c ∈ cs → Encloses n c j → Encloses (n + 1) (.sequence cs) j

/-- A job without operations stands inside `n` sequences. -/
def BareAt (n : Nat) (c : Config) : Prop := ∃ j, c.Encloses n j ∧ j.operations = []

theorem bareAt_job {n : Nat} {j : Job} : (Config.job j).BareAt n ↔ n = 0 ∧ j.operations = [] := by
  constructor
  · rintro ⟨_, ⟨⟩, hj⟩
    exact ⟨rfl, hj⟩
  · rintro ⟨rfl, hj⟩
    exact ⟨j, .job j, hj⟩

theorem bareAt_sequence {n : Nat} {cs : List Config} :
    (Config.sequence cs).BareAt (n + 1) ↔ ∃ c ∈ cs, c.BareAt n := by
  constructor
  · rintro ⟨j, ⟨⟩ | ⟨hc, hj⟩, hnil⟩
    exact ⟨_, hc, j, hj, hnil⟩
  · rintro ⟨c, hc, j, hj, hnil⟩
    exact ⟨j, .sequence hc hj, hnil⟩

/-- The configuration may be what a text is read as where `depth` levels are read. -/
inductive Legible : Nat → Config → Prop
  | job {depth : Nat} {j : Job} : j.Legible depth → Legible (depth + 1) (.job j)
  | sequence {depth : Nat} {cs : List Config} : (∀ c ∈ cs, Legible depth c) →
    Legible (depth + 1) (.sequence cs)

theorem toValues_eq_map (cs : List Config) : toValues cs = cs.map toValue := by
  induction cs with
  | nil => rfl
  | cons c cs ih => rw [toValues, ih, List.map_cons]

/-! ### What is read -/

mutual

theorem legible_of_ofDraft {depth : Nat} {c : Config} : ∀ d : Draft, ofDraft depth d = .ok c →
    c.toValue.NumbersReadBack → c.Legible depth
  | .array items closed, h, hn => by
    obtain _ | depth := depth
    · simp [ofDraft] at h
    rw [ofDraft, if_neg (Nat.succ_ne_zero depth), Nat.add_sub_cancel] at h
    cases hr : ofDrafts depth items with
    | error e =>
      rw [hr] at h
      cases h
    | ok cs =>
      rw [hr] at h
      obtain rfl : c = .sequence cs := by
        cases closed <;> cases h
        rfl
      rw [toValue, toValues_eq_map, Value.NumbersReadBack.array_iff, List.forall_mem_map] at hn
      exact .sequence fun c hc => legible_of_ofDrafts items hr c hc (hn c hc)
  | .object fields closed, h, hn => by
    obtain _ | depth := depth
    · simp [ofDraft] at h
    rw [ofDraft, if_neg (Nat.succ_ne_zero depth), Nat.add_sub_cancel] at h
    cases hr : Job.readFields depth closed none none fields with
    | error e =>
      rw [hr] at h
      cases h
    | ok j =>
      rw [hr] at h
      cases h
      exact .job (Job.legible_of_readFields hr hn)
  | .null, h, _ | .bool _, h, _ | .number _, h, _ | .string _, h, _ | .unreadable, h, _
  | .broken, h, _ => by cases h

theorem legible_of_ofDrafts {depth : Nat} {cs : List Config} : ∀ ds : List Draft,
    ofDrafts depth ds = .ok cs → ∀ c ∈ cs, c.toValue.NumbersReadBack → c.Legible depth
  | [], h => by
    cases h
    nofun
  | d :: ds, h => by
    rw [ofDrafts] at h
    split at h
    · cases h
    · rename_i c hc
      split at h
      · cases h
      · rename_i cs hcs
        cases h
        exact List.forall_mem_cons.2 ⟨legible_of_ofDraft d hc, legible_of_ofDrafts ds hcs⟩

end

/-! ### What is written -/

/-- A configuration that was read is written as a value of at most one more level. -/
theorem Legible.readable {depth : Nat} {c : Config} (h : c.Legible depth) :
    c.toValue.Readable (depth + 1) := by
  induction h with
  | @job depth j hj =>
    refine .object (by simp [Record.keys]) ?_
    have hops : j.operationsValue.Readable (depth + 1) := by
      by_cases hnil : j.operations = []
      · rw [Job.operationsValue, hnil]
        exact .array fun v hv => absurd hv List.not_mem_nil
      · exact (hj.readable hnil).succ
    simpa using ⟨.string j.name, hops⟩
  | @sequence depth cs _ ih =>
    rw [toValue, toValues_eq_map]
    exact .array (List.forall_mem_map.2 ih)

open Classical in
theorem ofDrafts_ofValues {depth : Nat} {cs : List Config} {P : Config → Prop}
    (h : ∀ c ∈ cs, ofDraft depth (Draft.ofValue c.toValue) =
      if P c then .error .malformed else .ok c) :
    ofDrafts depth (Draft.ofValues (toValues cs)) =
      if ∃ c ∈ cs, P c then .error .malformed else .ok cs := by
  induction cs with
  | nil => simp [toValues, Draft.ofValues, ofDrafts]
  | cons c cs ih =>
    obtain ⟨hc, hcs⟩ := List.forall_mem_cons.1 h
    rw [toValues, Draft.ofValues, ofDrafts, hc, ih hcs]
    by_cases hP : P c
    · simp [hP]
    · by_cases hany : ∃ c ∈ cs, P c
      · simp [hP, hany]
      · simp [hP, hany]

open Classical in
/-- The configuration is read from its own draft, unless a job without operations stands so deep
inside it that there is no level left for the empty list of these. -/
theorem Legible.ofDraft_ofValue {n : Nat} {c : Config} (h : c.Legible (n + 1)) :
    ofDraft (n + 1) (Draft.ofValue c.toValue) =
      if c.BareAt n then .error .malformed else .ok c := by
  generalize hd : n + 1 = depth at h ⊢
  induction h generalizing n with
  | @job depth j hj =>
    obtain rfl : n = depth := Nat.succ.inj hd
    have hdraft : Draft.ofValue (Config.job j).toValue = .object [(some "name", .string j.name),
      (some "ops", Draft.ofValue j.operationsValue)] true := rfl
    rw [hdraft, ofDraft, if_neg (Nat.succ_ne_zero n), Nat.add_sub_cancel,
      Job.readFields_ofValue hj]
    by_cases hbare : n = 0 ∧ j.operations = []
    · rw [if_pos hbare, if_pos (bareAt_job.2 hbare)]
      rfl
    · rw [if_neg hbare, if_neg (mt bareAt_job.1 hbare)]
      rfl
  | @sequence depth cs hcs ih =>
    obtain rfl : n = depth := Nat.succ.inj hd
    have hitems : ofDrafts n (Draft.ofValues (toValues cs)) =
        if (Config.sequence cs).BareAt n then .error .malformed else .ok cs := by
      cases n with
      | zero =>
        -- no level is left for an element
        obtain rfl : cs = [] := List.eq_nil_iff_forall_not_mem.2 fun c hc => by cases hcs c hc
        rw [if_neg (by rintro ⟨_, ⟨⟩, -⟩)]
        rfl
      | succ n => simp only [bareAt_sequence, ofDrafts_ofValues fun c hc => ih c hc rfl]
    rw [toValue, Draft.ofValue, ofDraft, if_neg (Nat.succ_ne_zero n), Nat.add_sub_cancel, hitems]
    by_cases hbare : (Config.sequence cs).BareAt n
    · rw [if_pos hbare, if_pos hbare]
    · rw [if_neg hbare, if_neg hbare]
      rfl

/-! ### Texts -/

theorem legible_of_ofJson {text : String} {c : Config} (h : ofJson text = .ok c)
    (hn : c.toValue.NumbersReadBack) : c.Legible Draft.maxDepth := by
  rcases hread : Draft.read text with ⟨d, complete⟩
  rw [ofJson, hread] at h
  dsimp only at h
  cases hd : ofDraft Draft.maxDepth d with
  | error e =>
    rw [hd] at h
    cases h
  | ok c' =>
    rw [hd] at h
    obtain rfl : c' = c := by
      cases complete <;> cases h
      rfl
    exact legible_of_ofDraft d hd hn

/-- Reading the text of a value is reading its draft. -/
theorem ofJson_text {depth : Nat} {v : Value} (h : v.Readable depth) :
    ofJson v.text = ofDraft Draft.maxDepth (Draft.ofValue v) := by
  have hread : Draft.read v.text = (Draft.ofValue v, true) := by
    rw [Value.text, ← Json.Layout.write_tight 0]
    exact h.read_write .tight
  rw [ofJson, hread]
  dsimp only
  cases ofDraft Draft.maxDepth (Draft.ofValue v) <;> rfl

/-! ### A job inside too many sequences -/

/-- A job without operations inside some sequences. -/
def nested : Nat → Config
  | 0 => .job ⟨"x", []⟩
  | n + 1 => .sequence [nested n]

/-- A value that it is read from, without a list of operations. -/
def nestedValue : Nat → Value
  | 0 => .object [("name", .string "x")]
  | n + 1 => .array [nestedValue n]

/-- The text of this value. -/
def nestedText (n : Nat) : String :=
  String.ofList (List.replicate n '[' ++
    ("\x7b\"name\":\"x\"\x7d".toList ++ List.replicate n ']'))

theorem text_nestedValue (n : Nat) : (nestedValue n).text = nestedText n := by
  have hcompact : Json.compact (nestedValue n) =
      List.replicate n '[' ++ ("\x7b\"name\":\"x\"\x7d".toList ++ List.replicate n ']') := by
    induction n with
    | zero => decide
    | succ n ih =>
      rw [nestedValue, Json.compact, ih, Json.compactItems, List.replicate_succ,
        List.replicate_succ']
      simp
  rw [Value.text, hcompact, nestedText]

theorem readable_nestedValue (n : Nat) : (nestedValue n).Readable (n + 1) := by
  induction n with
  | zero => exact .object (by simp [Record.keys]) (by simpa using .string "x")
  | succ n ih => exact .array (by simpa using ih)

theorem ofDraft_nestedValue (n : Nat) :
    ofDraft (n + 1) (Draft.ofValue (nestedValue n)) = .ok (nested n) := by
  induction n with
  | zero => rfl
  | succ n ih =>
    rw [nestedValue, Draft.ofValue, ofDraft, if_neg (Nat.succ_ne_zero _), Nat.add_sub_cancel,
      Draft.ofValues, ofDrafts, ih]
    rfl

theorem legible_nested (n : Nat) : (nested n).Legible (n + 1) := by
  induction n with
  | zero => exact .job ⟨nofun, fun h => absurd rfl h⟩
  | succ n ih => exact .sequence (by simpa using ih)

theorem bareAt_nested (n : Nat) : (nested n).BareAt n := by
  induction n with
  | zero => exact bareAt_job.2 ⟨rfl, rfl⟩
  | succ n ih => exact bareAt_sequence.2 ⟨_, List.mem_singleton_self _, ih⟩

theorem numbers_nested (n : Nat) : (nested n).toValue.numbers = [] := by
  induction n with
  | zero => rfl
  | succ n ih => simpa [nested, toValue, toValues, Value.numbers, Value.numbersOfItems] using ih

theorem ofJson_nestedText : ofJson (nestedText 126) = .ok (nested 126) := by
  rw [← text_nestedValue, ofJson_text (readable_nestedValue 126)]
  exact ofDraft_nestedValue 126

/-! ### Reading what was written -/

/-- **Configurations survive being written.** What a text is read as is read again from its own
text, which is written again in the same way, provided that its numbers are read as they are
written. The exception is a configuration in which a job without operations stands inside 126
sequences. The list of its operations may be left out in a text but is always written, and this
takes one level more than are read. -/
theorem ofJson_toJson (text : String) (c : Config) (h : ofJson text = .ok c)
    (hn : ∀ n ∈ c.toValue.numbers, n.ReadsBack) :
    (¬ c.BareAt 126 → ofJson c.toJson = .ok c ∧ (ofJson c.toJson).map toJson = .ok c.toJson) ∧
      (c.BareAt 126 → ofJson c.toJson = .error .malformed) := by
  have hlegible : c.Legible (126 + 1) := legible_of_ofJson h hn
  have hread : ofJson c.toJson = ofDraft (126 + 1) (Draft.ofValue c.toValue) :=
    ofJson_text hlegible.readable
  rw [hlegible.ofDraft_ofValue] at hread
  refine ⟨fun hbare => ?_, fun hbare => by rw [hread, if_pos hbare]⟩
  rw [hread, if_neg hbare]
  exact ⟨rfl, rfl⟩

/-- Two jobs as they may be written: with the other name of the operations, an operator that is
null, a setting that names none, a field that is skipped, and no operations at all. -/
def looseText : String :=
  "[\x7b\"jobs\":[\x7b\"save\":null,\"z\":null,\"mapValues\":[\x7b\"x\":1\x7d]," ++
    "\"copyTo\":\"b\"\x7d],\"name\":\"a\",\"y\":[2]\x7d,[\x7b\"name\":\"b\"\x7d]]"

/-- The value that it is the text of, but for its two numbers. -/
def looseValue (m n : Number) : Value :=
  .array [
    .object [("jobs", .array [.object [("save", .null), ("z", .null),
        ("mapValues", .array [.object [("x", .number m)]]), ("copyTo", .string "b")]]),
      ("name", .string "a"), ("y", .array [.number n])],
    .array [.object [("name", .string "b")]]]

/-- The configuration that it is read as. -/
def loose : Config :=
  .sequence [
    .job ⟨"a", [.ofList [(.copyTo, .string "b"),
      (.mapValues, .array [.object [("x", .number (.int 1 (by decide)))]])]
      (.ofList [("z", .null)])]⟩,
    .sequence [.job ⟨"b", []⟩]]

theorem ofJson_looseText : ofJson looseText = .ok loose := by
  have htext : (looseValue (.int 1 (by decide)) (.int 2 (by decide))).text = looseText := by
    decide +kernel
  have hread (m n : Number) :
      (Draft.ofValue (looseValue m n)).value? Draft.maxDepth = some (looseValue m n) := rfl
  have hnumbers : (looseValue (.int 1 (by decide)) (.int 2 (by decide))).NumbersReadBack :=
    List.forall_mem_cons.2
      ⟨Number.readsBack_int 1 _, List.forall_mem_singleton.2 (Number.readsBack_int 2 _)⟩
  rw [← htext, ofJson_text (Draft.readable_of_value? _ (hread _ _) hnumbers)]
  rfl

theorem ofJson_toJson_loose :
    ofJson looseText = .ok loose ∧ (∀ n ∈ loose.toValue.numbers, n.ReadsBack) ∧
      ¬ loose.BareAt 126 ∧ ofJson loose.toJson = .ok loose ∧
      loose.toJson = "[\x7b\"name\":\"a\",\"ops\":[\x7b\"copyTo\":\"b\"," ++
        "\"mapValues\":[\x7b\"x\":1\x7d],\"z\":null\x7d]\x7d,[\x7b\"name\":\"b\",\"ops\":[]\x7d]]" ∧
      ofJson (nested 126).toJson = .error .malformed := by
  have hnumbers : loose.toValue.numbers = [.int 1 (by decide)] := rfl
  have hn : ∀ n ∈ loose.toValue.numbers, n.ReadsBack := by
    rw [hnumbers]
    exact List.forall_mem_singleton.2 (Number.readsBack_int 1 _)
  have hbare : ¬ loose.BareAt 126 := by simp [loose, bareAt_sequence, bareAt_job]
  have hnested : ∀ n ∈ (nested 126).toValue.numbers, n.ReadsBack := fun n hn =>
    absurd hn (List.eq_nil_iff_forall_not_mem.1 (numbers_nested 126) n)
  exact ⟨ofJson_looseText, hn, hbare,
    ((ofJson_toJson looseText loose ofJson_looseText hn).1 hbare).1, by decide +kernel,
    (ofJson_toJson _ _ ofJson_nestedText hnested).2 (bareAt_nested 126)⟩

/-- The exception: a configuration without any numbers that is not read again. -/
theorem ofJson_toJson_nested : ∃ c, ofJson (nestedText 126) = .ok c ∧ c.toValue.numbers = [] ∧
    ofJson c.toJson = .error .malformed := by
  refine ⟨nested 126, ofJson_nestedText, numbers_nested 126, ?_⟩
  rw [toJson, ofJson_text (legible_nested 126).readable]
  exact (legible_nested 126).ofDraft_ofValue.trans (if_pos (bareAt_nested 126))

end Config

end Reshape
