import Reshape.Proofs.Lawful
import Reshape.Proofs.Loading
import Reshape.Proofs.Overlooking
import Reshape.Proofs.Steps

/-!
# Collections of records

Where all elements of all collections are objects, they stay objects whatever operators are run,
`copyToArray` aside and provided that what is loaded are objects. No fields of theirs become
ambiguous.

* `Shape.unambiguous_readRecord`, `Store.RecordsOnly.resolve`: what parameters give.
* `Value.IsRecord`, `Store.RecordsOnly`: records, and stores of them.
* `Operator.recordsOnly_change`: what an operator changes.
* `Step.recordsOnly_run`, `Step.recordsOnly_forM`: a step, and a run of steps.
-/

namespace Reshape

/-! ## Records -/

/-- An object without ambiguous fields. -/
def Value.IsRecord (v : Value) : Prop := v.isObject = true ∧ v.Unambiguous

instance (v : Value) : Decidable v.IsRecord := inferInstanceAs (Decidable (_ ∧ _))

namespace Value.IsRecord

variable {v w : Value}

theorem mapFields {f : Record → Record} (h : v.IsRecord) (hf : Mapper.Lawful f) :
    (v.mapFields f).IsRecord := by
  obtain ⟨hobj, hv⟩ := h
  cases v with
  | object r => exact ⟨rfl, hf r hv⟩
  | _ => cases hobj

theorem overlay (hv : v.IsRecord) (hw : w.IsRecord) : (Merge.overlay v w).IsRecord :=
  ⟨(Merge.isObject_overlay v w).trans hv.1, Merge.unambiguous_overlay hv.2 hw.2⟩

end Value.IsRecord

/-- All elements of the collection are records. -/
def Collection.RecordsOnly (c : Collection) : Prop := ∀ v ∈ c, v.IsRecord

instance (c : Collection) : Decidable c.RecordsOnly :=
  inferInstanceAs (Decidable (∀ v ∈ c, v.IsRecord))

/-- All elements of all collections are records. -/
def Store.RecordsOnly (s : Store) : Prop := ∀ name c, s.get? name = some c → c.RecordsOnly

/-! ## Parameters -/

theorem Shape.unambiguous_pairFields {st : Shape.Struct} {length n : Nat} {fs : List Shape.Field}
    {vs : List Value} {r : Record} (h : Shape.pairFields st length n fs vs = .ok r)
    (hvs : ∀ v ∈ vs, v.Unambiguous) : ∀ f ∈ r, f.2.Unambiguous := by
  induction fs generalizing n vs r with
  | nil =>
    cases vs with
    | nil =>
      cases h
      exact List.forall_mem_nil _
    | cons v vs => cases h
  | cons f fs ih =>
    cases vs with
    | nil =>
      rw [pairFields] at h
      split at h
      · exact ih h (List.forall_mem_nil _)
      · cases h
    | cons v vs =>
      obtain ⟨hv, hvs⟩ := List.forall_mem_cons.1 hvs
      rw [pairFields] at h
      split at h
      · cases h
      split at h
      · cases h
      · rename_i hr
        cases h
        exact List.forall_mem_cons.2 ⟨hv, ih hr hvs⟩

/-- The parameters of an operator are values of what is given. -/
theorem Shape.unambiguous_readRecord {st : Shape.Struct} {raw : Value} {r : Record}
    (h : Shape.readRecord st raw = .ok r) (hraw : raw.Unambiguous) : ∀ f ∈ r, f.2.Unambiguous := by
  cases raw with
  | object fields =>
    rw [readRecord] at h
    split at h
    · cases h
    split at h
    · cases h
    · cases h
      exact (Value.Unambiguous.object_iff.1 hraw).2
  | array items => exact unambiguous_pairFields h (Value.Unambiguous.array_iff.1 hraw)
  | _ => cases h

theorem Record.unambiguous_value? {r : Record} (h : ∀ f ∈ r, f.2.Unambiguous) {k : String}
    {v : Value} (hv : r.value? k = some v) : v.Unambiguous := by
  rw [value?] at hv
  split at hv
  · cases hv
  · cases hv
  · rename_i _ hget
    cases hv
    exact h _ (mem_of_lookup hget)

/-- What is made of a list element by element comes from its elements. -/
theorem exists_of_mem_mapM_ok {ε α β : Type} {f : α → Except ε β} {as : List α} {bs : List β}
    (h : as.mapM f = .ok bs) : ∀ b ∈ bs, ∃ a ∈ as, f a = .ok b := by
  induction as generalizing bs with
  | nil =>
    cases h
    nofun
  | cons a as ih =>
    rw [List.mapM_cons] at h
    obtain ⟨b, hb, h⟩ := bind_eq_ok.1 h
    obtain ⟨cs, hcs, h⟩ := bind_eq_ok.1 h
    cases h
    refine List.forall_mem_cons.2 ⟨⟨a, List.mem_cons_self, hb⟩, fun c hc => ?_⟩
    obtain ⟨a', ha', hc'⟩ := ih hcs c hc
    exact ⟨a', List.mem_cons_of_mem a ha', hc'⟩

namespace Store.RecordsOnly

variable {s : Store} {v : Value} {param : String}

theorem find (hs : s.RecordsOnly) {name : String} {c : Collection} (h : s.find name = .ok c) :
    c.RecordsOnly :=
  hs name c (Store.find_eq_ok.1 h)

theorem insert (hs : s.RecordsOnly) (name : String) {c : Collection} (hc : c.RecordsOnly) :
    RecordsOnly (Catalog.insert s name c) := by
  intro n d hd
  rw [Catalog.get?_insert] at hd
  split at hd
  · cases hd
    exact hc
  · exact hs n d hd

theorem getD (hs : s.RecordsOnly) (name : String) :
    Collection.RecordsOnly ((s.get? name).getD []) := by
  cases h : s.get? name with
  | none => nofun
  | some c => exact hs name c h

/-- A list is given literally or by the name of a collection of records. -/
theorem resolve (hs : s.RecordsOnly) (hv : v.Unambiguous) {items : List Value}
    (h : (Reference.ofValue v).resolve s param = .ok items) : ∀ w ∈ items, w.Unambiguous := by
  cases v with
  | string name => exact fun w hw => (hs.find h w hw).2
  | array values =>
    cases h
    exact Value.Unambiguous.array_iff.1 hv
  | _ => cases h

theorem resolveAs (hs : s.RecordsOnly) (hv : v.Unambiguous) {α : Type} {expected : String}
    {read? : Value → Option α} {as : List α}
    (h : (Reference.ofValue v).resolveAs s param expected read? = .ok as) :
    ∀ a ∈ as, ∃ w : Value, w.Unambiguous ∧ read? w = some a := by
  rw [Reference.resolveAs] at h
  split at h
  · cases h
  rename_i items hitems
  split at h
  · rename_i hread
    cases h
    intro a ha
    obtain ⟨w, hw, hwa⟩ := exists_of_mem_mapM hread a ha
    exact ⟨w, hs.resolve hv hitems w hw, hwa⟩
  · cases h

theorem requiredList (hs : s.RecordsOnly) {r : Record} (hr : ∀ f ∈ r, f.2.Unambiguous)
    {items : List Value} (h : r.requiredList s param = .ok items) :
    ∀ w ∈ items, w.Unambiguous := by
  rw [Record.requiredList] at h
  split at h
  · rename_i hv
    exact hs.resolve (Record.unambiguous_value? hr hv) h
  · cases h

end Store.RecordsOnly

/-! ## Operators -/

section Operators

variable {s : Store} {job : String} {raw : Value} {c : Collection}

theorem Clone.recordsOnly_records (hs : s.RecordsOnly) (hraw : raw.Unambiguous)
    (h : Clone.records s job raw = .ok c) : c.RecordsOnly := by
  obtain ⟨params, hparams, h⟩ := bind_eq_ok.1 h
  obtain ⟨field, -, h⟩ := bind_eq_ok.1 h
  obtain ⟨d, hd, h⟩ := bind_eq_ok.1 h
  obtain ⟨filter, -, h⟩ := bind_eq_ok.1 h
  obtain ⟨values, hvalues, h⟩ := bind_eq_ok.1 h
  cases h
  have hparams := Shape.unambiguous_readRecord (Operator.readWith_eq_ok.1 hparams) hraw
  have hvalues := hs.requiredList hparams hvalues
  have hd := hs.find hd
  intro v hv
  obtain ⟨w, hw, hv⟩ := List.mem_flatMap.1 hv
  rw [block] at hv
  rcases List.mem_cons.1 hv with rfl | hv
  · exact hd v hw
  · split at hv
    · obtain ⟨x, hx, rfl⟩ := List.mem_map.1 hv
      exact (hd w hw).mapFields fun r hr => hr.insert (hvalues x hx) field
    · cases hv

theorem Filter.recordsOnly_records (hs : s.RecordsOnly) (h : Filter.records s job raw = .ok c) :
    c.RecordsOnly := by
  obtain ⟨predicates, -, h⟩ := bind_eq_ok.1 h
  obtain ⟨d, hd, h⟩ := bind_eq_ok.1 h
  obtain ⟨rules, -, h⟩ := bind_eq_ok.1 h
  cases h
  exact fun v hv => hs.find hd v (List.mem_filter.1 hv).1

theorem Copy.recordsOnly_records (hs : s.RecordsOnly) {target : String}
    (h : Copy.records s job raw = .ok (target, c)) : c.RecordsOnly := by
  obtain ⟨name, -, h⟩ := bind_eq_ok.1 h
  obtain ⟨d, hd, h⟩ := bind_eq_ok.1 h
  cases h
  exact hs.find hd

/-- Changes that keep records without ambiguous fields keep collections of them. -/
theorem Collection.RecordsOnly.revise {fs : List (Record → Record)} (hc : c.RecordsOnly)
    (hfs : ∀ f ∈ fs, Mapper.Lawful f) : (Collection.revise fs c).RecordsOnly := by
  induction fs generalizing c with
  | nil => exact hc
  | cons f fs ih =>
    obtain ⟨hf, hfs⟩ := List.forall_mem_cons.1 hfs
    refine ih (fun v hv => ?_) hfs
    obtain ⟨w, hw, rfl⟩ := List.mem_map.1 hv
    exact (hc w hw).mapFields hf

theorem Revision.lawful_revisions {mappers : Mappers} (hm : mappers.Lawful) (hs : s.RecordsOnly)
    (hraw : raw.Unambiguous) {rs : List Revision}
    (h : Revision.revisions mappers s job raw = .ok rs) :
    ∀ r ∈ rs, Mapper.Lawful fun fields => Revision.apply fields r := by
  obtain ⟨d, -, h⟩ := bind_eq_ok.1 h
  obtain ⟨entries, hentries, h⟩ := bind_eq_ok.1 h
  intro r hr
  obtain ⟨e, he, her⟩ := exists_of_mem_mapM_ok h r hr
  obtain ⟨v, hv, hve⟩ := hs.resolveAs hraw hentries e he
  exact lawful_apply hm (Entry.unambiguous_ofValue? hv hve) her

theorem Merge.recordsOnly_mergeAll (keys : List String) {incoming : Collection}
    (hc : c.RecordsOnly) (hincoming : incoming.RecordsOnly) :
    Collection.RecordsOnly (Merge.mergeAll keys c incoming).1 ∧
      Collection.RecordsOnly (Merge.mergeAll keys c incoming).2 := by
  induction incoming generalizing c with
  | nil => exact ⟨hc, nofun⟩
  | cons w incoming ih =>
    obtain ⟨hw, hincoming⟩ := List.forall_mem_cons.1 hincoming
    have habsorb : Collection.RecordsOnly (absorb keys c w) := by
      intro v hv
      obtain ⟨u, hu, rfl⟩ := List.mem_map.1 hv
      split
      · exact (hc u hu).overlay hw
      · exact hc u hu
    obtain ⟨hmerged, hunmatched⟩ := ih habsorb hincoming
    rw [mergeAll]
    refine ⟨hmerged, ?_⟩
    dsimp only
    split
    · exact hunmatched
    · exact List.forall_mem_cons.2 ⟨hw, hunmatched⟩

theorem Merge.recordsOnly_records (hs : s.RecordsOnly) (h : Merge.records s job raw = .ok c) :
    c.RecordsOnly := by
  obtain ⟨other, keys, strict, d, incoming, -, hd, hincoming, rfl⟩ := Merge.records_eq_ok.1 h
  obtain ⟨hmerged, hunmatched⟩ :=
    recordsOnly_mergeAll keys (hs job d hd) (hs other incoming hincoming)
  rw [merge]
  dsimp only
  split
  · exact hmerged
  · exact List.forall_mem_append.2 ⟨hmerged, hunmatched⟩

/-- No fields of the values in a group are ambiguous. -/
def Grouping.Group.Unambiguous (g : Grouping.Group) : Prop :=
  g.key.Unambiguous ∧ ∀ v ∈ g.values, v.Unambiguous

theorem Grouping.unambiguous_add {gs : List Grouping.Group} (hgs : ∀ g ∈ gs, g.Unambiguous)
    {key value : Value} (hkey : key.Unambiguous) (hvalue : value.Unambiguous) (name : String) :
    ∀ g ∈ Grouping.add name key value gs, g.Unambiguous := by
  induction gs with
  | nil => exact List.forall_mem_singleton.2 ⟨hkey, List.forall_mem_singleton.2 hvalue⟩
  | cons g gs ih =>
    obtain ⟨hg, hgs⟩ := List.forall_mem_cons.1 hgs
    rw [add]
    split
    · refine List.forall_mem_cons.2 ⟨⟨hg.1, ?_⟩, hgs⟩
      exact List.forall_mem_append.2 ⟨hg.2, List.forall_mem_singleton.2 hvalue⟩
    · exact List.forall_mem_cons.2 ⟨hg, ih hgs⟩

theorem Grouping.unambiguous_groups {pairs : List (Value × Value)}
    (h : ∀ p ∈ pairs, p.1.Unambiguous ∧ p.2.Unambiguous) :
    ∀ g ∈ Grouping.groups pairs, g.Unambiguous := by
  have fold (gs : List Grouping.Group) (hgs : ∀ g ∈ gs, g.Unambiguous) :
      ∀ g ∈ pairs.foldl (fun gs p => add (label p.1) p.1 p.2 gs) gs, g.Unambiguous := by
    induction pairs generalizing gs with
    | nil => exact hgs
    | cons p pairs ih =>
      obtain ⟨hp, hpairs⟩ := List.forall_mem_cons.1 h
      exact ih hpairs _ (unambiguous_add hgs hp.1 hp.2 _)
  exact fold [] nofun

theorem Grouping.unambiguous_contributions (hc : c.RecordsOnly) (aggregated aggregation : String) :
    ∀ p ∈ Grouping.contributions aggregated aggregation c,
      p.1.Unambiguous ∧ p.2.Unambiguous := by
  intro p hp
  obtain ⟨v, hv, hp⟩ := List.mem_flatMap.1 hp
  have hfield {k : String} {w : Value} : v.field? k = some w → w.Unambiguous :=
    (hc v hv).2.of_field?
  rw [contribution] at hp
  split at hp
  · cases hp
  · rename_i key hkey
    obtain ⟨w, hw, rfl⟩ := List.mem_map.1 hp
    refine ⟨?_, .getD fun _ => hfield⟩
    cases key with
    | array items => exact Value.Unambiguous.array_iff.1 (hfield hkey) w hw
    | _ =>
      obtain rfl := List.mem_singleton.1 hw
      exact hfield hkey

theorem Grouping.recordsOnly_records (hs : s.RecordsOnly) {target : String} {entries : Log}
    (h : Grouping.records s job raw = .ok (target, c, entries)) : c.RecordsOnly := by
  obtain ⟨params, -, h⟩ := bind_eq_ok.1 h
  obtain ⟨aggregated, -, h⟩ := bind_eq_ok.1 h
  obtain ⟨aggregation, -, h⟩ := bind_eq_ok.1 h
  obtain ⟨d, hd, h⟩ := bind_eq_ok.1 h
  cases h
  intro v hv
  obtain ⟨g, hg, rfl⟩ := List.mem_map.1 hv
  obtain ⟨hkey, hvalues⟩ :=
    unambiguous_groups (unambiguous_contributions (hs.find hd) aggregated aggregation) g hg
  have hfirst : (Value.object [(aggregation, g.key)]).Unambiguous :=
    Value.Unambiguous.object_iff.2
      ⟨List.nodup_singleton _, List.forall_mem_singleton.2 hkey⟩
  exact ⟨rfl, hfirst.insert (Value.Unambiguous.array_iff.2 hvalues) aggregated⟩

theorem Transfer.ofTable_eq_ok {α : Type} {x : Except TableError α} {a : α} :
    Transfer.ofTable x = .ok a ↔ x = .ok a := by
  cases x <;> simp [ofTable]

theorem Transfer.unambiguous_records {base : Option String} {files : Files}
    (hfiles : files.Unambiguous) {entry : LogEntry}
    (h : Transfer.records base files job raw = .ok (c, entry)) : ∀ v ∈ c, v.Unambiguous := by
  obtain ⟨params, -, h⟩ := bind_eq_ok.1 h
  obtain ⟨path, -, h⟩ := bind_eq_ok.1 h
  obtain ⟨d, hd, h⟩ := bind_eq_ok.1 h
  cases h
  exact Records.unambiguous_read hfiles (ofTable_eq_ok.1 hd)

end Operators

/-- All elements of all collections are records, and no fields in cells of workbooks are
ambiguous. -/
structure Session.RecordsOnly (s : Session) : Prop where
  store : s.store.RecordsOnly
  files : s.files.Unambiguous

namespace Operator

variable {setting : Setting} {job : String} {raw : Value} {s : Session} {o : Operator}

/-- **An operator keeps collections of records**, whatever it sets. -/
theorem recordsOnly_change {c : Change} (ho : o ≠ .copyToArray)
    (hload : o = .load → ∀ d entry, Transfer.records setting.base s.files job raw = .ok (d, entry) →
      ∀ v ∈ d, v.isObject = true)
    (hm : setting.mappers.Lawful) (hraw : raw.Unambiguous) (hs : s.RecordsOnly)
    (h : o.change setting job raw s = .ok c) : (c.store s.store).RecordsOnly := by
  cases o with
  | load =>
    obtain ⟨⟨d, entry⟩, hd, h⟩ := bind_eq_ok.1 h
    cases h
    have hunambiguous := Transfer.unambiguous_records hs.files hd
    exact hs.store.insert job fun v hv => ⟨hload rfl d entry hd v hv, hunambiguous v hv⟩
  | copyTo =>
    obtain ⟨⟨target, d⟩, hd, h⟩ := bind_eq_ok.1 h
    cases h
    exact hs.store.insert target
      (List.forall_mem_append.2 ⟨hs.store.getD target, Copy.recordsOnly_records hs.store hd⟩)
  | cloneObjects =>
    obtain ⟨d, hd, h⟩ := bind_eq_ok.1 h
    cases h
    exact hs.store.insert job (Clone.recordsOnly_records hs.store hraw hd)
  | filterObjects =>
    obtain ⟨d, hd, h⟩ := bind_eq_ok.1 h
    cases h
    exact hs.store.insert job (Filter.recordsOnly_records hs.store hd)
  | filterFields =>
    obtain ⟨⟨mode, names⟩, -, h⟩ := bind_eq_ok.1 h
    obtain ⟨d, hd, h⟩ := bind_eq_ok.1 h
    cases h
    exact hs.store.insert job ((hs.store.find hd).revise
      (List.forall_mem_singleton.2 (Filter.lawful_restrict mode names)))
  | mapFields =>
    obtain ⟨ms, -, h⟩ := bind_eq_ok.1 h
    obtain ⟨d, hd, h⟩ := bind_eq_ok.1 h
    cases h
    exact hs.store.insert job ((hs.store.find hd).revise
      (List.forall_mem_map.2 fun m _ => m.lawful_apply))
  | mapValues =>
    obtain ⟨rs, hrs, h⟩ := bind_eq_ok.1 h
    obtain ⟨d, hd, h⟩ := bind_eq_ok.1 h
    cases h
    exact hs.store.insert job ((hs.store.find hd).revise
      (List.forall_mem_map.2 (Revision.lawful_revisions hm hs.store hraw hrs)))
  | copyToArray => exact absurd rfl ho
  | mergeObjects =>
    obtain ⟨d, hd, h⟩ := bind_eq_ok.1 h
    cases h
    exact hs.store.insert job (Merge.recordsOnly_records hs.store hd)
  | aggregate =>
    obtain ⟨⟨target, d, entries⟩, hd, h⟩ := bind_eq_ok.1 h
    cases h
    exact hs.store.insert target (Grouping.recordsOnly_records hs.store hd)
  | save =>
    obtain ⟨⟨path, sheet, d⟩, -, h⟩ := bind_eq_ok.1 h
    obtain ⟨_, -, h⟩ := bind_eq_ok.1 h
    cases h
    exact hs.store

theorem unambiguous_filesAfter (hs : s.files.Unambiguous) :
    (o.filesAfter setting job raw s).Unambiguous := by
  cases o with
  | save =>
    rw [filesAfter]
    split
    · exact Records.unambiguous_write hs _ _ _
    · exact hs
  | _ => exact hs

end Operator

/-! ## Steps -/

namespace Step

variable {setting : Setting} {s : Session}

/-- The step is not `copyToArray`, and no fields of its parameters are ambiguous, as none are in
values that were read (`Draft.unambiguous_value?`). -/
def KeepsRecords (p : Step) : Prop := p.operator ≠ .copyToArray ∧ p.raw.Unambiguous

instance (p : Step) : Decidable p.KeepsRecords := inferInstanceAs (Decidable (_ ∧ _))

/-- What the step loads are objects, if it loads. -/
def LoadsObjects (setting : Setting) (p : Step) (s : Session) : Prop :=
  p.operator = .load → ∀ d entry,
    Transfer.records setting.base s.files p.job p.raw = .ok (d, entry) → ∀ v ∈ d, v.isObject = true

/-- What a step leaves, whether it is finished or failed. -/
theorem recordsOnly_run {p : Step} (hp : p.KeepsRecords) (hload : p.LoadsObjects setting s)
    (hm : setting.mappers.Lawful) (hs : s.RecordsOnly) : (p.run setting s).2.RecordsOnly := by
  have hfiles : (p.operator.filesAfter setting p.job p.raw s).Unambiguous :=
    Operator.unambiguous_filesAfter hs.files
  rw [run, Operator.run_eq]
  cases hc : p.operator.change setting p.job p.raw s with
  | error e => exact ⟨hs.store, hfiles⟩
  | ok c => exact ⟨Operator.recordsOnly_change hp.1 hload hm hp.2 hs hc, hfiles⟩

/-- What the steps load are objects, as far as they come to it. -/
def AllLoadObjects (setting : Setting) (ps : List Step) (s : Session) : Prop :=
  ∀ done p t, done ++ [p] <+: ps → forM done (Step.run setting) s = (.ok (), t) →
    p.LoadsObjects setting t

theorem AllLoadObjects.of_prefix {ps qs : List Step} (h : AllLoadObjects setting ps s)
    (hqs : qs <+: ps) : AllLoadObjects setting qs s :=
  fun done p t hdone => h done p t (hdone.trans hqs)

/-- If only the first of the steps loads, it does not matter what the others come to. -/
theorem AllLoadObjects.of_head {p : Step} {ps : List Step} (hp : p.LoadsObjects setting s)
    (hps : ∀ q ∈ ps, q.operator ≠ .load) : AllLoadObjects setting (p :: ps) s := by
  intro done q t hdone hrun
  cases done with
  | nil =>
    obtain rfl : q = p := (List.cons_prefix_cons.1 hdone).1
    cases hrun
    exact hp
  | cons d done =>
    have hq : q ∈ ps := (List.cons_prefix_cons.1 hdone).2.subset (by simp)
    exact fun hload => absurd hload (hps q hq)

/-- **What a run of steps leaves**, whether it is finished or failed. -/
theorem recordsOnly_forM {ps : List Step} (hps : ∀ p ∈ ps, p.KeepsRecords)
    (hload : AllLoadObjects setting ps s) (hm : setting.mappers.Lawful) (hs : s.RecordsOnly) :
    (forM ps (Step.run setting) s).2.RecordsOnly := by
  refine Attempt.forM_invariant hs fun done p t hdone hrun ht => ?_
  have hp : p ∈ ps := hdone.subset (List.mem_append_right done (List.mem_singleton_self p))
  exact recordsOnly_run (hps p hp) (hload done p t hdone hrun) hm ht

/-- What the steps leave that are finished, at any time before the next one. -/
theorem recordsOnly_of_reached {ps done : List Step} {t : Session}
    (hps : ∀ p ∈ ps, p.KeepsRecords) (hload : AllLoadObjects setting ps s)
    (hm : setting.mappers.Lawful) (hs : s.RecordsOnly) (hdone : done <+: ps)
    (hrun : forM done (Step.run setting) s = (.ok (), t)) : t.RecordsOnly := by
  have hleft := recordsOnly_forM (fun p hp => hps p (hdone.subset hp)) (hload.of_prefix hdone) hm hs
  rw [hrun] at hleft
  exact hleft

end Step

end Reshape
