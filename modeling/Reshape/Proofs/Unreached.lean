import Reshape.Proofs.RecordsOnly

/-!
# What happens to plain values

Some operators do one thing to objects and another one to plain values, which they leave as they
are. Here the operators may do anything to plain values. Where all elements of all collections are
records it makes no difference what that is, so that it is never done.

* `Value.mapFieldsOr`, `Merge.overlayOr`: changes of objects that treat plain values otherwise, and
  the operators with these in place of those that they have (`Operator.changeOr`, `Step.runOr`).
* `Collection.Spared`: a collection in which no plain value is treated otherwise.
* `Operator.changeOr_eq`: the operators where all collections are spared.
* `Step.runOr_id`: if plain values are left as they are, the steps are what they are.
* `Config.run_recordsOnly`: runs on collections of records.
-/

namespace Reshape

variable (other : Value → Value)

/-! ## Operators that treat plain values otherwise -/

/-- Changes the fields of an object; plain values are treated otherwise. -/
def Value.mapFieldsOr (f : Record → Record) : Value → Value
  | .object fields => .object (f fields)
  | v => other v

/-- All changes of records, each made to all of them before the next one. -/
def Collection.reviseOr (fs : List (Record → Record)) (c : Collection) : Collection :=
  fs.foldl (fun c f => c.map (·.mapFieldsOr other f)) c

namespace Clone

def blockOr (field : String) (filter values : List Value) (v : Value) : List Value :=
  v :: if Value.elem filter (v.field? field) then
    values.map fun x => v.mapFieldsOr other (·.insert field x) else []

def recordsOr (s : Store) (job : String) (raw : Value) : Except Cause Collection := do
  let params ← Operator.cloneObjects.readWith (Shape.readRecord struct) raw
  let field ← params.required "field"
  let c ← s.find job
  let filter ← params.requiredList s "filter"
  let values ← params.requiredList s "values"
  return c.flatMap (blockOr other field filter values)

end Clone

namespace Merge

/-- The record with the fields of another one; if either is a plain value, the one is treated
otherwise. -/
def overlayOr (a b : Value) : Value :=
  match a, b with
  | .object r, .object fields => .object (fields.foldl (fun r f => Record.insert r f.1 f.2) r)
  | a, _ => other a

def absorbOr (keys : List String) (c : Collection) (incoming : Value) : Collection :=
  c.map fun v => if keysMatch keys v incoming then overlayOr other v incoming else v

def mergeAllOr (keys : List String) (c : Collection) : List Value → Collection × Collection
  | [] => (c, [])
  | incoming :: rest =>
    let (merged, unmatched) := mergeAllOr keys (absorbOr other keys c incoming) rest
    (merged, if c.any (keysMatch keys · incoming) then unmatched else incoming :: unmatched)

def mergeOr (keys : List String) (strict : Bool) (c incoming : Collection) : Collection :=
  let (merged, unmatched) := mergeAllOr other keys c incoming
  if strict then merged else merged ++ unmatched

def recordsOr (s : Store) (job : String) (raw : Value) : Except Cause Collection := do
  let params ← Operator.mergeObjects.readWith (Shape.readRecord struct) raw
  let name ← params.required "name"
  let keys ← readKeys params
  let strict := ((params.get? "strict").getD .null).truthy
  let c ← s.find job
  let incoming ← s.find name
  return mergeOr other keys strict c incoming

end Merge

/-- What an operator changes that treats plain values otherwise. -/
def Operator.changeOr (setting : Setting) (job : String) (raw : Value) (s : Session) :
    Operator → Except Cause Change
  | .cloneObjects => return .put job (← Clone.recordsOr other s.store job raw)
  | .filterFields => do
    let (mode, names) ← Filter.fields s.store job raw
    return .put job (.reviseOr other [Filter.restrict mode names] (← s.store.find job))
  | .mapFields => do
    let ms ← Renaming.renamings s.store job raw
    return .put job (.reviseOr other (ms.map Renaming.apply) (← s.store.find job))
  | .mapValues => do
    let rs ← Revision.revisions setting.mappers s.store job raw
    return .put job (.reviseOr other (rs.map fun r fields => r.apply fields) (← s.store.find job))
  | .mergeObjects => return .put job (← Merge.recordsOr other s.store job raw)
  | o => o.change setting job raw s

/-- A step of such an operator. -/
def Step.runOr (setting : Setting) (p : Step) : Run Unit := fun s =>
  let files := p.operator.filesAfter setting p.job p.raw s
  match p.operator.changeOr other setting p.job p.raw s with
  | .ok c => (.ok (), ⟨c.store s.store, files,
      s.log ++ c.entries ++ [Operator.doneEntry p.operator p.job (c.store s.store)]⟩)
  | .error e => (.error ⟨p.job, p.operator, e⟩, { s with files })

/-! ## Collections without plain values -/

variable {other}

/-- Either plain values are left as they are, or there are none in the collection. -/
def Collection.Spared (other : Value → Value) (c : Collection) : Prop :=
  (∀ v, other v = v) ∨ ∀ v ∈ c, v.isObject = true

theorem Value.isObject_mapFields (f : Record → Record) (v : Value) :
    (v.mapFields f).isObject = v.isObject := by
  cases v <;> rfl

namespace Collection.Spared

variable {c incoming : Collection} {v w : Value}

theorem mapFieldsOr_eq (hc : c.Spared other) (hv : v ∈ c) (f : Record → Record) :
    v.mapFieldsOr other f = v.mapFields f := by
  rcases hc with hother | hobj
  · cases v with
    | object r => rfl
    | _ => exact hother _
  · cases v with
    | object r => rfl
    | _ => cases hobj _ hv

theorem map (hc : c.Spared other) {f : Value → Value} (hf : ∀ v, (f v).isObject = v.isObject) :
    Collection.Spared other (c.map f) := by
  refine hc.imp_right fun hobj => List.forall_mem_map.2 fun v hv => ?_
  rw [hf]
  exact hobj v hv

theorem reviseOr_eq (hc : c.Spared other) (fs : List (Record → Record)) :
    c.reviseOr other fs = c.revise fs := by
  induction fs generalizing c with
  | nil => rfl
  | cons f fs ih =>
    have hfirst : c.map (·.mapFieldsOr other f) = c.map (·.mapFields f) :=
      List.map_congr_left fun v hv => hc.mapFieldsOr_eq hv f
    rw [reviseOr, List.foldl_cons, hfirst]
    exact ih (hc.map (Value.isObject_mapFields f))

theorem cloneAllOr_eq (hc : c.Spared other) (field : String) (filter values : List Value) :
    c.flatMap (Clone.blockOr other field filter values) =
      Clone.cloneAll field filter values c := by
  refine List.flatMap_congr fun v hv => ?_
  have hvariants : (values.map fun x => v.mapFieldsOr other (·.insert field x)) =
      values.map (Clone.variant field v) :=
    List.map_congr_left fun x _ => hc.mapFieldsOr_eq hv _
  rw [Clone.blockOr, hvariants, Clone.block]

theorem overlayOr_eq (hc : c.Spared other) (hincoming : incoming.Spared other) (hv : v ∈ c)
    (hw : w ∈ incoming) : Merge.overlayOr other v w = Merge.overlay v w := by
  have hplain (h : v.isObject = false ∨ w.isObject = false) : other v = v := by
    rcases hc with hother | hc
    · exact hother v
    rcases hincoming with hother | hincoming
    · exact hother v
    · rw [hc v hv, hincoming w hw] at h
      rcases h with h | h <;> cases h
  cases v with
  | object r =>
    cases w with
    | object fields => rfl
    | _ => exact hplain (.inr rfl)
  | _ => exact hplain (.inl rfl)

theorem mergeAllOr_eq (hc : c.Spared other) (hincoming : incoming.Spared other)
    (keys : List String) :
    Merge.mergeAllOr other keys c incoming = Merge.mergeAll keys c incoming := by
  induction incoming generalizing c with
  | nil => rfl
  | cons w rest ih =>
    have habsorb : Merge.absorbOr other keys c w = Merge.absorb keys c w := by
      refine List.map_congr_left fun v hv => ?_
      rw [hc.overlayOr_eq hincoming hv List.mem_cons_self]
    have hrest : Collection.Spared other rest :=
      hincoming.imp_right fun h v hv => h v (List.mem_cons_of_mem w hv)
    have hmerged : Collection.Spared other (Merge.absorb keys c w) := by
      refine hc.map fun v => ?_
      split
      · exact Merge.isObject_overlay v w
      · rfl
    rw [Merge.mergeAllOr, Merge.mergeAll, habsorb, ih hmerged hrest]

end Collection.Spared

/-! ## Operators -/

section Operators

variable {s : Store}

theorem Store.spared_find (hs : ∀ name c, s.get? name = some c → Collection.Spared other c)
    {name : String} {c : Collection} (h : s.find name = .ok c) : Collection.Spared other c :=
  hs name c (Store.find_eq_ok.1 h)

theorem Clone.recordsOr_eq (hs : ∀ name c, s.get? name = some c → Collection.Spared other c)
    (job : String) (raw : Value) : Clone.recordsOr other s job raw = Clone.records s job raw := by
  refine bind_congr_ok fun params _ => bind_congr_ok fun field _ => bind_congr_ok fun c hc =>
    bind_congr_ok fun filter _ => bind_congr_ok fun values _ => ?_
  exact congrArg Except.ok ((Store.spared_find hs hc).cloneAllOr_eq field filter values)

theorem Merge.recordsOr_eq (hs : ∀ name c, s.get? name = some c → Collection.Spared other c)
    (job : String) (raw : Value) : Merge.recordsOr other s job raw = Merge.records s job raw := by
  refine bind_congr_ok fun params _ => bind_congr_ok fun name _ => bind_congr_ok fun keys _ =>
    bind_congr_ok fun c hc => bind_congr_ok fun incoming hincoming => ?_
  have hall := (Store.spared_find hs hc).mergeAllOr_eq (Store.spared_find hs hincoming) keys
  rw [mergeOr, hall, merge]

variable {session : Session}

/-- Where all collections are spared, an operator changes what it does anyway. -/
theorem Operator.changeOr_eq
    (hs : ∀ name c, session.store.get? name = some c → Collection.Spared other c)
    (setting : Setting) (job : String) (raw : Value) (o : Operator) :
    o.changeOr other setting job raw session = o.change setting job raw session := by
  have hrevise (fs : List (Record → Record)) :
      (do return Change.put job (.reviseOr other fs (← session.store.find job)) :
        Except Cause Change) =
      (do return Change.put job (.revise fs (← session.store.find job))) :=
    bind_congr_ok fun c hc => by rw [(Store.spared_find hs hc).reviseOr_eq fs]
  cases o with
  | cloneObjects => rw [changeOr, change, Clone.recordsOr_eq hs]
  | mergeObjects => rw [changeOr, change, Merge.recordsOr_eq hs]
  | filterFields => exact bind_congr_ok fun p _ => hrevise _
  | mapFields => exact bind_congr_ok fun ms _ => hrevise _
  | mapValues => exact bind_congr_ok fun rs _ => hrevise _
  | _ => rfl

end Operators

namespace Step

variable {setting : Setting} {s : Session}

theorem runOr_of_spared (hs : ∀ name c, s.store.get? name = some c → Collection.Spared other c)
    (p : Step) : p.runOr other setting s = p.run setting s := by
  have hrun := Operator.run_eq setting p.job p.raw p.operator s
  rw [← Operator.changeOr_eq hs] at hrun
  exact hrun.symm

/-- If plain values are left as they are, a step is what it is. -/
theorem runOr_id (setting : Setting) (p : Step) : p.runOr (fun v => v) setting = p.run setting := by
  funext s
  exact runOr_of_spared (fun _ _ _ => .inl fun _ => rfl) p

/-- On collections of records it makes no difference how plain values are treated. -/
theorem runOr_of_recordsOnly (other : Value → Value) (hs : s.RecordsOnly) (p : Step) :
    p.runOr other setting s = p.run setting s :=
  runOr_of_spared (fun name c hc => .inr fun v hv => (hs.store name c hc v hv).1) p

theorem forM_runOr (other : Value → Value) {ps : List Step} (hps : ∀ p ∈ ps, p.KeepsRecords)
    (hload : AllLoadObjects setting ps s) (hm : setting.mappers.Lawful) (hs : s.RecordsOnly) :
    forM ps (Step.runOr other setting) s = forM ps (Step.run setting) s := by
  refine Attempt.forM_congr_reached fun done p t hdone hrun => runOr_of_recordsOnly other ?_ p
  exact recordsOnly_of_reached hps hload hm hs ((List.prefix_append done [p]).trans hdone) hrun

end Step

namespace Config

/-- **Collections of records stay collections of records**: after every step that is finished, and
in the end also if a step fails, the elements of all collections are objects, and no two fields of
an object have one name. So the steps might treat plain values otherwise than they do
(`Step.runOr_id`), and the run would be the same. -/
theorem run_recordsOnly : ∀ (setting : Setting) (c : Config) (s : Session),
    setting.mappers.Lawful → s.RecordsOnly → (∀ p ∈ c.steps, p.KeepsRecords) →
    Step.AllLoadObjects setting c.steps s →
      (∀ done t, done <+: c.steps → forM done (Step.run setting) s = (.ok (), t) →
        t.store.RecordsOnly) ∧
      (c.run setting s).2.store.RecordsOnly ∧
      ∀ other, forM c.steps (Step.runOr other setting) s = forM c.steps (Step.run setting) s := by
  intro setting c s hm hs hsteps hload
  refine ⟨fun done t hdone hrun => ?_, ?_, fun other => Step.forM_runOr other hsteps hload hm hs⟩
  · exact (Step.recordsOnly_of_reached hsteps hload hm hs hdone hrun).store
  · obtain ⟨-, hstore, -⟩ := c.run_alike setting s s (.refl s)
    rw [hstore, Attempt.session_of_return]
    exact (Step.recordsOnly_forM hsteps hload hm hs).store

/-- A JSON text in which one record has a field twice. -/
def recordFile : Files :=
  ⟨Catalog.empty.insert "in.json"
    (.text "[\x7b\"k\":\"x\"\x7d,\x7b\"k\":\"y\",\"k\":\"z\"\x7d]"), [], []⟩

theorem read_recordFile (selection : Records.Selection) :
    Records.read recordFile "in.json" selection =
      .ok [.object [("k", .string "x")], .object [("k", .string "z")]] := by
  have hpath : "in.json".contains '\x00' = false := by simp
  have hjson : Records.isJson "in.json" = true := by decide +kernel
  have htext : recordFile.text? "in.json" =
      some "[\x7b\"k\":\"x\"\x7d,\x7b\"k\":\"y\",\"k\":\"z\"\x7d]" := by
    simp only [Files.text?, Files.find?, Files.locate, Files.locateParts, hpath]
    decide +kernel
  rw [Records.read, if_pos hjson, Records.readJson, htext]
  decide +kernel

/-- A collection of records and the file. -/
def recordSession : Session :=
  ⟨Catalog.empty.insert "b" [.object [("k", .string "x"), ("n", .null)]], recordFile, []⟩

/-- Loads the file, clones its records, merges the collection and groups what results. Then it looks
for a collection that is missing. -/
def loadAndMerge : Config :=
  .sequence [.job ⟨"a", [.single .load (Transfer.parameters "in.json" none),
      .single .cloneObjects (.object [("field", .string "k"), ("filter", .array [.string "z"]),
        ("values", .array [.string "w"])]),
      .single .mergeObjects (.object [("name", .string "b"), ("key", .array [.string "k"])]),
      .single .aggregate (.object [("aggregatedField", .string "n"),
        ("aggregationField", .string "k"), ("name", .string "c")])]⟩,
    .job ⟨"d", [.single .copyTo (.string "a")]⟩]

theorem recordsOnly_recordSession : recordSession.RecordsOnly := by
  constructor
  · refine Store.RecordsOnly.insert (fun name c hc => ?_) "b" (by decide)
    rw [Catalog.get?_empty] at hc
    cases hc
  · intro k c w hc hw
    have hentry : (Catalog.empty.insert "in.json" (Content.text _)).get? k = _ := hc
    rw [Catalog.get?_insert, Catalog.get?_empty] at hentry
    split at hentry <;> cases hentry
    cases hw

theorem run_recordsOnly_loadAndMerge :
    (∀ p ∈ loadAndMerge.steps, p.KeepsRecords) ∧
    (loadAndMerge.run ⟨none, .empty⟩ recordSession).2.store.RecordsOnly ∧
    ∀ other, forM loadAndMerge.steps (Step.runOr other ⟨none, .empty⟩) recordSession =
      forM loadAndMerge.steps (Step.run ⟨none, .empty⟩) recordSession := by
  have hm : Mappers.Lawful .empty := by
    intro name f hf
    rw [Catalog.get?_empty] at hf
    cases hf
  have hsteps : ∀ p ∈ loadAndMerge.steps, p.KeepsRecords := by decide
  have hload : Step.AllLoadObjects ⟨none, .empty⟩ loadAndMerge.steps recordSession := by
    refine Step.AllLoadObjects.of_head (fun _ d entry hd => ?_) (by decide)
    have hread : Transfer.records none recordFile "a" (Transfer.parameters "in.json" none) = _ :=
      Transfer.records_parameters (read_recordFile _)
    obtain ⟨rfl, -⟩ := Prod.mk.inj (Except.ok.inj (hread.symm.trans hd))
    decide
  have hrun := run_recordsOnly ⟨none, .empty⟩ loadAndMerge recordSession hm
    recordsOnly_recordSession hsteps hload
  exact ⟨hsteps, hrun.2⟩

end Config

end Reshape
