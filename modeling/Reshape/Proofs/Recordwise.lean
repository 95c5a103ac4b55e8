import Mathlib.Data.List.Basic
import Reshape.Proofs.Footprint

/-!
# Operators that treat every record by itself

Cloning, filtering and mapping make of a collection what they make of its records one by one. Their
parameters are read before the first record is looked at, so if these do not name the collection
itself, no record has a say in whether the operator fails.

* `Recordwise`: what becomes of a collection is what becomes of its records, or an error that does
  not depend on them (`Recordwise.after`, `Recordwise.revise`).
* `Collection.revise_eq_map`: changes made to all records, one change after another, are all changes
  made to one record after another.
* `Operator.change_recordwise`: each of the operators.
* `Operator.run_recordwise`: what they make of two lists of records, one after the other.
-/

namespace Reshape

/-- Either there is an error, the same whatever the records are, or one function tells what becomes
of each of them. -/
def Recordwise (x : Collection → Except Cause Collection) : Prop :=
  (∃ e, ∀ c, x c = .error e) ∨ ∃ f : Value → List Value, ∀ c, x c = .ok (c.flatMap f)

/-! ## One change after another -/

theorem Value.mapFields_mapFields (v : Value) (f g : Record → Record) :
    (v.mapFields f).mapFields g = v.mapFields fun r => g (f r) := by
  cases v <;> rfl

theorem Value.mapFields_id (v : Value) : v.mapFields (fun r => r) = v := by
  cases v <;> rfl

/-- Changes made to all records, one change after another, are all changes made to one record after
another. -/
theorem Collection.revise_eq_map (fs : List (Record → Record)) (c : Collection) :
    Collection.revise fs c = c.map (·.mapFields fun r => fs.foldl (fun r f => f r) r) := by
  induction fs generalizing c with
  | nil => simp [revise, Value.mapFields_id]
  | cons f fs ih =>
    have hfirst : revise (f :: fs) c = revise fs (c.map (·.mapFields f)) := rfl
    rw [hfirst, ih, List.map_map]
    exact List.map_congr_left fun v _ => Value.mapFields_mapFields v f _

/-! ## One thing asked after another -/

namespace Store

variable {job : String} {names : List String}

theorem find_insert_self (s : Store) (job : String) (c : Collection) :
    Store.find (s.insert job c) job = .ok c :=
  find_eq_ok.2 (Catalog.get?_insert_self ..)

/-- What is looked up under other names does not see the collection. -/
theorem agreeOn_insert (h : job ∉ names) (s : Store) (c : Collection) :
    AgreeOn names (s.insert job c) s :=
  fun _ hn => Catalog.get?_insert_of_ne (ne_of_mem_of_not_mem hn h) s c

end Store

namespace Recordwise

variable {α : Type} {s : Store} {job : String}

/-- What is asked first is the same whatever the records are. -/
theorem after {a : Collection → Except Cause α} {b : Except Cause α}
    {k : α → Collection → Except Cause Collection} (ha : ∀ c, a c = b)
    (h : ∀ p, b = .ok p → Recordwise (k p)) : Recordwise fun c => a c >>= (k · c) := by
  simp only [ha]
  cases b with
  | error e => exact .inl ⟨e, fun _ => rfl⟩
  | ok p => exact h p rfl

/-- The collection of the job is there. -/
theorem find {k : Collection → Collection → Except Cause Collection}
    (h : Recordwise fun c => k c c) :
    Recordwise fun c => Store.find (s.insert job c) job >>= (k · c) := by
  simp only [Store.find_insert_self]
  exact h

/-- Which changes are made is known before the records are. -/
theorem revise (s : Store) (job : String) {a : Collection → Except Cause α} {b : Except Cause α}
    (ha : ∀ c, a c = b) (changes : α → List (Record → Record)) :
    Recordwise fun c => a c >>= fun p => Store.find (s.insert job c) job >>= fun d =>
      .ok (.revise (changes p) d) := by
  refine .after ha fun p _ => .find (.inr ⟨fun v =>
    [v.mapFields fun r => (changes p).foldl (fun r f => f r) r], fun c => ?_⟩)
  change Except.ok _ = _
  rw [Collection.revise_eq_map, List.map_eq_flatMap]

end Recordwise

/-! ## Each operator -/

section Operators

variable {s : Store} {job : String} {raw : Value}

theorem Clone.records_recordwise (h : job ∉ Operator.cloneObjects.mentions raw) :
    Recordwise fun c => Clone.records (s.insert job c) job raw := by
  refine .after (fun _ => rfl) fun params hp => .after (fun _ => rfl) fun field _ => .find ?_
  have hlist {k : String} (hk : k ∈ ["filter", "values"]) (c : Collection) :
      params.requiredList (s.insert job c) k = params.requiredList s k :=
    (Shape.agreeOn_mentions (Operator.readWith_eq_ok.1 hp) (Store.agreeOn_insert h s c)
      hk).requiredList_eq
  exact .after (hlist (by simp)) fun filter _ => .after (hlist (by simp)) fun values _ =>
    .inr ⟨Clone.block field filter values, fun _ => rfl⟩

theorem Filter.keep_eq_flatMap (rules : List Rule) (c : Collection) :
    keep rules c = c.flatMap fun v => if rules.all (·.accepts v) then [v] else [] := by
  rw [keep, ← List.filterMap_eq_filter, List.filterMap_eq_flatMap_toList]
  refine List.flatMap_congr fun v _ => ?_
  rw [Option.guard]
  split <;> rfl

theorem Filter.records_recordwise (h : job ∉ Operator.filterObjects.mentions raw) :
    Recordwise fun c => Filter.records (s.insert job c) job raw := by
  refine .after (fun _ => rfl) fun ps hps => .find ?_
  rw [Operator.mentions, Operator.readWith_eq_ok.1 hps] at h
  exact .after (fun c => Filter.rules_of_agreeOn (Store.agreeOn_insert h s c)) fun rules _ =>
    .inr ⟨_, fun c => congrArg Except.ok (Filter.keep_eq_flatMap rules c)⟩

theorem Filter.fields_insert (h : job ∉ Operator.filterFields.mentions raw) (s : Store)
    (c d : Collection) : fields (s.insert job c) job raw = fields (s.insert job d) job raw := by
  refine bind_congr_ok fun params hp => ?_
  rw [Operator.mentions, Shape.mentions, Operator.readWith_eq_ok.1 hp] at h
  simp only [Store.find_insert_self]
  change Filter.mode params >>= _ = Filter.mode params >>= _
  refine bind_congr_ok fun p hm => ?_
  obtain ⟨m, v⟩ := p
  have hv : job ∉ v.mentions := fun hv => h (mode_mentions hm hv)
  simp only [(Store.agreeOn_insert hv s _).resolveAs_eq]

theorem Renaming.renamings_insert (h : job ∉ Operator.mapFields.mentions raw) (s : Store)
    (c : Collection) :
    renamings (s.insert job c) job raw = readAll s raw := by
  rw [Operator.mentions] at h
  rw [renamings, Store.find_insert_self]
  cases raw with
  | string name => exact (Store.agreeOn_insert h s c).resolveAs_eq ..
  | _ => rfl

theorem Revision.revisions_insert (mappers : Mappers)
    (h : job ∉ Operator.mapValues.mentions raw) (s : Store) (c : Collection) :
    revisions mappers (s.insert job c) job raw = readAll mappers s raw := by
  rw [Operator.mentions] at h
  rw [revisions, Store.find_insert_self, readAll, readAll,
    (Store.agreeOn_insert h s c).resolveAs_eq]
  rfl

end Operators

/-- The operators that treat every record by itself. -/
def Operator.recordwise : List Operator :=
  [.cloneObjects, .filterObjects, .filterFields, .mapFields, .mapValues]

namespace Session

/-- The session with the records in a collection. -/
def holding (s : Session) (job : String) (c : Collection) : Session :=
  { s with store := s.store.insert job c }

end Session

namespace Operator

variable {setting : Setting} {job : String} {raw : Value} {o : Operator}

/-- **Each of the operators** sets the collection of its job to what it makes of the records one by
one. -/
theorem change_recordwise (setting : Setting) (ho : o ∈ recordwise) (h : job ∉ o.mentions raw)
    (s : Session) : ∃ x, Recordwise x ∧ ∀ c, o.change setting job raw (s.holding job c) =
      x c >>= fun d => .ok (.put job d) := by
  cases o with
  | cloneObjects => exact ⟨_, Clone.records_recordwise h, fun c => rfl⟩
  | filterObjects => exact ⟨_, Filter.records_recordwise h, fun c => rfl⟩
  | filterFields =>
    refine ⟨_, .revise s.store job (fun c => Filter.fields_insert h s.store c []) fun p =>
      [Filter.restrict p.1 p.2], fun c => ?_⟩
    simp only [bind_assoc]
    rfl
  | mapFields =>
    refine ⟨_, .revise s.store job (Renaming.renamings_insert h s.store)
      (·.map Renaming.apply), fun c => ?_⟩
    simp only [bind_assoc]
    rfl
  | mapValues =>
    refine ⟨_, .revise s.store job (Revision.revisions_insert setting.mappers h s.store)
      (·.map fun r fields => r.apply fields), fun c => ?_⟩
    simp only [bind_assoc]
    rfl
  | load | copyTo | copyToArray | mergeObjects | aggregate | save =>
    exact absurd ho (by decide)

theorem ne_save_of_recordwise (ho : o ∈ recordwise) : o ≠ .save := by
  rintro rfl
  revert ho
  decide

theorem change_mapFields {s : Session} {c : Collection} {ms : List Renaming}
    (hc : s.store.get? job = some c) (hms : Renaming.readAll s.store raw = .ok ms) :
    mapFields.change setting job raw s = .ok (.put job
      (c.map (·.mapFields fun r => ms.foldl (fun r m => m.apply r) r))) := by
  have hread : Renaming.renamings s.store job raw = .ok ms := by
    rw [Renaming.renamings, Store.find_eq_ok.2 hc]
    exact hms
  rw [change, hread, Store.find_eq_ok.2 hc]
  change Except.ok (Change.put job (.revise (ms.map Renaming.apply) c)) = _
  simp only [Collection.revise_eq_map, List.foldl_map]

theorem change_mapValues {s : Session} {c : Collection} {rs : List Revision}
    (hc : s.store.get? job = some c)
    (hrs : Revision.readAll setting.mappers s.store raw = .ok rs) :
    mapValues.change setting job raw s = .ok (.put job
      (c.map (·.mapFields fun r => rs.foldl Revision.apply r))) := by
  have hread : Revision.revisions setting.mappers s.store job raw = .ok rs := by
    rw [Revision.revisions, Store.find_eq_ok.2 hc]
    exact hrs
  rw [change, hread, Store.find_eq_ok.2 hc]
  change Except.ok (Change.put job (.revise (rs.map fun r fields => r.apply fields) c)) = _
  simp only [Collection.revise_eq_map, List.foldl_map]

/-- Parameters of which the same becomes of every record ask for the same, or fail in the same
way. -/
theorem run_mapValues_congr {raw' : Value} {s : Session}
    (h : (Revision.readAll setting.mappers s.store raw).map
        (fun rs r => rs.foldl Revision.apply r) =
      (Revision.readAll setting.mappers s.store raw').map
        fun rs r => rs.foldl Revision.apply r) :
    mapValues.run setting job raw s = mapValues.run setting job raw' s := by
  have hchange : mapValues.change setting job raw s = mapValues.change setting job raw' s := by
    cases hc : s.store.get? job with
    | none => simp only [change, Revision.revisions, Store.find, hc]; rfl
    | some c =>
      -- what is put is told by what becomes of one record
      have hput (raw : Value) : mapValues.change setting job raw s =
          ((Revision.readAll setting.mappers s.store raw).map fun rs r =>
            rs.foldl Revision.apply r).map fun f => .put job (c.map (·.mapFields f)) := by
        cases hrs : Revision.readAll setting.mappers s.store raw with
        | error e =>
          rw [change, Revision.revisions, Store.find_eq_ok.2 hc]
          change Revision.readAll setting.mappers s.store raw >>= _ = _
          rw [hrs]
          rfl
        | ok rs => exact change_mapValues hc hrs
      rw [hput, hput, h]
  rw [run_eq, run_eq, hchange]
  rfl

/-- **Records are treated one by one.** Take an operator that clones, filters or maps, and whose
parameters do not name the collection of its job. Either it fails whatever the records are, always
with the same error, or it is always finished, sets that collection and no other, and makes of two
lists of records one after the other what it makes of the first and then what it makes of the
second. `mapFields` and `mapValues` make every change to all records before the next one, and what
they make of a collection is what all changes in their order make of each record by itself. -/
theorem run_recordwise :
    (∀ (setting : Setting) (job : String) (o : Operator) (raw : Value) (s : Session),
      o ∈ recordwise → job ∉ o.mentions raw →
        (∃ e, ∀ c, o.run setting job raw (s.holding job c) =
          (.error ⟨job, o, e⟩, s.holding job c)) ∨
        ∃ f : Collection → Collection,
          (∀ c, ∃ log, o.run setting job raw (s.holding job c) =
            (.ok (), ⟨s.store.insert job (f c), s.files, log⟩)) ∧
          ∀ c₁ c₂, f (c₁ ++ c₂) = f c₁ ++ f c₂) ∧
    (∀ (setting : Setting) (job : String) (raw : Value) (s : Session) (c : Collection)
      (ms : List Renaming), s.store.get? job = some c → Renaming.readAll s.store raw = .ok ms →
        ∃ log, Operator.mapFields.run setting job raw s = (.ok (), ⟨s.store.insert job
          (c.map (·.mapFields fun r => ms.foldl (fun r m => m.apply r) r)), s.files, log⟩)) ∧
    ∀ (setting : Setting) (job : String) (raw : Value) (s : Session) (c : Collection)
      (rs : List Revision), s.store.get? job = some c →
        Revision.readAll setting.mappers s.store raw = .ok rs →
          ∃ log, Operator.mapValues.run setting job raw s = (.ok (), ⟨s.store.insert job
            (c.map (·.mapFields fun r => rs.foldl Revision.apply r)), s.files, log⟩) := by
  refine ⟨fun setting job o raw s ho h => ?_, fun setting job raw s c ms hc hms => ?_,
    fun setting job raw s c rs hc hrs => ?_⟩
  · have hsave := ne_save_of_recordwise ho
    obtain ⟨x, hx, hchange⟩ := change_recordwise setting ho h s
    rcases hx with ⟨e, he⟩ | ⟨f, hf⟩
    · refine .inl ⟨e, fun c => run_of_change_error hsave ?_⟩
      rw [hchange, he]
      rfl
    · refine .inr ⟨(·.flatMap f), fun c => ?_, fun c₁ c₂ => List.flatMap_append⟩
      have hput : o.change setting job raw (s.holding job c) = .ok (.put job (c.flatMap f)) := by
        rw [hchange, hf]
        rfl
      obtain ⟨log, hlog⟩ := run_of_change_put hsave hput
      refine ⟨log, ?_⟩
      rw [hlog, Session.holding, Catalog.insert_insert]
  · exact run_of_change_put (by decide) (change_mapFields hc hms)
  · exact run_of_change_put (by decide) (change_mapValues hc hrs)

/-- A collection of records, and one of values. -/
def collectionsAV : Session :=
  ⟨.ofList [("a", [.object [("k", .string "x")], .null]), ("v", [.string "y"])], default, []⟩

/-- Clones of the records that hold a listed value, one for each of the values. -/
def cloneForValues : Value :=
  .object [("field", .string "k"), ("filter", .array [.string "x"]), ("values", .string "v")]

/-- Keeps the records that hold a listed value. -/
def keepListed : Value := .array [.object [("field", .string "k"), ("include", .string "v")]]

/-- Drops a field. -/
def dropField : Value := .object [("exclude", .array [.string "k"])]

/-- Two rules where there can be one. -/
def keepAndDrop : Value := .object [("exclude", .array []), ("include", .string "v")]

/-- Two records with a value between them. -/
def lettersXY : Collection :=
  [.object [("k", .string "x")], .null, .object [("k", .string "y"), ("n", .bool true)]]

/-- Moves a field, and then copies it from where it is now. -/
def moveThenCopy : Value :=
  .array [.object [("from", .string "k"), ("to", .string "l")],
    .object [("from", .string "l"), ("to", .string "m"), ("copy", .bool true)]]

/-- Replaces a value, and then the value that it was replaced by. -/
def replaceTwice : Value :=
  .array [.object [("field", .string "k"), ("from", .string "x"), ("to", .string "y")],
    .object [("field", .string "k"), ("from", .string "y"), ("to", .null)]]

theorem run_recordwise_collectionsAV :
    (∀ e ∈ [(cloneObjects, cloneForValues, [.object [("k", .string "x")],
          .object [("k", .string "y")], .null, .object [("k", .string "y"), ("n", .bool true)]]),
        (filterObjects, keepListed, [.object [("k", .string "y"), ("n", .bool true)]]),
        (filterFields, dropField, [.object [], .null, .object [("n", .bool true)]])],
      e.1 ∈ recordwise ∧ "a" ∉ e.1.mentions e.2.1 ∧
      ∃ f : Collection → Collection,
        (∀ c, ∃ log, e.1.run ⟨none, .empty⟩ "a" e.2.1 (collectionsAV.holding "a" c) =
          (.ok (), ⟨collectionsAV.store.insert "a" (f c), collectionsAV.files, log⟩)) ∧
        (∀ c₁ c₂, f (c₁ ++ c₂) = f c₁ ++ f c₂) ∧ f lettersXY = e.2.2) ∧
    (∃ e, ∀ c, filterFields.run ⟨none, .empty⟩ "a" keepAndDrop (collectionsAV.holding "a" c) =
      (.error ⟨"a", filterFields, e⟩, collectionsAV.holding "a" c)) ∧
    collectionsAV.store.get? "a" = some [.object [("k", .string "x")], .null] ∧
    Renaming.readAll collectionsAV.store moveThenCopy =
      .ok [⟨"k", "l", false⟩, ⟨"l", "m", true⟩] ∧
    (∃ log, mapFields.run ⟨none, .empty⟩ "a" moveThenCopy collectionsAV =
      (.ok (), ⟨collectionsAV.store.insert "a"
        [.object [("l", .string "x"), ("m", .string "x")], .null], collectionsAV.files, log⟩)) ∧
    Revision.readAll .empty collectionsAV.store replaceTwice =
      .ok [.replace "k" (.string "x") (.string "y"), .replace "k" (.string "y") .null] ∧
    ∃ log, mapValues.run ⟨none, .empty⟩ "a" replaceTwice collectionsAV =
      (.ok (), ⟨collectionsAV.store.insert "a" [.object [("k", .null)], .null],
        collectionsAV.files, log⟩) := by
  obtain ⟨hrecords, hfields, hvalues⟩ := run_recordwise
  -- what a run makes of one collection tells that it does not fail and what its function is there
  have known {o : Operator} {raw : Value} {out : Collection} {log : Log} (ho : o ∈ recordwise)
      (hraw : "a" ∉ o.mentions raw)
      (hrun : o.run ⟨none, .empty⟩ "a" raw (collectionsAV.holding "a" lettersXY) =
        (.ok (), ⟨collectionsAV.store.insert "a" out, collectionsAV.files, log⟩)) :
      ∃ f : Collection → Collection,
        (∀ c, ∃ log, o.run ⟨none, .empty⟩ "a" raw (collectionsAV.holding "a" c) =
          (.ok (), ⟨collectionsAV.store.insert "a" (f c), collectionsAV.files, log⟩)) ∧
        (∀ c₁ c₂, f (c₁ ++ c₂) = f c₁ ++ f c₂) ∧ f lettersXY = out := by
    rcases hrecords ⟨none, .empty⟩ "a" o raw collectionsAV ho hraw with ⟨e, he⟩ | ⟨f, hf, happend⟩
    · cases (he lettersXY).symm.trans hrun
    · obtain ⟨log', hlog'⟩ := hf lettersXY
      have hget := congrArg (fun r => r.2.store.get? "a") (hlog'.symm.trans hrun)
      rw [Catalog.get?_insert_self, Catalog.get?_insert_self] at hget
      exact ⟨f, hf, happend, Option.some.inj hget⟩
  refine ⟨?_, ?_, rfl, rfl, ?_, rfl, ?_⟩
  · simp only [List.forall_mem_cons]
    refine ⟨⟨by decide, by decide, known (by decide) (by decide) rfl⟩,
      ⟨by decide, by decide, known (by decide) (by decide) rfl⟩,
      ⟨by decide, by decide, known (by decide) (by decide) rfl⟩, nofun⟩
  · refine (hrecords ⟨none, .empty⟩ "a" filterFields keepAndDrop collectionsAV (by decide)
      (by decide)).resolve_right ?_
    -- it fails where there are no records, so it is never finished
    rintro ⟨f, hf, -⟩
    obtain ⟨log, hlog⟩ := hf []
    cases hlog
  · exact hfields ⟨none, .empty⟩ "a" moveThenCopy collectionsAV _ _ rfl rfl
  · exact hvalues ⟨none, .empty⟩ "a" replaceTwice collectionsAV _ _ rfl rfl

end Operator

end Reshape
