import Mathlib.Data.List.Basic
import Reshape.Proofs.Steps

/-!
# The collection that an operator writes

Which collection an operator sets can be read off its parameters: most set the collection of their
job, some one that is named there, and `save` none. A run leaves all collections alone that none of
its steps sets, also if it fails, and no collection disappears.

* `Operator.target?`: the collection that an operator sets.
* `Operator.target?_of_change`: a finished operator sets that one.
* `Store.ChangedOnly`: the relation of a store to a later one, which each step keeps
  (`Step.changedOnly_run`) and so do lists of steps (`Step.changedOnly_forM`).
* `Config.run_changes_targets_only`: a whole run.
-/

namespace Reshape

/-- The collection that an operator sets when it is finished. Parameters of another shape name
none. -/
def Operator.target? (job : String) (raw : Value) : Operator → Option String
  | .load | .cloneObjects | .filterObjects | .filterFields | .mapFields | .mapValues
  | .mergeObjects => some job
  | .copyTo => (Shape.readText raw).toOption
  | .copyToArray => (Shape.readRecord Copy.fieldStruct raw).toOption.bind (·.text? "copyTo")
  | .aggregate => (Shape.readRecord Grouping.struct raw).toOption.map fun params =>
      (params.text? "name").getD job
  | .save => none

/-- The collection that a step sets. -/
def Step.target? (p : Step) : Option String := p.operator.target? p.job p.raw

/-- The collections that the operators of a configuration set. -/
def Config.targets (c : Config) : List String := c.steps.filterMap Step.target?

/-! ## Operators -/

section Targets

variable {s : Store} {job target : String} {raw : Value} {c : Collection}

theorem Copy.target_of_records (h : Copy.records s job raw = .ok (target, c)) :
    Operator.copyTo.target? job raw = some target := by
  obtain ⟨name, hname, h⟩ := bind_eq_ok.1 h
  obtain ⟨_, -, h⟩ := bind_eq_ok.1 h
  cases h
  rw [Operator.target?, Operator.readWith_eq_ok.1 hname]
  rfl

theorem Copy.target_of_values (h : Copy.values s job raw = .ok (target, c)) :
    Operator.copyToArray.target? job raw = some target := by
  obtain ⟨params, hparams, h⟩ := bind_eq_ok.1 h
  obtain ⟨name, hname, h⟩ := bind_eq_ok.1 h
  obtain ⟨_, -, h⟩ := bind_eq_ok.1 h
  obtain ⟨_, -, h⟩ := bind_eq_ok.1 h
  cases h
  rw [Operator.target?, Operator.readWith_eq_ok.1 hparams]
  exact Record.required_eq_ok.1 hname

theorem Grouping.target_of_records {entries : Log}
    (h : Grouping.records s job raw = .ok (target, c, entries)) :
    Operator.aggregate.target? job raw = some target := by
  obtain ⟨params, hparams, h⟩ := bind_eq_ok.1 h
  obtain ⟨_, -, h⟩ := bind_eq_ok.1 h
  obtain ⟨_, -, h⟩ := bind_eq_ok.1 h
  obtain ⟨_, -, h⟩ := bind_eq_ok.1 h
  cases h
  rw [Operator.target?, Operator.readWith_eq_ok.1 hparams]
  rfl

end Targets

/-- What a finished operator has written is its target. -/
theorem Operator.target?_of_change {setting : Setting} {job : String} {raw : Value} {o : Operator}
    {s : Session} {c : Change} (h : o.change setting job raw s = .ok c) :
    c.written.map (·.1) = o.target? job raw := by
  cases o with
  | load | cloneObjects | filterObjects | mergeObjects =>
    obtain ⟨_, -, h⟩ := bind_eq_ok.1 h
    cases h
    rfl
  | filterFields | mapFields | mapValues =>
    obtain ⟨_, -, h⟩ := bind_eq_ok.1 h
    obtain ⟨_, -, h⟩ := bind_eq_ok.1 h
    cases h
    rfl
  | copyTo =>
    obtain ⟨_, hr, h⟩ := bind_eq_ok.1 h
    cases h
    exact (Copy.target_of_records hr).symm
  | copyToArray =>
    obtain ⟨_, hr, h⟩ := bind_eq_ok.1 h
    cases h
    exact (Copy.target_of_values hr).symm
  | aggregate =>
    obtain ⟨_, hr, h⟩ := bind_eq_ok.1 h
    cases h
    exact (Grouping.target_of_records hr).symm
  | save =>
    obtain ⟨_, -, h⟩ := bind_eq_ok.1 h
    obtain ⟨_, -, h⟩ := bind_eq_ok.1 h
    cases h
    rfl

/-! ## Stores before and after -/

namespace Store

/-- The later store `t` differs from `s` in the collections of the names at most, and has all
collections that `s` has. -/
structure ChangedOnly (names : List String) (s t : Store) : Prop where
  get?_eq : ∀ n, n ∉ names → t.get? n = s.get? n
  contains : ∀ n, s.contains n → t.contains n

namespace ChangedOnly

variable {names names' : List String} {s t u : Store}

theorem refl (s : Store) : ChangedOnly names s s := ⟨fun _ _ => rfl, fun _ h => h⟩

theorem trans (h : ChangedOnly names s t) (h' : ChangedOnly names t u) : ChangedOnly names s u :=
  ⟨fun n hn => (h'.get?_eq n hn).trans (h.get?_eq n hn),
    fun n hn => h'.contains n (h.contains n hn)⟩

theorem mono (h : ChangedOnly names s t) (hsub : names ⊆ names') : ChangedOnly names' s t :=
  ⟨fun n hn => h.get?_eq n fun hn' => hn (hsub hn'), h.contains⟩

end ChangedOnly

/-- Setting a collection. -/
theorem changedOnly_insert (s : Store) (name : String) (c : Collection) :
    ChangedOnly [name] s (s.insert name c) := by
  refine ⟨fun n hn => Catalog.get?_insert_of_ne (by simpa using hn) s c, fun n hn => ?_⟩
  rw [Catalog.contains, Catalog.get?_insert]
  split
  · rfl
  · exact hn

end Store

theorem Change.changedOnly_store (c : Change) (s : Store) :
    s.ChangedOnly (c.written.map (·.1)).toList (c.store s) := by
  rw [store]
  cases c.written with
  | none => exact .refl s
  | some w => exact s.changedOnly_insert w.1 w.2

/-- The collection that is written is there afterwards. -/
theorem Change.contains_store {c : Change} {n : String} (h : c.written.map (·.1) = some n)
    (s : Store) : (c.store s).contains n := by
  obtain ⟨w, hw, rfl⟩ := Option.map_eq_some_iff.1 h
  rw [store, hw, Catalog.contains, Catalog.get?_insert_self]
  rfl

/-! ## Runs -/

/-- A step changes its target only, and nothing if it fails. -/
theorem Step.changedOnly_run (setting : Setting) (p : Step) (s : Session) :
    s.store.ChangedOnly p.target?.toList (p.run setting s).2.store := by
  rw [Step.run, Operator.run_eq]
  cases hc : p.operator.change setting p.job p.raw s with
  | error e => exact .refl s.store
  | ok c =>
    rw [target?, ← Operator.target?_of_change hc]
    exact c.changedOnly_store s.store

theorem Step.changedOnly_forM (setting : Setting) (ps : List Step) (s : Session) :
    s.store.ChangedOnly (ps.filterMap Step.target?) (forM ps (Step.run setting) s).2.store := by
  induction ps generalizing s with
  | nil => exact .refl s.store
  | cons p ps ih =>
    rw [List.filterMap_eq_flatMap_toList, List.flatMap_cons, ← List.filterMap_eq_flatMap_toList,
      List.forM_cons, Attempt.bind_apply]
    have hfirst := (p.changedOnly_run setting s).mono
      (List.subset_append_left _ (ps.filterMap Step.target?))
    rcases hrun : p.run setting s with ⟨_ | _, t⟩ <;> rw [hrun] at hfirst
    · exact hfirst
    · exact hfirst.trans ((ih t).mono (List.subset_append_right ..))

namespace Config

theorem changedOnly_run (setting : Setting) (c : Config) (s : Session) :
    s.store.ChangedOnly c.targets (c.run setting s).2.store := by
  obtain ⟨-, hstore, -⟩ := c.run_alike setting s s (.refl s)
  have hsteps := Step.changedOnly_forM setting c.steps s
  rw [hstore, Attempt.bind_apply]
  rcases hrun : forM c.steps (Step.run setting) s with ⟨_ | _, t⟩ <;> rw [hrun] at hsteps <;>
    exact hsteps

/-- **A run changes its targets only.** A finished operator leaves all collections as they were but
its target, which is there afterwards, and no collection disappears. A run of a configuration,
finished or not, leaves all collections as they were but the targets of its operators, and no
collection disappears. -/
theorem run_changes_targets_only :
    (∀ (setting : Setting) (job : String) (o : Operator) (raw : Value) (s t : Session),
      o.run setting job raw s = (.ok (), t) →
        (∀ n, o.target? job raw ≠ some n → t.store.get? n = s.store.get? n) ∧
        (∀ n, o.target? job raw = some n → t.store.contains n) ∧
        ∀ n, s.store.contains n → t.store.contains n) ∧
    ∀ (setting : Setting) (c : Config) (s : Session),
      (∀ n, n ∉ c.targets → (c.run setting s).2.store.get? n = s.store.get? n) ∧
      ∀ n, s.store.contains n → (c.run setting s).2.store.contains n := by
  refine ⟨fun setting job o raw s t h => ?_, fun setting c s => ?_⟩
  · have hstep := Step.changedOnly_run setting ⟨job, o, raw⟩ s
    simp only [Step.run, h, Step.target?] at hstep
    refine ⟨fun n hn => hstep.get?_eq n (by simpa using hn), fun n hn => ?_, hstep.contains⟩
    rw [Operator.run_eq] at h
    cases hc : o.change setting job raw s with
    | error e =>
      rw [hc] at h
      cases h
    | ok c =>
      rw [hc] at h
      cases h
      exact Change.contains_store ((Operator.target?_of_change hc).trans hn) s.store
  · exact ⟨(c.changedOnly_run setting s).get?_eq, (c.changedOnly_run setting s).contains⟩

/-- Two collections. -/
def collectionsAB : Session :=
  ⟨.ofList [("a", [.object [("k", .string "x")]]), ("b", [.null])], default, []⟩

/-- Copies a collection to its own end, and then looks for one that is missing. -/
def copyToItself : Config :=
  .job ⟨"a", [.single .copyTo (.string "a"),
    .single .mergeObjects (.object [("name", .string "c"), ("key", .array [.string "k"])])]⟩

theorem run_changes_targets_only_copyToItself :
    ∃ t, Operator.copyTo.run ⟨none, .empty⟩ "a" (.string "a") collectionsAB = (.ok (), t) ∧
      t.store.get? "a" = some [.object [("k", .string "x")], .object [("k", .string "x")]] ∧
      Operator.copyTo.target? "a" (.string "a") ≠ some "b" ∧
      t.store.get? "b" = collectionsAB.store.get? "b" ∧ t.store.contains "a" ∧
      t.store.contains "b" ∧ copyToItself.targets = ["a", "a"] ∧
      (copyToItself.run ⟨none, .empty⟩ collectionsAB).1 =
        .error ⟨"a", .mergeObjects, .missingCollection "c"⟩ ∧
      (copyToItself.run ⟨none, .empty⟩ collectionsAB).2.store.get? "b" =
        collectionsAB.store.get? "b" ∧
      (copyToItself.run ⟨none, .empty⟩ collectionsAB).2.store.contains "a" := by
  obtain ⟨hsame, htarget, hkept⟩ := run_changes_targets_only.1 ⟨none, .empty⟩ "a" .copyTo
    (.string "a") collectionsAB _ rfl
  obtain ⟨hrun, hrunkept⟩ := run_changes_targets_only.2 ⟨none, .empty⟩ copyToItself collectionsAB
  exact ⟨_, rfl, rfl, by decide, hsame "b" (by decide), htarget "a" rfl, hkept "b" rfl, rfl, rfl,
    hrun "b" (by decide), hrunkept "a" rfl⟩

end Config

end Reshape
