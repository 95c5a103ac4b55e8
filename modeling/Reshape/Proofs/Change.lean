import Reshape.Proofs.Attempt
import Reshape.Run

/-!
# What one operator changes

An operator reads the session, checks its parameters and only then writes. Whatever it is, a
finished operator sets at most one collection and notes some entries, and a failed one leaves the
store and the log alone. Operators that change records where they are write once for each entry of
their parameters, and between two writes the collection stays there, so that none of them fails.

* `Change`: the collection that is set and the entries that are noted.
* `Operator.change`: what an operator changes, or why it fails.
* `Operator.filesAfter`: the files after it, which only `save` changes.
* `Operator.act_eq`: that is all that an operator does.
-/

namespace Reshape

/-- What a finished operator changes. -/
structure Change where
  /-- The collection that is set, if one is. -/
  written : Option (String × Collection)
  entries : Log

namespace Change

/-- The store after the change. -/
def store (c : Change) (s : Store) : Store :=
  match c.written with
  | some (name, records) => s.insert name records
  | none => s

/-- The change that sets a collection. -/
def put (name : String) (records : Collection) : Change := ⟨some (name, records), []⟩

/-- The change that adds to a collection. -/
def append (s : Store) (name : String) (values : Collection) : Change :=
  put name ((s.get? name).getD [] ++ values)

end Change

/-! ## Changing records where they are -/

/-- The collection after all changes of records, each made to all records before the next one. -/
def Collection.revise (fs : List (Record → Record)) (c : Collection) : Collection :=
  fs.foldl (fun c f => c.map (·.mapFields f)) c

/-- The collection is there before each of the changes, so all of them are made. -/
theorem Attempt.forM_revise {α : Type} {name : String} {c : Collection} (g : α → Record → Record)
    (as : List α) {s : Session} (h : s.store.get? name = some c) :
    (forM as fun a => Attempt.revise name (g a)) s =
      (.ok (), { s with store := s.store.insert name (Collection.revise (as.map g) c) }) := by
  induction as generalizing c s with
  | nil =>
    rw [List.map_nil, Collection.revise, List.foldl_nil, Catalog.insert_of_get? h]
    rfl
  | cons a as ih =>
    rw [List.forM_cons, Attempt.bind_ok (Attempt.revise_of_get? h (g a)),
      ih (Catalog.get?_insert_self ..), Catalog.insert_insert]
    rfl

/-! ## Operators -/

namespace Operator

/-- What an operator changes, or why it fails. -/
def change (setting : Setting) (job : String) (raw : Value) (s : Session) :
    Operator → Except Cause Change
  | .load => do
    let (c, entry) ← Transfer.records setting.base s.files job raw
    return ⟨some (job, c), [entry]⟩
  | .copyTo => do
    let (target, c) ← Copy.records s.store job raw
    return .append s.store target c
  | .cloneObjects => return .put job (← Clone.records s.store job raw)
  | .filterObjects => return .put job (← Filter.records s.store job raw)
  | .filterFields => do
    let (mode, names) ← Filter.fields s.store job raw
    return .put job (.revise [Filter.restrict mode names] (← s.store.find job))
  | .mapFields => do
    let ms ← Renaming.renamings s.store job raw
    return .put job (.revise (ms.map Renaming.apply) (← s.store.find job))
  | .mapValues => do
    let rs ← Revision.revisions setting.mappers s.store job raw
    return .put job (.revise (rs.map fun r fields => r.apply fields) (← s.store.find job))
  | .copyToArray => do
    let (target, vs) ← Copy.values s.store job raw
    return .append s.store target vs
  | .mergeObjects => return .put job (← Merge.records s.store job raw)
  | .aggregate => do
    let (target, c, entries) ← Grouping.records s.store job raw
    return ⟨some (target, c), entries⟩
  | .save => do
    let (path, sheet, c) ← Transfer.saveTarget setting.base s.store job raw
    Transfer.ofTable (Records.write s.files path sheet c).2
    return ⟨none, [Transfer.writtenEntry c.length path]⟩

/-- The files after an operator, whether it is finished or failed. -/
def filesAfter (setting : Setting) (job : String) (raw : Value) (s : Session) : Operator → Files
  | .save => match Transfer.saveTarget setting.base s.store job raw with
    | .ok (path, sheet, c) => (Records.write s.files path sheet c).1
    | .error _ => s.files
  | _ => s.files

theorem filesAfter_of_ne_save {o : Operator} (ho : o ≠ .save) (setting : Setting) (job : String)
    (raw : Value) (s : Session) : o.filesAfter setting job raw s = s.files := by
  cases o with
  | save => exact absurd rfl ho
  | _ => rfl

/-- The end of an operator: if it failed, only the files may differ. -/
def finish (s : Session) (files : Files) : Except Cause Change → Except Cause Unit × Session
  | .ok c => (.ok (), ⟨c.store s.store, files, s.log ++ c.entries⟩)
  | .error e => (.error e, { s with files })

variable {α : Type} {s : Session} {job : String} {raw : Value}

/-- What is asked before the first change may fail; the session is as it was then. -/
theorem finish_ask (f : Session → Except Cause α) {g : α → Attempt Cause Unit}
    {k : α → Except Cause Change} (h : ∀ a, f s = .ok a → g a s = finish s s.files (k a)) :
    (Attempt.ask f >>= g) s = finish s s.files (f s >>= k) := by
  rw [Attempt.bind_apply, Attempt.ask_apply]
  cases hf : f s with
  | error e => rfl
  | ok a => exact h a hf

theorem finish_put (s : Session) (name : String) (c : Collection) :
    Attempt.put name c s = finish s s.files (.ok (.put name c)) := by
  simp [finish, Change.put, Change.store]

theorem finish_append (s : Session) (name : String) (values : Collection) :
    Attempt.append name values s = finish s s.files (.ok (.append s.store name values)) := by
  simp [finish, Change.append, Change.put, Change.store, Store.append]

theorem finish_revise {c : Collection} (h : s.store.find job = .ok c)
    (g : α → Record → Record) (as : List α) :
    (forM as fun a => Attempt.revise job (g a)) s =
      finish s s.files (do return .put job (.revise (as.map g) (← s.store.find job))) := by
  rw [Attempt.forM_revise g as (Store.find_eq_ok.1 h), h]
  simp [finish, Change.put, Change.store, bind, Except.bind, pure, Except.pure]

/-- The collection of the job is there when fields of its records are to be dropped. -/
theorem find_of_fields {p : Filter.Mode × List String}
    (h : Filter.fields s.store job raw = .ok p) : ∃ c, s.store.find job = .ok c := by
  obtain ⟨_, -, h⟩ := bind_eq_ok.1 h
  obtain ⟨c, hc, -⟩ := bind_eq_ok.1 h
  exact ⟨c, hc⟩

theorem find_of_renamings {ms : List Renaming}
    (h : Renaming.renamings s.store job raw = .ok ms) : ∃ c, s.store.find job = .ok c := by
  obtain ⟨c, hc, -⟩ := bind_eq_ok.1 h
  exact ⟨c, hc⟩

theorem find_of_revisions {mappers : Mappers} {rs : List Revision}
    (h : Revision.revisions mappers s.store job raw = .ok rs) :
    ∃ c, s.store.find job = .ok c := by
  obtain ⟨c, hc, -⟩ := bind_eq_ok.1 h
  exact ⟨c, hc⟩

/-- **All that an operator does** is what `change` and `filesAfter` tell. -/
theorem act_eq (setting : Setting) (job : String) (raw : Value) (o : Operator) (s : Session) :
    o.act setting job raw s =
      finish s (o.filesAfter setting job raw s) (o.change setting job raw s) := by
  cases o with
  | load => exact finish_ask _ fun ⟨c, entry⟩ _ => rfl
  | copyTo => exact finish_ask _ fun ⟨target, c⟩ _ => finish_append s target c
  | cloneObjects => exact finish_ask _ fun c _ => finish_put s job c
  | filterObjects => exact finish_ask _ fun c _ => finish_put s job c
  | filterFields =>
    refine finish_ask _ fun ⟨mode, names⟩ h => ?_
    obtain ⟨c, hc⟩ := find_of_fields h
    have := finish_revise hc (fun _ => Filter.restrict mode names) [()]
    simpa using this
  | mapFields =>
    refine finish_ask _ fun ms h => ?_
    obtain ⟨c, hc⟩ := find_of_renamings h
    exact finish_revise hc Renaming.apply ms
  | mapValues =>
    refine finish_ask _ fun rs h => ?_
    obtain ⟨c, hc⟩ := find_of_revisions h
    exact finish_revise hc (fun r fields => r.apply fields) rs
  | copyToArray => exact finish_ask _ fun ⟨target, vs⟩ _ => finish_append s target vs
  | mergeObjects => exact finish_ask _ fun c _ => finish_put s job c
  | aggregate => exact finish_ask _ fun ⟨target, c, entries⟩ _ => rfl
  | save =>
    -- the files differ already when the last of the two cannot be written
    simp only [act, Transfer.save, filesAfter, change]
    rw [Attempt.bind_apply, Attempt.ask_apply]
    cases h : Transfer.saveTarget setting.base s.store job raw with
    | error e => rfl
    | ok r =>
      obtain ⟨path, sheet, c⟩ := r
      change (Transfer.write path sheet c >>= fun _ => Attempt.note _) s =
        finish s (Records.write s.files path sheet c).1 (do
          Transfer.ofTable (Records.write s.files path sheet c).2
          return ⟨none, [Transfer.writtenEntry c.length path]⟩)
      rw [Attempt.bind_apply, Transfer.write]
      rcases Records.write s.files path sheet c with ⟨files, _ | _⟩ <;> rfl

theorem run_eq (setting : Setting) (job : String) (raw : Value) (o : Operator) (s : Session) :
    o.run setting job raw s = match o.change setting job raw s with
      | .ok c => (.ok (), ⟨c.store s.store, o.filesAfter setting job raw s,
          s.log ++ c.entries ++ [doneEntry o job (c.store s.store)]⟩)
      | .error e => (.error ⟨job, o, e⟩, { s with files := o.filesAfter setting job raw s }) := by
  rw [run, Attempt.bind_apply, Attempt.adapt_apply, act_eq]
  cases o.change setting job raw s <;> rfl

theorem run_of_change_error {setting : Setting} {o : Operator} {e : Cause} (ho : o ≠ .save)
    (h : o.change setting job raw s = .error e) :
    o.run setting job raw s = (.error ⟨job, o, e⟩, s) := by
  rw [run_eq, h, filesAfter_of_ne_save ho]

theorem run_of_change_put {setting : Setting} {o : Operator} {name : String} {c : Collection}
    (ho : o ≠ .save) (h : o.change setting job raw s = .ok (.put name c)) :
    ∃ log, o.run setting job raw s = (.ok (), ⟨s.store.insert name c, s.files, log⟩) := by
  rw [run_eq, h, filesAfter_of_ne_save ho]
  exact ⟨_, rfl⟩

/-- Only an operator that says what it changes is finished. -/
theorem exists_change_of_run {setting : Setting} {o : Operator}
    (h : (o.run setting job raw s).1 = .ok ()) : ∃ c, o.change setting job raw s = .ok c := by
  rw [run_eq] at h
  cases hc : o.change setting job raw s with
  | error e =>
    rw [hc] at h
    cases h
  | ok c => exact ⟨c, rfl⟩

/-- A failed operator leaves the store as it was. -/
theorem store_of_run_eq_error {setting : Setting} {o : Operator} {t : Session} {e : RunError}
    (h : o.run setting job raw s = (.error e, t)) : t.store = s.store := by
  rw [run_eq] at h
  cases hc : o.change setting job raw s with
  | error cause =>
    rw [hc] at h
    exact (congrArg (·.2.store) h).symm
  | ok c =>
    rw [hc] at h
    cases h

/-- What an operator changes does not depend on the log. -/
theorem change_of_same {t : Session} (h : s.Same t) (setting : Setting) (job : String)
    (raw : Value) (o : Operator) :
    o.change setting job raw s = o.change setting job raw t ∧
      o.filesAfter setting job raw s = o.filesAfter setting job raw t := by
  obtain ⟨hs, hf⟩ := h
  cases o <;> simp only [change, filesAfter, hs, hf, and_self]

theorem run_alike (setting : Setting) (job : String) (raw : Value) (o : Operator) :
    Attempt.Alike Session.Same (o.run setting job raw) (o.run setting job raw) := by
  intro s t h
  obtain ⟨hc, hf⟩ := change_of_same h setting job raw o
  rw [run_eq, run_eq, hc, hf]
  cases o.change setting job raw t with
  | error e => exact ⟨rfl, h.1, rfl⟩
  | ok c => exact ⟨rfl, congrArg c.store h.1, rfl⟩

end Operator

end Reshape
