import Reshape.Command.Basic
import Reshape.Proofs.KeyOrder
import Reshape.Proofs.Steps

/-!
# What a check lists and a run executes

An operation with several operators runs as the operations that hold one of them each, in the order
of the list of all operators. A check lists the same operators in the same order.

* `Operation.singles`: the operations that hold one operator each.
* `Operation.run_eq_run_singles`: an operation runs as they do.
* `Config.operations_of_run`: a finished run has counted the operators that a check lists.
-/

namespace Reshape

namespace Operation

/-- The operations that hold one operator each. -/
def singles (o : Operation) : List Operation :=
  o.operators.filterMap fun k => (o.get? k).map (single k)

variable (o : Operation)

theorem operators_sublist : o.operators.Sublist Operator.all := List.filter_sublist

theorem filterMap_operators {β : Type} (f : Operator → Value → β) :
    (o.operators.filterMap fun k => (o.get? k).map (f k)) =
      Operator.all.filterMap fun k => (o.get? k).map (f k) := by
  rw [operators, List.filterMap_filter]
  congr 1
  funext k
  cases o.get? k <;> rfl

/-- What an operation does for each of its operators in turn it does for each of its steps. -/
theorem map_filterMap_operators {β : Type} (f : Operator → Value → β) (g : β → Operator)
    (hg : ∀ k v, g (f k v) = k) :
    (Operator.all.filterMap fun k => (o.get? k).map (f k)).map g = o.operators := by
  rw [List.map_filterMap, operators, ← List.filterMap_eq_filter]
  congr 1
  funext k
  cases hk : o.get? k <;> simp [Option.guard, hk, hg]

theorem length_steps (job : String) : (o.steps job).length = o.operators.length := by
  rw [← o.map_filterMap_operators (Step.mk job) Step.operator fun _ _ => rfl, List.length_map]
  rfl

/-! ## One operator each -/

theorem operators_single (k : Operator) (v : Value) : (single k v).operators = [k] := by
  cases k <;> rfl

theorem operators_singles : o.singles.map operators = o.operators.map fun k => [k] := by
  rw [singles, filterMap_operators, ← o.map_filterMap_operators Prod.mk Prod.fst fun _ _ => rfl]
  simp [List.map_filterMap, Function.comp_def, operators_single]

theorem run_single (setting : Setting) (job : String) (k : Operator) (v : Value) :
    (single k v).run setting job = (do
      k.run setting job v
      return 1) := by
  have hsteps : (single k v).steps job = [⟨job, k, v⟩] := by cases k <;> rfl
  have hunknown : (single k v).unknown.names = [] := rfl
  rw [run_eq_forM, hsteps, hunknown]
  simp [Step.run]

theorem mapM_run_single (setting : Setting) (job : String) (ks : List Operator) :
    (ks.filterMap fun k => (o.get? k).map (single k)).mapM (run setting job) = (do
      forM (ks.filterMap (o.step? job)) (Step.run setting)
      return List.replicate (ks.filterMap (o.step? job)).length 1) := by
  induction ks with
  | nil => simp
  | cons k ks ih =>
    rw [List.filterMap_cons, List.filterMap_cons, step?]
    cases o.get? k with
    | none => simp [ih]
    | some v => simp [ih, run_single, Step.run, List.replicate_succ]

/-- An operation runs as the operations that hold one of its operators each, one after another. -/
theorem run_eq_run_singles (setting : Setting) (job : String) : o.run setting job = (do
    Attempt.note (o.unknown.names.map unknownEntry)
    let counts ← o.singles.mapM (run setting job)
    return counts.sum) := by
  rw [run_eq_forM, singles, filterMap_operators, mapM_run_single]
  simp [steps]

theorem length_operators_of_run {setting : Setting} {job : String} {o : Operation} {s : Session}
    {n : Nat} (h : (o.run setting job s).1 = .ok n) : n = o.operators.length := by
  rw [run_eq_forM, ← bind_assoc] at h
  exact (Attempt.eq_of_return h).trans (o.length_steps job)

end Operation

namespace Config

theorem length_steps (c : Config) :
    c.steps.length = (c.jobs.flatMap fun j => j.operations.map (·.operators.length)).sum := by
  rw [steps, List.length_flatMap, List.flatMap_def, List.sum_flatten, List.map_map]
  simp only [Job.steps, List.length_flatMap, Operation.length_steps, Function.comp_def]

theorem operations_of_run {setting : Setting} {c : Config} {s : Session} {summary : Summary}
    (h : (c.run setting s).1 = .ok summary) : summary.operations =
      (c.jobs.flatMap fun j => j.operations.map (·.operators.length)).sum := by
  rw [(c.run_alike setting s s (.refl s)).1] at h
  rw [Attempt.eq_of_return h, length_steps]

/-- **What a check lists is what a run executes.** An operation notes its unknown settings and then
runs as the operations that hold one of its operators each; if none of them fails, it has counted
its operators. A finished run of a configuration has counted the operators that a check of it
lists. The operators run in the order of all operators, in whatever order the keys of the operation
are written, as JSON or as YAML. -/
theorem run_as_listed :
    (∀ (setting : Setting) (job : String) (o : Operation),
      o.run setting job = (do
        Attempt.note (o.unknown.names.map Operation.unknownEntry)
        let counts ← o.singles.mapM (Operation.run setting job)
        return counts.sum) ∧
      o.singles.map Operation.operators = o.operators.map (fun k => [k]) ∧
      o.operators.Sublist Operator.all ∧
      ∀ s n, (o.run setting job s).1 = .ok n → n = o.operators.length) ∧
    (∀ (setting : Setting) (c : Config) (s : Session) (summary : Summary),
      (c.run setting s).1 = .ok summary → summary.operations =
        (c.jobs.flatMap fun j => j.operations.map (·.operators.length)).sum) ∧
    (∀ (files : Files) (path : String), (Command.performCheck files path).lines =
      match Config.ofFile files path with
      | .error _ => []
      | .ok c => .note ("✅ " ++ Number.intText c.jobs.length ++ " jobs\n\n") ::
          c.jobs.flatMap fun j => .result ("  " ++ j.name ++ "\n") :: j.operations.map fun o =>
            .result ("    - " ++ String.intercalate ", " (o.operators.map Operator.name ++
              o.unknown.names.map (· ++ " (unknown)")) ++ "\n")) ∧
    (∀ (depth : Nat) (fields fields' : List (Option String × Draft)) (closed : Bool)
      (o : Operation), fields.Perm fields' →
      Operation.ofDraft depth (.object fields closed) = .ok o →
      ∃ o', Operation.ofDraft depth (.object fields' closed) = .ok o' ∧
        o.operators = o'.operators ∧
        ∀ setting job, o.run setting job = o'.run setting job) ∧
    ∀ (d : Yaml.Document) (depth : Nat) (anchor : Option Nat) (tag : Option String)
      (fields fields' : List (Yaml.Node × Yaml.Node)) (jumps left : Nat) (o : Operation),
      fields.Perm fields' →
      Operation.ofNode d depth (.mapping anchor tag fields) jumps = some (o, left) →
      ∃ o', Operation.ofNode d depth (.mapping anchor tag fields') jumps = some (o', left) ∧
        o.operators = o'.operators ∧
        ∀ setting job, o.run setting job = o'.run setting job := by
  refine ⟨fun setting job o => ⟨o.run_eq_run_singles setting job, o.operators_singles,
    o.operators_sublist, fun s n => Operation.length_operators_of_run⟩,
    fun setting c s summary => operations_of_run, fun files path => ?_,
    fun depth fields fields' closed o h ho => ?_,
    fun d depth anchor tag fields fields' jumps left o h ho => ?_⟩
  · rw [Command.performCheck]
    cases Config.ofFile files path <;> rfl
  · obtain ⟨o', ho', hoo'⟩ := Operation.ofDraft_perm h ho
    exact ⟨o', ho', hoo'.operators_eq, hoo'.run_eq⟩
  · obtain ⟨o', ho', hoo'⟩ := Operation.ofNode_perm h ho
    exact ⟨o', ho', hoo'.operators_eq, hoo'.run_eq⟩

/-- Three operators, given in another order than they run in, and a setting of no operator. -/
def renamedCopy : Operation :=
  .ofList [(.mapFields, .object [("k", .string "l")]),
    (.filterFields, .object [("include", .array [.string "k"])]), (.copyTo, .string "out")]
    (.ofList [("note", .null)])

/-- A job that does this twice, and one that copies what results. -/
def renamedCopies : Config :=
  .sequence [.job ⟨"in", [renamedCopy, renamedCopy]⟩,
    .job ⟨"out", [.single .copyTo (.string "in")]⟩]

/-- A collection of one record. -/
def labelledRecord : Session :=
  ⟨.ofList [("in", [.object [("k", .string "a"), ("n", .null)]])], default, []⟩

/-- An operation that is written with the later one of its two operators first. -/
def copyOfFields : List (Option String × Draft) :=
  [(some "filterFields", .object [(some "include", .array [.string "k"] true)] true),
    (some "copyTo", .string "out")]

theorem run_as_listed_copyOfFields :
    renamedCopy.operators = [.copyTo, .filterFields, .mapFields] ∧
    renamedCopy.singles.map Operation.operators = [[.copyTo], [.filterFields], [.mapFields]] ∧
    renamedCopy.run ⟨none, .empty⟩ "in" = (do
      Attempt.note [Operation.unknownEntry "note"]
      let counts ← renamedCopy.singles.mapM (Operation.run ⟨none, .empty⟩ "in")
      return counts.sum) ∧
    (renamedCopy.run ⟨none, .empty⟩ "in" labelledRecord).2.store.entries =
      [("in", [.object [("l", .string "a")]]),
        ("out", [.object [("k", .string "a"), ("n", .null)]])] ∧
    (renamedCopy.run ⟨none, .empty⟩ "in" labelledRecord).1 = .ok 3 ∧
    3 = renamedCopy.operators.length ∧
    (renamedCopies.run ⟨none, .empty⟩ labelledRecord).1 = .ok ⟨2, 7⟩ ∧
    7 = (renamedCopies.jobs.flatMap fun j => j.operations.map (·.operators.length)).sum ∧
    ∃ o left p,
      Operation.ofDraft 9 (.object copyOfFields true) = .ok o ∧
      (∃ o', Operation.ofDraft 9 (.object copyOfFields.reverse true) = .ok o' ∧
        o.operators = o'.operators ∧ ∀ setting job, o.run setting job = o'.run setting job) ∧
      Operation.ofNode ⟨.alias 0, [(0, .scalar none ⟨"out", true, none⟩)]⟩ 9 (.mapping none none
        [(.scalar none ⟨"mergeObjects", true, none⟩, .alias 0),
          (.scalar none ⟨"copyTo", true, none⟩, .alias 0)]) 5 = some (p, left) ∧
      ∃ p', Operation.ofNode ⟨.alias 0, [(0, .scalar none ⟨"out", true, none⟩)]⟩ 9
        (.mapping none none [(.scalar none ⟨"copyTo", true, none⟩, .alias 0),
          (.scalar none ⟨"mergeObjects", true, none⟩, .alias 0)]) 5 = some (p', left) ∧
        p.operators = p'.operators ∧ ∀ setting job, p.run setting job = p'.run setting job := by
  obtain ⟨hone, hcount, -, hjson, hyaml⟩ := run_as_listed
  have hrun : (renamedCopy.run ⟨none, .empty⟩ "in" labelledRecord).1 = .ok 3 := rfl
  have hall : (renamedCopies.run ⟨none, .empty⟩ labelledRecord).1 = .ok ⟨2, 7⟩ := rfl
  obtain ⟨hsingles, hlisted, -, hlength⟩ := hone ⟨none, .empty⟩ "in" renamedCopy
  refine ⟨rfl, hlisted, hsingles, rfl, hrun, hlength _ _ hrun, hall, hcount _ _ _ _ hall, _, 3, _,
    rfl, ?_, rfl, ?_⟩
  · exact hjson 9 _ _ true _ (List.reverse_perm _).symm rfl
  · exact hyaml _ 9 none none _ _ 5 3 _ (.swap _ _ _) rfl

end Config

end Reshape
