import Mathlib.Algebra.GroupWithZero.Nat
import Reshape.Run

/-!
# A configuration and its jobs

A configuration is run by walking through its tree; `Config.jobs` lists the jobs of the tree. The
two agree: a run of the tree is a run of the list, which stops at the first job that fails.

* `Config.runFrom_eq`, `Config.runList_eq`: on top of what was run before, by induction on the tree.
* `Config.run_eq_mapM`: from the start.
-/

namespace Reshape

namespace Config

mutual

theorem runFrom_eq (setting : Setting) (before : Summary) : ∀ c : Config,
    c.runFrom setting before = (do
      let counts ← c.jobs.mapM (Job.run setting)
      return ⟨before.jobs + c.jobs.length, before.operations + counts.sum⟩)
  | .job j => by simp [runFrom, jobs]
  | .sequence cs => runList_eq setting before cs

theorem runList_eq (setting : Setting) (before : Summary) : ∀ cs : List Config,
    runList setting before cs = (do
      let counts ← (jobsOfList cs).mapM (Job.run setting)
      return ⟨before.jobs + (jobsOfList cs).length, before.operations + counts.sum⟩)
  | [] => by simp [runList, jobsOfList]
  | c :: cs => by
    -- the jobs of `c` come first, and the summary after them is what those of `cs` start from
    have hcs := fun done => runList_eq setting done cs
    simp only [runList, runFrom_eq setting before c, hcs, bind_assoc, pure_bind, jobsOfList,
      List.mapM_append, List.length_append, List.sum_append_nat, Nat.add_assoc]

end

theorem run_eq_mapM (setting : Setting) (c : Config) : c.run setting = (do
    let counts ← c.jobs.mapM (Job.run setting)
    return ⟨c.jobs.length, counts.sum⟩) := by
  rw [run, runFrom_eq]
  simp only [Nat.zero_add]

/-- **A configuration runs as the list of its jobs.** The result, the store, the files and the log
are those of its jobs, run one after another until one fails; a finished run counts all jobs and
adds up the numbers of operators that they ran. How the jobs are nested makes no difference. -/
theorem run_eq_run_jobs :
    (∀ (setting : Setting) (c : Config), c.run setting = (do
      let counts ← c.jobs.mapM (Job.run setting)
      return ⟨c.jobs.length, counts.sum⟩)) ∧
    ∀ (setting : Setting) (c d : Config), c.jobs = d.jobs → c.run setting = d.run setting := by
  refine ⟨run_eq_mapM, fun setting c d h => ?_⟩
  rw [run_eq_mapM, run_eq_mapM, h]

/-- A job that stands deep in a tree, between empty sequences, runs as it does alone. -/
theorem run_nested_job :
    (Config.sequence [.sequence [], .sequence [.sequence [.job ⟨"in", [.single .copyTo
      (.string "out")]⟩], .sequence []]]).jobs =
        (Config.job ⟨"in", [.single .copyTo (.string "out")]⟩).jobs ∧
    (Config.sequence [.sequence [], .sequence [.sequence [.job ⟨"in", [.single .copyTo
      (.string "out")]⟩], .sequence []]]).run ⟨none, .empty⟩ =
        (Config.job ⟨"in", [.single .copyTo (.string "out")]⟩).run ⟨none, .empty⟩ :=
  ⟨rfl, run_eq_run_jobs.2 ⟨none, .empty⟩ _ _ rfl⟩

end Config

end Reshape
