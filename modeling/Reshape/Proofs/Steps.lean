import Reshape.Proofs.Change
import Reshape.Proofs.Jobs

/-!
# A run as a list of steps

A step is one operator with its parameters and the job that it belongs to. The steps of a
configuration are those of its jobs from left to right, of the operations of each job in turn and
of the operators of each operation in their order. But for the log, a run is a run of its steps.

* `Config.steps`, `Job.steps`, `Operation.steps`: the steps, and `Step.run` for one of them.
* `Operation.run_eq_forM`, `Job.run_alike`, `Config.run_alike`: running them one after another.
* `Step.forM_of_ok`, `Step.forM_of_error`: what is alike a run of steps ends as these do.
-/

namespace Reshape

/-- One operator of a job. -/
structure Step where
  job : String
  operator : Operator
  raw : Value

namespace Step

def run (setting : Setting) (p : Step) : Run Unit := p.operator.run setting p.job p.raw

end Step

namespace Operation

/-- The step of one operator, if it has parameters. -/
def step? (job : String) (o : Operation) (k : Operator) : Option Step :=
  (o.get? k).map (Step.mk job k)

/-- The steps of the operation, in the order in which its operators run. -/
def steps (job : String) (o : Operation) : List Step := Operator.all.filterMap (o.step? job)

end Operation

def Job.steps (j : Job) : List Step := j.operations.flatMap (Operation.steps j.name)

def Config.steps (c : Config) : List Step := c.jobs.flatMap Job.steps

/-! ## Operations -/

namespace Operation

variable (setting : Setting) (job : String) (o : Operation)

/-- The operators run in the order of the list of all. -/
theorem run_eq_foldlM : o.run setting job = (do
    Attempt.note (o.unknown.names.map unknownEntry)
    Operator.all.foldlM (o.runOperator setting job) 0) := by
  simp only [Operator.all, List.foldlM_cons, List.foldlM_nil, bind_pure]
  rfl

theorem foldlM_runOperator (ks : List Operator) (n : Nat) :
    ks.foldlM (o.runOperator setting job) n = (do
      forM (ks.filterMap (o.step? job)) (Step.run setting)
      return n + (ks.filterMap (o.step? job)).length) := by
  induction ks generalizing n with
  | nil => simp
  | cons k ks ih =>
    rw [List.foldlM_cons, runOperator, List.filterMap_cons, step?]
    cases o.get? k with
    | none => simp [ih]
    | some raw => simp [ih, Step.run, Nat.add_assoc, Nat.add_comm 1]

theorem run_eq_forM : o.run setting job = (do
    Attempt.note (o.unknown.names.map unknownEntry)
    forM (o.steps job) (Step.run setting)
    return (o.steps job).length) := by
  rw [run_eq_foldlM, foldlM_runOperator]
  simp only [Nat.zero_add, steps]

end Operation

/-! ## Jobs and configurations -/

open Attempt

theorem Step.run_alike (setting : Setting) (p : Step) :
    Alike Session.Same (p.run setting) (p.run setting) :=
  p.operator.run_alike setting p.job p.raw

theorem Step.forM_alike (setting : Setting) (ps : List Step) :
    Alike Session.Same (forM ps (Step.run setting)) (forM ps (Step.run setting)) :=
  Alike.forM fun p _ => p.run_alike setting

section Ends

variable {α : Type} {setting : Setting} {x : Run α} {ps : List Step} {a : α} {s s' t : Session}

/-- What is alike a run of steps is finished only if they are. -/
theorem Step.forM_of_ok {b : α} (h : Alike Session.Same x (do
    forM ps (Step.run setting)
    return a)) (hs : s.Same s') (hx : x s = (.ok b, t)) :
    ∃ u, forM ps (Step.run setting) s' = (.ok (), u) ∧ t.Same u := by
  obtain ⟨hr, ht⟩ := h s s' hs
  rw [hx, bind_apply] at hr ht
  rcases hps : forM ps (Step.run setting) s' with ⟨_ | _, u⟩ <;> rw [hps] at hr ht
  · cases hr
  · exact ⟨u, rfl, ht⟩

/-- What is alike a run of steps fails only if one of them does, with the same error. -/
theorem Step.forM_of_error {e : RunError} (h : Alike Session.Same x (do
    forM ps (Step.run setting)
    return a)) (hs : s.Same s') (hx : x s = (.error e, t)) :
    ∃ u, forM ps (Step.run setting) s' = (.error e, u) ∧ t.Same u := by
  obtain ⟨hr, ht⟩ := h s s' hs
  rw [hx, bind_apply] at hr ht
  rcases hps : forM ps (Step.run setting) s' with ⟨_ | _, u⟩ <;> rw [hps] at hr ht <;> cases hr
  exact ⟨u, rfl, ht⟩

end Ends

/-- What is noted before does not matter to what follows. -/
theorem Session.same_note_left (s t : Session) (entries : Log) (h : s.Same t) :
    (s.note entries).Same t := h

theorem Operation.run_alike (setting : Setting) (job : String) (o : Operation) :
    Alike Session.Same (o.run setting job) (do
      forM (o.steps job) (Step.run setting)
      return (o.steps job).length) := by
  rw [Operation.run_eq_forM]
  exact Alike.note_left Session.same_note_left _
    (Alike.bind (Step.forM_alike setting _) fun _ => Alike.pure _)

namespace Job

theorem noteFailure_alike {α : Type} {x y : Run α} (h : Alike Session.Same x y) :
    Alike Session.Same (noteFailure x) y := by
  intro s t hs
  obtain ⟨hr, hs'⟩ := h s t hs
  rw [noteFailure]
  rcases hx : x s with ⟨_ | _, s'⟩ <;> rw [hx] at hr hs' <;> exact ⟨hr, hs'⟩

theorem runOperations_alike (setting : Setting) (job : String) (os : List Operation) :
    Alike Session.Same (runOperations setting job os) (do
      forM (os.flatMap (Operation.steps job)) (Step.run setting)
      return (os.flatMap (Operation.steps job)).length) := by
  induction os with
  | nil => exact Alike.pure 0
  | cons o os ih =>
    have := Alike.bind (noteFailure_alike (o.run_alike setting job)) fun n =>
      Alike.bind ih fun m => Alike.pure (ε := RunError) (n + m)
    simpa [runOperations] using this

theorem run_alike (setting : Setting) (j : Job) :
    Alike Session.Same (j.run setting) (do
      forM j.steps (Step.run setting)
      return j.steps.length) :=
  Alike.note_left Session.same_note_left _ (runOperations_alike setting j.name j.operations)

theorem mapM_run_alike (setting : Setting) (js : List Job) :
    Alike Session.Same (js.mapM (Job.run setting)) (do
      forM (js.flatMap Job.steps) (Step.run setting)
      return js.map (·.steps.length)) := by
  induction js with
  | nil => exact Alike.pure []
  | cons j js ih =>
    have := Alike.bind (j.run_alike setting) fun n =>
      Alike.bind ih fun ns => Alike.pure (ε := RunError) (n :: ns)
    simpa using this

end Job

namespace Config

/-- **But for the log, a run is a run of its steps**, also if one of them fails. -/
theorem run_alike (setting : Setting) (c : Config) :
    Alike Session.Same (c.run setting) (do
      forM c.steps (Step.run setting)
      return ⟨c.jobs.length, c.steps.length⟩) := by
  rw [run_eq_mapM]
  have := Alike.bind (Job.mapM_run_alike setting c.jobs) fun counts =>
    Alike.pure (ε := RunError) (⟨c.jobs.length, counts.sum⟩ : Summary)
  simpa [steps, List.length_flatMap] using this

end Config

end Reshape
