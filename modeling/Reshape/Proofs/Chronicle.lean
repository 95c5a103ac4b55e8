import Reshape.Proofs.Appending

/-!
# What the log of a run tells

A run notes the beginning of each job without indentation and all else below it. An operator that
is finished notes that last, after what it has to say itself, and a failure is noted once, when the
run ends.

* `Moment.doneEntry`: the entry of a finished step, with the number of records after it.
* `Log.Tells`: entries that tell of the beginning of some jobs and of the end of some operators, and
  of no failure. Such entries may follow one another (`Tells.append`).
* `Step.log_forM`, `Operation.log_run`: what is added to the log by steps and by an operation.
* `Attempt.Reports`: the same of something that notes its failure in the end, with a rule for one
  thing after another; `Job.reports_run`, `Job.reports_mapM`: jobs.
* `Config.log_of_run`: a whole run, finished or not.
-/

namespace Reshape

/-! ## Finished steps -/

namespace Moment

/-- The session that the step left. -/
def left (setting : Setting) (m : Moment) : Session := (m.step.run setting m.found).2

/-- The entry that the step noted in the end. -/
def doneEntry (setting : Setting) (m : Moment) : LogEntry :=
  m.step.operator.doneEntry m.step.job (m.left setting).store

end Moment

namespace Step

variable {setting : Setting} {ps : List Step} {s t : Session}

/-- The entries of the steps that are finished, of those that are run one after another. -/
def doneEntries (setting : Setting) (ps : List Step) (s : Session) : Log :=
  (moments setting ps s).map (Moment.doneEntry setting)

theorem doneEntries_append (h : forM ps (Step.run setting) s = (.ok (), t)) (qs : List Step) :
    doneEntries setting (ps ++ qs) s = doneEntries setting ps s ++ doneEntries setting qs t := by
  rw [doneEntries, moments_append h, List.map_append]
  rfl

theorem moments_cons_of_error {p : Step} {e : RunError} (h : p.run setting s = (.error e, t))
    (ps : List Step) : moments setting (p :: ps) s = [] := by
  rw [moments, h]

/-- A step that fails and those after it have no moments. -/
theorem moments_append_cons_of_error {p : Step} {u : Session} {e : RunError}
    (h : forM ps (Step.run setting) s = (.ok (), t)) (hp : p.run setting t = (.error e, u))
    (qs : List Step) : moments setting (ps ++ p :: qs) s = moments setting ps s := by
  rw [moments_append h, moments_cons_of_error hp, List.append_nil]

theorem moments_append_of_error {e : RunError}
    (h : forM ps (Step.run setting) s = (.error e, t)) (qs : List Step) :
    moments setting (ps ++ qs) s = moments setting ps s := by
  obtain ⟨done, p, rest, u, rfl, hdone, hp⟩ := Attempt.forM_eq_error h
  rw [List.append_assoc, List.cons_append, moments_append_cons_of_error hdone hp,
    moments_append_cons_of_error hdone hp]

theorem doneEntries_append_of_error {e : RunError}
    (h : forM ps (Step.run setting) s = (.error e, t)) (qs : List Step) :
    doneEntries setting (ps ++ qs) s = doneEntries setting ps s := by
  rw [doneEntries, moments_append_of_error h, doneEntries]

/-- The entries do not depend on the log that the steps find. -/
theorem doneEntries_of_same (ps : List Step) (h : s.Same t) :
    doneEntries setting ps s = doneEntries setting ps t := by
  induction ps generalizing s t with
  | nil => rfl
  | cons p ps ih =>
    obtain ⟨hr, hs⟩ := p.run_alike setting s t h
    rcases hps : p.run setting s with ⟨e | _, s'⟩ <;>
      rcases hpt : p.run setting t with ⟨e' | _, t'⟩ <;> rw [hps, hpt] at hr hs <;> cases hr
    · rw [doneEntries, doneEntries, moments_cons_of_error hps, moments_cons_of_error hpt]
    · have hsame : s'.Same t' := hs
      have hentry : Moment.doneEntry setting ⟨p, s⟩ = Moment.doneEntry setting ⟨p, t⟩ := by
        simp only [Moment.doneEntry, Moment.left, hps, hpt, hsame.1]
      rw [doneEntries, doneEntries, moments_cons hps, moments_cons hpt, List.map_cons,
        List.map_cons, hentry]
      exact congrArg _ (ih hsame)

end Step

/-! ## Entries -/

/-- The entries tell of the beginning of the jobs and of the finished operators, in this order, and
of no failure. -/
structure Log.Tells (l : Log) (begun : List Job) (done : Log) : Prop where
  starts : l.filter (·.indent = 0) = begun.map fun j => Job.startEntry j.name
  indent : ∀ e ∈ l, e.indent = 0 ∨ e.indent = 1
  successes : l.atLevel .success = done
  errors : l.atLevel .error = []

namespace Log.Tells

variable {l l' done done' : Log} {begun begun' : List Job}

theorem append (h : l.Tells begun done) (h' : l'.Tells begun' done') :
    Log.Tells (l ++ l') (begun ++ begun') (done ++ done') where
  starts := by rw [List.filter_append, h.starts, h'.starts, List.map_append]
  indent e he := (List.mem_append.1 he).elim (h.indent e) (h'.indent e)
  successes := (List.filter_append ..).trans (congrArg₂ _ h.successes h'.successes)
  errors := (List.filter_append ..).trans (congrArg₂ _ h.errors h'.errors)

/-- Entries of operators that tell neither of success nor of failure. -/
theorem of_plain (h : ∀ e ∈ l, e.indent = 1 ∧ (e.level = .info ∨ e.level = .warning)) :
    l.Tells [] [] where
  starts := List.filter_eq_nil_iff.2 fun e he => by simp [(h e he).1]
  indent e he := .inr (h e he).1
  successes := List.filter_eq_nil_iff.2 fun e he => by rcases (h e he).2 with hl | hl <;> simp [hl]
  errors := List.filter_eq_nil_iff.2 fun e he => by rcases (h e he).2 with hl | hl <;> simp [hl]

theorem nil : Log.Tells [] [] [] := of_plain nofun

theorem start (j : Job) : Log.Tells [Job.startEntry j.name] [j] [] where
  starts := rfl
  indent := by simp [Job.startEntry]
  successes := rfl
  errors := rfl

theorem finished (o : Operator) (job : String) (s : Store) :
    Log.Tells [o.doneEntry job s] [] [o.doneEntry job s] where
  starts := rfl
  indent := by simp [Operator.doneEntry]
  successes := rfl
  errors := rfl

end Log.Tells

/-- What a finished operator notes of itself. -/
theorem Operator.entries_of_change {setting : Setting} {job : String} {raw : Value} {o : Operator}
    {s : Session} {c : Change} (h : o.change setting job raw s = .ok c) :
    ∀ e ∈ c.entries, e.indent = 1 ∧ (e.level = .info ∨ e.level = .warning) := by
  cases o with
  | load =>
    obtain ⟨⟨records, entry⟩, hr, h⟩ := bind_eq_ok.1 h
    obtain ⟨_, -, hr⟩ := bind_eq_ok.1 hr
    obtain ⟨_, -, hr⟩ := bind_eq_ok.1 hr
    obtain ⟨_, -, hr⟩ := bind_eq_ok.1 hr
    cases hr
    cases h
    simp [Transfer.readEntry]
  | copyTo | cloneObjects | filterObjects | copyToArray | mergeObjects =>
    obtain ⟨_, -, h⟩ := bind_eq_ok.1 h
    cases h
    nofun
  | filterFields | mapFields | mapValues =>
    obtain ⟨_, -, h⟩ := bind_eq_ok.1 h
    obtain ⟨_, -, h⟩ := bind_eq_ok.1 h
    cases h
    nofun
  | aggregate =>
    obtain ⟨⟨target, records, entries⟩, hr, h⟩ := bind_eq_ok.1 h
    obtain ⟨_, -, hr⟩ := bind_eq_ok.1 hr
    obtain ⟨_, -, hr⟩ := bind_eq_ok.1 hr
    obtain ⟨_, -, hr⟩ := bind_eq_ok.1 hr
    obtain ⟨_, -, hr⟩ := bind_eq_ok.1 hr
    cases hr
    cases h
    unfold Grouping.warnings
    split
    · nofun
    · simp
  | save =>
    obtain ⟨_, -, h⟩ := bind_eq_ok.1 h
    obtain ⟨_, -, h⟩ := bind_eq_ok.1 h
    cases h
    simp [Transfer.writtenEntry]

/-! ## Steps and operations -/

theorem Step.log_run (setting : Setting) (p : Step) (s : Session) :
    ∃ l : Log, (p.run setting s).2.log = s.log ++ l ∧ l.Tells [] (doneEntries setting [p] s) := by
  have hrun : p.run setting s = _ := p.operator.run_eq setting p.job p.raw s
  cases hc : p.operator.change setting p.job p.raw s with
  | error e =>
    rw [hc] at hrun
    refine ⟨[], by rw [hrun, List.append_nil], ?_⟩
    rw [doneEntries, moments_cons_of_error hrun]
    exact .nil
  | ok c =>
    rw [hc] at hrun
    dsimp only at hrun
    refine ⟨c.entries ++ [p.operator.doneEntry p.job (c.store s.store)], ?_, ?_⟩
    · rw [hrun, List.append_assoc]
    · have hentry : Moment.doneEntry setting ⟨p, s⟩ =
          p.operator.doneEntry p.job (c.store s.store) := by
        rw [Moment.doneEntry, Moment.left, hrun]
      rw [doneEntries, moments_cons hrun, moments, List.map_cons, List.map_nil, hentry]
      exact (Log.Tells.of_plain (Operator.entries_of_change hc)).append (.finished ..)

/-- What steps add to the log, also if one of them fails. -/
theorem Step.log_forM (setting : Setting) (ps : List Step) (s : Session) :
    ∃ l : Log, (forM ps (Step.run setting) s).2.log = s.log ++ l ∧
      l.Tells [] (doneEntries setting ps s) := by
  induction ps generalizing s with
  | nil => exact ⟨[], (List.append_nil _).symm, .nil⟩
  | cons p ps ih =>
    obtain ⟨l, hlog, hl⟩ := p.log_run setting s
    rw [List.forM_cons]
    rcases hp : p.run setting s with ⟨e | _, t⟩ <;> rw [hp] at hlog
    · rw [Attempt.bind_error hp]
      refine ⟨l, hlog, ?_⟩
      rwa [doneEntries, moments_cons_of_error hp] at hl ⊢
    · obtain ⟨l', hlog', hl'⟩ := ih t
      rw [Attempt.bind_ok hp]
      refine ⟨l ++ l', by rw [hlog', hlog, List.append_assoc], ?_⟩
      rw [doneEntries, moments_cons hp] at hl
      rw [doneEntries, moments_cons hp]
      exact hl.append hl'

/-- What an operation adds to the log: first the warnings, then what its operators add. -/
theorem Operation.log_run (setting : Setting) (job : String) (o : Operation) (s : Session) :
    ∃ l : Log, (o.run setting job s).2.log = s.log ++ l ∧
      l.Tells [] (Step.doneEntries setting (o.steps job) s) := by
  obtain ⟨l, hlog, hl⟩ :=
    Step.log_forM setting (o.steps job) (s.note (o.unknown.names.map unknownEntry))
  have hwarnings : Log.Tells (o.unknown.names.map unknownEntry) [] [] :=
    .of_plain fun e he => by
      obtain ⟨name, -, rfl⟩ := List.mem_map.1 he
      exact ⟨rfl, .inr rfl⟩
  refine ⟨o.unknown.names.map unknownEntry ++ l, ?_, ?_⟩
  · rw [run_eq_forM, Attempt.bind_ok (Attempt.note_apply ..), Attempt.session_of_return, hlog,
      Session.note, List.append_assoc]
  · rw [Step.doneEntries_of_same _ (Session.same_note_left s s _ (.refl s))] at hl
    exact hwarnings.append hl

/-! ## Jobs -/

/-- The entries about the end of a run: the error, if it failed. -/
def Job.endEntries {α : Type} : Except RunError α → Log
  | .ok _ => []
  | .error e => [⟨.error, e.message, 1⟩]

/-- The run adds entries to the log that tell of the beginning of the jobs and of the finished
operators, and a last one if it fails. -/
def Reports {α : Type} (x : Run α) (s : Session) (begun : List Job) (done : Log) : Prop :=
  ∃ l : Log, (x s).2.log = s.log ++ (l ++ Job.endEntries (x s).1) ∧ l.Tells begun done

namespace Reports

variable {α β : Type} {x : Run α} {f : α → Run β} {s t : Session} {begun begun' : List Job}
  {done done' : Log}

theorem bind_ok {a : α} (hx : x s = (.ok a, t)) (h : Reports x s begun done)
    (h' : Reports (f a) t begun' done') :
    Reports (x >>= f) s (begun ++ begun') (done ++ done') := by
  obtain ⟨l, hlog, hl⟩ := h
  obtain ⟨l', hlog', hl'⟩ := h'
  rw [hx] at hlog
  refine ⟨l ++ l', ?_, hl.append hl'⟩
  rw [Attempt.bind_ok hx, hlog', hlog, Job.endEntries, List.append_nil, List.append_assoc,
    List.append_assoc]

theorem bind_error {e : RunError} (hx : x s = (.error e, t)) (h : Reports x s begun done) :
    Reports (x >>= f) s begun done := by
  rw [Reports, hx] at h
  rwa [Reports, Attempt.bind_error hx]

/-- What is returned in the end is not reported. -/
theorem bind_pure (h : Reports x s begun done) (g : α → β) :
    Reports (x >>= fun a => pure (g a)) s begun done := by
  rw [Reports] at h ⊢
  rcases hx : x s with ⟨e | a, t⟩ <;> rw [hx] at h
  · rwa [Attempt.bind_error hx]
  · rwa [Attempt.bind_ok hx]

theorem noteFailure
    (h : ∃ l : Log, (x s).2.log = s.log ++ l ∧ l.Tells begun done) :
    Reports (Job.noteFailure x) s begun done := by
  obtain ⟨l, hlog, hl⟩ := h
  refine ⟨l, ?_, hl⟩
  rw [Job.noteFailure]
  rcases hx : x s with ⟨e | a, t⟩ <;> rw [hx] at hlog
  · exact (congrArg (· ++ _) hlog).trans (List.append_assoc ..)
  · exact hlog.trans (by rw [Job.endEntries, List.append_nil])

end Reports

namespace Job

open Step

variable (setting : Setting)

theorem reports_runOperations (job : String) (os : List Operation) (s : Session) :
    Reports (runOperations setting job os) s []
      (doneEntries setting (os.flatMap (Operation.steps job)) s) := by
  induction os generalizing s with
  | nil => exact ⟨[], (List.append_nil _).symm, .nil⟩
  | cons o os ih =>
    have hfirst := Reports.noteFailure (o.log_run setting job s)
    have halike := noteFailure_alike (o.run_alike setting job)
    rw [runOperations, List.flatMap_cons]
    rcases hx : noteFailure (o.run setting job) s with ⟨e | n, t⟩
    · obtain ⟨u, hu, -⟩ := forM_of_error halike (.refl s) hx
      rw [doneEntries_append_of_error hu]
      exact .bind_error hx hfirst
    · obtain ⟨u, hu, htu⟩ := forM_of_ok halike (.refl s) hx
      rw [doneEntries_append hu, ← doneEntries_of_same _ htu]
      exact .bind_ok hx hfirst ((ih t).bind_pure (n + ·))

theorem reports_run (j : Job) (s : Session) :
    Reports (j.run setting) s [j] (doneEntries setting j.steps s) := by
  have hstart : Reports (Attempt.note [startEntry j.name]) s [j] [] :=
    ⟨_, rfl, .start j⟩
  rw [← doneEntries_of_same _ (Session.same_note_left s s [startEntry j.name] (.refl s))]
  exact .bind_ok (Attempt.note_apply ..) hstart (reports_runOperations setting j.name _ _)

/-- Jobs that are all finished. -/
theorem reports_mapM {js : List Job} {s t : Session} {counts : List Nat}
    (h : js.mapM (Job.run setting) s = (.ok counts, t)) :
    Reports (js.mapM (Job.run setting)) s js
      (doneEntries setting (js.flatMap Job.steps) s) := by
  induction js generalizing s t counts with
  | nil => exact ⟨[], (List.append_nil _).symm, .nil⟩
  | cons j js ih =>
    rw [List.mapM_cons] at h
    obtain ⟨n, u, hj, h⟩ := Attempt.of_bind_ok h
    obtain ⟨ns, v, hjs, -⟩ := Attempt.of_bind_ok h
    obtain ⟨w, hw, huw⟩ := forM_of_ok (j.run_alike setting) (.refl s) hj
    rw [List.mapM_cons, List.flatMap_cons, doneEntries_append hw, ← doneEntries_of_same _ huw]
    exact .bind_ok hj (reports_run setting j s) ((ih hjs).bind_pure (n :: ·))

end Job

/-! ## Configurations -/

namespace Config

open Step

variable {setting : Setting} {c : Config} {s t : Session}

theorem reports_of_ok {summary : Summary} (h : c.run setting s = (.ok summary, t)) :
    Reports (c.run setting) s c.jobs (doneEntries setting c.steps s) := by
  rw [run_eq_mapM] at h ⊢
  obtain ⟨counts, u, hjobs, -⟩ := Attempt.of_bind_ok h
  exact (Job.reports_mapM setting hjobs).bind_pure _

/-- A run that fails does so at a step of one of its jobs. It tells of the jobs up to this one and
of the steps before that one. -/
theorem reports_of_error {e : RunError} (h : c.run setting s = (.error e, t)) :
    ∃ (js js' : List Job) (j : Job) (qs qs' : List Step) (p : Step) (u v : Session),
      c.jobs = js ++ j :: js' ∧ j.steps = qs ++ p :: qs' ∧
      forM (js.flatMap Job.steps ++ qs) (Step.run setting) s = (.ok (), u) ∧
      p.run setting u = (.error e, v) ∧
      Reports (c.run setting) s (js ++ [j]) (doneEntries setting c.steps s) := by
  rw [run_eq_mapM] at h ⊢
  rcases Attempt.of_bind_error h with hjobs | ⟨counts, u, -, hend⟩
  · obtain ⟨js, j, js', u, counts, hc, hjs, hj⟩ := Attempt.mapM_eq_error hjobs
    -- the steps of the jobs before `j` are finished, and one of the steps of `j` fails
    obtain ⟨v, hv, huv⟩ := forM_of_ok (Job.mapM_run_alike setting js) (.refl s) hjs
    obtain ⟨w, hw, -⟩ := forM_of_error (j.run_alike setting) huv hj
    obtain ⟨qs, p, qs', z, hsteps, hqs, hp⟩ := Attempt.forM_eq_error hw
    have hdone : forM (js.flatMap Job.steps ++ qs) (Step.run setting) s = (.ok (), z) := by
      rw [List.forM_append, Attempt.bind_ok hv, hqs]
    refine ⟨js, js', j, qs, qs', p, z, w, hc, hsteps, hdone, hp, .bind_pure ?_ _⟩
    have hentries : doneEntries setting c.steps s =
        doneEntries setting (js.flatMap Job.steps) s ++ doneEntries setting j.steps u := by
      rw [doneEntries_of_same _ huv, ← doneEntries_append hv, steps, hc, List.flatMap_append,
        List.flatMap_cons, ← List.append_assoc]
      exact doneEntries_append_of_error (by rw [List.forM_append, Attempt.bind_ok hv, hw]) _
    rw [hentries, hc, List.mapM_append, List.mapM_cons]
    exact .bind_ok hjs (Job.reports_mapM setting hjs)
      (.bind_pure (.bind_error hj (Job.reports_run setting j u)) _)
  · cases hend

/-- **The log tells what happened.** A finished run adds one entry without indentation for each job
and an entry of success for each operator, as many as it has counted, and none of a failure. A run
that fails does so at a step of one of its jobs. It adds entries that tell of this job and those
before it and of the operators that were finished, and then, as the last entry, the error. The
entry of a finished operator tells how many records its collection has after it. -/
theorem log_of_run : ∀ (setting : Setting) (c : Config) (s : Session),
    (∀ summary t, c.run setting s = (.ok summary, t) → ∃ l : Log, t.log = s.log ++ l ∧
      l.Tells c.jobs ((moments setting c.steps s).map (Moment.doneEntry setting)) ∧
      (moments setting c.steps s).map (·.step) = c.steps ∧
      (l.atLevel .success).length = summary.operations ∧
      (l.filter (·.indent = 0)).length = summary.jobs) ∧
    (∀ e t, c.run setting s = (.error e, t) →
      ∃ (l : Log) (js js' : List Job) (j : Job) (qs qs' : List Step) (p : Step) (u : Session),
        t.log = s.log ++ (l ++ [⟨.error, e.message, 1⟩]) ∧
        c.jobs = js ++ j :: js' ∧ j.steps = qs ++ p :: qs' ∧
        forM (js.flatMap Job.steps ++ qs) (Step.run setting) s = (.ok (), u) ∧
        (p.run setting u).1 = .error e ∧
        l.Tells (js ++ [j]) ((moments setting c.steps s).map (Moment.doneEntry setting)) ∧
        (moments setting c.steps s).map (·.step) = js.flatMap Job.steps ++ qs ∧
        (l.atLevel .success).length = (js.flatMap Job.steps ++ qs).length) ∧
    ∀ m ∈ moments setting c.steps s, ∀ records,
      (m.left setting).store.get? m.step.job = some records → m.doneEntry setting =
        ⟨.success, m.step.operator.name ++ " (" ++ Number.intText records.length ++ " records)",
          1⟩ := by
  intro setting c s
  refine ⟨fun summary t h => ?_, fun e t h => ?_, fun m _ records hm => ?_⟩
  · obtain ⟨u, hu, -⟩ := forM_of_ok (c.run_alike setting) (.refl s) h
    have hsteps := moments_of_forM_ok hu
    have hcount : summary = ⟨c.jobs.length, c.steps.length⟩ :=
      Attempt.eq_of_return ((c.run_alike setting s s (.refl s)).1.symm.trans (by rw [h]))
    obtain ⟨l, hlog, hl⟩ := reports_of_ok h
    rw [h, Job.endEntries, List.append_nil] at hlog
    refine ⟨l, hlog, hl, hsteps, ?_, by rw [hl.starts, List.length_map, hcount]⟩
    rw [hl.successes, hcount, ← congrArg List.length hsteps, doneEntries, List.length_map,
      List.length_map]
  · obtain ⟨js, js', j, qs, qs', p, u, v, hc, hj, hdone, hp, l, hlog, hl⟩ := reports_of_error h
    rw [h] at hlog
    have hmoments : moments setting c.steps s = moments setting (js.flatMap Job.steps ++ qs) s := by
      have hsteps : c.steps =
          js.flatMap Job.steps ++ qs ++ p :: (qs' ++ js'.flatMap Job.steps) := by
        simp [steps, hc, hj]
      rw [hsteps, moments_append_cons_of_error hdone hp]
    have hfinished := moments_of_forM_ok hdone
    refine ⟨l, js, js', j, qs, qs', p, u, hlog, hc, hj, hdone, congrArg Prod.fst hp, hl,
      by rw [hmoments, hfinished], ?_⟩
    rw [hl.successes, doneEntries, hmoments, List.length_map, ← List.length_map, hfinished]
  · rw [Moment.doneEntry, Operator.doneEntry, hm]

/-- Two collections, so that every job finds its own. -/
def collectionsAC : Session :=
  ⟨.ofList [("a", [.object [("k", .string "x")], .bool true]), ("c", [.null])], default, []⟩

theorem log_of_copyTwice :
    (∃ (l : Log) (t : Session), copyTwice.run ⟨none, .empty⟩ collectionsAC = (.ok ⟨2, 3⟩, t) ∧
      t.log = [] ++ l ∧ l.atLevel .error = [] ∧
      l.filter (·.indent = 0) = [Job.startEntry "a", Job.startEntry "c"] ∧
      l.atLevel .success = [⟨.success, "copyTo (4 records)", 1⟩,
        ⟨.success, "copyToArray (4 records)", 1⟩, ⟨.success, "copyTo (1 records)", 1⟩]) ∧
    ∃ (l : Log) (t : Session) (e : RunError), e = ⟨"c", .copyTo, .missingCollection "c"⟩ ∧
      copyTwice.run ⟨none, .empty⟩ collectionsA = (.error e, t) ∧
      t.log = [] ++ (l ++ [⟨.error, e.message, 1⟩]) ∧ l.atLevel .error = [] ∧
      l.atLevel .success = [⟨.success, "copyTo (4 records)", 1⟩,
        ⟨.success, "copyToArray (4 records)", 1⟩] := by
  obtain ⟨l, hlog, hl, -⟩ := (log_of_run ⟨none, .empty⟩ copyTwice collectionsAC).1 ⟨2, 3⟩ _ rfl
  obtain ⟨l', _, _, _, _, _, _, _, hlog', -, -, -, -, hl', -⟩ :=
    (log_of_run ⟨none, .empty⟩ copyTwice collectionsA).2.1 _ _ rfl
  exact ⟨⟨l, _, rfl, hlog, hl.errors, hl.starts.trans rfl, hl.successes.trans rfl⟩,
    l', _, _, rfl, rfl, hlog', hl'.errors, hl'.successes.trans rfl⟩

end Config

end Reshape
