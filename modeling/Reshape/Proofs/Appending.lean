import Reshape.Proofs.Failure
import Reshape.Proofs.Target

/-!
# Collections that are only added to

If no step sets a collection but those that copy to its end, then a run keeps what was there and
adds what each of these steps contributes: the records of its job, or a field of each of them, as
they were at the moment of the step. A step may well copy a collection to its own end.

* `Moment`: a finished step and the session that it found; `Step.moments` lists those of a run.
* `Moment.contribution`: what the step adds to its target.
* `Step.contents_run`, `Step.contents_forM`: one step, and a list of steps.
* `Config.run_appends`: a whole run, finished or not.
-/

namespace Reshape

/-- The values in a collection, none if it is not there. -/
def Store.contents (s : Store) (name : String) : Collection := (s.get? name).getD []

/-- A finished step and the session that it found. -/
structure Moment where
  step : Step
  found : Session

/-- The moments of steps that are run one after another until one fails. -/
def Step.moments (setting : Setting) : List Step → Session → List Moment
  | [], _ => []
  | p :: ps, s => match p.run setting s with
    | (.ok (), t) => ⟨p, s⟩ :: moments setting ps t
    | (.error _, _) => []

/-- The field that the parameters of `copyToArray` name. -/
def Copy.field? (raw : Value) : Option String :=
  (Shape.readRecord fieldStruct raw).toOption.bind (·.text? "field")

/-- What a step that copies adds to the end of its target: all records of its job, or the values of
a field of each of them, null where it is missing. -/
def Moment.contribution (m : Moment) : Collection :=
  match m.step.operator with
  | .copyTo => m.found.store.contents m.step.job
  | .copyToArray => (Copy.field? m.step.raw).elim []
      (Copy.fieldValues (m.found.store.contents m.step.job))
  | _ => []

/-- What the step adds to the end of a collection; nothing if this is not its target. -/
def Moment.addedTo (name : String) (m : Moment) : Collection :=
  if m.step.target? = some name then m.contribution else []

/-! ## One step -/

namespace Store

theorem contents_of_get? {s t : Store} {name : String} (h : s.get? name = t.get? name) :
    s.contents name = t.contents name := by
  rw [contents, contents, h]

theorem contents_of_find {s : Store} {name : String} {c : Collection} (h : s.find name = .ok c) :
    s.contents name = c := by
  rw [contents, find_eq_ok.1 h]
  rfl

end Store

theorem Change.contents_append (s : Store) (name : String) (values : Collection) :
    ((Change.append s name values).store s).contents name = s.contents name ++ values := by
  rw [append, put, store, Store.contents, Catalog.get?_insert_self]
  rfl

theorem Copy.contents_of_records {s : Store} {job target : String} {raw : Value} {c : Collection}
    (h : Copy.records s job raw = .ok (target, c)) : s.contents job = c := by
  obtain ⟨name, -, h⟩ := bind_eq_ok.1 h
  obtain ⟨d, hd, h⟩ := bind_eq_ok.1 h
  cases h
  exact Store.contents_of_find hd

theorem Copy.contents_of_values {s : Store} {job target : String} {raw : Value} {vs : Collection}
    (h : Copy.values s job raw = .ok (target, vs)) :
    ∃ field, Copy.field? raw = some field ∧ Copy.fieldValues (s.contents job) field = vs := by
  obtain ⟨params, hparams, h⟩ := bind_eq_ok.1 h
  obtain ⟨name, -, h⟩ := bind_eq_ok.1 h
  obtain ⟨field, hfield, h⟩ := bind_eq_ok.1 h
  obtain ⟨d, hd, h⟩ := bind_eq_ok.1 h
  cases h
  refine ⟨field, ?_, by rw [Store.contents_of_find hd]⟩
  rw [field?, Operator.readWith_eq_ok.1 hparams]
  exact Record.required_eq_ok.1 hfield

/-- What a finished step that copies to a collection has changed. -/
theorem Operator.change_eq_append {setting : Setting} {p : Step} {s : Session} {c : Change}
    {d : String} (hp : p.operator = .copyTo ∨ p.operator = .copyToArray)
    (htarget : p.target? = some d) (h : p.operator.change setting p.job p.raw s = .ok c) :
    c = .append s.store d (Moment.contribution ⟨p, s⟩) := by
  obtain ⟨job, o, raw⟩ := p
  simp only [Step.target?] at hp htarget h
  rcases hp with rfl | rfl
  · obtain ⟨⟨target, records⟩, hr, h⟩ := bind_eq_ok.1 h
    cases h
    rw [Copy.target_of_records hr] at htarget
    cases htarget
    rw [Moment.contribution, Copy.contents_of_records hr]
  · obtain ⟨⟨target, values⟩, hr, h⟩ := bind_eq_ok.1 h
    cases h
    rw [Copy.target_of_values hr] at htarget
    cases htarget
    obtain ⟨field, hfield, hvalues⟩ := Copy.contents_of_values hr
    rw [Moment.contribution, hfield, Option.elim_some, hvalues]

namespace Step

variable {setting : Setting} {d : String}

/-- The step copies to the end of the collection if it sets it at all. -/
def OnlyAppends (d : String) (p : Step) : Prop :=
  p.target? = some d → p.operator = .copyTo ∨ p.operator = .copyToArray

instance : DecidablePred (OnlyAppends d) := fun _ => inferInstanceAs (Decidable (_ → _))

theorem contents_run {p : Step} (hp : p.OnlyAppends d) {s t : Session}
    (h : p.run setting s = (.ok (), t)) :
    t.store.contents d = s.store.contents d ++ Moment.addedTo d ⟨p, s⟩ := by
  rw [Moment.addedTo]
  split
  · rename_i htarget
    rw [run, Operator.run_eq] at h
    cases hc : p.operator.change setting p.job p.raw s with
    | error e =>
      rw [hc] at h
      cases h
    | ok c =>
      rw [hc, Operator.change_eq_append (hp htarget) htarget hc] at h
      cases h
      exact Change.contents_append ..
  · rename_i htarget
    have hkept := (p.changedOnly_run setting s).get?_eq d (by simpa using htarget)
    rw [h] at hkept
    rw [List.append_nil, Store.contents_of_get? hkept]

/-! ## A run -/

theorem moments_cons {p : Step} {s t : Session} (h : p.run setting s = (.ok (), t))
    (ps : List Step) : moments setting (p :: ps) s = ⟨p, s⟩ :: moments setting ps t := by
  rw [moments, h]

/-- If all steps but those that copy leave the collection alone, then what they add to it follows
what was there, also if a step fails. -/
theorem contents_forM (setting : Setting) {ps : List Step} (hps : ∀ p ∈ ps, p.OnlyAppends d)
    (s : Session) :
    (forM ps (Step.run setting) s).2.store.contents d =
      s.store.contents d ++ (moments setting ps s).flatMap (Moment.addedTo d) := by
  induction ps generalizing s with
  | nil => exact (List.append_nil _).symm
  | cons p ps ih =>
    rcases hrun : p.run setting s with ⟨e | _, t⟩
    · have hstore : t.store = s.store := Operator.store_of_run_eq_error hrun
      rw [List.forM_cons, Attempt.bind_error hrun, moments, hrun, List.flatMap_nil,
        List.append_nil, hstore]
    · rw [List.forM_cons, Attempt.bind_ok hrun, moments_cons hrun,
        ih fun q hq => hps q (List.mem_cons_of_mem _ hq), contents_run (hps p (by simp)) hrun,
        List.flatMap_cons, List.append_assoc]

/-- If the steps are finished, then each of them has its moment. -/
theorem moments_of_forM_ok {ps : List Step} {s t : Session}
    (h : forM ps (Step.run setting) s = (.ok (), t)) :
    (moments setting ps s).map (·.step) = ps := by
  induction ps generalizing s with
  | nil => rfl
  | cons p ps ih =>
    obtain ⟨u, hp, hps⟩ := Attempt.forM_cons_eq_ok h
    rw [moments_cons hp, List.map_cons, ih hps]

/-- Steps that come after others find what these leave. -/
theorem moments_append {ps : List Step} {s t : Session}
    (h : forM ps (Step.run setting) s = (.ok (), t)) (qs : List Step) :
    moments setting (ps ++ qs) s = moments setting ps s ++ moments setting qs t := by
  induction ps generalizing s with
  | nil =>
    cases h
    rfl
  | cons p ps ih =>
    obtain ⟨u, hp, hps⟩ := Attempt.forM_cons_eq_ok h
    rw [List.cons_append, moments_cons hp, moments_cons hp, ih hps, List.cons_append]

end Step

namespace Config

/-- **Copies are added to the end, and nothing else happens.** Let all steps of a configuration that
set a collection be steps that copy. Then after a run the collection holds what it held before,
followed by what the finished steps among them add one after another, each taking the records of
its job as it found them. A finished run has finished all steps, and a run that fails those before
the one that failed. -/
theorem run_appends : ∀ (setting : Setting) (c : Config) (s : Session) (d : String),
    (∀ p ∈ c.steps, p.OnlyAppends d) →
      (c.run setting s).2.store.contents d = s.store.contents d ++
        (Step.moments setting c.steps s).flatMap (Moment.addedTo d) ∧
      (∀ n t, c.run setting s = (.ok n, t) →
        (Step.moments setting c.steps s).map (·.step) = c.steps) ∧
      ∀ e t, c.run setting s = (.error e, t) → ∃ done p u, c.Before done p ∧
        (Step.moments setting c.steps s).map (·.step) = done ∧
        forM done (Step.run setting) s = (.ok (), u) ∧ (p.run setting u).1 = .error e := by
  intro setting c s d hsteps
  obtain ⟨hr, hstore, -⟩ := c.run_alike setting s s (.refl s)
  have hcontents := Step.contents_forM setting hsteps s
  rcases hps : forM c.steps (Step.run setting) s with ⟨e | _, t⟩ <;> rw [hps] at hcontents
  · rw [Attempt.bind_error hps] at hr hstore
    refine ⟨by rw [hstore, hcontents], fun n t h => ?_, fun e' t' h => ?_⟩
    · rw [h] at hr
      cases hr
    · rw [h] at hr
      cases hr
      obtain ⟨done, p, rest, u, hc, hdone, hp⟩ := Attempt.forM_eq_error hps
      refine ⟨done, p, u, before_of_steps hc, ?_, hdone, congrArg Prod.fst hp⟩
      rw [hc, Step.moments_append hdone, Step.moments, hp, List.append_nil,
        Step.moments_of_forM_ok hdone]
  · rw [Attempt.bind_ok hps] at hr hstore
    refine ⟨by rw [hstore, ← hcontents]; rfl, fun n t _ => Step.moments_of_forM_ok hps,
      fun e t h => ?_⟩
    rw [h] at hr
    cases hr

/-- Copies a collection to its own end and then a field of its records to another collection, and
looks for a collection that is missing. -/
def copyTwice : Config :=
  .sequence [.job ⟨"a", [.single .copyTo (.string "a"),
      .single .copyToArray (.object [("copyTo", .string "b"), ("field", .string "k")])]⟩,
    .job ⟨"c", [.single .copyTo (.string "b")]⟩]

/-- One collection of a record and a value. -/
def collectionsA : Session :=
  ⟨.ofList [("a", [.object [("k", .string "x")], .bool true])], default, []⟩

theorem run_appends_copyTwice :
    (∀ p ∈ copyTwice.steps, p.OnlyAppends "a") ∧ (∀ p ∈ copyTwice.steps, p.OnlyAppends "b") ∧
    (∃ t, copyTwice.run ⟨none, .empty⟩ collectionsA =
      (.error ⟨"c", .copyTo, .missingCollection "c"⟩, t)) ∧
    (copyTwice.run ⟨none, .empty⟩ collectionsA).2.store.contents "a" =
      [.object [("k", .string "x")], .bool true] ++
        [.object [("k", .string "x")], .bool true] ∧
    (copyTwice.run ⟨none, .empty⟩ collectionsA).2.store.contents "b" =
      [] ++ [.string "x", .null, .string "x", .null] ∧
    ∃ done p u, copyTwice.Before done p ∧
      (Step.moments ⟨none, .empty⟩ copyTwice.steps collectionsA).map (·.step) = done ∧
      forM done (Step.run ⟨none, .empty⟩) collectionsA = (.ok (), u) ∧
      (p.run ⟨none, .empty⟩ u).1 = .error ⟨"c", .copyTo, .missingCollection "c"⟩ := by
  have ha : ∀ p ∈ copyTwice.steps, p.OnlyAppends "a" := by decide
  have hb : ∀ p ∈ copyTwice.steps, p.OnlyAppends "b" := by decide
  obtain ⟨hcontents, -, hfailed⟩ := run_appends ⟨none, .empty⟩ copyTwice collectionsA "a" ha
  exact ⟨ha, hb, ⟨_, rfl⟩, hcontents,
    (run_appends ⟨none, .empty⟩ copyTwice collectionsA "b" hb).1, hfailed _ _ rfl⟩

end Config

end Reshape
