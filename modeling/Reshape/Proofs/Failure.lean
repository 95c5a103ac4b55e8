import Reshape.Proofs.Steps

/-!
# What a failed run leaves

An operator that fails leaves the store as it was. So what a failed run leaves in the store is what
the steps before the failing one have made of it, and which steps these are can be read off the
configuration (`Config.Before`).

* `flatMap_eq_append_cons`, `filterMap_eq_append_cons`: where an element of a list of steps comes
  from.
* `Config.before_of_steps`: the steps before one are all of the jobs, operations and operators
  before its own.
-/

namespace Reshape

section Lists

variable {α β : Type}

theorem flatMap_eq_append_cons {f : α → List β} {l : List α} {bs bs' : List β} {b : β}
    (h : l.flatMap f = bs ++ b :: bs') :
    ∃ as a as' cs cs', l = as ++ a :: as' ∧ f a = cs ++ b :: cs' ∧ bs = as.flatMap f ++ cs := by
  induction l generalizing bs with
  | nil => simp at h
  | cons a l ih =>
    rw [List.flatMap_cons, List.append_eq_append_iff] at h
    rcases h with ⟨cs, rfl, h⟩ | ⟨cs, h, hcs⟩
    · obtain ⟨as, a', as', ds, ds', rfl, ha', rfl⟩ := ih h
      exact ⟨a :: as, a', as', ds, ds', rfl, ha', by simp⟩
    · cases cs with
      | nil =>
        -- the element is the first one after those of `a`
        have hl : l.flatMap f = [] ++ b :: bs' := by simpa using hcs.symm
        obtain ⟨as, a', as', ds, ds', rfl, ha', hds⟩ := ih hl
        refine ⟨a :: as, a', as', ds, ds', rfl, ha', ?_⟩
        rw [List.flatMap_cons, List.append_assoc, ← hds, h]
        simp
      | cons c cs =>
        obtain ⟨rfl, -⟩ := List.cons.inj hcs
        exact ⟨[], a, l, bs, cs, rfl, h, rfl⟩

theorem filterMap_eq_append_cons {f : α → Option β} {l : List α} {bs bs' : List β} {b : β}
    (h : l.filterMap f = bs ++ b :: bs') :
    ∃ as a as', l = as ++ a :: as' ∧ f a = some b ∧ bs = as.filterMap f := by
  obtain ⟨l₁, l₂, rfl, rfl, hl₂⟩ := List.filterMap_eq_append_iff.1 h
  obtain ⟨as, a, as', rfl, hnone, ha, -⟩ := List.filterMap_eq_cons_iff.1 hl₂
  refine ⟨l₁ ++ as, a, as', by simp, ha, ?_⟩
  rw [List.filterMap_append, List.filterMap_eq_nil_iff.2 hnone, List.append_nil]

end Lists

namespace Config

/-- The steps before one of the configuration: all of the jobs before its job, of the operations of
that job before its operation, and of the operators of that operation before its own. -/
inductive Before (c : Config) : List Step → Step → Prop
  | mk {js js' : List Job} {j : Job} {os os' : List Operation} {o : Operation}
      {ks ks' : List Operator} {k : Operator} {raw : Value}
      (jobs : c.jobs = js ++ j :: js') (operations : j.operations = os ++ o :: os')
      (operators : Operator.all = ks ++ k :: ks') (given : o.get? k = some raw) :
      Before c (js.flatMap Job.steps ++ (os.flatMap (Operation.steps j.name) ++
        ks.filterMap (o.step? j.name))) ⟨j.name, k, raw⟩

theorem before_of_steps {c : Config} {done rest : List Step} {p : Step}
    (h : c.steps = done ++ p :: rest) : c.Before done p := by
  obtain ⟨js, j, js', ps, ps', hj, hps, rfl⟩ := flatMap_eq_append_cons h
  obtain ⟨os, o, os', qs, qs', ho, hqs, rfl⟩ := flatMap_eq_append_cons hps
  obtain ⟨ks, k, ks', hk, hp, rfl⟩ := filterMap_eq_append_cons hqs
  obtain ⟨raw, hraw, rfl⟩ := Option.map_eq_some_iff.1 hp
  exact .mk hj ho hk hraw

/-- **A failure keeps what was finished, and nothing else.** An operator that fails leaves the store
as it was. A run that fails does so at one of its steps, with the error of that step, and leaves the
store that the steps before it make when they alone are run. -/
theorem store_of_failed_run :
    (∀ (setting : Setting) (job : String) (o : Operator) (raw : Value) (s t : Session)
      (e : RunError), o.run setting job raw s = (.error e, t) → t.store = s.store) ∧
    ∀ (setting : Setting) (c : Config) (s t : Session) (e : RunError),
      c.run setting s = (.error e, t) →
      ∃ done p u, c.Before done p ∧ forM done (Step.run setting) s = (.ok (), u) ∧
        (p.run setting u).1 = .error e ∧ t.store = u.store := by
  refine ⟨fun setting job o raw s t e => Operator.store_of_run_eq_error,
    fun setting c s t e h => ?_⟩
  obtain ⟨hr, hs⟩ := c.run_alike setting s s (.refl s)
  rw [h] at hr hs
  -- the steps fail as the run does, so one of them does
  rcases hps : forM c.steps (Step.run setting) s with ⟨e' | _, v⟩
  · rw [Attempt.bind_error hps] at hr hs
    cases hr
    obtain ⟨done, p, rest, u, hsteps, hdone, hp⟩ := Attempt.forM_eq_error hps
    refine ⟨done, p, u, before_of_steps hsteps, hdone, congrArg Prod.fst hp, ?_⟩
    exact hs.1.trans (Operator.store_of_run_eq_error hp)
  · rw [Attempt.bind_ok hps] at hr
    cases hr

/-- A job that copies its records, and one that renames them and then calls a mapper. -/
def copyThenCall : Config :=
  .sequence [.job ⟨"in", [.single .copyTo (.string "out")]⟩,
    .sequence [.job ⟨"out", [.single .mapValues (.array [
      .object [("field", .string "k"), ("from", .string "a"), ("to", .string "b")],
      .object [("call", .string "shout")]])]⟩]]

/-- The copy is finished when the mapper turns out to be missing, and the renaming that stands
before the call is not made. -/
theorem store_of_copyThenCall :
    ∃ e t u, copyThenCall.run ⟨none, .empty⟩
        ⟨.ofList [("in", [.object [("k", .string "a")]])], default, []⟩ = (.error e, t) ∧
      t.store.get? "out" = some [.object [("k", .string "a")]] ∧
      Operator.run ⟨none, .empty⟩ "in" .mapValues (.array [.object [("call", .string "shout")]])
        ⟨.ofList [("in", [.object [("k", .string "a")]])], default, []⟩ =
          (.error ⟨"in", .mapValues, .unknownMapper "shout"⟩, u) ∧
      u.store = .ofList [("in", [.object [("k", .string "a")]])] ∧
      ∃ done p v, copyThenCall.Before done p ∧
        forM done (Step.run ⟨none, .empty⟩)
          ⟨.ofList [("in", [.object [("k", .string "a")]])], default, []⟩ = (.ok (), v) ∧
        (p.run ⟨none, .empty⟩ v).1 = .error e ∧ t.store = v.store := by
  refine ⟨⟨"out", .mapValues, .unknownMapper "shout"⟩, _, _, rfl, rfl, rfl, ?_,
    store_of_failed_run.2 _ _ _ _ _ rfl⟩
  exact store_of_failed_run.1 ⟨none, .empty⟩ "in" .mapValues
    (.array [.object [("call", .string "shout")]])
    ⟨.ofList [("in", [.object [("k", .string "a")]])], default, []⟩ _
    ⟨"in", .mapValues, .unknownMapper "shout"⟩ rfl

end Config

end Reshape
