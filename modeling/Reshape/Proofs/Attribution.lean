import Reshape.Proofs.Failure

/-!
# What the error of a failed run tells

An error names the collection and the operator at which a run stopped. The cause fits that
operator: it speaks of a parameter that the operator has, an expression or a mapper is named by
`mapValues` alone, a file by `load` and `save`, and a collection that is missing is still missing
when the run is over, because an operator that fails has written nothing.

* `Cause.Fits`: the causes that an operator can have on a store.
* `FailsOnly`: whatever the error of a result is, a predicate holds of it. One lemma for each way to
  read a parameter, and `FailsOnly.bind` to put them together.
* `Operator.fits_of_change`: the cause of a failed operator fits it.
* `Config.error_of_failed_run`: a whole run.
-/

namespace Reshape

/-- The parameters that the errors of an operator name, and how they name two of which one has to
be given. -/
def Operator.parameters : Operator → List String
  | .load | .save => ["path"]
  | .copyTo => []
  | .cloneObjects => ["field", "filter", "values"]
  | .filterObjects => ["field", "include", "exclude", "include or exclude"]
  | .filterFields => ["include", "exclude", "include or exclude"]
  | .mapFields | .mapValues => ["mapping"]
  | .copyToArray => ["copyTo", "field"]
  | .mergeObjects => ["name", "key"]
  | .aggregate => ["aggregatedField", "aggregationField"]

/-- The operator can fail for the cause on the store. -/
def Cause.Fits (mappers : Mappers) (o : Operator) (s : Store) : Cause → Prop
  | .missingCollection name => s.get? name = none
  | .missingParameter field => field ∈ o.parameters
  | .invalidParameter param _ => param ∈ o.name :: o.parameters
  | .conflictingParameters params =>
    (o = .filterObjects ∨ o = .filterFields) ∧ params = "include and exclude"
  | .invalidExpression _ => o = .mapValues
  | .unknownMapper name => o = .mapValues ∧ mappers.get? name = none
  | .table _ => o = .load ∨ o = .save

/-- Whatever the error is, the predicate holds of it. -/
def FailsOnly {α : Type} (P : Cause → Prop) (x : Except Cause α) : Prop := ∀ e, x = .error e → P e

namespace FailsOnly

variable {α β : Type} {P : Cause → Prop}

theorem ok (a : α) : FailsOnly P (.ok a) := nofun

theorem error {e : Cause} (h : P e) : FailsOnly P (.error e : Except Cause α) := by
  rintro _ ⟨⟩
  exact h

theorem bind {x : Except Cause α} {f : α → Except Cause β} (hx : FailsOnly P x)
    (hf : ∀ a, FailsOnly P (f a)) : FailsOnly P (x >>= f) := by
  cases x with
  | error e => exact error (hx e rfl)
  | ok a => exact hf a

theorem mapM {f : α → Except Cause β} (hf : ∀ a, FailsOnly P (f a)) (as : List α) :
    FailsOnly P (as.mapM f) := by
  induction as with
  | nil => exact ok []
  | cons a as ih =>
    rw [List.mapM_cons]
    exact bind (hf a) fun b => bind ih fun bs => ok (b :: bs)

/-! ## Parameters -/

variable {mappers : Mappers} {o : Operator} {s : Store}

theorem missing {k : String} (hk : k ∈ o.parameters) :
    FailsOnly (Cause.Fits mappers o s) (.error (.missingParameter k) : Except Cause α) :=
  error hk

theorem invalid {param : String} (hp : param ∈ o.parameters) (expected : String) :
    FailsOnly (Cause.Fits mappers o s)
      (.error (.invalidParameter param expected) : Except Cause α) :=
  error (List.mem_cons_of_mem _ hp)

theorem readWith (read : Value → Except ShapeError α) (raw : Value) :
    FailsOnly (Cause.Fits mappers o s) (o.readWith read raw) := by
  rw [Operator.readWith]
  cases read raw with
  | error e => exact error List.mem_cons_self
  | ok a => exact ok a

theorem find (name : String) : FailsOnly (Cause.Fits mappers o s) (s.find name) := by
  rw [Store.find]
  cases h : s.get? name with
  | none => exact error h
  | some c => exact ok c

theorem required {k : String} (hk : k ∈ o.parameters) (r : Record) :
    FailsOnly (Cause.Fits mappers o s) (r.required k) := by
  rw [Record.required]
  cases r.text? k with
  | none => exact missing hk
  | some text => exact ok text

theorem resolve {param : String} (hp : param ∈ o.parameters) (r : Reference) :
    FailsOnly (Cause.Fits mappers o s) (r.resolve s param) := by
  unfold Reference.resolve
  split
  · exact find _
  · exact ok _
  · exact invalid hp _

theorem resolveAs {param : String} (hp : param ∈ o.parameters) (expected : String)
    (read? : Value → Option α) (r : Reference) :
    FailsOnly (Cause.Fits mappers o s) (r.resolveAs s param expected read?) := by
  unfold Reference.resolveAs
  split
  · rename_i e he
    exact error (resolve hp r e he)
  · split
    · exact ok _
    · exact invalid hp expected

theorem requiredList {k : String} (hk : k ∈ o.parameters) (r : Record) :
    FailsOnly (Cause.Fits mappers o s) (r.requiredList s k) := by
  rw [Record.requiredList]
  cases r.value? k with
  | none => exact missing hk
  | some v => exact resolve hk _

theorem mode (ho : o = .filterObjects ∨ o = .filterFields) (params : Record) :
    FailsOnly (Cause.Fits mappers o s) (Filter.mode params) := by
  unfold Filter.mode
  split
  · exact error ⟨ho, rfl⟩
  · exact ok _
  · exact ok _
  · exact missing (by rcases ho with rfl | rfl <;> decide)

theorem ofTable (ho : o = .load ∨ o = .save) (x : Except TableError α) :
    FailsOnly (Cause.Fits mappers o s) (Transfer.ofTable x) := by
  cases x with
  | error e => exact error ho
  | ok a => exact ok a

end FailsOnly

/-! ## Operators -/

section Operators

variable {mappers : Mappers} {s : Store} {job : String} {raw : Value}

theorem Transfer.failsOnly_records {base : Option String} {files : Files} :
    FailsOnly (Cause.Fits mappers .load s) (records base files job raw) :=
  .bind (.readWith _ _) fun _ => .bind (.required (by decide) _) fun _ =>
    .bind (.ofTable (.inl rfl) _) fun _ => .ok _

theorem Transfer.failsOnly_saveTarget {base : Option String} :
    FailsOnly (Cause.Fits mappers .save s) (saveTarget base s job raw) :=
  .bind (.readWith _ _) fun _ => .bind (.required (by decide) _) fun _ =>
    .bind (.find _) fun _ => .ok _

theorem Copy.failsOnly_records : FailsOnly (Cause.Fits mappers .copyTo s) (records s job raw) :=
  .bind (.readWith _ _) fun _ => .bind (.find _) fun _ => .ok _

theorem Copy.failsOnly_values : FailsOnly (Cause.Fits mappers .copyToArray s) (values s job raw) :=
  .bind (.readWith _ _) fun _ => .bind (.required (by decide) _) fun _ =>
    .bind (.required (by decide) _) fun _ => .bind (.find _) fun _ => .ok _

theorem Clone.failsOnly_records :
    FailsOnly (Cause.Fits mappers .cloneObjects s) (records s job raw) :=
  .bind (.readWith _ _) fun _ => .bind (.required (by decide) _) fun _ => .bind (.find _) fun _ =>
    .bind (.requiredList (by decide) _) fun _ => .bind (.requiredList (by decide) _) fun _ => .ok _

theorem Filter.failsOnly_rule (params : Record) :
    FailsOnly (Cause.Fits mappers .filterObjects s) (rule s params) :=
  .bind (.required (by decide) _) fun _ => .bind (.mode (.inl rfl) _) fun ⟨m, _⟩ =>
    .bind (.resolve (by cases m <;> decide) _) fun _ => .ok _

theorem Filter.failsOnly_records :
    FailsOnly (Cause.Fits mappers .filterObjects s) (records s job raw) :=
  .bind (.readWith _ _) fun _ => .bind (.find _) fun _ =>
    .bind (.mapM failsOnly_rule _) fun _ => .ok _

theorem Filter.failsOnly_fields :
    FailsOnly (Cause.Fits mappers .filterFields s) (fields s job raw) :=
  .bind (.readWith _ _) fun _ => .bind (.find _) fun _ => .bind (.mode (.inr rfl) _) fun ⟨m, _⟩ =>
    .bind (.resolveAs (by cases m <;> decide) _ _ _) fun _ => .ok _

theorem Renaming.failsOnly_renamings :
    FailsOnly (Cause.Fits mappers .mapFields s) (renamings s job raw) := by
  refine .bind (.find _) fun _ => ?_
  unfold readAll
  split
  · refine .mapM (fun f => ?_) _
    unfold ofField
    split
    · exact .ok _
    · exact .invalid (by decide) _
  · exact .resolveAs (by decide) _ _ _

theorem Revision.failsOnly_ofEntry (entry : Entry) :
    FailsOnly (Cause.Fits mappers .mapValues s) (ofEntry mappers entry) := by
  cases entry with
  | replace field old new => exact .ok _
  | expression text =>
    rw [ofEntry]
    cases Program.parse text with
    | error e => exact .error rfl
    | ok p => exact .ok _
  | call name =>
    rw [ofEntry]
    cases h : mappers.get? name with
    | none => exact .error ⟨rfl, h⟩
    | some f => exact .ok _

theorem Revision.failsOnly_revisions :
    FailsOnly (Cause.Fits mappers .mapValues s) (revisions mappers s job raw) :=
  .bind (.find _) fun _ => .bind (.resolveAs (by decide) _ _ _) fun _ =>
    .mapM failsOnly_ofEntry _

theorem Merge.failsOnly_readKeys (params : Record) :
    FailsOnly (Cause.Fits mappers .mergeObjects s) (readKeys params) := by
  unfold readKeys
  split
  · exact .missing (by decide)
  · exact .missing (by decide)
  · refine .mapM (fun v => ?_) _
    split
    · exact .ok _
    · exact .invalid (by decide) _
  · exact .invalid (by decide) _

theorem Merge.failsOnly_records :
    FailsOnly (Cause.Fits mappers .mergeObjects s) (records s job raw) :=
  .bind (.readWith _ _) fun _ => .bind (.required (by decide) _) fun _ =>
    .bind (failsOnly_readKeys _) fun _ => .bind (.find _) fun _ => .bind (.find _) fun _ =>
    .ok _

theorem Grouping.failsOnly_records :
    FailsOnly (Cause.Fits mappers .aggregate s) (records s job raw) :=
  .bind (.readWith _ _) fun _ => .bind (.required (by decide) _) fun _ =>
    .bind (.required (by decide) _) fun _ => .bind (.find _) fun _ => .ok _

end Operators

/-- The cause of a failed operator fits it, on the store that the operator found. -/
theorem Operator.fits_of_change {setting : Setting} {job : String} {raw : Value} {o : Operator}
    {s : Session} {e : Cause} (h : o.change setting job raw s = .error e) :
    e.Fits setting.mappers o s.store := by
  suffices FailsOnly (Cause.Fits setting.mappers o s.store) (o.change setting job raw s) from
    this e h
  cases o with
  | load => exact .bind Transfer.failsOnly_records fun _ => .ok _
  | copyTo => exact .bind Copy.failsOnly_records fun _ => .ok _
  | cloneObjects => exact .bind Clone.failsOnly_records fun _ => .ok _
  | filterObjects => exact .bind Filter.failsOnly_records fun _ => .ok _
  | filterFields =>
    exact .bind Filter.failsOnly_fields fun _ => .bind (.find _) fun _ => .ok _
  | mapFields =>
    exact .bind Renaming.failsOnly_renamings fun _ => .bind (.find _) fun _ => .ok _
  | mapValues =>
    exact .bind Revision.failsOnly_revisions fun _ => .bind (.find _) fun _ => .ok _
  | copyToArray => exact .bind Copy.failsOnly_values fun _ => .ok _
  | mergeObjects => exact .bind Merge.failsOnly_records fun _ => .ok _
  | aggregate => exact .bind Grouping.failsOnly_records fun _ => .ok _
  | save =>
    exact .bind Transfer.failsOnly_saveTarget fun _ =>
      .bind (.ofTable (.inr rfl) _) fun _ => .ok _

theorem Operator.fits_of_run {setting : Setting} {job : String} {raw : Value} {o : Operator}
    {s t : Session} {e : RunError} (h : o.run setting job raw s = (.error e, t)) :
    e.collection = job ∧ e.operator = o ∧ e.cause.Fits setting.mappers o s.store := by
  rw [run_eq] at h
  cases hc : o.change setting job raw s with
  | ok change =>
    rw [hc] at h
    cases h
  | error cause =>
    rw [hc] at h
    cases h
    exact ⟨rfl, rfl, fits_of_change hc⟩

namespace Config

/-- **The error of a run names what failed.** A run that fails has finished the steps before one of
its steps and fails at that one. The error names the collection of its job and its operator, and
the cause fits the operator on the store that the run leaves: a parameter that is missing, of
another shape or given against another one is a parameter of that operator; only `mapValues` fails
for an expression or a mapper, and no such mapper was brought along; only `load` and `save` fail for
a file or a sheet; and a collection that is missing is not in the store. -/
theorem error_of_failed_run : ∀ (setting : Setting) (c : Config) (s t : Session) (e : RunError),
    c.run setting s = (.error e, t) →
    ∃ done p u, c.Before done p ∧ forM done (Step.run setting) s = (.ok (), u) ∧
      (p.run setting u).1 = .error e ∧ e.collection = p.job ∧ e.operator = p.operator ∧
      e.cause.Fits setting.mappers p.operator t.store := by
  intro setting c s t e h
  obtain ⟨v, hsteps, hstore, -⟩ := Step.forM_of_error (c.run_alike setting) (.refl s) h
  obtain ⟨done, p, rest, u, hc, hdone, hp⟩ := Attempt.forM_eq_error hsteps
  refine ⟨done, p, u, before_of_steps hc, hdone, congrArg Prod.fst hp, ?_⟩
  -- the failing step has written nothing, so its cause fits the store that is left as well
  rw [hstore, Operator.store_of_run_eq_error hp]
  exact Operator.fits_of_run hp

/-- Copies records, and then looks for their values in a collection that is not there. -/
def copyThenFilter : Config :=
  .sequence [.job ⟨"a", [.single .copyTo (.string "b")]⟩,
    .sequence [.job ⟨"b", [.single .filterObjects (.array [
      .object [("field", .string "k"), ("include", .string "c")]])]⟩]]

theorem error_of_copyThenFilter :
    ∃ e t, copyThenFilter.run ⟨none, .empty⟩ ⟨.ofList [("a", [.null])], default, []⟩ =
        (.error e, t) ∧
      e = ⟨"b", .filterObjects, .missingCollection "c"⟩ ∧ t.store.get? "b" = some [.null] ∧
      ∃ done p u, copyThenFilter.Before done p ∧
        forM done (Step.run ⟨none, .empty⟩) ⟨.ofList [("a", [.null])], default, []⟩ =
          (.ok (), u) ∧
        (p.run ⟨none, .empty⟩ u).1 = .error e ∧ e.collection = p.job ∧ e.operator = p.operator ∧
        e.cause.Fits .empty p.operator t.store :=
  ⟨_, _, rfl, rfl, rfl, error_of_failed_run _ _ _ _ _ rfl⟩

end Config

end Reshape
