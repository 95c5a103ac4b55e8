import Reshape.Catalog
import Reshape.Operator
import Reshape.Value.Basic

/-!
# Configurations

* `Operation`: the parameters of some operators, and settings that name none.
* `Job`: a collection and the operations on it.
* `Config`: a job, or a sequence of configurations; `Config.jobs` are its jobs from left to right.
* `Config.toValue`: a configuration as it is written.
-/

namespace Reshape

/-- The parameters of operators, in the order in which these run, and settings that name no
operator. -/
structure Operation where
  settings : List (Operator × Value)
  ordered : (settings.map (·.1)).Sublist Operator.all
  unknown : Catalog Value

namespace Operation

/-- The parameters of an operator. -/
def get? (o : Operation) (k : Operator) : Option Value := o.settings.lookup k

/-- The operators that have parameters, in the order in which they run. -/
def operators (o : Operation) : List Operator := Operator.all.filter fun k => (o.get? k).isSome

/-- The given parameters of some operators in the order of those. -/
def select (given : List (Operator × Value)) (ks : List Operator) : List (Operator × Value) :=
  ks.filterMap fun k => (given.lookup k).map fun v => (k, v)

theorem select_sublist (given : List (Operator × Value)) (ks : List Operator) :
    ((select given ks).map (·.1)).Sublist ks := by
  induction ks with
  | nil => exact .slnil
  | cons k ks ih =>
    unfold select at ih ⊢
    rw [List.filterMap_cons]
    cases h : given.lookup k with
    | none => exact ih.cons k
    | some v => exact ih.cons_cons k

/-- The operation with the given settings. -/
def ofList (given : List (Operator × Value)) (unknown : Catalog Value) : Operation :=
  ⟨select given Operator.all, select_sublist given Operator.all, unknown⟩

theorem lookup_select (given : List (Operator × Value)) (ks : List Operator) (k : Operator) :
    (select given ks).lookup k = if k ∈ ks then given.lookup k else none := by
  induction ks with
  | nil => rfl
  | cons j ks ih =>
    rw [select, List.filterMap_cons, ← select]
    cases hj : given.lookup j with
    | none =>
      rw [Option.map_none, ih]
      by_cases hk : k = j
      · simp [hk, hj]
      · simp [hk]
    | some v =>
      rw [Option.map_some, List.lookup_cons, ih]
      by_cases hk : k = j
      · simp [hk, hj]
      · have : (k == j) = false := by simpa using hk
        simp [this, hk]

@[simp] theorem get?_ofList (given : List (Operator × Value)) (unknown : Catalog Value)
    (k : Operator) : (ofList given unknown).get? k = given.lookup k := by
  rw [get?, ofList, lookup_select, if_pos (Operator.mem_all k)]

/-- The operation with the parameters of one operator. -/
def single (k : Operator) (v : Value) : Operation := ofList [(k, v)] .empty

/-- The operation as an object: first the operators, then the other settings. -/
def toValue (o : Operation) : Value :=
  .object (o.settings.map (fun s => (s.1.name, s.2)) ++ o.unknown.entries)

end Operation

structure Job where
  /-- The collection that the operations work on. -/
  name : String
  operations : List Operation

/-- The job as an object. -/
def Job.toValue (j : Job) : Value :=
  .object [("name", .string j.name), ("ops", .array (j.operations.map Operation.toValue))]

inductive Config
  | job (j : Job)
  | sequence (cs : List Config)

namespace Config

instance : Inhabited Config := ⟨.sequence []⟩

mutual

/-- All jobs from left to right. -/
def jobs : Config → List Job
  | .job j => [j]
  | .sequence cs => jobsOfList cs

def jobsOfList : List Config → List Job
  | [] => []
  | c :: cs => jobs c ++ jobsOfList cs

end

mutual

/-- The configuration as it is written. -/
def toValue : Config → Value
  | .job j => j.toValue
  | .sequence cs => .array (toValues cs)

def toValues : List Config → List Value
  | [] => []
  | c :: cs => toValue c :: toValues cs

end

end Config

end Reshape
