import Reshape.Proofs.Equivalence
import Reshape.Proofs.Filtering
import Reshape.Proofs.Joining

/-!
# Filtering by collected values

The values of a field, collected from the records of a collection, tell its records that have the
field from those that do not: each value is strictly equal to itself, and the null that is collected
where the field is missing is the value of no missing field.

* `Copy.Asks`: the field and the collection that parameters of `copyToArray` ask for.
* `Filter.Names`: the field and the collection that a predicate names.
* `Filter.holds_fieldValues_iff`: the records that hold a collected value.
* `Filter.run_collected`: the operators.
-/

namespace Reshape

/-! ## Collecting values -/

namespace Copy

/-- The parameters ask for the values of the field, to be added to the collection. -/
def Asks (raw : Value) (target field : String) : Prop :=
  ∃ params, Shape.readRecord fieldStruct raw = .ok params ∧
    params.required "copyTo" = .ok target ∧ params.required "field" = .ok field

variable {raw : Value} {job target field : String} {c : Collection}

theorem asks_object (target field : String) :
    Asks (.object [("copyTo", .string target), ("field", .string field)]) target field :=
  ⟨_, rfl, rfl, rfl⟩

theorem values_of_asks {s : Store} (h : Asks raw target field) (hc : s.get? job = some c) :
    values s job raw = .ok (target, fieldValues c field) := by
  obtain ⟨params, hparams, htarget, hfield⟩ := h
  exact bind_eq_ok.2 ⟨params, Operator.readWith_eq_ok.2 hparams, bind_eq_ok.2
    ⟨target, htarget, bind_eq_ok.2 ⟨field, hfield, bind_eq_ok.2 ⟨c, Store.find_eq_ok.2 hc, rfl⟩⟩⟩⟩

/-- The values are added to what the collection holds, if it is there. -/
theorem runField_of_asks {s : Session} (h : Asks raw target field)
    (hc : s.store.get? job = some c) (setting : Setting) :
    ∃ log, Operator.copyToArray.run setting job raw s = (.ok (), ⟨s.store.insert target
      ((s.store.get? target).getD [] ++ fieldValues c field), s.files, log⟩) := by
  refine Operator.run_of_change_put (by decide) ?_
  rw [Operator.change, values_of_asks h hc]
  rfl

theorem length_fieldValues (c : Collection) (field : String) :
    (fieldValues c field).length = c.length := List.length_map _

theorem mem_fieldValues {v w : Value} (hv : v ∈ c) (hw : v.field? field = some w) :
    w ∈ fieldValues c field :=
  List.mem_map.2 ⟨v, hv, by rw [hw, Option.getD_some]⟩

end Copy

/-! ## Filtering by them -/

namespace Filter

/-- The predicate compares the field with the values of the collection of the name. -/
def Names (predicate : Value) (field : String) (mode : Mode) (name : String) : Prop :=
  ∃ params, Shape.readRecord predicateStruct predicate = .ok params ∧
    params.required "field" = .ok field ∧ Filter.mode params = .ok (mode, .string name)

variable {field name : String} {mode : Mode} {c : Collection} {v : Value}

theorem names_predicate (field : String) (mode : Mode) (name : String) :
    Names (predicate field mode (.string name)) field mode name :=
  ⟨[("field", .string field), (mode.name, .string name)], by cases mode <;> rfl, rfl,
    by cases mode <;> rfl⟩

theorem asks_of_names {s : Store} {p : Value} {items : Collection} (h : Names p field mode name)
    (hname : s.get? name = some items) : Asks s p ⟨field, mode, items⟩ := by
  obtain ⟨params, hparams, hfield, hmode⟩ := h
  exact ⟨params, hparams, bind_eq_ok.2 ⟨field, hfield, bind_eq_ok.2 ⟨_, hmode, bind_eq_ok.2
    ⟨items, Store.find_eq_ok.2 hname, rfl⟩⟩⟩⟩

/-- The records that have the field hold one of the values. -/
theorem holds_fieldValues_iff (hv : v ∈ c) (hun : v.Unambiguous) :
    Holds field (Copy.fieldValues c field) v ↔ (v.field? field).isSome = true := by
  rw [Option.isSome_iff_exists]
  constructor
  · rintro ⟨w, hw, -⟩
    exact ⟨w, hw⟩
  · rintro ⟨w, hw⟩
    exact ⟨w, hw, w, Copy.mem_fieldValues hv hw, Value.strictEq_refl w (hun.of_field? hw)⟩

theorem keep_include_fieldValues (hun : ∀ v ∈ c, v.Unambiguous) :
    keep [⟨field, .include, Copy.fieldValues c field⟩] c =
      c.filter fun v => (v.field? field).isSome := by
  rw [keep_eq_filter]
  refine List.filter_congr fun v hv => ?_
  rw [Bool.eq_iff_iff, decide_eq_true_iff, List.forall_mem_singleton]
  exact holds_fieldValues_iff hv (hun v hv)

theorem keep_exclude_fieldValues (hun : ∀ v ∈ c, v.Unambiguous) :
    keep [⟨field, .exclude, Copy.fieldValues c field⟩] c =
      c.filter fun v => (v.field? field).isNone := by
  rw [keep_eq_filter]
  refine List.filter_congr fun v hv => ?_
  rw [Bool.eq_iff_iff, decide_eq_true_iff, List.forall_mem_singleton, ← Option.not_isSome,
    Bool.not_eq_true', ← Bool.not_eq_true]
  exact not_congr (holds_fieldValues_iff hv (hun v hv))

/-- **Collected values tell the records that have a field.** Take a collection, in whose objects no
name stands twice, and a name that stands for nothing. The values of a field are collected under the
name, one for each record, and then the collection is filtered by the field and the name. Where the
collected values are included, exactly the records that have the field are kept, whatever its value
is, and where they are excluded, exactly the others, both in their order. Nothing else changes. -/
theorem run_collected :
    (∀ (setting : Setting) (job : String) (raw : Value) (s : Session) (c : Collection)
      (name field : String), s.store.get? job = some c → s.store.get? name = none →
      (∀ v ∈ c, v.Unambiguous) → Copy.Asks raw name field →
      let values := Copy.fieldValues c field
      let run (p : Value) : Run Unit := do
        Operator.copyToArray.run setting job raw
        Operator.filterObjects.run setting job (.array [p])
      let Keeps (p : Value) (kept : Collection) : Prop := ∃ log, run p s =
        (.ok (), ⟨(s.store.insert name values).insert job kept, s.files, log⟩)
      name ≠ job ∧ values.length = c.length ∧
      (∀ p, Names p field .include name → Keeps p (c.filter fun v => (v.field? field).isSome)) ∧
      ∀ p, Names p field .exclude name → Keeps p (c.filter fun v => (v.field? field).isNone)) ∧
    ∀ (name field : String) (mode : Mode),
      Copy.Asks (.object [("copyTo", .string name), ("field", .string field)]) name field ∧
      Names (.object [("field", .string field), (mode.name, .string name)]) field mode name := by
  refine ⟨fun setting job raw s c name field hc hname hun hraw => ?_, fun name field mode =>
    ⟨Copy.asks_object name field, names_predicate field mode name⟩⟩
  intro values run Keeps
  have hne : name ≠ job := by
    rintro rfl
    cases hc.symm.trans hname
  have hkeeps {p : Value} {mode : Mode} (hp : Names p field mode name) :
      Keeps p (keep [⟨field, mode, values⟩] c) := by
    obtain ⟨log, hcopy⟩ := Copy.runField_of_asks hraw hc setting
    rw [hname, Option.getD_none, List.nil_append] at hcopy
    have hvalues := Catalog.get?_insert_self s.store name values
    have hjob := (Catalog.get?_insert_of_ne hne.symm s.store values).trans hc
    obtain ⟨log', hfilter⟩ := run_of_asks (s := ⟨s.store.insert name values, s.files, log⟩)
      (.cons (asks_of_names hp hvalues) .nil) hjob setting
    exact ⟨log', (Attempt.bind_ok hcopy).trans hfilter⟩
  refine ⟨hne, Copy.length_fieldValues c field, fun p hp => ?_, fun p hp => ?_⟩
  · rw [← keep_include_fieldValues hun]
    exact hkeeps hp
  · rw [← keep_exclude_fieldValues hun]
    exact hkeeps hp

/-- What has the field: null, an array with an object in it, and zero as a binary64 number. -/
def holders : Collection :=
  [.object [("k", .null)],
    .object [("k", .array [.object [("m", .number (.int 1 Merge.isWord_one))], .null])],
    .object [("n", .bool true), ("k", .number (.float Binary64.zero))]]

/-- These, a record without the field, and a plain value. -/
def nested : Collection := .object [("n", .null)] :: holders ++ [.string "k"]

def nestedSession : Session := ⟨.ofList [("a", nested)], default, []⟩

theorem run_collected_nestedSession :
    let raw : Value := .object [("copyTo", .string "l"), ("field", .string "k")]
    let listed (mode : Mode) : Value :=
      .object [("field", .string "k"), (mode.name, .string "l")]
    let values := Copy.fieldValues nested "k"
    let run (p : Value) : Run Unit := do
      Operator.copyToArray.run ⟨none, .empty⟩ "a" raw
      Operator.filterObjects.run ⟨none, .empty⟩ "a" (.array [p])
    let Keeps (p : Value) (kept : Collection) : Prop := ∃ log, run p nestedSession = (.ok (),
      ⟨(nestedSession.store.insert "l" values).insert "a" kept, nestedSession.files, log⟩)
    nestedSession.store.get? "a" = some nested ∧ nestedSession.store.get? "l" = none ∧
    (∀ v ∈ nested, v.Unambiguous) ∧ Copy.Asks raw "l" "k" ∧
    Names (listed .include) "k" .include "l" ∧ Names (listed .exclude) "k" .exclude "l" ∧
    values.length = 5 ∧ Keeps (listed .include) holders ∧
    Keeps (listed .exclude) [.object [("n", .null)], .string "k"] := by
  intro raw listed values run Keeps
  obtain ⟨hcollected, hwritten⟩ := run_collected
  have hc : nestedSession.store.get? "a" = some nested := rfl
  have hname : nestedSession.store.get? "l" = none := rfl
  have hun : ∀ v ∈ nested, v.Unambiguous := by decide
  have hraw := (hwritten "l" "k" .include).1
  have hinclude := (hwritten "l" "k" .include).2
  have hexclude := (hwritten "l" "k" .exclude).2
  obtain ⟨-, hlength, hkept, hdropped⟩ :=
    hcollected ⟨none, .empty⟩ "a" raw nestedSession nested "l" "k" hc hname hun hraw
  exact ⟨hc, hname, hun, hraw, hinclude, hexclude, hlength, hkept _ hinclude,
    hdropped _ hexclude⟩

end Filter

end Reshape
