import Reshape.Proofs.Unambiguous
import Reshape.Proofs.Writing
import Reshape.Run

/-!
# Changes of records

Whatever is done to a record field by field, its fields stay unambiguous. For programs this is so
because a text has no literals but plain ones, and for mappers it has to be assumed.

* `Mapper.Lawful`: a change of records that makes no fields ambiguous.
* `Program.lawful_apply`: programs that were read.
* `Filter.lawful_restrict`, `Renaming.lawful_apply`, `Revision.lawful_apply`: what operators do to
  one record.
-/

namespace Reshape

/-- The change keeps records without ambiguous fields so. -/
def Mapper.Lawful (f : Mapper) : Prop :=
  ∀ r, (Value.object r).Unambiguous → (Value.object (f r)).Unambiguous

/-- Changes that keep records so do it also one after another. -/
theorem Mapper.lawful_foldl {α : Type} {g : Record → α → Record} {as : List α}
    (h : ∀ a ∈ as, Mapper.Lawful (g · a)) : Mapper.Lawful fun r => as.foldl g r := by
  induction as with
  | nil => exact fun _ hr => hr
  | cons a as ih =>
    obtain ⟨ha, has⟩ := List.forall_mem_cons.1 h
    exact fun r hr => ih has _ (ha r hr)

/-! ## Programs -/

namespace Value

theorem unambiguous_ofBinary64? (x : Option Binary64) : (ofBinary64? x).Unambiguous := by
  cases x with
  | none => exact .null
  | some x => exact .number _

theorem unambiguous_add (a b : Value) : (a.add b).Unambiguous := by
  unfold add
  split
  · exact unambiguous_ofBinary64? _
  · exact .string _

theorem unambiguous_sub (a b : Value) : (a.sub b).Unambiguous := by
  unfold sub
  split
  · exact unambiguous_ofBinary64? _
  · exact .null

theorem unambiguous_neg (a : Value) : a.neg.Unambiguous := by
  unfold neg
  split
  · exact unambiguous_ofBinary64? _
  · exact .null

theorem Unambiguous.getD {v : Option Value} (h : ∀ w, v = some w → w.Unambiguous) :
    (v.getD .null).Unambiguous := by
  cases v with
  | none => exact .null
  | some w => exact h w rfl

end Value

theorem BinaryOp.unambiguous_eval (op : BinaryOp) (a b : Value) : (op.eval a b).Unambiguous := by
  cases op with
  | add => exact a.unambiguous_add b
  | sub => exact a.unambiguous_sub b
  | _ => exact .bool _

namespace Script

variable {r : Record}

theorem Literal.unambiguous_value (l : Literal) : l.value.Unambiguous := by
  cases l with
  | string s => exact .string s
  | number n => exact Value.unambiguous_ofBinary64? _
  | true | false => exact .bool _
  | null => exact .null

/-- The value of an expression as it can be written. -/
theorem Expr.unambiguous_eval (hr : (Value.object r).Unambiguous) (e : Expr) :
    (e.toExpr.eval r).Unambiguous := by
  cases e with
  | literal l => exact l.unambiguous_value
  | field n => exact .getD fun _ => hr.of_get?
  | not e => exact .bool _
  | neg e => exact Value.unambiguous_neg _
  | binary op a b => exact op.unambiguous_eval _ _

theorem Action.lawful_apply (a : Action) : Mapper.Lawful (a.toAction.apply ·) := by
  intro r hr
  cases a with
  | assign n e => exact hr.insert (e.unambiguous_eval hr) n.text
  | delete n => exact hr.filter _

theorem Statement.lawful_apply (s : Statement) : Mapper.Lawful (s.toStatement.apply ·) := by
  cases s with
  | action a => exact a.lawful_apply
  | branch e yes no hne =>
    have actions (as : List Action) : Mapper.Lawful fun r =>
        (as.map Action.toAction).foldl Reshape.Action.apply r := by
      refine Mapper.lawful_foldl fun b hb => ?_
      obtain ⟨a, -, rfl⟩ := List.mem_map.1 hb
      exact a.lawful_apply
    intro r hr
    simp only [Statement.toStatement, Reshape.Statement.apply]
    split
    · exact actions yes r hr
    · exact actions no r hr

end Script

/-- Every program that is read can be written. -/
theorem Program.exists_script_of_parse {text : String} {p : Program} (h : parse text = .ok p) :
    ∃ xs : List Script.Statement, xs.map Script.Statement.toStatement = p := by
  obtain ⟨ts, hsplits, hderives, -⟩ := exists_derives_of_parse h
  exact hderives.exists_script hsplits.writable

/-- A program that was read keeps records without ambiguous fields so. -/
theorem Program.lawful_apply {text : String} {p : Program} (h : parse text = .ok p) :
    Mapper.Lawful p.apply := by
  obtain ⟨xs, rfl⟩ := exists_script_of_parse h
  refine Mapper.lawful_foldl fun s hs => ?_
  obtain ⟨x, -, rfl⟩ := List.mem_map.1 hs
  exact x.lawful_apply

/-! ## Operators -/

theorem Filter.lawful_restrict (mode : Filter.Mode) (names : List String) :
    Mapper.Lawful (Filter.restrict mode names) :=
  fun _ hr => hr.filter _

theorem Renaming.lawful_apply (m : Renaming) : Mapper.Lawful m.apply := by
  intro r hr
  rw [apply]
  split
  · exact hr
  split
  · exact hr
  · rename_i v hv
    have hinsert := hr.insert (hr.of_get? hv) m.target
    split
    · exact hinsert
    · exact hinsert.filter _

/-- No fields of the value that an entry puts in place of another one are ambiguous. -/
def Revision.Entry.Unambiguous : Revision.Entry → Prop
  | .replace _ _ new => new.Unambiguous
  | .expression _ | .call _ => True

theorem Revision.Entry.unambiguous_ofValue? {v : Value} (hv : v.Unambiguous) {e : Revision.Entry}
    (h : Revision.Entry.ofValue? v = some e) : e.Unambiguous := by
  cases v with
  | object r =>
    change Revision.Entry.ofRecord? r = some e at h
    rw [ofRecord?] at h
    split at h
    · rename_i hnew
      cases h
      exact hv.of_get? hnew
    · split at h <;> cases h <;> trivial
  | _ => cases h

/-- No mapper makes fields ambiguous. -/
def Mappers.Lawful (m : Mappers) : Prop := ∀ name f, m.get? name = some f → Mapper.Lawful f

theorem Revision.lawful_apply {mappers : Mappers} (hm : mappers.Lawful) {e : Revision.Entry}
    (he : e.Unambiguous) {r : Revision} (h : Revision.ofEntry mappers e = .ok r) :
    Mapper.Lawful fun fields => Revision.apply fields r := by
  cases e with
  | replace field old new =>
    cases h
    intro fields hfields
    simp only [apply]
    split
    · split
      · exact hfields.insert he field
      · exact hfields
    · exact hfields
  | expression text =>
    rw [ofEntry] at h
    split at h
    · rename_i p hp
      cases h
      exact Program.lawful_apply hp
    · cases h
  | call name =>
    rw [ofEntry] at h
    split at h
    · rename_i f hf
      cases h
      exact hm name f hf
    · cases h

end Reshape
