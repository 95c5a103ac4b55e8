import Mathlib.Data.List.Perm.Subperm
import Reshape.Proofs.Columns
import Reshape.Proofs.JsonReading
import Reshape.Value.Equality

/-!
# Values without ambiguous fields

Fields are told apart by their names, so that an object has to have no two of one name. Of two such
values it does not matter which is compared with the other.

* `Value.objects`, `Value.Unambiguous`: the objects in a value, and that the names in each differ.
* `Unambiguous.insert`, `Unambiguous.filter`, `Unambiguous.foldl_insert`: what is made of the fields
  of such a value is one.
* `Value.strictEq_symm`: equality of such values is symmetric.
-/

namespace Reshape

theorem mem_of_lookup {α : Type} {l : List (String × α)} {k : String} {a : α}
    (h : l.lookup k = some a) : (k, a) ∈ l := by
  obtain ⟨before, after, rfl, -⟩ := List.lookup_eq_some_iff.1 h
  exact List.mem_append_right _ List.mem_cons_self

theorem Number.same_comm (a b : Number) : a.same b = b.same a := by
  cases a <;> cases b <;> first | rfl | exact Bool.beq_comm

theorem Number.eqv_comm (a b : Number) : a.eqv b = b.eqv a := by
  unfold eqv
  cases a.signedWord? <;> cases b.signedWord? <;> exact Bool.beq_comm

namespace Value

/-! ## Objects in a value -/

mutual

/-- The objects in a value, the value itself included. -/
def objects : Value → List Record
  | .null | .bool _ | .number _ | .string _ => []
  | .array items => objectsOfItems items
  | .object fields => fields :: objectsOfFields fields

def objectsOfItems : List Value → List Record
  | [] => []
  | v :: r => objects v ++ objectsOfItems r

def objectsOfFields : List (String × Value) → List Record
  | [] => []
  | (_, v) :: r => objects v ++ objectsOfFields r

end

theorem objectsOfItems_eq (items : List Value) : objectsOfItems items = items.flatMap objects := by
  induction items with
  | nil => rfl
  | cons v r ih => rw [objectsOfItems, ih, List.flatMap_cons]

theorem objectsOfFields_eq (fields : List (String × Value)) :
    objectsOfFields fields = fields.flatMap fun f => objects f.2 := by
  induction fields with
  | nil => rfl
  | cons f r ih => rw [objectsOfFields, ih, List.flatMap_cons]

/-- No object in the value has two fields of one name. -/
def Unambiguous (v : Value) : Prop := ∀ r ∈ v.objects, r.keys.Nodup

instance (v : Value) : Decidable v.Unambiguous :=
  inferInstanceAs (Decidable (∀ r ∈ v.objects, r.keys.Nodup))

namespace Unambiguous

@[simp] theorem null : Value.null.Unambiguous := nofun

@[simp] theorem bool (b : Bool) : (Value.bool b).Unambiguous := nofun

@[simp] theorem number (n : Number) : (Value.number n).Unambiguous := nofun

@[simp] theorem string (s : String) : (Value.string s).Unambiguous := nofun

theorem array_iff {items : List Value} :
    (Value.array items).Unambiguous ↔ ∀ v ∈ items, v.Unambiguous := by
  simp only [Unambiguous, objects, objectsOfItems_eq, List.mem_flatMap]
  exact ⟨fun h v hv r hr => h r ⟨v, hv, hr⟩, fun h r ⟨v, hv, hr⟩ => h v hv r hr⟩

theorem object_iff {r : Record} :
    (Value.object r).Unambiguous ↔ r.keys.Nodup ∧ ∀ f ∈ r, f.2.Unambiguous := by
  simp only [Unambiguous, objects, objectsOfFields_eq, List.forall_mem_cons, List.mem_flatMap]
  exact and_congr_right fun _ =>
    ⟨fun h f hf r hr => h r ⟨f, hf, hr⟩, fun h r ⟨f, hf, hr⟩ => h f hf r hr⟩

/-! ## Fields -/

variable {r : Record} {k : String} {v w : Value}

theorem of_get? (h : (Value.object r).Unambiguous) (hv : r.get? k = some v) : v.Unambiguous :=
  (object_iff.1 h).2 (k, v) (mem_of_lookup hv)

theorem of_field? (h : v.Unambiguous) (hw : v.field? k = some w) : w.Unambiguous := by
  cases v with
  | object r => exact of_get? h hw
  | _ => cases hw

theorem insert (h : (Value.object r).Unambiguous) (hv : v.Unambiguous) (k : String) :
    (Value.object (r.insert k v)).Unambiguous := by
  obtain ⟨hkeys, hfields⟩ := object_iff.1 h
  refine object_iff.2 ⟨Record.nodup_keys_insert hkeys k v, fun f hf => ?_⟩
  rcases Record.mem_of_mem_insert hf with hf | rfl
  · exact hfields f hf
  · exact hv

theorem filter (h : (Value.object r).Unambiguous) (p : String × Value → Bool) :
    (Value.object (r.filter p)).Unambiguous := by
  obtain ⟨hkeys, hfields⟩ := object_iff.1 h
  exact object_iff.2 ⟨hkeys.sublist (List.filter_sublist.map _),
    fun f hf => hfields f (List.mem_filter.1 hf).1⟩

theorem foldl_insert {fields : List (String × Value)} (h : (Value.object r).Unambiguous)
    (hfields : ∀ f ∈ fields, f.2.Unambiguous) :
    (Value.object (fields.foldl (fun r f => Record.insert r f.1 f.2) r)).Unambiguous := by
  induction fields generalizing r with
  | nil => exact h
  | cons f fields ih =>
    obtain ⟨hf, hfields⟩ := List.forall_mem_cons.1 hfields
    exact ih (h.insert hf f.1) hfields

theorem ofList {fields : List (String × Value)} (h : ∀ f ∈ fields, f.2.Unambiguous) :
    (Value.object (Record.ofList fields)).Unambiguous :=
  foldl_insert (object_iff.2 ⟨List.nodup_nil, nofun⟩) h

end Unambiguous

/-! ## Equality -/

theorem sameFields_iff {a : List (String × Value)} {b : Record} :
    sameFields a b = true ↔ ∀ f ∈ a, ∃ y, b.get? f.1 = some y ∧ same f.2 y = true := by
  induction a with
  | nil => simp [sameFields]
  | cons f a ih =>
    obtain ⟨k, x⟩ := f
    rw [sameFields, Bool.and_eq_true, ih, List.forall_mem_cons]
    refine and_congr_left' ?_
    cases b.get? k <;> simp

/-- Records of one size, of which the one has all fields of the other, have the same fields. -/
theorem keys_subset_of_length {a b : Record} (ha : a.keys.Nodup) (hlength : a.length = b.length)
    (hsub : a.keys ⊆ b.keys) : b.keys ⊆ a.keys := by
  have hle : b.keys.length ≤ a.keys.length := by
    rw [Record.keys, Record.keys, List.length_map, List.length_map, hlength]
  exact ((List.subperm_of_subset ha hsub).perm_of_length_le hle).symm.subset

mutual

theorem same_symm : ∀ a b : Value, a.Unambiguous → b.Unambiguous → same a b = true →
    same b a = true
  | .null, b, _, _, h => by cases b <;> first | rfl | cases h
  | .bool a, b, _, _, h => by
    cases b with
    | bool b => exact beq_iff_eq.2 (beq_iff_eq.1 h).symm
    | _ => cases h
  | .number a, b, _, _, h => by
    cases b with
    | number b => exact (Number.same_comm b a).trans h
    | _ => cases h
  | .string a, b, _, _, h => by
    cases b with
    | string b => exact beq_iff_eq.2 (beq_iff_eq.1 h).symm
    | _ => cases h
  | .array a, b, ha, hb, h => by
    cases b with
    | array b => exact sameItems_symm a b (.array_iff.1 ha) (.array_iff.1 hb) h
    | _ => cases h
  | .object a, b, ha, hb, h => by
    cases b with
    | object b =>
      obtain ⟨hkeysa, ha⟩ := Unambiguous.object_iff.1 ha
      obtain ⟨hkeysb, hb⟩ := Unambiguous.object_iff.1 hb
      obtain ⟨hlength, h⟩ : a.length = b.length ∧ sameFields a b = true := by
        simpa [same] using h
      rw [sameFields_iff] at h
      have hsub : Record.keys a ⊆ Record.keys b := by
        intro k hk
        obtain ⟨f, hf, rfl⟩ := List.mem_map.1 hk
        obtain ⟨y, hy, -⟩ := h f hf
        exact List.mem_map.2 ⟨_, (Record.get?_eq_some_iff hkeysb).1 hy, rfl⟩
      rw [same, hlength, beq_self_eq_true, Bool.true_and, sameFields_iff]
      rintro ⟨k, y⟩ hy
      -- the field of the other record is the one that this field was found as
      obtain ⟨f, hf, rfl⟩ := List.mem_map.1
        (keys_subset_of_length hkeysa hlength hsub (List.mem_map_of_mem hy))
      obtain ⟨z, hz, hsame⟩ := h f hf
      obtain rfl : y = z := by
        rw [(Record.get?_eq_some_iff hkeysb).2 hy] at hz
        exact Option.some.inj hz
      exact ⟨f.2, (Record.get?_eq_some_iff hkeysa).2 hf,
        same_symm_of_mem a f hf y (ha f hf) (hb _ hy) hsame⟩
    | _ => cases h

theorem sameItems_symm : ∀ a b : List Value, (∀ v ∈ a, v.Unambiguous) →
    (∀ v ∈ b, v.Unambiguous) → sameItems a b = true → sameItems b a = true
  | [], b, _, _, h => by cases b <;> first | rfl | cases h
  | x :: a, [], _, _, h => by cases h
  | x :: a, y :: b, ha, hb, h => by
    obtain ⟨hx, h⟩ := (Bool.and_eq_true _ _).mp h
    obtain ⟨hax, ha⟩ := List.forall_mem_cons.1 ha
    obtain ⟨hby, hb⟩ := List.forall_mem_cons.1 hb
    exact (Bool.and_eq_true _ _).mpr ⟨same_symm x y hax hby hx, sameItems_symm a b ha hb h⟩

theorem same_symm_of_mem : ∀ fields : List (String × Value), ∀ f ∈ fields, ∀ y : Value,
    f.2.Unambiguous → y.Unambiguous → same f.2 y = true → same y f.2 = true
  | [], _, hf => by cases hf
  | (_, x) :: fields, f, hf => by
    rcases List.mem_cons.1 hf with rfl | hf
    · exact same_symm x
    · exact same_symm_of_mem fields f hf

end

mutual

/-- **Equality of values is symmetric** where no fields are ambiguous. -/
theorem strictEq_symm : ∀ a b : Value, a.Unambiguous → b.Unambiguous → strictEq a b = true →
    strictEq b a = true
  | .number a, b, _, hb, h => by
    cases b with
    | number b => exact (Number.eqv_comm b a).trans h
    | _ => cases h
  | .array a, b, ha, hb, h => by
    cases b with
    | array b => exact strictEqItems_symm a b (.array_iff.1 ha) (.array_iff.1 hb) h
    | _ => cases h
  | .null, b, ha, hb, h => by
    cases b <;> exact same_symm _ _ ha hb h
  | .bool a, b, ha, hb, h => by
    cases b <;> exact same_symm _ _ ha hb h
  | .string a, b, ha, hb, h => by
    cases b <;> exact same_symm _ _ ha hb h
  | .object a, b, ha, hb, h => by
    cases b <;> exact same_symm _ _ ha hb h

theorem strictEqItems_symm : ∀ a b : List Value, (∀ v ∈ a, v.Unambiguous) →
    (∀ v ∈ b, v.Unambiguous) → strictEqItems a b = true → strictEqItems b a = true
  | [], b, _, _, h => by cases b <;> first | rfl | cases h
  | x :: a, [], _, _, h => by cases h
  | x :: a, y :: b, ha, hb, h => by
    obtain ⟨hx, h⟩ := (Bool.and_eq_true _ _).mp h
    obtain ⟨hax, ha⟩ := List.forall_mem_cons.1 ha
    obtain ⟨hby, hb⟩ := List.forall_mem_cons.1 hb
    exact (Bool.and_eq_true _ _).mpr ⟨strictEq_symm x y hax hby hx, strictEqItems_symm a b ha hb h⟩

end

theorem fieldEq_symm {a b : Option Value} (ha : ∀ v, a = some v → v.Unambiguous)
    (hb : ∀ v, b = some v → v.Unambiguous) (h : fieldEq a b = true) : fieldEq b a = true := by
  match a, b with
  | none, none => rfl
  | some x, some y => exact strictEq_symm x y (ha x rfl) (hb y rfl) h
  | none, some _ | some _, none => cases h

end Value

end Reshape
