import Reshape.Proofs.Equivalence
import Reshape.Proofs.NumberText

/-!
# Values in canonical form

A number that is whole and below `2 ^ 53` in magnitude can be spelled as a whole number and as a
binary64 number. In canonical form it is spelled as a whole number. Values that have one canonical
form, up to the order of fields, are equal if their numbers stand outside of objects. Inside of
objects numbers are compared with their spelling.

* `Number.ofBinary64_of_eqv`, `Number.toBinary64_ofBinary64`: whole numbers below `2 ^ 53` stand for
  their binary64 numbers.
* `Number.canonical`, `Number.Respelled`: the canonical form, and that two numbers have the same, as
  whole numbers below `2 ^ 53` and the binary64 numbers of their value do (`respelled_float_iff`).
* `Number.eqv_congr`: numbers with one canonical form are equal to the same numbers.
* `Value.canonical`, `Value.Respelled`: the same for values, in which fields may be in any order.
* `Value.Apart`, `Value.ApartWithin`: numbers that are spelled differently at one place, and at one
  place of an object.
* `Value.strictEq_of_respelled`: when values with one canonical form are equal.
-/

namespace Reshape

namespace Number

variable {a b c : Number}

/-! ## Whole binary64 numbers -/

theorem isWord_zero : IsWord 0 := by decide

theorem ofBinary64_of_units_eq_zero {x : Binary64} (h : x.units = 0) :
    ofBinary64 x = .int 0 isWord_zero := by
  have hwhole : x.isSmallWhole = true := by
    rw [Binary64.isSmallWhole, h, Nat.zero_mod, beq_self_eq_true, Bool.true_and]
    exact decide_eq_true (Nat.mul_pos (two_pow_pos 53) Binary64.one64_pos)
  have htruncate : x.truncate = 0 := by
    rw [Binary64.truncate, h, Nat.zero_div]
    split <;> rfl
  rw [ofBinary64, dif_pos hwhole]
  congr 1

/-- Equal binary64 numbers are the same number. -/
theorem ofBinary64_of_eqv {x y : Binary64} (h : x.eqv y = true) : ofBinary64 x = ofBinary64 y := by
  have hint : x.toInt = y.toInt := beq_iff_eq.1 h
  have hunits : x.units = y.units := by
    rw [← x.natAbs_toInt, hint, y.natAbs_toInt]
  by_cases hsign : x.negative = y.negative
  · rw [Binary64.eq_of_units hsign hunits]
  · have hzero : x.units = 0 := by
      rw [Binary64.toInt, Binary64.toInt, hunits] at hint
      cases hx : x.negative <;> cases hy : y.negative <;> simp [hx, hy] at hint hsign <;> omega
    rw [ofBinary64_of_units_eq_zero hzero, ofBinary64_of_units_eq_zero (hunits ▸ hzero)]

theorem natAbs_truncate (x : Binary64) : x.truncate.natAbs = x.units / one64 := by
  rw [Binary64.truncate]
  split
  · rw [Int.natAbs_neg, Int.natAbs_natCast]
  · rw [Int.natAbs_natCast]

theorem natAbs_truncate_lt {x : Binary64} (h : x.isSmallWhole = true) :
    x.truncate.natAbs < 2 ^ 53 := by
  rw [Binary64.isSmallWhole, Bool.and_eq_true, decide_eq_true_iff] at h
  have hlt : x.units / one64 < Nat.pow 2 53 := (Nat.div_lt_iff_lt_mul Binary64.one64_pos).2 h.2
  rw [natAbs_truncate]
  exact hlt

theorem truncate_mul_one64 {x : Binary64} (h : x.isSmallWhole = true) :
    x.truncate * one64 = x.toInt := by
  rw [Binary64.isSmallWhole, Bool.and_eq_true, beq_iff_eq] at h
  have hunits : x.units / one64 * one64 = x.units :=
    Nat.div_mul_cancel (Nat.dvd_of_mod_eq_zero h.1)
  rw [Binary64.truncate, Binary64.toInt]
  split
  · rw [Int.neg_mul, ← Int.natCast_mul, hunits]
  · rw [← Int.natCast_mul, hunits]

/-- The number of a binary64 number has that value. -/
theorem toBinary64_ofBinary64 (x : Binary64) : (ofBinary64 x).toBinary64.eqv x = true := by
  by_cases h : x.isSmallWhole = true
  · rw [ofBinary64, dif_pos h]
    exact beq_iff_eq.2 ((toInt_toBinary64_int_of_le _ (natAbs_truncate_lt h).le).trans
      (truncate_mul_one64 h))
  · rw [ofBinary64, dif_neg h]
    exact beq_self_eq_true _

/-! ## Numbers in canonical form -/

/-- The number, as a whole number if it is whole and below `2 ^ 53`. -/
def canonical : Number → Number
  | .int n h => .int n h
  | .float x => ofBinary64 x

/-- The numbers are the same when they are whole numbers wherever they can be. -/
def Respelled (a b : Number) : Prop := a.canonical = b.canonical

instance (a b : Number) : Decidable (Respelled a b) :=
  inferInstanceAs (Decidable (a.canonical = b.canonical))

/-- Whether the number is a binary64 number. -/
def isFloat : Number → Bool
  | .int _ _ => false
  | .float _ => true

theorem toBinary64_canonical (a : Number) : a.canonical.toBinary64.eqv a.toBinary64 = true := by
  cases a with
  | int n h => exact beq_self_eq_true _
  | float x => exact toBinary64_ofBinary64 x

theorem Respelled.toInt_eq (h : a.Respelled b) : a.toBinary64.toInt = b.toBinary64.toInt := by
  have ha := beq_iff_eq.1 a.toBinary64_canonical
  have hb := beq_iff_eq.1 b.toBinary64_canonical
  rw [← ha, ← hb, h]

/-- A whole number below `2 ^ 53` is another spelling of the binary64 numbers of its value. -/
theorem respelled_float_iff {n : Int} {hn : IsWord n} {x : Binary64} (hlt : n.natAbs < 2 ^ 53) :
    (int n hn).Respelled (.float x) ↔ (int n hn).toBinary64.eqv x = true := by
  constructor
  · intro h
    exact beq_iff_eq.2 h.toInt_eq
  · intro h
    have hvalue : n * one64 = x.toInt :=
      (toInt_toBinary64_int_of_le hn hlt.le).symm.trans (beq_iff_eq.1 h)
    have hunits : x.units = n.natAbs * one64 := by
      rw [← x.natAbs_toInt, ← hvalue, Int.natAbs_mul, Int.natAbs_natCast]
    have hwhole : x.isSmallWhole = true := by
      rw [Binary64.isSmallWhole, hunits, Nat.mul_mod_left, beq_self_eq_true, Bool.true_and]
      exact decide_eq_true (Nat.mul_lt_mul_of_pos_right hlt Binary64.one64_pos)
    have htruncate : x.truncate = n :=
      Int.eq_of_mul_eq_mul_right (Int.natCast_ne_zero.2 Binary64.one64_pos.ne')
        ((truncate_mul_one64 hwhole).trans hvalue.symm)
    rw [Respelled, canonical, canonical, ofBinary64, dif_pos hwhole, int.injEq, htruncate]

/-- A binary64 number is in canonical form if it is not whole or not below `2 ^ 53`. -/
theorem ofBinary64_eq_float {x y : Binary64} (h : ofBinary64 x = .float y) : x = y := by
  rw [ofBinary64] at h
  split at h
  · cases h
  · exact Number.float.inj h

/-- Whole numbers from `2 ^ 53` on are spelled in one way. -/
theorem Respelled.eq_of_le {m : Int} {hm : IsWord m} (h : a.Respelled (.int m hm))
    (hle : 2 ^ 53 ≤ m.natAbs) : a = .int m hm := by
  cases a with
  | int n hn => exact h
  | float x =>
    change ofBinary64 x = .int m hm at h
    rw [ofBinary64] at h
    split at h
    · rename_i hwhole
      have hlt := natAbs_truncate_lt hwhole
      rw [Number.int.inj h] at hlt
      omega
    · cases h

/-- Numbers of one canonical form clash with the same numbers. -/
theorem Clash.of_respelled (h : c.Clash b) (hab : a.Respelled b) : c.Clash a := by
  obtain ⟨m, hm, rfl, hle⟩ := h.symm.le_natAbs
  rwa [hab.eq_of_le hle]

theorem Respelled.symm (h : a.Respelled b) : b.Respelled a := Eq.symm h

/-- Numbers of one canonical form are equal to the same numbers. -/
theorem eqv_congr (h : a.Respelled b) (c : Number) : c.eqv a = c.eqv b := by
  have key {a b : Number} (h : a.Respelled b) (hca : c.eqv a = true) : c.eqv b = true := by
    have hplace := beq_iff_eq.1 (toBinary64_of_eqv hca)
    rw [h.toInt_eq] at hplace
    refine (eqv_or_clash (beq_iff_eq.2 hplace)).resolve_right fun hclash => ?_
    rw [(hclash.of_respelled h).eqv_eq_false] at hca
    cases hca
  exact Bool.eq_iff_iff.2 ⟨key h, key h.symm⟩

theorem Respelled.eqv (h : a.Respelled b) : a.eqv b = true := by
  rw [← eqv_congr h]
  exact eqv_refl a

theorem canonical_canonical (a : Number) : a.canonical.canonical = a.canonical := by
  cases a with
  | int n h => rfl
  | float x =>
    cases hx : ofBinary64 x with
    | int n h => rw [canonical, hx, canonical]
    | float y =>
      obtain rfl := ofBinary64_eq_float hx
      rw [canonical, hx, canonical, hx]

/-- In canonical form only the number itself is of one kind and one value with a number. -/
theorem same_canonical_iff : a.canonical.same b.canonical = true ↔ a.Respelled b := by
  constructor
  · intro h
    rw [Respelled, ← canonical_canonical a, ← canonical_canonical b]
    revert h
    cases a.canonical <;> cases b.canonical <;> intro h
    · obtain rfl := beq_iff_eq.1 h
      rfl
    · cases h
    · cases h
    · exact ofBinary64_of_eqv h
  · intro h
    rw [Respelled] at h
    rw [h]
    exact same_refl _

/-- Numbers of one canonical form are the same if they are spelled in one way. -/
theorem Respelled.same_iff (h : a.Respelled b) : a.same b = true ↔ a.isFloat = b.isFloat := by
  have hvalue := h.toInt_eq
  cases a <;> cases b
  · obtain rfl := (Number.int.inj h)
    simp [same, isFloat]
  · simp [same, isFloat]
  · simp [same, isFloat]
  · simp only [same, isFloat, iff_true]
    exact beq_iff_eq.2 hvalue

end Number

theorem Record.get?_map_value (g : Value → Value) (r : Record) (k : String) :
    get? (r.map fun f => (f.1, g f.2)) k = (r.get? k).map g := by
  induction r with
  | nil => rfl
  | cons f r ih =>
    rw [get?] at ih
    rw [List.map_cons, get?, get?, List.lookup_cons, List.lookup_cons, ih]
    cases k == f.1 <;> rfl

namespace Value

/-- Induction over a value with the elements of arrays and the values of fields. -/
theorem nestedInduction {P : Value → Prop} (null : P .null) (bool : ∀ b, P (.bool b))
    (number : ∀ n, P (.number n)) (string : ∀ s, P (.string s))
    (array : ∀ items : List Value, (∀ v ∈ items, P v) → P (.array items))
    (object : ∀ fields : List (String × Value), (∀ f ∈ fields, P f.2) → P (.object fields)) :
    ∀ v, P v :=
  @Value.rec P (fun items => ∀ v ∈ items, P v) (fun fields => ∀ f ∈ fields, P f.2) (fun f => P f.2)
    null bool number string array object
    nofun (fun _ _ hv hr => List.forall_mem_cons.2 ⟨hv, hr⟩)
    nofun (fun _ _ hf hr => List.forall_mem_cons.2 ⟨hf, hr⟩)
    (fun _ _ hv => hv)

/-! ## Values in canonical form -/

mutual

/-- The value with its numbers in canonical form. -/
def canonical : Value → Value
  | .null => .null
  | .bool b => .bool b
  | .number n => .number n.canonical
  | .string s => .string s
  | .array items => .array (canonicalItems items)
  | .object fields => .object (canonicalFields fields)

def canonicalItems : List Value → List Value
  | [] => []
  | v :: r => canonical v :: canonicalItems r

def canonicalFields : List (String × Value) → List (String × Value)
  | [] => []
  | (k, v) :: r => (k, canonical v) :: canonicalFields r

end

/-- The values are the same in canonical form, but for the order of fields. -/
def Respelled (a b : Value) : Prop := same a.canonical b.canonical = true

instance (a b : Value) : Decidable (Respelled a b) :=
  inferInstanceAs (Decidable (same a.canonical b.canonical = true))

theorem canonicalItems_eq (items : List Value) : canonicalItems items = items.map canonical := by
  induction items with
  | nil => rfl
  | cons v r ih => rw [canonicalItems, ih, List.map_cons]

theorem canonicalFields_eq (fields : List (String × Value)) :
    canonicalFields fields = fields.map fun f => (f.1, f.2.canonical) := by
  induction fields with
  | nil => rfl
  | cons f r ih => rw [canonicalFields, ih, List.map_cons]

theorem Unambiguous.canonical {v : Value} (h : v.Unambiguous) : v.canonical.Unambiguous := by
  induction v using nestedInduction with
  | null => exact .null
  | bool b => exact .bool b
  | number n => exact .number n.canonical
  | string s => exact .string s
  | array items ih =>
    rw [Value.canonical, canonicalItems_eq, array_iff, List.forall_mem_map]
    exact fun v hv => ih v hv (array_iff.1 h v hv)
  | object fields ih =>
    obtain ⟨hkeys, hfields⟩ := object_iff.1 h
    rw [Value.canonical, canonicalFields_eq, object_iff, List.forall_mem_map]
    refine ⟨?_, fun f hf => ih f hf (hfields f hf)⟩
    rwa [Record.keys, List.map_map]

variable {a b c : Value} {k : String}

theorem sameItems_iff {a b : List Value} :
    sameItems a b = true ↔ List.Forall₂ (fun x y => same x y = true) a b := by
  induction a generalizing b with
  | nil => cases b <;> simp [sameItems]
  | cons x a ih => cases b <;> simp [sameItems, ih]

theorem Respelled.symm (h : a.Respelled b) (ha : a.Unambiguous) (hb : b.Unambiguous) :
    b.Respelled a :=
  same_symm _ _ ha.canonical hb.canonical h

theorem respelled_number_iff {m n : Number} :
    Respelled (.number m) (.number n) ↔ m.Respelled n :=
  Number.same_canonical_iff

theorem respelled_array_iff {a b : List Value} :
    Respelled (.array a) (.array b) ↔ List.Forall₂ Respelled a b := by
  rw [Respelled, canonical, canonical, same, sameItems_iff, canonicalItems_eq, canonicalItems_eq,
    List.forall₂_map_left_iff, List.forall₂_map_right_iff]
  rfl

theorem respelled_object_iff {a b : Record} : Respelled (.object a) (.object b) ↔
    a.length = b.length ∧ ∀ f ∈ a, ∃ y, b.get? f.1 = some y ∧ f.2.Respelled y := by
  rw [Respelled, canonical, canonical, same, Bool.and_eq_true, beq_iff_eq, sameFields_iff,
    canonicalFields_eq, canonicalFields_eq, List.length_map, List.length_map, List.forall_mem_map]
  simp only [Record.get?_map_value, Option.map_eq_some_iff, Respelled]
  refine and_congr_right' (forall₂_congr fun f _ => ?_)
  constructor
  · rintro ⟨_, ⟨y, hy, rfl⟩, hsame⟩
    exact ⟨y, hy, hsame⟩
  · rintro ⟨y, hy, hsame⟩
    exact ⟨_, ⟨y, hy, rfl⟩, hsame⟩

/-! ## Numbers that are spelled differently -/

/-- At one place of the values there is a whole number and a binary64 number. -/
inductive Apart : Value → Value → Prop
  | number {m n : Number} (h : m.isFloat ≠ n.isFloat) : Apart (.number m) (.number n)
  | item {a b : List Value} {x y : Value} (hxy : (x, y) ∈ a.zip b) (h : Apart x y) :
    Apart (.array a) (.array b)
  | field {a b : Record} {k : String} {x y : Value} (hx : a.get? k = some x)
    (hy : b.get? k = some y) (h : Apart x y) : Apart (.object a) (.object b)

/-- At one place inside of objects there is a whole number and a binary64 number. -/
inductive ApartWithin : Value → Value → Prop
  | object {a b : Record} (h : Apart (.object a) (.object b)) :
    ApartWithin (.object a) (.object b)
  | item {a b : List Value} {x y : Value} (hxy : (x, y) ∈ a.zip b) (h : ApartWithin x y) :
    ApartWithin (.array a) (.array b)

theorem apart_array_iff {a b : List Value} :
    Apart (.array a) (.array b) ↔ ∃ x y, (x, y) ∈ a.zip b ∧ Apart x y := by
  constructor
  · rintro (_ | ⟨hxy, h⟩)
    exact ⟨_, _, hxy, h⟩
  · rintro ⟨x, y, hxy, h⟩
    exact .item hxy h

theorem apart_object_iff {a b : Record} : Apart (.object a) (.object b) ↔
    ∃ k x y, a.get? k = some x ∧ b.get? k = some y ∧ Apart x y := by
  constructor
  · rintro (_ | _ | ⟨hx, hy, h⟩)
    exact ⟨_, _, _, hx, hy, h⟩
  · rintro ⟨k, x, y, hx, hy, h⟩
    exact .field hx hy h

theorem apartWithin_array_iff {a b : List Value} :
    ApartWithin (.array a) (.array b) ↔ ∃ x y, (x, y) ∈ a.zip b ∧ ApartWithin x y := by
  constructor
  · rintro (_ | ⟨hxy, h⟩)
    exact ⟨_, _, hxy, h⟩
  · rintro ⟨x, y, hxy, h⟩
    exact .item hxy h

theorem apartWithin_object_iff {a b : Record} :
    ApartWithin (.object a) (.object b) ↔ Apart (.object a) (.object b) := by
  constructor
  · rintro ⟨h⟩
    exact h
  · exact .object

/-- Lists of related elements are related otherwise if no two elements keep them from it. -/
theorem forall₂_iff_not_zip {R P Q : Value → Value → Prop} {a b : List Value}
    (h : List.Forall₂ R a b) (hPQ : ∀ x ∈ a, ∀ y, R x y → (P x y ↔ ¬ Q x y)) :
    List.Forall₂ P a b ↔ ¬ ∃ x y, (x, y) ∈ a.zip b ∧ Q x y := by
  induction h with
  | nil => simp
  | cons hxy _ ih =>
    obtain ⟨hx, ha⟩ := List.forall_mem_cons.1 hPQ
    rw [List.forall₂_cons, hx _ hxy, ih ha, List.zip_cons_cons]
    simp [not_or, or_and_right, exists_or]

/-- Values with one canonical form are the same if their numbers are spelled in one way. -/
theorem Respelled.same_iff (h : a.Respelled b) (ha : a.Unambiguous) :
    same a b = true ↔ ¬ Apart a b := by
  induction a using nestedInduction generalizing b with
  | null => cases b <;> first | exact iff_of_true rfl nofun | cases h
  | bool x =>
    cases b with
    | bool y => exact iff_of_true h nofun
    | _ => cases h
  | string s =>
    cases b with
    | string t => exact iff_of_true h nofun
    | _ => cases h
  | number m =>
    cases b with
    | number n =>
      rw [same, (respelled_number_iff.1 h).same_iff]
      constructor
      · rintro heq ⟨hne⟩
        exact hne heq
      · intro hapart
        by_contra hne
        exact hapart (.number hne)
    | _ => cases h
  | array items ih =>
    cases b with
    | array items' =>
      rw [same, sameItems_iff, apart_array_iff]
      exact forall₂_iff_not_zip (respelled_array_iff.1 h)
        fun x hx y hxy => ih x hx hxy (Unambiguous.array_iff.1 ha x hx)
    | _ => cases h
  | object fields ih =>
    cases b with
    | object fields' =>
      obtain ⟨hkeys, hfields⟩ := Unambiguous.object_iff.1 ha
      obtain ⟨hlength, hvalues⟩ := respelled_object_iff.1 h
      rw [same, hlength, beq_self_eq_true, Bool.true_and, sameFields_iff, apart_object_iff]
      constructor
      · rintro hsame ⟨k, x, y, hx, hy, hapart⟩
        have hmem : (k, x) ∈ fields := (Record.get?_eq_some_iff hkeys).1 hx
        obtain ⟨z, hz, hxz⟩ := hsame _ hmem
        obtain ⟨z', hz', hrespelled⟩ := hvalues _ hmem
        obtain rfl : z = y := Option.some.inj (hz.symm.trans hy)
        obtain rfl : z' = z := Option.some.inj (hz'.symm.trans hz)
        exact (ih _ hmem hrespelled (hfields _ hmem)).1 hxz hapart
      · intro hapart f hf
        obtain ⟨y, hy, hrespelled⟩ := hvalues f hf
        refine ⟨y, hy, (ih f hf hrespelled (hfields f hf)).2 fun hfy => hapart ?_⟩
        exact ⟨f.1, f.2, y, (Record.get?_eq_some_iff hkeys).2 hf, hy, hfy⟩
    | _ => cases h

/-- Values with one canonical form are equal if the numbers in their objects are spelled in one
way. -/
theorem Respelled.strictEq_iff (h : a.Respelled b) (ha : a.Unambiguous) :
    strictEq a b = true ↔ ¬ ApartWithin a b := by
  induction a using nestedInduction generalizing b with
  | null => cases b <;> first | exact iff_of_true rfl nofun | cases h
  | bool x =>
    cases b with
    | bool y => exact iff_of_true h nofun
    | _ => cases h
  | string s =>
    cases b with
    | string t => exact iff_of_true h nofun
    | _ => cases h
  | number m =>
    cases b with
    | number n => exact iff_of_true (respelled_number_iff.1 h).eqv nofun
    | _ => cases h
  | array items ih =>
    cases b with
    | array items' =>
      rw [strictEq, strictEqItems_iff, apartWithin_array_iff]
      exact forall₂_iff_not_zip (respelled_array_iff.1 h)
        fun x hx y hxy => ih x hx hxy (Unambiguous.array_iff.1 ha x hx)
    | _ => cases h
  | object fields ih =>
    cases b with
    | object fields' =>
      rw [apartWithin_object_iff]
      exact h.same_iff ha
    | _ => cases h

/-- Only objects have numbers inside of them. -/
theorem ApartWithin.objects_ne (h : ApartWithin a b) : a.objects ≠ [] := by
  induction h with
  | object h => simp [objects]
  | item hxy h ih =>
    intro hnone
    rw [objects, objectsOfItems_eq, List.flatMap_eq_nil_iff] at hnone
    exact ih (hnone _ (List.of_mem_zip hxy).1)

/-! ## Equality with other values -/

/-- A value that clashes with one clashes with all of its canonical form. -/
theorem Clash.of_respelled (h : Clash c b) (hab : a.Respelled b) : Clash c a := by
  induction h generalizing a with
  | number h =>
    cases a with
    | number m => exact .number (h.of_respelled (respelled_number_iff.1 hab))
    | _ => cases hab
  | item hx hy _ ih =>
    cases a with
    | array items =>
      have hitems := respelled_array_iff.1 hab
      obtain ⟨hi, rfl⟩ := List.getElem?_eq_some_iff.1 hy
      have hlt := hitems.length_eq ▸ hi
      exact .item hx (List.getElem?_eq_getElem hlt) (ih (hitems.get hlt hi))
    | _ => cases hab

/-- Values that are equal and have one canonical form are equal to the same values. -/
theorem Respelled.strictEq_congr (h : a.Respelled b) (ha : a.Unambiguous) (hb : b.Unambiguous)
    (hab : strictEq a b = true) (c : Value) : strictEq c a = strictEq c b := by
  have key {a b : Value} (h : a.Respelled b) (hab : strictEq a b = true)
      (hca : strictEq c a = true) : strictEq c b = true := by
    refine (strictEq_trans c a b hca hab).resolve_right fun hclash => ?_
    rw [(hclash.of_respelled h).strictEq_eq_false] at hca
    cases hca
  exact Bool.eq_iff_iff.2 ⟨key h hab, key (h.symm ha hb) (strictEq_symm a b ha hb hab)⟩

theorem strictEq_comm (ha : a.Unambiguous) (hb : b.Unambiguous) : strictEq a b = strictEq b a :=
  Bool.eq_iff_iff.2 ⟨strictEq_symm a b ha hb, strictEq_symm b a hb ha⟩

/-- **Values of one canonical form are equal exactly if the numbers in their objects are spelled in
one way**, so always if there are no objects in them. If they are equal, a list that holds the one
holds the other, they are in the same lists, and they are equal to the same fields. -/
theorem strictEq_of_respelled : ∀ a b : Value, a.Unambiguous → b.Unambiguous → a.Respelled b →
    (strictEq a b = true ↔ ¬ ApartWithin a b) ∧
    (a.objects = [] → strictEq a b = true) ∧
    (¬ ApartWithin a b →
      (∀ list, b ∈ list → elem list (some a) = true) ∧
      (∀ list, elem list (some a) = elem list (some b)) ∧
      ∀ x, (∀ v ∈ x, v.Unambiguous) →
        fieldEq x (some a) = fieldEq x (some b) ∧ fieldEq (some a) x = fieldEq (some b) x) := by
  intro a b ha hb h
  have hiff := h.strictEq_iff ha
  refine ⟨hiff, fun hnone => hiff.2 fun hwithin => hwithin.objects_ne hnone, fun hwithin => ?_⟩
  have hab := hiff.2 hwithin
  have hcongr := h.strictEq_congr ha hb hab
  refine ⟨fun list hmem => ?_, fun list => ?_, fun x hx => ?_⟩
  · exact List.any_eq_true.2 ⟨b, hmem, strictEq_symm a b ha hb hab⟩
  · simp only [elem, hcongr]
  · cases x with
    | none => exact ⟨rfl, rfl⟩
    | some v =>
      have hv := hx v rfl
      refine ⟨hcongr v, ?_⟩
      rw [fieldEq, fieldEq, strictEq_comm ha hv, strictEq_comm hb hv, hcongr]

/-- Numbers in arrays are spelled in two ways, fields stand in another order. -/
theorem strictEq_of_respelled_nested :
    let one : Number := .int 1 (by decide)
    let floatOne : Number := .float one.toBinary64
    let a : Value := .array [.array [.number one],
      .object [("n", .number one), ("s", .string "x")]]
    let b : Value := .array [.array [.number floatOne],
      .object [("s", .string "x"), ("n", .number one)]]
    a.Unambiguous ∧ b.Unambiguous ∧ a.Respelled b ∧ strictEq a b = true ∧ ¬ ApartWithin a b ∧
      elem [.null, b] (some a) = true ∧ fieldEq (some a) (some b) = fieldEq (some b) (some b) := by
  intro one floatOne a b
  have ha : a.Unambiguous := by decide
  have hb : b.Unambiguous := by decide
  have h : a.Respelled b := by decide +kernel
  have hab : strictEq a b = true := by decide +kernel
  obtain ⟨hiff, -, hequal⟩ := strictEq_of_respelled a b ha hb h
  obtain ⟨hmem, -, hfield⟩ := hequal (hiff.1 hab)
  have hfields := hfield (some b) fun v hv => Option.some.inj hv ▸ hb
  exact ⟨ha, hb, h, hab, hiff.1 hab, hmem _ (by simp), hfields.2⟩

/-- A number in an object is equal only to itself spelled in the same way. -/
theorem strictEq_object_apart :
    let one : Number := .int 1 (by decide)
    let floatOne : Number := .float one.toBinary64
    let a : Value := .object [("n", .number one)]
    let b : Value := .object [("n", .number floatOne)]
    a.Unambiguous ∧ b.Unambiguous ∧ a.Respelled b ∧ strictEq a b = false ∧
      elem [b] (some a) = false ∧ fieldEq (some a) (some b) = false := by
  decide +kernel

end Value

end Reshape
