import Mathlib.Data.List.Forall2
import Reshape.Proofs.Rounding
import Reshape.Proofs.Unambiguous

/-!
# Equality of values as an equivalence

Whole numbers below `2 ^ 63` are compared exactly with each other and through their binary64 numbers
with all others. Beyond `2 ^ 53` different whole numbers share a binary64 number, so that each of
them equals that one and they do not equal each other. Nothing else keeps equality from being
transitive.

* `Number.Clash`, `Value.Clash`: different whole numbers that share a binary64 number, at one place
  of two values.
* `Number.Clash.exists_int`: numbers that clash are whole numbers from `2 ^ 53` on.
* `Value.strictEq_refl`, `Value.strictEq_trans`: equality is reflexive, and transitive on values
  that do not clash.
* `Value.strictEq_equivalence`: this and `strictEq_symm`, also where fields may be absent.
-/

namespace Reshape

namespace Number

variable {a b c : Number}

/-! ## Numbers -/

/-- Different whole numbers below `2 ^ 63` that have one binary64 number. -/
def Clash (a b : Number) : Prop :=
  ∃ m n, a.signedWord? = some m ∧ b.signedWord? = some n ∧ m ≠ n ∧
    a.toBinary64.eqv b.toBinary64 = true

theorem eqv_of_signedWord? {m n : Int} (ha : a.signedWord? = some m)
    (hb : b.signedWord? = some n) : a.eqv b = (m == n) := by
  rw [eqv, ha, hb]

theorem exists_int_of_signedWord? {m : Int} (h : a.signedWord? = some m) :
    ∃ hm, a = .int m hm := by
  cases a with
  | float x => cases h
  | int n hn =>
    rw [signedWord?] at h
    split at h <;> cases h
    exact ⟨hn, rfl⟩

/-- Numbers that are not both compared exactly are compared through their binary64 numbers. -/
theorem eqv_eq_toBinary64 (h : a.signedWord? = none ∨ b.signedWord? = none) :
    a.eqv b = a.toBinary64.eqv b.toBinary64 := by
  rw [eqv]
  rcases h with h | h <;> rw [h]
  cases a.signedWord? <;> rfl

/-- Equal numbers have equal binary64 numbers. -/
theorem toBinary64_of_eqv (h : a.eqv b = true) : a.toBinary64.eqv b.toBinary64 = true := by
  cases ha : a.signedWord? with
  | none => rwa [eqv_eq_toBinary64 (.inl ha)] at h
  | some m =>
    cases hb : b.signedWord? with
    | none => rwa [eqv_eq_toBinary64 (.inr hb)] at h
    | some n =>
      rw [eqv_of_signedWord? ha hb, beq_iff_eq] at h
      obtain ⟨hm, rfl⟩ := exists_int_of_signedWord? ha
      obtain ⟨hn, rfl⟩ := exists_int_of_signedWord? hb
      subst h
      exact beq_self_eq_true _

/-- Numbers that have one binary64 number are equal unless they clash. -/
theorem eqv_or_clash (h : a.toBinary64.eqv b.toBinary64 = true) : a.eqv b = true ∨ a.Clash b := by
  cases ha : a.signedWord? with
  | none => exact .inl (eqv_eq_toBinary64 (.inl ha) ▸ h)
  | some m =>
    cases hb : b.signedWord? with
    | none => exact .inl (eqv_eq_toBinary64 (.inr hb) ▸ h)
    | some n =>
      rw [eqv_of_signedWord? ha hb, beq_iff_eq]
      by_cases hmn : m = n
      · exact .inl hmn
      · exact .inr ⟨m, n, ha, hb, hmn, h⟩

theorem toBinary64_eqv_iff :
    a.toBinary64.eqv b.toBinary64 = true ↔ a.eqv b = true ∨ a.Clash b := by
  constructor
  · exact eqv_or_clash
  · rintro (h | ⟨_, _, -, -, -, h⟩)
    · exact toBinary64_of_eqv h
    · exact h

theorem Clash.eqv_eq_false (h : a.Clash b) : a.eqv b = false := by
  obtain ⟨m, n, ha, hb, hmn, -⟩ := h
  rw [eqv_of_signedWord? ha hb]
  exact beq_false_of_ne hmn

theorem Clash.symm (h : a.Clash b) : b.Clash a := by
  obtain ⟨m, n, ha, hb, hmn, heqv⟩ := h
  exact ⟨n, m, hb, ha, hmn.symm, beq_iff_eq.2 (beq_iff_eq.1 heqv).symm⟩

theorem eqv_refl (a : Number) : a.eqv a = true := by
  rw [eqv]
  cases a.signedWord? <;> exact beq_self_eq_true _

theorem eqv_trans (hab : a.eqv b = true) (hbc : b.eqv c = true) :
    a.eqv c = true ∨ a.Clash c := by
  have hx := beq_iff_eq.1 (toBinary64_of_eqv hab)
  have hy := beq_iff_eq.1 (toBinary64_of_eqv hbc)
  exact eqv_or_clash (beq_iff_eq.2 (hx.trans hy))

theorem same_refl (a : Number) : a.same a = true := by
  cases a <;> exact beq_self_eq_true _

theorem same_trans (hab : a.same b = true) (hbc : b.same c = true) : a.same c = true := by
  cases a with
  | int m =>
    cases b with
    | float y => cases hab
    | int n =>
      cases c with
      | float z => cases hbc
      | int k => exact beq_iff_eq.2 ((beq_iff_eq.1 hab).trans (beq_iff_eq.1 hbc))
  | float x =>
    cases b with
    | int n => cases hab
    | float y =>
      cases c with
      | int k => cases hbc
      | float z => exact beq_iff_eq.2 ((beq_iff_eq.1 hab).trans (beq_iff_eq.1 hbc))

/-! ### Which numbers clash -/

theorem toInt_toBinary64_int {m : Int} (hm : IsWord m) :
    (Number.int m hm).toBinary64.toInt =
      if m < 0 then -(roundUnits (m.natAbs * one64) 1 : Int)
      else roundUnits (m.natAbs * one64) 1 := by
  by_cases hneg : m < 0
  · rw [if_pos hneg]
    exact if_pos (decide_eq_true hneg)
  · rw [if_neg hneg]
    exact if_neg fun h => hneg (of_decide_eq_true h)

/-- Whole numbers of 53 bits are binary64 numbers. -/
theorem toInt_toBinary64_int_of_le {m : Int} (hm : IsWord m) (h : m.natAbs ≤ 2 ^ 53) :
    (Number.int m hm).toBinary64.toInt = m * (one64 : Nat) := by
  obtain ⟨a, ha⟩ := exists_one64_eq
  have hunits : roundUnits (m.natAbs * one64) 1 = m.natAbs * one64 := by
    rw [ha]
    exact roundUnits_mul_two_pow h a
  rw [toInt_toBinary64_int, hunits, Nat.cast_mul]
  split
  · rw [Int.ofNat_natAbs_of_nonpos (by omega), Int.neg_mul, Int.neg_neg]
  · rw [Int.natAbs_of_nonneg (by omega)]

/-- Numbers of more than 53 bits are not rounded to less. -/
theorem le_natAbs_toInt_toBinary64_int {m : Int} (hm : IsWord m) (h : 2 ^ 53 ≤ m.natAbs) :
    2 ^ 53 * one64 ≤ (Number.int m hm).toBinary64.toInt.natAbs := by
  obtain ⟨a, ha⟩ := exists_one64_eq
  have hle : 2 ^ 53 * one64 ≤ m.natAbs * one64 := Nat.mul_le_mul_right _ h
  have hpower : 2 ^ 53 * one64 = 2 ^ (53 + a) := by rw [ha, Nat.pow_add]; rfl
  rw [hpower] at hle ⊢
  rw [Binary64.natAbs_toInt]
  exact le_roundUnits_of_two_pow_le hle

/-- Numbers below `2 ^ 53` do not clash. -/
theorem Clash.le_natAbs (h : a.Clash b) : ∃ m hm, a = .int m hm ∧ 2 ^ 53 ≤ m.natAbs := by
  obtain ⟨m, n, ha, hb, hmn, heqv⟩ := h
  obtain ⟨hm, rfl⟩ := exists_int_of_signedWord? ha
  obtain ⟨hn, rfl⟩ := exists_int_of_signedWord? hb
  refine ⟨m, hm, rfl, ?_⟩
  by_contra hlt
  have hone : (0 : Int) < (one64 : Nat) := Int.natCast_pos.2 Binary64.one64_pos
  have heq := beq_iff_eq.1 heqv
  rw [toInt_toBinary64_int_of_le hm (by omega)] at heq
  by_cases hsmall : n.natAbs ≤ 2 ^ 53
  · rw [toInt_toBinary64_int_of_le hn hsmall] at heq
    exact hmn (Int.eq_of_mul_eq_mul_right hone.ne' heq)
  · have hle := le_natAbs_toInt_toBinary64_int hn (by omega)
    rw [← heq, Int.natAbs_mul, Int.natAbs_natCast] at hle
    exact hlt (Nat.le_of_mul_le_mul_right hle Binary64.one64_pos)

/-- Numbers that clash are different whole numbers from `2 ^ 53` on. -/
theorem Clash.exists_int (h : a.Clash b) : ∃ m hm n hn, a = .int m hm ∧ b = .int n hn ∧ m ≠ n ∧
    2 ^ 53 ≤ m.natAbs ∧ 2 ^ 53 ≤ n.natAbs := by
  obtain ⟨m, hm, rfl, hmle⟩ := h.le_natAbs
  obtain ⟨n, hn, rfl, hnle⟩ := h.symm.le_natAbs
  refine ⟨m, hm, n, hn, rfl, rfl, ?_, hmle, hnle⟩
  rintro rfl
  cases (eqv_refl _).symm.trans h.eqv_eq_false

end Number

namespace Value

/-! ## Values -/

/-- At one place outside of objects the values have numbers that clash. -/
inductive Clash : Value → Value → Prop
  | number {a b : Number} (h : a.Clash b) : Clash (.number a) (.number b)
  | item {a b : List Value} {i : Nat} {x y : Value} (hx : a[i]? = some x) (hy : b[i]? = some y)
      (h : Clash x y) : Clash (.array a) (.array b)

theorem strictEqItems_iff {a b : List Value} :
    strictEqItems a b = true ↔ List.Forall₂ (fun x y => strictEq x y = true) a b := by
  induction a generalizing b with
  | nil => cases b <;> simp [strictEqItems]
  | cons x a ih => cases b <;> simp [strictEqItems, ih]

theorem Clash.strictEq_eq_false {a b : Value} (h : Clash a b) : strictEq a b = false := by
  induction h with
  | number h => exact h.eqv_eq_false
  | item hx hy _ ih =>
    rw [strictEq, ← Bool.not_eq_true, strictEqItems_iff, List.forall₂_iff_get]
    rintro ⟨hlength, hitems⟩
    obtain ⟨hi, rfl⟩ := List.getElem?_eq_some_iff.1 hx
    obtain ⟨hj, rfl⟩ := List.getElem?_eq_some_iff.1 hy
    have := hitems _ hi hj
    rw [List.get_eq_getElem, List.get_eq_getElem, ih] at this
    cases this

theorem Clash.exists_numbers {a b : Value} (h : Clash a b) :
    ∃ m ∈ a.numbers, ∃ n ∈ b.numbers, m.Clash n := by
  induction h with
  | number h => exact ⟨_, List.mem_singleton_self _, _, List.mem_singleton_self _, h⟩
  | item hx hy _ ih =>
    have mem {items : List Value} {i : Nat} {v : Value} {n : Number} (hv : items[i]? = some v)
        (hn : n ∈ v.numbers) : n ∈ (array items).numbers := by
      rw [numbers, numbersOfItems_eq, List.mem_flatMap]
      exact ⟨v, List.mem_of_getElem? hv, hn⟩
    obtain ⟨m, hm, n, hn, h⟩ := ih
    exact ⟨m, mem hx hm, n, mem hy hn, h⟩

/-! ### Equality kind by kind -/

mutual

theorem same_refl : ∀ v : Value, v.Unambiguous → same v v = true
  | .null, _ => rfl
  | .bool b, _ => beq_self_eq_true b
  | .number n, _ => n.same_refl
  | .string s, _ => beq_self_eq_true s
  | .array items, h => sameItems_refl items (.array_iff.1 h)
  | .object fields, h => by
    obtain ⟨hkeys, hfields⟩ := Unambiguous.object_iff.1 h
    rw [same, beq_self_eq_true, Bool.true_and, sameFields_iff]
    intro f hf
    exact ⟨f.2, (Record.get?_eq_some_iff hkeys).2 hf, same_refl_of_mem fields f hf (hfields f hf)⟩

theorem sameItems_refl : ∀ items : List Value, (∀ v ∈ items, v.Unambiguous) →
    sameItems items items = true
  | [], _ => rfl
  | v :: items, h => by
    obtain ⟨hv, hitems⟩ := List.forall_mem_cons.1 h
    rw [sameItems, same_refl v hv, sameItems_refl items hitems]
    rfl

theorem same_refl_of_mem : ∀ fields : List (String × Value), ∀ f ∈ fields,
    f.2.Unambiguous → same f.2 f.2 = true
  | [], _, hf => by cases hf
  | (_, v) :: fields, f, hf => by
    rcases List.mem_cons.1 hf with rfl | hf
    · exact same_refl v
    · exact same_refl_of_mem fields f hf

end

mutual

theorem same_trans : ∀ a b c : Value, same a b = true → same b c = true → same a c = true
  | .null, b, c, hab, hbc => by
    cases b <;> first | exact hbc | cases hab
  | .bool a, b, c, hab, hbc => by
    cases b with
    | bool b => exact beq_iff_eq.1 hab ▸ hbc
    | _ => cases hab
  | .number a, b, c, hab, hbc => by
    cases b with
    | number b =>
      cases c with
      | number c => exact Number.same_trans hab hbc
      | _ => cases hbc
    | _ => cases hab
  | .string a, b, c, hab, hbc => by
    cases b with
    | string b => exact beq_iff_eq.1 hab ▸ hbc
    | _ => cases hab
  | .array a, b, c, hab, hbc => by
    cases b with
    | array b =>
      cases c with
      | array c => exact sameItems_trans a b c hab hbc
      | _ => cases hbc
    | _ => cases hab
  | .object a, b, c, hab, hbc => by
    cases b with
    | object b =>
      cases c with
      | object c =>
        rw [same, Bool.and_eq_true, beq_iff_eq, sameFields_iff] at hab hbc ⊢
        refine ⟨hab.1.trans hbc.1, fun f hf => ?_⟩
        obtain ⟨y, hy, hfy⟩ := hab.2 f hf
        obtain ⟨z, hz, hyz⟩ := hbc.2 (f.1, y) (mem_of_lookup hy)
        exact ⟨z, hz, same_trans_of_mem a f hf y z hfy hyz⟩
      | _ => cases hbc
    | _ => cases hab

theorem sameItems_trans : ∀ a b c : List Value, sameItems a b = true → sameItems b c = true →
    sameItems a c = true
  | [], b, c, hab, hbc => by
    cases b with
    | nil => exact hbc
    | cons y b => cases hab
  | x :: a, b, c, hab, hbc => by
    cases b with
    | nil => cases hab
    | cons y b =>
      cases c with
      | nil => cases hbc
      | cons z c =>
        rw [sameItems, Bool.and_eq_true] at hab hbc ⊢
        exact ⟨same_trans x y z hab.1 hbc.1, sameItems_trans a b c hab.2 hbc.2⟩

theorem same_trans_of_mem : ∀ fields : List (String × Value), ∀ f ∈ fields, ∀ y z : Value,
    same f.2 y = true → same y z = true → same f.2 z = true
  | [], _, hf => by cases hf
  | (_, x) :: fields, f, hf => by
    rcases List.mem_cons.1 hf with rfl | hf
    · exact same_trans x
    · exact same_trans_of_mem fields f hf

end

/-! ### Equality by value -/

mutual

theorem strictEq_refl : ∀ v : Value, v.Unambiguous → strictEq v v = true
  | .null, _ => rfl
  | .bool b, _ => beq_self_eq_true b
  | .number n, _ => n.eqv_refl
  | .string s, _ => beq_self_eq_true s
  | .array items, h => strictEqItems_refl items (.array_iff.1 h)
  | .object fields, h => same_refl (.object fields) h

theorem strictEqItems_refl : ∀ items : List Value, (∀ v ∈ items, v.Unambiguous) →
    strictEqItems items items = true
  | [], _ => rfl
  | v :: items, h => by
    obtain ⟨hv, hitems⟩ := List.forall_mem_cons.1 h
    rw [strictEqItems, strictEq_refl v hv, strictEqItems_refl items hitems]
    rfl

end

mutual

/-- Equality is transitive on values that do not clash. -/
theorem strictEq_trans : ∀ a b c : Value, strictEq a b = true → strictEq b c = true →
    strictEq a c = true ∨ Clash a c
  | .number a, b, c, hab, hbc => by
    cases b with
    | number b =>
      cases c with
      | number c => exact (Number.eqv_trans hab hbc).imp_right .number
      | _ => cases hbc
    | _ => cases hab
  | .array a, b, c, hab, hbc => by
    cases b with
    | array b =>
      cases c with
      | array c =>
        refine (strictEqItems_trans a b c hab hbc).imp_right ?_
        rintro ⟨i, x, z, hx, hz, h⟩
        exact .item hx hz h
      | _ => cases hbc
    | _ => cases hab
  | .null, b, c, hab, hbc => by
    cases b <;> first | exact .inl hbc | cases hab
  | .bool a, b, c, hab, hbc => by
    cases b with
    | bool b => exact .inl (same_trans (.bool a) (.bool b) c hab (by cases c <;> exact hbc))
    | _ => cases hab
  | .string a, b, c, hab, hbc => by
    cases b with
    | string b => exact .inl (beq_iff_eq.1 hab ▸ hbc)
    | _ => cases hab
  | .object a, b, c, hab, hbc => by
    cases b with
    | object b =>
      cases c with
      | object c => exact .inl (same_trans (.object a) (.object b) (.object c) hab hbc)
      | _ => cases hbc
    | _ => cases hab

theorem strictEqItems_trans : ∀ a b d : List Value, strictEqItems a b = true →
    strictEqItems b d = true →
    strictEqItems a d = true ∨
      ∃ (i : Nat) (x z : Value), a[i]? = some x ∧ d[i]? = some z ∧ Clash x z
  | [], b, d, hab, hbd => by
    cases b with
    | nil => exact .inl hbd
    | cons y b => cases hab
  | x :: a, b, d, hab, hbd => by
    cases b with
    | nil => cases hab
    | cons y b =>
      cases d with
      | nil => cases hbd
      | cons z d =>
        rw [strictEqItems, Bool.and_eq_true] at hab hbd ⊢
        rcases strictEq_trans x y z hab.1 hbd.1 with hxz | hclash
        · rcases strictEqItems_trans a b d hab.2 hbd.2 with had | ⟨i, u, w, hu, hw, hclash⟩
          · exact .inl ⟨hxz, had⟩
          · exact .inr ⟨i + 1, u, w, hu, hw, hclash⟩
        · exact .inr ⟨0, x, z, rfl, rfl, hclash⟩

end

theorem strictEq_iff_not_clash {a b c : Value} (hab : strictEq a b = true)
    (hbc : strictEq b c = true) : strictEq a c = true ↔ ¬ Clash a c := by
  constructor
  · intro hac hclash
    rw [hclash.strictEq_eq_false] at hac
    cases hac
  · intro hclash
    exact (strictEq_trans a b c hab hbc).resolve_right hclash

theorem fieldEq_refl {x : Option Value} (hx : ∀ v ∈ x, v.Unambiguous) : fieldEq x x = true := by
  cases x with
  | none => rfl
  | some v => exact strictEq_refl v (hx v rfl)

theorem fieldEq_iff_not_clash {x y z : Option Value} (hxy : fieldEq x y = true)
    (hyz : fieldEq y z = true) : fieldEq x z = true ↔ ∀ a ∈ x, ∀ c ∈ z, ¬ Clash a c := by
  match x, y, z with
  | none, none, none => exact ⟨fun _ _ ha => (nomatch ha), fun _ => rfl⟩
  | some a, some b, some c =>
    refine (strictEq_iff_not_clash hxy hyz).trans ⟨?_, fun h => h a rfl c rfl⟩
    rintro h _ ⟨⟩ _ ⟨⟩
    exact h
  | none, some _, _ | some _, none, _ => cases hxy
  | none, none, some _ | some _, some _, none => cases hyz

/-- **Equality is reflexive and symmetric, and transitive on values that do not clash**, also of
fields that are absent or have these values. Only values with different whole numbers from
`2 ^ 53` on clash. -/
theorem strictEq_equivalence : ∀ a b c : Value, a.Unambiguous → b.Unambiguous →
    (strictEq a a = true ∧ (strictEq a b = true → strictEq b a = true) ∧
      (strictEq a b = true → strictEq b c = true → (strictEq a c = true ↔ ¬ Clash a c))) ∧
    (∀ x ∈ [none, some a], ∀ y ∈ [none, some b], ∀ z ∈ [none, some c],
      fieldEq x x = true ∧ (fieldEq x y = true → fieldEq y x = true) ∧
      (fieldEq x y = true → fieldEq y z = true →
        (fieldEq x z = true ↔ ∀ v ∈ x, ∀ w ∈ z, ¬ Clash v w))) ∧
    (Clash a c → ∃ m hm n hn, .int m hm ∈ a.numbers ∧ .int n hn ∈ c.numbers ∧ m ≠ n ∧
      2 ^ 53 ≤ m.natAbs ∧ 2 ^ 53 ≤ n.natAbs) := by
  intro a b c ha hb
  refine ⟨⟨strictEq_refl a ha, strictEq_symm a b ha hb, strictEq_iff_not_clash⟩,
    fun x hx y hy z _ => ?_, fun h => ?_⟩
  · have hfield {x : Option Value} {v : Value} (hv : v.Unambiguous) (hx : x ∈ [none, some v]) :
        ∀ w, x = some w → w.Unambiguous := by
      rintro w rfl
      obtain rfl : w = v := by simpa using hx
      exact hv
    exact ⟨fieldEq_refl (hfield ha hx), fieldEq_symm (hfield ha hx) (hfield hb hy),
      fieldEq_iff_not_clash⟩
  · obtain ⟨p, hp, q, hq, hclash⟩ := h.exists_numbers
    obtain ⟨m, hm, n, hn, rfl, rfl, hmn⟩ := hclash.exists_int
    exact ⟨m, hm, n, hn, hp, hq, hmn⟩

/-- A number is equal to itself written otherwise, in arrays too. -/
theorem strictEq_equivalence_sevens :
    let seven : Number := .int 7 (by decide)
    let a : Value := .array [.number seven]
    let b : Value := .array [.number (.float seven.toBinary64)]
    a.Unambiguous ∧ b.Unambiguous ∧ strictEq a b = true ∧ strictEq b a = true ∧
      (strictEq a a = true ↔ ¬ Clash a a) ∧ fieldEq (some b) (some a) = true := by
  intro seven a b
  have ha : a.Unambiguous := by decide
  have hb : b.Unambiguous := by decide
  have hab : strictEq a b = true := by decide +kernel
  obtain ⟨⟨-, hsymm, htrans⟩, hfields, -⟩ := strictEq_equivalence a b a ha hb
  have hfield := hfields (some a) (by simp) (some b) (by simp) none (by simp)
  exact ⟨ha, hb, hab, hsymm hab, htrans hab (hsymm hab), hfield.2.1 hab⟩

/-- Two whole numbers that share a binary64 number both equal it, and differ. -/
theorem strictEq_not_trans :
    let m : Number := .int 9007199254740992 (by decide)
    let n : Number := .int 9007199254740993 (by decide)
    let x : Number := .float m.toBinary64
    strictEq (.number n) (.number x) = true ∧ strictEq (.number x) (.number m) = true ∧
      strictEq (.number n) (.number m) = false := by
  decide +kernel

end Value

end Reshape
