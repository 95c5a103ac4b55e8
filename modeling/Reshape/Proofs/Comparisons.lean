import Mathlib.Order.Compare
import Reshape.Expression.Eval
import Reshape.Proofs.Equivalence

/-!
# Comparisons of fields

Numbers are put in order by their binary64 numbers, and so are they compared for equality, unless
both are whole numbers below `2 ^ 63`: these are equal only if they are the same. Different ones
that share a binary64 number are neither equal nor before one another.

* `Value.Ordered`: two numbers or two strings.
* `Value.Ordered.compare?_eq_eq_iff`: values that stand at one place are equal or clash.
* `Value.compare?_lt_trans`: the order is transitive.
* `Comparison.Holds`: a comparison of two fields is true of a record.
* `Comparison.holds_consistent`: how the six comparisons go together.
-/

namespace Reshape

namespace Value

variable {u v w : Value}

/-! ## The order of values -/

/-- Both values are numbers, or both are strings. -/
inductive Ordered : Value → Value → Prop
  | number (m n : Number) : Ordered (.number m) (.number n)
  | string (s t : String) : Ordered (.string s) (.string t)

theorem clash_number_iff {m n : Number} : Clash (.number m) (.number n) ↔ m.Clash n := by
  constructor
  · rintro ⟨h⟩
    exact h
  · exact .number

theorem not_clash_string (s t : String) : ¬ Clash (.string s) (.string t) := nofun

/-- Only numbers and strings are in order. -/
theorem ordered_of_compare? {o : Ordering} (h : compare? u v = some o) : u.Ordered v := by
  unfold compare? at h
  split at h
  · exact .number _ _
  · exact .string _ _
  · cases h

theorem Ordered.exists_compare? (h : u.Ordered v) : ∃ o, compare? u v = some o := by
  cases h <;> exact ⟨_, rfl⟩

/-- Strings that are ordered by code point stand at one place if they are the same. -/
theorem compare?_string_eq_iff {s t : String} :
    compare? (.string s) (.string t) = some .eq ↔ s = t := by
  simp only [compare?, Option.some.injEq]
  split
  · rename_i hlt
    simp only [reduceCtorEq, false_iff]
    rintro rfl
    exact String.lt_irrefl s hlt
  · split <;> simp_all

/-- Values of one place in the order are equal or clash. -/
theorem Ordered.compare?_eq_eq_iff (h : u.Ordered v) :
    compare? u v = some .eq ↔ strictEq u v = true ∨ u.Clash v := by
  cases h with
  | number m n =>
    have hplace : compare? (.number m) (.number n) = some .eq ↔
        m.toBinary64.eqv n.toBinary64 = true := by
      simp only [compare?, Option.some.injEq, compare_eq_iff_eq, Binary64.eqv, beq_iff_eq]
    rw [hplace, Number.toBinary64_eqv_iff, clash_number_iff, strictEq]
  | string s t =>
    have hequal : strictEq (.string s) (.string t) = true ↔ s = t := by
      simp [strictEq, same]
    rw [compare?_string_eq_iff, hequal, or_iff_left (not_clash_string s t)]

theorem compare?_string_lt_iff {s t : String} :
    compare? (.string s) (.string t) = some .lt ↔ s < t := by
  simp only [compare?, Option.some.injEq]
  split
  · exact iff_of_true rfl ‹_›
  · refine iff_of_false ?_ ‹_›
    split <;> exact nofun

/-- The order of values is transitive. -/
theorem compare?_lt_trans (huv : compare? u v = some .lt) (hvw : compare? v w = some .lt) :
    compare? u w = some .lt := by
  cases ordered_of_compare? huv with
  | number m n =>
    cases ordered_of_compare? hvw with
    | number n k =>
      simp only [compare?, Option.some.injEq, compare_lt_iff_lt] at huv hvw ⊢
      exact huv.trans hvw
  | string s t =>
    cases ordered_of_compare? hvw with
    | string t x =>
      rw [compare?_string_lt_iff] at huv hvw ⊢
      exact String.lt_trans huv hvw

/-- Numbers that clash are different whole numbers from `2 ^ 53` on. -/
theorem Ordered.exists_int_of_clash (h : u.Ordered v) (hclash : u.Clash v) :
    ∃ m hm n hn, u = .number (.int m hm) ∧ v = .number (.int n hn) ∧ m ≠ n ∧
      2 ^ 53 ≤ m.natAbs ∧ 2 ^ 53 ≤ n.natAbs := by
  cases h with
  | number m n =>
    obtain ⟨m, hm, n, hn, rfl, rfl, h⟩ := (clash_number_iff.1 hclash).exists_int
    exact ⟨m, hm, n, hn, rfl, rfl, h⟩
  | string s t => exact absurd hclash (not_clash_string s t)

end Value

namespace Comparison

variable {r : Record} {a b c : String} {u v : Value}

/-! ## Comparisons of values -/

theorem holds_eq_iff : eq.holds u v = true ↔ Value.strictEq u v = true := Iff.rfl

theorem holds_lt_iff : lt.holds u v = true ↔ u.compare? v = some .lt := beq_iff_eq

theorem holds_gt_iff : gt.holds u v = true ↔ u.compare? v = some .gt := beq_iff_eq

theorem holds_le_iff (h : u.Ordered v) :
    le.holds u v = true ↔ (lt.holds u v = true ∨ eq.holds u v = true) ∨ u.Clash v := by
  rw [holds_lt_iff, holds_eq_iff, or_assoc, ← h.compare?_eq_eq_iff]
  simp [holds]

theorem holds_ge_iff (h : u.Ordered v) :
    ge.holds u v = true ↔ (gt.holds u v = true ∨ eq.holds u v = true) ∨ u.Clash v := by
  rw [holds_gt_iff, holds_eq_iff, or_assoc, ← h.compare?_eq_eq_iff]
  simp [holds]

/-- Values that clash are neither equal nor before one another. -/
theorem holds_eq_false_of_clash (h : u.Ordered v) (hclash : u.Clash v) :
    lt.holds u v = false ∧ eq.holds u v = false ∧ gt.holds u v = false := by
  have hplace : u.compare? v = some .eq := h.compare?_eq_eq_iff.2 (.inr hclash)
  refine ⟨?_, hclash.strictEq_eq_false, ?_⟩ <;> rw [holds, hplace] <;> rfl

/-- Of less, equal and greater exactly one is true of values that do not clash. -/
theorem existsUnique_holds_iff (h : u.Ordered v) :
    (∃! k, k ∈ [lt, eq, gt] ∧ k.holds u v = true) ↔ ¬ u.Clash v := by
  constructor
  · rintro ⟨k, ⟨hmem, hk⟩, -⟩ hclash
    obtain ⟨hlt, heq, hgt⟩ := holds_eq_false_of_clash h hclash
    simp only [List.mem_cons, List.not_mem_nil, or_false] at hmem
    rcases hmem with rfl | rfl | rfl <;> simp_all
  · intro hclash
    obtain ⟨o, ho⟩ := h.exists_compare?
    have hequal : eq.holds u v = true ↔ o = .eq := by
      have hplace := h.compare?_eq_eq_iff
      rw [or_iff_left hclash, ho, Option.some.injEq] at hplace
      rw [holds_eq_iff, hplace]
    have hless : lt.holds u v = true ↔ o = .lt := by rw [holds_lt_iff, ho, Option.some.injEq]
    have hgreater : gt.holds u v = true ↔ o = .gt := by rw [holds_gt_iff, ho, Option.some.injEq]
    cases o with
    | lt => exact ⟨lt, by simp_all, by simp_all⟩
    | eq => exact ⟨eq, by simp_all, by simp_all⟩
    | gt => exact ⟨gt, by simp_all, by simp_all⟩

/-! ## Comparisons of fields -/

/-- The comparison of the fields `a` and `b` is true of the record. -/
def Holds (k : Comparison) (r : Record) (a b : String) : Prop :=
  (Expr.binary (.compare k) (.field a) (.field b)).eval r = .bool true

theorem holds_field_iff {k : Comparison} :
    k.Holds r a b ↔ k.holds ((r.get? a).getD .null) ((r.get? b).getD .null) = true := by
  simp only [Holds, Expr.eval, BinaryOp.eval, Value.bool.injEq]

theorem holds_iff_of_get? {k : Comparison} (ha : r.get? a = some u) (hb : r.get? b = some v) :
    k.Holds r a b ↔ k.holds u v = true := by
  rw [holds_field_iff, ha, hb, Option.getD_some, Option.getD_some]

/-- What is less than a field is less than all that this field is less than, whatever the fields
hold. -/
theorem Holds.lt_trans (hab : lt.Holds r a b) (hbc : lt.Holds r b c) : lt.Holds r a c := by
  rw [holds_field_iff, holds_lt_iff] at hab hbc ⊢
  exact Value.compare?_lt_trans hab hbc

/-- **Comparisons go together unless numbers clash.** Of two fields that hold numbers or strings,
exactly one is less, equal or greater, and at most and at least mean less or equal and greater or
equal. This fails exactly for different whole numbers from `2 ^ 53` on that share a binary64 number:
each of them is at most and at least the other one, and they are neither equal nor is one of them
less. The order is transitive for all fields. -/
theorem holds_consistent : ∀ (r : Record) (a b : String) (u v : Value),
    r.get? a = some u → r.get? b = some v → u.Ordered v →
    ((∃! k, k ∈ [lt, eq, gt] ∧ k.Holds r a b) ↔ ¬ u.Clash v) ∧
    ((le.Holds r a b ↔ lt.Holds r a b ∨ eq.Holds r a b) ↔ ¬ u.Clash v) ∧
    ((ge.Holds r a b ↔ gt.Holds r a b ∨ eq.Holds r a b) ↔ ¬ u.Clash v) ∧
    (u.Clash v → (∀ k ∈ [lt, eq, gt], ¬ k.Holds r a b) ∧ le.Holds r a b ∧ ge.Holds r a b ∧
      ∃ m hm n hn, u = .number (.int m hm) ∧ v = .number (.int n hn) ∧ m ≠ n ∧
        2 ^ 53 ≤ m.natAbs ∧ 2 ^ 53 ≤ n.natAbs) ∧
    ∀ c, lt.Holds r a b → lt.Holds r b c → lt.Holds r a c := by
  intro r a b u v ha hb h
  simp only [fun k => holds_iff_of_get? (k := k) ha hb]
  have hnone := holds_eq_false_of_clash h
  refine ⟨existsUnique_holds_iff h, ?_, ?_, fun hclash => ?_, fun c hab hbc => ?_⟩
  · rw [holds_le_iff h]
    by_cases hclash : u.Clash v
    · simp [hclash, hnone hclash]
    · simp [hclash]
  · rw [holds_ge_iff h]
    by_cases hclash : u.Clash v
    · simp [hclash, hnone hclash]
    · simp [hclash]
  · refine ⟨?_, (holds_le_iff h).2 (.inr hclash), (holds_ge_iff h).2 (.inr hclash),
      h.exists_int_of_clash hclash⟩
    simp [hnone hclash]
  · exact Holds.lt_trans ((holds_iff_of_get? ha hb).2 hab) hbc

/-- A binary64 number between two whole numbers. -/
theorem holds_consistent_mixedFields :
    let minusThree : Number := .int (-3) (by decide)
    let floatTwo : Number := .float (Number.int 2 (by decide)).toBinary64
    let r : Record := [("a", .number minusThree), ("b", .number floatTwo),
      ("c", .number (.int 9007199254740993 (by decide)))]
    r.get? "a" = some (.number minusThree) ∧ r.get? "b" = some (.number floatTwo) ∧
    (Value.number minusThree).Ordered (.number floatTwo) ∧
    ¬ (Value.number minusThree).Clash (.number floatTwo) ∧
    (∃! k, k ∈ [lt, eq, gt] ∧ k.Holds r "a" "b") ∧
    lt.Holds r "a" "b" ∧ lt.Holds r "b" "c" ∧ lt.Holds r "a" "c" := by
  intro minusThree floatTwo r
  have hordered := Value.Ordered.number minusThree floatTwo
  have hclash : ¬ (Value.number minusThree).Clash (.number floatTwo) := by
    rw [Value.clash_number_iff]
    rintro ⟨m, n, -, hn, -⟩
    cases hn
  have hab : lt.Holds r "a" "b" := by
    unfold Holds
    decide +kernel
  have hbc : lt.Holds r "b" "c" := by
    unfold Holds
    decide +kernel
  obtain ⟨hone, -, -, -, htrans⟩ := holds_consistent r "a" "b" _ _ rfl rfl hordered
  exact ⟨rfl, rfl, hordered, hclash, hone.2 hclash, hab, hbc, htrans "c" hab hbc⟩

/-- Of two whole numbers that share a binary64 number neither is less than the other one, they are
not equal, and each is at most the other. -/
theorem not_holds_neighbours :
    let r : Record := [("a", .number (.int 9007199254740992 (by decide))),
      ("b", .number (.int 9007199254740993 (by decide)))]
    (∀ k ∈ [lt, eq, gt], ¬ k.Holds r "a" "b") ∧ le.Holds r "a" "b" ∧ ge.Holds r "a" "b" := by
  unfold Holds
  decide +kernel

end Comparison

end Reshape
