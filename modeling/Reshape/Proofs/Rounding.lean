import Mathlib.Tactic.Linarith
import Mathlib.Tactic.Ring
import Reshape.Number.Binary64

/-!
# Rounding to 53 bits

* `roundDiv_cases`, `roundDiv_eq_of_near`: a quotient is rounded to the whole number that is nearer
  than a half, and never farther than that.
* `roundUnits_mul_mul`: only the quotient counts.
* `le_roundUnits_of_two_pow_le`: nothing is rounded to less than its first bit.
* `roundUnits_eq_of_near`: a quotient that differs from a representable count by less than the
  `2 ^ 54`th part of it is rounded to that count.
-/

namespace Reshape

/-! ## Quotients -/

/-- A quotient is rounded down if the rest is at most a half, and up if it is at least a half. -/
theorem roundDiv_cases (n d : Nat) :
    (roundDiv n d = n / d ∧ 2 * (n % d) ≤ d) ∨
      (roundDiv n d = n / d + 1 ∧ d ≤ 2 * (n % d)) := by
  have hhalf := Nat.mod_lt (n / d) (by decide : 0 < 2)
  unfold roundDiv
  dsimp only
  split
  · omega
  · split <;> omega

theorem two_mul_roundDiv_le (n d : Nat) : 2 * (roundDiv n d * d) ≤ 2 * n + d := by
  have hsplit := Nat.div_add_mod' n d
  obtain ⟨h, hrest⟩ | ⟨h, hrest⟩ := roundDiv_cases n d
  · rw [h]
    omega
  · rw [h, Nat.add_mul, Nat.one_mul]
    omega

theorem le_two_mul_roundDiv (n : Nat) {d : Nat} (hd : 0 < d) :
    2 * n ≤ 2 * (roundDiv n d * d) + d := by
  have hsplit := Nat.div_add_mod' n d
  have hmod := Nat.mod_lt n hd
  obtain ⟨h, hrest⟩ | ⟨h, hrest⟩ := roundDiv_cases n d
  · rw [h]
    omega
  · rw [h, Nat.add_mul, Nat.one_mul]
    omega

theorem div_le_roundDiv (n d : Nat) : n / d ≤ roundDiv n d := by
  obtain ⟨h, -⟩ | ⟨h, -⟩ := roundDiv_cases n d <;> omega

/-- A quotient is rounded to the whole number that it is near. -/
theorem roundDiv_eq_of_near {n k d : Nat} (hlow : 2 * (k * d) < 2 * n + d)
    (hhigh : 2 * n < 2 * (k * d) + d) : roundDiv n d = k := by
  have hd : 0 < d := by omega
  have hle := two_mul_roundDiv_le n d
  have hge := le_two_mul_roundDiv n hd
  have near (i j : Nat) (hij : i < j) : i * d + d ≤ j * d := by
    rw [← Nat.succ_mul]
    exact Nat.mul_le_mul_right d hij
  obtain hlt | heq | hgt := Nat.lt_trichotomy (roundDiv n d) k
  · have := near _ _ hlt
    omega
  · exact heq
  · have := near _ _ hgt
    omega

theorem roundDiv_mul_mul {k : Nat} (hk : 0 < k) (n d : Nat) :
    roundDiv (k * n) (k * d) = roundDiv n d := by
  have hmod : 2 * (k * n % (k * d)) = k * (2 * (n % d)) := by
    rw [Nat.mul_mod_mul_left]
    ring
  unfold roundDiv
  rw [Nat.mul_div_mul_left n d hk, hmod]
  simp only [Nat.mul_lt_mul_left hk]

/-- Rounding depends on the quotient only. -/
theorem roundUnits_mul_mul {k : Nat} (hk : 0 < k) (n d : Nat) :
    roundUnits (k * n) (k * d) = roundUnits n d := by
  rw [roundUnits, roundUnits, Nat.mul_div_mul_left n d hk, Nat.mul_assoc, roundDiv_mul_mul hk]

/-! ## Counts of 53 bits -/

variable {n d x : Nat}

theorem spacing_of_log2 {l : Nat} (hlow : 2 ^ l ≤ n) (hhigh : n < 2 ^ (l + 1)) :
    spacing n = 2 ^ (l - 52) := by
  have hn : n ≠ 0 := by
    have := Nat.two_pow_pos l
    omega
  rw [spacing, Nat.pow_eq, (Nat.log2_eq_iff hn).2 ⟨hlow, hhigh⟩]

theorem spacing_of_lt (h : n < 2 ^ 53) : spacing n = 1 := by
  have hlog : n.log2 ≤ 52 := by
    by_cases hn : n = 0
    · rw [hn]
      decide
    · exact Nat.le_of_lt_succ ((Nat.log2_lt hn).2 h)
  rw [spacing, Nat.sub_eq_zero_of_le hlog, Nat.pow_eq, Nat.pow_zero]

/-- From 53 bits on, the first bit is the 53rd from the last one that is kept. -/
theorem two_pow_log2_eq (h : 52 ≤ n.log2) : 2 ^ n.log2 = 2 ^ 52 * spacing n := by
  rw [spacing, Nat.pow_eq, ← Nat.pow_add, Nat.add_sub_cancel' h]

/-- Rounding keeps the weight of the first bit. -/
theorem two_pow_log2_le_roundUnits (hn : n ≠ 0) : 2 ^ n.log2 ≤ roundUnits n 1 := by
  have hself : 2 ^ n.log2 ≤ n := Nat.log2_self_le hn
  by_cases hlog : 52 ≤ n.log2
  · have hquotient : 2 ^ 52 ≤ n / spacing n := by
      rw [Nat.le_div_iff_mul_le (spacing_pos n), ← two_pow_log2_eq hlog]
      exact hself
    rw [two_pow_log2_eq hlog, roundUnits, Nat.div_one, Nat.one_mul]
    exact Nat.mul_le_mul_right _ (hquotient.trans (div_le_roundDiv _ _))
  · have hle : n ≤ 2 ^ 53 :=
      ((Nat.log2_lt hn).1 (show n.log2 < 53 by omega)).le
    rw [roundUnits_of_le hle]
    exact hself

theorem le_roundUnits_of_two_pow_le {a : Nat} (h : 2 ^ a ≤ n) : 2 ^ a ≤ roundUnits n 1 := by
  have hn : n ≠ 0 := by
    have := Nat.two_pow_pos a
    omega
  calc 2 ^ a ≤ 2 ^ n.log2 := Nat.pow_le_pow_right (by decide) ((Nat.le_log2 hn).2 h)
    _ ≤ roundUnits n 1 := two_pow_log2_le_roundUnits hn

/-- A count that rounding keeps is a number of 53 bits followed by zeros. -/
theorem exists_of_roundUnits_eq (h : roundUnits x 1 = x) : ∃ m < 2 ^ 53, x = m * spacing x := by
  have hdvd : spacing x ∣ x := by
    rw [roundUnits, Nat.div_one, Nat.one_mul] at h
    exact ⟨_, (h.symm.trans (Nat.mul_comm _ _))⟩
  exact ⟨x / spacing x, div_spacing_lt x, (Nat.div_mul_cancel hdvd).symm⟩

/-- A quotient near a count that rounding keeps is rounded to a place at which that count ends.
Below a power of two this is one place further down than for the count itself. -/
theorem exists_mul_spacing_of_near (hd : 0 < d) (hx : roundUnits x 1 = x)
    (hlow : 2 ^ 54 * (x * d) < 2 ^ 54 * n + x * d)
    (hhigh : 2 ^ 54 * n < 2 ^ 54 * (x * d) + x * d) : ∃ k ≤ 2 ^ 53, x = k * spacing (n / d) := by
  have hquotient : 2 ^ 54 * (n / d) < 2 ^ 54 * x + x := by
    have hle := Nat.div_mul_le_self n d
    refine Nat.lt_of_mul_lt_mul_right (a := d) ?_
    calc 2 ^ 54 * (n / d) * d = 2 ^ 54 * (n / d * d) := Nat.mul_assoc _ _ _
      _ ≤ 2 ^ 54 * n := Nat.mul_le_mul_left _ hle
      _ < 2 ^ 54 * (x * d) + x * d := hhigh
      _ = (2 ^ 54 * x + x) * d := by ring
  have hquotient' : 2 ^ 54 * x < 2 ^ 54 * (n / d + 1) + x := by
    have hlt : n < (n / d + 1) * d := (Nat.div_lt_iff_lt_mul hd).1 (Nat.lt_succ_self _)
    refine Nat.lt_of_mul_lt_mul_right (a := d) ?_
    calc 2 ^ 54 * x * d = 2 ^ 54 * (x * d) := Nat.mul_assoc _ _ _
      _ < 2 ^ 54 * n + x * d := hlow
      _ ≤ 2 ^ 54 * ((n / d + 1) * d) + x * d := by omega
      _ = (2 ^ 54 * (n / d + 1) + x) * d := by ring
  generalize n / d = q at hquotient hquotient'
  by_cases hsmall : x < 2 ^ 53
  · refine ⟨x, hsmall.le, ?_⟩
    rw [spacing_of_lt (show q < 2 ^ 53 by omega), Nat.mul_one]
  have hx0 : x ≠ 0 := by omega
  have hlog : 53 ≤ x.log2 := by
    by_contra hlt
    have := (Nat.log2_lt hx0).1 (Nat.not_le.1 hlt)
    omega
  obtain ⟨m, hm, hxm⟩ := exists_of_roundUnits_eq hx
  have hlead := two_pow_log2_eq (show 52 ≤ x.log2 by omega)
  have hself : 2 ^ x.log2 ≤ x := Nat.log2_self_le hx0
  -- the last place of the count and the one below it
  have hspacing : spacing x = 2 * 2 ^ (x.log2 - 53) := by
    rw [spacing, Nat.pow_eq, ← Nat.pow_succ']
    congr 1
    omega
  have hhalf : 2 ^ (x.log2 - 1) = 2 ^ 52 * 2 ^ (x.log2 - 53) := by
    rw [← Nat.pow_add]
    congr 1
    omega
  have htop : 2 ^ (x.log2 + 1) = 2 * 2 ^ x.log2 := Nat.pow_succ'
  have hpos := Nat.two_pow_pos (x.log2 - 53)
  have hsteps (i j : Nat) (hij : i < j) : i * spacing x + spacing x ≤ j * spacing x := by
    rw [← Nat.succ_mul]
    exact Nat.mul_le_mul_right _ hij
  have hbelow := hsteps m (2 ^ 53) hm
  by_cases hq : 2 ^ x.log2 ≤ q
  · refine ⟨m, hm.le, ?_⟩
    rw [spacing_of_log2 hq (by omega)]
    exact hxm
  · have hpower : x = 2 ^ 53 * 2 ^ (x.log2 - 53) := by
      obtain hlt | heq | hgt := Nat.lt_trichotomy m (2 ^ 52)
      · have := hsteps _ _ hlt
        omega
      · rw [heq] at hxm
        omega
      · have := hsteps _ _ hgt
        omega
    refine ⟨2 ^ 53, Nat.le_refl _, ?_⟩
    have hplace : x.log2 - 1 - 52 = x.log2 - 53 := by omega
    have hnext : x.log2 - 1 + 1 = x.log2 := by omega
    rw [spacing_of_log2 (l := x.log2 - 1) (by omega) (by rw [hnext]; omega), hplace]
    exact hpower

/-- A quotient near a count that rounding keeps is rounded to that count. -/
theorem roundUnits_eq_of_near (hd : 0 < d) (hx : roundUnits x 1 = x)
    (hlow : 2 ^ 54 * (x * d) < 2 ^ 54 * n + x * d)
    (hhigh : 2 ^ 54 * n < 2 ^ 54 * (x * d) + x * d) : roundUnits n d = x := by
  obtain ⟨k, hk, hxk⟩ := exists_mul_spacing_of_near hd hx hlow hhigh
  have hcount : x * d = k * (d * spacing (n / d)) := by
    rw [hxk]
    ring
  have hsmall : x * d ≤ 2 ^ 53 * (d * spacing (n / d)) := by
    rw [hcount]
    exact Nat.mul_le_mul_right _ hk
  rw [hcount] at hlow hhigh hsmall
  have hround : roundDiv n (d * spacing (n / d)) = k :=
    roundDiv_eq_of_near (by omega) (by omega)
  rw [roundUnits, hround]
  exact hxk.symm

/-! ## Units -/

/-- There is a power of two of units in one; its exponent is of no use written out. -/
theorem exists_one64_eq : ∃ a, one64 = Nat.pow 2 a := by
  unfold one64
  exact ⟨_, rfl⟩

theorem Binary64.natAbs_toInt (y : Binary64) : y.toInt.natAbs = y.units := by
  rw [toInt]
  split <;> simp

end Reshape
