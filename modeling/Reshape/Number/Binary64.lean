/-!
# Finite binary64 numbers

Every finite binary64 number is a whole number of *units* of `2 ^ (-1074)`, the smallest positive
one. A number is stored as its sign and that count, so that sums, order and rounding are arithmetic
on whole numbers.

* `roundDiv`: a quotient rounded to a whole number, a half going to the even neighbour.
* `roundUnits`: a quotient rounded to 53 significant bits; `roundUnits_roundUnits` says that a
  rounded count is not changed by rounding it again.
* `Binary64`: a sign and a representable count of units.
* `Binary64.ofRatio?`: the number nearest to a quotient of units, if it is within the range.
* `Binary64.add?`, `mul?`, `div?`, `neg`: the operations, each rounded once.
-/

namespace Reshape

/-! ## Rounding whole numbers -/

/-- The quotient `n / d` rounded to a whole number, a half going to the even neighbour. -/
def roundDiv (n d : Nat) : Nat :=
  let q := n / d
  if 2 * (n % d) < d then q
  else if d < 2 * (n % d) then q + 1
  else q + q % 2

theorem roundDiv_mul {k d : Nat} (hd : 0 < d) : roundDiv (k * d) d = k := by
  simp [roundDiv, Nat.mul_div_cancel k hd, hd]

theorem roundDiv_le (n d : Nat) : roundDiv n d ≤ n / d + 1 := by
  unfold roundDiv
  have := Nat.mod_lt (n / d) (by decide : 0 < 2)
  dsimp only
  repeat' split
  all_goals omega

/-- The weight of the last of the 53 bits kept of `n`; counts below `2 ^ 53` keep all of theirs. -/
def spacing (n : Nat) : Nat := Nat.pow 2 (n.log2 - 52)

theorem two_pow_pos (n : Nat) : 0 < Nat.pow 2 n := Nat.two_pow_pos n

theorem two_pow_lt {m n : Nat} (h : m < n) : Nat.pow 2 m < Nat.pow 2 n :=
  Nat.pow_lt_pow_right (by decide) h

theorem spacing_pos (n : Nat) : 0 < spacing n := two_pow_pos _

/-- The quotient `n / d` rounded to 53 significant bits, to whole units at the finest. -/
def roundUnits (n d : Nat) : Nat :=
  roundDiv n (d * spacing (n / d)) * spacing (n / d)

theorem div_spacing_lt (n : Nat) : n / spacing n < Nat.pow 2 53 := by
  rw [Nat.div_lt_iff_lt_mul (spacing_pos n), spacing, Nat.pow_eq, Nat.pow_eq, ← Nat.pow_add]
  exact Nat.lt_of_lt_of_le Nat.lt_log2_self (Nat.pow_le_pow_right (by decide) (by omega))

theorem roundDiv_spacing_le (n d : Nat) : roundDiv n (d * spacing (n / d)) ≤ Nat.pow 2 53 := by
  have h := roundDiv_le n (d * spacing (n / d))
  rw [← Nat.div_div_eq_div_mul] at h
  have := div_spacing_lt (n / d)
  omega

/-- A count of at most 53 bits followed by zeros is kept. -/
theorem roundUnits_mul_two_pow {m : Nat} (hm : m ≤ Nat.pow 2 53) (s : Nat) :
    roundUnits (m * Nat.pow 2 s) 1 = m * Nat.pow 2 s := by
  rw [Nat.pow_eq] at hm ⊢
  have key : ∃ k, m * 2 ^ s = k * spacing (m * 2 ^ s) := by
    by_cases h0 : m * 2 ^ s = 0
    · exact ⟨0, by simp [h0]⟩
    by_cases h : m = 2 ^ 53
    · refine ⟨2 ^ 52, ?_⟩
      have hl : (m * 2 ^ s).log2 = 53 + s := by
        rw [h, ← Nat.pow_add, Nat.log2_two_pow]
      rw [spacing, Nat.pow_eq, hl, h, ← Nat.pow_add, ← Nat.pow_add]
      congr 1; omega
    · have hlt : m * 2 ^ s < 2 ^ (53 + s) := by
        rw [Nat.pow_add]
        exact Nat.mul_lt_mul_of_pos_right (by omega) (Nat.two_pow_pos s)
      have hl : (m * 2 ^ s).log2 < 53 + s := (Nat.log2_lt h0).2 hlt
      have ht : (m * 2 ^ s).log2 - 52 ≤ s := by omega
      refine ⟨m * 2 ^ (s - ((m * 2 ^ s).log2 - 52)), ?_⟩
      rw [spacing, Nat.pow_eq, Nat.mul_assoc, ← Nat.pow_add]
      congr 2; omega
  obtain ⟨k, hk⟩ := key
  rw [roundUnits, Nat.div_one, Nat.one_mul]
  generalize spacing (m * 2 ^ s) = w at hk
  rw [hk]
  by_cases hw : 0 < w
  · rw [roundDiv_mul hw]
  · have : w = 0 := by omega
    simp [this]

theorem roundUnits_of_le {n : Nat} (h : n ≤ Nat.pow 2 53) : roundUnits n 1 = n := by
  simpa using roundUnits_mul_two_pow h 0

theorem roundUnits_roundUnits (n d : Nat) : roundUnits (roundUnits n d) 1 = roundUnits n d :=
  roundUnits_mul_two_pow (roundDiv_spacing_le n d) _

theorem roundUnits_one_le (n : Nat) : roundUnits n 1 ≤ Nat.pow 2 (n.log2 + 1) := by
  rw [Nat.pow_eq]
  have hq := roundDiv_spacing_le n 1
  by_cases h : 52 ≤ n.log2
  · have hs : spacing (n / 1) = 2 ^ (n.log2 - 52) := by simp [spacing]
    calc roundUnits n 1 ≤ 2 ^ 53 * spacing (n / 1) := Nat.mul_le_mul_right _ hq
      _ = 2 ^ (n.log2 + 1) := by
        rw [hs, ← Nat.pow_add]; congr 1; omega
  · have hn : n < 2 ^ (n.log2 + 1) := Nat.lt_log2_self
    have h53 : n ≤ Nat.pow 2 53 :=
      Nat.le_of_lt (Nat.lt_of_lt_of_le hn (Nat.pow_le_pow_right (by decide) (by omega)))
    rw [roundUnits_of_le h53]
    exact Nat.le_of_lt hn

theorem roundUnits_mul_two_pow_le {n a : Nat} (h : n ≤ Nat.pow 2 a) (b : Nat) :
    roundUnits (n * Nat.pow 2 b) 1 ≤ Nat.pow 2 (a + b + 1) := by
  rw [Nat.pow_eq] at h ⊢
  rw [Nat.pow_eq]
  by_cases h0 : n * 2 ^ b = 0
  · rw [h0, roundUnits_of_le (Nat.zero_le _)]
    exact Nat.zero_le _
  · have hlt : n * 2 ^ b < 2 ^ (a + b + 1) :=
      calc n * 2 ^ b ≤ 2 ^ a * 2 ^ b := Nat.mul_le_mul_right _ h
        _ = 2 ^ (a + b) := (Nat.pow_add 2 a b).symm
        _ < 2 ^ (a + b + 1) := Nat.pow_lt_pow_right (by decide) (Nat.lt_succ_self _)
    have hl := (Nat.log2_lt h0).2 hlt
    exact Nat.le_trans (roundUnits_one_le _) (Nat.pow_le_pow_right (by decide) (by omega))

/-! ## The numbers -/

/-- The number of units in one. -/
def one64 : Nat := Nat.pow 2 1074

/-- Counts of units from here on are beyond the range. -/
def limit64 : Nat := Nat.pow 2 2098

/-- A count of units that a finite binary64 number has. -/
def Representable (units : Nat) : Prop := units < limit64 ∧ roundUnits units 1 = units

instance (units : Nat) : Decidable (Representable units) :=
  inferInstanceAs (Decidable (_ ∧ _))

/-- A finite binary64 number: `units` of `2 ^ (-1074)` with a sign, which zero has too. -/
structure Binary64 where
  negative : Bool
  units : Nat
  representable : Representable units
  deriving DecidableEq

namespace Binary64

/-- The number as a signed count of units; both zeros are `0`. -/
def toInt (x : Binary64) : Int := if x.negative then -x.units else x.units

theorem representable_roundUnits {n d : Nat} (h : roundUnits n d < limit64) :
    Representable (roundUnits n d) :=
  ⟨h, roundUnits_roundUnits n d⟩

/-- The number nearest to `n / d` units, unless that is beyond the range. -/
def ofRatio? (negative : Bool) (n d : Nat) : Option Binary64 :=
  if h : roundUnits n d < limit64 then
    some ⟨negative, roundUnits n d, representable_roundUnits h⟩
  else none

/-- The number nearest to a signed count of units; nothing makes a negative zero. -/
def ofInt? (u : Int) : Option Binary64 := ofRatio? (decide (u < 0)) u.natAbs 1

theorem one64_pos : 0 < one64 := by
  unfold one64
  apply two_pow_pos

theorem limit64_pos : 0 < limit64 := by
  unfold limit64
  apply two_pow_pos

theorem representable_zero : Representable 0 :=
  ⟨limit64_pos, roundUnits_of_le (Nat.zero_le _)⟩

/-- Positive zero. -/
def zero : Binary64 := ⟨false, 0, representable_zero⟩

instance : Inhabited Binary64 := ⟨zero⟩

/-- The number with its sign turned. -/
def neg (x : Binary64) : Binary64 := { x with negative := !x.negative }

/-- The rounded sum, unless it is beyond the range. -/
def add? (x y : Binary64) : Option Binary64 := ofInt? (x.toInt + y.toInt)

/-- The rounded difference, unless it is beyond the range. -/
def sub? (x y : Binary64) : Option Binary64 := ofInt? (x.toInt - y.toInt)

/-- The rounded product, unless it is beyond the range. -/
def mul? (x y : Binary64) : Option Binary64 :=
  ofRatio? (x.negative != y.negative) (x.units * y.units) one64

/-- The rounded quotient, unless it is beyond the range or the divisor is zero. -/
def div? (x y : Binary64) : Option Binary64 :=
  if y.units = 0 then none else ofRatio? (x.negative != y.negative) (x.units * one64) y.units

/-- Equality of values: both zeros are equal. -/
def eqv (x y : Binary64) : Bool := x.toInt == y.toInt

/-- Whether the number is whole and below `2 ^ 53` in magnitude. -/
def isSmallWhole (x : Binary64) : Bool :=
  x.units % one64 == 0 && decide (x.units < Nat.pow 2 53 * one64)

/-- The part of the number before the point. -/
def truncate (x : Binary64) : Int :=
  if x.negative then -(x.units / one64 : Nat) else (x.units / one64 : Nat)

theorem lt_limit64 {m n : Nat} (hm : m ≤ Nat.pow 2 n) (hn : n < 2098) : m < limit64 := by
  unfold limit64
  apply Nat.lt_of_le_of_lt hm
  apply two_pow_lt hn

/-- Whole numbers up to `2 ^ 64` are within the range. -/
theorem roundUnits_lt_limit64 {n : Nat} (h : n ≤ 18446744073709551616) :
    roundUnits (n * one64) 1 < limit64 := by
  unfold one64
  have h64 : n ≤ Nat.pow 2 64 := h
  have hb := roundUnits_mul_two_pow_le h64 1074
  exact lt_limit64 hb (by decide)

end Binary64

end Reshape
