import Reshape.Proofs.Literals
import Reshape.Proofs.Rounding

/-!
# Numbers and their texts

* `Decimal.nearest?_eq`: the number nearest to a numeral, as one rounded quotient;
  `Decimal.nearest?_mul_ten`: it does not matter where the zeros of a numeral are kept.
* `Binary64.nearest?_neighbours`: 17 digits are enough to tell a number from all others.
* `Binary64.nearest?_shortest`: a number is the nearest one to its shortest numeral.
* `Decimal.ofChars?_text`: the text of a numeral spells a numeral of the same value.
* `Number.nearest?_text`: what a number is written as is read as the binary64 number nearest to it.
-/

namespace Reshape

/-! ## Counts of digits -/

variable {n k : Nat}

theorem digitCount_le_iff (hk : 0 < k) : digitCount n ≤ k ↔ n < 10 ^ k := by
  unfold digitCount
  split
  · rename_i hn
    simp [hn]
  · exact Nat.length_toDigits_le_iff (by decide) hk

theorem digitCount_pos (hn : n ≠ 0) : 0 < digitCount n := by
  rw [digitCount, if_neg hn]
  exact Nat.length_toDigits_pos

theorem lt_ten_pow_digitCount (hn : n ≠ 0) : n < 10 ^ digitCount n :=
  (digitCount_le_iff (digitCount_pos hn)).1 (Nat.le_refl _)

theorem ten_pow_le_of_digitCount (hn : n ≠ 0) (hk : k < digitCount n) : 10 ^ k ≤ n := by
  rcases Nat.eq_zero_or_pos k with rfl | hpos
  · omega
  · by_contra hlt
    have := (digitCount_le_iff hpos).2 (Nat.not_le.1 hlt)
    omega

theorem digitCount_mul_ten (hn : n ≠ 0) : digitCount (n * 10) = digitCount n + 1 := by
  have hne : n * 10 ≠ 0 := by omega
  rw [digitCount, digitCount, if_neg hne, if_neg hn,
    Nat.toDigits_of_base_le (by decide) (by omega), Nat.mul_div_cancel n (by decide),
    List.length_append]
  rfl

namespace Binary64

theorem eq_of_units {x y : Binary64} (hsign : x.negative = y.negative)
    (hunits : x.units = y.units) : x = y := by
  cases x
  cases y
  cases hsign
  cases hunits
  rfl

theorem ofRatio?_eq_some {negative : Bool} {n d : Nat} {x : Binary64}
    (hsign : negative = x.negative) (h : roundUnits n d = x.units) :
    ofRatio? negative n d = some x := by
  have hlt : roundUnits n d < limit64 := h ▸ x.representable.1
  rw [ofRatio?, dif_pos hlt]
  exact congrArg some (eq_of_units hsign h)

theorem ofRatio?_congr {n d n' d' : Nat} (h : roundUnits n d = roundUnits n' d')
    (negative : Bool) : ofRatio? negative n d = ofRatio? negative n' d' := by
  simp only [ofRatio?, h]

end Binary64

namespace Decimal

/-! ## The number nearest to a numeral -/

/-- The power of ten above the first digit. -/
def top (d : Decimal) : Int := (digitCount d.digits : Int) + d.exponent

/-- The nearest number as one quotient, whatever the sign of the exponent. -/
theorem nearest?_eq (d : Decimal) : d.nearest? =
    if d.digits = 0 ∨ d.top < -400 then some ⟨d.negative, 0, Binary64.representable_zero⟩
    else if 400 < d.top then none
    else Binary64.ofRatio? d.negative (d.digits * 10 ^ d.exponent.toNat * one64)
      (10 ^ (-d.exponent).toNat) := by
  rw [nearest?]
  refine if_congr Iff.rfl rfl (if_congr Iff.rfl rfl ?_)
  split
  · rw [Int.toNat_of_nonpos (show -d.exponent ≤ 0 by omega)]
    rfl
  · rw [Int.toNat_of_nonpos (show d.exponent ≤ 0 by omega), Nat.pow_zero, Nat.mul_one]
    rfl

/-- Within the range the nearest number is the rounded quotient. -/
theorem nearest?_of_top {d : Decimal} (hd : d.digits ≠ 0) (hlow : -400 ≤ d.top)
    (hhigh : d.top ≤ 400) : d.nearest? =
      Binary64.ofRatio? d.negative (d.digits * 10 ^ d.exponent.toNat * one64)
        (10 ^ (-d.exponent).toNat) := by
  rw [nearest?_eq, if_neg (by omega), if_neg (by omega)]

/-- A zero at the end of the digits stands for one more power of ten. -/
theorem nearest?_mul_ten (negative : Bool) (m : Nat) (e : Int) :
    nearest? ⟨negative, m * 10, e⟩ = nearest? ⟨negative, m, e + 1⟩ := by
  by_cases hm : m = 0
  · simp [nearest?_eq, hm]
  have htop : top ⟨negative, m * 10, e⟩ = top ⟨negative, m, e + 1⟩ := by
    rw [top, top, digitCount_mul_ten hm]
    push_cast
    omega
  have hzero : m * 10 = 0 ↔ m = 0 := by omega
  rw [nearest?_eq, nearest?_eq, htop]
  refine if_congr (or_congr_left hzero) rfl (if_congr Iff.rfl rfl ?_)
  refine Binary64.ofRatio?_congr ?_ negative
  dsimp only
  generalize one64 = o
  by_cases he : 0 ≤ e
  · have hnext : (e + 1).toNat = e.toNat + 1 := by omega
    rw [Int.toNat_of_nonpos (show -e ≤ 0 by omega),
      Int.toNat_of_nonpos (show -(e + 1) ≤ 0 by omega), hnext, Nat.pow_succ']
    congr 2
    ring
  · have hnext : (-e).toNat = (-(e + 1)).toNat + 1 := by omega
    rw [Int.toNat_of_nonpos (show e ≤ 0 by omega), Int.toNat_of_nonpos (show e + 1 ≤ 0 by omega),
      hnext, Nat.pow_succ', ← roundUnits_mul_mul (show 0 < 10 by decide) (m * 10 ^ 0 * o)]
    congr 1
    ring

theorem nearest?_mul_ten_pow (negative : Bool) (m : Nat) (e : Int) (k : Nat) :
    nearest? ⟨negative, m * 10 ^ k, e⟩ = nearest? ⟨negative, m, e + k⟩ := by
  induction k generalizing e with
  | zero => simp
  | succ k ih =>
    rw [Nat.pow_succ, ← Nat.mul_assoc, nearest?_mul_ten, ih]
    congr 2
    push_cast
    omega

theorem nearest?_trim (d : Decimal) (fuel : Nat) : (d.trim fuel).nearest? = d.nearest? := by
  induction fuel generalizing d with
  | zero => rfl
  | succ fuel ih =>
    rw [trim]
    split
    · rename_i h
      have hdigits : d.digits / 10 * 10 = d.digits := by omega
      rw [ih, ← nearest?_mul_ten, hdigits]
    · rfl

end Decimal

namespace Binary64

/-! ## Enough digits -/

variable {x : Binary64} {e : Int}

/-- The closest numeral of a grid, from one quotient. -/
theorem neighbours_fst (x : Binary64) (e : Int) : (x.neighbours e).1 =
    ⟨x.negative, roundDiv (x.units * 10 ^ (-e).toNat) (one64 * 10 ^ e.toNat), e⟩ := by
  rw [neighbours]
  dsimp only
  congr 2
  · split
    · rw [Int.toNat_of_nonpos (show -e ≤ 0 by omega), Nat.pow_zero, Nat.mul_one]
    · rfl
  · split
    · rfl
    · rw [Int.toNat_of_nonpos (show e ≤ 0 by omega), Nat.pow_zero, Nat.mul_one]

/-- The closest numeral of a grid rounds to the number if the number has 17 digits on the grid. -/
theorem roundUnits_closest {u p q : Nat} (hu : roundUnits u 1 = u)
    (h : 10 ^ 16 * (one64 * 10 ^ p) ≤ u * 10 ^ q) :
    roundUnits (roundDiv (u * 10 ^ q) (one64 * 10 ^ p) * 10 ^ p * one64) (10 ^ q) = u := by
  have hden : 0 < one64 * 10 ^ p := Nat.mul_pos one64_pos (Nat.pow_pos (by decide))
  have hle := two_mul_roundDiv_le (u * 10 ^ q) (one64 * 10 ^ p)
  have hge := le_two_mul_roundDiv (u * 10 ^ q) hden
  have hnum : roundDiv (u * 10 ^ q) (one64 * 10 ^ p) * 10 ^ p * one64 =
      roundDiv (u * 10 ^ q) (one64 * 10 ^ p) * (one64 * 10 ^ p) := by ring
  rw [hnum]
  -- half a step of the grid is less than the `2 ^ 54`th part of the number
  exact roundUnits_eq_of_near (Nat.pow_pos (by decide)) hu (by omega) (by omega)

/-- A power of ten below a number, as one below its count of steps on a grid. -/
theorem grid_bounds {a k p q u o : Nat} (hgrid : a + q = k + 16 + p)
    (hlow : 10 ^ a * o ≤ u * 10 ^ k) (hhigh : u * 10 ^ k < 10 ^ (a + 1) * o) :
    10 ^ 16 * (o * 10 ^ p) ≤ u * 10 ^ q ∧ u * 10 ^ q < 10 ^ 17 * (o * 10 ^ p) := by
  have hpos : 0 < 10 ^ k := Nat.pow_pos (by decide)
  have hpos' : 0 < 10 ^ q := Nat.pow_pos (by decide)
  constructor
  · refine Nat.le_of_mul_le_mul_right ?_ hpos
    calc 10 ^ 16 * (o * 10 ^ p) * 10 ^ k = o * 10 ^ (k + 16 + p) := by ring
      _ = 10 ^ a * o * 10 ^ q := by rw [← hgrid]; ring
      _ ≤ u * 10 ^ k * 10 ^ q := Nat.mul_le_mul_right _ hlow
      _ = u * 10 ^ q * 10 ^ k := by ring
  · refine Nat.lt_of_mul_lt_mul_right (a := 10 ^ k) ?_
    calc u * 10 ^ q * 10 ^ k = u * 10 ^ k * 10 ^ q := by ring
      _ < 10 ^ (a + 1) * o * 10 ^ q := Nat.mul_lt_mul_of_pos_right hhigh hpos'
      _ = o * 10 ^ (a + q) * 10 := by ring
      _ = 10 ^ 17 * (o * 10 ^ p) * 10 ^ k := by rw [hgrid]; ring

theorem limit64_mul_le : limit64 * 10 ^ 324 ≤ 10 ^ 723 * one64 := by decide +kernel

theorem one64_le : one64 ≤ 10 ^ 324 := by decide +kernel

theorem lt_of_ten_pow_le {a k l u o limit : Nat} (hu : u < limit)
    (hlimit : limit * 10 ^ k ≤ 10 ^ l * o) (h : 10 ^ a * o ≤ u * 10 ^ k) : a < l := by
  have hlt : 10 ^ a * o < 10 ^ l * o :=
    calc 10 ^ a * o ≤ u * 10 ^ k := h
      _ < limit * 10 ^ k := Nat.mul_lt_mul_of_pos_right hu (Nat.pow_pos (by decide))
      _ ≤ 10 ^ l * o := hlimit
  exact (Nat.pow_lt_pow_iff_right (by decide)).1 (Nat.lt_of_mul_lt_mul_right hlt)

/-- **17 digits are enough**: the closest numeral with so many has the number as its nearest one. -/
theorem nearest?_neighbours {a : Nat} (hlow : 10 ^ a * one64 ≤ x.units * 10 ^ 324)
    (hhigh : x.units * 10 ^ 324 < 10 ^ (a + 1) * one64) :
    (x.neighbours ((a : Int) - 340)).1.nearest? = some x := by
  have ha := lt_of_ten_pow_le x.representable.1 limit64_mul_le hlow
  have hgrid : a + (-((a : Int) - 340)).toNat = 324 + 16 + ((a : Int) - 340).toNat := by omega
  obtain ⟨hmin, hmax⟩ := grid_bounds hgrid hlow hhigh
  have hround := roundUnits_closest x.representable.2 hmin
  have hden : 0 < one64 * 10 ^ ((a : Int) - 340).toNat :=
    Nat.mul_pos one64_pos (Nat.pow_pos (by decide))
  rw [neighbours_fst]
  generalize hc : roundDiv (x.units * 10 ^ (-((a : Int) - 340)).toNat)
    (one64 * 10 ^ ((a : Int) - 340).toNat) = c at hround ⊢
  have hcmin : 10 ^ 16 ≤ c := by
    rw [← hc]
    exact ((Nat.le_div_iff_mul_le hden).2 hmin).trans (div_le_roundDiv _ _)
  have hcmax : c < 10 ^ 18 := by
    have hle := roundDiv_le (x.units * 10 ^ (-((a : Int) - 340)).toNat)
      (one64 * 10 ^ ((a : Int) - 340).toNat)
    have hlt := (Nat.div_lt_iff_lt_mul hden).2 hmax
    omega
  have hne : c ≠ 0 := by omega
  have htop : Decimal.top ⟨x.negative, c, (a : Int) - 340⟩ = digitCount c + ((a : Int) - 340) := rfl
  have hcount := digitCount_pos hne
  have hcount' := (digitCount_le_iff (by decide)).2 hcmax
  rw [Decimal.nearest?_of_top hne (by omega) (by omega)]
  exact ofRatio?_eq_some rfl hround

/-! ## The shortest numeral -/

/-- The number of digits of a whole part gives the power of ten below it. -/
theorem bounds_of_digitCount {k u o : Nat} (ho : 0 < o) (hk : o ≤ 10 ^ k) (hu : u ≠ 0) :
    ∃ a, digitCount (u * Nat.pow 10 k / o) = a + 1 ∧ 10 ^ a * o ≤ u * 10 ^ k ∧
      u * 10 ^ k < 10 ^ (a + 1) * o := by
  rw [Nat.pow_eq]
  have hle : o ≤ u * 10 ^ k := hk.trans (Nat.le_mul_of_pos_left _ (Nat.pos_of_ne_zero hu))
  have hne : u * 10 ^ k / o ≠ 0 := by
    have := Nat.div_pos hle ho
    omega
  obtain ⟨a, ha⟩ := Nat.exists_eq_succ_of_ne_zero (digitCount_pos hne).ne'
  refine ⟨a, ha, ?_, ?_⟩
  · rw [← Nat.le_div_iff_mul_le ho]
    exact ten_pow_le_of_digitCount hne (by omega)
  · rw [← Nat.div_lt_iff_lt_mul ho, ← Nat.succ_eq_add_one, ← ha]
    exact lt_ten_pow_digitCount hne

theorem exists_leadingPower {u : Nat} (hu : u ≠ 0) : ∃ a : Nat,
    leadingPower u = (a : Int) - 324 ∧ 10 ^ a * one64 ≤ u * 10 ^ 324 ∧
      u * 10 ^ 324 < 10 ^ (a + 1) * one64 := by
  obtain ⟨a, ha, hbounds⟩ := bounds_of_digitCount one64_pos one64_le hu
  refine ⟨a, ?_, hbounds⟩
  rw [leadingPower, ha]
  omega

theorem nearest?_shortestFrom {lead : Int}
    (h : (x.neighbours (lead - 16)).1.nearest? = some x) (fuel count : Nat) :
    (x.shortestFrom lead count fuel).nearest? = some x := by
  induction fuel generalizing count with
  | zero => exact h
  | succ fuel ih =>
    rw [shortestFrom]
    dsimp only
    split
    · rename_i hfirst
      exact beq_iff_eq.1 hfirst
    · split
      · rename_i hsecond
        exact beq_iff_eq.1 hsecond
      · exact ih (count + 1)

/-- A number is the nearest one to its shortest numeral. -/
theorem nearest?_shortest (x : Binary64) : x.shortest.nearest? = some x := by
  rw [shortest]
  split
  · rename_i hzero
    obtain ⟨negative, units, hx⟩ := x
    dsimp only at hzero
    subst hzero
    rfl
  · rename_i hx
    obtain ⟨a, hlead, hlow, hhigh⟩ := exists_leadingPower hx
    have hgrid : leadingPower x.units - 16 = (a : Int) - 340 := by omega
    rw [Decimal.nearest?_trim]
    refine nearest?_shortestFrom ?_ 17 1
    rw [hgrid]
    exact nearest?_neighbours hlow hhigh

end Binary64

namespace Decimal

/-! ## Reading a text -/

/-- The sign of a numeral as it is written. -/
def signChars (negative : Bool) : List Char := if negative then ['-'] else []

variable {ds fs point tail : List Char} {e : Int}

theorem scanExponent_signed (n : Int) :
    scanExponent ((if n < 0 then '-' else '+') :: Nat.toDigits 10 n.natAbs) = some (n, []) := by
  have hsign : Json.splitSign ((if n < 0 then '-' else '+') :: Nat.toDigits 10 n.natAbs) =
      (decide (n < 0), Nat.toDigits 10 n.natAbs) := by
    by_cases hn : n < 0
    · rw [if_pos hn, decide_eq_true hn]
      rfl
    · rw [if_neg hn, decide_eq_false hn]
      rfl
  have hempty : (Nat.toDigits 10 n.natAbs).isEmpty = false :=
    List.isEmpty_eq_false_iff.2 Nat.toDigits_ne_nil
  rw [Json.scanExponent_eq, hsign, spanDigits_toDigits]
  dsimp only
  rw [hempty, if_neg Bool.false_ne_true, digitsValue_toDigits]
  congr 2
  by_cases hn : n < 0
  · rw [if_pos (decide_eq_true hn)]
    omega
  · rw [if_neg (by simpa using hn)]
    omega

/-- A numeral in its parts: digits, perhaps a point and more digits, perhaps an exponent. -/
theorem ofChars?_parts (negative : Bool) (hne : ds ≠ []) (hds : ∀ d ∈ ds, isDigit d = true)
    (hfs : ∀ d ∈ fs, isDigit d = true) (hpoint : (point = [] ∧ fs = []) ∨ point = '.' :: fs)
    (htail : (tail = [] ∧ e = 0) ∨ ∃ r, tail = 'e' :: r ∧ scanExponent r = some (e, [])) :
    ofChars? (signChars negative ++ (ds ++ (point ++ tail))) =
      some ⟨negative, digitsValue (ds ++ fs), e - fs.length⟩ := by
  have hend : ∀ c ∈ tail.head?, isDigit c = false := by
    rcases htail with ⟨rfl, -⟩ | ⟨r, rfl, -⟩
    · nofun
    · rintro c ⟨⟩
      decide
  have hdot : ∀ c ∈ (point ++ tail).head?, isDigit c = false := by
    rcases hpoint with ⟨rfl, -⟩ | rfl
    · exact hend
    · rintro c ⟨⟩
      decide
  have hwhole := spanDigits_append hds hdot
  have hfraction := spanDigits_append hfs hend
  cases ds with
  | nil => exact absurd rfl hne
  | cons d ds =>
    have hd := hds d List.mem_cons_self
    have hminus : d ≠ '-' := by
      rintro rfl
      exact absurd hd (by decide)
    have hplus : d ≠ '+' := by
      rintro rfl
      exact absurd hd (by decide)
    rcases hpoint with ⟨rfl, rfl⟩ | rfl <;> rcases htail with ⟨rfl, rfl⟩ | ⟨r, rfl, hr⟩ <;>
      cases negative <;> simp_all [ofChars?, signChars]

theorem digitsValue_append (cs ds : List Char) :
    digitsValue (cs ++ ds) = digitsValue cs * 10 ^ ds.length + digitsValue ds := by
  have fold (n : Nat) : ds.foldl (fun n d => 10 * n + digitValue d) n =
      n * 10 ^ ds.length + digitsValue ds := by
    induction ds generalizing n with
    | nil => simp [digitsValue]
    | cons d ds ih =>
      have hcons : digitsValue (d :: ds) = digitValue d * 10 ^ ds.length + digitsValue ds := by
        rw [digitsValue, List.foldl_cons, ih]
        ring
      rw [List.foldl_cons, ih, hcons, List.length_cons]
      ring
  rw [digitsValue, List.foldl_append, fold]
  rfl

theorem digitsValue_zeros (k : Nat) : digitsValue (List.replicate k '0') = 0 := by
  induction k with
  | zero => rfl
  | succ k ih => exact ih

/-- The digits of a numeral in positional or scientific notation. -/
def layout (ds : List Char) (lead : Int) : List Char :=
  if -5 ≤ lead ∧ lead ≤ 15 then
    if lead < 0 then '0' :: '.' :: (List.replicate (-lead - 1).toNat '0' ++ ds)
    else
      ds.take (lead.toNat + 1) ++ List.replicate (lead.toNat + 1 - ds.length) '0' ++ '.' ::
        (if (ds.drop (lead.toNat + 1)).isEmpty then ['0'] else ds.drop (lead.toNat + 1))
  else
    ds.take 1 ++ (if ds.length ≤ 1 then [] else '.' :: ds.drop 1) ++
      'e' :: (if lead < 0 then '-' else '+') :: Nat.toDigits 10 lead.natAbs

theorem toList_text (d : Decimal) : d.text.toList = signChars d.negative ++
    layout (Nat.toDigits 10 d.digits) (if d.digits = 0 then 0 else d.leading) := by
  have hdigits : (if d.digits = 0 then ['0'] else Nat.toDigits 10 d.digits) =
      Nat.toDigits 10 d.digits := by
    split
    · rename_i h
      rw [h]
      rfl
    · rfl
  have hsign : (if d.negative then "-" else "").toList = signChars d.negative := by
    cases d.negative <;> rfl
  rw [text]
  dsimp only
  rw [hdigits, String.toList_append, String.toList_ofList, hsign]
  rfl

theorem isDigit_of_mem_take (hds : ∀ d ∈ ds, isDigit d = true) (k : Nat) :
    ∀ d ∈ ds.take k, isDigit d = true :=
  fun d hd => hds d (List.mem_of_mem_take hd)

theorem isDigit_of_mem_drop (hds : ∀ d ∈ ds, isDigit d = true) (k : Nat) :
    ∀ d ∈ ds.drop k, isDigit d = true :=
  fun d hd => hds d (List.mem_of_mem_drop hd)

theorem isDigit_of_mem_zeros (k : Nat) : ∀ d ∈ List.replicate k '0', isDigit d = true := by
  intro d hd
  rw [List.eq_of_mem_replicate hd]
  decide

/-- A zero, the point, and zeros before the digits. -/
theorem ofChars?_belowOne (negative : Bool) (hds : ∀ d ∈ ds, isDigit d = true) (k : Nat) :
    ofChars? (signChars negative ++ '0' :: '.' :: (List.replicate k '0' ++ ds)) =
      some ⟨negative, digitsValue ds, -(k + ds.length : Nat)⟩ := by
  have hfs := List.forall_mem_append.2 ⟨isDigit_of_mem_zeros k, hds⟩
  have hparts := ofChars?_parts negative (List.cons_ne_nil '0' []) (isDigit_of_mem_zeros 1) hfs
    (.inr rfl) (.inl ⟨rfl, rfl⟩)
  have hzero : digitsValue ['0'] = 0 := digitsValue_zeros 1
  rw [List.append_nil, digitsValue_append, digitsValue_append, digitsValue_zeros, hzero] at hparts
  refine hparts.trans ?_
  congr 2
  · ring
  · rw [List.length_append, List.length_replicate, Int.zero_sub]

/-- Zeros after the digits, and one more after the point. -/
theorem ofChars?_zeros (negative : Bool) (hne : ds ≠ []) (hds : ∀ d ∈ ds, isDigit d = true)
    (k : Nat) : ofChars? (signChars negative ++ (ds ++ List.replicate k '0' ++ '.' :: ['0'])) =
      some ⟨negative, digitsValue ds * 10 ^ (k + 1), -1⟩ := by
  have hwhole := List.forall_mem_append.2 ⟨hds, isDigit_of_mem_zeros k⟩
  have hparts := ofChars?_parts negative (List.append_ne_nil_of_left_ne_nil hne _) hwhole
    (isDigit_of_mem_zeros 1) (.inr rfl) (.inl ⟨rfl, rfl⟩)
  have hvalue : digitsValue (ds ++ List.replicate k '0' ++ ['0']) =
      digitsValue ds * 10 ^ (k + 1) := by
    rw [List.append_assoc, ← List.replicate_succ', digitsValue_append, digitsValue_zeros,
      List.length_replicate, Nat.add_zero]
  rw [List.append_nil] at hparts
  exact hparts.trans (by rw [List.replicate_one, hvalue]; rfl)

/-- The point is among the digits. -/
theorem ofChars?_splitAt (negative : Bool) (hds : ∀ d ∈ ds, isDigit d = true) {w : Nat}
    (hw : 0 < w) (hlt : w < ds.length) :
    ofChars? (signChars negative ++ (ds.take w ++ '.' :: ds.drop w)) =
      some ⟨negative, digitsValue ds, (w : Int) - ds.length⟩ := by
  have hne : ds.take w ≠ [] := by
    rw [← List.length_pos_iff, List.length_take]
    omega
  have hparts := ofChars?_parts negative hne (isDigit_of_mem_take hds w)
    (isDigit_of_mem_drop hds w) (.inr rfl) (.inl ⟨rfl, rfl⟩)
  rw [List.append_nil, List.take_append_drop] at hparts
  refine hparts.trans ?_
  congr 2
  rw [List.length_drop]
  omega

/-- The point is after the first digit, if there are more, and an exponent follows. -/
theorem ofChars?_scientific (negative : Bool) (hne : ds ≠ []) (hds : ∀ d ∈ ds, isDigit d = true)
    (lead : Int) :
    ofChars? (signChars negative ++
      (ds.take 1 ++ (if ds.length ≤ 1 then [] else '.' :: ds.drop 1) ++
        'e' :: (if lead < 0 then '-' else '+') :: Nat.toDigits 10 lead.natAbs)) =
      some ⟨negative, digitsValue ds, lead + 1 - ds.length⟩ := by
  have hlength := List.length_pos_iff.2 hne
  have hpoint : ((if ds.length ≤ 1 then [] else '.' :: ds.drop 1) = [] ∧ ds.drop 1 = []) ∨
      (if ds.length ≤ 1 then [] else '.' :: ds.drop 1) = '.' :: ds.drop 1 := by
    split
    · rename_i hshort
      exact .inl ⟨rfl, List.drop_of_length_le hshort⟩
    · exact .inr rfl
  have hne' : ds.take 1 ≠ [] := by
    rw [← List.length_pos_iff, List.length_take]
    omega
  have hparts := ofChars?_parts negative hne' (isDigit_of_mem_take hds 1)
    (isDigit_of_mem_drop hds 1) hpoint (.inr ⟨_, rfl, scanExponent_signed lead⟩)
  rw [List.take_append_drop, ← List.append_assoc (ds.take 1)] at hparts
  refine hparts.trans ?_
  congr 2
  rw [List.length_drop]
  omega

/-- What is laid out has the digits, perhaps with zeros after them. -/
theorem ofChars?_layout (negative : Bool) (hne : ds ≠ []) (hds : ∀ d ∈ ds, isDigit d = true)
    (lead : Int) : ∃ k : Nat, ofChars? (signChars negative ++ layout ds lead) =
      some ⟨negative, digitsValue ds * 10 ^ k, lead + 1 - ds.length - k⟩ := by
  rw [layout]
  split
  · split
    · refine ⟨0, (ofChars?_belowOne negative hds _).trans ?_⟩
      rw [Nat.pow_zero, Nat.mul_one]
      congr 2
      omega
    · by_cases hlead : ds.length ≤ lead.toNat + 1
      · refine ⟨lead.toNat + 1 - ds.length + 1, ?_⟩
        rw [List.take_of_length_le hlead, List.drop_of_length_le hlead]
        refine (ofChars?_zeros negative hne hds _).trans ?_
        congr 2
        omega
      · have hempty : (ds.drop (lead.toNat + 1)).isEmpty = false := by
          rw [List.isEmpty_eq_false_iff, ← List.length_pos_iff, List.length_drop]
          omega
        have hzero : lead.toNat + 1 - ds.length = 0 := by omega
        refine ⟨0, ?_⟩
        rw [hempty, hzero, List.replicate_zero, List.append_nil, if_neg Bool.false_ne_true,
          Nat.pow_zero, Nat.mul_one]
        refine (ofChars?_splitAt negative hds (Nat.succ_pos _) (Nat.not_le.1 hlead)).trans ?_
        congr 2
        omega
  · refine ⟨0, (ofChars?_scientific negative hne hds lead).trans ?_⟩
    rw [Nat.pow_zero, Nat.mul_one, Nat.cast_zero, Int.sub_zero]

/-- The text of a numeral spells a numeral of the same value. -/
theorem ofChars?_text (d : Decimal) :
    ∃ d', ofChars? d.text.toList = some d' ∧ d'.nearest? = d.nearest? := by
  obtain ⟨negative, m, e⟩ := d
  obtain ⟨k, hk⟩ := ofChars?_layout negative (Nat.toDigits_ne_nil (b := 10) (n := m))
    (fun _ hd => isDigit_of_mem_toDigits hd) (if m = 0 then 0 else leading ⟨negative, m, e⟩)
  refine ⟨_, (congrArg ofChars? (toList_text _)).trans hk, ?_⟩
  rw [digitsValue_toDigits, nearest?_mul_ten_pow]
  by_cases hm : m = 0
  · simp [nearest?_eq, hm]
  · have hcount : digitCount m = (Nat.toDigits 10 m).length := if_neg hm
    rw [if_neg hm, leading, ← hcount]
    congr 2
    dsimp only
    omega

end Decimal

/-! ## The texts of numbers -/

/-- The text of a number spells a numeral whose nearest number it is. -/
theorem Binary64.nearest?_text (x : Binary64) :
    ∃ d, Decimal.ofChars? x.text.toList = some d ∧ d.nearest? = some x := by
  obtain ⟨d, hd, hnearest⟩ := x.shortest.ofChars?_text
  exact ⟨d, hd, hnearest.trans x.nearest?_shortest⟩

namespace Number

theorem units_toBinary64_int {n : Int} (hn : IsWord n) :
    (int n hn).toBinary64.units = roundUnits (n.natAbs * one64) 1 := rfl

/-- The digits of a whole number have the nearest binary64 number. -/
theorem nearest?_natAbs {n : Int} (hn : IsWord n) :
    Decimal.nearest? ⟨decide (n < 0), n.natAbs, 0⟩ = some (int n hn).toBinary64 := by
  by_cases hzero : n.natAbs = 0
  · rw [Decimal.nearest?_eq, if_pos (.inl hzero)]
    refine congrArg some (Binary64.eq_of_units rfl ?_)
    rw [units_toBinary64_int, hzero, Nat.zero_mul, roundUnits_of_le (Nat.zero_le _)]
  · have hlt : n.natAbs < 10 ^ 20 := by
      have := natAbs_le_of_isWord hn
      omega
    have hcount := digitCount_pos hzero
    have hcount' := (digitCount_le_iff (by decide)).2 hlt
    have htop : Decimal.top ⟨decide (n < 0), n.natAbs, 0⟩ = digitCount n.natAbs + 0 := rfl
    have hround : roundUnits (n.natAbs * 10 ^ (0 : Int).toNat * one64) (10 ^ (-0 : Int).toNat) =
        (int n hn).toBinary64.units := by
      rw [units_toBinary64_int, Int.neg_zero, Int.toNat_zero, Nat.pow_zero, Nat.mul_one]
    rw [Decimal.nearest?_of_top hzero (by omega) (by omega)]
    exact Binary64.ofRatio?_eq_some rfl hround

/-- **The text of a number is read as the nearest binary64 number.** -/
theorem nearest?_text (n : Number) :
    ∃ d, Decimal.ofChars? n.text.toList = some d ∧ d.nearest? = some n.toBinary64 := by
  cases n with
  | float x => exact x.nearest?_text
  | int n hn =>
    have hnone : ∀ d ∈ ([] : List Char), isDigit d = true := List.forall_mem_nil _
    have hparts := Decimal.ofChars?_parts (decide (n < 0))
      (Nat.toDigits_ne_nil (b := 10) (n := n.natAbs)) (fun _ hd => isDigit_of_mem_toDigits hd)
      hnone (.inl ⟨rfl, rfl⟩) (.inl ⟨rfl, rfl⟩)
    have htext : (text (.int n hn)).toList =
        Decimal.signChars (decide (n < 0)) ++ (Nat.toDigits 10 n.natAbs ++ ([] ++ [])) := by
      rw [text, intText, String.toList_ofList, Decimal.signChars]
      simp
    rw [← htext, List.append_nil, digitsValue_toDigits] at hparts
    exact ⟨_, hparts, nearest?_natAbs hn⟩

/-- Numbers of one text have one binary64 number. -/
theorem toBinary64_of_text_eq {a b : Number} (h : a.text = b.text) :
    a.toBinary64 = b.toBinary64 := by
  obtain ⟨d, hd, ha⟩ := a.nearest?_text
  obtain ⟨d', hd', hb⟩ := b.nearest?_text
  rw [h, hd', Option.some.injEq] at hd
  rw [← hd, hb, Option.some.injEq] at ha
  exact ha.symm

end Number

end Reshape
