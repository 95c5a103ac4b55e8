import Mathlib.Data.List.TakeDrop
import Mathlib.Data.List.TakeWhile
import Reshape.Number.Basic

/-!
# Digits and what they spell

* `takeWhile_append`, `spanDigits_append`: where a run of characters of one class ends.
* `Decimal.ofChars?_whole`, `Decimal.ofChars?_point`: numerals that begin with a digit.
* `digitsValue_toDigits`: the digits of a number have its value.
* `toDigits_not_bad`: they do not start with a zero, unless that is the number.
-/

namespace Reshape

/-! ## Runs of characters -/

/-- What follows the longest prefix of a class is not of the class. -/
theorem not_of_mem_head?_dropWhile {p : Char → Bool} {cs : List Char} {c : Char}
    (h : c ∈ (cs.dropWhile p).head?) : p c = false := by
  have := List.head?_dropWhile_not p cs
  rw [Option.mem_def.1 h] at this
  exact this

theorem takeWhile_append {p : Char → Bool} {cs rest : List Char} (h : ∀ c ∈ cs, p c = true)
    (hr : ∀ c ∈ rest.head?, p c = false) : (cs ++ rest).takeWhile p = cs := by
  rw [List.takeWhile_append_of_pos h]
  cases rest with
  | nil => simp
  | cons c rest => simp [hr c rfl]

/-! ## Digits -/

theorem isDigit_iff {c : Char} : isDigit c = true ↔ 48 ≤ c.toNat ∧ c.toNat ≤ 57 := by
  simp only [isDigit, Bool.and_eq_true, decide_eq_true_eq, Char.le_def, UInt32.le_iff_toNat_le]
  rfl

theorem spanDigits_append {ds rest : List Char} (hds : ∀ d ∈ ds, isDigit d = true)
    (hr : ∀ c ∈ rest.head?, isDigit c = false) : spanDigits (ds ++ rest) = (ds, rest) := by
  rw [spanDigits, List.span_eq_takeWhile_dropWhile, List.takeWhile_append_of_pos hds,
    List.dropWhile_append_of_pos hds]
  cases rest with
  | nil => simp
  | cons c cs => simp [hr c rfl]

/-! ## Numerals -/

/-- A numeral that begins with a digit has no sign. It is spelled by its digits before and after the
point if nothing else follows them. -/
theorem Decimal.ofChars?_of_spans {d : Char} {cs ds fs r rest : List Char} (hd : isDigit d = true)
    (hw : spanDigits (d :: cs) = (d :: ds, r))
    (hf : (r = [] ∧ fs = [] ∧ rest = []) ∨ ∃ s, r = '.' :: s ∧ spanDigits s = (fs, rest))
    (hr : ∀ c ∈ rest.head?, c = '.') :
    ofChars? (d :: cs) =
      if rest = [] then some ⟨false, digitsValue (d :: ds ++ fs), -fs.length⟩ else none := by
  unfold Decimal.ofChars?
  split
  rename_i hsign
  split at hsign
  case h_1 h =>
    cases h
    exact absurd hd (by decide)
  case h_2 h =>
    cases h
    exact absurd hd (by decide)
  case h_3 =>
    cases hsign
    obtain ⟨rfl, rfl, rfl⟩ | ⟨s, rfl, hs⟩ := hf
    · simp [hw]
    · cases rest with
      | nil => simp [hw, hs]
      | cons c cs =>
        obtain rfl := hr c rfl
        simp [hw, hs]

theorem Decimal.ofChars?_whole {ds : List Char} (h : ds ≠ []) (hds : ∀ d ∈ ds, isDigit d = true) :
    Decimal.ofChars? ds = some ⟨false, digitsValue (ds ++ []), -([] : List Char).length⟩ := by
  cases ds with
  | nil => exact absurd rfl h
  | cons d ds =>
    have hspan : spanDigits (d :: ds ++ []) = (d :: ds, []) := spanDigits_append hds (by simp)
    rw [List.append_nil] at hspan
    rw [ofChars?_of_spans (hds d List.mem_cons_self) hspan (.inl ⟨rfl, rfl, rfl⟩) (by simp),
      if_pos rfl]

theorem Decimal.ofChars?_point {ds fs rest : List Char} (h : ds ≠ [])
    (hds : ∀ d ∈ ds, isDigit d = true) (hfs : ∀ d ∈ fs, isDigit d = true)
    (hr : ∀ c ∈ rest.head?, c = '.') :
    Decimal.ofChars? (ds ++ '.' :: (fs ++ rest)) =
      if rest = [] then some ⟨false, digitsValue (ds ++ fs), -fs.length⟩ else none := by
  cases ds with
  | nil => exact absurd rfl h
  | cons d ds =>
    have hw : spanDigits (d :: ds ++ '.' :: (fs ++ rest)) = (d :: ds, '.' :: (fs ++ rest)) :=
      spanDigits_append hds (by simp; decide)
    have hf : spanDigits (fs ++ rest) = (fs, rest) :=
      spanDigits_append hfs fun c hc => by rw [hr c hc]; decide
    exact ofChars?_of_spans (hds d List.mem_cons_self) hw (.inr ⟨_, rfl, hf⟩) hr

/-! ## The digits of a number -/

theorem isDigit_of_mem_toDigits {n : Nat} {c : Char} (h : c ∈ Nat.toDigits 10 n) :
    isDigit c = true := by
  have hc : c.isDigit = true := Nat.isDigit_of_mem_toDigits (by decide) (by decide) h
  rw [isDigit_iff]
  simpa [Char.isDigit, UInt32.le_iff_toNat_le] using hc

theorem spanDigits_toDigits (n : Nat) :
    spanDigits (Nat.toDigits 10 n) = (Nat.toDigits 10 n, []) := by
  have := @spanDigits_append (Nat.toDigits 10 n) [] (fun _ hd => isDigit_of_mem_toDigits hd) nofun
  rwa [List.append_nil] at this

theorem digitsValue_toDigits (n : Nat) : digitsValue (Nat.toDigits 10 n) = n :=
  Nat.ofDigitChars_ten_toDigits

/-- Only zero starts with a zero. -/
theorem head?_toDigits_ne {n : Nat} (h : 0 < n) : (Nat.toDigits 10 n).head? ≠ some '0' := by
  induction n using Nat.strongRecOn with
  | ind n ih =>
    by_cases hn : n < 10
    · rw [Nat.toDigits_of_lt_base hn]
      simp only [List.head?_cons, ne_eq, Option.some.injEq, Nat.digitChar_eq_zero]
      omega
    · rw [Nat.toDigits_of_base_le (by decide) (by omega),
        List.head?_append, Option.or_of_isSome (by simp [Nat.toDigits_ne_nil])]
      exact ih (n / 10) (by omega) (by omega)

/-- The digits of a number are a whole part: some, and no zero before others. -/
theorem toDigits_not_bad (n : Nat) : ¬ ((Nat.toDigits 10 n).isEmpty ∨
    ((Nat.toDigits 10 n).head? = some '0' ∧ (Nat.toDigits 10 n).length ≠ 1)) := by
  rintro (hempty | ⟨hhead, hlen⟩)
  · exact Nat.toDigits_ne_nil (List.isEmpty_iff.1 hempty)
  · rcases Nat.eq_zero_or_pos n with rfl | hpos
    · exact hlen rfl
    · exact head?_toDigits_ne hpos hhead

end Reshape
