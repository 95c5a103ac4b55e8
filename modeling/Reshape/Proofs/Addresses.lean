import Mathlib.Data.Nat.Digits.Defs
import Reshape.Proofs.Coordinates
import Reshape.Proofs.DelimitedText

/-!
# Addresses of cells

The letters of an address are a number that is written without a zero: after `Z` comes `AA`, and
after `ZZ` comes `AAA`. So every column has one name, and it is read from no other letters but those
of its name, large or small.

* `Position.columnLetters`: the name of a column. `columnNumber_columnLetters` and
  `columnLetters_columnNumber`: reading names and writing them are inverse to each other.
* `Position.Spelling`: what an address is made of; `ofChars?_eq_some_iff`: nothing else is one.
* `Position.Addresses`: the texts that are an address of a position.
* `Position.parse_addresses`: all of this, and that a region is not changed by its own corners.
-/

namespace Reshape

/-- What is left of a text without the blanks around it is determined by the text. -/
theorem Text.Trims.eq_trim {cs kept : List Char} (h : Trims cs kept) : trim cs = kept := by
  obtain ⟨before, after, rfl, hblank⟩ := h.around
  obtain ⟨hbefore, hafter⟩ := List.forall_mem_append.1 hblank
  have hdrop {cs rest : List Char} (hcs : ∀ c ∈ cs, isBlank c = true)
      (hrest : ∀ c ∈ rest.head?, isBlank c = false) : (cs ++ rest).dropWhile isBlank = rest := by
    rw [List.dropWhile_append_of_pos hcs]
    cases rest with
    | nil => rfl
    | cons c rest => rw [List.dropWhile_cons_of_neg (by simp [hrest c rfl])]
  cases hkept : kept with
  | nil =>
    subst hkept
    have hall : before ++ [] ++ after = (before ++ after) ++ [] := by simp
    rw [trim, hall, hdrop hblank (by simp)]
    rfl
  | cons c cs =>
    rw [← hkept, trim, List.append_assoc, hdrop hbefore, List.reverse_append,
      hdrop (fun d hd => hafter d (List.mem_reverse.1 hd)), List.reverse_reverse]
    · intro d hd
      rw [List.head?_reverse] at hd
      exact h.last d hd
    · intro d hd
      rw [List.head?_append_of_ne_nil _ (by simp [hkept])] at hd
      exact h.first d hd

namespace Position

/-! ## Names of columns -/

/-- The capital letter at a place in the alphabet, counted from zero. -/
def letter (n : Nat) : Char := Char.ofNat (65 + n)

/-- The name of a column: `A` to `Z`, then `AA` to `ZZ`, and so on. -/
def columnLetters (column : Nat) : List Char :=
  if column < 26 then [letter column]
  else columnLetters (column / 26 - 1) ++ [letter (column % 26)]
decreasing_by omega

/-- The number of columns whose names have at most so many letters. -/
def reach : Nat → Nat
  | 0 => 0
  | length + 1 => 26 * (reach length + 1)

theorem toNat_letter {n : Nat} (h : n < 26) : (letter n).toNat = 65 + n := by
  rw [letter, Char.ofNat, dif_pos (.inl (by omega))]
  rfl

theorem isLetter_letter {n : Nat} (h : n < 26) : isLetter (letter n) = true := by
  rw [isLetter_iff, toNat_letter h]
  omega

theorem letterValue_eq (c : Char) :
    letterValue c = if 97 ≤ c.toNat then c.toNat - 96 else c.toNat - 64 := by
  have hsmall : 'a' ≤ c ↔ 97 ≤ c.toNat := by
    rw [Char.le_def, UInt32.le_iff_toNat_le]
    rfl
  simp only [letterValue, hsmall]

theorem letterValue_letter {n : Nat} (h : n < 26) : letterValue (letter n) = n + 1 := by
  rw [letterValue_eq, toNat_letter h, if_neg (by omega)]
  omega

/-- Capitals stand 32 characters before the small letters. -/
theorem toNat_toUpper (c : Char) : c.toUpper.toNat =
    if 97 ≤ c.toNat ∧ c.toNat ≤ 122 then c.toNat - 32 else c.toNat := by
  have hval : c.val.toNat = c.toNat := rfl
  have hshift : ('A'.val - 'a'.val).toNat = 2 ^ 32 - 32 := by decide
  delta Char.toUpper
  split
  · rename_i hsmall
    have hsmall : 97 ≤ c.toNat ∧ c.toNat ≤ 122 := hsmall
    rw [if_pos hsmall]
    change (c.val + _).toNat = _
    rw [UInt32.toNat_add, hval]
    omega
  · rename_i hother
    exact (if_neg hother).symm

/-- A letter as a capital is the letter of its place. -/
theorem toUpper_eq_letter {c : Char} (h : isLetter c = true) :
    c.toUpper = letter (letterValue c - 1) := by
  obtain ⟨-, hone, h26⟩ := checkedLetter_eq h
  rw [isLetter_iff] at h
  refine Char.toNat_inj.1 ?_
  rw [toNat_letter (by omega), letterValue_eq, toNat_toUpper]
  split <;> split <;> omega

theorem isLetter_of_isLetter_toUpper {c : Char} (h : isLetter c.toUpper = true) :
    isLetter c = true := by
  rw [isLetter_iff, toNat_toUpper] at h
  rw [isLetter_iff]
  split at h <;> omega

theorem isLetter_of_mem_columnLetters {column : Nat} {c : Char} (h : c ∈ columnLetters column) :
    isLetter c = true := by
  induction column using Nat.strongRecOn with
  | ind column ih =>
    rw [columnLetters] at h
    split at h
    · rename_i hlt
      rw [List.mem_singleton.1 h]
      exact isLetter_letter hlt
    · rcases List.mem_append.1 h with h | h
      · exact ih _ (by omega) h
      · rw [List.mem_singleton.1 h]
        exact isLetter_letter (by omega)

theorem columnNumber_concat (letters : List Char) (c : Char) :
    columnNumber (letters ++ [c]) = columnNumber letters * 26 + letterValue c := by
  simp [columnNumber]

theorem columnNumber_pos {letters : List Char} (h : ∀ c ∈ letters, isLetter c = true)
    (hne : letters ≠ []) : 1 ≤ columnNumber letters := by
  obtain ⟨first, c, rfl⟩ := List.eq_nil_or_concat letters |>.resolve_left hne
  obtain ⟨-, hone, -⟩ := checkedLetter_eq (h c (by simp))
  rw [List.concat_eq_append, columnNumber_concat]
  omega

theorem columnNumber_columnLetters (column : Nat) :
    columnNumber (columnLetters column) = column + 1 := by
  induction column using Nat.strongRecOn with
  | ind column ih =>
    rw [columnLetters]
    split
    · rename_i hlt
      rw [columnNumber, List.foldl_cons, List.foldl_nil, letterValue_letter hlt]
      omega
    · rw [columnNumber_concat, ih _ (by omega), letterValue_letter (by omega)]
      omega

/-- Letters are the name of the column that they are read as, but for their case. -/
theorem columnLetters_columnNumber {letters : List Char} (h : ∀ c ∈ letters, isLetter c = true)
    (hne : letters ≠ []) :
    columnLetters (columnNumber letters - 1) = letters.map Char.toUpper := by
  induction letters using List.reverseRecOn with
  | nil => exact absurd rfl hne
  | append_singleton letters c ih =>
    obtain ⟨hletters, hc⟩ := List.forall_mem_append.1 h
    obtain ⟨-, hone, h26⟩ := checkedLetter_eq (hc c (List.mem_singleton_self c))
    rw [columnNumber_concat, List.map_append, List.map_singleton,
      toUpper_eq_letter (hc c (List.mem_singleton_self c)), columnLetters]
    cases letters with
    | nil =>
      rw [if_pos (by simp [columnNumber]; omega)]
      simp [columnNumber]
    | cons d letters =>
      have hname := ih hletters (List.cons_ne_nil d letters)
      have hpos := columnNumber_pos hletters (List.cons_ne_nil d letters)
      rw [if_neg (by omega), ← hname]
      congr 3 <;> omega

theorem length_columnLetters_pos (column : Nat) : 0 < (columnLetters column).length := by
  rw [columnLetters]
  split <;> simp

theorem length_columnLetters_le_iff {column length : Nat} :
    (columnLetters column).length ≤ length ↔ column < reach length := by
  induction length generalizing column with
  | zero =>
    have := length_columnLetters_pos column
    rw [reach]
    omega
  | succ length ih =>
    rw [columnLetters, reach]
    split
    · rw [List.length_singleton]
      omega
    · rw [List.length_append, List.length_singleton, Nat.add_le_add_iff_right, ih]
      omega

/-! ## Numbers that letters and digits are read as -/

/-- The places of letters in the alphabet, from 1 to 26, the last letter first. -/
def letterDigits (letters : List Char) : List Nat :=
  (letters.map fun c => c.toUpper.toNat - 'A'.toNat + 1).reverse

theorem letterDigits_eq {letters : List Char} (h : ∀ c ∈ letters, isLetter c = true) :
    letterDigits letters = (letters.map letterValue).reverse := by
  refine congrArg List.reverse (List.map_congr_left fun c hc => ?_)
  obtain ⟨-, hone, h26⟩ := checkedLetter_eq (h c hc)
  rw [toUpper_eq_letter (h c hc), toNat_letter (by omega), show 'A'.toNat = 65 from rfl]
  omega

theorem mem_letterDigits {letters : List Char} (h : ∀ c ∈ letters, isLetter c = true) {d : Nat}
    (hd : d ∈ letterDigits letters) : 1 ≤ d ∧ d ≤ 26 := by
  rw [letterDigits_eq h, List.mem_reverse] at hd
  obtain ⟨c, hc, rfl⟩ := List.mem_map.1 hd
  exact (checkedLetter_eq (h c hc)).2

theorem columnNumber_eq_ofDigits {letters : List Char} (h : ∀ c ∈ letters, isLetter c = true) :
    columnNumber letters = Nat.ofDigits 26 (letterDigits letters) := by
  rw [letterDigits_eq h, Nat.ofDigits_eq_foldr, List.foldr_reverse, List.foldl_map, columnNumber]
  congr 1
  funext n c
  rw [Nat.cast_id]
  omega

theorem digitsValue_eq_ofDigits (digits : List Char) :
    digitsValue digits = Nat.ofDigits 10 (digits.map digitValue).reverse := by
  rw [Nat.ofDigits_eq_foldr, List.foldr_reverse, List.foldl_map, digitsValue]
  congr 1
  funext n d
  rw [Nat.cast_id]
  omega

/-- Digits have the value zero if all of them are zero. -/
theorem digitsValue_ne_zero_iff {digits : List Char} (h : ∀ d ∈ digits, isDigit d = true) :
    digitsValue digits ≠ 0 ↔ ∃ d ∈ digits, d ≠ '0' := by
  induction digits using List.reverseRecOn with
  | nil => simp [digitsValue]
  | append_singleton digits d ih =>
    obtain ⟨hdigits, hd⟩ := List.forall_mem_append.1 h
    have hzero : digitValue d = 0 ↔ d = '0' := by
      have := isDigit_iff.1 (hd d (List.mem_singleton_self d))
      rw [digitValue, ← Char.toNat_inj, show '0'.toNat = 48 from rfl]
      omega
    have hvalue : digitsValue (digits ++ [d]) = 10 * digitsValue digits + digitValue d := by
      simp [digitsValue]
    simp only [List.mem_append, List.mem_singleton, or_and_right, exists_or, exists_eq_left,
      ← ih hdigits, ne_eq, ← hzero, hvalue]
    omega

/-! ## What an address is made of -/

/-- A dollar sign, if it is given. -/
def dollar (given : Bool) : List Char := if given then ['$'] else []

/-- One to three letters, and one to seven digits that are not all zero. -/
structure Parts (letters digits : List Char) : Prop where
  letters_pos : 1 ≤ letters.length
  letters_le : letters.length ≤ 3
  isLetter : ∀ c ∈ letters, isLetter c = true
  digits_pos : 1 ≤ digits.length
  digits_le : digits.length ≤ 7
  isDigit : ∀ d ∈ digits, isDigit d = true
  nonzero : ∃ d ∈ digits, d ≠ '0'

/-- Blanks around it aside, the text is these letters and digits, with an optional dollar sign
before each of them. -/
structure Spelling (text : String) (letters digits : List Char) : Prop
    extends Parts letters digits where
  trims : ∃ a b, Text.Trims text.toList (dollar a ++ (letters ++ (dollar b ++ digits)))

theorem exists_dollar (cs : List Char) : ∃ a, cs = dollar a ++ skipDollar cs := by
  unfold skipDollar
  split
  · exact ⟨true, rfl⟩
  · exact ⟨false, rfl⟩

theorem skipDollar_dollar {cs : List Char} (h : ∀ c ∈ cs.head?, c ≠ '$') (a : Bool) :
    skipDollar (dollar a ++ cs) = cs := by
  cases a with
  | true => rfl
  | false =>
    change skipDollar cs = cs
    unfold skipDollar
    split
    · exact absurd rfl (h _ rfl)
    · rfl

theorem isLetter_dollar : isLetter '$' = false := by decide

theorem isLetter_eq_false_of_isDigit {c : Char} (h : isDigit c = true) : isLetter c = false := by
  rw [isDigit_iff] at h
  rw [Bool.eq_false_iff, Ne, isLetter_iff]
  omega

namespace Parts

variable {letters digits : List Char}

theorem letters_ne_nil (h : Parts letters digits) : letters ≠ [] :=
  List.ne_nil_of_length_pos h.letters_pos

theorem digits_ne_nil (h : Parts letters digits) : digits ≠ [] :=
  List.ne_nil_of_length_pos h.digits_pos

theorem columnNumber_pos (h : Parts letters digits) : 1 ≤ columnNumber letters :=
  Position.columnNumber_pos h.isLetter h.letters_ne_nil

theorem digitsValue_pos (h : Parts letters digits) : 1 ≤ digitsValue digits :=
  Nat.one_le_iff_ne_zero.2 ((digitsValue_ne_zero_iff h.isDigit).2 h.nonzero)

/-- The letters and the digits are found where they are, whether there are dollar signs or not. -/
theorem ofChars?_eq (h : Parts letters digits) (a b : Bool) :
    ofChars? (dollar a ++ (letters ++ (dollar b ++ digits))) =
      some ⟨digitsValue digits - 1, columnNumber letters - 1⟩ := by
  have hdollar : ∀ c ∈ digits.head?, c ≠ '$' := by
    rintro _ hc rfl
    exact absurd (h.isDigit _ (List.mem_of_mem_head? hc)) (by decide)
  have hnext : ∀ c ∈ (dollar b ++ digits).head?, Position.isLetter c = false := by
    cases b with
    | true => exact fun c hc => by rw [← Option.some.inj hc]; exact isLetter_dollar
    | false => exact fun c hc =>
        isLetter_eq_false_of_isDigit (h.isDigit c (List.mem_of_mem_head? hc))
  have hfirst : ∀ c ∈ (letters ++ (dollar b ++ digits)).head?, c ≠ '$' := by
    rintro _ hc rfl
    rw [List.head?_append_of_ne_nil _ h.letters_ne_nil] at hc
    exact absurd (h.isLetter _ (List.mem_of_mem_head? hc)) (by decide)
  have htake : (letters ++ (dollar b ++ digits)).takeWhile Position.isLetter = letters :=
    takeWhile_append h.isLetter hnext
  have hdrop : (letters ++ (dollar b ++ digits)).dropWhile Position.isLetter =
      dollar b ++ digits := by
    have hsplit := List.takeWhile_append_dropWhile (p := Position.isLetter)
      (l := letters ++ (dollar b ++ digits))
    rw [htake] at hsplit
    exact List.append_cancel_left hsplit
  rw [ofChars?, skipDollar_dollar hfirst, htake, hdrop, skipDollar_dollar hdollar]
  exact if_pos ⟨h.letters_pos, h.letters_le, h.digits_pos, h.digits_le,
    List.all_eq_true.2 h.isDigit, (digitsValue_ne_zero_iff h.isDigit).2 h.nonzero⟩

end Parts

/-- The characters that are an address. -/
theorem ofChars?_eq_some_iff {cs : List Char} {p : Position} : ofChars? cs = some p ↔
    ∃ letters digits a b, Parts letters digits ∧
      cs = dollar a ++ (letters ++ (dollar b ++ digits)) ∧
      p = ⟨digitsValue digits - 1, columnNumber letters - 1⟩ := by
  constructor
  · intro h
    obtain ⟨a, ha⟩ := exists_dollar cs
    obtain ⟨b, hb⟩ := exists_dollar ((skipDollar cs).dropWhile isLetter)
    rw [ofChars?] at h
    split at h
    · rename_i hparts
      obtain ⟨hpos, hle, hdigits, hseven, hall, hzero⟩ := hparts
      refine ⟨_, _, a, b, ⟨hpos, hle, fun c hc => List.mem_takeWhile_imp hc, hdigits, hseven,
        List.all_eq_true.1 hall, (digitsValue_ne_zero_iff (List.all_eq_true.1 hall)).1 hzero⟩,
        ?_, (Option.some.inj h).symm⟩
      rw [← hb, List.takeWhile_append_dropWhile]
      exact ha
    · cases h
  · rintro ⟨letters, digits, a, b, hparts, rfl, rfl⟩
    exact hparts.ofChars?_eq a b

theorem parse_iff_ofText? {text : String} {p : Position} : parse text = .ok p ↔
    ofText? text = some p := by
  rw [parse]
  cases ofText? text <;> simp

/-- The texts that are an address, and what they are read as. -/
theorem parse_iff_spelling {text : String} {p : Position} : parse text = .ok p ↔
    ∃ letters digits, Spelling text letters digits ∧
      p = ⟨digitsValue digits - 1, columnNumber letters - 1⟩ := by
  rw [parse_iff_ofText?, ofText?, ofChars?_eq_some_iff]
  constructor
  · rintro ⟨letters, digits, a, b, hparts, htrim, rfl⟩
    exact ⟨letters, digits, ⟨hparts, a, b, htrim ▸ Text.trims_trim text.toList⟩, rfl⟩
  · rintro ⟨letters, digits, ⟨hparts, a, b, htrims⟩, rfl⟩
    exact ⟨letters, digits, a, b, hparts, htrims.eq_trim, rfl⟩

/-! ## Addresses of a position -/

/-- The position has an address: the names of columns go up to `ZZZ` and the rows up to 9999999. -/
def HasAddress (p : Position) : Prop := p.row < 9999999 ∧ p.column < 18278

instance (p : Position) : Decidable p.HasAddress := inferInstanceAs (Decidable (_ ∧ _))

/-- The digits of a row, which is counted from one there. -/
def rowDigits (row : Nat) : List Char := Nat.toDigits 10 (row + 1)

/-- The text is the name of the column and the number of the row, in capitals or small letters, with
or without dollar signs, and with or without blanks around it. -/
def Addresses (p : Position) (text : String) : Prop :=
  ∃ before after letters a b, (∀ c ∈ before ++ after, Text.isBlank c = true) ∧
    letters.map Char.toUpper = columnLetters p.column ∧
    text.toList = before ++ (dollar a ++ (letters ++ (dollar b ++ rowDigits p.row))) ++ after

/-- The address in capitals, with nothing before or after it. -/
def address (p : Position) : String := String.ofList (columnLetters p.column ++ rowDigits p.row)

theorem isBlank_eq_false {c : Char} (h : 33 ≤ c.toNat) (h' : c.toNat ≤ 122) :
    Text.isBlank c = false := by
  simp only [Text.isBlank, Text.blankRanges, Text.inRanges, Bool.and_eq_false_iff,
    Bool.or_eq_false_iff, decide_eq_false_iff_not]
  omega

theorem isBlank_of_isLetter {c : Char} (h : isLetter c = true) : Text.isBlank c = false := by
  rw [isLetter_iff] at h
  exact isBlank_eq_false (by omega) (by omega)

theorem isBlank_of_isDigit {c : Char} (h : isDigit c = true) : Text.isBlank c = false := by
  rw [isDigit_iff] at h
  exact isBlank_eq_false (by omega) (by omega)

section Addresses

variable {p : Position} {text : String} {letters digits : List Char}

theorem isLetter_of_map_toUpper {column : Nat}
    (h : letters.map Char.toUpper = columnLetters column) : ∀ c ∈ letters, isLetter c = true :=
  fun _ hc => isLetter_of_isLetter_toUpper
    (isLetter_of_mem_columnLetters (h ▸ List.mem_map_of_mem hc))

theorem letters_ne_nil {column : Nat} (h : letters.map Char.toUpper = columnLetters column) :
    letters ≠ [] := by
  rintro rfl
  have hpos := length_columnLetters_pos column
  rw [← h] at hpos
  exact Nat.lt_irrefl 0 hpos

theorem columnNumber_of_map_toUpper {column : Nat}
    (h : letters.map Char.toUpper = columnLetters column) :
    columnNumber letters = column + 1 := by
  have hletters := isLetter_of_map_toUpper h
  have hpos := columnNumber_pos hletters (letters_ne_nil h)
  have hname := columnLetters_columnNumber hletters (letters_ne_nil h)
  rw [h] at hname
  have hnumber := congrArg columnNumber hname
  rw [columnNumber_columnLetters, columnNumber_columnLetters] at hnumber
  omega

theorem map_toUpper_columnLetters (column : Nat) :
    (columnLetters column).map Char.toUpper = columnLetters column := by
  have hname := @columnLetters_columnNumber (columnLetters column)
    (fun _ => isLetter_of_mem_columnLetters)
    (List.ne_nil_of_length_pos (length_columnLetters_pos column))
  rw [← hname, columnNumber_columnLetters, Nat.add_sub_cancel]

theorem addresses_address (p : Position) : p.Addresses p.address := by
  refine ⟨[], [], columnLetters p.column, false, false, nofun,
    map_toUpper_columnLetters p.column, ?_⟩
  rw [address, String.toList_ofList]
  exact (List.append_nil _).symm

/-- The name of a column and the number of a row are the parts of an address if there is one. -/
theorem parts_of_hasAddress (h : letters.map Char.toUpper = columnLetters p.column)
    (hp : p.HasAddress) : Parts letters (rowDigits p.row) := by
  obtain ⟨hrow, hcolumn⟩ := hp
  have hdigits : ∀ d ∈ rowDigits p.row, isDigit d = true := fun d => isDigit_of_mem_toDigits
  refine ⟨List.length_pos_iff.2 (letters_ne_nil h), ?_, isLetter_of_map_toUpper h,
    Nat.length_toDigits_pos, ?_, hdigits, (digitsValue_ne_zero_iff hdigits).1 ?_⟩
  · rw [← List.length_map, h]
    exact length_columnLetters_le_iff.2 hcolumn
  · rw [rowDigits, Nat.length_toDigits_le_iff (by decide) (by decide)]
    omega
  · rw [rowDigits, digitsValue_toDigits]
    exact Nat.succ_ne_zero _

/-- What an address is made of is the address of a position that has one. -/
theorem Parts.hasAddress (h : Parts letters digits) :
    HasAddress ⟨digitsValue digits - 1, columnNumber letters - 1⟩ := by
  have hrow := digitsValue_lt h.isDigit
  have hseven : 10 ^ digits.length ≤ 10 ^ 7 := Nat.pow_le_pow_right (by decide) h.digits_le
  have hname := columnLetters_columnNumber h.isLetter h.letters_ne_nil
  have hthree := h.letters_le
  rw [← List.length_map (f := Char.toUpper), ← hname] at hthree
  refine ⟨?_, length_columnLetters_le_iff.1 hthree⟩
  have hpos := h.digitsValue_pos
  dsimp only
  omega

theorem hasAddress_of_parse (h : parse text = .ok p) : p.HasAddress := by
  obtain ⟨letters, digits, hspelling, rfl⟩ := parse_iff_spelling.1 h
  exact hspelling.hasAddress

/-- An address without the blanks around it. -/
theorem trims_of_blanks {cs before after : List Char} (h : Parts letters digits)
    (hblank : ∀ c ∈ before ++ after, Text.isBlank c = true) (a b : Bool)
    (hcs : cs = before ++ (dollar a ++ (letters ++ (dollar b ++ digits))) ++ after) :
    Text.Trims cs (dollar a ++ (letters ++ (dollar b ++ digits))) := by
  refine ⟨⟨before, after, hcs, hblank⟩, fun c hc => ?_, fun c hc => ?_⟩
  · cases a with
    | true => exact Option.some.inj hc ▸ by decide
    | false =>
      change c ∈ (letters ++ _).head? at hc
      rw [List.head?_append_of_ne_nil _ h.letters_ne_nil] at hc
      exact isBlank_of_isLetter (h.isLetter c (List.mem_of_mem_head? hc))
  · rw [← List.append_assoc, ← List.append_assoc,
      List.getLast?_append_of_ne_nil _ h.digits_ne_nil] at hc
    exact isBlank_of_isDigit (h.isDigit c (List.mem_of_mem_getLast? hc))

/-- An address of a position is read as that position, if the position has an address. -/
theorem parse_eq_ok_iff_hasAddress (h : Addresses p text) :
    parse text = .ok p ↔ p.HasAddress := by
  refine ⟨hasAddress_of_parse, fun hp => ?_⟩
  obtain ⟨before, after, letters, a, b, hblank, hname, htext⟩ := h
  have hparts := parts_of_hasAddress hname hp
  have htrims := trims_of_blanks hparts hblank a b htext
  rw [parse_iff_ofText?, ofText?, htrims.eq_trim, hparts.ofChars?_eq,
    columnNumber_of_map_toUpper hname, rowDigits, digitsValue_toDigits]
  rfl

/-- The position of an address, from its letters and digits. -/
theorem Spelling.parse_eq (h : Spelling text letters digits) :
    parse text = .ok ⟨digitsValue digits - 1, columnNumber letters - 1⟩ :=
  parse_iff_spelling.2 ⟨letters, digits, h, rfl⟩

end Addresses

/-- Columns are the same if their names are, but for the case of letters. -/
theorem columnNumber_eq_iff {letters letters' digits digits' : List Char}
    (h : Parts letters digits) (h' : Parts letters' digits') :
    columnNumber letters - 1 = columnNumber letters' - 1 ↔
      letters.map Char.toUpper = letters'.map Char.toUpper := by
  rw [← columnLetters_columnNumber h.isLetter h.letters_ne_nil,
    ← columnLetters_columnNumber h'.isLetter h'.letters_ne_nil]
  refine ⟨congrArg columnLetters, fun heq => ?_⟩
  have hnumber := congrArg columnNumber heq
  rw [columnNumber_columnLetters, columnNumber_columnLetters] at hnumber
  exact Nat.succ.inj hnumber

end Position

/-- A region is not changed by addresses of its own corners. -/
theorem Region.override_self {r : Region} {first last : Option String}
    (hfirst : ∀ text ∈ first, r.first.HasAddress ∧ r.first.Addresses text)
    (hlast : ∀ text ∈ last, r.last.HasAddress ∧ r.last.Addresses text) :
    r.override first last = .ok r := by
  have hparse {p : Position} {text : String} (h : p.HasAddress ∧ p.Addresses text) :
      Position.parse text = .ok p := (Position.parse_eq_ok_iff_hasAddress h.2).2 h.1
  cases first with
  | none =>
    cases last with
    | none => rfl
    | some text => simp only [override, hparse (hlast text rfl)]; rfl
  | some text =>
    cases last with
    | none => simp only [override, hparse (hfirst text rfl)]; rfl
    | some text' => simp only [override, hparse (hfirst text rfl), hparse (hlast text' rfl)]; rfl

namespace Position

/-- **Addresses are read as they are written.** A text is read if, without the blanks around it, it
is one to three letters and one to seven digits that are not all zero, with an optional dollar sign
before each; nothing is calculated beyond 32 bits. The digits are the row in base ten, and the
letters, whatever their case, are the column in base 26 with digits from 1 to 26, both counted from
one. So letters of one column differ in their case only, and each position that has an address is
read from each of its addresses. The region in use is not changed by the addresses of its
corners. -/
theorem parse_addresses :
    (∀ text, ((∃ p, parse text = .ok p) ↔ ∃ letters digits, Spelling text letters digits) ∧
      ((¬ ∃ letters digits, Spelling text letters digits) →
        parse text = .error (.invalidCellAddress text)) ∧
      checked text = some (parse text)) ∧
    (∀ text letters digits, Spelling text letters digits → ∃ p, parse text = .ok p ∧
      p.row + 1 = Nat.ofDigits 10 (digits.map digitValue).reverse ∧
      p.column + 1 = Nat.ofDigits 26 (letterDigits letters) ∧
      ∀ d ∈ letterDigits letters, 1 ≤ d ∧ d ≤ 26) ∧
    (∀ p, p.Addresses p.address ∧ ∀ text, p.Addresses text →
      (parse text = .ok p ↔ p.row < 9999999 ∧ p.column < 18278)) ∧
    (∀ text text' letters letters' digits digits' p p', Spelling text letters digits →
      Spelling text' letters' digits' → parse text = .ok p → parse text' = .ok p' →
      (p.column = p'.column ↔ letters.map Char.toUpper = letters'.map Char.toUpper)) ∧
    ∀ (g : Grid) used first last, g.bounds? = some used → used.last.HasAddress →
      (∀ text ∈ first, used.first.Addresses text) → (∀ text ∈ last, used.last.Addresses text) →
      used.override first last = .ok used ∧ g.selectRecords first last = .ok (g.records used) := by
  refine ⟨fun text => ⟨?_, ?_, checked_eq text⟩, fun text letters digits h => ?_,
    fun p => ⟨addresses_address p, fun _ => parse_eq_ok_iff_hasAddress⟩, ?_, ?_⟩
  · constructor
    · rintro ⟨p, hp⟩
      obtain ⟨letters, digits, hspelling, -⟩ := parse_iff_spelling.1 hp
      exact ⟨letters, digits, hspelling⟩
    · rintro ⟨letters, digits, hspelling⟩
      exact ⟨_, hspelling.parse_eq⟩
  · intro hnone
    cases hparse : ofText? text with
    | none => rw [parse, hparse]
    | some p =>
      obtain ⟨letters, digits, hspelling, -⟩ := parse_iff_spelling.1 (parse_iff_ofText?.2 hparse)
      exact absurd ⟨letters, digits, hspelling⟩ hnone
  · refine ⟨_, h.parse_eq, ?_, ?_, fun d hd => ?_⟩
    · rw [← digitsValue_eq_ofDigits]
      exact Nat.sub_add_cancel h.digitsValue_pos
    · rw [← columnNumber_eq_ofDigits h.isLetter]
      exact Nat.sub_add_cancel h.columnNumber_pos
    · exact mem_letterDigits h.isLetter hd
  · rintro text text' letters letters' digits digits' p p' h h' hp hp'
    obtain rfl := Except.ok.inj (h.parse_eq.symm.trans hp)
    obtain rfl := Except.ok.inj (h'.parse_eq.symm.trans hp')
    exact columnNumber_eq_iff h.toParts h'.toParts
  · intro g used first last hused hlast hfirst' hlast'
    have hcorner : used.first.HasAddress := by
      obtain ⟨rfl, hlength, hwidth⟩ := Grid.bounds?_eq_some hused
      obtain ⟨hrow, hcolumn⟩ := hlast
      dsimp only at hrow hcolumn
      exact ⟨by dsimp only; omega, by dsimp only; omega⟩
    have hoverride : used.override first last = .ok used :=
      Region.override_self (fun text htext => ⟨hcorner, hfirst' text htext⟩)
        fun text htext => ⟨hlast, hlast' text htext⟩
    refine ⟨hoverride, ?_⟩
    rw [Grid.selectRecords, hused]
    simp only [hoverride]
    rfl

/-- A grid from `Z9` to `AA10`. -/
def gridAtZ9 : Grid := ⟨⟨8, 25⟩, [[.string "a", .string "b"], [.null, .bool true]]⟩

theorem parse_addresses_gridAtZ9 :
    Spelling "\t$aA$010 " ['a', 'A'] ['0', '1', '0'] ∧ Spelling "aa7" ['a', 'a'] ['7'] ∧
    (∃ p, parse "\t$aA$010 " = .ok p ∧ p.row + 1 = Nat.ofDigits 10 [0, 1, 0] ∧
      p.column + 1 = Nat.ofDigits 26 [1, 1] ∧ ∀ d ∈ [1, 1], 1 ≤ d ∧ d ≤ 26) ∧
    parse "\t$aA$010 " = .ok ⟨9, 26⟩ ∧ parse "aa7" = .ok ⟨6, 26⟩ ∧
    ((⟨9, 26⟩ : Position).column = (⟨6, 26⟩ : Position).column ↔
      ['a', 'A'].map Char.toUpper = ['a', 'a'].map Char.toUpper) ∧
    (¬ ∃ letters digits, Spelling "AA00" letters digits) ∧
    parse "AA00" = .error (.invalidCellAddress "AA00") ∧
    gridAtZ9.bounds? = some ⟨⟨8, 25⟩, ⟨9, 26⟩⟩ ∧ HasAddress ⟨9, 26⟩ ∧
    Addresses ⟨8, 25⟩ "$z9" ∧ Addresses ⟨9, 26⟩ " Aa$10\n" ∧
    parse " Aa$10\n" = .ok ⟨9, 26⟩ ∧
    Region.override ⟨⟨8, 25⟩, ⟨9, 26⟩⟩ (some "$z9") (some " Aa$10\n") =
      .ok ⟨⟨8, 25⟩, ⟨9, 26⟩⟩ ∧
    gridAtZ9.selectRecords (some "$z9") (some " Aa$10\n") =
      .ok (gridAtZ9.records ⟨⟨8, 25⟩, ⟨9, 26⟩⟩) := by
  obtain ⟨hread, hnumbers, haddress, hcolumns, hcorners⟩ := parse_addresses
  have hspelling : Spelling "\t$aA$010 " ['a', 'A'] ['0', '1', '0'] := by
    refine ⟨⟨by decide, by decide, List.all_eq_true.1 rfl, by decide, by decide,
      List.all_eq_true.1 rfl, '1', by decide, by decide⟩, true, true, ?_⟩
    have htrim : Text.trim "\t$aA$010 ".toList =
        dollar true ++ (['a', 'A'] ++ (dollar true ++ ['0', '1', '0'])) := by decide +kernel
    exact htrim ▸ Text.trims_trim _
  have hspelling' : Spelling "aa7" ['a', 'a'] ['7'] := by
    refine ⟨⟨by decide, by decide, List.all_eq_true.1 rfl, by decide, by decide,
      List.all_eq_true.1 rfl, '7', by decide, by decide⟩, false, false, ?_⟩
    have htrim : Text.trim "aa7".toList =
        dollar false ++ (['a', 'a'] ++ (dollar false ++ ['7'])) := by decide +kernel
    exact htrim ▸ Text.trims_trim _
  have hparse : parse "\t$aA$010 " = .ok ⟨9, 26⟩ := by decide +kernel
  have hparse' : parse "aa7" = .ok ⟨6, 26⟩ := by decide +kernel
  have hzeros : ¬ ∃ letters digits, Spelling "AA00" letters digits := by
    rw [← (hread "AA00").1]
    rintro ⟨p, hp⟩
    have herror : parse "AA00" = .error (.invalidCellAddress "AA00") := by decide +kernel
    cases herror.symm.trans hp
  have hbounds : gridAtZ9.bounds? = some ⟨⟨8, 25⟩, ⟨9, 26⟩⟩ := by decide
  have hfirst : Addresses ⟨8, 25⟩ "$z9" :=
    ⟨[], [], ['z'], true, false, nofun, by decide +kernel, by decide +kernel⟩
  have hlast : Addresses ⟨9, 26⟩ " Aa$10\n" :=
    ⟨[' '], ['\n'], ['A', 'a'], false, true, List.all_eq_true.1 rfl, by decide +kernel,
      by decide +kernel⟩
  have hsame := hcorners gridAtZ9 _ (some "$z9") (some " Aa$10\n") hbounds (by decide)
    (fun _ h => Option.some.inj h ▸ hfirst) fun _ h => Option.some.inj h ▸ hlast
  refine ⟨hspelling, hspelling', hnumbers _ _ _ hspelling, hparse, hparse',
    hcolumns _ _ _ _ _ _ _ _ hspelling hspelling' hparse hparse', hzeros,
    (hread "AA00").2.1 hzeros, hbounds, by decide, hfirst, hlast,
    ((haddress ⟨9, 26⟩).2 _ hlast).2 (by decide), hsame.1, hsame.2⟩

end Position

end Reshape
