import Mathlib.Algebra.Ring.Nat
import Reshape.Proofs.ColumnNames

/-!
# Coordinates of 32 bits

Rows and columns are numbers of 32 bits where they are stored. Here every sum, product and
difference of coordinates is one that fails if its result is not such a number. None of them does:
the functions that calculate in this way give what those that calculate with all whole numbers give.

* `Coordinate.ofNat?`, `add?`, `mul?`, `sub?`, `next`: the arithmetic.
* `Position.checked`: an address is read within 32 bits, whatever its text
  (`Position.checked_eq`).
* `Grid.Fits`: the size of a grid added to its origin is a position of 32 bits.
* `Grid.checkedBounds_eq`, `Grid.checkedRecords_eq`: the region in use and the records of any region
  of such a grid.
-/

namespace Reshape

/-! ## Arithmetic -/

namespace Coordinate

/-- The number, if it is one of 32 bits. -/
def ofNat? (n : Nat) : Option Nat := if n < 2 ^ 32 then some n else none

def add? (m n : Nat) : Option Nat := ofNat? (m + n)

def mul? (m n : Nat) : Option Nat := ofNat? (m * n)

def sub? (m n : Nat) : Option Nat := if n ≤ m then some (m - n) else none

/-- The number after `n`; the last one of 32 bits stays. -/
def next (n : Nat) : Nat := min (n + 1) (2 ^ 32 - 1)

variable {m n : Nat}

theorem ofNat?_of_lt (h : n < 2 ^ 32) : ofNat? n = some n := if_pos h

theorem add?_of_lt (h : m + n < 2 ^ 32) : add? m n = some (m + n) := if_pos h

theorem mul?_of_lt (h : m * n < 2 ^ 32) : mul? m n = some (m * n) := if_pos h

theorem sub?_of_le (h : n ≤ m) : sub? m n = some (m - n) := if_pos h

theorem next_of_lt (h : n + 1 < 2 ^ 32) : next n = n + 1 := by
  rw [next]
  omega

end Coordinate

open Coordinate

/-! ## Addresses -/

namespace Position

/-- The code of a letter as a capital. -/
def capitalCode (c : Char) : Nat := if 'a' ≤ c then c.toNat - 32 else c.toNat

/-- The place of a letter in the alphabet, counted from the code of `A`. -/
def checkedLetter (c : Char) : Option Nat := do
  add? (← sub? (capitalCode c) 65) 1

/-- The number of letters that are followed by one more. -/
def checkedAppend (n : Nat) (c : Char) : Option Nat := do
  add? (← mul? n 26) (← checkedLetter c)

/-- Letters read as a number without a zero. -/
def checkedColumn (letters : List Char) : Option Nat := letters.foldlM checkedAppend 0

/-- The position of an address without blanks; `none` if a step fails, and no position if the
characters are no address. -/
def checkedOfChars (cs : List Char) : Option (Option Position) :=
  let cs := skipDollar cs
  let letters := cs.takeWhile isLetter
  let digits := skipDollar (cs.dropWhile isLetter)
  if 1 ≤ letters.length ∧ letters.length ≤ 3 ∧ 1 ≤ digits.length ∧ digits.length ≤ 7 ∧
      digits.all isDigit then do
    let column ← checkedColumn letters
    let row ← ofNat? (digitsValue digits)
    if row = 0 then some none
    else do
      let row ← sub? row 1
      let column ← sub? column 1
      some (some ⟨row, column⟩)
  else some none

/-- The position of an address, which has to be one. -/
def checked (text : String) : Option (Except TableError Position) := do
  match ← checkedOfChars (Text.trim text.toList) with
  | some p => some (.ok p)
  | none => some (.error (.invalidCellAddress text))

theorem isLetter_iff {c : Char} : isLetter c = true ↔
    (97 ≤ c.toNat ∧ c.toNat ≤ 122) ∨ (65 ≤ c.toNat ∧ c.toNat ≤ 90) := by
  simp only [isLetter, Bool.or_eq_true, Bool.and_eq_true, decide_eq_true_eq, Char.le_def,
    UInt32.le_iff_toNat_le]
  rfl

/-- The place of a letter is from 1 to 26, and the codes that it is counted from are not greater. -/
theorem checkedLetter_eq {c : Char} (h : isLetter c = true) :
    checkedLetter c = some (letterValue c) ∧ 1 ≤ letterValue c ∧ letterValue c ≤ 26 := by
  rw [isLetter_iff] at h
  have hsmall : 'a' ≤ c ↔ 97 ≤ c.toNat := by
    rw [Char.le_def, UInt32.le_iff_toNat_le]
    rfl
  rw [checkedLetter, capitalCode, letterValue]
  simp only [hsmall]
  split
  · rw [sub?_of_le (by omega), Option.bind_eq_bind, Option.bind_some, add?_of_lt (by omega)]
    refine ⟨congrArg some ?_, ?_, ?_⟩ <;> omega
  · rw [sub?_of_le (by omega), Option.bind_eq_bind, Option.bind_some, add?_of_lt (by omega)]
    refine ⟨congrArg some ?_, ?_, ?_⟩ <;> omega

theorem checkedAppend_eq {c : Char} (h : isLetter c = true) {n : Nat}
    (hn : n * 26 + letterValue c < 2 ^ 32) :
    checkedAppend n c = some (n * 26 + letterValue c) := by
  rw [checkedAppend, mul?_of_lt (by omega), (checkedLetter_eq h).1]
  exact add?_of_lt hn

/-- Each further letter makes a number at most 27 times as large, and not smaller. -/
theorem foldlM_checkedAppend {letters : List Char} (h : ∀ c ∈ letters, isLetter c = true) {n : Nat}
    (hn : (n + 1) * 27 ^ letters.length ≤ 2 ^ 32) :
    letters.foldlM checkedAppend n =
        some (letters.foldl (fun n c => n * 26 + letterValue c) n) ∧
      letters.foldl (fun n c => n * 26 + letterValue c) n < (n + 1) * 27 ^ letters.length ∧
      n ≤ letters.foldl (fun n c => n * 26 + letterValue c) n := by
  induction letters generalizing n with
  | nil => simp
  | cons c letters ih =>
    obtain ⟨hc, hletters⟩ := List.forall_mem_cons.1 h
    obtain ⟨-, -, hle⟩ := checkedLetter_eq hc
    have hstep : (n * 26 + letterValue c + 1) * 27 ^ letters.length ≤
        (n + 1) * 27 ^ (c :: letters).length := by
      rw [List.length_cons, Nat.pow_succ', ← Nat.mul_assoc]
      exact Nat.mul_le_mul_right _ (by omega)
    have hpos : 0 < 27 ^ letters.length := Nat.pow_pos (by decide)
    have hfits : n * 26 + letterValue c + 1 ≤ 2 ^ 32 :=
      (Nat.le_mul_of_pos_right _ hpos).trans (hstep.trans hn)
    obtain ⟨hfold, hlt, hge⟩ := ih hletters (hstep.trans hn)
    rw [List.foldlM_cons, List.foldl_cons, checkedAppend_eq hc hfits]
    exact ⟨hfold, hlt.trans_le hstep, by omega⟩

/-- Up to three letters are a column number of 32 bits, which is not zero. -/
theorem checkedColumn_eq {letters : List Char} (h : ∀ c ∈ letters, isLetter c = true)
    (hpos : 1 ≤ letters.length) (hle : letters.length ≤ 3) :
    checkedColumn letters = some (columnNumber letters) ∧ 1 ≤ columnNumber letters ∧
      columnNumber letters < 27 ^ 3 := by
  have hpower : 27 ^ letters.length ≤ 27 ^ 3 := Nat.pow_le_pow_right (by decide) hle
  obtain ⟨hfold, hlt, -⟩ := foldlM_checkedAppend h (n := 0) (by omega)
  refine ⟨hfold, ?_, ?_⟩
  · cases letters with
    | nil => simp at hpos
    | cons c letters =>
      obtain ⟨hc, hletters⟩ := List.forall_mem_cons.1 h
      obtain ⟨-, hone, h26⟩ := checkedLetter_eq hc
      have hpower : 27 ^ letters.length ≤ 27 ^ 2 :=
        Nat.pow_le_pow_right (by decide) (Nat.le_of_succ_le_succ hle)
      have hsmall : (0 * 26 + letterValue c + 1) * 27 ^ letters.length ≤ 2 ^ 32 :=
        (Nat.mul_le_mul (show 0 * 26 + letterValue c + 1 ≤ 27 by omega) hpower).trans (by decide)
      obtain ⟨-, -, hge⟩ := foldlM_checkedAppend hletters hsmall
      rw [columnNumber, List.foldl_cons]
      omega
  · rw [columnNumber]
    omega

/-- Up to seven digits are a number of 32 bits. -/
theorem digitsValue_lt {ds : List Char} (h : ∀ d ∈ ds, isDigit d = true) :
    digitsValue ds < 10 ^ ds.length := by
  have key (n : Nat) :
      ds.foldl (fun n d => 10 * n + digitValue d) n < (n + 1) * 10 ^ ds.length := by
    induction ds generalizing n with
    | nil => simp
    | cons d ds ih =>
      obtain ⟨hd, hds⟩ := List.forall_mem_cons.1 h
      have hvalue : digitValue d ≤ 9 := by
        rw [isDigit_iff] at hd
        rw [digitValue]
        omega
      rw [List.foldl_cons, List.length_cons, Nat.pow_succ', ← Nat.mul_assoc]
      exact (ih hds _).trans_le (Nat.mul_le_mul_right _ (by omega))
  simpa [digitsValue] using key 0

/-- The characters of an address are read within 32 bits. -/
theorem checkedOfChars_eq (cs : List Char) : checkedOfChars cs = some (ofChars? cs) := by
  rw [checkedOfChars, ofChars?]
  generalize skipDollar cs = cs
  generalize skipDollar (cs.dropWhile isLetter) = digits
  by_cases h : 1 ≤ (cs.takeWhile isLetter).length ∧ (cs.takeWhile isLetter).length ≤ 3 ∧
      1 ≤ digits.length ∧ digits.length ≤ 7 ∧ digits.all isDigit
  · obtain ⟨hpos, hle, hdigits, hseven, hall⟩ := h
    have hletters : ∀ c ∈ cs.takeWhile isLetter, isLetter c = true :=
      fun c hc => List.mem_takeWhile_imp hc
    obtain ⟨hcolumn, hone, hlt⟩ := checkedColumn_eq hletters hpos hle
    have hrow := digitsValue_lt (List.all_eq_true.1 hall)
    have hpower : 10 ^ digits.length ≤ 10 ^ 7 := Nat.pow_le_pow_right (by decide) hseven
    rw [if_pos ⟨hpos, hle, hdigits, hseven, hall⟩, hcolumn, ofNat?_of_lt (by omega)]
    simp only [Option.bind_eq_bind, Option.bind_some]
    by_cases hzero : digitsValue digits = 0
    · rw [if_pos hzero, if_neg fun hall => hall.2.2.2.2.2 hzero]
    · rw [if_neg hzero, if_pos ⟨hpos, hle, hdigits, hseven, hall, hzero⟩,
        sub?_of_le (Nat.one_le_iff_ne_zero.2 hzero), Option.bind_some, sub?_of_le hone,
        Option.bind_some]
  · rw [if_neg h, if_neg]
    rintro ⟨hpos, hle, hdigits, hseven, hall, -⟩
    exact h ⟨hpos, hle, hdigits, hseven, hall⟩

/-- Addresses are read within 32 bits, whatever the text is. -/
theorem checked_eq (text : String) : checked text = some (parse text) := by
  rw [checked, checkedOfChars_eq, parse, ofText?]
  cases ofChars? (Text.trim text.toList) <;> rfl

end Position

/-! ## Grids -/

namespace Grid

/-- The size of the grid added to its origin is a position of 32 bits. -/
def Fits (g : Grid) : Prop :=
  g.origin.row + g.rows.length < 2 ^ 32 ∧ g.origin.column + g.width < 2 ^ 32

instance (g : Grid) : Decidable g.Fits := inferInstanceAs (Decidable (_ ∧ _))

/-- The region in use, unless there are no cells; `none` if a step fails. -/
def checkedBounds (g : Grid) : Option (Option Region) :=
  if g.rows.isEmpty ∨ g.width = 0 then some none
  else do
    let row ← sub? (← add? g.origin.row (← ofNat? g.rows.length)) 1
    let column ← sub? (← add? g.origin.column (← ofNat? g.width)) 1
    some (some ⟨g.origin, row, column⟩)

/-- The record of a row under the names of columns, which are counted from the first one. -/
def checkedRow (g : Grid) (names : List String) (first row : Nat) : Option Record := do
  let columns ← (List.range names.length).mapM fun offset => do add? first (← ofNat? offset)
  some (rowRecord names (g.cells columns row))

/-- The records of a region; `none` if a step fails. -/
def checkedRecords (g : Grid) (region : Region) : Option (List Value) := do
  match ← g.checkedBounds with
  | none => some []
  | some used =>
    let r := clamp used region
    if r.last.row < r.first.row ∨ r.last.column < r.first.column then some []
    else do
      let names := g.namesAbove r
      let rows ← (span (next r.first.row) r.last.row).mapM (g.checkedRow names r.first.column)
      some ((rows.filter (!·.isEmpty)).map .object)

variable {g : Grid}

/-- A grid with a region in use has rows, and cells in one of them. -/
theorem bounds?_eq_some {used : Region} (h : g.bounds? = some used) :
    used = ⟨g.origin, g.origin.row + g.rows.length - 1, g.origin.column + g.width - 1⟩ ∧
      1 ≤ g.rows.length ∧ 1 ≤ g.width := by
  rw [bounds?] at h
  split at h
  · cases h
  · rename_i hsome
    rw [not_or, List.isEmpty_iff] at hsome
    exact ⟨(Option.some.inj h).symm, List.length_pos_iff.2 hsome.1,
      Nat.one_le_iff_ne_zero.2 hsome.2⟩

theorem checkedBounds_eq (h : g.Fits) : g.checkedBounds = some g.bounds? := by
  obtain ⟨hrow, hcolumn⟩ := h
  cases hused : g.bounds? with
  | none =>
    rw [bounds?] at hused
    rw [checkedBounds]
    split at hused
    · rename_i hnone
      rw [if_pos hnone]
    · cases hused
  | some used =>
    obtain ⟨rfl, hlength, hwidth⟩ := bounds?_eq_some hused
    have hsome : ¬ (g.rows.isEmpty ∨ g.width = 0) := by
      rw [List.isEmpty_iff_length_eq_zero]
      omega
    rw [checkedBounds, if_neg hsome]
    simp only [Option.bind_eq_bind, ofNat?_of_lt (show g.rows.length < 2 ^ 32 by omega),
      ofNat?_of_lt (show g.width < 2 ^ 32 by omega), Option.bind_some, add?_of_lt hrow,
      add?_of_lt hcolumn]
    rw [sub?_of_le (by omega), Option.bind_some, sub?_of_le (by omega), Option.bind_some]

/-- A row is read within 32 bits if the last column of the region is of 32 bits. -/
theorem checkedRow_eq {r : Region} (h : r.last.column < 2 ^ 32) (row : Nat) :
    g.checkedRow (g.namesAbove r) r.first.column row =
      some (Record.ofList (g.rowFields r row)) := by
  have hlength : (g.namesAbove r).length = r.last.column + 1 - r.first.column := by
    rw [length_namesAbove, Region.columns, span, List.length_range']
  have hcolumns : ((List.range (g.namesAbove r).length).mapM fun offset => do
      add? r.first.column (← ofNat? offset)) = some r.columns := by
    rw [Region.columns, span, ← hlength, List.range'_eq_map_range]
    refine mapM_eq_pure_map fun offset hoffset => ?_
    rw [List.mem_range, hlength] at hoffset
    rw [ofNat?_of_lt (by omega), Option.bind_eq_bind, Option.bind_some]
    exact add?_of_lt (by omega)
  rw [checkedRow, hcolumns, ← rowRecord_eq]
  rfl

/-- The records of a region are read within 32 bits, wherever the region is. -/
theorem checkedRecords_eq (h : g.Fits) (region : Region) :
    g.checkedRecords region = some (g.records region) := by
  rw [checkedRecords, checkedBounds_eq h, Option.bind_eq_bind, Option.bind_some]
  cases hused : g.bounds? with
  | none => rw [records, hused]
  | some used =>
    obtain ⟨hrow, hcolumn⟩ : used.last.row + 1 < 2 ^ 32 ∧ used.last.column + 1 < 2 ^ 32 := by
      obtain ⟨rfl, hlength, hwidth⟩ := bounds?_eq_some hused
      obtain ⟨hrow, hcolumn⟩ := h
      exact ⟨by dsimp only; omega, by dsimp only; omega⟩
    dsimp only
    split
    · rename_i hempty
      rw [records, hused]
      exact congrArg some (if_pos hempty).symm
    · rename_i hsome
      rw [records_eq hused]
      have hlast : (clamp used region).last.row ≤ used.last.row := Nat.min_le_right ..
      have hright : (clamp used region).last.column ≤ used.last.column := Nat.min_le_right ..
      generalize clamp used region = r at *
      have hrows : r.rowsBelow.mapM (g.checkedRow (g.namesAbove r) r.first.column) =
          some (r.rowsBelow.map fun row => Record.ofList (g.rowFields r row)) :=
        mapM_eq_pure_map fun row _ => checkedRow_eq (by omega) row
      rw [next_of_lt (by omega)]
      rw [Region.rowsBelow] at hrows ⊢
      rw [hrows]
      rfl

end Grid

end Reshape
