import Reshape.Json.Literal
import Reshape.Json.Writer
import Reshape.Proofs.Digits

/-!
# Literals that are read as they are written

* `Json.scanNumeral_append`: a numeral is read alike before a text that does not go on with it.
* `Number.ReadsBack`: what a number is written as is read as the number. Whole numbers are read so,
  `Number.readsBack_int`.
* `Json.scanString_quote`: a quoted string is read as the string.
-/

namespace Reshape

namespace Json

/-! ## Numerals -/

/-- A numeral does not go on with the text. -/
def Ends (rest : List Char) : Prop :=
  ∀ c ∈ rest.head?, isDigit c = false ∧ c ∉ ['.', 'e', 'E']

variable {cs ds r rest : List Char}

theorem Ends.append_ne {c : Char} (hr : Ends rest) (hc : c ∈ ['.', 'e', 'E'])
    (h : ∀ s, cs ≠ c :: s) (s : List Char) : cs ++ rest ≠ c :: s := by
  intro hs
  rw [List.append_eq_cons_iff] at hs
  rcases hs with ⟨-, hs⟩ | ⟨s, hs, -⟩
  · exact (hr c (by rw [hs]; rfl)).2 hc
  · exact h s hs

theorem spanDigits_append_of_eq (h : spanDigits cs = (ds, r)) (hr : Ends rest) :
    spanDigits (cs ++ rest) = (ds, r ++ rest) := by
  rw [spanDigits, List.span_eq_takeWhile_dropWhile, Prod.mk.injEq] at h
  obtain ⟨rfl, rfl⟩ := h
  have hds : ∀ d ∈ cs.takeWhile isDigit, isDigit d = true := fun d hd => List.mem_takeWhile_imp hd
  have hend : ∀ c ∈ (cs.dropWhile isDigit ++ rest).head?, isDigit c = false := by
    intro c hc
    rw [List.head?_append, Option.mem_def, Option.or_eq_some_iff] at hc
    rcases hc with hc | ⟨-, hc⟩
    · exact not_of_mem_head?_dropWhile hc
    · exact (hr c hc).1
  have := spanDigits_append hds hend
  rwa [← List.append_assoc, List.takeWhile_append_dropWhile] at this

/-- Whether an exponent starts with a minus, and what comes after its sign. -/
def splitSign (cs : List Char) : Bool × List Char :=
  match cs with
  | '+' :: r => (false, r)
  | '-' :: r => (true, r)
  | r => (false, r)

theorem splitSign_append (h : cs ≠ []) (rest : List Char) :
    splitSign (cs ++ rest) = ((splitSign cs).1, (splitSign cs).2 ++ rest) := by
  cases cs with
  | nil => exact absurd rfl h
  | cons c cs =>
    by_cases hplus : c = '+'
    · subst hplus
      rfl
    by_cases hminus : c = '-'
    · subst hminus
      rfl
    simp [splitSign, hplus, hminus]

theorem scanExponent_eq (cs : List Char) : Decimal.scanExponent cs =
    if (spanDigits (splitSign cs).2).1.isEmpty then none
    else some (if (splitSign cs).1 then -(digitsValue (spanDigits (splitSign cs).2).1 : Int)
      else digitsValue (spanDigits (splitSign cs).2).1, (spanDigits (splitSign cs).2).2) := by
  unfold Decimal.scanExponent
  split
  rename_i hsign
  rw [show splitSign cs = _ from hsign]

theorem scanExponent_append {e : Int} (h : Decimal.scanExponent cs = some (e, r))
    (hr : Ends rest) : Decimal.scanExponent (cs ++ rest) = some (e, r ++ rest) := by
  have hne : cs ≠ [] := by
    rintro rfl
    cases h
  rw [scanExponent_eq] at h ⊢
  rcases hs : spanDigits (splitSign cs).2 with ⟨ds, r'⟩
  rw [hs] at h
  rw [splitSign_append hne, spanDigits_append_of_eq hs hr]
  dsimp only at h ⊢
  split at h <;> cases h
  rename_i hds
  rw [if_neg hds]

/-- The digits after a point, if there is one. -/
def fractionAfter (cs : List Char) : Option (Option (List Char) × List Char) :=
  match cs with
  | '.' :: r =>
    if (spanDigits r).1.isEmpty then none else some (some (spanDigits r).1, (spanDigits r).2)
  | r => some (none, r)

theorem fractionAfter_of_ne (h : ∀ r, cs ≠ '.' :: r) : fractionAfter cs = some (none, cs) := by
  unfold fractionAfter
  split
  · exact absurd rfl (h _)
  · rfl

theorem fractionAfter_append {f : Option (List Char)} (h : fractionAfter cs = some (f, r))
    (hr : Ends rest) : fractionAfter (cs ++ rest) = some (f, r ++ rest) := by
  by_cases hp : ∃ s, cs = '.' :: s
  · obtain ⟨s, rfl⟩ := hp
    rcases hs : spanDigits s with ⟨ds, r'⟩
    rw [List.cons_append, fractionAfter, spanDigits_append_of_eq hs hr]
    rw [fractionAfter, hs] at h
    split at h <;> cases h
    rename_i hds
    rw [if_neg hds]
  · rw [fractionAfter_of_ne (not_exists.1 hp)] at h
    cases h
    exact fractionAfter_of_ne (hr.append_ne (by decide) (not_exists.1 hp))

/-- The exponent, if there is one. -/
def powerAfter (cs : List Char) : Option (Option Int × List Char) :=
  match cs with
  | 'e' :: r | 'E' :: r => (Decimal.scanExponent r).map fun (e, r) => (some e, r)
  | r => some (none, r)

theorem powerAfter_of_ne (he : ∀ r, cs ≠ 'e' :: r) (hE : ∀ r, cs ≠ 'E' :: r) :
    powerAfter cs = some (none, cs) := by
  unfold powerAfter
  split
  · exact absurd rfl (he _)
  · exact absurd rfl (hE _)
  · rfl

theorem powerAfter_append {e : Option Int} (h : powerAfter cs = some (e, r)) (hr : Ends rest) :
    powerAfter (cs ++ rest) = some (e, r ++ rest) := by
  have given {s : List Char}
      (h : (Decimal.scanExponent s).map (fun (e, r) => (some e, r)) = some (e, r)) :
      (Decimal.scanExponent (s ++ rest)).map (fun (e, r) => (some e, r)) = some (e, r ++ rest) := by
    obtain ⟨⟨n, r'⟩, hs, heq⟩ := Option.map_eq_some_iff.1 h
    cases heq
    rw [scanExponent_append hs hr]
    rfl
  by_cases he : ∃ s, cs = 'e' :: s
  · obtain ⟨s, rfl⟩ := he
    exact given h
  by_cases hE : ∃ s, cs = 'E' :: s
  · obtain ⟨s, rfl⟩ := hE
    exact given h
  rw [powerAfter_of_ne (not_exists.1 he) (not_exists.1 hE)] at h
  cases h
  exact powerAfter_of_ne (hr.append_ne (by decide) (not_exists.1 he))
    (hr.append_ne (by decide) (not_exists.1 hE))

/-- Whether a numeral starts with a minus, and what comes after it. -/
def splitMinus (cs : List Char) : Bool × List Char :=
  match cs with
  | '-' :: r => (true, r)
  | r => (false, r)

theorem splitMinus_append (h : cs ≠ []) (rest : List Char) :
    splitMinus (cs ++ rest) = ((splitMinus cs).1, (splitMinus cs).2 ++ rest) := by
  cases cs with
  | nil => exact absurd rfl h
  | cons c cs =>
    by_cases hc : c = '-'
    · subst hc
      rfl
    simp [splitMinus, hc]

/-- A numeral after its sign. -/
def numeralAfter (negative : Bool) (cs : List Char) : Option (Numeral × List Char) :=
  let (whole, cs) := spanDigits cs
  if whole.isEmpty ∨ (whole.head? = some '0' ∧ whole.length ≠ 1) then none
  else (fractionAfter cs).bind fun (fraction, cs) => (powerAfter cs).map fun (exponent, cs) =>
    (⟨negative, whole, fraction, exponent⟩, cs)

/-- A numeral in its parts. -/
theorem scanNumeral_eq (cs : List Char) :
    scanNumeral cs = numeralAfter (splitMinus cs).1 (splitMinus cs).2 := by
  unfold scanNumeral
  split
  rename_i negative cs' hsign
  rw [show splitMinus cs = (negative, cs') from hsign, numeralAfter]
  dsimp only
  by_cases hbad : (spanDigits cs').1.isEmpty ∨
      ((spanDigits cs').1.head? = some '0' ∧ (spanDigits cs').1.length ≠ 1)
  · rw [if_pos hbad, if_pos hbad]
    rfl
  rw [if_neg hbad, if_neg hbad]
  -- What is read after the fraction is the same whether there is one or not.
  have power (f : Option (List Char)) (t : List Char) :
      (match t with
        | 'e' :: r => ((Decimal.scanExponent r).map fun (e, r) => (some e, r)).bind fun p =>
            some ((⟨negative, (spanDigits cs').1, f, p.1⟩ : Numeral), p.2)
        | 'E' :: r => ((Decimal.scanExponent r).map fun (e, r) => (some e, r)).bind fun p =>
            some ((⟨negative, (spanDigits cs').1, f, p.1⟩ : Numeral), p.2)
        | r => some (⟨negative, (spanDigits cs').1, f, none⟩, r)) =
      (powerAfter t).map fun p => (⟨negative, (spanDigits cs').1, f, p.1⟩, p.2) := by
    unfold powerAfter
    split
    · cases Decimal.scanExponent _ <;> rfl
    · cases Decimal.scanExponent _ <;> rfl
    · rfl
  split
  case h_1 s hs =>
    rw [hs, fractionAfter]
    by_cases hds : (spanDigits s).1.isEmpty
    · rw [if_pos hds, if_pos hds]
      rfl
    rw [if_neg hds, if_neg hds]
    exact power (some (spanDigits s).1) (spanDigits s).2
  case h_2 hs =>
    rw [fractionAfter_of_ne hs]
    exact power none (spanDigits cs').2

/-- A numeral is read alike where the text does not go on with it. -/
theorem scanNumeral_append {l : Numeral} (h : scanNumeral cs = some (l, r)) (hr : Ends rest) :
    scanNumeral (cs ++ rest) = some (l, r ++ rest) := by
  have hne : cs ≠ [] := by
    rintro rfl
    cases h
  rw [scanNumeral_eq, numeralAfter] at h
  rw [scanNumeral_eq, numeralAfter, splitMinus_append hne]
  rcases hs : spanDigits (splitMinus cs).2 with ⟨whole, r₁⟩
  rw [hs] at h
  rw [spanDigits_append_of_eq hs hr]
  dsimp only at h ⊢
  split at h
  · cases h
  rename_i hgood
  obtain ⟨⟨f, r₂⟩, hf, h⟩ := Option.bind_eq_some_iff.1 h
  obtain ⟨⟨e, r₃⟩, he, h⟩ := Option.map_eq_some_iff.1 h
  cases h
  rw [if_neg hgood, fractionAfter_append hf hr, Option.bind_some, powerAfter_append he hr]
  rfl

/-- A numeral starts with a minus or a digit. -/
theorem head_of_scanNumeral {l : Numeral} (h : scanNumeral cs = some (l, r)) :
    ∃ c s, cs = c :: s ∧ (c = '-' ∨ isDigit c = true) := by
  cases cs with
  | nil => cases h
  | cons c s =>
    refine ⟨c, s, rfl, ?_⟩
    by_contra hc
    rw [not_or, Bool.not_eq_true] at hc
    rw [scanNumeral_eq, show splitMinus (c :: s) = (false, c :: s) by simp [splitMinus, hc.1],
      numeralAfter, show spanDigits (c :: s) = ([], c :: s) by
        simpa using @spanDigits_append [] (c :: s) nofun (by simpa using hc.2)] at h
    cases h

end Json

/-! ## Numbers -/

/-- What the number is written as is read as the number. -/
def Number.ReadsBack (n : Number) : Prop :=
  ∃ l, Json.scanNumeral n.text.toList = some (l, []) ∧ l.number? = some n

theorem Json.splitMinus_intText (n : Int) : splitMinus (Number.intText n).toList =
    (decide (n < 0), Nat.toDigits 10 n.natAbs) := by
  rw [Number.intText, String.toList_ofList]
  by_cases hn : n < 0
  · rw [if_pos hn, decide_eq_true hn]
    rfl
  · rw [if_neg hn, decide_eq_false hn, List.nil_append]
    unfold splitMinus
    split
    · rename_i hd
      have hminus : '-' ∈ Nat.toDigits 10 n.natAbs := by
        rw [hd]
        exact List.mem_cons_self
      exact absurd (isDigit_of_mem_toDigits hminus) (by decide)
    · rfl

/-- Whole numbers are read as they are written. -/
theorem Number.readsBack_int (n : Int) (h : IsWord n) : (Number.int n h).ReadsBack := by
  refine ⟨⟨decide (n < 0), Nat.toDigits 10 n.natAbs, none, none⟩, ?_, ?_⟩
  · rw [text, Json.scanNumeral_eq, Json.splitMinus_intText, Json.numeralAfter,
      spanDigits_toDigits]
    dsimp only
    rw [if_neg (toDigits_not_bad _)]
    rfl
  · have hsigned : (if decide (n < 0) = true then -(n.natAbs : Int) else n.natAbs) = n := by
      by_cases hn : n < 0
      · rw [if_pos (decide_eq_true hn)]
        omega
      · rw [if_neg (by simpa using hn)]
        omega
    unfold Json.Numeral.number?
    dsimp only
    rw [digitsValue_toDigits, hsigned, if_pos, ofInt?, dif_pos h]
    refine ⟨rfl, rfl, fun hn => ?_, h⟩
    have := of_decide_eq_true hn
    omega

namespace Json

/-! ## Strings -/

theorem scanPieces_short {e c : Char} (he : e ≠ 'u') (h : unescape e = some c) (cs : List Char) :
    scanPieces ('\\' :: e :: cs) = (scanPieces cs).map fun q => (.char c :: q.1, q.2) := by
  rw [scanPieces]
  · rw [h]
    rcases scanPieces cs with _ | ⟨ps, r⟩ <;> rfl
  · rintro a b c d rest hu -
    exact he hu

theorem hexUnit_digitChar : ∀ n < 32,
    hexUnit '0' '0' (Nat.digitChar (n / 16)) (Nat.digitChar (n % 16)) = some n := by
  decide

/-- A character is escaped by a letter or by its number, or stands for itself. -/
theorem escape_cases (c : Char) :
    (∃ e, e ≠ 'u' ∧ unescape e = some c ∧ escape c = ['\\', e]) ∨
      (c.toNat < 0x20 ∧ escape c =
        ['\\', 'u', '0', '0', Nat.digitChar (c.toNat / 16), Nat.digitChar (c.toNat % 16)]) ∨
      c ≠ '"' ∧ c ≠ '\\' ∧ ¬ c.toNat < 0x20 ∧ escape c = [c] := by
  by_cases hshort : c ∈ ['"', '\\', '\x08', '\t', '\n', '\x0c', '\r']
  · left
    simp only [List.mem_cons, List.not_mem_nil, or_false] at hshort
    rcases hshort with rfl | rfl | rfl | rfl | rfl | rfl | rfl <;>
      exact ⟨_, by decide, rfl, rfl⟩
  · simp only [List.mem_cons, List.not_mem_nil, or_false, not_or] at hshort
    obtain ⟨hquote, hslash, hb, ht, hn, hf, hr⟩ := hshort
    right
    rw [escape, if_neg hquote, if_neg hslash, if_neg hb, if_neg ht, if_neg hn, if_neg hf,
      if_neg hr]
    by_cases hc : c.toNat < 0x20
    · exact .inl ⟨hc, if_pos hc⟩
    · exact .inr ⟨hquote, hslash, hc, if_neg hc⟩

/-- An escaped character is one part of a string, which stands for the character. -/
theorem scanPieces_escape (c : Char) (cs : List Char) :
    ∃ p, scanPieces (escape c ++ cs) = (scanPieces cs).map (fun q => (p :: q.1, q.2)) ∧
      ∀ ps, joinPieces (p :: ps) = (joinPieces ps).map (c :: ·) := by
  rcases escape_cases c with ⟨e, hne, he, hc⟩ | ⟨hcontrol, hc⟩ | ⟨hquote, hslash, hcontrol, hc⟩
  · refine ⟨.char c, ?_, fun _ => rfl⟩
    rw [hc]
    exact scanPieces_short hne he cs
  · refine ⟨.unit c.toNat, ?_, fun ps => ?_⟩
    · rw [hc]
      simp only [List.cons_append, List.nil_append]
      rw [scanPieces, hexUnit_digitChar _ hcontrol]
      rcases scanPieces cs with _ | ⟨ps, r⟩ <;> rfl
    · rw [joinPieces.eq_def]
      dsimp only
      rw [if_pos (.inl (by omega)), Char.ofNat_toNat]
  · refine ⟨.char c, ?_, fun _ => rfl⟩
    rw [hc, List.singleton_append, scanPieces]
    · rw [if_neg (by simp [hslash, hcontrol])]
      rcases scanPieces cs with _ | ⟨ps, r⟩ <;> rfl
    · exact hquote
    · rintro a b c d rest hu -
      exact hslash hu
    · rintro e rest hu -
      exact hslash hu

theorem scanPieces_flatMap (cs rest : List Char) :
    ∃ ps, scanPieces (cs.flatMap escape ++ '"' :: rest) = some (ps, rest) ∧
      joinPieces ps = some cs := by
  induction cs with
  | nil => exact ⟨[], by rw [List.flatMap_nil, List.nil_append, scanPieces], rfl⟩
  | cons c cs ih =>
    obtain ⟨ps, hps, hcs⟩ := ih
    obtain ⟨p, hp, hc⟩ := scanPieces_escape c (cs.flatMap escape ++ '"' :: rest)
    refine ⟨p :: ps, ?_, ?_⟩
    · rw [List.flatMap_cons, List.append_assoc, hp, hps]
      rfl
    · rw [hc, hcs]
      rfl

theorem quote_append (s : String) (rest : List Char) :
    quote s ++ rest = '"' :: (s.toList.flatMap escape ++ '"' :: rest) := by
  rw [quote, List.append_assoc]
  rfl

/-- A string between quotes is read as the string. -/
theorem scanString_quote (s : String) (rest : List Char) :
    scanString (s.toList.flatMap escape ++ '"' :: rest) = some (some s, rest) := by
  obtain ⟨ps, hps, hs⟩ := scanPieces_flatMap s.toList rest
  rw [scanString, hps, Option.map_some]
  simp only [hs, Option.map_some, String.ofList_toList]

end Json

end Reshape
