import Reshape.Proofs.Canonical
import Reshape.Proofs.Groups

/-!
# Labels and equality

Keys are told apart by their labels and not by their values. The label of a number is the text of
its binary64 number, which reads back as that number; so two numbers have one label exactly if they
have one binary64 number. Such numbers are equal unless they clash.

* `Grouping.label_eq_iff`: keys of one label.
* `Grouping.place`, `Grouping.group_place`: the place of a key's group among the groups.
* `Grouping.run_places`: the operator puts keys into one group if they are equal or clash.
-/

namespace Reshape

namespace Number

/-- The texts of two binary64 numbers tell whether these are equal. -/
theorem text_ofBinary64_eq_iff {x y : Binary64} :
    (ofBinary64 x).text = (ofBinary64 y).text ↔ x.eqv y = true := by
  constructor
  · intro h
    have hx := beq_iff_eq.1 (toBinary64_ofBinary64 x)
    have hy := beq_iff_eq.1 (toBinary64_ofBinary64 y)
    rw [toBinary64_of_text_eq h] at hx
    exact beq_iff_eq.2 (hx.symm.trans hy)
  · intro h
    rw [ofBinary64_of_eqv h]

end Number

/-! ## Texts that are no numerals -/

theorem Decimal.ofChars?_quote (cs : List Char) : ofChars? ('"' :: cs) = none := rfl

theorem Json.quote_injective {s t : String} (h : quote s = quote t) : s = t := by
  have hs := quote_append s []
  have ht := quote_append t []
  rw [h, ht, List.cons.injEq] at hs
  have hscan := congrArg scanString hs.2
  rw [scanString_quote, scanString_quote] at hscan
  simpa using hscan.symm

/-- Neither an array nor an object. -/
def Value.isScalar : Value → Bool
  | .array _ | .object _ => false
  | _ => true

namespace Grouping

/-! ## Labels -/

variable {v w : Value} {a b : Number}

theorem label_number_eq_iff :
    label (.number a) = label (.number b) ↔ a.toBinary64.eqv b.toBinary64 = true :=
  Number.text_ofBinary64_eq_iff

/-- The text of a value that is no number is no numeral. -/
theorem label_ne_number (hv : v.isScalar = true) (hnumber : ∀ n, v ≠ .number n) (a : Number) :
    label v ≠ label (.number a) := by
  have hnone : Decimal.ofChars? (label v).toList = none := by
    cases v with
    | null => decide
    | bool b => cases b <;> decide
    | number n => exact absurd rfl (hnumber n)
    | string s =>
      have htext : (label (.string s)).toList = Json.quote s := String.toList_ofList
      rw [htext]
      exact Decimal.ofChars?_quote _
    | array items => cases hv
    | object fields => cases hv
  intro h
  obtain ⟨d, hd, -⟩ := (Number.ofBinary64 a.toBinary64).nearest?_text
  rw [h] at hnone
  cases hnone.symm.trans hd

/-- Values that are no numbers have labels of their own. -/
theorem eq_of_label_eq (hv : v.isScalar = true) (hw : w.isScalar = true)
    (hv' : ∀ n, v ≠ .number n) (hw' : ∀ n, w ≠ .number n) (h : label v = label w) : v = w := by
  have hchars {x : Value} (hx : ∀ n, x ≠ .number n) : (label x).toList = Json.compact x := by
    cases x with
    | number n => exact absurd rfl (hx n)
    | _ => exact String.toList_ofList
  have hcompact : Json.compact v = Json.compact w := by
    rw [← hchars hv', h, hchars hw']
  cases v with
  | null =>
    cases w with
    | null => rfl
    | bool b => cases b <;> simp [Json.compact] at hcompact
    | string s => simp [Json.compact, Json.quote] at hcompact
    | number n => exact absurd rfl (hw' n)
    | array items => cases hw
    | object fields => cases hw
  | bool a =>
    cases w with
    | null => cases a <;> simp [Json.compact] at hcompact
    | bool b => cases a <;> cases b <;> simp [Json.compact] at hcompact ⊢
    | string s => cases a <;> simp [Json.compact, Json.quote] at hcompact
    | number n => exact absurd rfl (hw' n)
    | array items => cases hw
    | object fields => cases hw
  | string s =>
    cases w with
    | null => simp [Json.compact, Json.quote] at hcompact
    | bool b => cases b <;> simp [Json.compact, Json.quote] at hcompact
    | string t => exact congrArg Value.string (Json.quote_injective hcompact)
    | number n => exact absurd rfl (hw' n)
    | array items => cases hw
    | object fields => cases hw
  | number n => exact absurd rfl (hv' n)
  | array items => cases hv
  | object fields => cases hv

/-- Numbers are equal or clash with numbers only. -/
theorem exists_number_of_strictEq_or_clash
    (h : (Value.number a).strictEq w = true ∨ (Value.number a).Clash w) : ∃ b, w = .number b := by
  rcases h with h | h
  · cases w with
    | number b => exact ⟨b, rfl⟩
    | _ => cases h
  · cases h
    exact ⟨_, rfl⟩

/-- Values that are no numbers are equal to themselves only. -/
theorem strictEq_or_clash_iff (hv : v.isScalar = true) (hv' : ∀ n, v ≠ .number n) :
    v.strictEq w = true ∨ v.Clash w ↔ v = w := by
  constructor
  · rintro (h | h)
    · cases v with
      | null => cases w <;> first | rfl | cases h
      | bool a =>
        cases w with
        | bool b => exact congrArg Value.bool (beq_iff_eq.1 h)
        | _ => cases h
      | number n => exact absurd rfl (hv' n)
      | string s =>
        cases w with
        | string t => exact congrArg Value.string (beq_iff_eq.1 h)
        | _ => cases h
      | array items => cases hv
      | object fields => cases hv
    · cases h with
      | number h => exact absurd rfl (hv' _)
      | item => cases hv
  · rintro rfl
    refine .inl (Value.strictEq_refl v ?_)
    cases v with
    | array items => cases hv
    | object fields => cases hv
    | _ => exact nofun

/-- **Keys have one label if they are equal or clash.** -/
theorem label_eq_iff (hv : v.isScalar = true) (hw : w.isScalar = true) :
    label v = label w ↔ v.strictEq w = true ∨ v.Clash w := by
  by_cases hv' : ∀ n, v ≠ .number n
  · rw [strictEq_or_clash_iff hv hv']
    by_cases hw' : ∀ n, w ≠ .number n
    · exact ⟨eq_of_label_eq hv hw hv' hw', congrArg label⟩
    · obtain ⟨b, rfl⟩ := not_forall_not.1 hw'
      exact iff_of_false (label_ne_number hv hv' b) (hv' b)
  · obtain ⟨a, rfl⟩ := not_forall_not.1 hv'
    by_cases hw' : ∀ n, w ≠ .number n
    · refine iff_of_false (label_ne_number hw hw' a).symm fun h => ?_
      obtain ⟨b, rfl⟩ := exists_number_of_strictEq_or_clash h
      exact hw' b rfl
    · obtain ⟨b, rfl⟩ := not_forall_not.1 hw'
      rw [label_number_eq_iff, Number.toBinary64_eqv_iff]
      refine or_congr_right ⟨.number, ?_⟩
      rintro ⟨h⟩
      exact h

/-! ## Places -/

variable {pairs : List (Value × Value)}

/-- The place of a key's group among the groups. -/
def place (pairs : List (Value × Value)) (key : Value) : Nat := (labels pairs).idxOf (label key)

theorem place_eq_iff_label {p : Value × Value} (hp : p ∈ pairs) :
    place pairs p.1 = place pairs w ↔ label p.1 = label w :=
  List.idxOf_inj (mem_labels.2 ⟨p, hp, rfl⟩)

/-- At the place of a key the values of all keys of that place are found. -/
theorem group_place (aggregated aggregation : String) (c : Collection) {p : Value × Value}
    (hp : p ∈ contributions aggregated aggregation c) :
    let pairs := contributions aggregated aggregation c
    ∃ v, (group aggregated aggregation c)[place pairs p.1]? = some v ∧
      v.field? aggregated =
        some (.array ((pairs.filter fun q => place pairs q.1 = place pairs p.1).map (·.2))) := by
  intro pairs
  have hmem : label p.1 ∈ labels pairs := mem_labels.2 ⟨p, hp, rfl⟩
  have hlabel : (labels pairs)[place pairs p.1]? = some (label p.1) := List.getElem?_idxOf hmem
  refine ⟨(gathered pairs (label p.1)).toValue aggregated aggregation, ?_, ?_⟩
  · rw [group, groups_eq, List.getElem?_map, List.getElem?_map, hlabel]
    rfl
  · have hsame : labelled (label p.1) pairs =
        pairs.filter fun q => place pairs q.1 = place pairs p.1 := by
      refine List.filter_congr fun q hq => ?_
      rw [decide_eq_decide, place_eq_iff_label hq]
    rw [← hsame]
    exact (Record.get?_insert ..).trans (if_pos rfl)

/-- **Keys share a group if and only if they are equal or clash**, and only different whole numbers
from `2 ^ 53` on clash. -/
theorem run_places : ∀ (setting : Setting) (job : String) (raw : Value) (target : Option String)
    (aggregated aggregation : String) (s : Session) (c : Collection),
    Asks raw target aggregated aggregation → s.store.get? job = some c →
    let pairs := contributions aggregated aggregation c
    ∃ d log, Operator.aggregate.run setting job raw s =
        (.ok (), ⟨s.store.insert (target.getD job) d, s.files, log⟩) ∧
      (∀ p ∈ pairs, ∃ v, d[place pairs p.1]? = some v ∧ v.field? aggregated =
        some (.array ((pairs.filter fun q => place pairs q.1 = place pairs p.1).map (·.2)))) ∧
      ∀ p ∈ pairs, ∀ q ∈ pairs, p.1.isScalar = true → q.1.isScalar = true →
        (place pairs p.1 = place pairs q.1 ↔ p.1.strictEq q.1 = true ∨ p.1.Clash q.1) ∧
        (p.1.Clash q.1 → p.1.strictEq q.1 = false ∧ ∃ m hm n hn,
          p.1 = .number (.int m hm) ∧ q.1 = .number (.int n hn) ∧ m ≠ n ∧
          2 ^ 53 ≤ m.natAbs ∧ 2 ^ 53 ≤ n.natAbs) := by
  intro setting job raw target aggregated aggregation s c hasks hc pairs
  obtain ⟨log, hrun⟩ := run_of_asks hasks hc setting
  refine ⟨_, log, hrun, fun p hp => group_place aggregated aggregation c hp,
    fun p hp q _ hp' hq' => ⟨?_, fun hclash => ⟨hclash.strictEq_eq_false, ?_⟩⟩⟩
  · exact (place_eq_iff_label hp).trans (label_eq_iff hp' hq')
  · obtain ⟨k, x⟩ := p
    obtain ⟨l, y⟩ := q
    cases hclash with
    | number h =>
      obtain ⟨m, hm, n, hn, rfl, rfl, hmn⟩ := h.exists_int
      exact ⟨m, hm, n, hn, rfl, rfl, hmn⟩
    | item => cases hp'

/-- A whole number, the same one written otherwise, and its digit as a string. -/
def ones : Collection :=
  let one : Number := .int 1 Merge.isWord_one
  [.object [("k", .number one), ("v", .string "x")],
    .object [("k", .number (.float one.toBinary64)), ("v", .string "y")],
    .object [("k", .string "1"), ("v", .string "z")]]

/-- The number shares its group with itself written otherwise and not with the string. -/
theorem run_places_ones :
    let one : Number := .int 1 Merge.isWord_one
    let raw : Value := .object [("aggregatedField", .string "v"), ("aggregationField", .string "k")]
    let store : Store := Catalog.empty.insert "a" ones
    let place := place (contributions "v" "k" ones)
    Asks raw none "v" "k" ∧ place (.number one) = place (.number (.float one.toBinary64)) ∧
      place (.number one) ≠ place (.string "1") ∧
      ∃ d log, Operator.aggregate.run ⟨none, .empty⟩ "a" raw ⟨store, default, []⟩ =
          (.ok (), ⟨store.insert "a" d, default, log⟩) ∧
        ∃ v, d[place (.number one)]? = some v ∧
          v.field? "v" = some (.array [.string "x", .string "y"]) := by
  intro one raw store place
  have hasks : Asks raw none "v" "k" := ⟨_, rfl, rfl, rfl, rfl⟩
  obtain ⟨d, log, hrun, hplaces, hshare⟩ := run_places ⟨none, .empty⟩ "a" raw none "v" "k"
    ⟨store, default, []⟩ ones hasks rfl
  have hpairs : contributions "v" "k" ones = [(.number one, .string "x"),
      (.number (.float one.toBinary64), .string "y"), (.string "1", .string "z")] := rfl
  have hone : (.number one, .string "x") ∈ contributions "v" "k" ones := by simp [hpairs]
  have hfloat : (.number (.float one.toBinary64), .string "y") ∈ contributions "v" "k" ones := by
    simp [hpairs]
  have hstring : (.string "1", .string "z") ∈ contributions "v" "k" ones := by simp [hpairs]
  have hsame : place (.number one) = place (.number (.float one.toBinary64)) :=
    (hshare _ hone _ hfloat rfl rfl).1.2 (.inl (by decide +kernel))
  have hother : place (.number one) ≠ place (.string "1") := by
    intro h
    rcases (hshare _ hone _ hstring rfl rfl).1.1 h with h | h <;> cases h
  obtain ⟨v, hv, hvalues⟩ := hplaces _ hone
  have hshared : ((contributions "v" "k" ones).filter fun q =>
      place q.1 = place (.number one)).map (·.2) = [.string "x", .string "y"] := by
    decide +kernel
  exact ⟨hasks, hsame, hother, d, log, hrun, v, hv, hvalues.trans (by rw [← hshared])⟩

/-- Two whole numbers that differ and share a binary64 number. -/
def neighbours : Collection :=
  [.object [("k", .number (.int 9007199254740992 (by decide))), ("v", .string "x")],
    .object [("k", .number (.int 9007199254740993 (by decide))), ("v", .string "y")]]

/-- The two numbers differ, and there is one group for both. -/
theorem neighbours_share_group :
    let m : Number := .int 9007199254740992 (by decide)
    let n : Number := .int 9007199254740993 (by decide)
    let raw : Value := .object [("aggregatedField", .string "v"), ("aggregationField", .string "k")]
    let store : Store := Catalog.empty.insert "a" neighbours
    (Value.number m).strictEq (.number n) = false ∧
      ∃ log, Operator.aggregate.run ⟨none, .empty⟩ "a" raw ⟨store, default, []⟩ =
        (.ok (), ⟨store.insert "a" [.object
          [("k", .number m), ("v", .array [.string "x", .string "y"])]], default, log⟩) := by
  intro m n raw store
  have hasks : Asks raw none "v" "k" := ⟨_, rfl, rfl, rfl, rfl⟩
  have hlabel : label (.number n) = label (.number m) := label_number_eq_iff.2 (by decide +kernel)
  have hpairs : contributions "v" "k" neighbours =
      [(.number m, .string "x"), (.number n, .string "y")] := rfl
  have hgroup : group "v" "k" neighbours =
      [.object [("k", .number m), ("v", .array [.string "x", .string "y"])]] := by
    rw [group, hpairs, groups, List.foldl_cons, List.foldl_cons, hlabel, add, add, if_pos rfl]
    rfl
  refine ⟨by decide +kernel, ?_⟩
  rw [← hgroup]
  exact run_of_asks hasks rfl ⟨none, .empty⟩

end Grouping

end Reshape
