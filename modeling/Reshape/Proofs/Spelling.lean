import Reshape.Expression.Token
import Reshape.Proofs.Digits

/-!
# Spelling of tokens

* `Token.Spells`: the texts of every token. `Token.Prolongs`: the characters with which a token
  would go on, so that a text is split where the longest token ends.
* `Splits`: a text as tokens with blanks anywhere between them.
* `Token.spells_of_read`, `Token.Spells.read_append`: a token is read exactly where it is spelled
  and nothing prolongs it.
* `Lexeme.scan_iff`: the tokens of a text are those it splits into.
-/

namespace Reshape

/-! ## Texts of tokens -/

namespace Token

/-- The text `body` stands for `s` between two quotes `q`: a backslash takes the character after it
along, and neither stands there alone. -/
inductive Quotes (q : Char) : List Char → List Char → Prop
  | nil : Quotes q [] []
  | plain (c : Char) : c ≠ q → c ≠ '\\' → Quotes q body s → Quotes q (c :: body) (c :: s)
  | escape (c : Char) : Quotes q body s → Quotes q ('\\' :: c :: body) (unescape c :: s)

/-- The number with these digits before and after its point. -/
def ofDigits (whole fraction : List Char) : Token :=
  .literal (Value.ofBinary64?
    (Decimal.nearest? ⟨false, digitsValue (whole ++ fraction), -fraction.length⟩))

/-- The symbols and their texts. -/
def symbols : List (List Char × Token) :=
  [(['=', '='], .comparison .eq), (['!', '='], .comparison .ne), (['<', '='], .comparison .le),
   (['>', '='], .comparison .ge), (['<'], .comparison .lt), (['>'], .comparison .gt),
   (['='], .assign), (['+'], .plus), (['-'], .minus), ([','], .comma), ([';'], .semicolon),
   (['('], .openParen), ([')'], .closeParen)]

/-- A word: a letter or an underscore, and letters, digits and underscores after it. -/
def IsWordText (text : List Char) : Prop :=
  ∃ c cs, text = c :: cs ∧ isNameStart c = true ∧ ∀ d ∈ cs, isNamePart d = true

/-- The token is spelled by the text. -/
inductive Spells : List Char → Token → Prop
  | string (q : Char) : q = '\'' ∨ q = '"' → Quotes q body s →
      Spells (q :: (body ++ [q])) (.literal (.string (String.ofList s)))
  | whole : ds ≠ [] → (∀ d ∈ ds, isDigit d = true) → Spells ds (ofDigits ds [])
  | decimal : ds ≠ [] → (∀ d ∈ ds, isDigit d = true) → (∀ d ∈ fs, isDigit d = true) →
      Spells (ds ++ '.' :: fs) (ofDigits ds fs)
  | keyword (k : Keyword) : Spells k.text.toList (.keyword k)
  | name : IsWordText text → (∀ k : Keyword, k.text.toList ≠ text) →
      Spells text (.field (String.ofList text))
  | quotedName : nameQuote ∉ text →
      Spells (nameQuote :: (text ++ [nameQuote])) (.field (String.ofList text))
  | symbol : (text, t) ∈ symbols → Spells text t

/-- A token that starts with the text would go on with the character. -/
def Prolongs (c : Char) : List Char → Prop
  | [] => False
  | d :: ds =>
    if isDigit d then isNumberPart c = true
    else if isNameStart d then isNamePart c = true
    else ds = [] ∧ d ∈ ['=', '<', '>'] ∧ c = '='

end Token

/-- The text is made of the tokens, each as long as it can be, and of blanks between them. -/
inductive Splits : List Char → List Token → Prop
  | nil : Splits [] []
  | blank : Text.isBlank c = true → Splits cs ts → Splits (c :: cs) ts
  | token : Token.Spells text t → (∀ c ∈ rest.head?, ¬ Token.Prolongs c text) → Splits rest ts →
      Splits (text ++ rest) (t :: ts)

namespace Keyword

theorem ofText?_eq_some_iff {s : String} {k : Keyword} : ofText? s = some k ↔ k.text = s := by
  constructor
  · intro h
    simpa using List.find?_some h
  · rintro rfl
    cases k <;> decide

theorem ofText?_eq_none_iff {s : String} : ofText? s = none ↔ ∀ k : Keyword, k.text ≠ s := by
  simp only [Option.eq_none_iff_forall_ne_some, ne_eq, ofText?_eq_some_iff]

end Keyword

/-! ## Classes of characters -/

theorem Text.inRanges_of_lt {ranges : List (Nat × Nat)} {first last n : Nat} (h : n < first) :
    inRanges ((first, last) :: ranges) n = false := by
  have : ¬ first ≤ n := by omega
  rw [inRanges, decide_eq_false this, Bool.false_and]

/-- The code points of ranges. -/
def Text.codes (ranges : List (Nat × Nat)) : List Nat :=
  ranges.flatMap fun r => List.range' r.1 (r.2 + 1 - r.1)

theorem Text.mem_codes_of_inRanges {ranges : List (Nat × Nat)} {n : Nat}
    (h : inRanges ranges n = true) : n ∈ codes ranges := by
  induction ranges with
  | nil => cases h
  | cons r ranges ih =>
    obtain ⟨first, last⟩ := r
    simp only [inRanges, Bool.and_eq_true, Bool.or_eq_true, decide_eq_true_eq] at h
    rw [codes, List.flatMap_cons, List.mem_append, List.mem_range'_1]
    obtain ⟨hf, hl | hl⟩ := h
    · exact .inl (by omega)
    · exact .inr (ih hl)

/-- A code point below that of `A` is no letter. -/
theorem Text.isAlphabetic_of_lt {c : Char} (h : c.toNat < 65) : isAlphabetic c = false :=
  inRanges_of_lt h

namespace Token

theorem isNameStart_of_isDigit {c : Char} (h : isDigit c = true) : isNameStart c = false := by
  rw [isDigit_iff] at h
  rw [isNameStart, Text.isAlphabetic_of_lt (by omega), Bool.false_or, beq_eq_false_iff_ne]
  rintro rfl
  exact absurd h.2 (by decide)

theorem classes_of_isBlank {c : Char} (h : Text.isBlank c = true) :
    isDigit c = false ∧ isNameStart c = false := by
  have classes : ∀ n ∈ Text.codes Text.blankRanges,
      ¬ (48 ≤ n ∧ n ≤ 57) ∧ Text.inRanges Text.alphabeticRanges n = false ∧ n ≠ '_'.toNat := by
    decide +kernel
  obtain ⟨hd, ha, hu⟩ := classes _ (Text.mem_codes_of_inRanges h)
  refine ⟨by rwa [← Bool.not_eq_true, isDigit_iff], ?_⟩
  rw [isNameStart, Text.isAlphabetic, ha, Bool.false_or, beq_eq_false_iff_ne]
  rintro rfl
  exact hu rfl

/-! ## Strings and quoted names -/

theorem readString_close (q : Char) (cs : List Char) : readString q (q :: cs) = some ([], 1) := by
  rw [readString.eq_def]
  exact if_pos rfl

theorem readString_escape {q : Char} (hq : q ≠ '\\') (c : Char) (cs : List Char) :
    readString q ('\\' :: c :: cs) =
      (readString q cs).map fun (s, n) => (unescape c :: s, n + 2) := by
  rw [readString.eq_def]
  simp only [if_neg hq.symm, if_true]

theorem readString_plain {q c : Char} (hq : c ≠ q) (hc : c ≠ '\\') (cs : List Char) :
    readString q (c :: cs) = (readString q cs).map fun (s, n) => (c :: s, n + 1) := by
  rw [readString.eq_def]
  simp only [if_neg hq, if_neg hc]

theorem readString_eq_some {q : Char} (hq : q ≠ '\\') {cs s : List Char} {n : Nat}
    (h : readString q cs = some (s, n)) :
    ∃ body rest, cs = body ++ q :: rest ∧ n = body.length + 1 ∧ Quotes q body s := by
  induction cs using readString.induct q generalizing s n with
  | case1 => cases h
  | case2 cs =>
    rw [readString_close] at h
    cases h
    exact ⟨[], cs, rfl, rfl, .nil⟩
  | case3 => rw [readString, if_neg hq.symm, if_pos rfl] at h; cases h
  | case4 c cs _ ih =>
    rw [readString_escape hq, Option.map_eq_some_iff] at h
    obtain ⟨⟨s, n⟩, hs, h⟩ := h
    cases h
    obtain ⟨body, rest, rfl, rfl, hb⟩ := ih hs
    exact ⟨'\\' :: c :: body, rest, rfl, rfl, .escape c hb⟩
  | case5 c cs h₁ h₂ ih =>
    rw [readString_plain h₁ h₂, Option.map_eq_some_iff] at h
    obtain ⟨⟨s, n⟩, hs, h⟩ := h
    cases h
    obtain ⟨body, rest, rfl, rfl, hb⟩ := ih hs
    exact ⟨c :: body, rest, rfl, rfl, .plain c h₁ h₂ hb⟩

theorem Quotes.readString_append {q : Char} (hq : q ≠ '\\') {body s : List Char}
    (h : Quotes q body s) (rest : List Char) :
    readString q (body ++ q :: rest) = some (s, body.length + 1) := by
  induction h with
  | nil => exact readString_close q rest
  | plain c h₁ h₂ _ ih => rw [List.cons_append, readString_plain h₁ h₂, ih]; rfl
  | escape c _ ih => rw [List.cons_append, List.cons_append, readString_escape hq, ih]; rfl

theorem readQuotedName_eq_some {cs name : List Char} {n : Nat}
    (h : readQuotedName cs = some (name, n)) :
    ∃ rest, cs = name ++ nameQuote :: rest ∧ n = name.length + 1 ∧ nameQuote ∉ name := by
  induction cs generalizing name n with
  | nil => cases h
  | cons c cs ih =>
    rw [readQuotedName] at h
    split at h
    · rename_i hc
      cases h
      exact ⟨cs, by rw [hc]; rfl, rfl, List.not_mem_nil⟩
    · rename_i hc
      rw [Option.map_eq_some_iff] at h
      obtain ⟨⟨s, n⟩, hs, h⟩ := h
      cases h
      obtain ⟨rest, rfl, rfl, hn⟩ := ih hs
      exact ⟨rest, rfl, rfl, by simp [hn, Ne.symm hc]⟩

theorem readQuotedName_append {name : List Char} (h : nameQuote ∉ name) (rest : List Char) :
    readQuotedName (name ++ nameQuote :: rest) = some (name, name.length + 1) := by
  induction name with
  | nil => simp [readQuotedName]
  | cons c name ih =>
    simp only [List.mem_cons, not_or] at h
    simp [readQuotedName, Ne.symm h.1, ih h.2]

/-! ## Numbers -/

/-- Digits and points are split before the first point. -/
theorem exists_digits {cs : List Char} (h : ∀ c ∈ cs, isNumberPart c = true) :
    ∃ ds rest, cs = ds ++ rest ∧ (∀ d ∈ ds, isDigit d = true) ∧ ∀ c ∈ rest.head?, c = '.' := by
  refine ⟨cs.takeWhile isDigit, cs.dropWhile isDigit, List.takeWhile_append_dropWhile.symm,
    fun c => List.mem_takeWhile_imp, fun c hc => ?_⟩
  have hd := not_of_mem_head?_dropWhile hc
  have hp := h c ((List.dropWhile_suffix _).subset (List.mem_of_mem_head? hc))
  simpa [isNumberPart, hd] using hp

/-- What digits and points spell if a digit is the first of them. -/
theorem spells_number {d : Char} {cs : List Char} {x : Decimal} (hd : isDigit d = true)
    (hcs : ∀ c ∈ cs, isNumberPart c = true) (h : Decimal.ofChars? (d :: cs) = some x) :
    Spells (d :: cs) (.literal (Value.ofBinary64? x.nearest?)) := by
  obtain ⟨ds, rest, rfl, hds, hr⟩ := exists_digits hcs
  have hds : ∀ c ∈ d :: ds, isDigit c = true := by simpa [hd] using hds
  cases rest with
  | nil =>
    rw [List.append_nil, Decimal.ofChars?_whole (List.cons_ne_nil d ds) hds] at h
    cases h
    rw [List.append_nil]
    exact .whole (List.cons_ne_nil d ds) hds
  | cons c cs =>
    obtain rfl := hr c rfl
    obtain ⟨fs, rest, rfl, hfs, hr'⟩ := exists_digits fun c hc =>
      hcs c (List.mem_append_right ds (List.mem_cons_of_mem _ hc))
    rw [← List.cons_append, Decimal.ofChars?_point (List.cons_ne_nil d ds) hds hfs hr'] at h
    split at h <;> cases h
    rename_i hrest
    rw [hrest, List.append_nil, ← List.cons_append]
    exact .decimal (List.cons_ne_nil d ds) hds hfs

/-- Digits and a point among them are parts of a number. -/
theorem isNumberPart_of_mem {ds fs : List Char} (hds : ∀ d ∈ ds, isDigit d = true)
    (hfs : ∀ d ∈ fs, isDigit d = true) {d : Char} (hd : d ∈ ds ++ '.' :: fs) :
    isNumberPart d = true := by
  obtain hd | rfl | hd : d ∈ ds ∨ d = '.' ∨ d ∈ fs := by simpa using hd
  · simp [isNumberPart, hds d hd]
  · decide
  · simp [isNumberPart, hfs d hd]

/-! ## One token -/

/-- A token that starts with a mark of its own is prolonged by nothing, or by an equals sign. -/
theorem not_prolongs {c d : Char} {cs : List Char} (hd : isDigit c = false)
    (hn : isNameStart c = false) (h : cs = [] → c ∈ ['=', '<', '>'] → d ≠ '=') :
    ¬ Prolongs d (c :: cs) := by
  simp only [Prolongs, hd, hn, Bool.false_eq_true, if_false]
  rintro ⟨hcs, hc, hd⟩
  exact h hcs hc hd

theorem mem_symbols_of_symbol? {c : Char} {cs : List Char} {t : Token} {n : Nat}
    (h : symbol? c cs = some (t, n)) :
    ∃ body rest, cs = body ++ rest ∧ n = body.length ∧ (c :: body, t) ∈ symbols ∧
      ∀ d ∈ rest.head?, ¬ Prolongs d (c :: body) := by
  unfold symbol? at h
  split at h <;> cases h
  case h_1 rest | h_2 rest | h_3 rest | h_4 rest =>
    exact ⟨['='], rest, rfl, rfl, by decide,
      fun d _ => not_prolongs (by decide) (by decide) (by simp)⟩
  case h_5 hne | h_6 hne | h_7 hne =>
    refine ⟨[], cs, rfl, rfl, by decide, fun d hd => not_prolongs (by decide) (by decide) ?_⟩
    rintro _ _ rfl
    cases cs with
    | nil => cases hd
    | cons e cs => cases hd; exact hne _ rfl
  all_goals
    exact ⟨[], cs, rfl, rfl, by decide, fun d _ => not_prolongs (by decide) (by decide) (by simp)⟩

theorem spells_ofWord {text : List Char} (h : IsWordText text) :
    Spells text (ofWord (String.ofList text)) := by
  unfold ofWord
  split
  · rename_i k hk
    have ht := congrArg String.toList (Keyword.ofText?_eq_some_iff.1 hk)
    rw [String.toList_ofList] at ht
    exact ht ▸ .keyword k
  · rename_i hk
    refine .name h fun k ht => Keyword.ofText?_eq_none_iff.1 hk k ?_
    rw [← ht, String.ofList_toList]

/-- The token that a text begins with, its spelling and what is left, which does not prolong it. -/
theorem spells_of_read {c : Char} {cs : List Char} {t : Token} {n : Nat}
    (h : read c cs = .ok (t, n)) :
    ∃ body rest, cs = body ++ rest ∧ n = body.length ∧ Spells (c :: body) t ∧
      ∀ d ∈ rest.head?, ¬ Prolongs d (c :: body) := by
  unfold read at h
  split at h
  case isTrue hq =>
    have hq' : c ≠ '\\' := by rintro rfl; exact absurd hq (by decide)
    split at h <;> cases h
    rename_i s hs
    obtain ⟨body, rest, rfl, rfl, hb⟩ := readString_eq_some hq' hs
    refine ⟨body ++ [c], rest, by simp, by simp, .string c hq hb, fun d _ => ?_⟩
    obtain rfl | rfl := hq <;> exact not_prolongs (by decide) (by decide) (by simp)
  case isFalse =>
  split at h
  case isTrue hq =>
    subst hq
    split at h <;> cases h
    rename_i s hs
    obtain ⟨rest, rfl, rfl, hn⟩ := readQuotedName_eq_some hs
    exact ⟨s ++ [nameQuote], rest, by simp, by simp, .quotedName hn,
      fun d _ => not_prolongs (by decide) (by decide) (by simp)⟩
  case isFalse =>
  split at h
  case isTrue hd =>
    dsimp only at h
    split at h <;> cases h
    rename_i x hx
    refine ⟨cs.takeWhile isNumberPart, cs.dropWhile isNumberPart,
      List.takeWhile_append_dropWhile.symm, by simp,
      spells_number hd (fun c => List.mem_takeWhile_imp) hx, fun d hd' => ?_⟩
    simp [Prolongs, hd, not_of_mem_head?_dropWhile hd']
  case isFalse hd =>
  split at h
  case isTrue hn =>
    cases h
    refine ⟨cs.takeWhile isNamePart, cs.dropWhile isNamePart,
      List.takeWhile_append_dropWhile.symm, by simp,
      spells_ofWord ⟨c, _, rfl, hn, fun c => List.mem_takeWhile_imp⟩, fun d hd' => ?_⟩
    simp [Prolongs, hd, hn, not_of_mem_head?_dropWhile hd']
  case isFalse hn =>
  split at h <;> cases h
  rename_i hs
  obtain ⟨body, rest, hcs, hlen, hm, hp⟩ := mem_symbols_of_symbol? hs
  exact ⟨body, rest, hcs, hlen, .symbol hm, hp⟩

theorem read_quote {q : Char} (hq : q = '\'' ∨ q = '"') {body s : List Char} (h : Quotes q body s)
    (rest : List Char) :
    read q (body ++ q :: rest) = .ok (.literal (.string (String.ofList s)), body.length + 1) := by
  have hq' : q ≠ '\\' := by rintro rfl; exact absurd hq (by decide)
  rw [read, if_pos hq, h.readString_append hq']

theorem read_number {c : Char} {body rest : List Char} {x : Decimal} (hc : isDigit c = true)
    (hb : ∀ d ∈ body, isNumberPart d = true) (hr : ∀ d ∈ rest.head?, ¬ Prolongs d (c :: body))
    (hx : Decimal.ofChars? (c :: body) = some x) :
    read c (body ++ rest) = .ok (.literal (Value.ofBinary64? x.nearest?), body.length) := by
  have hne : ¬ (c = '\'' ∨ c = '"') ∧ c ≠ nameQuote := by
    refine ⟨?_, ?_⟩
    · rintro (rfl | rfl) <;> exact absurd hc (by decide)
    · rintro rfl
      exact absurd hc (by decide)
  rw [read, if_neg hne.1, if_neg hne.2, if_pos hc,
    takeWhile_append hb fun d hd => by simpa [Prolongs, hc] using hr d hd]
  simp [hx]

theorem read_word {c : Char} {body rest : List Char} (hc : isNameStart c = true)
    (hb : ∀ d ∈ body, isNamePart d = true) (hr : ∀ d ∈ rest.head?, ¬ Prolongs d (c :: body)) :
    read c (body ++ rest) = .ok (ofWord (String.ofList (c :: body)), body.length) := by
  have hne : ¬ (c = '\'' ∨ c = '"') ∧ c ≠ nameQuote := by
    refine ⟨?_, ?_⟩
    · rintro (rfl | rfl) <;> exact absurd hc (by decide)
    · rintro rfl
      exact absurd hc (by decide)
  have hd : ¬ isDigit c = true := fun hd => by simp [isNameStart_of_isDigit hd] at hc
  rw [read, if_neg hne.1, if_neg hne.2, if_neg hd, if_pos hc,
    takeWhile_append hb fun d hd' => by simpa [Prolongs, hd, hc] using hr d hd']
  simp

/-- No mark starts like a quoted text, a number, a word or what stands between tokens. -/
theorem head_of_mem_symbols {c : Char} {body : List Char} {t : Token}
    (h : (c :: body, t) ∈ symbols) : (¬ (c = '\'' ∨ c = '"') ∧ c ≠ nameQuote) ∧
      isDigit c = false ∧ isNameStart c = false ∧ Text.isBlank c = false := by
  simp only [symbols, List.mem_cons, List.not_mem_nil, or_false] at h
  rcases h with h | h | h | h | h | h | h | h | h | h | h | h | h <;> cases h <;> decide

theorem symbol?_append {c : Char} {body rest : List Char} {t : Token}
    (h : (c :: body, t) ∈ symbols)
    (hr : ∀ d ∈ rest.head?, ¬ Prolongs d (c :: body)) :
    symbol? c (body ++ rest) = some (t, body.length) := by
  -- One of the three marks that go on with an equals sign stands before something else.
  have other (hc : c ∈ ['=', '<', '>']) (hb : body = []) (cs : List Char) : rest ≠ '=' :: cs := by
    rintro rfl
    obtain ⟨-, hd, hn, -⟩ := head_of_mem_symbols h
    exact hr '=' rfl (by simp [Prolongs, hd, hn, hc, hb])
  simp only [symbols, List.mem_cons, List.not_mem_nil, or_false] at h
  rcases h with h | h | h | h | h | h | h | h | h | h | h | h | h <;> cases h
  all_goals first
    | rfl
    | have hr := other (by decide) rfl
      unfold symbol?
      split <;> simp_all

theorem read_symbol {c : Char} {body rest : List Char} {t : Token} (h : (c :: body, t) ∈ symbols)
    (hr : ∀ d ∈ rest.head?, ¬ Prolongs d (c :: body)) :
    read c (body ++ rest) = .ok (t, body.length) := by
  obtain ⟨hne, hd, hn, -⟩ := head_of_mem_symbols h
  rw [read, if_neg hne.1, if_neg hne.2, hd, hn, symbol?_append h hr]
  rfl

theorem isWordText_keyword (k : Keyword) : IsWordText k.text.toList := by
  have hall : ∀ d ds, isNameStart d && ds.all isNamePart → IsWordText (d :: ds) := by
    intro d ds h
    rw [Bool.and_eq_true, List.all_eq_true] at h
    exact ⟨d, ds, rfl, h.1, h.2⟩
  cases k <;> exact hall _ _ (by decide)

/-- A token is read where it is spelled, if nothing after it prolongs it. -/
theorem Spells.read_append {c : Char} {body rest : List Char} {t : Token}
    (h : Spells (c :: body) t) (hr : ∀ d ∈ rest.head?, ¬ Prolongs d (c :: body)) :
    read c (body ++ rest) = .ok (t, body.length) := by
  generalize ht : c :: body = text at h
  cases h with
  | string q hq hb =>
    cases ht
    simpa using read_quote hq hb rest
  | whole hne hds =>
    subst ht
    refine read_number (hds c List.mem_cons_self) (fun d hd => ?_) hr
      (Decimal.ofChars?_whole hne hds)
    simp [isNumberPart, hds d (List.mem_cons_of_mem c hd)]
  | @decimal ds fs hne hds hfs =>
    cases ds with
    | nil => exact absurd rfl hne
    | cons d ds =>
      cases ht
      have hx : Decimal.ofChars? (c :: ds ++ '.' :: (fs ++ [])) = _ :=
        Decimal.ofChars?_point hne hds hfs (by simp)
      rw [List.append_nil, if_pos rfl] at hx
      exact read_number (hds c List.mem_cons_self)
        (fun d hd => isNumberPart_of_mem hds hfs (List.mem_cons_of_mem c hd)) hr hx
  | keyword k =>
    obtain ⟨d, ds, hk, hn, hp⟩ := isWordText_keyword k
    cases ht.trans hk
    rw [read_word hn hp hr, ht, String.ofList_toList, ofWord, Keyword.ofText?_eq_some_iff.2 rfl]
  | name hw hk =>
    obtain ⟨d, ds, rfl, hn, hp⟩ := hw
    cases ht
    have h : Keyword.ofText? (String.ofList (c :: body)) = none :=
      Keyword.ofText?_eq_none_iff.2 fun k h => hk k (by rw [h, String.toList_ofList])
    rw [read_word hn hp hr, ofWord, h]
  | quotedName hn =>
    cases ht
    rw [List.append_assoc, List.singleton_append, read, if_neg (by decide), if_pos rfl,
      readQuotedName_append hn]
    simp
  | symbol hm => exact read_symbol (ht ▸ hm) hr

theorem Spells.exists_cons {text : List Char} {t : Token} (h : Spells text t) :
    ∃ c body, text = c :: body ∧ Text.isBlank c = false := by
  have blank {c : Char} (hc : isDigit c = true ∨ isNameStart c = true) :
      Text.isBlank c = false := by
    rw [← Bool.not_eq_true]
    intro hb
    simp [classes_of_isBlank hb] at hc
  cases h with
  | string q hq hb => exact ⟨q, _, rfl, by obtain rfl | rfl := hq <;> decide⟩
  | whole hne hds =>
    cases text with
    | nil => exact absurd rfl hne
    | cons d ds => exact ⟨d, _, rfl, blank (.inl (hds d List.mem_cons_self))⟩
  | @decimal ds fs hne hds hfs =>
    cases ds with
    | nil => exact absurd rfl hne
    | cons d ds => exact ⟨d, _, rfl, blank (.inl (hds d List.mem_cons_self))⟩
  | keyword k => cases k <;> exact ⟨_, _, rfl, by decide⟩
  | name hw hk =>
    obtain ⟨d, ds, rfl, hn, hp⟩ := hw
    exact ⟨d, ds, rfl, blank (.inr hn)⟩
  | quotedName hn => exact ⟨_, _, rfl, by decide⟩
  | symbol hm =>
    cases text with
    | nil => simp [symbols] at hm
    | cons c body => exact ⟨c, body, rfl, (head_of_mem_symbols hm).2.2.2⟩

end Token

/-! ## All tokens of a text -/

theorem Lexeme.splits_of_scanFrom {offset : Nat} {cs : List Char} {lexemes : List Lexeme}
    (h : scanFrom offset cs = .ok lexemes) : Splits cs (lexemes.map (·.token)) := by
  induction offset, cs using scanFrom.induct generalizing lexemes with
  | case1 offset => rw [scanFrom] at h; cases h; exact .nil
  | case2 offset c cs hb ih => rw [scanFrom, if_pos hb] at h; exact .blank hb (ih h)
  | case3 offset c cs hb cause hr => simp [scanFrom, hb, hr] at h
  | case4 offset c cs hb t n hr e hs => simp [scanFrom, hb, hr, hs] at h
  | case5 offset c cs hb t n hr later hs ih =>
    simp only [scanFrom, hb, hr, hs] at h
    cases h
    obtain ⟨body, rest, rfl, rfl, hspells, hp⟩ := Token.spells_of_read hr
    rw [List.drop_left] at hs ih
    exact .token hspells hp (ih hs)

theorem Splits.exists_scanFrom {cs : List Char} {ts : List Token} (h : Splits cs ts)
    (offset : Nat) :
    ∃ lexemes, Lexeme.scanFrom offset cs = .ok lexemes ∧ lexemes.map (·.token) = ts := by
  induction h generalizing offset with
  | nil => exact ⟨[], by rw [Lexeme.scanFrom], rfl⟩
  | @blank c cs ts hb _ ih =>
    obtain ⟨lexemes, hs, rfl⟩ := ih (offset + c.utf8Size)
    exact ⟨lexemes, by rw [Lexeme.scanFrom, if_pos hb, hs], rfl⟩
  | @token text t rest ts hspells hp _ ih =>
    obtain ⟨c, body, rfl, hb⟩ := hspells.exists_cons
    obtain ⟨lexemes, hs, rfl⟩ := ih (offset + byteLength (c :: body))
    refine ⟨⟨t, offset⟩ :: lexemes, ?_, rfl⟩
    rw [List.cons_append, Lexeme.scanFrom, hb, hspells.read_append hp]
    simp [hs]

/-- A text splits into tokens in one way. -/
theorem Splits.unique {cs : List Char} {ts us : List Token} (ht : Splits cs ts)
    (hu : Splits cs us) : ts = us := by
  obtain ⟨lexemes, hs, rfl⟩ := ht.exists_scanFrom 0
  obtain ⟨_, hs', rfl⟩ := hu.exists_scanFrom 0
  cases hs.symm.trans hs'
  rfl

/-- **The tokens of a text are those it splits into.** -/
theorem Lexeme.scan_iff {text : String} {ts : List Token} :
    (∃ lexemes, scan text = .ok lexemes ∧ lexemes.map (·.token) = ts) ↔ Splits text.toList ts := by
  constructor
  · rintro ⟨lexemes, h, rfl⟩
    exact splits_of_scanFrom h
  · intro h
    exact h.exists_scanFrom 0

end Reshape
