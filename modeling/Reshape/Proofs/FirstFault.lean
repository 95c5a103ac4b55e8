import Reshape.Proofs.Completion
import Reshape.Proofs.Lookahead

/-!
# Where syntax errors are

The offset of a syntax error is that of the first token that does not fit: the tokens before it are
the first ones of a program, and with it they are not.

* `Lexeme.Starts`: the offset is that of a character. `Lexeme.starts_of_scanFrom`,
  `Lexeme.starts_of_scanFrom_error`: tokens and faults in their spelling start at characters.
* `Lexeme.pairwise_offset`: tokens start one after another.
* `Program.Viable`: tokens that some program starts with.
* `Program.exists_split_of_read`: the tokens of a text before and after a fault.
* `Program.error_at_first_fault`: syntax errors point at the first token that does not fit.
-/

namespace Reshape

/-! ## Offsets of characters -/

theorem byteLength_append (cs ds : List Char) :
    byteLength (cs ++ ds) = byteLength cs + byteLength ds := by
  induction cs with
  | nil => rw [List.nil_append, byteLength, Nat.zero_add]
  | cons c cs ih => rw [List.cons_append, byteLength, byteLength, ih, Nat.add_assoc]

theorem utf8ByteSize_ofList (cs : List Char) : (String.ofList cs).utf8ByteSize = byteLength cs := by
  induction cs with
  | nil => rfl
  | cons c cs ih =>
    rw [String.ofList_cons, String.utf8ByteSize_append, String.utf8ByteSize_singleton, ih]
    rfl

/-- The offset is between two characters of the text or at an end of it. -/
def Boundary (cs : List Char) (p : Nat) : Prop :=
  ∃ before after, cs = before ++ after ∧ p = byteLength before

namespace Boundary

variable {cs : List Char} {p : Nat}

theorem start : Boundary cs 0 := ⟨[], cs, rfl, rfl⟩

theorem finish : Boundary cs (byteLength cs) := ⟨cs, [], (List.append_nil cs).symm, rfl⟩

theorem le (h : Boundary cs p) : p ≤ byteLength cs := by
  obtain ⟨before, after, rfl, rfl⟩ := h
  rw [byteLength_append]
  exact Nat.le_add_right ..

theorem isValid {text : String} (h : Boundary text.toList p) :
    String.Pos.Raw.IsValid text ⟨p⟩ := by
  obtain ⟨before, after, htext, rfl⟩ := h
  refine String.Pos.Raw.isValid_iff_exists_append.2 ⟨.ofList before, .ofList after, ?_, ?_⟩
  · rw [← String.ofList_append, ← htext, String.ofList_toList]
  · rw [← utf8ByteSize_ofList]
    rfl

end Boundary

namespace Lexeme

/-- At the offset, a character of the text starts that starts at `offset`. -/
def Starts (offset : Nat) (cs : List Char) (p : Nat) : Prop :=
  ∃ before c after, cs = before ++ c :: after ∧ p = offset + byteLength before

namespace Starts

variable {offset p : Nat} {c : Char} {cs ds : List Char}

theorem head : Starts offset (c :: cs) offset := ⟨[], c, cs, rfl, rfl⟩

theorem append (h : Starts (offset + byteLength cs) ds p) : Starts offset (cs ++ ds) p := by
  obtain ⟨before, c, after, rfl, rfl⟩ := h
  exact ⟨cs ++ before, c, after, by rw [List.append_assoc], by
    rw [byteLength_append, Nat.add_assoc]⟩

theorem cons (h : Starts (offset + c.utf8Size) cs p) : Starts offset (c :: cs) p := by
  have h : Starts (offset + byteLength [c]) cs p := h
  exact h.append

theorem le (h : Starts offset cs p) : offset ≤ p := by
  obtain ⟨before, c, after, rfl, rfl⟩ := h
  exact Nat.le_add_right ..

theorem lt (h : Starts offset cs p) : p < offset + byteLength cs := by
  obtain ⟨before, c, after, rfl, rfl⟩ := h
  have := c.utf8Size_pos
  rw [byteLength_append, byteLength]
  omega

theorem boundary (h : Starts 0 cs p) : Boundary cs p := by
  obtain ⟨before, c, after, rfl, rfl⟩ := h
  exact ⟨before, c :: after, rfl, Nat.zero_add _⟩

end Starts

/-- What is left of a text after a token of it starts where that token ends. -/
theorem starts_drop {offset n p : Nat} {c : Char} {cs : List Char}
    (h : Starts (offset + byteLength (c :: cs.take n)) (cs.drop n) p) :
    Starts offset (c :: cs) p := by
  have happend := h.append
  rwa [List.cons_append, List.take_append_drop] at happend

/-- Each token starts at a character, and one after another. -/
theorem starts_of_scanFrom {offset : Nat} {cs : List Char} {lexemes : List Lexeme}
    (h : scanFrom offset cs = .ok lexemes) :
    (∀ l ∈ lexemes, Starts offset cs l.offset) ∧
      lexemes.Pairwise fun l m => l.offset < m.offset := by
  induction offset, cs using scanFrom.induct generalizing lexemes with
  | case1 offset => rw [scanFrom] at h; cases h; exact ⟨List.forall_mem_nil _, .nil⟩
  | case2 offset c cs hb ih =>
    rw [scanFrom, if_pos hb] at h
    obtain ⟨hstarts, hsorted⟩ := ih h
    exact ⟨fun l hl => (hstarts l hl).cons, hsorted⟩
  | case3 offset c cs hb cause hr => simp [scanFrom, hb, hr] at h
  | case4 offset c cs hb t n hr e hs => simp [scanFrom, hb, hr, hs] at h
  | case5 offset c cs hb t n hr later hs ih =>
    simp only [scanFrom, hb, hr, hs] at h
    cases h
    obtain ⟨hstarts, hsorted⟩ := ih hs
    refine ⟨List.forall_mem_cons.2 ⟨.head, fun l hl => starts_drop (hstarts l hl)⟩,
      .cons (fun l hl => ?_) hsorted⟩
    have hle := (hstarts l hl).le
    have := c.utf8Size_pos
    rw [byteLength] at hle
    dsimp only
    omega

/-- The fault in the spelling of a token starts at a character. -/
theorem starts_of_scanFrom_error {offset : Nat} {cs : List Char} {e : SyntaxError}
    (h : scanFrom offset cs = .error e) : Starts offset cs e.offset := by
  induction offset, cs using scanFrom.induct with
  | case1 offset => rw [scanFrom] at h; cases h
  | case2 offset c cs hb ih =>
    rw [scanFrom, if_pos hb] at h
    exact (ih h).cons
  | case3 offset c cs hb cause hr =>
    simp only [scanFrom, hb, hr] at h
    cases h
    exact .head
  | case4 offset c cs hb t n hr e' hs ih =>
    simp only [scanFrom, hb, hr, hs] at h
    cases h
    exact starts_drop (ih hs)
  | case5 offset c cs hb t n hr later hs ih => simp [scanFrom, hb, hr, hs] at h

end Lexeme

/-! ## Beginnings of programs -/

/-- Each token of a text is spelled by some text. -/
theorem Splits.exists_words {cs : List Char} {ts : List Token} (h : Splits cs ts) :
    ∃ ws : List Word, ws.map Word.token = ts := by
  induction h with
  | nil => exact ⟨[], rfl⟩
  | blank _ _ ih => exact ih
  | token hspells _ _ ih =>
    obtain ⟨ws, rfl⟩ := ih
    exact ⟨⟨_, _, hspells⟩ :: ws, rfl⟩

namespace Program

/-- The tokens are the first ones of some program text. -/
def Viable (ts : List Token) : Prop :=
  ∃ text lexemes p more, Lexeme.scan text = .ok lexemes ∧ lexemes.map (·.token) = ts ++ more ∧
    parse text = .ok p

theorem viable_iff {ts : List Token} : Viable ts ↔
    ∃ cs more p, Splits cs (ts ++ more) ∧ Derives (ts ++ more) p ∧ p ≠ [] := by
  constructor
  · rintro ⟨text, lexemes, p, more, hscan, htokens, hparse⟩
    obtain ⟨us, hsplits, hderives, hne⟩ := exists_derives_of_parse hparse
    obtain rfl := hsplits.unique (Lexeme.scan_iff.1 ⟨lexemes, hscan, htokens⟩)
    exact ⟨text.toList, more, p, hsplits, hderives, hne⟩
  · rintro ⟨cs, more, p, hsplits, hderives, hne⟩
    have htext : Splits (String.ofList cs).toList (ts ++ more) := by rwa [String.toList_ofList]
    obtain ⟨lexemes, hscan, htokens⟩ := Lexeme.scan_iff.2 htext
    exact ⟨.ofList cs, lexemes, p, more, hscan, htokens, parse_ofList hsplits hderives hne⟩

/-- No tokens but semicolons derive the program without statements. -/
theorem Derives.eq_semicolon {ts : List Token} {p : Program} (h : Derives ts p) (hp : p = []) :
    ∀ t ∈ ts, t = .semicolon := by
  induction h with
  | nil => nofun
  | semicolon _ ih => exact List.forall_mem_cons.2 ⟨rfl, ih hp⟩
  | last => cases hp
  | cons => cases hp

/-- The tokens before a fault begin a program, and with the first one of those that are left, if
any are, they do not. -/
theorem exists_split_of_read {cs : List Char} {ts rest : List Token} {c : SyntaxCause}
    (hs : Splits cs ts) (h : read ts = .error (c, rest)) :
    ∃ used, ts = used ++ rest ∧ Viable used ∧ ∀ t us, rest = t :: us → ¬ Viable (used ++ [t]) := by
  obtain ⟨used, ws, p, hused, hderives, hne⟩ := completes_readWith h
  refine ⟨used, hused, viable_iff.2 ?_, ?_⟩
  · obtain ⟨vs, hvs⟩ := hs.exists_words
    obtain ⟨vs, vs', -, rfl, -⟩ := List.map_eq_append_iff.1 (hvs.trans hused)
    rw [← List.map_append] at hderives
    refine ⟨Word.line (vs ++ ws), ws.map Word.token, p, ?_, ?_, hne⟩
    · rw [← List.map_append]
      exact Word.splits_line (vs ++ ws)
    · rwa [← List.map_append]
  · rintro t us rfl hviable
    obtain ⟨used', hused', hnot⟩ := not_derives_of_read h
    obtain rfl : used' = used := List.append_cancel_right (hused'.symm.trans hused)
    obtain ⟨-, more, q, -, hq, -⟩ := viable_iff.1 hviable
    rw [List.append_assoc] at hq
    exact hnot more q hq

/-! ## Faults in a text -/

theorem filter_append_eq_left {ls rs : List Lexeme} {q : Lexeme → Prop} [DecidablePred q]
    (hl : ∀ l ∈ ls, q l) (hr : ∀ l ∈ rs, ¬ q l) : (ls ++ rs).filter q = ls := by
  rw [List.filter_append, List.filter_eq_self.2 (by simpa using hl),
    List.filter_eq_nil_iff.2 (by simpa using hr), List.append_nil]

/-- The tokens of a text before and after a fault, and its offset. -/
theorem exists_split_of_parse {text : String} {lexemes : List Lexeme} {e : SyntaxError}
    (hscan : Lexeme.scan text = .ok lexemes) (hne : ∃ l ∈ lexemes, l.token ≠ .semicolon)
    (h : parse text = .error e) :
    ∃ ls rs, lexemes = ls ++ rs ∧ Viable (ls.map (·.token)) ∧
      ((rs = [] ∧ e.offset = byteLength text.toList) ∨
        ∃ l rest, rs = l :: rest ∧ e.offset = l.offset ∧ ¬ Viable ((ls ++ [l]).map (·.token))) := by
  have hsplits := Lexeme.scan_iff.1 ⟨lexemes, hscan, rfl⟩
  unfold parse at h
  rw [hscan] at h
  dsimp only at h
  split at h
  · rename_i c rest hread
    cases h
    obtain ⟨used, hused, hviable, hfault⟩ := exists_split_of_read hsplits hread
    obtain ⟨ls, rs, rfl, rfl, rfl⟩ := List.map_eq_append_iff.1 hused
    have hdrop : (ls ++ rs).drop ((ls ++ rs).length - (rs.map (·.token)).length) = rs := by
      simp
    refine ⟨ls, rs, rfl, hviable, ?_⟩
    rw [offsetOfRest, hdrop]
    cases rs with
    | nil => exact .inl ⟨rfl, rfl⟩
    | cons l rest =>
      refine .inr ⟨l, rest, rfl, rfl, ?_⟩
      rw [List.map_append]
      exact hfault _ _ rfl
  · rename_i hread
    obtain ⟨l, hl, hsemi⟩ := hne
    exact absurd ((read_eq_ok_iff.1 hread).eq_semicolon rfl _ (List.mem_map_of_mem hl)) hsemi
  · cases h

theorem boundary_of_parse {text : String} {e : SyntaxError} (h : parse text = .error e) :
    Boundary text.toList e.offset := by
  unfold parse at h
  split at h
  · rename_i hscan
    cases h
    exact (Lexeme.starts_of_scanFrom_error hscan).boundary
  · rename_i lexemes hscan
    split at h
    · rename_i c rest hread
      cases h
      dsimp only [offsetOfRest]
      split
      · rename_i l later hdrop
        have hl : l ∈ lexemes := List.mem_of_mem_drop (hdrop ▸ List.mem_cons_self)
        exact ((Lexeme.starts_of_scanFrom hscan).1 l hl).boundary
      · exact .finish
    · cases h
      exact .start
    · cases h

/-- **A syntax error is at the first token that does not fit.** If a text splits into tokens, not
all of which are semicolons, the offset of the error is that of a token or the length of the text.
The tokens before it are the first ones of some program, and with the token at it, if there is one,
they are not. And whatever the error is, its offset is not beyond the end of the text and not inside
of a character. -/
theorem error_at_first_fault (text : String) (e : SyntaxError) (h : parse text = .error e) :
    (∀ lexemes, Lexeme.scan text = .ok lexemes → (∃ l ∈ lexemes, l.token ≠ .semicolon) →
      ((∃ l ∈ lexemes, l.offset = e.offset) ∨ e.offset = text.utf8ByteSize) ∧
      Viable ((lexemes.filter fun l => l.offset < e.offset).map (·.token)) ∧
      ((∃ l ∈ lexemes, l.offset = e.offset) →
        ¬ Viable ((lexemes.filter fun l => l.offset ≤ e.offset).map (·.token)))) ∧
    e.offset ≤ text.utf8ByteSize ∧ String.Pos.Raw.IsValid text ⟨e.offset⟩ := by
  have hsize : text.utf8ByteSize = byteLength text.toList := by
    rw [← utf8ByteSize_ofList, String.ofList_toList]
  rw [hsize]
  constructor
  · intro lexemes hscan hne
    obtain ⟨hstarts, hsorted⟩ := Lexeme.starts_of_scanFrom hscan
    obtain ⟨ls, rs, rfl, hviable, ⟨rfl, he⟩ | ⟨l, rest, rfl, he, hfault⟩⟩ :=
      exists_split_of_parse hscan hne h
    · have hbefore : ∀ l ∈ ls, l.offset < e.offset := fun l hl => by
        have := (hstarts l (List.mem_append_left _ hl)).lt
        omega
      refine ⟨.inr he, ?_, ?_⟩
      · rwa [filter_append_eq_left hbefore (by simp)]
      · rintro ⟨l, hl, hoffset⟩
        rw [List.append_nil] at hl
        exact absurd hoffset (Nat.ne_of_lt (hbefore l hl))
    · obtain ⟨-, hrest, hbetween⟩ := List.pairwise_append.1 hsorted
      have hbefore : ∀ m ∈ ls, m.offset < e.offset := fun m hm =>
        he ▸ hbetween m hm l List.mem_cons_self
      have hafter : ∀ m ∈ rest, e.offset < m.offset := fun m hm =>
        he ▸ List.rel_of_pairwise_cons hrest hm
      refine ⟨.inl ⟨l, by simp, he.symm⟩, ?_, fun _ => ?_⟩
      · rwa [filter_append_eq_left hbefore]
        exact List.forall_mem_cons.2
          ⟨Nat.not_lt.2 (Nat.le_of_eq he), fun m hm => Nat.lt_asymm (hafter m hm)⟩
      · rwa [← List.singleton_append, ← List.append_assoc, filter_append_eq_left]
        · exact List.forall_mem_append.2
            ⟨fun m hm => Nat.le_of_lt (hbefore m hm), by simpa using Nat.le_of_eq he.symm⟩
        · exact fun m hm => Nat.not_le.2 (hafter m hm)
  · exact ⟨(boundary_of_parse h).le, (boundary_of_parse h).isValid⟩

/-- A parenthesis is not closed before the semicolon, and a character takes two bytes. -/
def unclosedText : String := "`é` = (a; b"

def unclosedLexemes : List Lexeme :=
  [⟨.field "é", 0⟩, ⟨.assign, 5⟩, ⟨.openParen, 7⟩, ⟨.field "a", 8⟩, ⟨.semicolon, 9⟩,
    ⟨.field "b", 11⟩]

theorem error_at_first_fault_unclosed :
    parse unclosedText = .error ⟨9, .expectedClose⟩ ∧
    Lexeme.scan unclosedText = .ok unclosedLexemes ∧
    (∃ l ∈ unclosedLexemes, l.token ≠ .semicolon) ∧
    (∃ l ∈ unclosedLexemes, l.offset = 9) ∧
    Viable [.field "é", .assign, .openParen, .field "a"] ∧
    ¬ Viable [.field "é", .assign, .openParen, .field "a", .semicolon] ∧
    parse "é#" = .error ⟨2, .unexpectedCharacter '#'⟩ ∧
    2 ≤ String.utf8ByteSize "é#" ∧ String.Pos.Raw.IsValid "é#" ⟨2⟩ := by
  have hparse : parse unclosedText = .error ⟨9, .expectedClose⟩ := by decide +kernel
  have hscan : Lexeme.scan unclosedText = .ok unclosedLexemes := by decide +kernel
  have hne : ∃ l ∈ unclosedLexemes, l.token ≠ .semicolon := by decide
  have hat : ∃ l ∈ unclosedLexemes, l.offset = 9 := by decide
  have hspelling : parse "é#" = .error ⟨2, .unexpectedCharacter '#'⟩ := by decide +kernel
  obtain ⟨-, hviable, hfault⟩ := (error_at_first_fault unclosedText _ hparse).1 _ hscan hne
  exact ⟨hparse, hscan, hne, hat, hviable, hfault hat, hspelling,
    (error_at_first_fault "é#" _ hspelling).2⟩

end Program

end Reshape
