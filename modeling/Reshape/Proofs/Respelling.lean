import Reshape.Proofs.Canonical
import Reshape.Proofs.Lawful
import Reshape.Proofs.Scope

/-!
# Programs and the spelling of numbers

Whether a number is spelled `1` or `1.0` is seen by a program only where its text is joined to
another one. Two runs that start with the same numbers in different spellings go the same way up to
the first such place.

* `Number.Respelled.text_ne`: two spellings of a number are different texts.
* `Value.Renumbered`, `Record.Renumbered`: the same values but for the spelling of numbers.
* `Value.joined`, `Program.joined`: the values whose texts are joined.
* `Differs`, `Follows`: runs whose joined values differ, for the first time, in the spelling of a
  number, and runs that do what is said unless they differ.
* `Program.follows_apply`: programs keep records the same but for the spelling of numbers.
* `Program.apply_renumbered`: the results are equal, or the texts of one number were joined.
-/

namespace Reshape

/-! ## Texts of numbers -/

namespace Number

variable {a b : Number}

/-- A whole number is written with digits and a sign. -/
theorem notMem_intText {c : Char} (hdigit : isDigit c = false) (hsign : c ≠ '-') (n : Int) :
    c ∉ (intText n).toList := by
  rw [intText, String.toList_ofList, List.mem_append]
  rintro (h | h)
  · split at h <;> simp_all
  · rw [isDigit_of_mem_toDigits h] at hdigit
    cases hdigit

/-- A binary64 number is written with a point or an exponent. -/
theorem mem_text_float (x : Binary64) : '.' ∈ x.text.toList ∨ 'e' ∈ x.text.toList := by
  rw [Binary64.text, Decimal.toList_text]
  generalize (if x.shortest.digits = 0 then 0 else x.shortest.leading) = lead
  rw [Decimal.layout]
  split
  · left
    split <;> simp
  · right
    simp

theorem text_int_ne (n : Int) (h : IsWord n) (x : Binary64) : (int n h).text ≠ (float x).text := by
  intro htext
  change intText n = x.text at htext
  rcases mem_text_float x with hmem | hmem <;> rw [← htext] at hmem
  · exact notMem_intText (by decide) (by decide) n hmem
  · exact notMem_intText (by decide) (by decide) n hmem

/-- Different spellings of a number are different texts. -/
theorem Respelled.text_ne (h : a.Respelled b) (hne : a ≠ b) : a.text ≠ b.text := by
  cases a with
  | int m hm =>
    cases b with
    | int n hn => exact absurd h hne
    | float y => exact text_int_ne m hm y
  | float x =>
    cases b with
    | int n hn => exact (text_int_ne n hn x).symm
    | float y => exact fun htext => hne (congrArg float (toBinary64_of_text_eq htext))

end Number

/-! ## Values but for the spelling of numbers -/

namespace Value

/-- The same value, or one number in two spellings. -/
inductive Renumbered : Value → Value → Prop
  | refl (v : Value) : Renumbered v v
  | number {m n : Number} (h : m.Respelled n) : Renumbered (.number m) (.number n)

variable {u v w v' w' : Value}

namespace Renumbered

/-- What is the same of all spellings of a number is the same of such values. -/
theorem congr {α : Type} {f : Value → α} (h : v.Renumbered v')
    (hf : ∀ m n : Number, m.Respelled n → f (.number m) = f (.number n)) : f v = f v' := by
  cases h with
  | refl v => rfl
  | number h => exact hf _ _ h

theorem truthy_eq (h : v.Renumbered v') : v.truthy = v'.truthy := by
  refine h.congr fun m n hmn => ?_
  rw [truthy, truthy, Number.isZero, Number.isZero, ← Binary64.natAbs_toInt, hmn.toInt_eq,
    Binary64.natAbs_toInt]

theorem strictEq_eq (hv : v.Renumbered v') (hw : w.Renumbered w') :
    strictEq v w = strictEq v' w' := by
  calc strictEq v w = strictEq v w' := hw.congr fun m n hmn => by
        cases v with
        | number k => exact Number.eqv_congr hmn k
        | _ => rfl
    _ = strictEq v' w' := hv.congr (f := (strictEq · w')) fun m n hmn => by
        cases w' with
        | number k => exact (m.eqv_comm k).trans ((Number.eqv_congr hmn k).trans (k.eqv_comm n))
        | _ => rfl

theorem compare?_eq (hv : v.Renumbered v') (hw : w.Renumbered w') :
    v.compare? w = v'.compare? w' := by
  calc v.compare? w = v.compare? w' := hw.congr fun m n hmn => by
        cases v with
        | number k => rw [compare?, compare?, hmn.toInt_eq]
        | _ => rfl
    _ = v'.compare? w' := hv.congr (f := (compare? · w')) fun m n hmn => by
        cases w' with
        | number k => rw [compare?, compare?, hmn.toInt_eq]
        | _ => rfl

theorem holds_eq (hv : v.Renumbered v') (hw : w.Renumbered w') (c : Comparison) :
    c.holds v w = c.holds v' w' := by
  cases c <;> simp only [Comparison.holds, hv.strictEq_eq hw, hv.compare?_eq hw]

theorem sub_eq (hv : v.Renumbered v') (hw : w.Renumbered w') : v.sub w = v'.sub w' := by
  calc v.sub w = v.sub w' := hw.congr fun m n hmn => by
        cases v with
        | number k =>
          simp only [sub, toBinary64?, Binary64.sub?, hmn.toInt_eq]
        | _ => rfl
    _ = v'.sub w' := hv.congr (f := (sub · w')) fun m n hmn => by
        cases w' with
        | number k => simp only [sub, toBinary64?, Binary64.sub?, hmn.toInt_eq]
        | _ => rfl

theorem neg_eq (h : v.Renumbered v') : v.neg = v'.neg := by
  have hneg (x : Binary64) : x.neg.toInt = -x.toInt := by
    rw [Binary64.toInt, Binary64.toInt, Binary64.neg]
    cases x.negative <;> simp
  refine h.congr fun m n hmn => congrArg Value.number (Number.ofBinary64_of_eqv (beq_iff_eq.2 ?_))
  rw [hneg, hneg, hmn.toInt_eq]

end Renumbered

/-! ### Sums -/

def isNumber : Value → Bool
  | .number _ => true
  | _ => false

/-- The values whose texts are joined when they are added. -/
def joined (v w : Value) : List Value := if v.isNumber && w.isNumber then [] else [v, w]

theorem exists_of_isNumber (h : v.isNumber = true) : ∃ n, v = .number n := by
  cases v with
  | number n => exact ⟨n, rfl⟩
  | _ => cases h

/-- Values that are not both numbers are added by their texts. -/
theorem add_eq_text (h : (v.isNumber && w.isNumber) = false) :
    v.add w = .string (v.display ++ w.display) := by
  cases v with
  | number m =>
    cases w with
    | number n => cases h
    | _ => rfl
  | _ => rfl

theorem display_number (n : Number) : display (.number n) = n.text := by
  rw [display, text, Json.compact, String.ofList_toList]
  all_goals simp

namespace Renumbered

theorem isNumber_eq (h : v.Renumbered v') : v.isNumber = v'.isNumber := h.congr fun _ _ _ => rfl

theorem eq_of_isNumber (h : v.Renumbered v') (hv : v.isNumber = false) : v = v' := by
  cases h with
  | refl v => rfl
  | number h => cases hv

theorem eq_of_display (h : v.Renumbered v') (hdisplay : v.display = v'.display) : v = v' := by
  cases h with
  | refl v => rfl
  | @number m n h =>
    rw [display_number, display_number] at hdisplay
    by_contra hne
    exact h.text_ne (fun heq => hne (congrArg _ heq)) hdisplay

/-- Sums of numbers are the same for all spellings. -/
theorem add_eq (hv : v.Renumbered v') (hw : w.Renumbered w') (hnumber : v.isNumber = true)
    (hnumber' : w.isNumber = true) : v.add w = v'.add w' := by
  obtain ⟨m, rfl⟩ := exists_of_isNumber hnumber
  obtain ⟨n, rfl⟩ := exists_of_isNumber hnumber'
  calc add (.number m) (.number n) = add (.number m) w' := hw.congr fun k l hkl => by
        simp only [add, toBinary64?, Binary64.add?, hkl.toInt_eq]
    _ = v'.add w' := by
      obtain ⟨k, rfl⟩ := exists_of_isNumber (hw.isNumber_eq ▸ hnumber')
      exact hv.congr (f := (add · (.number k))) fun m n hmn => by
        simp only [add, toBinary64?, Binary64.add?, hmn.toInt_eq]

end Renumbered

/-- Sums are the same if the texts that are joined are, and only then. -/
theorem Renumbered.strictEq_add_iff (hv : v.Renumbered v') (hw : w.Renumbered w') :
    strictEq (v.add w) (v'.add w') = true ↔ joined v w = joined v' w' := by
  have hnumbers : (v'.isNumber && w'.isNumber) = (v.isNumber && w.isNumber) := by
    rw [hv.isNumber_eq, hw.isNumber_eq]
  unfold joined
  rw [hnumbers]
  cases htext : v.isNumber && w.isNumber with
  | true =>
    obtain ⟨hm, hn⟩ := (Bool.and_eq_true _ _).mp htext
    have hequal : v.add w = v'.add w' := hv.add_eq hw hm hn
    rw [hequal]
    exact iff_of_true (strictEq_refl _ (unambiguous_add v' w')) rfl
  | false =>
    rw [add_eq_text htext, add_eq_text (hnumbers.trans htext)]
    have hstring (s t : String) : strictEq (.string s) (.string t) = true ↔ s = t := by
      simp [strictEq, same]
    rw [hstring, if_neg Bool.false_ne_true, if_neg Bool.false_ne_true]
    constructor
    · intro hdisplay
      -- the operand that is no number is the same, so that its text is too
      rcases Bool.and_eq_false_iff.1 htext with hnumber | hnumber
      · obtain rfl := hv.eq_of_isNumber hnumber
        rw [hw.eq_of_display (by simpa using hdisplay)]
      · obtain rfl := hw.eq_of_isNumber hnumber
        rw [hv.eq_of_display (by simpa using hdisplay)]
    · intro hjoined
      obtain ⟨rfl, hsingleton⟩ := List.cons.inj hjoined
      obtain ⟨rfl, -⟩ := List.cons.inj hsingleton
      rfl

end Value

/-! ## Two runs -/

/-- The lists differ, for the first time, in the spelling of a number. -/
def Differs (seen seen' : List Value) : Prop :=
  ∃ shared m n rest rest', seen = shared ++ .number m :: rest ∧
    seen' = shared ++ .number n :: rest' ∧ m.Respelled n ∧ m.text ≠ n.text

/-- Two runs join the same values, and what is said of them holds, unless they join the texts of one
number in two spellings. -/
def Follows (said : Prop) (seen seen' : List Value) : Prop :=
  said ∧ seen = seen' ∨ Differs seen seen'

namespace Differs

variable {seen seen' : List Value}

theorem append_right (h : Differs seen seen') (more more' : List Value) :
    Differs (seen ++ more) (seen' ++ more') := by
  obtain ⟨shared, m, n, rest, rest', rfl, rfl, hmn, htext⟩ := h
  exact ⟨shared, m, n, rest ++ more, rest' ++ more', by simp, by simp, hmn, htext⟩

theorem append_left (h : Differs seen seen') (before : List Value) :
    Differs (before ++ seen) (before ++ seen') := by
  obtain ⟨shared, m, n, rest, rest', rfl, rfl, hmn, htext⟩ := h
  exact ⟨before ++ shared, m, n, rest, rest', by simp, by simp, hmn, htext⟩

end Differs

namespace Follows

variable {P Q : Prop} {seen seen' more more' : List Value}

theorem nil (h : P) : Follows P [] [] := .inl ⟨h, rfl⟩

theorem imp (h : Follows P seen seen') (hPQ : P → Q) : Follows Q seen seen' :=
  h.imp_left (And.imp_left hPQ)

/-- One part of a run after the other. -/
theorem append (h : Follows P seen seen') (hmore : P → Follows Q more more') :
    Follows Q (seen ++ more) (seen' ++ more') := by
  rcases h with ⟨hP, rfl⟩ | h
  · rcases hmore hP with ⟨hQ, rfl⟩ | hdiffers
    · exact .inl ⟨hQ, rfl⟩
    · exact .inr (hdiffers.append_left seen)
  · exact .inr (h.append_right more more')

end Follows

/-- Two spellings of a value that is joined are told apart if they are different. -/
theorem Value.Renumbered.differs {v v' : Value} (h : v.Renumbered v') (hne : v ≠ v')
    (more more' : List Value) : Differs (v :: more) (v' :: more') := by
  cases h with
  | refl v => exact absurd rfl hne
  | @number m n h =>
    exact ⟨[], m, n, more, more', rfl, rfl, h, h.text_ne fun heq => hne (congrArg _ heq)⟩

theorem Value.Renumbered.follows_add {v v' w w' : Value} (hv : v.Renumbered v')
    (hw : w.Renumbered w') :
    Follows ((v.add w).Renumbered (v'.add w')) (joined v w) (joined v' w') := by
  have hnumbers : (v'.isNumber && w'.isNumber) = (v.isNumber && w.isNumber) := by
    rw [hv.isNumber_eq, hw.isNumber_eq]
  unfold joined
  rw [hnumbers]
  cases htext : v.isNumber && w.isNumber with
  | true =>
    obtain ⟨hm, hn⟩ := (Bool.and_eq_true _ _).mp htext
    rw [hv.add_eq hw hm hn]
    exact .nil (.refl _)
  | false =>
    rw [if_neg Bool.false_ne_true, if_neg Bool.false_ne_true]
    by_cases hvv : v = v'
    · subst hvv
      by_cases hww : w = w'
      · subst hww
        exact .inl ⟨.refl _, rfl⟩
      · exact .inr ((hw.differs hww [] []).append_left [v])
    · exact .inr (hv.differs hvv [w] [w'])

/-! ## Records but for the spelling of numbers -/

namespace Record

/-- The same fields in the same order, and the same values but for the spelling of numbers. -/
def Renumbered (r s : Record) : Prop :=
  List.Forall₂ (fun f g => f.1 = g.1 ∧ f.2.Renumbered g.2) r s

variable {r s : Record} {v w : Value}

namespace Renumbered

theorem get? (h : Renumbered r s) (k : String) :
    ((r.get? k).getD .null).Renumbered ((s.get? k).getD .null) := by
  induction h with
  | nil => exact .refl _
  | @cons f g r s hfg _ ih =>
    obtain ⟨j, v⟩ := f
    obtain ⟨_, w⟩ := g
    obtain ⟨rfl, hvw⟩ := hfg
    rw [Record.get?, Record.get?, List.lookup_cons, List.lookup_cons]
    cases k == j
    · exact ih
    · exact hvw

theorem insert (h : Renumbered r s) (k : String) (hvw : v.Renumbered w) :
    Renumbered (r.insert k v) (s.insert k w) := by
  induction h with
  | nil => exact .cons ⟨rfl, hvw⟩ .nil
  | @cons f g r s hfg hrs ih =>
    obtain ⟨j, x⟩ := f
    obtain ⟨_, y⟩ := g
    obtain ⟨rfl, hxy⟩ := hfg
    rw [Record.insert, Record.insert]
    split
    · exact .cons ⟨rfl, hvw⟩ hrs
    · exact .cons ⟨rfl, hxy⟩ ih

theorem erase (h : Renumbered r s) (k : String) : Renumbered (r.erase k) (s.erase k) := by
  induction h with
  | nil => exact .nil
  | @cons f g r s hfg hrs ih =>
    rw [Record.erase, Record.erase, List.filter_cons, List.filter_cons, hfg.1]
    split
    · exact .cons hfg ih
    · exact ih

end Renumbered

/-- What is seen of a record in one change after another. -/
def along {α : Type} (step : Record → α → Record) (seen : Record → α → List Value) :
    Record → List α → List Value
  | _, [] => []
  | r, a :: as => seen r a ++ along step seen (step r a) as

/-- Changes that follow one another do so also in a row. -/
theorem Renumbered.follows_along {α : Type} {step : Record → α → Record}
    {seen : Record → α → List Value} {as : List α}
    (hstep : ∀ a ∈ as, ∀ r s, Renumbered r s →
      Follows (Renumbered (step r a) (step s a)) (seen r a) (seen s a)) (h : Renumbered r s) :
    Follows (Renumbered (as.foldl step r) (as.foldl step s)) (along step seen r as)
      (along step seen s as) := by
  induction as generalizing r s with
  | nil => exact .nil h
  | cons a as ih =>
    obtain ⟨ha, has⟩ := List.forall_mem_cons.1 hstep
    exact (ha r s h).append fun h => ih has h

end Record

/-! ## What programs see of the spelling -/

/-- The values whose texts are joined by an expression. -/
def Expr.joined (r : Record) : Expr → List Value
  | .literal _ | .field _ => []
  | .not e | .neg e => e.joined r
  | .binary .or a b => a.joined r ++ if (a.eval r).truthy then [] else b.joined r
  | .binary .and a b => a.joined r ++ if (a.eval r).truthy then b.joined r else []
  | .binary .add a b => a.joined r ++ (b.joined r ++ (a.eval r).joined (b.eval r))
  | .binary _ a b => a.joined r ++ b.joined r

def Action.joined (r : Record) : Action → List Value
  | .assign _ e => e.joined r
  | .delete _ => []

def Statement.joined (r : Record) : Statement → List Value
  | .action a => a.joined r
  | .branch condition yes no => condition.joined r ++
    Record.along Action.apply Action.joined r (if (condition.eval r).truthy then yes else no)

/-- The values whose texts are joined by a program. -/
def Program.joined (r : Record) (p : Program) : List Value :=
  Record.along Statement.apply Statement.joined r p

section Programs

variable {r s : Record}

theorem Expr.follows_eval (h : r.Renumbered s) (e : Expr) :
    Follows ((e.eval r).Renumbered (e.eval s)) (e.joined r) (e.joined s) := by
  induction e with
  | literal v => exact .nil (.refl v)
  | field name => exact .nil (h.get? name)
  | not e ih =>
    refine ih.imp fun hv => ?_
    rw [eval, eval, hv.truthy_eq]
    exact .refl _
  | neg e ih =>
    refine ih.imp fun hv => ?_
    rw [eval, eval, hv.neg_eq]
    exact .refl _
  | binary op a b iha ihb =>
    have both {P : Prop} (hP : (a.eval r).Renumbered (a.eval s) →
        (b.eval r).Renumbered (b.eval s) → P) :
        Follows P (a.joined r ++ b.joined r) (a.joined s ++ b.joined s) :=
      iha.append fun hv => ihb.imp (hP hv)
    cases op with
    | or =>
      refine iha.append fun hv => ?_
      simp only [eval, BinaryOp.eval, hv.truthy_eq]
      split
      · rename_i htrue
        simp only [htrue, Bool.true_or]
        exact .nil (.refl _)
      · refine ihb.imp fun hw => ?_
        rw [hw.truthy_eq]
        exact .refl _
    | and =>
      refine iha.append fun hv => ?_
      simp only [eval, BinaryOp.eval, hv.truthy_eq]
      split
      · refine ihb.imp fun hw => ?_
        rw [hw.truthy_eq]
        exact .refl _
      · rename_i hfalse
        simp only [hfalse, Bool.false_and]
        exact .nil (.refl _)
    | compare c =>
      refine both fun hv hw => ?_
      rw [eval, eval, BinaryOp.eval, BinaryOp.eval, hv.holds_eq hw]
      exact .refl _
    | add => exact iha.append fun hv => ihb.append fun hw => hv.follows_add hw
    | sub =>
      refine both fun hv hw => ?_
      rw [eval, eval, BinaryOp.eval, BinaryOp.eval, hv.sub_eq hw]
      exact .refl _

theorem Action.follows_apply (h : r.Renumbered s) (a : Action) :
    Follows ((a.apply r).Renumbered (a.apply s)) (a.joined r) (a.joined s) := by
  cases a with
  | assign name e => exact (e.follows_eval h).imp (h.insert name)
  | delete name => exact .nil (h.erase name)

/-- Both runs take the same side of a branch. -/
theorem Statement.follows_apply (h : r.Renumbered s) (x : Statement) :
    Follows ((x.apply r).Renumbered (x.apply s)) (x.joined r) (x.joined s) := by
  cases x with
  | action a => exact a.follows_apply h
  | branch condition yes no =>
    refine (condition.follows_eval h).append fun hv => ?_
    rw [apply, apply, hv.truthy_eq]
    exact h.follows_along fun a _ r s hrs => a.follows_apply hrs

theorem Program.follows_apply (h : r.Renumbered s) (p : Program) :
    Follows ((p.apply r).Renumbered (p.apply s)) (p.joined r) (p.joined s) :=
  h.follows_along fun x _ _ _ hrs => x.follows_apply hrs

end Programs

namespace Record

/-- The same fields in the same order, with equal values. -/
def Equal (r s : Record) : Prop :=
  List.Forall₂ (fun f g => f.1 = g.1 ∧ f.2.strictEq g.2 = true) r s

instance (r s : Record) : Decidable (Equal r s) :=
  inferInstanceAs (Decidable (List.Forall₂ _ r s))

/-- Values that are the same but for the spelling of a number are equal. -/
theorem Renumbered.equal {r s : Record} (h : Renumbered r s) (hr : (Value.object r).Unambiguous) :
    Equal r s := by
  have hvalues := (Value.Unambiguous.object_iff.1 hr).2
  refine ((List.forall₂_and_left r s).2 ⟨hvalues, h⟩).imp fun f g ⟨hf, hname, hfg⟩ => ?_
  have hequal := (Value.Renumbered.refl f.2).strictEq_eq hfg
  exact ⟨hname, hequal ▸ Value.strictEq_refl f.2 hf⟩

end Record

namespace Program

/-- **A program sees how a number is spelled only where it joins its text.** On records that are the
same but for the spelling of numbers, a program that was read gives equal results with the same
fields in the same order, unless the texts that are joined differ, for the first time, in two
spellings of a number. So it does if no number is joined that has another spelling. And sums of
operands that are the same but for the spelling of numbers are equal exactly if the same values are
joined. -/
theorem apply_renumbered : ∀ text p, parse text = .ok p → ∀ r s : Record,
    (Value.object r).Unambiguous → r.Renumbered s →
    Follows (Record.Equal (p.apply r) (p.apply s)) (p.joined r) (p.joined s) ∧
    ((∀ m, .number m ∈ p.joined r → ∀ n, m.Respelled n → m = n) →
      Record.Equal (p.apply r) (p.apply s)) ∧
    ∀ a b : Expr, (a.eval r).Renumbered (a.eval s) → (b.eval r).Renumbered (b.eval s) →
      (((Expr.binary .add a b).eval r).strictEq ((Expr.binary .add a b).eval s) = true ↔
        (a.eval r).joined (b.eval r) = (a.eval s).joined (b.eval s)) := by
  intro text p hp r s hr hrs
  have hfollows : Follows (Record.Equal (p.apply r) (p.apply s)) (p.joined r) (p.joined s) :=
    (p.follows_apply hrs).imp fun h => h.equal (lawful_apply hp r hr)
  refine ⟨hfollows, fun hfixed => ?_, fun a b hv hw => hv.strictEq_add_iff hw⟩
  rcases hfollows with ⟨hequal, -⟩ | ⟨shared, m, n, rest, rest', hseen, -, hmn, htext⟩
  · exact hequal
  · have hmem : .number m ∈ p.joined r := by simp [hseen]
    exact absurd (congrArg Number.text (hfixed m hmem n hmn)) htext

/-- A number is added to and compared, a text is joined to another one. -/
def hitText : String := "t = n + 0; if n > 0 then hit = 'x' + name"

def hitProgram : Program :=
  [.action (.assign "t"
      (.binary .add (.field "n") (.literal (.number (.int 0 Number.isWord_zero))))),
    .branch (.binary (.compare .gt) (.field "n") (.literal (.number (.int 0 Number.isWord_zero))))
      [.assign "hit" (.binary .add (.literal (.string "x")) (.field "name"))] []]

theorem apply_renumbered_hitProgram :
    let one : Number := .int 1 (by decide)
    let floatOne : Number := .float one.toBinary64
    let r : Record := [("n", .number one), ("name", .string "a")]
    let s : Record := [("n", .number floatOne), ("name", .string "a")]
    parse hitText = .ok hitProgram ∧ (Value.object r).Unambiguous ∧ r.Renumbered s ∧
      (∀ m, .number m ∈ hitProgram.joined r → ∀ n, m.Respelled n → m = n) ∧
      Record.Equal (hitProgram.apply r) (hitProgram.apply s) ∧
      hitProgram.apply r = [("n", .number one), ("name", .string "a"), ("t", .number one),
        ("hit", .string "xa")] := by
  intro one floatOne r s
  have hparse : parse hitText = .ok hitProgram := by decide +kernel
  have hr : (Value.object r).Unambiguous := by decide
  have hone : one.Respelled floatOne :=
    (Number.respelled_float_iff (by decide)).2 (beq_self_eq_true _)
  have hrs : r.Renumbered s := .cons ⟨rfl, .number hone⟩ (.cons ⟨rfl, .refl _⟩ .nil)
  have hjoined : hitProgram.joined r = [.string "x", .string "a"] := by decide +kernel
  have hfixed : ∀ m, .number m ∈ hitProgram.joined r → ∀ n, m.Respelled n → m = n := by
    simp [hjoined]
  obtain ⟨-, hequal, -⟩ := apply_renumbered _ _ hparse r s hr hrs
  exact ⟨hparse, hr, hrs, hfixed, hequal hfixed, by decide +kernel⟩

/-- A number is joined to an empty text. -/
def noteProgramOfNumber : Program :=
  [.action (.assign "s" (.binary .add (.field "n") (.literal (.string ""))))]

/-- One number in two spellings makes two texts. -/
theorem not_equal_of_joined_number :
    let one : Number := .int 1 (by decide)
    let floatOne : Number := .float one.toBinary64
    parse "s = n + ''" = .ok noteProgramOfNumber ∧
      Record.Renumbered [("n", .number one)] [("n", .number floatOne)] ∧
      noteProgramOfNumber.apply [("n", .number one)] =
        [("n", .number one), ("s", .string "1")] ∧
      noteProgramOfNumber.apply [("n", .number floatOne)] =
        [("n", .number floatOne), ("s", .string "1.0")] ∧
      ¬ Record.Equal [("n", .number one), ("s", .string "1")]
        [("n", .number floatOne), ("s", .string "1.0")] := by
  intro one floatOne
  have hone : one.Respelled floatOne :=
    (Number.respelled_float_iff (by decide)).2 (beq_self_eq_true _)
  exact ⟨by decide +kernel, .cons ⟨rfl, .number hone⟩ .nil, by decide +kernel, by decide +kernel,
    by decide +kernel⟩

end Program

end Reshape
