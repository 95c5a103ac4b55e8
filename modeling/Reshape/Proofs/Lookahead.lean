import Reshape.Proofs.Grammar

/-!
# Reading with one token of lookahead

What a reader makes of tokens depends on the tokens that it passes and on the next one: where it
stops, whether it has read something or not, other tokens may follow that one. So no program goes on
with the tokens up to the one that a reader refuses.

* `Reader.Settles`: an outcome that a reader has on all tokens that are the same up to the first one
  it leaves (`Settles.take`, `Settles.refuse`, `Settles.pass`, `Settles.map`, `Settles.bind`).
* `Reader.Follows`: a reader has the outcomes of another one. Parentheses are read at two depths by
  two readers, so `Expr.follows_readNested` compares these as far as both are deep enough.
* `Reader.Local`: a reader has its own outcomes. `Expr.local_read`, `Action.local_readList` and
  `Statement.local_read` say so of the readers.
* `Program.read_refuses`, `Program.not_derives_of_read`: refused tokens begin no program.
-/

namespace Reshape

/-! ## Outcomes -/

namespace Reading

variable {α β : Type}

/-- The tokens that are left. -/
def rest : Reading α → List Token
  | .ok (_, ts) | .error (_, ts) => ts

/-- The same outcome with other tokens left. -/
def leaving (x : Reading α) (ts : List Token) : Reading α :=
  match x with
  | .ok (a, _) => .ok (a, ts)
  | .error (c, _) => .error (c, ts)

/-- What is read of the tokens that are left, unless there was an error before. -/
def bind (x : Reading α) (f : α → Reader β) : Reading β :=
  match x with
  | .ok (a, ts) => f a ts
  | .error e => .error e

end Reading

namespace Reader

variable {α β : Type} {n m : Nat} {read read' : Reader α} {x : Reading α} {t : Token}
  {ts us : List Token}

/-- The outcome leaves some of the tokens, and the reader has the same outcome, with what it leaves,
wherever the tokens are the same up to the first of those; if less than `n` tokens are passed. -/
def Settles (n : Nat) (read : Reader α) (ts : List Token) (x : Reading α) : Prop :=
  ∃ used, ts = used ++ x.rest ∧ (used.length < n →
    ∀ more, more.head? = x.rest.head? → read (used ++ more) = x.leaving more)

/-- What the one reader has as outcomes the other one has too. -/
def Follows (n : Nat) (read read' : Reader α) : Prop := ∀ ts, Settles n read' ts (read ts)

/-- The outcomes of the reader do not depend on more than one token that it does not pass. -/
def Local (read : Reader α) : Prop := ∀ n, Follows n read read

namespace Settles

/-- If no tokens may be passed, any reader will do. -/
theorem zero (h : Settles n read ts x) : Settles 0 read' ts x := by
  obtain ⟨used, hused, -⟩ := h
  exact ⟨used, hused, fun hlt => absurd hlt (Nat.not_lt_zero _)⟩

theorem read_eq (h : Settles n read ts x) {used more : List Token} (hused : ts = used ++ x.rest)
    (hlt : used.length < n) (hmore : more.head? = x.rest.head?) :
    read (used ++ more) = x.leaving more := by
  obtain ⟨used', hused', hread⟩ := h
  obtain rfl : used' = used := List.append_cancel_right (hused'.symm.trans hused)
  exact hread hlt more hmore

theorem mono (h : Settles n read ts x) (hm : m ≤ n) : Settles m read ts x := by
  obtain ⟨used, hused, hread⟩ := h
  exact ⟨used, hused, fun hlt => hread (Nat.lt_of_lt_of_le hlt hm)⟩

/-- No tokens are passed. -/
theorem stay (hx : x.rest = ts) (h : ∀ more, more.head? = ts.head? → read more = x.leaving more) :
    Settles n read ts x :=
  ⟨[], hx.symm, fun _ more hmore => h more (hx ▸ hmore)⟩

theorem nil (hx : x.rest = []) (h : read [] = x) : Settles n read [] x := by
  refine stay hx fun more hmore => ?_
  obtain rfl := List.head?_eq_none_iff.1 hmore
  rw [h]
  cases x <;> exact congrArg _ (Prod.ext rfl hx)

/-- One token is looked at and left there. -/
theorem look (hx : x.rest = t :: ts) (h : ∀ us, read (t :: us) = x.leaving (t :: us)) :
    Settles n read (t :: ts) x := by
  refine stay hx fun more hmore => ?_
  obtain ⟨us, rfl⟩ := List.head?_eq_some_iff.1 hmore
  exact h us

theorem refuse {c : SyntaxCause} (h : ∀ us, read (t :: us) = .error (c, t :: us)) :
    Settles n read (t :: ts) (.error (c, t :: ts)) :=
  look rfl h

/-- One token is passed before the others. -/
theorem cons (h : Settles n (fun us => read (t :: us)) ts x) :
    Settles (n + 1) read (t :: ts) x := by
  obtain ⟨used, hused, hread⟩ := h
  exact ⟨t :: used, congrArg (t :: ·) hused, fun hlt => hread (Nat.lt_of_succ_lt_succ hlt)⟩

theorem pass (h : Settles n (fun us => read (t :: us)) ts x) : Settles n read (t :: ts) x :=
  h.cons.mono (Nat.le_succ n)

theorem take {a : α} (h : ∀ us, read (t :: us) = .ok (a, us)) :
    Settles n read (t :: ts) (.ok (a, ts)) := by
  have hrest : Settles n (fun us => read (t :: us)) ts (.ok (a, ts)) := stay rfl fun us _ => h us
  exact hrest.pass

theorem map (h : Settles n read ts x) (f : α → β) :
    Settles n (fun us => (read us).map f) ts (x.map f) := by
  obtain ⟨used, hused, hread⟩ := h
  have hrest : (x.map f).rest = x.rest := by cases x <;> rfl
  refine ⟨used, by rwa [hrest], fun hlt more hmore => ?_⟩
  rw [hrest] at hmore
  change (read (used ++ more)).map f = _
  rw [hread hlt more hmore]
  cases x <;> rfl

theorem congr (h : Settles n read ts x) (heq : ∀ us, us.head? = ts.head? → read' us = read us) :
    Settles n read' ts x := by
  obtain ⟨used, hused, hread⟩ := h
  refine ⟨used, hused, fun hlt more hmore => ?_⟩
  rw [heq (used ++ more) (by rw [hused, List.head?_append, List.head?_append, hmore]),
    hread hlt more hmore]

theorem congr_cons (h : Settles n read (t :: ts) x)
    (heq : ∀ us, read' (t :: us) = read (t :: us)) : Settles n read' (t :: ts) x := by
  refine h.congr fun us hus => ?_
  obtain ⟨vs, rfl⟩ := List.head?_eq_some_iff.1 hus
  exact heq vs

/-- What is settled one after another is settled. -/
theorem bind {f g : α → Reader β} (h : Settles n read ts x)
    (hf : ∀ a us, x = .ok (a, us) → Settles n (g a) us (f a us)) :
    Settles n (fun us => (read us).bind g) ts (x.bind f) := by
  obtain ⟨used, hused, hread⟩ := h
  cases x with
  | error e =>
    refine ⟨used, hused, fun hlt more hmore => ?_⟩
    change (read (used ++ more)).bind g = _
    rw [hread hlt more hmore]
    rfl
  | ok p =>
    obtain ⟨a, us⟩ := p
    obtain ⟨used', hused', hread'⟩ := hf a us rfl
    change ts = used ++ us at hused
    refine ⟨used ++ used', ?_, fun hlt more hmore => ?_⟩
    · rw [List.append_assoc]
      exact hused.trans (congrArg (used ++ ·) hused')
    · rw [List.length_append] at hlt
      have hhead : (used' ++ more).head? = us.head? := by
        rw [hused', List.head?_append, List.head?_append]
        exact congrArg _ hmore
      change (read (used ++ used' ++ more)).bind g = _
      rw [List.append_assoc, hread (by omega) (used' ++ more) hhead]
      exact hread' (by omega) more hmore

end Settles

end Reader

/-! ## Expressions -/

namespace Expr

open Reader

variable {n : Nat}

section Chain

variable {op? : Token → Option BinaryOp} {operand operand' : Reader Expr}
  {D D' : List Token → Expr → Prop}

theorem readJoined_eq_bind (op? : Token → Option BinaryOp) (operand : Reader Expr)
    (ts : List Token) : readJoined op? operand ts =
      (operand ts).bind fun left us => readChain op? operand us.length left us := by
  rw [readJoined]
  cases operand ts <;> rfl

theorem readChain_cons (hs : Sound operand D) {t : Token} {op : BinaryOp} (hop : op? t = some op)
    (left : Expr) (ts : List Token) :
    readChain op? operand (t :: ts).length left (t :: ts) = (operand ts).bind fun right us =>
      readChain op? operand us.length (.binary op left right) us := by
  simp only [List.length_cons, readChain, hop]
  cases h : operand ts with
  | error e => rfl
  | ok p => exact readChain_fuel hs (hs.length_le h) (Nat.le_refl _)

theorem follows_readJoined (hs : Sound operand D) (hs' : Sound operand' D')
    (ho : Follows n operand operand') :
    Follows n (readJoined op? operand) (readJoined op? operand') := by
  have chain : ∀ m us left, us.length ≤ m →
      Settles n (fun us => readChain op? operand' us.length left us) us
        (readChain op? operand us.length left us) := by
    intro m
    induction m with
    | zero =>
      intro us left hm
      obtain rfl := List.length_eq_zero_iff.1 (Nat.le_zero.1 hm)
      exact .nil rfl rfl
    | succ m ih =>
      intro us left hm
      cases us with
      | nil => exact .nil rfl rfl
      | cons t us =>
        cases hop : op? t with
        | none =>
          have hend (operand : Reader Expr) (us : List Token) :
              readChain op? operand (t :: us).length left (t :: us) = .ok (left, t :: us) :=
            readChain_of_head fun u hu => by cases hu; exact hop
          rw [hend]
          exact .look rfl fun us => hend operand' us
        | some op =>
          rw [readChain_cons hs hop]
          refine .pass ?_
          simp only [readChain_cons hs' hop]
          refine (ho us).bind fun right vs hread => ih vs _ ?_
          have := hs.length_le hread
          simp only [List.length_cons] at hm
          omega
  intro ts
  rw [readJoined_eq_bind, funext (readJoined_eq_bind op? operand')]
  exact (ho ts).bind fun left us _ => chain _ us left (Nat.le_refl _)

end Chain

/-- What has to follow an expression between parentheses. -/
def readClose (e : Expr) : Reader Expr
  | .closeParen :: ts => .ok (e, ts)
  | ts => .error (.expectedClose, ts)

/-- What a sum may be compared with. -/
def readCompared (inner : Reader Expr) (left : Expr) : Reader Expr
  | .comparison c :: ts => (readSum inner ts).map (.binary (.compare c) left)
  | ts => .ok (left, ts)

theorem readPrimary_openParen (inner : Reader Expr) (ts : List Token) :
    readPrimary inner (.openParen :: ts) = (inner ts).bind readClose := by
  rw [readPrimary]
  rcases inner ts with e | ⟨e, us⟩
  · rfl
  · cases us with
    | nil => rfl
    | cons t us => cases t <;> rfl

theorem readComparison_eq_bind (inner : Reader Expr) (ts : List Token) :
    readComparison inner ts = (readSum inner ts).bind (readCompared inner) := by
  rw [readComparison]
  rcases readSum inner ts with e | ⟨e, us⟩
  · rfl
  · cases us with
    | nil => rfl
    | cons t us => cases t <;> rfl

theorem follows_readClose (e : Expr) : Follows n (readClose e) (readClose e) := by
  intro ts
  cases ts with
  | nil => exact .nil rfl rfl
  | cons t ts =>
    cases t with
    | closeParen => exact .take fun _ => rfl
    | _ => exact .refuse fun _ => rfl

section Levels

variable {inner inner' : Reader Expr} (hs : Sound inner (Derives .or))
  (hs' : Sound inner' (Derives .or)) (hi : Follows n inner inner')

include hi

theorem follows_readPrimary : Follows (n + 1) (readPrimary inner) (readPrimary inner') := by
  intro ts
  cases ts with
  | nil => exact .nil rfl rfl
  | cons t ts =>
    cases t with
    | literal | field => exact .take fun _ => rfl
    | keyword k =>
      cases k with
      | true | false | null => exact .take fun _ => rfl
      | _ => exact .refuse fun _ => rfl
    | openParen =>
      rw [readPrimary_openParen]
      refine .cons ?_
      simp only [readPrimary_openParen]
      exact (hi ts).bind fun e us _ => follows_readClose e us
    | _ => exact .refuse fun _ => rfl

theorem follows_readUnary : Follows (n + 1) (readUnary inner) (readUnary inner') := by
  intro ts
  induction ts using readUnary.induct with
  | case1 ts ih =>
    rw [readUnary]
    refine .pass ?_
    simp only [readUnary]
    exact ih.map Expr.neg
  | case2 ts hts =>
    rw [readUnary]
    · refine (follows_readPrimary hi ts).congr fun us hus => ?_
      rw [readUnary]
      rintro vs rfl
      obtain ⟨ws, rfl⟩ := List.head?_eq_some_iff.1 hus.symm
      exact hts ws rfl
    · exact hts

include hs hs'

theorem follows_readSum : Follows (n + 1) (readSum inner) (readSum inner') :=
  follows_readJoined (sound_readUnary hs) (sound_readUnary hs') (follows_readUnary hi)

theorem follows_readComparison :
    Follows (n + 1) (readComparison inner) (readComparison inner') := by
  have compared (left : Expr) :
      Follows (n + 1) (readCompared inner left) (readCompared inner' left) := by
    intro ts
    cases ts with
    | nil => exact .nil rfl rfl
    | cons t ts =>
      cases t with
      | comparison c =>
        exact .pass ((follows_readSum hs hs' hi ts).map _)
      | _ => exact .look rfl fun _ => rfl
  intro ts
  rw [readComparison_eq_bind, funext (readComparison_eq_bind inner')]
  exact (follows_readSum hs hs' hi ts).bind fun left us _ => compared left us

theorem follows_readNot : Follows (n + 1) (readNot inner) (readNot inner') := by
  intro ts
  induction ts using readNot.induct with
  | case1 ts ih =>
    rw [readNot]
    refine .pass ?_
    simp only [readNot]
    exact ih.map Expr.not
  | case2 ts hts =>
    rw [readNot]
    · refine (follows_readComparison hs hs' hi ts).congr fun us hus => ?_
      rw [readNot]
      rintro vs rfl
      obtain ⟨ws, rfl⟩ := List.head?_eq_some_iff.1 hus.symm
      exact hts ws rfl
    · exact hts

theorem follows_readAnd : Follows (n + 1) (readAnd inner) (readAnd inner') :=
  follows_readJoined (sound_readNot hs) (sound_readNot hs') (follows_readNot hs hs' hi)

theorem follows_readWith : Follows (n + 1) (readWith inner) (readWith inner') :=
  follows_readJoined (sound_readAnd hs) (sound_readAnd hs') (follows_readAnd hs hs' hi)

end Levels

/-- Readers of two depths do not differ as long as no more tokens are passed than both are deep. -/
theorem follows_readNested {n d d' : Nat} (hd : n ≤ d) (hd' : n ≤ d') :
    Follows n (readNested d) (readNested d') := by
  induction d generalizing n d' with
  | zero =>
    obtain rfl := Nat.le_zero.1 hd
    exact fun ts => ⟨[], rfl, fun hlt => absurd hlt (Nat.not_lt_zero _)⟩
  | succ d ih =>
    have hs := sound_readNested
    cases n with
    | zero =>
      have hself : Follows 0 (readNested d) (readNested d) := ih (Nat.zero_le d) (Nat.zero_le d)
      exact fun ts => (follows_readWith (hs d) (hs d) hself ts).zero
    | succ n =>
      obtain ⟨d', rfl⟩ : ∃ k, d' = k + 1 := ⟨d' - 1, by omega⟩
      exact follows_readWith (hs d) (hs d')
        (ih (Nat.le_of_succ_le_succ hd) (Nat.le_of_succ_le_succ hd'))

theorem local_read : Local read := by
  intro n ts
  obtain ⟨used, hused, -⟩ : Settles 0 read ts (read ts) :=
    (follows_readNested (Nat.zero_le _) (Nat.zero_le 0) ts).zero
  refine ⟨used, hused, fun _ more hmore => ?_⟩
  -- both are read deep enough for the tokens that are passed
  have hdeep : Settles (used.length + 1) (readNested ((used ++ more).length + 1)) ts (read ts) := by
    refine follows_readNested (Nat.succ_le_succ ?_) (Nat.succ_le_succ (by simp)) ts
    rw [hused, List.length_append]
    exact Nat.le_add_right ..
  exact hdeep.read_eq hused (Nat.lt_succ_self _) hmore

end Expr

/-! ## Actions and statements -/

namespace Action

open Reader

/-- What has to follow the name of a field that is assigned. -/
def readAssigned (name : String) : Reader Action
  | .assign :: ts => (Expr.read ts).map (.assign name)
  | ts => .error (.expectedAssign, ts)

/-- The actions that follow an action. -/
def readMore (a : Action) : Reader (List Action)
  | .comma :: ts => (readList ts).map (a :: ·)
  | ts => .ok ([a], ts)

theorem read_field (name : String) (ts : List Token) :
    read (.field name :: ts) = readAssigned name ts := by
  cases ts with
  | nil => rfl
  | cons t ts => cases t <;> rfl

/-- Any fuel that is not less than the number of tokens is enough. -/
theorem readListWith_fuel {m n : Nat} {ts : List Token} (hm : ts.length ≤ m) (hn : ts.length ≤ n) :
    readListWith m ts = readListWith n ts := by
  induction m generalizing n ts with
  | zero =>
    obtain rfl := List.length_eq_zero_iff.1 (Nat.le_zero.1 hm)
    cases n <;> rfl
  | succ m ih =>
    cases n with
    | zero =>
      obtain rfl := List.length_eq_zero_iff.1 (Nat.le_zero.1 hn)
      rfl
    | succ n =>
      rw [readListWith, readListWith]
      split
      · rfl
      · rename_i a us hread
        have := sound_read.length_le hread
        simp only [List.length_cons] at this
        have hrest : readListWith m us = readListWith n us := ih (by omega) (by omega)
        rw [hrest]
      · rfl

theorem readList_eq_bind (ts : List Token) : readList ts = (read ts).bind readMore := by
  rw [readList]
  cases ts with
  | nil => rfl
  | cons t ts =>
    rw [List.length_cons, readListWith]
    rcases hread : read (t :: ts) with e | ⟨a, us⟩
    · rfl
    · cases us with
      | nil => rfl
      | cons u us =>
        cases u with
        | comma =>
          have := sound_read.length_le hread
          simp only [List.length_cons] at this
          have hrest : readListWith ts.length us = readList us :=
            readListWith_fuel (by omega) (Nat.le_refl _)
          exact congrArg (Reading.map (a :: ·)) hrest
        | _ => rfl

theorem local_readFieldName : Local readFieldName := by
  intro n ts
  cases ts with
  | nil => exact .nil rfl rfl
  | cons t ts =>
    cases t with
    | field name => exact .take fun _ => rfl
    | _ => exact .refuse fun _ => rfl

theorem local_readAssigned (name : String) : Local (readAssigned name) := by
  intro n ts
  cases ts with
  | nil => exact .nil rfl rfl
  | cons t ts =>
    cases t with
    | assign => exact .pass ((Expr.local_read n ts).map _)
    | _ => exact .refuse fun _ => rfl

theorem local_read : Local read := by
  intro n ts
  cases ts with
  | nil => exact .nil rfl rfl
  | cons t ts =>
    cases t with
    | keyword k =>
      cases k with
      | delete => exact .pass ((local_readFieldName n ts).map _)
      | _ => exact .refuse fun _ => rfl
    | field name =>
      rw [read_field]
      refine .pass ?_
      simp only [read_field]
      exact local_readAssigned name n ts
    | _ => exact .refuse fun _ => rfl

theorem local_readList : Local readList := by
  intro n ts
  induction h : ts.length using Nat.strong_induction_on generalizing ts with
  | _ m ih =>
    rw [readList_eq_bind, funext readList_eq_bind]
    refine (local_read n ts).bind fun a us hread => ?_
    cases us with
    | nil => exact .nil rfl rfl
    | cons t us =>
      cases t with
      | comma =>
        have := sound_read.length_le hread
        simp only [List.length_cons] at this
        exact .pass ((ih us.length (by omega) us rfl).map _)
      | _ => exact .look rfl fun _ => rfl

end Action

namespace Statement

open Reader

/-- What may follow the first actions of a branch. -/
def readElse (condition : Expr) (yes : List Action) : Reader Statement
  | .keyword .else :: ts => (Action.readList ts).map (.branch condition yes)
  | ts => .ok (.branch condition yes [], ts)

/-- What has to follow the condition of a branch. -/
def readThen (condition : Expr) : Reader Statement
  | .keyword .then :: ts => (Action.readList ts).bind (readElse condition)
  | ts => .error (.expectedThen, ts)

theorem read_if (ts : List Token) :
    read (.keyword .if :: ts) = (Expr.read ts).bind readThen := by
  rw [read]
  rcases Expr.read ts with e | ⟨condition, us⟩
  · rfl
  · cases us with
    | nil => rfl
    | cons t us =>
      cases t with
      | keyword k =>
        cases k with
        | «then» =>
          change _ = (Action.readList us).bind (readElse condition)
          dsimp only
          rcases Action.readList us with e | ⟨yes, vs⟩
          · rfl
          · cases vs with
            | nil => rfl
            | cons t vs =>
              cases t with
              | keyword k => cases k <;> rfl
              | _ => rfl
        | _ => rfl
      | _ => rfl

theorem read_of_ne {t : Token} (ht : t ≠ .keyword .if) (ts : List Token) :
    read (t :: ts) = (Action.read (t :: ts)).map .action := by
  rw [read]
  rintro us h
  cases h
  exact ht rfl

theorem local_readElse (condition : Expr) (yes : List Action) : Local (readElse condition yes) := by
  intro n ts
  cases ts with
  | nil => exact .nil rfl rfl
  | cons t ts =>
    cases t with
    | keyword k =>
      cases k with
      | «else» =>
        exact .pass ((Action.local_readList n ts).map _)
      | _ => exact .look rfl fun _ => rfl
    | _ => exact .look rfl fun _ => rfl

theorem local_readThen (condition : Expr) : Local (readThen condition) := by
  intro n ts
  cases ts with
  | nil => exact .nil rfl rfl
  | cons t ts =>
    cases t with
    | keyword k =>
      cases k with
      | «then» =>
        exact .pass ((Action.local_readList n ts).bind fun yes us _ =>
          local_readElse condition yes n us)
      | _ => exact .refuse fun _ => rfl
    | _ => exact .refuse fun _ => rfl

theorem local_read : Local read := by
  intro n ts
  cases ts with
  | nil => exact .nil rfl rfl
  | cons t ts =>
    by_cases ht : t = .keyword .if
    · subst ht
      rw [read_if]
      refine .pass ?_
      simp only [read_if]
      exact (Expr.local_read n ts).bind fun condition us _ => local_readThen condition n us
    · rw [read_of_ne ht]
      exact ((Action.local_read n (t :: ts)).map _).congr_cons (read_of_ne ht)

end Statement

/-! ## Programs -/

namespace Program

open Reader

variable {n : Nat}

/-- Statements up to the end of the tokens, as a reader that leaves none of them. -/
def readAll (fuel : Nat) : Reader Program := fun ts => (readWith fuel ts).map (·, [])

/-- What may follow a statement. -/
def readAfter (fuel : Nat) (s : Statement) : Reader Program
  | [] => .ok ([s], [])
  | .semicolon :: ts => (readAll fuel ts).map (s :: ·)
  | ts => .error (.expectedSemicolon, ts)

theorem readAll_statement {t : Token} (ht : t ≠ .semicolon) (fuel : Nat) (ts : List Token) :
    readAll (fuel + 1) (t :: ts) = (Statement.read (t :: ts)).bind (readAfter fuel) := by
  rw [readAll, readWith]
  · rcases Statement.read (t :: ts) with e | ⟨s, us⟩
    · rfl
    · cases us with
      | nil => rfl
      | cons u us =>
        cases u with
        | semicolon =>
          change Except.map _ ((readWith fuel us).map (s :: ·)) =
            Reading.map _ ((readWith fuel us).map _)
          cases readWith fuel us <;> rfl
        | _ => rfl
  · simp
  · rintro us h
    cases h
    exact ht rfl

section Fuel

variable {k m : Nat} (h : Follows (n - 1) (readAll k) (readAll m))

include h

theorem follows_readAfter (s : Statement) : Follows n (readAfter k s) (readAfter m s) := by
  intro ts
  cases ts with
  | nil => exact .nil rfl rfl
  | cons t ts =>
    cases t with
    | semicolon => exact (Settles.cons ((h ts).map _)).mono (by omega)
    | _ => exact .refuse fun _ => rfl

theorem follows_readAll_succ : Follows n (readAll (k + 1)) (readAll (m + 1)) := by
  intro ts
  cases ts with
  | nil => exact .nil rfl rfl
  | cons t ts =>
    by_cases ht : t = .semicolon
    · subst ht
      exact (Settles.cons (h ts)).mono (by omega)
    · rw [readAll_statement ht]
      have hstatement := (Statement.local_read n (t :: ts)).bind fun s us _ =>
        follows_readAfter h s us
      exact hstatement.congr_cons (readAll_statement ht m)

end Fuel

/-- Programs are read alike with any fuel that is enough for the tokens that are passed. -/
theorem follows_readAll {n k m : Nat} (hk : n ≤ k) (hm : n ≤ m) :
    Follows n (readAll k) (readAll m) := by
  induction k generalizing n m with
  | zero =>
    obtain rfl := Nat.le_zero.1 hk
    intro ts
    cases ts with
    | nil => exact .nil rfl (by cases m <;> rfl)
    | cons t ts => exact ⟨[], rfl, fun hlt => absurd hlt (Nat.not_lt_zero _)⟩
  | succ k ih =>
    cases m with
    | zero =>
      obtain rfl := Nat.le_zero.1 hm
      have hstep : Follows 0 (readAll (k + 1)) (readAll (0 + 1)) :=
        follows_readAll_succ (ih (Nat.zero_le k) (Nat.zero_le 0))
      exact fun ts => (hstep ts).zero
    | succ m => exact follows_readAll_succ (ih (by omega) (by omega))

/-- **Refused tokens are refused whatever follows the first of them.** -/
theorem read_refuses {ts us : List Token} {t : Token} {c : SyntaxCause}
    (h : read ts = .error (c, t :: us)) :
    ∃ used, ts = used ++ t :: us ∧
      ∀ more, read (used ++ t :: more) = .error (c, t :: more) := by
  have hx : readAll ts.length ts = .error (c, t :: us) := congrArg (Except.map (·, [])) h
  obtain ⟨used, hused, -⟩ := follows_readAll (Nat.zero_le ts.length) (Nat.zero_le 0) ts
  rw [hx] at hused
  refine ⟨used, hused, fun more => ?_⟩
  have hdeep : Settles (used.length + 1) (readAll (used ++ t :: more).length) ts
      (.error (c, t :: us)) := by
    rw [← hx]
    exact follows_readAll (by rw [hused]; simp [Reading.rest]) (by simp) ts
  have hmore : Except.map (·, []) (read (used ++ t :: more)) = .error (c, t :: more) :=
    hdeep.read_eq hused (Nat.lt_succ_self _) rfl
  cases hr : read (used ++ t :: more) with
  | ok p => rw [hr] at hmore; cases hmore
  | error e =>
    rw [hr] at hmore
    injection hmore with he
    rw [he]

/-- Refused tokens up to and with the one that they are refused at begin no program. -/
theorem not_derives_of_read {ts us : List Token} {t : Token} {c : SyntaxCause}
    (h : read ts = .error (c, t :: us)) :
    ∃ used, ts = used ++ t :: us ∧ ∀ more p, ¬ Derives (used ++ t :: more) p := by
  obtain ⟨used, hused, hread⟩ := read_refuses h
  refine ⟨used, hused, fun more p hp => ?_⟩
  exact nomatch (hread more).symm.trans (read_eq_ok_iff.2 hp)

end Program

end Reshape
