import Reshape.Expression.Eval
import Reshape.Proofs.Joining

/-!
# The fields that a program names

A program changes no fields but those that it assigns or deletes, and what it makes of these depends
on them and on the fields that it reads.

* `Program.targets`, `Program.reads`: the fields that are assigned or deleted, and those that
  conditions and assigned expressions mention.
* `Record.ChangedWithin`: all other fields are as they were, in their order, before what is new
  (`refl`, `trans`, `insert`, `erase`). `Program.changedWithin_apply`: programs change records so.
* `Record.AgreeOn`: two records have the same of some fields. `Program.agreeOn_apply`: they go on to
  do so if what is read is among these fields.
* `Program.apply_scoped`: both for the fields that the program names.
-/

namespace Reshape

/-! ## Fields that are named -/

/-- The fields that an expression mentions. -/
def Expr.reads : Expr → List String
  | .literal _ => []
  | .field name => [name]
  | .not e | .neg e => e.reads
  | .binary _ a b => a.reads ++ b.reads

namespace Action

/-- The field that is assigned or deleted. -/
def target : Action → String
  | .assign name _ | .delete name => name

def reads : Action → List String
  | .assign _ e => e.reads
  | .delete _ => []

end Action

namespace Statement

/-- The fields that are assigned or deleted, whatever the condition is. -/
def targets : Statement → List String
  | .action a => [a.target]
  | .branch _ yes no => (yes ++ no).map Action.target

def reads : Statement → List String
  | .action a => a.reads
  | .branch condition yes no => condition.reads ++ (yes ++ no).flatMap Action.reads

end Statement

namespace Program

/-- The fields that the program assigns or deletes. -/
def targets (p : Program) : List String := p.flatMap Statement.targets

/-- The fields that conditions and assigned expressions mention. -/
def reads (p : Program) : List String := p.flatMap Statement.reads

end Program

/-! ## Fields that stay as they are -/

namespace Record

variable {names names' : List String} {r s t : Record} {k : String}

theorem get?_erase (r : Record) (k j : String) :
    (r.erase k).get? j = if j = k then none else r.get? j :=
  Catalog.lookup_filter_ne k j r

/-- At most the fields of the names are changed. The others are as they were, also in their order,
and what is new stands after what was there. -/
structure ChangedWithin (names : List String) (r s : Record) : Prop where
  get?_eq : ∀ k ∉ names, s.get? k = r.get? k
  filter_eq : s.filter (·.1 ∉ names) = r.filter (·.1 ∉ names)
  exists_append : ∃ kept created, s = kept ++ created ∧ kept.keys.Sublist r.keys ∧
    ∀ f ∈ created, f.1 ∈ names

namespace ChangedWithin

theorem refl (names : List String) (r : Record) : ChangedWithin names r r :=
  ⟨fun _ _ => rfl, rfl, r, [], (List.append_nil r).symm, .refl _, nofun⟩

theorem trans (h : ChangedWithin names r s) (h' : ChangedWithin names s t) :
    ChangedWithin names r t := by
  refine ⟨fun k hk => (h'.get?_eq k hk).trans (h.get?_eq k hk), h'.filter_eq.trans h.filter_eq, ?_⟩
  obtain ⟨kept, created, rfl, hkept, hcreated⟩ := h.exists_append
  obtain ⟨kept', created', rfl, hkept', hcreated'⟩ := h'.exists_append
  -- what is kept in the end was there at first, or it was new in between
  have hsplit : kept'.keys.Sublist (kept.keys ++ keys created) := by
    simpa only [keys, List.map_append] using hkept'
  obtain ⟨before, between, hkeys, hbefore, hbetween⟩ := List.sublist_append_iff.1 hsplit
  obtain ⟨kept₁, kept₂, rfl, rfl, rfl⟩ := List.map_eq_append_iff.1 hkeys
  refine ⟨kept₁, kept₂ ++ created', List.append_assoc .., hbefore.trans hkept, fun f hf => ?_⟩
  rcases List.mem_append.1 hf with hf | hf
  · obtain ⟨g, hg, hgf⟩ := List.mem_map.1 (hbetween.subset (List.mem_map_of_mem hf))
    exact hgf ▸ hcreated g hg
  · exact hcreated' f hf

theorem insert (hk : k ∈ names) (r : Record) (v : Value) :
    ChangedWithin names r (r.insert k v) := by
  refine ⟨fun j hj => ?_, ?_, ?_⟩
  · rw [get?_insert, if_neg fun hjk : j = k => hj (hjk ▸ hk)]
  · induction r with
    | nil => simp [Record.insert, hk]
    | cons f r ih =>
      rw [Record.insert]
      split
      · rename_i hf
        simp [hf, hk]
      · rw [List.filter_cons, List.filter_cons, ih]
  · induction r with
    | nil => exact ⟨[], [(k, v)], rfl, .slnil, by simpa using hk⟩
    | cons f r ih =>
      rw [Record.insert]
      split
      · exact ⟨(f.1, v) :: r, [], (List.append_nil _).symm, .refl _, List.forall_mem_nil _⟩
      · obtain ⟨kept, created, hs, hkept, hcreated⟩ := ih
        exact ⟨f :: kept, created, congrArg (f :: ·) hs, hkept.cons_cons f.1, hcreated⟩

theorem erase (hk : k ∈ names) (r : Record) : ChangedWithin names r (r.erase k) := by
  refine ⟨fun j hj => ?_, ?_, r.erase k, [], (List.append_nil _).symm,
    List.filter_sublist.map _, nofun⟩
  · rw [get?_erase, if_neg fun hjk : j = k => hj (hjk ▸ hk)]
  · rw [Record.erase, List.filter_filter]
    refine List.filter_congr fun f _ => ?_
    by_cases hf : f.1 = k
    · simp [hf, hk]
    · simp [hf]

/-- One change after another. -/
theorem foldl {α : Type} {g : Record → α → Record} {as : List α}
    (h : ∀ a ∈ as, ∀ r, ChangedWithin names r (g r a)) (r : Record) :
    ChangedWithin names r (as.foldl g r) := by
  induction as generalizing r with
  | nil => exact refl names r
  | cons a as ih =>
    obtain ⟨ha, has⟩ := List.forall_mem_cons.1 h
    exact (ha r).trans (ih has (g r a))

/-- After a field that was not there, no field stands that is not to be changed. -/
theorem mem_of_created (h : ChangedWithin names r s) {before after : List (String × Value)}
    {f g : String × Value} (hs : s = before ++ f :: after) (hf : f.1 ∉ r.keys) (hg : g ∈ after) :
    g.1 ∈ names := by
  obtain ⟨kept, created, rfl, hkept, hcreated⟩ := h.exists_append
  -- the field is not among those that were kept, so they all stand before it
  have hlt : kept.length ≤ before.length := by
    by_contra hlt
    have hmem : f ∈ kept := by
      have hget : (kept ++ created)[before.length]? = some f := by simp [hs]
      rw [List.getElem?_append_left (by omega)] at hget
      exact List.mem_of_getElem? hget
    exact hf (hkept.subset (List.mem_map_of_mem hmem))
  have hcreated' : created = before.drop kept.length ++ f :: after := by
    have hdrop := congrArg (List.drop kept.length) hs
    rwa [List.drop_left, List.drop_append_of_le_length hlt] at hdrop
  refine hcreated g ?_
  rw [hcreated']
  exact List.mem_append_right _ (List.mem_cons_of_mem f hg)

end ChangedWithin

/-! ## Records that agree -/

/-- The records have the same of the fields: the same value, or both none. -/
def AgreeOn (names : List String) (r s : Record) : Prop := ∀ k ∈ names, r.get? k = s.get? k

instance (names : List String) (r s : Record) : Decidable (AgreeOn names r s) :=
  inferInstanceAs (Decidable (∀ k ∈ names, r.get? k = s.get? k))

theorem AgreeOn.mono (h : AgreeOn names r s) (hsub : names' ⊆ names) : AgreeOn names' r s :=
  fun k hk => h k (hsub hk)

theorem AgreeOn.insert (h : AgreeOn names r s) (k : String) (v : Value) :
    AgreeOn names (r.insert k v) (s.insert k v) := by
  intro j hj
  rw [get?_insert, get?_insert, h j hj]

theorem AgreeOn.erase (h : AgreeOn names r s) (k : String) :
    AgreeOn names (r.erase k) (s.erase k) := by
  intro j hj
  rw [get?_erase, get?_erase, h j hj]

/-- One change after another, each of which keeps agreement. -/
theorem AgreeOn.foldl {α : Type} {g : Record → α → Record} {as : List α}
    (hg : ∀ a ∈ as, ∀ r s, AgreeOn names r s → AgreeOn names (g r a) (g s a))
    (h : AgreeOn names r s) : AgreeOn names (as.foldl g r) (as.foldl g s) := by
  induction as generalizing r s with
  | nil => exact h
  | cons a as ih =>
    obtain ⟨ha, has⟩ := List.forall_mem_cons.1 hg
    exact ih has (ha r s h)

end Record

/-! ## What programs change and what they see -/

variable {names : List String} {r s : Record}

/-- The value of an expression depends on the fields that it mentions. -/
theorem Expr.eval_of_agreeOn {e : Expr} (h : Record.AgreeOn e.reads r s) :
    e.eval r = e.eval s := by
  induction e with
  | literal v => rfl
  | field name => rw [eval, eval, h name (List.mem_singleton_self name)]
  | not e ih | neg e ih => rw [eval, eval, ih h]
  | binary op a b iha ihb =>
    rw [eval, eval, iha (h.mono (List.subset_append_left ..)),
      ihb (h.mono (List.subset_append_right ..))]

namespace Action

theorem changedWithin_apply {a : Action} (h : a.target ∈ names) (r : Record) :
    r.ChangedWithin names (a.apply r) := by
  cases a with
  | assign name e => exact .insert h r _
  | delete name => exact .erase h r

theorem agreeOn_apply {a : Action} (ha : a.reads ⊆ names) (h : Record.AgreeOn names r s) :
    Record.AgreeOn names (a.apply r) (a.apply s) := by
  cases a with
  | assign name e =>
    rw [apply, apply, Expr.eval_of_agreeOn (h.mono ha)]
    exact h.insert name _
  | delete name => exact h.erase name

end Action

namespace Statement

theorem changedWithin_apply {x : Statement} (h : x.targets ⊆ names) (r : Record) :
    r.ChangedWithin names (x.apply r) := by
  cases x with
  | action a => exact a.changedWithin_apply (h (List.mem_singleton_self _)) r
  | branch condition yes no =>
    have actions {as : List Action} (has : as ⊆ yes ++ no) :
        r.ChangedWithin names (as.foldl Action.apply r) :=
      .foldl (fun a ha => a.changedWithin_apply (h (List.mem_map_of_mem (has ha)))) r
    rw [apply]
    split
    · exact actions (List.subset_append_left ..)
    · exact actions (List.subset_append_right ..)

/-- Records that agree are at the same side of a branch. -/
theorem agreeOn_apply {x : Statement} (hx : x.reads ⊆ names) (h : Record.AgreeOn names r s) :
    Record.AgreeOn names (x.apply r) (x.apply s) := by
  cases x with
  | action a => exact a.agreeOn_apply hx h
  | branch condition yes no =>
    obtain ⟨hcondition, hactions⟩ := List.append_subset.1 hx
    have actions {as : List Action} (has : as ⊆ yes ++ no) :
        Record.AgreeOn names (as.foldl Action.apply r) (as.foldl Action.apply s) := by
      refine .foldl (fun a ha r s hrs => a.agreeOn_apply (fun k hk => hactions ?_) hrs) h
      exact List.mem_flatMap.2 ⟨a, has ha, hk⟩
    rw [apply, apply, Expr.eval_of_agreeOn (h.mono hcondition)]
    split
    · exact actions (List.subset_append_left ..)
    · exact actions (List.subset_append_right ..)

end Statement

namespace Program

theorem changedWithin_apply (p : Program) (r : Record) :
    r.ChangedWithin p.targets (p.apply r) :=
  .foldl (fun x hx => x.changedWithin_apply fun _ hk => List.mem_flatMap.2 ⟨x, hx, hk⟩) r

theorem agreeOn_apply {p : Program} (hp : p.reads ⊆ names) (h : Record.AgreeOn names r s) :
    Record.AgreeOn names (p.apply r) (p.apply s) :=
  .foldl (fun x hx _ _ => x.agreeOn_apply fun _ hk => hp (List.mem_flatMap.2 ⟨x, hx, hk⟩)) h

/-- **A program touches and sees only what it names.** Every field that it neither assigns nor
deletes has its old value or is still not there. These fields keep their order, and none of them
stands after a field that is new. And of two records that agree on the fields that the program
names, whatever else is in them and in any order, the results agree on these fields too. -/
theorem apply_scoped :
    (∀ (p : Program) (r : Record),
      (∀ k ∉ p.targets, (p.apply r).get? k = r.get? k) ∧
      (p.apply r).filter (·.1 ∉ p.targets) = r.filter (·.1 ∉ p.targets) ∧
      ∀ before f after, p.apply r = before ++ f :: after → f.1 ∉ r.keys →
        ∀ g ∈ after, g.1 ∈ p.targets) ∧
    ∀ (p : Program) (r s : Record), Record.AgreeOn (p.reads ++ p.targets) r s →
      Record.AgreeOn (p.reads ++ p.targets) (p.apply r) (p.apply s) := by
  refine ⟨fun p r => ?_, fun p r s h => p.agreeOn_apply (List.subset_append_left ..) h⟩
  have hwithin := p.changedWithin_apply r
  exact ⟨hwithin.get?_eq, hwithin.filter_eq, fun before f after hs hf g hg =>
    hwithin.mem_of_created hs hf hg⟩

/-- What is assigned first is read by a condition, and a field is made anew after it was deleted. -/
def labelGuest : Program :=
  [.action (.assign "late" (.binary (.compare .eq) (.field "hour") (.literal (.string "9")))),
    .branch (.field "late") [.delete "hour", .assign "note" (.field "name")] [.delete "note"],
    .action (.assign "hour" (.field "note"))]

def guestX : Record :=
  [("hour", .string "9"), ("seat", .null), ("name", .string "x"), ("table", .bool true)]

def guestXElsewhere : Record :=
  [("name", .string "x"), ("side", .bool false), ("hour", .string "9")]

theorem apply_scoped_labelGuest :
    labelGuest.targets = ["late", "hour", "note", "note", "hour"] ∧
    labelGuest.apply guestX = [("seat", .null), ("name", .string "x"), ("table", .bool true),
      ("late", .bool true), ("note", .string "x"), ("hour", .string "x")] ∧
    ("late", Value.bool true).1 ∉ guestX.keys ∧
    (∀ g ∈ [("note", Value.string "x"), ("hour", .string "x")], g.1 ∈ labelGuest.targets) ∧
    "seat" ∉ labelGuest.targets ∧ (labelGuest.apply guestX).get? "seat" = guestX.get? "seat" ∧
    Record.AgreeOn (labelGuest.reads ++ labelGuest.targets) guestX guestXElsewhere ∧
    labelGuest.apply guestXElsewhere = [("name", .string "x"), ("side", .bool false),
      ("late", .bool true), ("note", .string "x"), ("hour", .string "x")] ∧
    Record.AgreeOn (labelGuest.reads ++ labelGuest.targets) (labelGuest.apply guestX)
      (labelGuest.apply guestXElsewhere) := by
  have hagree : Record.AgreeOn (labelGuest.reads ++ labelGuest.targets) guestX guestXElsewhere := by
    decide
  have hnew : ("late", Value.bool true).1 ∉ guestX.keys := by decide
  have hseat : "seat" ∉ labelGuest.targets := by decide
  obtain ⟨hkept, -, hcreated⟩ := apply_scoped.1 labelGuest guestX
  have hafter := hcreated [("seat", .null), ("name", .string "x"), ("table", .bool true)]
    ("late", .bool true) [("note", .string "x"), ("hour", .string "x")] (by decide) hnew
  exact ⟨rfl, by decide, hnew, hafter, hseat, hkept "seat" hseat, hagree, by decide,
    apply_scoped.2 labelGuest guestX guestXElsewhere hagree⟩

end Program

end Reshape
