import Reshape.Proofs.Cloning
import Reshape.Proofs.EntryText
import Reshape.Proofs.Undoing

/-!
# Replacements in any order

A replacement is met by a record that holds the old value in the field. Where no record meets two
replacements of one field, and no new value is the old value of another replacement of the field, a
replacement does not change which of the others are met. So the replacements of a list can be made
in any order, and each field that meets one of them gets its new value.

* `Replacement.Meets`: the records that a replacement changes. `Replacement.Apart`,
  `Replacement.Settled`: no replacement disturbs another.
* `Replacement.meets_apply_iff`: what one replacement does to the others.
* `Replacement.applyAll_perm`, `Replacement.replaced_applyAll`: all replacements of a list.
* `Replacement.run_perm`: the operator.
-/

namespace Reshape

/-- Fields that are there can be set in any order. -/
theorem Record.insert_comm {r : Record} {j k : String} (hne : j ≠ k) (hj : j ∈ r.keys)
    (hk : k ∈ r.keys) (v w : Value) : (r.insert j v).insert k w = (r.insert k w).insert j v := by
  induction r with
  | nil => cases hj
  | cons f r ih =>
    by_cases hfj : f.1 = j
    · subst hfj
      simp [insert, hne]
    · by_cases hfk : f.1 = k
      · subst hfk
        simp [insert, hfj]
      · have hj := (List.mem_cons.1 hj).resolve_left (Ne.symm hfj)
        have hk := (List.mem_cons.1 hk).resolve_left (Ne.symm hfk)
        simp [insert, hfj, hfk, ih hj hk]

theorem Collection.mapFields_congr {f g : Record → Record} {c : Collection}
    (h : ∀ r, .object r ∈ c → f r = g r) : c.map (·.mapFields f) = c.map (·.mapFields g) := by
  refine List.map_congr_left fun v hv => ?_
  cases v with
  | object r => exact congrArg Value.object (h r hv)
  | _ => rfl

/-- An entry of `mapValues` that replaces a value of a field by another one. -/
structure Replacement where
  field : String
  old : Value
  new : Value
  deriving DecidableEq

namespace Replacement

def entry (e : Replacement) : Revision.Entry := .replace e.field e.old e.new

def revision (e : Replacement) : Revision := .replace e.field e.old e.new

/-- The record after the replacement. -/
def apply (e : Replacement) (r : Record) : Record := e.revision.apply r

/-- The field holds a value that is strictly equal to the old one. -/
def Meets (e : Replacement) (r : Record) : Prop :=
  ∃ v, r.get? e.field = some v ∧ v.strictEq e.old = true

instance (e : Replacement) (r : Record) : Decidable (e.Meets r) :=
  decidable_of_iff ((r.get? e.field).any (·.strictEq e.old) = true) <| by
    cases h : r.get? e.field <;> simp [Meets, h]

variable {es l : List Replacement} {e e' : Replacement} {r : Record} {k : String}

/-- No record meets two replacements of one field. -/
def Apart (es : List Replacement) (r : Record) : Prop :=
  ∀ e ∈ es, ∀ e' ∈ es, e.field = e'.field → e.Meets r → e'.Meets r → e = e'

/-- No new value is the old value of another replacement of the field. -/
def Settled (es : List Replacement) : Prop :=
  ∀ e ∈ es, ∀ e' ∈ es, e ≠ e' → e.field = e'.field → e.new.strictEq e'.old = false

/-! ## One replacement -/

theorem Meets.mem_keys (h : e.Meets r) : e.field ∈ r.keys := by
  obtain ⟨v, hv, -⟩ := h
  by_contra hk
  cases (Record.get?_eq_none_iff.2 hk).symm.trans hv

theorem apply_of_meets (h : e.Meets r) : e.apply r = r.insert e.field e.new := by
  obtain ⟨v, hv, hold⟩ := h
  simp [apply, revision, Revision.apply, hv, hold]

theorem apply_of_not_meets (h : ¬ e.Meets r) : e.apply r = r := by
  cases hv : r.get? e.field with
  | none => simp [apply, revision, Revision.apply, hv]
  | some v =>
    have hold : v.strictEq e.old ≠ true := fun hold => h ⟨v, hv, hold⟩
    simp [apply, revision, Revision.apply, hv, hold]

theorem keys_apply (e : Replacement) (r : Record) : (e.apply r).keys = r.keys := by
  by_cases h : e.Meets r
  · rw [apply_of_meets h, Record.keys_insert_of_mem h.mem_keys]
  · rw [apply_of_not_meets h]

theorem get?_apply_self (h : e.Meets r) : (e.apply r).get? e.field = some e.new := by
  rw [apply_of_meets h, Record.get?_insert, if_pos rfl]

theorem get?_apply_of_not_meets (h : e.field = k → ¬ e.Meets r) :
    (e.apply r).get? k = r.get? k := by
  by_cases hmeets : e.Meets r
  · rw [apply_of_meets hmeets, Record.get?_insert, if_neg fun hk => h hk.symm hmeets]
  · rw [apply_of_not_meets hmeets]

/-- A new value meets no other replacement of its field. -/
theorem not_meets_of_new (hsettled : Settled es) (he : e ∈ es) (he' : e' ∈ es) (hne : e ≠ e')
    (hfield : e.field = e'.field) (hnew : r.get? e.field = some e.new) : ¬ e'.Meets r := by
  rintro ⟨v, hv, hold⟩
  obtain rfl := Option.some.inj (hnew.symm.trans (hfield ▸ hv))
  rw [hsettled e he e' he' hne hfield] at hold
  cases hold

/-- A new value stays. -/
theorem get?_apply_of_new (hsettled : Settled es) (he : e ∈ es) (he' : e' ∈ es)
    (hnew : r.get? e.field = some e.new) : (e'.apply r).get? e.field = some e.new := by
  by_cases hsame : e = e' ∧ e.Meets r
  · obtain ⟨rfl, hmeets⟩ := hsame
    exact get?_apply_self hmeets
  · refine (get?_apply_of_not_meets fun hfield hmeets => ?_).trans hnew
    have hne : e ≠ e' := by
      rintro rfl
      exact hsame ⟨rfl, hmeets⟩
    exact not_meets_of_new hsettled he he' hne hfield.symm hnew hmeets

/-- The other replacements are met after one replacement as before it. -/
theorem meets_apply_iff (hsettled : Settled es) (h : Apart es r) (he : e ∈ es) (he' : e' ∈ es)
    (hne : e ≠ e') : e'.Meets (e.apply r) ↔ e'.Meets r := by
  by_cases hmeets : e.Meets r
  · by_cases hfield : e.field = e'.field
    · have hnew := get?_apply_self hmeets
      exact iff_of_false (not_meets_of_new hsettled he he' hne hfield hnew)
        fun hmeets' => hne (h e he e' he' hfield hmeets hmeets')
    · rw [Meets, get?_apply_of_not_meets fun hk => absurd hk hfield, ← Meets]
  · rw [apply_of_not_meets hmeets]

/-- No replacement makes a record meet one that it did not meet. -/
theorem Meets.of_apply (hsettled : Settled es) (h : Apart es r) (he : e ∈ es) (he' : e' ∈ es)
    (h' : e'.Meets (e.apply r)) : e'.Meets r := by
  by_cases hne : e = e'
  · subst hne
    by_contra hmeets
    exact hmeets (apply_of_not_meets hmeets ▸ h')
  · exact (meets_apply_iff hsettled h he he' hne).1 h'

theorem Apart.apply (h : Apart es r) (hsettled : Settled es) (he : e ∈ es) :
    Apart es (e.apply r) := fun e₁ h₁ e₂ h₂ hfield hmeets₁ hmeets₂ =>
  h e₁ h₁ e₂ h₂ hfield (hmeets₁.of_apply hsettled h he h₁) (hmeets₂.of_apply hsettled h he h₂)

theorem apply_comm (hsettled : Settled es) (h : Apart es r) (he : e ∈ es) (he' : e' ∈ es) :
    e'.apply (e.apply r) = e.apply (e'.apply r) := by
  by_cases hne : e = e'
  · rw [hne]
  · have hafter := meets_apply_iff hsettled h he he' hne
    have hafter' := meets_apply_iff hsettled h he' he (Ne.symm hne)
    by_cases hmeets : e.Meets r <;> by_cases hmeets' : e'.Meets r
    · have hfield : e.field ≠ e'.field := fun hfield => hne (h e he e' he' hfield hmeets hmeets')
      rw [apply_of_meets (hafter.2 hmeets'), apply_of_meets (hafter'.2 hmeets),
        apply_of_meets hmeets, apply_of_meets hmeets',
        Record.insert_comm hfield hmeets.mem_keys hmeets'.mem_keys]
    · rw [apply_of_not_meets (mt hafter.1 hmeets'), apply_of_not_meets hmeets']
    · rw [apply_of_not_meets hmeets, apply_of_not_meets (mt hafter'.1 hmeets)]
    · rw [apply_of_not_meets hmeets, apply_of_not_meets hmeets', apply_of_not_meets hmeets]

/-! ## All replacements of a list -/

/-- The record after the replacements, one after another. -/
def applyAll (es : List Replacement) (r : Record) : Record := es.foldl (fun r e => e.apply r) r

@[simp] theorem applyAll_cons (e : Replacement) (l : List Replacement) (r : Record) :
    applyAll (e :: l) r = applyAll l (e.apply r) := rfl

/-- The replacements can be made in any order. -/
theorem applyAll_perm {l' : List Replacement} (hsettled : Settled es) (h : Apart es r)
    (hl : l ⊆ es) (hperm : l'.Perm l) : applyAll l' r = applyAll l r := by
  -- on the permutation; that no record meets two replacements holds after each of them
  induction hperm generalizing r with
  | nil => rfl
  | cons e _ ih =>
    obtain ⟨he, hl⟩ := List.cons_subset.1 hl
    exact ih (h.apply hsettled he) hl
  | swap e e' l =>
    obtain ⟨he', hl⟩ := List.cons_subset.1 hl
    obtain ⟨he, -⟩ := List.cons_subset.1 hl
    rw [applyAll_cons, applyAll_cons, applyAll_cons, applyAll_cons, apply_comm hsettled h he he']
  | trans _ hperm' ih ih' =>
    exact (ih h fun e he => hl (hperm'.subset he)).trans (ih' h hl)

theorem keys_applyAll (l : List Replacement) (r : Record) : (applyAll l r).keys = r.keys := by
  induction l generalizing r with
  | nil => rfl
  | cons e l ih => rw [applyAll_cons, ih, keys_apply]

/-- A field that meets no replacement keeps its value. -/
theorem get?_applyAll_of_not_meets (hsettled : Settled es) (h : Apart es r) (hl : l ⊆ es)
    (hnone : ∀ e ∈ l, e.field = k → ¬ e.Meets r) : (applyAll l r).get? k = r.get? k := by
  induction l generalizing r with
  | nil => rfl
  | cons e l ih =>
    obtain ⟨he, hl⟩ := List.cons_subset.1 hl
    obtain ⟨hfirst, hnone⟩ := List.forall_mem_cons.1 hnone
    rw [applyAll_cons, ih (h.apply hsettled he) hl fun e' he' hk hmeets =>
      hnone e' he' hk (hmeets.of_apply hsettled h he (hl he')), get?_apply_of_not_meets hfirst]

theorem get?_applyAll_of_new (hsettled : Settled es) (he : e ∈ es) (hl : l ⊆ es)
    (hnew : r.get? e.field = some e.new) : (applyAll l r).get? e.field = some e.new := by
  induction l generalizing r with
  | nil => exact hnew
  | cons e' l ih =>
    obtain ⟨he', hl⟩ := List.cons_subset.1 hl
    exact ih hl (get?_apply_of_new hsettled he he' hnew)

/-- A field that meets a replacement gets the new value. -/
theorem get?_applyAll_of_meets (hsettled : Settled es) (h : Apart es r) (hl : l ⊆ es)
    (he : e ∈ l) (hmeets : e.Meets r) : (applyAll l r).get? e.field = some e.new := by
  induction l generalizing r with
  | nil => cases he
  | cons e' l ih =>
    have hmem := hl he
    obtain ⟨he', hrest⟩ := List.cons_subset.1 hl
    rw [applyAll_cons]
    by_cases hne : e' = e
    · subst hne
      exact get?_applyAll_of_new hsettled hmem hrest (get?_apply_self hmeets)
    · exact ih (h.apply hsettled he') hrest ((List.mem_cons.1 he).resolve_left (Ne.symm hne))
        ((meets_apply_iff hsettled h he' hmem hne).2 hmeets)

/-- What becomes of a record: it has the same fields in the same order, a field that meets a
replacement gets the new value, and a field changes if and only if it meets a replacement by another
value. -/
structure Replaced (es : List Replacement) (r r' : Record) : Prop where
  keys_eq : r'.keys = r.keys
  get?_eq : ∀ e ∈ es, e.Meets r → r'.get? e.field = some e.new
  changed_iff : ∀ k, r'.get? k ≠ r.get? k ↔
    ∃ e ∈ es, e.field = k ∧ e.Meets r ∧ r.get? k ≠ some e.new

theorem replaced_applyAll (hsettled : Settled es) (h : Apart es r) :
    Replaced es r (applyAll es r) := by
  have hnew : ∀ e ∈ es, e.Meets r → _ := fun e he hmeets =>
    get?_applyAll_of_meets hsettled h (List.Subset.refl es) he hmeets
  refine ⟨keys_applyAll es r, hnew, fun k => ⟨fun hchanged => ?_, ?_⟩⟩
  · by_contra hnone
    by_cases hmet : ∃ e ∈ es, e.field = k ∧ e.Meets r
    · obtain ⟨e, he, rfl, hmeets⟩ := hmet
      refine hnone ⟨e, he, rfl, hmeets, fun hsame => hchanged ?_⟩
      rw [hnew e he hmeets, hsame]
    · exact hchanged (get?_applyAll_of_not_meets hsettled h (List.Subset.refl es)
        fun e he hk hmeets => hmet ⟨e, he, hk, hmeets⟩)
  · rintro ⟨e, he, rfl, hmeets, hother⟩
    rw [hnew e he hmeets]
    exact Ne.symm hother

/-! ## The operator -/

/-- The values are read as the replacements. -/
def Read (items : List Value) (es : List Replacement) : Prop :=
  List.Forall₂ (fun v e => Revision.Entry.ofValue? v = some e.entry) items es

theorem readAll_eq (mappers : Mappers) {s : Store} {raw : Value} {items : List Value}
    (hraw : raw.Lists s items) (h : Read items es) :
    Revision.readAll mappers s raw = .ok (es.map revision) := by
  have hitems : items.mapM Revision.Entry.ofValue? = some (es.map entry) :=
    mapM_eq_some_iff.2 (List.forall₂_map_right_iff.2 h)
  have hentries : (es.map entry).mapM (Revision.ofEntry mappers) = .ok (es.map revision) :=
    mapM_eq_ok_iff.2 (List.forall₂_map_left_iff.2 (List.forall₂_map_right_iff.2
      (List.forall₂_same.2 fun _ _ => rfl)))
  rw [Revision.readAll, Reference.resolveAs_eq_bind, Reference.resolve_of_lists hraw]
  change (items.mapM Revision.Entry.ofValue?).elim _ _ >>= _ = _
  rw [hitems]
  exact hentries

/-- No replacement of the list disturbs another one in a record of the collection. -/
structure Independent (es : List Replacement) (c : Collection) : Prop where
  settled : Settled es
  apart : ∀ r, .object r ∈ c → Apart es r

/-- **Independent replacements can be made in any order.** Take a list of entries that replace
values, literal or named, and a collection of which no record meets two of them that are about one
field, where no new value is strictly equal to the old value of another entry about the field. The
operator finishes and sets only the collection, in which every record has its fields in their order:
a field whose value is strictly equal to the old value of an entry gets its new value, and no other
field changes. Every permutation of the list does the same. -/
theorem run_perm :
    (∀ (setting : Setting) (job : String) (raw : Value) (s : Session) (c : Collection)
      (items : List Value) (es : List Replacement), s.store.get? job = some c →
      raw.Lists s.store items → Read items es → Independent es c →
        ∃ c', (∃ log, Operator.mapValues.run setting job raw s =
            (.ok (), ⟨s.store.insert job c', s.files, log⟩)) ∧
          List.Forall₂ (Value.OnRecords (Replaced es)) c c' ∧
          ∀ (raw' : Value) (items' : List Value), raw'.Lists s.store items' →
            items'.Perm items → Operator.mapValues.run setting job raw' s =
              Operator.mapValues.run setting job raw s) ∧
    ∀ es : List Replacement,
      Read (es.map fun e => Revision.replacementEntry e.field e.old e.new) es := by
  refine ⟨fun setting job raw s c items es hc hraw hread hes => ?_, fun es =>
    List.forall₂_map_left_iff.2 (List.forall₂_same.2 fun _ _ => rfl)⟩
  have happly (es : List Replacement) (r : Record) :
      (es.map revision).foldl Revision.apply r = applyAll es r := List.foldl_map
  have hchange := Operator.change_mapValues hc (readAll_eq setting.mappers hraw hread)
  refine ⟨_, Operator.run_of_change_put (by decide) hchange,
    Collection.onRecords_map fun r hr => ?_, fun raw' items' hraw' hperm => ?_⟩
  · rw [happly]
    exact replaced_applyAll hes.settled (hes.apart r hr)
  · obtain ⟨es', hread', hperm'⟩ := List.perm_comp_forall₂ hperm hread
    have hchange' := Operator.change_mapValues hc (readAll_eq setting.mappers hraw' hread')
    have hsame : c.map (·.mapFields fun r => (es'.map revision).foldl Revision.apply r) =
        c.map (·.mapFields fun r => (es.map revision).foldl Revision.apply r) := by
      refine Collection.mapFields_congr fun r hr => ?_
      rw [happly, happly]
      exact applyAll_perm hes.settled (hes.apart r hr) (List.Subset.refl es) hperm'
    rw [Operator.run_eq, Operator.run_eq, hchange, hchange', hsame]
    rfl

/-- Two replacements of one field, one of a number that is written otherwise, and one that puts back
what it takes. -/
def replacements : List Replacement :=
  [⟨"n", .number (.float (Number.int 1 Merge.isWord_one).toBinary64), .string "a"⟩,
    ⟨"k", .string "a", .string "A"⟩, ⟨"k", .null, .string "b"⟩, ⟨"m", .array [], .array []⟩]

/-- Records with these values, and a value that is no record. -/
def replaceable : Collection :=
  [.object [("k", .string "a"), ("n", .number (.int 1 Merge.isWord_one))], .string "a",
    .object [("n", .number (.int 2 Merge.isWord_two)), ("m", .array []), ("k", .null)]]

/-- The records, and the replacements from the last one on. -/
def replacementsSession : Session :=
  ⟨.ofList [("a", replaceable),
    ("l", replacements.reverse.map fun e => Revision.replacementEntry e.field e.old e.new)],
    default, []⟩

theorem run_perm_replacements :
    let items := replacements.map fun e => Revision.replacementEntry e.field e.old e.new
    let run := Operator.mapValues.run ⟨none, .empty⟩ "a"
    replacementsSession.store.get? "a" = some replaceable ∧ Read items replacements ∧
    Independent replacements replaceable ∧
    Value.Lists replacementsSession.store (.array items) items ∧
    Value.Lists replacementsSession.store (.string "l") items.reverse ∧
    ∃ c', (∃ log, run (.array items) replacementsSession =
        (.ok (), ⟨replacementsSession.store.insert "a" c', replacementsSession.files, log⟩)) ∧
      List.Forall₂ (Value.OnRecords (Replaced replacements)) replaceable c' ∧
      (c'[0]?.bind (·.field? "n")) = some (.string "a") ∧
      run (.string "l") replacementsSession = run (.array items) replacementsSession := by
  intro items run
  obtain ⟨hrun, hwritten⟩ := run_perm
  have hc : replacementsSession.store.get? "a" = some replaceable := rfl
  have hes : Independent replacements replaceable := by
    refine ⟨by unfold Settled; decide +kernel, fun r hr => ?_⟩
    simp only [replaceable, List.mem_cons, List.not_mem_nil, Value.object.injEq, reduceCtorEq,
      or_false, false_or] at hr
    rcases hr with rfl | rfl <;> unfold Apart <;> decide +kernel
  have hitems : Value.Lists replacementsSession.store (.array items) items := .inl rfl
  have hlisted : Value.Lists replacementsSession.store (.string "l") items.reverse :=
    .inr ⟨"l", rfl, rfl⟩
  obtain ⟨c', hdone, hrecords, hperm⟩ :=
    hrun ⟨none, .empty⟩ "a" _ _ replaceable items replacements hc hitems (hwritten _) hes
  refine ⟨hc, hwritten _, hes, hitems, hlisted, c', hdone, hrecords, ?_,
    hperm _ _ hlisted (List.reverse_perm items)⟩
  -- the first record holds the number of the first replacement
  obtain ⟨v, _, hfirst, -, rfl⟩ := List.forall₂_cons_left_iff.1 hrecords
  rcases hfirst with ⟨h, -⟩ | ⟨r, r', hr, rfl, hreplaced⟩
  · cases h
  · obtain rfl := Value.object.inj hr
    exact hreplaced.get?_eq _ (List.mem_cons_self ..) (by decide +kernel)

end Replacement

end Reshape
