import Reshape.Proofs.Joining

/-!
# What a merge overlooks

An incoming record is laid over those that it matches, or it is appended if there are none. Records
that lack all key fields match each other, and so do plain values, which have no fields. But only
objects are laid over objects: what matches plain values alone is neither laid over one of them nor
appended.

* `Merge.Carries`, `Merge.Accounted`: an element is in a collection, or all of its fields are.
* `Merge.Keyless`, `Merge.Overlooked`: what is neither laid over anything nor appended.
* `Merge.accounted_merge`: all other incoming elements are accounted for.
* `Merge.mergeAll_overlooked`: what is overlooked leaves no trace.
* `Merge.run_accounts`: both for the operator.
-/

namespace Reshape

/-! ## Names of fields -/

namespace Record

variable {r fields : Record} {k : String}

theorem mem_keys_insert {j : String} {v : Value} :
    j ∈ (r.insert k v).keys ↔ j = k ∨ j ∈ r.keys := by
  rw [← not_iff_not, ← get?_eq_none_iff, get?_insert, not_or, ← get?_eq_none_iff]
  split <;> simp [*]

theorem mem_keys_foldl_insert :
    k ∈ keys (fields.foldl (fun r f => insert r f.1 f.2) r) ↔ k ∈ r.keys ∨ k ∈ fields.keys := by
  induction fields generalizing r with
  | nil => simp [keys]
  | cons f fields ih =>
    have hcons : k ∈ keys (f :: fields) ↔ k = f.1 ∨ k ∈ keys fields := List.mem_cons
    rw [List.foldl_cons, ih, mem_keys_insert, hcons]
    tauto

end Record

namespace Merge

variable {keys : List String} {c : Collection} {v w e : Value}

/-! ## Elements that are there -/

/-- The value is the element, or an object that has all fields of it. -/
def Carries : Value → Value → Prop
  | .object r, .object fields => Record.keys fields ⊆ Record.keys r
  | v, e => v = e

theorem Carries.refl (v : Value) : Carries v v := by
  cases v with
  | object r => exact List.Subset.refl _
  | _ => rfl

theorem carries_overlay (hv : v.isObject = true) (he : e.isObject = true) :
    Carries (overlay v e) e := by
  cases v with
  | object r =>
    cases e with
    | object fields => exact fun k hk => Record.mem_keys_foldl_insert.2 (.inr hk)
    | _ => cases he
  | _ => cases hv

theorem Carries.overlay (h : Carries v e) (w : Value) : Carries (overlay v w) e := by
  cases v with
  | object r =>
    cases w with
    | object fields =>
      cases e with
      | object names => exact fun k hk => Record.mem_keys_foldl_insert.2 (.inl (h hk))
      | _ => cases h
    | _ => exact h
  | _ => exact h

/-- The element is in the collection, or all of its fields are in one record of it. -/
def Accounted (c : Collection) (e : Value) : Prop := ∃ v ∈ c, Carries v e

/-- What is there stays there. -/
theorem Accounted.absorb (h : Accounted c e) (w : Value) : Accounted (absorb keys c w) e := by
  obtain ⟨v, hv, hcarries⟩ := h
  refine ⟨_, List.mem_map_of_mem hv, ?_⟩
  split
  · exact hcarries.overlay w
  · exact hcarries

theorem Accounted.mergeAll (h : Accounted c e) (incoming : Collection) :
    Accounted (mergeAll keys c incoming).1 e := by
  induction incoming generalizing c with
  | nil => exact h
  | cons w incoming ih => exact ih (h.absorb w)

/-! ## Elements without keys -/

/-- The value has none of the key fields. -/
def Keyless (keys : List String) (v : Value) : Prop := ∀ k ∈ keys, v.field? k = none

instance (keys : List String) (v : Value) : Decidable (Keyless keys v) :=
  inferInstanceAs (Decidable (∀ k ∈ keys, v.field? k = none))

theorem Keyless.keysMatch (hv : Keyless keys v) (hw : Keyless keys w) :
    keysMatch keys v w = true :=
  keysMatch_iff.2 fun k hk => by rw [hv k hk, hw k hk]; rfl

theorem keyless_iff_of_keysMatch (h : keysMatch keys v w = true) :
    Keyless keys v ↔ Keyless keys w :=
  forall₂_congr fun _ hk => field?_eq_none_iff h hk

/-- What has a field is an object. -/
theorem isObject_of_not_keyless (h : ¬ Keyless keys v) : v.isObject = true := by
  cases v with
  | object r => rfl
  | _ => exact absurd (fun k _ => rfl) h

theorem isObject_overlay (v w : Value) : (overlay v w).isObject = v.isObject := by
  cases v <;> cases w <;> rfl

theorem keyless_overlay (h : keysMatch keys v w = true) :
    Keyless keys (overlay v w) ↔ Keyless keys v := by
  refine forall₂_congr fun k hk => ?_
  cases v with
  | object r =>
    cases w with
    | object fields =>
      have hnone : Record.get? r k = none ↔ Record.get? fields k = none := field?_eq_none_iff h hk
      change Record.get? (fields.foldl _ r) k = none ↔ Record.get? r k = none
      rw [Record.get?_eq_none_iff, Record.get?_eq_none_iff] at hnone
      rw [Record.get?_eq_none_iff, Record.get?_eq_none_iff, Record.mem_keys_foldl_insert]
      tauto
    | _ => rfl
  | _ => rfl

/-- The element matches some of the collection, but one of the two is a plain value each time. -/
def Overlooked (keys : List String) (c : Collection) (e : Value) : Prop :=
  Keyless keys e ∧ (∃ v ∈ c, Keyless keys v) ∧
    ∀ v ∈ c, Keyless keys v → ¬ (v.isObject = true ∧ e.isObject = true)

instance (keys : List String) (c : Collection) (e : Value) : Decidable (Overlooked keys c e) :=
  inferInstanceAs (Decidable (_ ∧ _ ∧ _))

/-- Whether an element is overlooked does not depend on what was merged before. -/
theorem overlooked_absorb (w : Value) :
    Overlooked keys (absorb keys c w) e ↔ Overlooked keys c e := by
  have hstep (v : Value) :
      (Keyless keys (if keysMatch keys v w then overlay v w else v) ↔ Keyless keys v) ∧
        (if keysMatch keys v w then overlay v w else v).isObject = v.isObject := by
    split
    · rename_i h
      exact ⟨keyless_overlay h, isObject_overlay v w⟩
    · exact ⟨Iff.rfl, rfl⟩
  simp only [Overlooked, absorb, List.mem_map, exists_exists_and_eq_and, forall_exists_index,
    and_imp, forall_apply_eq_imp_iff₂, (hstep _).1, (hstep _).2]

/-- What matches some of the collection and is not overlooked is laid over a record of it. -/
theorem accounted_absorb (hany : c.any (keysMatch keys · e) = true)
    (h : ¬ Overlooked keys c e) : Accounted (absorb keys c e) e := by
  obtain ⟨v, hv, hmatch⟩ := List.any_eq_true.1 hany
  obtain ⟨u, hu, humatch, huobj, heobj⟩ : ∃ u ∈ c, keysMatch keys u e = true ∧
      u.isObject = true ∧ e.isObject = true := by
    by_cases he : Keyless keys e
    · have hv' : Keyless keys v := (keyless_iff_of_keysMatch hmatch).2 he
      by_contra hnone
      refine h ⟨he, ⟨v, hv, hv'⟩, fun u hu hukeys hobj => hnone ?_⟩
      exact ⟨u, hu, hukeys.keysMatch he, hobj⟩
    · have hv' : ¬ Keyless keys v := mt (keyless_iff_of_keysMatch hmatch).1 he
      exact ⟨v, hv, hmatch, isObject_of_not_keyless hv', isObject_of_not_keyless he⟩
  refine ⟨_, List.mem_map_of_mem hu, ?_⟩
  rw [if_pos humatch]
  exact carries_overlay huobj heobj

/-! ## All incoming elements -/

theorem merge_cons (keys : List String) (c : Collection) (w : Value) (incoming : Collection) :
    merge keys false c (w :: incoming) = (mergeAll keys (absorb keys c w) incoming).1 ++
      if c.any (keysMatch keys · w) then (mergeAll keys (absorb keys c w) incoming).2
      else w :: (mergeAll keys (absorb keys c w) incoming).2 := rfl

/-- Of the incoming elements all that are not overlooked are accounted for. -/
theorem accounted_merge {incoming : Collection} (he : e ∈ incoming)
    (h : ¬ Overlooked keys c e) : Accounted (merge keys false c incoming) e := by
  induction incoming generalizing c with
  | nil => cases he
  | cons w incoming ih =>
    rw [merge_cons]
    rcases List.mem_cons.1 he with rfl | he
    · by_cases hany : c.any (keysMatch keys · e) = true
      · obtain ⟨v, hv, hcarries⟩ := (accounted_absorb hany h).mergeAll incoming
        exact ⟨v, List.mem_append_left _ hv, hcarries⟩
      · rw [if_neg hany]
        exact ⟨e, List.mem_append_right _ List.mem_cons_self, .refl e⟩
    · obtain ⟨v, hv, hcarries⟩ := ih he (mt (overlooked_absorb w).1 h)
      refine ⟨v, ?_, hcarries⟩
      rcases List.mem_append.1 hv with hv | hv
      · exact List.mem_append_left _ hv
      · refine List.mem_append_right _ ?_
        split
        · exact hv
        · exact List.mem_cons_of_mem _ hv

theorem absorb_overlooked (h : Overlooked keys c e) : absorb keys c e = c := by
  obtain ⟨he, -, hplain⟩ := h
  rw [absorb]
  refine (List.map_congr_left fun v hv => ?_).trans (List.map_id c)
  split
  · rename_i hmatch
    have hboth := hplain v hv ((keyless_iff_of_keysMatch hmatch).2 he)
    cases v with
    | object r =>
      cases e with
      | object fields => exact absurd ⟨rfl, rfl⟩ hboth
      | _ => rfl
    | _ => rfl
  · rfl

/-- What is overlooked leaves no trace. -/
theorem mergeAll_overlooked (before after : Collection) (h : Overlooked keys c e) :
    mergeAll keys c (before ++ e :: after) = mergeAll keys c (before ++ after) := by
  induction before generalizing c with
  | nil =>
    obtain ⟨v, hv, hkeys⟩ := h.2.1
    have hany : c.any (keysMatch keys · e) = true :=
      List.any_eq_true.2 ⟨v, hv, hkeys.keysMatch h.1⟩
    rw [List.nil_append, List.nil_append, mergeAll, absorb_overlooked h, hany]
    rfl
  | cons w before ih =>
    have hrest := ih ((overlooked_absorb w).2 h)
    rw [List.cons_append, List.cons_append, mergeAll, mergeAll, hrest]

/-- Records are never overlooked where all are records. -/
theorem not_overlooked_of_isObject (hc : ∀ v ∈ c, v.isObject = true) (he : e.isObject = true) :
    ¬ Overlooked keys c e := by
  rintro ⟨-, ⟨v, hv, hkeys⟩, hplain⟩
  exact hplain v hv hkeys ⟨hc v hv, he⟩

/-- **What becomes of incoming elements**: those that are not overlooked are accounted for, records
among records in any case. The others might as well not be there. -/
theorem run_accounts : ∀ (setting : Setting) (job other : String) (raw : Value)
    (keys : List String) (s : Session) (c incoming : Collection),
    Asks raw other keys false → s.store.get? job = some c → s.store.get? other = some incoming →
    ∃ d log, Operator.mergeObjects.run setting job raw s =
        (.ok (), ⟨s.store.insert job d, s.files, log⟩) ∧
      (∀ e ∈ incoming, ¬ Overlooked keys c e → Accounted d e) ∧
      ((∀ v ∈ c ++ incoming, v.isObject = true) → ∀ e ∈ incoming, Accounted d e) ∧
      (∀ before e after, incoming = before ++ e :: after → Overlooked keys c e →
        d = merge keys false c (before ++ after)) := by
  intro setting job other raw keys s c incoming hasks hc hincoming
  obtain ⟨log, hrun⟩ := run_of_asks hasks hc hincoming setting
  refine ⟨merge keys false c incoming, log, hrun, fun e he h => accounted_merge he h,
    fun hobjects e he => ?_, fun before e after hsplit h => ?_⟩
  · have hcobj : ∀ v ∈ c, v.isObject = true := fun v hv => hobjects v (List.mem_append_left _ hv)
    exact accounted_merge he
      (not_overlooked_of_isObject hcobj (hobjects e (List.mem_append_right _ he)))
  · rw [merge, merge, hsplit, mergeAll_overlooked before after h]

/-- A plain value, and a record and another plain value to be merged into it. -/
def plainStore : Store :=
  (Catalog.empty.insert "a" [.string "x"]).insert "b"
    [.object [("n", .number (.int 1 isWord_one))], .string "y"]

/-- The parameters of a merge of the collection `b` by the field. -/
def mergeByField (k : String) : Value :=
  .object [("name", .string "b"), ("key", .array [.string k])]

theorem asks_mergeByField (k : String) : Asks (mergeByField k) "b" [k] false :=
  ⟨_, rfl, rfl, rfl, rfl⟩

/-- A record with the key is appended; the value without it is not there in the end. -/
theorem run_accounts_plainStore :
    ¬ Overlooked ["n"] [.string "x"] (.object [("n", .number (.int 1 isWord_one))]) ∧
    Overlooked ["n"] [.string "x"] (.string "y") ∧
    ∃ d log, Operator.mergeObjects.run ⟨none, .empty⟩ "a" (mergeByField "n")
        ⟨plainStore, default, []⟩ = (.ok (), ⟨plainStore.insert "a" d, default, log⟩) ∧
      Accounted d (.object [("n", .number (.int 1 isWord_one))]) ∧
      d = merge ["n"] false [.string "x"] [.object [("n", .number (.int 1 isWord_one))]] := by
  have hkept : ¬ Overlooked ["n"] [.string "x"] (.object [("n", .number (.int 1 isWord_one))]) := by
    decide
  have hlost : Overlooked ["n"] [.string "x"] (.string "y") := by decide
  obtain ⟨d, log, hrun, hall, -, htrace⟩ := run_accounts ⟨none, .empty⟩ "a" "b" (mergeByField "n")
    ["n"] ⟨plainStore, default, []⟩ _ _ (asks_mergeByField "n") rfl rfl
  exact ⟨hkept, hlost, d, log, hrun, hall _ List.mem_cons_self hkept,
    htrace [_] (.string "y") [] rfl hlost⟩

/-- Without keys, a record and a plain value are lost where there is a plain value. -/
theorem incoming_lost_of_plainStore :
    Asks (mergeByField "k") "b" ["k"] false ∧
    ∃ log, Operator.mergeObjects.run ⟨none, .empty⟩ "a" (mergeByField "k")
        ⟨plainStore, default, []⟩ = (.ok (), ⟨plainStore.insert "a" [.string "x"], default, log⟩) ∧
      ¬ Accounted [.string "x"] (.object [("n", .number (.int 1 isWord_one))]) ∧
      ¬ Accounted [.string "x"] (.string "y") := by
  have hasks := asks_mergeByField "k"
  obtain ⟨log, hrun⟩ := run_of_asks (s := ⟨plainStore, default, []⟩) hasks
    (show plainStore.get? "a" = _ from rfl) (show plainStore.get? "b" = _ from rfl) ⟨none, .empty⟩
  refine ⟨hasks, log, hrun, ?_, ?_⟩
  · rintro ⟨v, hv, hcarries⟩
    obtain rfl := List.mem_singleton.1 hv
    cases hcarries
  · rintro ⟨v, hv, hcarries⟩
    obtain rfl := List.mem_singleton.1 hv
    exact absurd hcarries (by simp [Carries])

end Merge

end Reshape
