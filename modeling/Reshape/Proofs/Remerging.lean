import Reshape.Proofs.Equivalence
import Reshape.Proofs.Joining

/-!
# Merging twice

A record that was merged has the fields of what it matched, and matches the same again. To lay the
same records over it a second time changes nothing, since of every field the last value was kept.
An incoming record that was appended matches itself, so that nothing is appended twice.

* `Record.patched_assoc`, `Record.patched_patched_self`: records laid over one another; of two
  records with the same fields in one order, `Record.ext_get?` tells that they are the same.
* `Value.foldl_patched_twice`: a list of records laid over a record twice.
* `Merge.Apart`, `Merge.merge_self`: a collection of which no two records match, merged into itself.
* `Merge.keysMatch_joined`: a record that was merged matches what it matched before.
* `Merge.outcome`, `Merge.merge_outcome`: what a merge makes, and that it is made of that again.
* `Merge.run_idempotent`: the operator.
-/

namespace Reshape

namespace Record

variable {r a b : Record} {rs : List Record}

/-! ## Records laid over one another -/

theorem nodup_keys_nil : (keys []).Nodup := List.nodup_nil

/-- Records with the same names in the same order and the same values are the same. -/
theorem ext_get? (hr : r.keys.Nodup) (hkeys : r.keys = a.keys) (hget : ∀ k, r.get? k = a.get? k) :
    r = a := by
  induction r generalizing a with
  | nil => exact (List.map_eq_nil_iff.1 hkeys.symm).symm
  | cons f r ih =>
    obtain ⟨g, a, rfl⟩ : ∃ g a', a = g :: a' := by
      cases a with
      | nil => cases hkeys
      | cons g a => exact ⟨g, a, rfl⟩
    obtain ⟨hname, hkeys⟩ : f.1 = g.1 ∧ keys r = keys a := List.cons.inj hkeys
    obtain ⟨hf, hr⟩ := List.nodup_cons.1 hr
    have hvalue : f.2 = g.2 := by
      have := hget f.1
      rwa [get?_cons, get?_cons, if_pos rfl, if_pos hname, Option.some.injEq] at this
    have hrest (k : String) : get? r k = get? a k := by
      by_cases hk : k = f.1
      · have hkr : k ∉ keys r := hk ▸ hf
        rw [get?_eq_none_iff.2 hkr, get?_eq_none_iff.2 (hkeys ▸ hkr)]
      · have := hget k
        rwa [get?_cons, get?_cons, if_neg hk, if_neg (hname ▸ hk)] at this
    rw [ih hr hkeys hrest, Prod.ext hname hvalue]

theorem keys_patched (r a : Record) :
    (r.patched a).keys = r.keys ++ a.keys.filter (· ∉ r.keys) := by
  rw [patched, keys, List.map_append, List.map_map, keys, keys, List.filter_map]
  rfl

theorem nodup_keys_patched (hr : r.keys.Nodup) (ha : a.keys.Nodup) :
    (r.patched a).keys.Nodup := by
  rw [keys_patched]
  refine hr.append (ha.filter _) fun k hk hk' => ?_
  exact of_decide_eq_true (List.mem_filter.1 hk').2 hk

theorem get?_patched (hr : r.keys.Nodup) (ha : a.keys.Nodup) (k : String) :
    (r.patched a).get? k = (a.get? k).or (r.get? k) := by
  rw [← foldl_insert_eq hr ha, get?_foldl_insert ha]

@[simp] theorem patched_nil (r : Record) : r.patched [] = r := by simp [patched, get?]

@[simp] theorem nil_patched (a : Record) : patched [] a = a := by simp [patched, keys]

theorem patched_assoc (hr : r.keys.Nodup) (ha : a.keys.Nodup) (hb : b.keys.Nodup) :
    (r.patched a).patched b = r.patched (a.patched b) := by
  have hra := nodup_keys_patched hr ha
  have hab := nodup_keys_patched ha hb
  refine ext_get? (nodup_keys_patched hra hb) ?_ fun k => ?_
  · rw [keys_patched, keys_patched, keys_patched, keys_patched, List.filter_append,
      List.filter_filter, List.append_assoc]
    congr 2
    refine List.filter_congr fun k _ => ?_
    by_cases hk : k ∈ r.keys <;> simp [hk]
  · rw [get?_patched hra hb, get?_patched hr ha, get?_patched hr hab, get?_patched ha hb,
      Option.or_assoc]

theorem patched_patched_self (hr : r.keys.Nodup) (ha : a.keys.Nodup) :
    (r.patched a).patched a = r.patched a := by
  have hra := nodup_keys_patched hr ha
  refine ext_get? (nodup_keys_patched hra ha) ?_ fun k => ?_
  · rw [keys_patched (r.patched a), List.filter_eq_nil_iff.2, List.append_nil]
    intro k hk
    rw [keys_patched]
    by_cases hkr : k ∈ r.keys <;> simp [hkr, hk]
  · rw [get?_patched hra ha, get?_patched hr ha, ← Option.or_assoc, Option.or_self]

theorem patched_self (hr : r.keys.Nodup) : r.patched r = r := by
  have := patched_patched_self nodup_keys_nil hr
  rwa [nil_patched] at this

/-- To lay records over one after another is to lay one record over it. -/
theorem foldl_patched_eq (hr : r.keys.Nodup) (hrs : ∀ a ∈ rs, a.keys.Nodup) :
    rs.foldl patched r = r.patched (rs.foldl patched []) ∧ (rs.foldl patched r).keys.Nodup := by
  induction rs generalizing r with
  | nil => exact ⟨(patched_nil r).symm, hr⟩
  | cons a rs ih =>
    obtain ⟨ha, hrs⟩ := List.forall_mem_cons.1 hrs
    have hnil := (ih nodup_keys_nil hrs).2
    obtain ⟨hrest, hkeys⟩ := ih (nodup_keys_patched hr ha) hrs
    refine ⟨?_, hkeys⟩
    rw [List.foldl_cons, List.foldl_cons, nil_patched, hrest, (ih ha hrs).1,
      patched_assoc hr ha hnil]

theorem foldl_patched_twice (hr : r.keys.Nodup) (hrs : ∀ a ∈ rs, a.keys.Nodup) :
    rs.foldl patched (rs.foldl patched r) = rs.foldl patched r := by
  obtain ⟨honce, hkeys⟩ := foldl_patched_eq hr hrs
  have hnil := (foldl_patched_eq nodup_keys_nil hrs).2
  rw [(foldl_patched_eq hkeys hrs).1, honce, patched_patched_self hr hnil]

end Record

namespace Value

variable {v w : Value} {ws : List Value}

theorem patched_self (hv : v.Unambiguous) : v.patched v = v := by
  cases v with
  | object r => exact congrArg Value.object (Record.patched_self (Unambiguous.object_iff.1 hv).1)
  | _ => rfl

theorem patched_of_isObject_eq_false (h : v.isObject = false ∨ w.isObject = false) :
    v.patched w = v := by
  cases v with
  | object r =>
    cases w with
    | object fields => rcases h with h | h <;> cases h
    | _ => rfl
  | _ => rfl

theorem foldl_patched_of_forall (h : ∀ w ∈ ws, v.patched w = v) : ws.foldl patched v = v := by
  induction ws with
  | nil => rfl
  | cons w ws ih =>
    obtain ⟨hw, hws⟩ := List.forall_mem_cons.1 h
    rw [List.foldl_cons, hw, ih hws]

theorem foldl_patched_object (r : Record) (ws : List Value) :
    ws.foldl patched (.object r) = .object ((ws.filterMap fields?).foldl Record.patched r) := by
  induction ws generalizing r with
  | nil => rfl
  | cons w ws ih => cases w <;> exact ih _

/-- To lay the same values over a value again changes nothing. -/
theorem foldl_patched_twice (hv : v.Unambiguous) (hws : ∀ w ∈ ws, w.Unambiguous) :
    ws.foldl patched (ws.foldl patched v) = ws.foldl patched v := by
  by_cases h : v.isObject = true
  · obtain ⟨r, rfl⟩ : ∃ r, v = .object r := by
      cases v with
      | object r => exact ⟨r, rfl⟩
      | _ => cases h
    have hr := (Unambiguous.object_iff.1 hv).1
    have hrs : ∀ a ∈ ws.filterMap fields?, a.keys.Nodup := by
      intro a ha
      obtain ⟨w, hw, hwa⟩ := List.mem_filterMap.1 ha
      cases w with
      | object fields =>
        cases hwa
        exact (Unambiguous.object_iff.1 (hws _ hw)).1
      | _ => cases hwa
    rw [foldl_patched_object, foldl_patched_object, Record.foldl_patched_twice hr hrs]
  · have hplain : ws.foldl patched v = v := foldl_patched_of_forall fun w _ =>
      patched_of_isObject_eq_false (.inl (Bool.not_eq_true _ ▸ h))
    rw [hplain, hplain]

end Value

namespace Merge

variable {keys : List String} {c incoming : Collection} {v w x : Value}

/-! ## Matching again -/

theorem keysMatch_refl (hv : v.Unambiguous) : keysMatch keys v v = true :=
  keysMatch_iff.2 fun _ _ => Value.fieldEq_refl fun _ h => hv.of_field? h

/-- What is laid over a record that it matches leaves what the record matches. -/
theorem keysMatch_foldl_patched {ws : List Value}
    (hws : ∀ w ∈ ws, w.Unambiguous ∧ keysMatch keys v w = true)
    (hkeys : ∀ w ∈ ws, ∀ y ∈ incoming, keysMatch keys w y = keysMatch keys v y)
    (hsub : ws ⊆ incoming) (hx : x.Unambiguous)
    (hmatch : ∀ y ∈ incoming, keysMatch keys x y = keysMatch keys v y) :
    (ws.foldl Value.patched x).Unambiguous ∧
      ∀ y ∈ incoming, keysMatch keys (ws.foldl Value.patched x) y = keysMatch keys v y := by
  induction ws generalizing x with
  | nil => exact ⟨hx, hmatch⟩
  | cons w ws ih =>
    obtain ⟨⟨hw, hvw⟩, hws⟩ := List.forall_mem_cons.1 hws
    obtain ⟨hwkeys, hkeys⟩ := List.forall_mem_cons.1 hkeys
    obtain ⟨hwmem, hsub⟩ := List.cons_subset.1 hsub
    have hxw : keysMatch keys x w = true := (hmatch w hwmem).trans hvw
    rw [List.foldl_cons, ← overlay_eq hx hw]
    refine ih hws hkeys hsub (unambiguous_overlay hx hw) fun y hy => ?_
    rw [keysMatch_overlay hw hxw]
    exact hwkeys y hy

/-! ## Records that do not match -/

/-- No two records of the collection match; plain values may match anything. -/
def Apart (keys : List String) (c : Collection) : Prop :=
  c.Pairwise fun v w => v.isObject = true → w.isObject = true → keysMatch keys v w = false

instance (keys : List String) (c : Collection) : Decidable (Apart keys c) :=
  inferInstanceAs (Decidable (c.Pairwise fun v w =>
    v.isObject = true → w.isObject = true → keysMatch keys v w = false))

/-- Of records that match none of the others, what one matches leaves it as it is. -/
theorem patched_of_keysMatch (hfields : ∀ v ∈ c, v.Unambiguous) (hc : Apart keys c) (hv : v ∈ c)
    (hw : w ∈ c) (h : keysMatch keys v w = true) : v.patched w = v := by
  cases hvobject : v.isObject with
  | false => exact Value.patched_of_isObject_eq_false (.inl hvobject)
  | true =>
    cases hwobject : w.isObject with
    | false => exact Value.patched_of_isObject_eq_false (.inr hwobject)
    | true =>
      obtain ⟨i, hi, rfl⟩ := List.getElem_of_mem hv
      obtain ⟨j, hj, rfl⟩ := List.getElem_of_mem hw
      obtain hij | rfl | hij := Nat.lt_trichotomy i j
      · have hno := List.pairwise_iff_getElem.1 hc i j hi hj hij hvobject hwobject
        cases hno.symm.trans h
      · exact Value.patched_self (hfields _ hv)
      · have hno := List.pairwise_iff_getElem.1 hc j i hj hi hij hwobject hvobject
        cases hno.symm.trans (keysMatch_symm (hfields _ hv) (hfields _ hw) h)

theorem joined_of_apart (hfields : ∀ v ∈ c, v.Unambiguous) (hc : Apart keys c) (hv : v ∈ c) :
    joined keys c v = v :=
  Value.foldl_patched_of_forall fun _ hw =>
    have hw := List.mem_filter.1 hw
    patched_of_keysMatch hfields hc hv hw.1 hw.2

/-- A collection of records that do not match is the same after it is merged into itself. -/
theorem merge_self (hfields : ∀ v ∈ c, v.Unambiguous) (hc : Apart keys c) (strict : Bool) :
    merge keys strict c c = c := by
  have habsorb {w : Value} (hw : w ∈ c) : absorb keys c w = c := by
    refine (List.map_congr_left fun v hv => ?_).trans (List.map_id c)
    split
    · rename_i h
      rw [overlay_eq (hfields v hv) (hfields w hw), patched_of_keysMatch hfields hc hv hw h, id_eq]
    · rfl
  have hall {incoming : Collection} (hsub : incoming ⊆ c) : mergeAll keys c incoming = (c, []) := by
    induction incoming with
    | nil => rfl
    | cons w incoming ih =>
      obtain ⟨hw, hsub⟩ := List.cons_subset.1 hsub
      have hany : c.any (keysMatch keys · w) = true :=
        List.any_eq_true.2 ⟨w, hw, keysMatch_refl (hfields w hw)⟩
      rw [mergeAll, habsorb hw, ih hsub, hany]
      rfl
  rw [merge, hall (List.Subset.refl c)]
  cases strict <;> simp

/-! ## Merging again -/

/-- What a merge makes of two collections: the joined records and, unless it is strict, those that
match none. -/
def outcome (keys : List String) (strict : Bool) (c incoming : Collection) : Collection :=
  c.map (joined keys incoming) ++ if strict then [] else unmatched keys c incoming

theorem mem_outcome {strict : Bool} (hv : v ∈ outcome keys strict c incoming) :
    (∃ u ∈ c, joined keys incoming u = v) ∨ strict = false ∧ v ∈ incoming := by
  rcases List.mem_append.1 hv with hv | hv
  · exact .inl (List.mem_map.1 hv)
  · cases strict
    · exact .inr ⟨rfl, (List.mem_filter.1 hv).1⟩
    · cases hv

section Again

variable {strict : Bool} (hfields : ∀ v ∈ c ++ incoming, v.Unambiguous)
  (hkeys : Transitive keys (c ++ incoming))
include hfields hkeys

/-- A record that was merged matches what it matched before. -/
theorem keysMatch_joined (hv : v ∈ c ++ incoming) : (joined keys incoming v).Unambiguous ∧
    ∀ y ∈ incoming, keysMatch keys (joined keys incoming v) y = keysMatch keys v y := by
  have hmem {w : Value} (hw : w ∈ incoming.filter (keysMatch keys v)) :=
    List.mem_append_right c (List.mem_filter.1 hw).1
  refine keysMatch_foldl_patched (fun w hw => ⟨hfields w (hmem hw), (List.mem_filter.1 hw).2⟩)
    (fun w hw y hy => ?_) (List.filter_subset_self incoming) (hfields v hv) fun y _ => rfl
  exact keysMatch_congr hkeys hfields hv (hmem hw) (List.mem_append_right c hy)
    (List.mem_filter.1 hw).2

theorem joined_joined (hv : v ∈ c ++ incoming) :
    joined keys incoming (joined keys incoming v) = joined keys incoming v := by
  have hsame : incoming.filter (keysMatch keys (joined keys incoming v)) =
      incoming.filter (keysMatch keys v) :=
    List.filter_congr (keysMatch_joined hfields hkeys hv).2
  rw [joined, hsame]
  refine Value.foldl_patched_twice (hfields v hv) fun w hw => ?_
  exact hfields w (List.mem_append_right c (List.mem_filter.1 hw).1)

/-- Each record of the outcome matches what one of the two collections matches. -/
theorem keysMatch_of_mem_outcome (hv : v ∈ outcome keys strict c incoming) : v.Unambiguous ∧
    ∃ u ∈ c ++ incoming, ∀ y ∈ incoming, keysMatch keys v y = keysMatch keys u y := by
  rcases mem_outcome hv with ⟨u, hu, rfl⟩ | ⟨-, hv⟩
  · have hu := List.mem_append_left incoming hu
    obtain ⟨hjoined, hmatch⟩ := keysMatch_joined hfields hkeys hu
    exact ⟨hjoined, u, hu, hmatch⟩
  · have hv := List.mem_append_right c hv
    exact ⟨hfields v hv, v, hv, fun _ _ => rfl⟩

theorem map_joined_outcome (hapart : strict = true ∨ Apart keys incoming) :
    (outcome keys strict c incoming).map (joined keys incoming) =
      outcome keys strict c incoming := by
  refine (List.map_congr_left fun v hv => ?_).trans (List.map_id _)
  rcases mem_outcome hv with ⟨u, hu, rfl⟩ | ⟨rfl, hmem⟩
  · exact joined_joined hfields hkeys (List.mem_append_left incoming hu)
  · have hapart := hapart.resolve_left Bool.false_ne_true
    exact joined_of_apart (fun w hw => hfields w (List.mem_append_right c hw)) hapart hmem

/-- Each incoming record matches one of the outcome, itself if it was appended. -/
theorem unmatched_outcome : unmatched keys (outcome keys false c incoming) incoming = [] := by
  refine List.filter_eq_nil_iff.2 fun w hw => ?_
  rw [Bool.not_eq_true', Bool.not_eq_false, List.any_eq_true]
  by_cases hmatched : c.any (keysMatch keys · w) = true
  · obtain ⟨u, hu, huw⟩ := List.any_eq_true.1 hmatched
    have hmatch := (keysMatch_joined hfields hkeys (List.mem_append_left incoming hu)).2 w hw
    exact ⟨_, List.mem_append_left _ (List.mem_map_of_mem hu), hmatch.trans huw⟩
  · have hleft : w ∈ unmatched keys c incoming := List.mem_filter.2 ⟨hw, by simpa using hmatched⟩
    exact ⟨w, List.mem_append_right _ hleft,
      keysMatch_refl (hfields w (List.mem_append_right c hw))⟩

/-- **What was merged is merged again into what it was.** -/
theorem merge_outcome (hapart : strict = true ∨ Apart keys incoming) :
    merge keys strict (outcome keys strict c incoming) incoming =
      outcome keys strict c incoming := by
  have hincoming {w : Value} (hw : w ∈ incoming) := List.mem_append_right c hw
  have hmatch : ∀ v ∈ outcome keys strict c incoming, ∀ w ∈ incoming, ∀ x ∈ incoming,
      keysMatch keys v w = true → keysMatch keys w x = keysMatch keys v x := by
    intro v hv w hw x hx h
    obtain ⟨-, u, hu, hsame⟩ := keysMatch_of_mem_outcome hfields hkeys hv
    rw [hsame w hw] at h
    rw [hsame x hx]
    exact keysMatch_congr hkeys hfields hu (hincoming hw) (hincoming hx) h
  have hall := mergeAll_map incoming id (fun w hw => hfields w (hincoming hw)) hmatch
    fun v hv => ⟨(keysMatch_of_mem_outcome hfields hkeys hv).1, fun _ _ => rfl⟩
  have hjoined := map_joined_outcome hfields hkeys hapart
  rw [List.map_id] at hall
  rw [merge, hall]
  cases strict
  · rw [unmatched_outcome hfields hkeys]
    exact (List.append_nil _).trans hjoined
  · exact hjoined

end Again

/-! ## The operator -/

/-- **Merging twice is merging once**, if equality is transitive on the key fields and, unless the
merge is strict, no two incoming records match. A collection of which no two records match is the
same after it is merged into itself. -/
theorem run_idempotent : ∀ (setting : Setting) (job other : String) (raw : Value)
    (keys : List String) (strict : Bool) (s : Session) (c incoming : Collection),
    Asks raw other keys strict → s.store.get? job = some c → s.store.get? other = some incoming →
    (∀ v ∈ c ++ incoming, v.Unambiguous) →
    let run := Operator.mergeObjects.run setting job raw
    (other ≠ job → Transitive keys (c ++ incoming) → (strict = true ∨ Apart keys incoming) →
      let t := s.store.insert job (outcome keys strict c incoming)
      ∃ log log', run s = (.ok (), ⟨t, s.files, log⟩) ∧
        run ⟨t, s.files, log⟩ = (.ok (), ⟨t, s.files, log'⟩)) ∧
    (other = job → Apart keys c → ∃ log, run s = (.ok (), ⟨s.store, s.files, log⟩)) := by
  intro setting job other raw keys strict s c incoming hasks hc hincoming hfields run
  obtain ⟨log, hrun⟩ := run_of_asks hasks hc hincoming setting
  refine ⟨fun hne hkeys hapart => ?_, fun heq hapart => ?_⟩
  · have hmerge : merge keys strict c incoming = outcome keys strict c incoming :=
      merge_eq hfields hkeys strict
    rw [hmerge] at hrun
    intro t
    have hother : t.get? other = some incoming := (Catalog.get?_insert_of_ne hne ..).trans hincoming
    obtain ⟨log', hagain⟩ := run_of_asks (s := ⟨t, s.files, log⟩) hasks
      (Catalog.get?_insert_self ..) hother setting
    refine ⟨log, log', hrun, hagain.trans ?_⟩
    rw [merge_outcome hfields hkeys hapart, Catalog.insert_insert]
  · subst heq
    obtain rfl : c = incoming := Option.some.inj (hc.symm.trans hincoming)
    have hself : merge keys strict c c = c :=
      merge_self (fun v hv => hfields v (List.mem_append_left c hv)) hapart strict
    rw [hself, Catalog.insert_of_get? hc] at hrun
    exact ⟨log, hrun⟩

/-- Guests that were joined with their rooms are joined again, and are merged into themselves. -/
theorem run_idempotent_partyStore :
    let raw (other : String) : Value := .object
      [("name", .string other), ("key", .array [.string "id"]), ("strict", .bool false)]
    let run (other : String) := Operator.mergeObjects.run ⟨none, .empty⟩ "guests" (raw other)
    let t := partyStore.insert "guests" (outcome ["id"] false guestList roomList)
    (∀ v ∈ guestList ++ roomList, v.Unambiguous) ∧ Transitive ["id"] (guestList ++ roomList) ∧
      Apart ["id"] roomList ∧ Apart ["id"] guestList ∧
      (∃ log log', run "rooms" ⟨partyStore, default, []⟩ = (.ok (), ⟨t, default, log⟩) ∧
        run "rooms" ⟨t, default, log⟩ = (.ok (), ⟨t, default, log'⟩)) ∧
      ∃ log, run "guests" ⟨partyStore, default, []⟩ = (.ok (), ⟨partyStore, default, log⟩) := by
  intro raw run t
  have hfields : ∀ v ∈ guestList ++ roomList, v.Unambiguous := by decide +kernel
  have hself : ∀ v ∈ guestList ++ guestList, v.Unambiguous := by decide +kernel
  have hkeys : Transitive ["id"] (guestList ++ roomList) := by decide +kernel
  have hrooms : Apart ["id"] roomList := by decide +kernel
  have hguests : Apart ["id"] guestList := by decide +kernel
  have hasks (other : String) : Asks (raw other) other ["id"] false :=
    asks_object other (List.cons_ne_nil "id" []) false
  have htwice := run_idempotent ⟨none, .empty⟩ "guests" "rooms" (raw "rooms") ["id"] false
    ⟨partyStore, default, []⟩ guestList roomList (hasks "rooms") rfl rfl hfields
  have honce := run_idempotent ⟨none, .empty⟩ "guests" "guests" (raw "guests") ["id"] false
    ⟨partyStore, default, []⟩ guestList guestList (hasks "guests") rfl rfl hself
  exact ⟨hfields, hkeys, hrooms, hguests, htwice.1 (by decide) hkeys (.inr hrooms),
    honce.2 rfl hguests⟩

end Merge

end Reshape
