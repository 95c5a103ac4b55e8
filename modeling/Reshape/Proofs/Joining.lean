import Reshape.Proofs.Change
import Reshape.Proofs.Unambiguous

/-!
# Merging as a join

The records of a collection change while others are merged into them, the fields by which they are
matched included. A merge leaves equal values in these fields, so that what matches a record later
is what matched it at first, provided that equality of the values in the key fields is transitive.

* `Record.patched`, `Merge.overlay_eq`: one record laid over another one.
* `Merge.joined`, `Merge.unmatched`: what becomes of a record, and what is left over, by the records
  as they were.
* `Merge.Transitive`, `Merge.keysMatch_congr`: records that match the same third one.
* `Merge.mergeAll_map`: the records that are changed still match what they matched.
* `Merge.Asks`, `Merge.records_eq_ok`: what parameters ask for.
* `Merge.run_joins`: the operator joins the records as they were.
-/

namespace Reshape

/-! ## Records laid over others -/

namespace Record

variable {r fields : Record} {k : String}

theorem get?_cons (f : String × Value) (r : Record) (k : String) :
    get? (f :: r) k = if k = f.1 then some f.2 else r.get? k := by
  rw [get?, get?, List.lookup_cons]
  by_cases h : k = f.1
  · rw [if_pos h, h, beq_self_eq_true]
  · rw [if_neg h, beq_false_of_ne h]

theorem get?_eq_none_iff : r.get? k = none ↔ k ∉ r.keys := by
  induction r with
  | nil => simp [get?, keys]
  | cons f r ih =>
    rw [get?_cons, keys, List.map_cons, List.mem_cons, not_or, ← keys, ← ih]
    split <;> simp [*]

theorem get?_insert (r : Record) (k j : String) (v : Value) :
    (r.insert k v).get? j = if j = k then some v else r.get? j := by
  induction r with
  | nil => exact get?_cons (k, v) [] j
  | cons f r ih =>
    rw [insert]
    split
    · rename_i hf
      rw [get?_cons, get?_cons, hf]
      by_cases h : j = k
      · rw [if_pos h, if_pos h]
      · rw [if_neg h, if_neg h, if_neg h]
    · rename_i hf
      rw [get?_cons, get?_cons, ih]
      by_cases h : j = f.1
      · rw [if_pos h, if_pos h, if_neg fun hk => hf (h.symm.trans hk)]
      · rw [if_neg h, if_neg h]

/-- Of fields that are set one after another, those with names of their own are found. -/
theorem get?_foldl_insert (h : fields.keys.Nodup) (r : Record) (k : String) :
    (fields.foldl (fun r f => insert r f.1 f.2) r).get? k = (fields.get? k).or (r.get? k) := by
  induction fields generalizing r with
  | nil => rfl
  | cons f fields ih =>
    obtain ⟨hf, hfields⟩ := List.nodup_cons.1 h
    rw [List.foldl_cons, ih hfields, get?_insert, get?_cons]
    by_cases hk : k = f.1
    · have hnone : get? fields k = none := get?_eq_none_iff.2 (by rw [hk]; exact hf)
      rw [if_pos hk, if_pos hk, hnone]
      rfl
    · rw [if_neg hk, if_neg hk]

/-- The record with the values of another one, whose other fields follow. -/
def patched (r fields : Record) : Record :=
  r.map (fun f => (f.1, (fields.get? f.1).getD f.2)) ++ fields.filter (·.1 ∉ r.keys)

theorem insert_of_mem (hr : r.keys.Nodup) (hk : k ∈ r.keys) (v : Value) :
    r.insert k v = r.map fun f => (f.1, if f.1 = k then v else f.2) := by
  induction r with
  | nil => cases hk
  | cons f r ih =>
    obtain ⟨hf, hr⟩ := List.nodup_cons.1 hr
    rw [insert, List.map_cons]
    split
    · rename_i hfk
      have hrest : (r.map fun g => (g.1, if g.1 = k then v else g.2)) = r := by
        refine (List.map_congr_left fun g hg => ?_).trans (List.map_id r)
        have hg : g.1 ≠ k := fun he => hf (List.mem_map.2 ⟨g, hg, he.trans hfk.symm⟩)
        rw [if_neg hg, id_eq]
      rw [hrest]
    · rename_i hfk
      rw [ih hr ((List.mem_cons.1 hk).resolve_left (Ne.symm hfk))]

/-- To set the fields of another record, each in its place if it is there, is to lay that record
over the one. -/
theorem foldl_insert_eq (hr : r.keys.Nodup) (h : fields.keys.Nodup) :
    fields.foldl (fun r f => insert r f.1 f.2) r = r.patched fields := by
  induction fields generalizing r with
  | nil => simp [patched, get?]
  | cons f fields ih =>
    obtain ⟨k, v⟩ := f
    obtain ⟨hk, hfields⟩ := List.nodup_cons.1 h
    have hnone : get? fields k = none := get?_eq_none_iff.2 hk
    rw [List.foldl_cons, ih (nodup_keys_insert hr k v) hfields]
    by_cases hmem : k ∈ r.keys
    · have hkeys : keys (r.map fun f => (f.1, if f.1 = k then v else f.2)) = r.keys := by
        simp [keys]
      rw [insert_of_mem hr hmem, patched, patched, hkeys, List.map_map,
        List.filter_cons_of_neg (by simpa using hmem)]
      congr 1
      refine List.map_congr_left fun f _ => ?_
      by_cases hf : f.1 = k <;> simp [get?_cons, hf, hnone]
    · rw [insert_of_notMem hmem, patched, patched, List.map_append, List.append_assoc,
        List.filter_cons_of_pos (by simpa using hmem)]
      have hplace : ∀ f ∈ r, f.1 ≠ k := fun f hf he => hmem (List.mem_map.2 ⟨f, hf, he⟩)
      have hrest : ∀ f ∈ fields, f.1 ≠ k := fun f hf he => hk (List.mem_map.2 ⟨f, hf, he⟩)
      congr 1
      · refine List.map_congr_left fun f hf => ?_
        rw [get?_cons, if_neg (hplace f hf)]
      · rw [List.map_singleton, hnone, List.singleton_append, Option.getD_none]
        congr 1
        refine List.filter_congr fun f hf => ?_
        have hne := hrest f hf
        rw [keys, keys, List.map_append, decide_eq_decide, List.mem_append]
        simp [hne]

end Record

/-- The value with another one laid over it, if both are objects. -/
def Value.patched : Value → Value → Value
  | .object r, .object fields => .object (Record.patched r fields)
  | v, _ => v

namespace Merge

variable {keys : List String} {k : String} {v w x : Value}

theorem overlay_eq (hv : v.Unambiguous) (hw : w.Unambiguous) : overlay v w = v.patched w := by
  cases v with
  | object r =>
    cases w with
    | object fields =>
      have hr := (Value.Unambiguous.object_iff.1 hv).1
      have hfields := (Value.Unambiguous.object_iff.1 hw).1
      exact congrArg Value.object (Record.foldl_insert_eq hr hfields)
    | _ => rfl
  | _ => rfl

theorem unambiguous_overlay (hv : v.Unambiguous) (hw : w.Unambiguous) :
    (overlay v w).Unambiguous := by
  cases v with
  | object r =>
    cases w with
    | object fields => exact hv.foldl_insert (Value.Unambiguous.object_iff.1 hw).2
    | _ => exact hv
  | _ => exact hv

/-! ## Matching -/

theorem keysMatch_iff : keysMatch keys v w = true ↔
    ∀ k ∈ keys, Value.fieldEq (v.field? k) (w.field? k) = true :=
  List.all_eq_true

/-- The values in the field of a collection's records. -/
def valuesOf (c : Collection) (k : String) : List Value := c.filterMap (·.field? k)

/-- Equality is transitive on the values in each of the key fields. -/
def Transitive (keys : List String) (c : Collection) : Prop :=
  ∀ k ∈ keys, ∀ x ∈ valuesOf c k, ∀ y ∈ valuesOf c k, ∀ z ∈ valuesOf c k,
    x.strictEq y = true → y.strictEq z = true → x.strictEq z = true

instance (keys : List String) (c : Collection) : Decidable (Transitive keys c) :=
  inferInstanceAs (Decidable (∀ k ∈ keys, ∀ x ∈ valuesOf c k, ∀ y ∈ valuesOf c k,
    ∀ z ∈ valuesOf c k, x.strictEq y = true → y.strictEq z = true → x.strictEq z = true))

theorem keysMatch_symm (hv : v.Unambiguous) (hw : w.Unambiguous)
    (h : keysMatch keys v w = true) : keysMatch keys w v = true := by
  rw [keysMatch_iff] at h ⊢
  intro k hk
  exact Value.fieldEq_symm (fun _ => hv.of_field?) (fun _ => hw.of_field?) (h k hk)

theorem keysMatch_trans {c : Collection} (hc : Transitive keys c) (hv : v ∈ c) (hw : w ∈ c)
    (hx : x ∈ c) (hvw : keysMatch keys v w = true) (hwx : keysMatch keys w x = true) :
    keysMatch keys v x = true := by
  rw [keysMatch_iff] at hvw hwx ⊢
  intro k hk
  have mem {u : Value} (hu : u ∈ c) {a : Value} (ha : u.field? k = some a) : a ∈ valuesOf c k :=
    List.mem_filterMap.2 ⟨u, hu, ha⟩
  have hvw := hvw k hk
  have hwx := hwx k hk
  cases hv' : v.field? k <;> cases hw' : w.field? k <;> cases hx' : x.field? k <;>
    rw [hv', hw'] at hvw <;> rw [hw', hx'] at hwx
  · rfl
  · cases hwx
  · cases hvw
  · cases hvw
  · cases hvw
  · cases hvw
  · cases hwx
  · exact hc k hk _ (mem hv hv') _ (mem hw hw') _ (mem hx hx') hvw hwx

/-- Of two records that match, either matches what the other one does. -/
theorem keysMatch_congr {c : Collection} (hc : Transitive keys c)
    (hfields : ∀ v ∈ c, v.Unambiguous) (hv : v ∈ c) (hw : w ∈ c) (hx : x ∈ c)
    (h : keysMatch keys v w = true) : keysMatch keys w x = keysMatch keys v x := by
  have hsymm := keysMatch_symm (hfields v hv) (hfields w hw) h
  rw [Bool.eq_iff_iff]
  exact ⟨keysMatch_trans hc hv hw hx h, keysMatch_trans hc hw hv hx hsymm⟩

/-- Where records match, either lacks the key fields that the other one lacks. -/
theorem field?_eq_none_iff (h : keysMatch keys v w = true) (hk : k ∈ keys) :
    v.field? k = none ↔ w.field? k = none := by
  have hmatch := keysMatch_iff.1 h k hk
  cases hv : v.field? k with
  | none =>
    cases hw : w.field? k with
    | none => exact Iff.rfl
    | some b =>
      rw [hv, hw] at hmatch
      cases hmatch
  | some a =>
    cases hw : w.field? k with
    | none =>
      rw [hv, hw] at hmatch
      cases hmatch
    | some b => simp

/-- The key fields are those of the record that was laid over one that it matches. -/
theorem field?_overlay (hw : w.Unambiguous) (h : keysMatch keys v w = true) (hk : k ∈ keys) :
    (overlay v w).field? k = w.field? k := by
  have hnone := field?_eq_none_iff h hk
  cases v with
  | object r =>
    cases w with
    | object fields =>
      change Record.get? (fields.foldl _ r) k = Record.get? fields k
      rw [Record.get?_foldl_insert (Value.Unambiguous.object_iff.1 hw).1]
      cases hget : Record.get? fields k with
      | none => exact hnone.2 hget
      | some a => rfl
    | _ => exact hnone.2 rfl
  | _ => exact (hnone.1 rfl).symm

theorem keysMatch_overlay (hw : w.Unambiguous) (h : keysMatch keys v w = true) (x : Value) :
    keysMatch keys (overlay v w) x = keysMatch keys w x := by
  rw [Bool.eq_iff_iff, keysMatch_iff, keysMatch_iff]
  refine forall₂_congr fun k hk => ?_
  rw [field?_overlay hw h hk]

/-! ## Joining -/

/-- The record with those incoming records laid over it that match it as it is. -/
def joined (keys : List String) (incoming : Collection) (v : Value) : Value :=
  (incoming.filter (keysMatch keys v)).foldl Value.patched v

/-- The incoming records that match none of the collection. -/
def unmatched (keys : List String) (c incoming : Collection) : Collection :=
  incoming.filter fun w => !c.any (keysMatch keys · w)

theorem unmatched_cons (keys : List String) (c : Collection) (w : Value) (incoming : Collection) :
    unmatched keys c (w :: incoming) = if c.any (keysMatch keys · w) then unmatched keys c incoming
      else w :: unmatched keys c incoming := by
  rw [unmatched, List.filter_cons]
  cases c.any (keysMatch keys · w) <;> rfl

/-- While the records are changed by `f`, they match what they matched before. -/
theorem mergeAll_map {c : Collection} (incoming : Collection) (f : Value → Value)
    (hfields : ∀ w ∈ incoming, w.Unambiguous)
    (hkeys : ∀ v ∈ c, ∀ w ∈ incoming, ∀ x ∈ incoming, keysMatch keys v w = true →
      keysMatch keys w x = keysMatch keys v x)
    (hf : ∀ v ∈ c, (f v).Unambiguous ∧
      ∀ w ∈ incoming, keysMatch keys (f v) w = keysMatch keys v w) :
    mergeAll keys (c.map f) incoming =
      (c.map fun v => (incoming.filter (keysMatch keys v)).foldl Value.patched (f v),
        unmatched keys c incoming) := by
  induction incoming generalizing f with
  | nil => rfl
  | cons w incoming ih =>
    obtain ⟨hw, hfields⟩ := List.forall_mem_cons.1 hfields
    let g (v : Value) := if keysMatch keys v w then (f v).patched w else f v
    have habsorb : absorb keys (c.map f) w = c.map g := by
      rw [absorb, List.map_map]
      refine List.map_congr_left fun v hv => ?_
      obtain ⟨hfv, hmatch⟩ := hf v hv
      rw [Function.comp_apply, hmatch w List.mem_cons_self, overlay_eq hfv hw]
    have hg : ∀ v ∈ c, (g v).Unambiguous ∧
        ∀ x ∈ incoming, keysMatch keys (g v) x = keysMatch keys v x := by
      intro v hv
      obtain ⟨hfv, hmatch⟩ := hf v hv
      by_cases hvw : keysMatch keys v w = true
      · have hfw : keysMatch keys (f v) w = true := (hmatch w List.mem_cons_self).trans hvw
        have hgv : g v = overlay (f v) w := (if_pos hvw).trans (overlay_eq hfv hw).symm
        rw [hgv]
        refine ⟨unambiguous_overlay hfv hw, fun x hx => ?_⟩
        rw [keysMatch_overlay hw hfw]
        exact hkeys v hv w List.mem_cons_self x (List.mem_cons_of_mem w hx) hvw
      · have hgv : g v = f v := if_neg hvw
        rw [hgv]
        exact ⟨hfv, fun x hx => hmatch x (List.mem_cons_of_mem w hx)⟩
    have hrest := ih g hfields
      (fun v hv w hw x hx => hkeys v hv w (List.mem_cons_of_mem _ hw) x (List.mem_cons_of_mem _ hx))
      hg
    have hany : (c.map f).any (keysMatch keys · w) = c.any (keysMatch keys · w) := by
      rw [List.any_map, Bool.eq_iff_iff, List.any_eq_true, List.any_eq_true]
      refine exists_congr fun v => and_congr_right fun hv => ?_
      rw [Function.comp_apply, (hf v hv).2 w List.mem_cons_self]
    rw [mergeAll, habsorb, hrest, hany, unmatched_cons]
    refine Prod.ext (List.map_congr_left fun v _ => ?_) rfl
    rw [List.filter_cons]
    by_cases hvw : keysMatch keys v w = true
    · have hgv : g v = (f v).patched w := if_pos hvw
      rw [if_pos hvw, hgv, List.foldl_cons]
    · have hgv : g v = f v := if_neg hvw
      rw [if_neg hvw, hgv]

/-- What is merged is joined with the records as they were. -/
theorem merge_eq {c incoming : Collection} (hfields : ∀ v ∈ c ++ incoming, v.Unambiguous)
    (hkeys : Transitive keys (c ++ incoming)) (strict : Bool) :
    merge keys strict c incoming =
      c.map (joined keys incoming) ++ if strict then [] else unmatched keys c incoming := by
  have hc {v : Value} (hv : v ∈ c) : v ∈ c ++ incoming := List.mem_append_left _ hv
  have hincoming {v : Value} (hv : v ∈ incoming) : v ∈ c ++ incoming := List.mem_append_right _ hv
  have hall := mergeAll_map incoming id (fun w hw => hfields w (hincoming hw))
    (fun v hv w hw x hx => keysMatch_congr hkeys hfields (hc hv) (hincoming hw) (hincoming hx))
    fun v hv => ⟨hfields v (hc hv), fun _ _ => rfl⟩
  rw [List.map_id] at hall
  rw [merge, hall]
  cases strict
  · rfl
  · exact (List.append_nil _).symm

/-! ## The operator -/

/-- The parameters ask for a merge with the other collection by the keys. -/
def Asks (raw : Value) (other : String) (keys : List String) (strict : Bool) : Prop :=
  ∃ params, Shape.readRecord struct raw = .ok params ∧ params.text? "name" = some other ∧
    readKeys params = .ok keys ∧ ((params.get? "strict").getD .null).truthy = strict

theorem mapM_string {f : Value → Except Cause String} (hf : ∀ k, f (.string k) = .ok k)
    (keys : List String) : (keys.map Value.string).mapM f = .ok keys := by
  have hread : ∀ k ∈ keys, (f ∘ Value.string) k = pure k := fun k _ => hf k
  rw [List.mapM_map, mapM_eq_pure_map hread, List.map_id']
  rfl

/-- The usual parameters ask for what they say. -/
theorem asks_object (other : String) {keys : List String} (hkeys : keys ≠ []) (strict : Bool) :
    Asks (.object [("name", .string other), ("key", .array (keys.map .string)),
      ("strict", .bool strict)]) other keys strict := by
  refine ⟨_, rfl, rfl, ?_, rfl⟩
  have hvalue : Record.value? [("name", .string other), ("key", .array (keys.map .string)),
      ("strict", .bool strict)] "key" = some (.array (keys.map .string)) := rfl
  rw [readKeys, hvalue]
  cases keys with
  | nil => exact absurd rfl hkeys
  | cons k keys => exact mapM_string (fun _ => rfl) (k :: keys)

/-- The operator merges what its parameters ask for, and nothing else. -/
theorem records_eq_ok {s : Store} {job : String} {raw : Value} {d : Collection} :
    records s job raw = .ok d ↔ ∃ other keys strict c incoming, Asks raw other keys strict ∧
      s.get? job = some c ∧ s.get? other = some incoming ∧ d = merge keys strict c incoming := by
  simp only [records, bind_eq_ok, Operator.readWith_eq_ok, Record.required_eq_ok,
    Store.find_eq_ok, pure, Except.pure, Except.ok.injEq, Asks]
  constructor
  · rintro ⟨params, hparams, other, hother, keys, hkeys, c, hc, incoming, hincoming, rfl⟩
    exact ⟨other, keys, _, c, incoming, ⟨params, hparams, hother, hkeys, rfl⟩, hc, hincoming, rfl⟩
  · rintro ⟨other, keys, _, c, incoming, ⟨params, hparams, hother, hkeys, rfl⟩, hc, hincoming, rfl⟩
    exact ⟨params, hparams, other, hother, keys, hkeys, c, hc, incoming, hincoming, rfl⟩

/-- What the parameters ask for is done if both collections are there. -/
theorem run_of_asks {job other : String} {raw : Value} {strict : Bool} {s : Session}
    {c incoming : Collection} (hasks : Asks raw other keys strict)
    (hc : s.store.get? job = some c) (hincoming : s.store.get? other = some incoming)
    (setting : Setting) : ∃ log, Operator.mergeObjects.run setting job raw s =
      (.ok (), ⟨s.store.insert job (merge keys strict c incoming), s.files, log⟩) := by
  refine Operator.run_of_change_put (by decide) ?_
  have hrecords := records_eq_ok.2 ⟨other, keys, strict, c, incoming, hasks, hc, hincoming, rfl⟩
  rw [Operator.change, hrecords]
  rfl

/-- **A merge joins the records as they were**: each with those incoming records that match it, one
after another, and after them, unless the merge is strict, those that match none. -/
theorem run_joins : ∀ (setting : Setting) (job other : String) (keys : List String) (s : Session)
    (c incoming : Collection),
    s.store.get? job = some c → s.store.get? other = some incoming →
    (∀ v ∈ c ++ incoming, v.Unambiguous) → Transitive keys (c ++ incoming) →
    let run (raw : Value) := Operator.mergeObjects.run setting job raw s
    let rest := unmatched keys c incoming
    (∀ raw strict, Asks raw other keys strict →
      (∃ log, run raw = (.ok (), ⟨s.store.insert job
        (c.map (joined keys incoming) ++ if strict then [] else rest), s.files, log⟩)) ∧
      (other ≠ job → (run raw).2.store.get? other = some incoming)) ∧
    (∀ raw raw', Asks raw other keys true → Asks raw' other keys false → ∃ d d',
      (run raw).2.store.get? job = some d ∧ (run raw').2.store.get? job = some d' ∧
      d = d'.take c.length ∧ d'.length = d.length + rest.length) := by
  intro setting job other keys s c incoming hc hincoming hfields hkeys
  have hrun (raw : Value) (strict : Bool) (hasks : Asks raw other keys strict) :
      ∃ log, Operator.mergeObjects.run setting job raw s = (.ok (), ⟨s.store.insert job
        (c.map (joined keys incoming) ++ if strict then [] else unmatched keys c incoming),
        s.files, log⟩) :=
    merge_eq hfields hkeys strict ▸ run_of_asks hasks hc hincoming setting
  refine ⟨fun raw strict hasks => ⟨hrun raw strict hasks, fun hne => ?_⟩,
    fun raw raw' hasks hasks' => ?_⟩
  · obtain ⟨log, hrun⟩ := hrun raw strict hasks
    dsimp only
    rw [hrun]
    exact (Catalog.get?_insert_of_ne hne ..).trans hincoming
  · obtain ⟨log, hstrict⟩ := hrun raw true hasks
    obtain ⟨log', hloose⟩ := hrun raw' false hasks'
    dsimp only
    rw [hstrict, hloose]
    refine ⟨_, _, Catalog.get?_insert_self .., Catalog.get?_insert_self .., ?_, ?_⟩
    · rw [if_pos rfl, List.append_nil, List.take_left' (List.length_map _)]
    · simp

theorem isWord_one : IsWord 1 := by decide

theorem isWord_two : IsWord 2 := by decide

/-- One guest, who is listed under one number, and another one without a number. -/
def guestList : Collection :=
  [.object [("id", .number (.int 1 isWord_one)), ("name", .string "Zeus")],
    .object [("name", .string "Hera")]]

/-- Rooms for the same number written otherwise, for no number and for another number. -/
def roomList : Collection :=
  [.object [("id", .number (.float (Number.int 1 isWord_one).toBinary64)), ("room", .string "a")],
    .object [("room", .string "b")], .object [("id", .number (.int 2 isWord_two))]]

/-- The two collections by name. -/
def partyStore : Store := (Catalog.empty.insert "guests" guestList).insert "rooms" roomList

/-- Rooms are joined with guests by equal numbers and by numbers that are absent. -/
theorem run_joins_partyStore :
    (∀ v ∈ guestList ++ roomList, v.Unambiguous) ∧ Transitive ["id"] (guestList ++ roomList) ∧
    ∃ log, Operator.mergeObjects.run ⟨none, .empty⟩ "guests" (.object [("name", .string "rooms"),
        ("key", .array [.string "id"]), ("strict", .bool false)]) ⟨partyStore, default, []⟩ =
      (.ok (), ⟨partyStore.insert "guests" [
        .object [("id", .number (.float (Number.int 1 isWord_one).toBinary64)),
          ("name", .string "Zeus"), ("room", .string "a")],
        .object [("name", .string "Hera"), ("room", .string "b")],
        .object [("id", .number (.int 2 isWord_two))]], default, log⟩) := by
  have hfields : ∀ v ∈ guestList ++ roomList, v.Unambiguous := by decide +kernel
  have hkeys : Transitive ["id"] (guestList ++ roomList) := by decide +kernel
  have hasks := asks_object "rooms" (List.cons_ne_nil "id" []) false
  have hmerged : guestList.map (joined ["id"] roomList) ++ unmatched ["id"] guestList roomList = [
      .object [("id", .number (.float (Number.int 1 isWord_one).toBinary64)),
        ("name", .string "Zeus"), ("room", .string "a")],
      .object [("name", .string "Hera"), ("room", .string "b")],
      .object [("id", .number (.int 2 isWord_two))]] := by decide +kernel
  have hjoins := run_joins ⟨none, .empty⟩ "guests" "rooms" ["id"] ⟨partyStore, default, []⟩
    guestList roomList rfl rfl hfields hkeys
  refine ⟨hfields, hkeys, ?_⟩
  rw [← hmerged]
  exact (hjoins.1 _ false hasks).1

end Merge

end Reshape
