import Reshape.Proofs.Filtering
import Reshape.Proofs.Joining

/-!
# Clones stand after their records

What becomes of a collection is one block after another, a block for each record: the record as it
was and, if it holds one of the listed values, its clones. The lists are looked up before the
collection is set, so they may be the collection itself.

* `Clone.IsVariant`: a record with another value in one field.
* `Clone.IsBlock`: a record and its clones; `isBlock_block`.
* `Clone.length_cloneAll`: how many records there are in the end.
* `Clone.Asks`: what the parameters ask for.
* `Clone.run_blocks`: the operator.
-/

namespace Reshape

/-- A field that is there keeps its place. -/
theorem Record.keys_insert_of_mem {r : Record} {k : String} (h : k ∈ r.keys) (v : Value) :
    (r.insert k v).keys = r.keys := by
  induction r with
  | nil => cases h
  | cons f r ih =>
    rw [Record.insert]
    split
    · rfl
    · rename_i hf
      exact congrArg (f.1 :: ·) (ih ((List.mem_cons.1 h).resolve_left (Ne.symm hf)))

namespace Clone

/-! ## Records and their clones -/

/-- The one is the other with a value in a field: it has the same fields in the same order, and all
other fields hold the same. -/
def IsVariant (field : String) (v value w : Value) : Prop :=
  ∃ r r' : Record, v = .object r ∧ w = .object r' ∧ r'.keys = r.keys ∧
    r'.get? field = some value ∧ ∀ k, k ≠ field → r'.get? k = r.get? k

/-- The record, followed by its clones, one for each value, if it holds one of the listed values. -/
structure IsBlock (field : String) (filter values : List Value) (v : Value)
    (block : List Value) : Prop where
  head : block.head? = some v
  clones : Filter.Holds field filter v → List.Forall₂ (IsVariant field v) values block.tail
  alone : ¬ Filter.Holds field filter v → block.tail = []

variable {field : String} {filter values : List Value} {v : Value}

theorem isVariant_variant (h : Filter.Holds field filter v) (value : Value) :
    IsVariant field v value (variant field v value) := by
  obtain ⟨x, hx, -⟩ := h
  cases v with
  | object r =>
    have hmem : field ∈ Record.keys r := by
      by_contra hmem
      cases (Record.get?_eq_none_iff.2 hmem).symm.trans hx
    refine ⟨r, Record.insert r field value, rfl, rfl, Record.keys_insert_of_mem hmem value, ?_,
      fun k hk => ?_⟩
    · rw [Record.get?_insert, if_pos rfl]
    · rw [Record.get?_insert, if_neg hk]
  | _ => cases hx

theorem isBlock_block (field : String) (filter values : List Value) (v : Value) :
    IsBlock field filter values v (block field filter values v) := by
  refine ⟨rfl, fun h => ?_, fun h => ?_⟩
  · rw [block, if_pos (Filter.elem_iff_holds.2 h), List.tail_cons, List.forall₂_map_right_iff,
      List.forall₂_same]
    exact fun value _ => isVariant_variant h value
  · rw [block, if_neg (mt Filter.elem_iff_holds.1 h), List.tail_cons]

/-- Each record is followed by as many others as there are values, or by none. -/
theorem length_cloneAll (field : String) (filter values : List Value) (c : Collection) :
    (cloneAll field filter values c).length =
      c.length + c.countP (Filter.Holds field filter ·) * values.length := by
  induction c with
  | nil => simp [cloneAll]
  | cons v c ih =>
    rw [cloneAll, List.flatMap_cons, List.length_append, ← cloneAll, ih, List.length_cons,
      List.countP_cons, block, List.length_cons]
    by_cases h : Filter.Holds field filter v
    · rw [if_pos (Filter.elem_iff_holds.2 h), if_pos (decide_eq_true h), List.length_map,
        Nat.add_one_mul]
      omega
    · rw [if_neg (mt Filter.elem_iff_holds.1 h), if_neg (by simpa using h), List.length_nil,
        Nat.add_zero (c.countP _)]
      omega

/-! ## The operator -/

/-- The parameters ask for the clones of the records that hold one of the values in `filter`, one
for each of the `values`. -/
def Asks (s : Store) (raw : Value) (field : String) (filter values : List Value) : Prop :=
  ∃ params, Shape.readRecord struct raw = .ok params ∧ params.required "field" = .ok field ∧
    params.requiredList s "filter" = .ok filter ∧ params.requiredList s "values" = .ok values

variable {s : Store} {job : String} {raw : Value} {c : Collection}

/-- Parameters that are written out, with lists that are literal or given by name. -/
theorem asks_object {f w : Value} (hf : f.Lists s filter) (hw : w.Lists s values)
    (field : String) :
    Asks s (.object [("field", .string field), ("filter", f), ("values", w)]) field filter
      values := by
  have hvalue {k : String} {v : Value} {items : List Value} {r : Record} (hv : v.Lists s items)
      (hr : r.get? k = some v) : r.requiredList s k = .ok items := by
    have hsome : r.value? k = some v := by
      rw [Record.value?, hr]
      rcases hv with rfl | ⟨name, rfl, -⟩ <;> rfl
    rw [Record.requiredList, hsome]
    exact Reference.resolve_of_lists hv k
  exact ⟨_, rfl, rfl, hvalue hf rfl, hvalue hw rfl⟩

theorem records_eq_ok_iff {d : Collection} (hc : s.get? job = some c) :
    records s job raw = .ok d ↔ ∃ field filter values, Asks s raw field filter values ∧
      d = cloneAll field filter values c := by
  constructor
  · intro h
    obtain ⟨params, hparams, h⟩ := bind_eq_ok.1 h
    obtain ⟨field, hfield, h⟩ := bind_eq_ok.1 h
    obtain ⟨c', hc', h⟩ := bind_eq_ok.1 h
    obtain ⟨filter, hfilter, h⟩ := bind_eq_ok.1 h
    obtain ⟨values, hvalues, h⟩ := bind_eq_ok.1 h
    obtain rfl := Option.some.inj (hc.symm.trans (Store.find_eq_ok.1 hc'))
    exact ⟨field, filter, values,
      ⟨params, Operator.readWith_eq_ok.1 hparams, hfield, hfilter, hvalues⟩,
      (Except.ok.inj h).symm⟩
  · rintro ⟨field, filter, values, ⟨params, hparams, hfield, hfilter, hvalues⟩, rfl⟩
    rw [records, Operator.readWith_eq_ok.2 hparams]
    refine bind_eq_ok.2 ⟨params, rfl, bind_eq_ok.2 ⟨field, hfield, bind_eq_ok.2
      ⟨c, Store.find_eq_ok.2 hc, bind_eq_ok.2 ⟨filter, hfilter, bind_eq_ok.2
        ⟨values, hvalues, rfl⟩⟩⟩⟩⟩

theorem run_of_asks {s : Session} (h : Asks s.store raw field filter values)
    (hc : s.store.get? job = some c) (setting : Setting) :
    ∃ log, Operator.cloneObjects.run setting job raw s =
      (.ok (), ⟨s.store.insert job (cloneAll field filter values c), s.files, log⟩) := by
  refine Operator.run_of_change_put (by decide) ?_
  rw [Operator.change, (records_eq_ok_iff hc).2 ⟨field, filter, values, h, rfl⟩]
  rfl

/-- **Clones stand after their records.** Parameters are accepted if they ask for something; written
out, they ask for the lists that are given literally or by name, also by the name of the collection
itself. Then the collection becomes one block after another, a block for each of its records: the
record as it was, followed, if it has the field and holds there one of the values of `filter`, by a
clone for each of the `values`, in their order. A clone has the fields of its record in the same
order, and holds the same but in that one field. So there are as many records more as clones, and
the first records of the blocks are those that were there before. -/
theorem run_blocks :
    (∀ (s : Store) (field : String) (f w : Value) (filter values : List Value),
      f.Lists s filter → w.Lists s values →
      Asks s (.object [("field", .string field), ("filter", f), ("values", w)])
        field filter values) ∧
    ∀ (setting : Setting) (job : String) (raw : Value) (s : Session) (c : Collection),
      s.store.get? job = some c →
      let run := Operator.cloneObjects.run setting job raw
      ((run s).1 = .ok () ↔ ∃ field filter values, Asks s.store raw field filter values) ∧
      ∀ field filter values, Asks s.store raw field filter values →
        ∃ blocks : List (List Value),
          (∃ log, run s = (.ok (), ⟨s.store.insert job blocks.flatten, s.files, log⟩)) ∧
          List.Forall₂ (IsBlock field filter values) c blocks ∧
          blocks.filterMap List.head? = c ∧
          blocks.flatten.length =
            c.length + c.countP (Filter.Holds field filter ·) * values.length := by
  refine ⟨fun s field f w filter values hf hw => asks_object hf hw field,
    fun setting job raw s c hc => ⟨⟨fun h => ?_, ?_⟩, fun field filter values hasks => ?_⟩⟩
  · obtain ⟨_, hchange⟩ := Operator.exists_change_of_run h
    obtain ⟨_, hrecords, -⟩ := bind_eq_ok.1 hchange
    obtain ⟨field, filter, values, hasks, -⟩ := (records_eq_ok_iff hc).1 hrecords
    exact ⟨field, filter, values, hasks⟩
  · rintro ⟨field, filter, values, hasks⟩
    obtain ⟨log, hrun⟩ := run_of_asks hasks hc setting
    rw [hrun]
  · refine ⟨c.map (block field filter values), run_of_asks hasks hc setting, ?_, ?_,
      length_cloneAll field filter values c⟩
    · rw [List.forall₂_map_right_iff, List.forall₂_same]
      exact fun v _ => isBlock_block field filter values v
    · rw [List.filterMap_map]
      exact List.filterMap_some

/-- Records with and without the field, and a plain value. -/
def sessionAL : Session :=
  ⟨.ofList [("a", [.object [("k", .string "x"), ("n", .null)], .string "x", .object []]),
    ("l", [.string "x", .string "x"])], default, []⟩

/-- Clones of the records that hold a listed value, one for each record of the collection itself. -/
def cloneForAll : Value :=
  .object [("field", .string "k"), ("filter", .string "l"), ("values", .string "a")]

theorem run_blocks_cloneForAll :
    let c : Collection := [.object [("k", .string "x"), ("n", .null)], .string "x", .object []]
    let run := Operator.cloneObjects.run ⟨none, .empty⟩ "a" cloneForAll
    Value.Lists sessionAL.store (.string "l") [.string "x", .string "x"] ∧
    Value.Lists sessionAL.store (.string "a") c ∧
    sessionAL.store.get? "a" = some c ∧ (run sessionAL).1 = .ok () ∧
    Asks sessionAL.store cloneForAll "k" [.string "x", .string "x"] c ∧
    ∃ blocks : List (List Value),
      (∃ log, run sessionAL = (.ok (),
        ⟨sessionAL.store.insert "a" blocks.flatten, sessionAL.files, log⟩)) ∧
      List.Forall₂ (IsBlock "k" [.string "x", .string "x"] c) c blocks ∧
      blocks.filterMap List.head? = c ∧ blocks.flatten.length = 3 + 1 * 3 := by
  intro c run
  have hl : Value.Lists sessionAL.store (.string "l") [.string "x", .string "x"] :=
    .inr ⟨"l", rfl, rfl⟩
  have ha : Value.Lists sessionAL.store (.string "a") c := .inr ⟨"a", rfl, rfl⟩
  have hc : sessionAL.store.get? "a" = some c := rfl
  have hasks := run_blocks.1 sessionAL.store "k" (.string "l") (.string "a") _ _ hl ha
  obtain ⟨haccepted, hblocks⟩ := run_blocks.2 ⟨none, .empty⟩ "a" cloneForAll sessionAL c hc
  exact ⟨hl, ha, hc, haccepted.2 ⟨_, _, _, hasks⟩, hasks, hblocks _ _ _ hasks⟩

end Clone

end Reshape
