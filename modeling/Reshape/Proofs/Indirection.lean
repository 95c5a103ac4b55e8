import Mathlib.Data.List.Nodup
import Reshape.Proofs.Change

/-!
# Lists given by name

A parameter that takes a list may name a collection instead. It makes no difference whether the
collection is named or its contents are written out, also where the collection is the one that is
being changed, because an operator looks at such a parameter only to find the list, and does so
before it changes anything.

* `Shape.Place`, `Operator.ListPlace`: the places where a list may be given by name.
* `Value.Lists`: the list that a value is or names.
* `Resolves`: what fails before it comes to a place, or finds the list there and goes on with it
  (`Resolves.bind`, `Resolves.after`, `Resolves.read`).
* `Operator.change_resolves`: what an operator changes resolves each of its places.
* `Operator.run_by_name`: the operators.
-/

namespace Reshape

/-- The place of the field `k` in the parameters of a structure, which are an object or an array. -/
inductive Shape.Place (st : Shape.Struct) (k : String) : (Value → Value) → Prop
  | field {before : Record} (after : Record) (h : before.get? k = none) :
      Place st k fun v => .object (before ++ (k, v) :: after)
  | item {before : List Value} (after : List Value)
      (h : (st.fields[before.length]?).map (·.name) = some k) :
      Place st k fun v => .array (before ++ v :: after)

/-- A place in the parameters of an operator where a list may be given by name. -/
inductive Operator.ListPlace : Operator → (Value → Value) → Prop
  | clone {k : String} {put : Value → Value} (hk : k ∈ ["filter", "values"])
      (h : Shape.Place Clone.struct k put) : ListPlace .cloneObjects put
  | predicate (mode : Filter.Mode) {put : Value → Value} (before after : List Value)
      (h : Shape.Place Filter.predicateStruct mode.name put) :
      ListPlace .filterObjects fun v => .array (before ++ put v :: after)
  | fields (mode : Filter.Mode) {put : Value → Value}
      (h : Shape.Place Filter.fieldsStruct mode.name put) : ListPlace .filterFields put
  | renamings : ListPlace .mapFields id
  | revisions : ListPlace .mapValues id

/-! ## Fields around a place -/

namespace Record

variable {before after : Record} {k : String}

theorem get?_place (h : before.get? k = none) (v : Value) :
    Record.get? (before ++ (k, v) :: after) k = some v := by
  rw [get?, List.lookup_append, show before.lookup k = none from h]
  simp

theorem get?_place_of_ne {k' : String} (hne : k' ≠ k) (v : Value) :
    Record.get? (before ++ (k, v) :: after) k' = Record.get? (before ++ after) k' := by
  rw [get?, get?, List.lookup_append, List.lookup_append, List.lookup_cons,
    beq_eq_false_iff_ne.2 hne]

theorem value?_place (h : before.get? k = none) {v : Value} (hv : v ≠ .null) :
    Record.value? (before ++ (k, v) :: after) k = some v := by
  rw [value?, get?_place h]
  cases v <;> first | rfl | exact absurd rfl hv

theorem value?_place_of_ne {k' : String} (hne : k' ≠ k) (v : Value) :
    Record.value? (before ++ (k, v) :: after) k' = Record.value? (before ++ after) k' := by
  rw [value?, value?, get?_place_of_ne hne]

theorem required_place_of_ne {k' : String} (hne : k' ≠ k) (v : Value) :
    Record.required (before ++ (k, v) :: after) k' = Record.required (before ++ after) k' := by
  rw [required, required, text?, text?, get?_place_of_ne hne]

theorem requiredList_place_of_ne {s : Store} {k' : String} (hne : k' ≠ k) (v : Value) :
    Record.requiredList (before ++ (k, v) :: after) s k' =
      Record.requiredList (before ++ after) s k' := by
  rw [requiredList, requiredList, value?_place_of_ne hne]

end Record

namespace Shape

variable {st : Struct} {k : String} {f : Field}

theorem Field.check_of_anything (hf : f.content = .anything) (v : Value) : f.check v = .ok () := by
  simp [Field.check, hf]

theorem checkFields_place {fields : List Field} (hk : fields.find? (·.name = k) = some f)
    (hf : f.content = .anything) (before after : Record) (v : Value) :
    checkFields fields (before ++ (k, v) :: after) = checkFields fields (before ++ after) := by
  induction before with
  | nil =>
    rw [List.nil_append, List.nil_append, checkFields, hk]
    simp only [Field.check_of_anything hf]
  | cons e before ih => rw [List.cons_append, List.cons_append, checkFields, checkFields, ih]

theorem firstMissing?_place {fields : List Field} (before after : Record) (v w : Value) :
    firstMissing? fields (before ++ (k, v) :: after) =
      firstMissing? fields (before ++ (k, w) :: after) := by
  have hcontains (name : String) : Record.contains (before ++ (k, v) :: after) name =
      Record.contains (before ++ (k, w) :: after) name := by
    rw [Record.contains, Record.contains]
    by_cases hname : name = k
    · subst hname
      cases hb : Record.get? before name with
      | none => rw [Record.get?_place hb, Record.get?_place hb]; rfl
      | some x =>
        have hlookup : before.lookup name = some x := hb
        rw [Record.get?, Record.get?, List.lookup_append, List.lookup_append, hlookup]
        rfl
    · rw [Record.get?_place_of_ne hname, Record.get?_place_of_ne hname]
  simp only [firstMissing?, hcontains]

/-- Where an array gives the fields, what stands in a place that may hold anything is the value of
the field there, unless an element before or after it is refused. -/
theorem pairFields_place {length : Nat} {fs gs : List Field} (hf : f.content = .anything)
    (hname : f.name ∉ fs.map (·.name)) {before : List Value} (after : List Value)
    (hlength : before.length = fs.length) (n : Nat) :
    (∃ e, ∀ v, pairFields st length n (fs ++ f :: gs) (before ++ v :: after) = .error e) ∨
      ∃ r r' : Record, r.get? f.name = none ∧ ∀ v,
        pairFields st length n (fs ++ f :: gs) (before ++ v :: after) =
          .ok (r ++ (f.name, v) :: r') := by
  induction fs generalizing before n with
  | nil =>
    obtain rfl := List.eq_nil_of_length_eq_zero hlength
    simp only [List.nil_append, pairFields, Field.check_of_anything hf]
    cases pairFields st length (n + 1) gs after with
    | error e => exact .inl ⟨e, fun _ => rfl⟩
    | ok r => exact .inr ⟨[], r, rfl, fun _ => rfl⟩
  | cons g fs ih =>
    obtain ⟨w, before, rfl⟩ := List.exists_cons_of_length_eq_add_one hlength
    obtain ⟨hg, hfs⟩ := not_or.1 (mt List.mem_cons.2 hname)
    simp only [List.cons_append, pairFields]
    cases g.check w with
    | error e => exact .inl ⟨e, fun _ => rfl⟩
    | ok _ =>
      rcases ih hfs (by simpa using hlength) (n + 1) with ⟨e, he⟩ | ⟨r, r', hr, h⟩
      · exact .inl ⟨e, fun v => by rw [he]⟩
      · refine .inr ⟨(g.name, w) :: r, r', ?_, fun v => by rw [h]; rfl⟩
        rw [Record.get?, List.lookup_cons, beq_eq_false_iff_ne.2 hg]
        exact hr

/-- The parameters are refused whatever stands in a place that may hold anything, or what stands
there is the value of the field. -/
theorem readRecord_place {put : Value → Value} (h : Place st k put)
    (hnodup : (st.fields.map (·.name)).Nodup) (hmem : f ∈ st.fields) (hname : f.name = k)
    (hf : f.content = .anything) :
    (∃ e, ∀ v, readRecord st (put v) = .error e) ∨
      ∃ before after : Record, before.get? k = none ∧
        ∀ v, readRecord st (put v) = .ok (before ++ (k, v) :: after) := by
  subst hname
  cases h with
  | field after hbefore =>
    rename_i before
    have hk : st.fields.find? (·.name = f.name) = some f := by
      obtain ⟨fs, gs, hfields⟩ := List.append_of_mem hmem
      rw [hfields, List.map_append, List.map_cons, List.nodup_middle, List.nodup_cons] at hnodup
      rw [hfields, List.find?_append, List.find?_eq_none.2]
      · simp
      · intro g hg heq
        refine hnodup.1 (List.mem_append_left _ (List.mem_map.2 ⟨g, hg, ?_⟩))
        simpa using heq
    simp only [readRecord, checkFields_place hk hf]
    cases checkFields st.fields (before ++ after) with
    | error e => exact .inl ⟨e, fun _ => rfl⟩
    | ok _ =>
      simp only [firstMissing?_place before after _ .null]
      cases firstMissing? st.fields (before ++ (f.name, .null) :: after) with
      | some g => exact .inl ⟨_, fun _ => rfl⟩
      | none => exact .inr ⟨before, after, hbefore, fun _ => rfl⟩
  | item after hitem =>
    rename_i before
    obtain ⟨g, hg, hgf⟩ := Option.map_eq_some_iff.1 hitem
    obtain ⟨hlt, hg⟩ := List.getElem?_eq_some_iff.1 hg
    have hgmem : g ∈ st.fields := hg ▸ List.getElem_mem hlt
    obtain rfl : g = f := List.inj_on_of_nodup_map hnodup hgmem hmem hgf
    have hsplit : st.fields =
        st.fields.take before.length ++ g :: st.fields.drop (before.length + 1) := by
      rw [← hg, ← List.drop_eq_getElem_cons, List.take_append_drop]
    have hnotMem : g.name ∉ (st.fields.take before.length).map (·.name) := by
      rw [hsplit, List.map_append, List.map_cons, List.nodup_middle, List.nodup_cons] at hnodup
      exact fun h => hnodup.1 (List.mem_append_left _ h)
    simp only [readRecord]
    rw [hsplit]
    simp only [List.length_append, List.length_cons]
    exact pairFields_place hf hnotMem after (by rw [List.length_take]; omega) 0

end Shape

/-! ## What is done with a list -/

/-- The value is a list, given literally or by the name of the collection that holds it. -/
def Value.Lists (s : Store) (v : Value) (items : List Value) : Prop :=
  v = .array items ∨ ∃ name, v = .string name ∧ s.get? name = some items

theorem Reference.resolve_of_lists {s : Store} {v : Value} {items : List Value}
    (h : v.Lists s items) (param : String) : (ofValue v).resolve s param = .ok items := by
  rcases h with rfl | ⟨name, rfl, hname⟩
  · rfl
  · exact Store.find_eq_ok.2 hname

/-- The list is found before its elements are read. -/
theorem Reference.resolveAs_eq_bind {α : Type} (s : Store) (param expected : String)
    (read? : Value → Option α) (r : Reference) :
    r.resolveAs s param expected read? = r.resolve s param >>= fun items =>
      (items.mapM read?).elim (.error (.invalidParameter param expected)) .ok := by
  rw [resolveAs]
  cases r.resolve s param with
  | error e => rfl
  | ok items =>
    cases h : items.mapM read? <;> simp [bind, Except.bind, h]

/-- The result for the value that stands in a place. Either it is the same error for all values but
null, or a list is found by its name or taken as it is, and the result depends on the list only. -/
def Resolves {α : Type} (s : Store) (x : Value → Except Cause α) : Prop :=
  (∃ e, ∀ v, v ≠ .null → x v = .error e) ∨
    ∃ g : List Value → Except Cause α,
      (∀ n, x (.string n) = s.find n >>= g) ∧ ∀ c, x (.array c) = g c

namespace Resolves

variable {α β : Type} {s : Store}

theorem congr {x y : Value → Except Cause α} (h : ∀ v, v ≠ .null → x v = y v)
    (hy : Resolves s y) : Resolves s x := by
  rcases hy with ⟨e, he⟩ | ⟨g, hname, hlist⟩
  · exact .inl ⟨e, fun v hv => (h v hv).trans (he v hv)⟩
  · exact .inr ⟨g, fun n => (h (.string n) nofun).trans (hname n),
      fun c => (h (.array c) nofun).trans (hlist c)⟩

theorem resolve (s : Store) (param : String) :
    Resolves s fun v => (Reference.ofValue v).resolve s param :=
  .inr ⟨pure, fun n => (bind_pure (s.find n)).symm, fun _ => rfl⟩

theorem bind {x : Value → Except Cause α} (hx : Resolves s x) (f : α → Except Cause β) :
    Resolves s fun v => x v >>= f := by
  rcases hx with ⟨e, he⟩ | ⟨g, hname, hlist⟩
  · exact .inl ⟨e, fun v hv => congrArg (· >>= f) (he v hv)⟩
  · refine .inr ⟨fun c => g c >>= f, fun n => ?_, fun c => congrArg (· >>= f) (hlist c)⟩
    exact (congrArg (· >>= f) (hname n)).trans (bind_assoc ..)

/-- What is done before does not look at the place. -/
theorem after (y : Except Cause β) {x : β → Value → Except Cause α}
    (h : ∀ b, y = .ok b → Resolves s (x b)) : Resolves s fun v => y >>= fun b => x b v := by
  cases y with
  | error e => exact .inl ⟨e, fun _ _ => rfl⟩
  | ok b => exact h b rfl

/-- The parameters are read before a place in them is looked at. -/
theorem read {o : Operator} {γ : Type} {read : Value → Except ShapeError γ} {p : Value → Value}
    {f : γ → Except Cause α}
    (h : (∃ e, ∀ v, read (p v) = .error e) ∨
      ∃ q : Value → γ, (∀ v, read (p v) = .ok (q v)) ∧ Resolves s fun v => f (q v)) :
    Resolves s fun v => o.readWith read (p v) >>= f := by
  rcases h with ⟨e, he⟩ | ⟨q, hq, hf⟩
  · refine .inl ⟨.invalidParameter o.name (o.expects ++ " (" ++ e.message ++ ")"), fun v _ => ?_⟩
    simp only [Operator.readWith, he v]
    rfl
  · refine congr (fun v _ => ?_) hf
    rw [Operator.readWith_eq_ok.2 (hq v)]
    rfl

theorem resolveAs {γ : Type} (s : Store) (param expected : String) (read? : Value → Option γ) :
    Resolves s fun v => (Reference.ofValue v).resolveAs s param expected read? := by
  simp only [Reference.resolveAs_eq_bind]
  exact (resolve s param).bind _

theorem requiredList {before after : Record} {k : String} (h : before.get? k = none) :
    Resolves s fun v => Record.requiredList (before ++ (k, v) :: after) s k := by
  refine congr (fun v hv => ?_) (resolve s k)
  rw [Record.requiredList, Record.value?_place h hv]

/-! ### What it means -/

/-- A list given by name or written out. -/
theorem eq_of_get? {x : Value → Except Cause α} (hx : Resolves s x) {n : String} {c : Collection}
    (h : s.get? n = some c) : x (.string n) = x (.array c) := by
  rcases hx with ⟨e, he⟩ | ⟨g, hname, hlist⟩
  · rw [he (.string n) nofun, he (.array c) nofun]
  · rw [hname, hlist, Store.find_eq_ok.2 h]
    rfl

/-- A name of nothing. -/
theorem error_of_get? {x : Value → Except Cause α} (hx : Resolves s x) {n : String}
    (h : s.get? n = none) : ∃ e, x (.string n) = .error e ∧
      (e = .missingCollection n ∨ ∀ v, v ≠ .null → x v = .error e) := by
  rcases hx with ⟨e, he⟩ | ⟨g, hname, -⟩
  · exact ⟨e, he (.string n) nofun, .inr he⟩
  · refine ⟨.missingCollection n, ?_, .inl rfl⟩
    rw [hname, Store.find, h]
    rfl

end Resolves

/-! ## Operators -/

section Places

variable {s : Store} {job k : String} {put : Value → Value}

theorem Clone.records_resolves (hk : k ∈ ["filter", "values"])
    (h : Shape.Place Clone.struct k put) : Resolves s fun v => Clone.records s job (put v) := by
  have hfield : k ≠ "field" := by rintro rfl; simp at hk
  have hmem : (⟨k, .anything, false⟩ : Shape.Field) ∈ Clone.struct.fields := by
    simpa [Clone.struct] using hk
  refine .read ((Shape.readRecord_place h (by decide) hmem rfl rfl).imp_right ?_)
  rintro ⟨before, after, hbefore, hread⟩
  refine ⟨_, hread, ?_⟩
  simp only [Record.required_place_of_ne hfield.symm]
  refine .after _ fun field _ => .after _ fun c _ => ?_
  rcases (by simpa using hk : k = "filter" ∨ k = "values") with rfl | rfl
  · simp only [Record.requiredList_place_of_ne (show "values" ≠ "filter" by decide)]
    exact (Resolves.requiredList hbefore).bind _
  · simp only [Record.requiredList_place_of_ne (show "filter" ≠ "values" by decide)]
    exact .after _ fun filter _ => (Resolves.requiredList hbefore).bind _

namespace Filter

/-- A list of values that is given is the one that counts, unless the other one is given too. -/
theorem mode_place {m : Mode} {before : Record} (h : before.get? m.name = none) (after : Record) :
    (∃ e, ∀ v, v ≠ .null → mode (before ++ (m.name, v) :: after) = .error e) ∨
      ∀ v, v ≠ .null → mode (before ++ (m.name, v) :: after) = .ok (m, v) := by
  cases m <;> simp only [Mode.name] at h ⊢
  · cases hother : Record.value? (before ++ after) "exclude"
    · refine .inr fun v hv => ?_
      rw [mode, Record.value?_place h hv, Record.value?_place_of_ne (by decide), hother]
    · refine .inl ⟨.conflictingParameters "include and exclude", fun v hv => ?_⟩
      rw [mode, Record.value?_place h hv, Record.value?_place_of_ne (by decide), hother]
  · cases hother : Record.value? (before ++ after) "include"
    · refine .inr fun v hv => ?_
      rw [mode, Record.value?_place h hv, Record.value?_place_of_ne (by decide), hother]
    · refine .inl ⟨.conflictingParameters "include and exclude", fun v hv => ?_⟩
      rw [mode, Record.value?_place h hv, Record.value?_place_of_ne (by decide), hother]

/-- Which of the lists is given is seen before the list is looked at. -/
theorem mode_resolves {α : Type} {m : Mode} {before : Record} (h : before.get? m.name = none)
    (after : Record) {f : Mode → Value → Except Cause α} (hf : Resolves s (f m)) :
    Resolves s fun v => mode (before ++ (m.name, v) :: after) >>= fun p => f p.1 p.2 := by
  rcases mode_place h after with ⟨e, he⟩ | hmode
  · exact .inl ⟨e, fun v hv => congrArg (· >>= fun p => f p.1 p.2) (he v hv)⟩
  · exact .congr (fun v hv => congrArg (· >>= fun p => f p.1 p.2) (hmode v hv)) hf

theorem rule_resolves {m : Mode} {before : Record} (h : before.get? m.name = none)
    (after : Record) : Resolves s fun v => rule s (before ++ (m.name, v) :: after) := by
  have hfield : "field" ≠ m.name := by cases m <;> decide
  simp only [rule, Record.required_place_of_ne hfield]
  exact .after _ fun field _ => mode_resolves h after
    (f := fun m v => (Reference.ofValue v).resolve s m.name >>= fun list =>
      pure (⟨field, m, list⟩ : Rule))
    ((Resolves.resolve s _).bind _)

/-- The predicates are refused whatever stands in the place, or one of them holds what stands
there. -/
theorem readPredicates_place {m : Mode} (h : Shape.Place predicateStruct m.name put)
    (items items' : List Value) :
    (∃ e, ∀ v, readPredicates (.array (items ++ put v :: items')) = .error e) ∨
      ∃ ps before after ps', Record.get? before m.name = none ∧
        ∀ v, readPredicates (.array (items ++ put v :: items')) =
          .ok (ps ++ (before ++ (m.name, v) :: after) :: ps') := by
  have hmem : (⟨m.name, .anything, true⟩ : Shape.Field) ∈ predicateStruct.fields := by
    cases m <;> decide
  have hread (v : Value) : readPredicates (.array (items ++ put v :: items')) = (do
      let ps ← items.mapM (Shape.readRecord predicateStruct)
      let p ← Shape.readRecord predicateStruct (put v)
      let ps' ← items'.mapM (Shape.readRecord predicateStruct)
      return ps ++ p :: ps') := by
    change (items ++ put v :: items').mapM (Shape.readRecord predicateStruct) = _
    simp [List.mapM_append, List.mapM_cons]
  simp only [hread]
  cases items.mapM (Shape.readRecord predicateStruct) with
  | error e => exact .inl ⟨e, fun _ => rfl⟩
  | ok ps =>
    rcases Shape.readRecord_place h (by decide) hmem rfl rfl with ⟨e, he⟩ | ⟨before, after, hb, hp⟩
    · exact .inl ⟨e, fun v => by rw [he]; rfl⟩
    · simp only [hp]
      cases items'.mapM (Shape.readRecord predicateStruct) with
      | error e => exact .inl ⟨e, fun _ => rfl⟩
      | ok ps' => exact .inr ⟨ps, before, after, ps', hb, fun _ => rfl⟩

theorem records_resolves {m : Mode} (h : Shape.Place predicateStruct m.name put)
    (items items' : List Value) :
    Resolves s fun v => records s job (.array (items ++ put v :: items')) := by
  refine .read (p := fun v => .array (items ++ put v :: items'))
    ((readPredicates_place h items items').imp_right ?_)
  rintro ⟨ps, before, after, ps', hbefore, hread⟩
  refine ⟨_, hread, .after _ fun c _ => ?_⟩
  simp only [List.mapM_append, List.mapM_cons, bind_assoc]
  exact .after _ fun rules _ => (rule_resolves hbefore after).bind _

theorem fields_resolves {m : Mode} (h : Shape.Place fieldsStruct m.name put) :
    Resolves s fun v => fields s job (put v) := by
  have hmem : (⟨m.name, .anything, true⟩ : Shape.Field) ∈ fieldsStruct.fields := by
    cases m <;> decide
  refine .read ((Shape.readRecord_place h (by decide) hmem rfl rfl).imp_right ?_)
  rintro ⟨before, after, hbefore, hread⟩
  refine ⟨_, hread, .after _ fun c _ => ?_⟩
  exact mode_resolves hbefore after
    (f := fun m v => (Reference.ofValue v).resolveAs s m.name "an array of field names" name? >>=
      fun names => pure (m, names))
    ((Resolves.resolveAs s _ _ _).bind _)

end Filter

theorem Renaming.renamings_resolves : Resolves s (Renaming.renamings s job) := by
  refine .after _ fun c _ => .inr ⟨fun items => (items.mapM ofValue?).elim
    (.error (.invalidParameter "mapping" "an array of \x7bfrom, to, copy\x7d entries")) .ok,
    fun n => Reference.resolveAs_eq_bind .., fun c => ?_⟩
  exact Reference.resolveAs_eq_bind s "mapping" "an array of \x7bfrom, to, copy\x7d entries"
    ofValue? (.literal (.array c))

theorem Revision.revisions_resolves (mappers : Mappers) :
    Resolves s (Revision.revisions mappers s job) :=
  .after _ fun _ _ => (Resolves.resolveAs s _ _ _).bind _

end Places

namespace Operator

variable {setting : Setting} {job : String} {put : Value → Value} {o : Operator} {s : Session}

/-- What an operator changes depends, of a list that is given in one of its places, on the list. -/
theorem change_resolves (h : o.ListPlace put) :
    Resolves s.store fun v => o.change setting job (put v) s := by
  cases h with
  | clone hk h => exact (Clone.records_resolves hk h).bind _
  | predicate mode before after h => exact (Filter.records_resolves h before after).bind _
  | fields mode h => exact (Filter.fields_resolves h).bind _
  | renamings => exact Renaming.renamings_resolves.bind _
  | revisions => exact (Revision.revisions_resolves setting.mappers).bind _

theorem filesAfter_of_listPlace (h : o.ListPlace put) (v : Value) :
    o.filesAfter setting job (put v) s = s.files := by
  cases h <;> rfl

end Operator

/-- The short form of renamings. -/
def Renaming.short (pairs : List (String × String)) : Value :=
  .object (pairs.map fun p => (p.1, .string p.2))

/-- The entries that the short form of renamings stands for. -/
def Renaming.entries (pairs : List (String × String)) : Value :=
  .array (pairs.map fun p => .object [("from", .string p.1), ("to", .string p.2)])

namespace Renaming

theorem readAll_short (s : Store) (pairs : List (String × String)) :
    readAll s (short pairs) = .ok (pairs.map fun p => ⟨p.1, p.2, false⟩) := by
  rw [short, readAll]
  induction pairs with
  | nil => rfl
  | cons p pairs ih => rw [List.map_cons, List.mapM_cons, ih]; rfl

theorem readAll_entries (s : Store) (pairs : List (String × String)) :
    readAll s (entries pairs) = .ok (pairs.map fun p => ⟨p.1, p.2, false⟩) := by
  have hread : (pairs.map fun p => Value.object [("from", .string p.1),
      ("to", .string p.2)]).mapM ofValue? = some (pairs.map fun p => ⟨p.1, p.2, false⟩) := by
    induction pairs with
    | nil => rfl
    | cons p pairs ih => rw [List.map_cons, List.mapM_cons, ih]; rfl
  rw [entries, readAll, Reference.resolveAs_eq_bind]
  · change (List.mapM ofValue? _).elim _ _ = _
    rw [hread]
    rfl
  · nofun

theorem renamings_short (s : Store) (job : String) (pairs : List (String × String)) :
    renamings s job (short pairs) = renamings s job (entries pairs) := by
  rw [renamings, renamings, readAll_short, readAll_entries]

end Renaming

namespace Operator

/-- **A list may be given by name.** In every place where an operator takes a list, the name of a
collection and the contents of the collection lead to the same result, the same session and the
same log. The short form of renamings does what the entries that it stands for do. If there is no
collection of the name, the operator fails and changes nothing; it says that the collection is
missing, unless it fails before it looks at the place, with the error that it gives whatever stands
there. -/
theorem run_by_name :
    (∀ (setting : Setting) (job : String) (o : Operator) (put : Value → Value), o.ListPlace put →
      ∀ (s : Session) (n : String) (c : Collection), s.store.get? n = some c →
        o.run setting job (put (.string n)) s = o.run setting job (put (.array c)) s) ∧
    (∀ (setting : Setting) (job : String) (pairs : List (String × String)),
      Operator.mapFields.run setting job (Renaming.short pairs) =
        Operator.mapFields.run setting job (Renaming.entries pairs)) ∧
    ∀ (setting : Setting) (job : String) (o : Operator) (put : Value → Value), o.ListPlace put →
      ∀ (s : Session) (n : String), s.store.get? n = none →
        ∃ e, o.run setting job (put (.string n)) s = (.error ⟨job, o, e⟩, s) ∧
          (e = .missingCollection n ∨
            ∀ v, v ≠ .null → o.run setting job (put v) s = (.error ⟨job, o, e⟩, s)) := by
  refine ⟨fun setting job o put h s n c hc => ?_, fun setting job pairs => ?_,
    fun setting job o put h s n hn => ?_⟩
  · rw [run_eq, run_eq, (change_resolves h).eq_of_get? hc, filesAfter_of_listPlace h,
      filesAfter_of_listPlace h]
  · funext s
    rw [run_eq, run_eq, change, change, Renaming.renamings_short]
    rfl
  · have hres : Resolves s.store fun v => o.change setting job (put v) s := change_resolves h
    obtain ⟨e, he, hcause⟩ := hres.error_of_get? hn
    refine ⟨e, ?_, hcause.imp_right fun hall v hv => ?_⟩
    · rw [run_eq, he, filesAfter_of_listPlace h]
    · rw [run_eq, hall v hv, filesAfter_of_listPlace h]

/-- A collection of records, and one of values. -/
def collectionsAL : Session :=
  ⟨.ofList [("a", [.object [("k", .string "x")]]), ("l", [.string "x"])], default, []⟩

/-- Clones of the records that hold a listed value, one for each record of the collection itself. -/
def cloneListed (filter : Value) : Value :=
  .object ([("field", .string "k")] ++ ("filter", filter) :: [("values", .string "a")])

theorem run_by_name_cloneListed :
    ListPlace .cloneObjects cloneListed ∧ collectionsAL.store.get? "l" = some [.string "x"] ∧
    Operator.cloneObjects.run ⟨none, .empty⟩ "a" (cloneListed (.string "l")) collectionsAL =
      Operator.cloneObjects.run ⟨none, .empty⟩ "a" (cloneListed (.array [.string "x"]))
        collectionsAL ∧
    (Operator.cloneObjects.run ⟨none, .empty⟩ "a" (cloneListed (.string "l"))
      collectionsAL).2.store.get? "a" = some [.object [("k", .string "x")],
        .object [("k", .object [("k", .string "x")])]] ∧
    collectionsAL.store.get? "m" = none ∧
    ∃ e, Operator.cloneObjects.run ⟨none, .empty⟩ "a" (cloneListed (.string "m")) collectionsAL =
      (.error ⟨"a", .cloneObjects, e⟩, collectionsAL) ∧
      (e = .missingCollection "m" ∨ ∀ v, v ≠ .null →
        Operator.cloneObjects.run ⟨none, .empty⟩ "a" (cloneListed v) collectionsAL =
          (.error ⟨"a", .cloneObjects, e⟩, collectionsAL)) := by
  have hplace : ListPlace .cloneObjects cloneListed := .clone (by decide) (.field _ rfl)
  exact ⟨hplace, rfl, run_by_name.1 ⟨none, .empty⟩ "a" .cloneObjects cloneListed hplace
    collectionsAL "l" [.string "x"] rfl, rfl, rfl,
    run_by_name.2.2 ⟨none, .empty⟩ "a" .cloneObjects cloneListed hplace collectionsAL "m" rfl⟩

end Operator

end Reshape
