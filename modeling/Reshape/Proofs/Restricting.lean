import Reshape.Proofs.Filtering
import Reshape.Proofs.Undoing

/-!
# Keeping fields in parts

A field is kept or dropped by its name alone, so that what several lists of names keep, one after
the other, are the fields that each of them keeps. The names may be those in the collection itself:
what is in a list of names is no record, and stays as it is.

* `Filter.Mode.keeps`, `Collection.keepFields`: the names that are kept, and the fields of these.
* `Filter.AsksFields`: the names that parameters ask for.
* `Filter.asksFields_keepFields`: they ask for the same when fields were dropped.
* `Filter.divides_filter`: a list of names divides the fields of a record.
* `Filter.runFields_composes`: the operator.
-/

namespace Reshape

/-- The collection with the fields of some names only. -/
def Collection.keepFields (keeps : String → Bool) (c : Collection) : Collection :=
  c.map (·.mapFields (·.filter (keeps ·.1)))

theorem Collection.keepFields_keepFields (keeps keeps' : String → Bool) (c : Collection) :
    (c.keepFields keeps).keepFields keeps' = c.keepFields fun k => keeps k && keeps' k := by
  rw [keepFields, keepFields, keepFields, List.map_map]
  refine List.map_congr_left fun v _ => ?_
  rw [Function.comp_apply, Value.mapFields_mapFields]
  simp only [List.filter_filter, Bool.and_comm]

/-- What is no record stays as it is. -/
theorem Collection.keepFields_names (keeps : String → Bool) (names : List String) :
    Collection.keepFields keeps (names.map .string) = names.map .string := by
  rw [keepFields, List.map_map]
  rfl

theorem Reference.resolve_eq_ok_iff {s : Store} {v : Value} {items : List Value}
    {param : String} : (ofValue v).resolve s param = .ok items ↔ v.Lists s items := by
  refine ⟨fun h => ?_, fun h => resolve_of_lists h param⟩
  cases v with
  | array items' => exact .inl (congrArg Value.array (Except.ok.inj h))
  | string name => exact .inr ⟨name, rfl, Store.find_eq_ok.1 h⟩
  | _ => cases h

namespace Filter

/-- Whether fields of the name are kept. -/
def Mode.keeps (names : List String) (k : String) : Mode → Bool
  | .include => k ∈ names
  | .exclude => k ∉ names

/-- The parameters ask for the fields of the names, or for all others. The names are given
literally or by the name of a collection. -/
def AsksFields (s : Store) (raw : Value) (mode : Mode) (names : List String) : Prop :=
  ∃ params v, Shape.readRecord fieldsStruct raw = .ok params ∧
    Filter.mode params = .ok (mode, v) ∧ v.Lists s (names.map .string)

variable {s : Store} {job : String} {raw : Value} {m m' : Mode} {names names' : List String}
  {c : Collection}

theorem restrict_eq_filter (mode : Mode) (names : List String) (r : Record) :
    restrict mode names r = r.filter (mode.keeps names ·.1) := by
  refine List.filter_congr fun f _ => ?_
  cases mode <;> simp [Mode.keeps]

/-- The fields of a record that have one of the names, and all others: both as they are in the
record, in its order, and together all of its fields, each once. -/
structure Divides (names : List String) (r kept dropped : Record) : Prop where
  kept_sublist : kept.Sublist r
  dropped_sublist : dropped.Sublist r
  perm : (kept ++ dropped).Perm r
  mem_kept_iff : ∀ f ∈ r, f ∈ kept ↔ f.1 ∈ names
  mem_dropped_iff : ∀ f ∈ r, f ∈ dropped ↔ f.1 ∉ names

theorem divides_filter (names : List String) (r : Record) :
    Divides names r (r.filter (·.1 ∈ names)) (r.filter (·.1 ∉ names)) := by
  refine ⟨List.filter_sublist, List.filter_sublist, ?_, fun f hf => ?_, fun f hf => ?_⟩
  · have h := List.filter_append_perm (fun f : String × Value => decide (f.1 ∈ names)) r
    simpa only [decide_not] using h
  · rw [List.mem_filter, decide_eq_true_iff, and_iff_right hf]
  · rw [List.mem_filter, decide_eq_true_iff, and_iff_right hf]

/-! ## What parameters ask for -/

theorem name?_eq_some_iff {v : Value} {n : String} : name? v = some n ↔ v = .string n := by
  cases v <;> simp [name?]

theorem mapM_name?_eq_some_iff {items : List Value} :
    items.mapM name? = some names ↔ items = names.map .string := by
  simp only [mapM_eq_some_iff, name?_eq_some_iff]
  rw [← List.forall₂_eq_eq_eq, List.forall₂_map_right_iff]

theorem resolveAs_name?_eq_ok_iff {v : Value} {param expected : String} :
    (Reference.ofValue v).resolveAs s param expected name? = .ok names ↔
      v.Lists s (names.map .string) := by
  rw [Reference.resolveAs_eq_bind, bind_eq_ok]
  constructor
  · rintro ⟨items, hitems, h⟩
    cases hnames : items.mapM name? with
    | none =>
      rw [hnames] at h
      cases h
    | some ns =>
      rw [hnames] at h
      cases h
      rw [← mapM_name?_eq_some_iff.1 hnames]
      exact Reference.resolve_eq_ok_iff.1 hitems
  · intro h
    refine ⟨_, Reference.resolve_of_lists h param, ?_⟩
    rw [mapM_name?_eq_some_iff.2 rfl]
    rfl

theorem fields_eq_ok_iff (hc : s.get? job = some c) :
    fields s job raw = .ok (m, names) ↔ AsksFields s raw m names := by
  constructor
  · intro h
    obtain ⟨params, hparams, h⟩ := bind_eq_ok.1 h
    obtain ⟨_, -, h⟩ := bind_eq_ok.1 h
    obtain ⟨⟨mode, v⟩, hmode, h⟩ := bind_eq_ok.1 h
    obtain ⟨ns, hnames, h⟩ := bind_eq_ok.1 h
    cases h
    exact ⟨params, v, Operator.readWith_eq_ok.1 hparams, hmode,
      resolveAs_name?_eq_ok_iff.1 hnames⟩
  · rintro ⟨params, v, hparams, hmode, hv⟩
    exact bind_eq_ok.2 ⟨params, Operator.readWith_eq_ok.2 hparams, bind_eq_ok.2
      ⟨c, Store.find_eq_ok.2 hc, bind_eq_ok.2 ⟨(m, v), hmode, bind_eq_ok.2
        ⟨names, resolveAs_name?_eq_ok_iff.2 hv, rfl⟩⟩⟩⟩

/-- Parameters that are written out, with a list that is literal or given by name. -/
theorem asksFields_object {list : Value} (h : list.Lists s (names.map .string)) (mode : Mode) :
    AsksFields s (.object [(mode.name, list)]) mode names := by
  refine ⟨[(mode.name, list)], list, ?_, ?_, h⟩
  · cases mode <;> rfl
  · rcases h with rfl | ⟨name, rfl, -⟩ <;> cases mode <;> rfl

/-- They ask for the same when fields were dropped, also if the names are those in the
collection. -/
theorem asksFields_keepFields (h : AsksFields s raw m names) (hc : s.get? job = some c)
    (keeps : String → Bool) : AsksFields (s.insert job (c.keepFields keeps)) raw m names := by
  obtain ⟨params, v, hparams, hmode, hv⟩ := h
  refine ⟨params, v, hparams, hmode, hv.imp_right ?_⟩
  rintro ⟨name, rfl, hname⟩
  refine ⟨name, rfl, ?_⟩
  rw [Catalog.get?_insert]
  split
  · rename_i hjob
    subst hjob
    obtain rfl := Option.some.inj (hc.symm.trans hname)
    rw [Collection.keepFields_names]
  · exact hname

/-! ## The operator -/

theorem runFields_of_asks {s : Session} (h : AsksFields s.store raw m names)
    (hc : s.store.get? job = some c) (setting : Setting) :
    ∃ log, Operator.filterFields.run setting job raw s =
      (.ok (), ⟨s.store.insert job (c.keepFields (m.keeps names)), s.files, log⟩) := by
  refine Operator.run_of_change_put (by decide) ?_
  rw [Operator.change, (fields_eq_ok_iff hc).2 h, Store.find_eq_ok.2 hc]
  change Except.ok (Change.put job (c.map (·.mapFields (restrict m names)))) = _
  rw [funext (restrict_eq_filter m names)]
  rfl

/-- One list of names after another. -/
theorem runFields_runFields_of_asks {raw' : Value} {s : Session}
    (h : AsksFields s.store raw m names) (h' : AsksFields s.store raw' m' names')
    (hc : s.store.get? job = some c) (setting : Setting) :
    ∃ log, (do
      Operator.filterFields.run setting job raw
      Operator.filterFields.run setting job raw') s = (.ok (), ⟨s.store.insert job
        (c.keepFields fun k => m.keeps names k && m'.keeps names' k), s.files, log⟩) := by
  obtain ⟨log, hfirst⟩ := runFields_of_asks h hc setting
  obtain ⟨log', hsecond⟩ := runFields_of_asks
    (s := ⟨s.store.insert job (c.keepFields (m.keeps names)), s.files, log⟩)
    (asksFields_keepFields h' hc _) (Catalog.get?_insert_self ..) setting
  refine ⟨log', ?_⟩
  rw [Attempt.bind_ok hfirst, hsecond, Catalog.insert_insert, Collection.keepFields_keepFields]

/-- **Lists of names keep what each of them keeps.** Parameters are accepted if they ask for the
fields of some names or for all others, where the names are a literal list or the strings of a
collection. What is included and what is excluded by one list divides the fields of every record.
To include the names of one list and then those of another one is to include those in both, to
exclude one list and then another one is to exclude both at once, and to include a list and to
exclude another one can change places. To do so twice changes nothing more. All records and values
stay in their places, and a value that is no record stays as it is. -/
theorem runFields_composes :
    (∀ (setting : Setting) (job : String) (raw : Value) (s : Session) (c : Collection),
      s.store.get? job = some c →
      ((Operator.filterFields.run setting job raw s).1 = .ok () ↔
        ∃ mode names, AsksFields s.store raw mode names)) ∧
    (∀ (s : Store) (mode : Mode) (list : Value) (names : List String),
      list.Lists s (names.map .string) →
      AsksFields s (.object [(mode.name, list)]) mode names) ∧
    (∀ (setting : Setting) (job : String) (s : Session) (c : Collection),
      s.store.get? job = some c →
      let run := Operator.filterFields.run setting job
      let Keeps (x : Run Unit) (keeps : String → Bool) : Prop :=
        ∃ log, x s = (.ok (), ⟨s.store.insert job (c.keepFields keeps), s.files, log⟩)
      (∀ a b A B, AsksFields s.store a .include A → AsksFields s.store b .include B →
        Keeps (run a) (· ∈ A) ∧ Keeps (do run a; run a) (· ∈ A) ∧
        Keeps (do run a; run b) (fun k => k ∈ A ∧ k ∈ B) ∧
        ∀ d D, AsksFields s.store d .include D → (∀ k, k ∈ D ↔ k ∈ A ∧ k ∈ B) →
          Keeps (run d) (fun k => k ∈ A ∧ k ∈ B)) ∧
      (∀ a b A B, AsksFields s.store a .exclude A → AsksFields s.store b .exclude B →
        Keeps (run a) (· ∉ A) ∧ Keeps (do run a; run a) (· ∉ A) ∧
        Keeps (do run a; run b) (· ∉ A ++ B) ∧
        ∀ d, AsksFields s.store d .exclude (A ++ B) → Keeps (run d) (· ∉ A ++ B)) ∧
      ∀ a b A B, AsksFields s.store a .include A → AsksFields s.store b .exclude B →
        Keeps (do run a; run b) (fun k => k ∈ A ∧ k ∉ B) ∧
        Keeps (do run b; run a) (fun k => k ∈ A ∧ k ∉ B)) ∧
    (∀ (keeps : String → Bool) (c : Collection), List.Forall₂
      (Value.OnRecords fun r r' => r' = r.filter (keeps ·.1)) c (c.keepFields keeps)) ∧
    ∀ (A : List String) (r : Record), Divides A r (r.filter (·.1 ∈ A)) (r.filter (·.1 ∉ A)) := by
  refine ⟨fun setting job raw s c hc => ⟨fun h => ?_, ?_⟩,
    fun s mode list names h => asksFields_object h mode, fun setting job s c hc => ?_,
    fun keeps c => Collection.onRecords_map fun r _ => rfl, divides_filter⟩
  · obtain ⟨_, hchange⟩ := Operator.exists_change_of_run h
    obtain ⟨⟨mode, names⟩, hfields, -⟩ := bind_eq_ok.1 hchange
    exact ⟨mode, names, (fields_eq_ok_iff hc).1 hfields⟩
  · rintro ⟨mode, names, h⟩
    obtain ⟨log, hrun⟩ := runFields_of_asks h hc setting
    rw [hrun]
  · intro run Keeps
    have hone {a : Value} {m : Mode} {A : List String} {keeps : String → Bool}
        (ha : AsksFields s.store a m A) (hkeeps : ∀ k, m.keeps A k = keeps k) :
        Keeps (run a) keeps :=
      funext hkeeps ▸ runFields_of_asks ha hc setting
    have htwo {a b : Value} {m m' : Mode} {A B : List String} {keeps : String → Bool}
        (ha : AsksFields s.store a m A) (hb : AsksFields s.store b m' B)
        (hkeeps : ∀ k, (m.keeps A k && m'.keeps B k) = keeps k) :
        Keeps (do run a; run b) keeps :=
      funext hkeeps ▸ runFields_runFields_of_asks ha hb hc setting
    refine ⟨fun a b A B ha hb => ⟨hone ha fun k => rfl, htwo ha ha fun k => ?_,
        htwo ha hb fun k => ?_, fun d D hd hD => hone hd fun k => ?_⟩,
      fun a b A B ha hb => ⟨hone ha fun k => rfl, htwo ha ha fun k => ?_,
        htwo ha hb fun k => ?_, fun d hd => hone hd fun k => rfl⟩,
      fun a b A B ha hb => ⟨htwo ha hb fun k => ?_, htwo hb ha fun k => ?_⟩⟩
    · exact Bool.and_self _
    · exact (Bool.decide_and ..).symm
    · exact decide_eq_decide.2 (hD k)
    · exact Bool.and_self _
    · simp [Mode.keeps]
    · exact (Bool.decide_and ..).symm
    · rw [Bool.and_comm]
      exact (Bool.decide_and ..).symm

/-- Records of different shapes, a plain value, and a list of names in which one stands twice. -/
def shapesSession : Session :=
  ⟨.ofList [("a", [.object [("k", .null), ("n", .bool true), ("m", .string "x")], .string "k",
    .object []]), ("l", [.string "k", .string "m", .string "k"])], default, []⟩

theorem runFields_composes_shapesSession :
    let c : Collection :=
      [.object [("k", .null), ("n", .bool true), ("m", .string "x")], .string "k", .object []]
    let only (list : Value) : Value := .object [("include", list)]
    let without (list : Value) : Value := .object [("exclude", list)]
    let listed : Value := .string "l"
    let given : Value := .array [.string "m", .string "z"]
    let run := Operator.filterFields.run ⟨none, .empty⟩ "a"
    let Makes (x : Run Unit) (c : Collection) : Prop := ∃ log, x shapesSession =
      (.ok (), ⟨shapesSession.store.insert "a" c, shapesSession.files, log⟩)
    shapesSession.store.get? "a" = some c ∧ (run (only listed) shapesSession).1 = .ok () ∧
    listed.Lists shapesSession.store (["k", "m", "k"].map .string) ∧
    given.Lists shapesSession.store (["m", "z"].map .string) ∧
    AsksFields shapesSession.store (only listed) .include ["k", "m", "k"] ∧
    AsksFields shapesSession.store (without listed) .exclude ["k", "m", "k"] ∧
    Makes (run (only listed))
      [.object [("k", .null), ("m", .string "x")], .string "k", .object []] ∧
    Makes (do run (only listed); run (only given))
      [.object [("m", .string "x")], .string "k", .object []] ∧
    Makes (run (only (.array [.string "m"])))
      [.object [("m", .string "x")], .string "k", .object []] ∧
    Makes (do run (without listed); run (without given))
      [.object [("n", .bool true)], .string "k", .object []] ∧
    Makes (do run (only listed); run (without given))
      [.object [("k", .null)], .string "k", .object []] ∧
    Makes (do run (without given); run (only listed))
      [.object [("k", .null)], .string "k", .object []] := by
  intro c only without listed given run Makes
  have hcommon (k : String) : k ∈ ["m"] ↔ k ∈ ["k", "m", "k"] ∧ k ∈ ["m", "z"] := by
    simp only [List.mem_cons, List.not_mem_nil, or_false]
    exact ⟨fun h => ⟨.inr (.inl h), .inl h⟩, by rintro ⟨rfl | rfl | rfl, h | h⟩ <;> simp_all⟩
  obtain ⟨haccepted, hwritten, hcompose, -⟩ := runFields_composes
  have hc : shapesSession.store.get? "a" = some c := rfl
  have hlisted : listed.Lists shapesSession.store (["k", "m", "k"].map .string) :=
    .inr ⟨"l", rfl, rfl⟩
  have hgiven : given.Lists shapesSession.store (["m", "z"].map .string) := .inl rfl
  have hm : Value.Lists shapesSession.store (.array [.string "m"]) (["m"].map .string) := .inl rfl
  have honly := hwritten _ .include _ _ hlisted
  have hwithout := hwritten _ .exclude _ _ hlisted
  have honly' := hwritten _ .include _ _ hgiven
  have hwithout' := hwritten _ .exclude _ _ hgiven
  obtain ⟨hinclude, hexclude, hmixed⟩ := hcompose ⟨none, .empty⟩ "a" shapesSession c hc
  obtain ⟨hfirst, -, hboth, honce⟩ := hinclude _ _ _ _ honly honly'
  obtain ⟨-, -, hneither, -⟩ := hexclude _ _ _ _ hwithout hwithout'
  obtain ⟨hthen, hbefore⟩ := hmixed _ _ _ _ honly hwithout'
  exact ⟨hc, (haccepted _ _ _ _ _ hc).2 ⟨_, _, honly⟩, hlisted, hgiven, honly, hwithout, hfirst,
    hboth, honce _ _ (hwritten _ .include _ _ hm) hcommon, hneither, hthen, hbefore⟩

end Filter

end Reshape
