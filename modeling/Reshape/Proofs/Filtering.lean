import Mathlib.Data.List.Perm.Basic
import Reshape.Proofs.Indirection
import Reshape.Proofs.Recordwise

/-!
# Filtering in parts

A filter keeps the records that satisfy all of its predicates, so that it does not matter in which
order they are given, nor whether they are given at once or one list after the other. A list of
values divides a collection: what it includes and what it excludes are all records, each once.

* `Filter.Rule.Admits`: what a rule says of a record.
* `Filter.Asks`: the rule that a predicate asks for.
* `Filter.keep_append`, `Filter.keep_perm`, `Filter.keep_keep`: the records that are kept.
* `Filter.records_of_asks`: the predicates of a list keep the records that their rules keep.
* `Filter.run_composes`: the operator.
-/

namespace Reshape

/-- A list is read if its elements are. -/
theorem mapM_eq_ok_iff {ε α β : Type} {f : α → Except ε β} {as : List α} {bs : List β} :
    as.mapM f = .ok bs ↔ List.Forall₂ (fun a b => f a = .ok b) as bs := by
  induction as generalizing bs with
  | nil =>
    rw [List.mapM_nil, List.forall₂_nil_left_iff]
    exact ⟨fun h => (Except.ok.inj h).symm, fun h => congrArg Except.ok h.symm⟩
  | cons a as ih =>
    rw [List.mapM_cons, bind_eq_ok, List.forall₂_cons_left_iff]
    constructor
    · rintro ⟨b, hb, h⟩
      obtain ⟨bs', hbs', h⟩ := bind_eq_ok.1 h
      exact ⟨b, bs', hb, ih.1 hbs', (Except.ok.inj h).symm⟩
    · rintro ⟨b, bs', hb, hbs', rfl⟩
      exact ⟨b, hb, bind_eq_ok.2 ⟨bs', ih.2 hbs', rfl⟩⟩

/-- A list is taken for a list of other things if its elements are. -/
theorem mapM_eq_some_iff {α β : Type} {f : α → Option β} {as : List α} {bs : List β} :
    as.mapM f = some bs ↔ List.Forall₂ (fun a b => f a = some b) as bs := by
  induction as generalizing bs with
  | nil => simp [eq_comm]
  | cons a as ih =>
    rw [List.mapM_cons, Option.bind_eq_bind, Option.bind_eq_some_iff, List.forall₂_cons_left_iff]
    constructor
    · rintro ⟨b, hb, h⟩
      obtain ⟨bs', hbs', h⟩ := Option.bind_eq_some_iff.1 h
      exact ⟨b, bs', hb, ih.1 hbs', (Option.some.inj h).symm⟩
    · rintro ⟨b, bs', hb, hbs', rfl⟩
      exact ⟨b, hb, Option.bind_eq_some_iff.2 ⟨bs', ih.2 hbs', rfl⟩⟩

namespace Filter

/-! ## What is kept -/

/-- The record has a field that holds one of the values. -/
def Holds (field : String) (list : List Value) (v : Value) : Prop :=
  ∃ x, v.field? field = some x ∧ ∃ y ∈ list, Value.strictEq y x = true

/-- The record satisfies the rule. -/
def Rule.Admits (r : Rule) (v : Value) : Prop :=
  match r.mode with
  | .include => Holds r.field r.list v
  | .exclude => ¬ Holds r.field r.list v

variable {rules rules' : List Rule} {c : Collection} {v : Value}

theorem elem_iff_holds {field : String} {list : List Value} :
    Value.elem list (v.field? field) = true ↔ Holds field list v := by
  rw [Holds]
  cases v.field? field with
  | none => simp [Value.elem]
  | some x => simp [Value.elem]

instance (field : String) (list : List Value) (v : Value) : Decidable (Holds field list v) :=
  decidable_of_iff _ elem_iff_holds

theorem Rule.accepts_iff_admits {r : Rule} : r.accepts v = true ↔ r.Admits v := by
  rw [accepts, Admits]
  cases r.mode
  · exact elem_iff_holds
  · simp only [Bool.not_eq_true', ← Bool.not_eq_true, elem_iff_holds]

instance (r : Rule) (v : Value) : Decidable (r.Admits v) :=
  decidable_of_iff _ Rule.accepts_iff_admits

theorem keep_eq_filter (rules : List Rule) (c : Collection) :
    keep rules c = c.filter fun v => ∀ r ∈ rules, r.Admits v := by
  refine List.filter_congr fun v _ => ?_
  rw [Bool.eq_iff_iff, List.all_eq_true, decide_eq_true_eq]
  exact forall₂_congr fun r _ => Rule.accepts_iff_admits

theorem keep_append (rules rules' : List Rule) (c : Collection) :
    keep (rules ++ rules') c = keep rules' (keep rules c) := by
  rw [keep, keep, keep, List.filter_filter]
  refine List.filter_congr fun v _ => ?_
  rw [List.all_append, Bool.and_comm]

theorem keep_perm (h : rules.Perm rules') (c : Collection) : keep rules c = keep rules' c :=
  List.filter_congr fun _ _ => h.all_eq

theorem keep_keep (rules : List Rule) (c : Collection) :
    keep rules (keep rules c) = keep rules c := by
  rw [keep, keep, List.filter_filter]
  simp only [Bool.and_self]

/-! ## What predicates ask for -/

/-- The predicate asks for the rule. -/
def Asks (s : Store) (predicate : Value) (r : Rule) : Prop :=
  ∃ params, Shape.readRecord predicateStruct predicate = .ok params ∧ rule s params = .ok r

variable {s : Store} {job : String} {ps qs : List Value}

/-- All predicates are read before a list is looked up. -/
theorem forall₂_asks_iff : List.Forall₂ (Asks s) ps rules ↔
    ∃ records, readPredicates (.array ps) = .ok records ∧ records.mapM (rule s) = .ok rules := by
  change _ ↔ ∃ records, ps.mapM (Shape.readRecord predicateStruct) = .ok records ∧ _
  simp only [mapM_eq_ok_iff]
  induction ps generalizing rules with
  | nil => simp
  | cons p ps ih =>
    simp only [List.forall₂_cons_left_iff, ih]
    constructor
    · rintro ⟨r, rules', ⟨params, hp, hr⟩, ⟨records, hrecords, hrules⟩, rfl⟩
      exact ⟨params :: records, ⟨params, records, hp, hrecords, rfl⟩, .cons hr hrules⟩
    · rintro ⟨_, ⟨params, records, hp, hrecords, rfl⟩, hall⟩
      obtain ⟨r, rules', hr, hrules, rfl⟩ := List.forall₂_cons_left_iff.1 hall
      exact ⟨r, rules', ⟨params, hp, hr⟩, ⟨records, hrecords, hrules⟩, rfl⟩

/-- Predicates that do not name a collection ask for the same whatever it holds. -/
theorem asks_insert (h : List.Forall₂ (Asks s) ps rules)
    (hjob : job ∉ Operator.filterObjects.mentions (.array ps)) (c : Collection) :
    List.Forall₂ (Asks (s.insert job c)) ps rules := by
  obtain ⟨records, hrecords, hrules⟩ := forall₂_asks_iff.1 h
  rw [Operator.mentions, hrecords] at hjob
  exact forall₂_asks_iff.2 ⟨records, hrecords,
    (rules_of_agreeOn (Store.agreeOn_insert hjob s c)).trans hrules⟩

/-- Predicates in another order ask for the same rules in another order. -/
theorem asks_perm (h : List.Forall₂ (Asks s) ps rules) (hperm : qs.Perm ps) :
    ∃ rules', List.Forall₂ (Asks s) qs rules' ∧ rules'.Perm rules :=
  List.perm_comp_forall₂ hperm h

/-- A predicate of a field and a list of values. -/
def predicate (field : String) (mode : Mode) (list : Value) : Value :=
  .object [("field", .string field), (mode.name, list)]

theorem asks_predicate {list : Value} {items : List Value} (h : list.Lists s items)
    (field : String) (mode : Mode) : Asks s (predicate field mode list) ⟨field, mode, items⟩ := by
  have hread : Shape.readRecord predicateStruct (predicate field mode list) =
      .ok [("field", .string field), (mode.name, list)] := by cases mode <;> rfl
  have hmode : Filter.mode [("field", .string field), (mode.name, list)] = .ok (mode, list) := by
    rcases h with rfl | ⟨name, rfl, -⟩ <;> cases mode <;> rfl
  refine ⟨_, hread, ?_⟩
  change Filter.mode _ >>= _ = _
  rw [hmode]
  change (Reference.ofValue list).resolve s mode.name >>= _ = _
  rw [Reference.resolve_of_lists h]
  rfl

/-! ## The operator -/

/-- The records that are kept. -/
theorem records_of_asks (h : List.Forall₂ (Asks s) ps rules) (hc : s.get? job = some c) :
    records s job (.array ps) = .ok (keep rules c) := by
  obtain ⟨params, hparams, hrules⟩ := forall₂_asks_iff.1 h
  rw [records, Operator.readWith_eq_ok.2 hparams, Store.find_eq_ok.2 hc]
  change params.mapM (rule s) >>= _ = _
  rw [hrules]
  rfl

/-- Predicates that ask for something are accepted. -/
theorem run_of_asks {s : Session} (h : List.Forall₂ (Asks s.store) ps rules)
    (hc : s.store.get? job = some c) (setting : Setting) :
    ∃ log, Operator.filterObjects.run setting job (.array ps) s =
      (.ok (), ⟨s.store.insert job (keep rules c), s.files, log⟩) := by
  refine Operator.run_of_change_put (by decide) ?_
  rw [Operator.change, records_of_asks h hc]
  rfl

/-- Only predicates that ask for something are accepted. -/
theorem exists_asks_of_run {s : Session} {setting : Setting}
    (h : (Operator.filterObjects.run setting job (.array ps) s).1 = .ok ()) :
    ∃ rules, List.Forall₂ (Asks s.store) ps rules := by
  obtain ⟨_, hchange⟩ := Operator.exists_change_of_run h
  obtain ⟨_, hrecords, -⟩ := bind_eq_ok.1 hchange
  obtain ⟨params, hparams, hrest⟩ := bind_eq_ok.1 hrecords
  obtain ⟨_, -, hrest⟩ := bind_eq_ok.1 hrest
  obtain ⟨rules, hrules, -⟩ := bind_eq_ok.1 hrest
  exact ⟨rules, forall₂_asks_iff.2 ⟨params, Operator.readWith_eq_ok.1 hparams, hrules⟩⟩

/-- One list of predicates after another, of which the second does not name the collection. -/
theorem run_run_of_asks {s : Session} (h : List.Forall₂ (Asks s.store) ps rules)
    (h' : List.Forall₂ (Asks s.store) qs rules')
    (hjob : job ∉ Operator.filterObjects.mentions (.array qs)) (hc : s.store.get? job = some c)
    (setting : Setting) :
    ∃ log, (do
      Operator.filterObjects.run setting job (.array ps)
      Operator.filterObjects.run setting job (.array qs)) s =
        (.ok (), ⟨s.store.insert job (keep rules' (keep rules c)), s.files, log⟩) := by
  obtain ⟨log, hfirst⟩ := run_of_asks h hc setting
  obtain ⟨log', hsecond⟩ := run_of_asks (s := ⟨s.store.insert job (keep rules c), s.files, log⟩)
    (asks_insert h' hjob _) (Catalog.get?_insert_self ..) setting
  refine ⟨log', ?_⟩
  rw [Attempt.bind_ok hfirst, hsecond, Catalog.insert_insert]

/-- **Filters compose.** Predicates are accepted if each of them asks for a rule. Take two lists of
such predicates that do not name the collection. Both at once keep the records, in their order, that
satisfy all of them, and so do one list after the other and the predicates in any other order; one
list twice keeps what it keeps once. A list of values divides the records of a collection, whatever
they are: each of them is either kept where the list is included or where it is excluded, in its
order. -/
theorem run_composes :
    (∀ (setting : Setting) (job : String) (s : Session) (c : Collection) (ps : List Value),
      s.store.get? job = some c →
      ((Operator.filterObjects.run setting job (.array ps) s).1 = .ok () ↔
        ∃ rules, List.Forall₂ (Asks s.store) ps rules)) ∧
    (∀ (setting : Setting) (job : String) (s : Session) (c : Collection) (ps qs : List Value)
      (rules rules' : List Rule), s.store.get? job = some c →
      List.Forall₂ (Asks s.store) ps rules → List.Forall₂ (Asks s.store) qs rules' →
      job ∉ Operator.filterObjects.mentions (.array ps) →
      job ∉ Operator.filterObjects.mentions (.array qs) →
      let run (ps : List Value) := Operator.filterObjects.run setting job (.array ps)
      let kept (rules : List Rule) := c.filter fun v => ∀ r ∈ rules, r.Admits v
      let result (rules : List Rule) (log : Log) : Except RunError Unit × Session :=
        (.ok (), ⟨s.store.insert job (kept rules), s.files, log⟩)
      (∃ log, run (ps ++ qs) s = result (rules ++ rules') log) ∧
      (∃ log, (do run ps; run qs) s = result (rules ++ rules') log) ∧
      (∀ ps', ps'.Perm (ps ++ qs) → run ps' s = run (ps ++ qs) s) ∧
      (∃ log, run ps s = result rules log) ∧
      ∃ log, (do run ps; run ps) s = result rules log) ∧
    ∀ (setting : Setting) (job : String) (s : Session) (c : Collection) (field : String)
      (list : Value) (items : List Value), s.store.get? job = some c →
      list.Lists s.store items →
      let run (mode : Mode) :=
        Operator.filterObjects.run setting job (.array [predicate field mode list])
      ∃ kept dropped,
        (∃ log, run .include s = (.ok (), ⟨s.store.insert job kept, s.files, log⟩)) ∧
        (∃ log, run .exclude s = (.ok (), ⟨s.store.insert job dropped, s.files, log⟩)) ∧
        kept.Sublist c ∧ dropped.Sublist c ∧ (kept ++ dropped).Perm c ∧
        ∀ v ∈ c, (v ∈ kept ↔ Holds field items v) ∧ (v ∈ dropped ↔ ¬ Holds field items v) := by
  refine ⟨fun setting job s c ps hc => ⟨exists_asks_of_run, fun ⟨rules, h⟩ => ?_⟩,
    fun setting job s c ps qs rules rules' hc hps hqs hjob hjob' => ?_,
    fun setting job s c field list items hc hlist => ?_⟩
  · obtain ⟨log, hrun⟩ := run_of_asks h hc setting
    rw [hrun]
  · have hboth : List.Forall₂ (Asks s.store) (ps ++ qs) (rules ++ rules') :=
      List.rel_append hps hqs
    dsimp only
    simp only [← keep_eq_filter]
    refine ⟨run_of_asks hboth hc setting, ?_, fun ps' hperm => ?_, run_of_asks hps hc setting, ?_⟩
    · rw [keep_append]
      exact run_run_of_asks hps hqs hjob' hc setting
    · obtain ⟨rules'', hps', hrules⟩ := asks_perm hboth hperm
      have hrecords : records s.store job (.array ps') =
          records s.store job (.array (ps ++ qs)) := by
        rw [records_of_asks hps' hc, records_of_asks hboth hc, keep_perm hrules]
      rw [Operator.run_eq, Operator.run_eq, Operator.change, hrecords]
      rfl
    · rw [← keep_keep]
      exact run_run_of_asks hps hps hjob hc setting
  · have hrun (mode : Mode) := run_of_asks (.cons (asks_predicate hlist field mode) .nil) hc setting
    have hinclude : keep [⟨field, .include, items⟩] c = c.filter (Holds field items ·) := by
      simp [keep_eq_filter, Rule.Admits]
    have hexclude : keep [⟨field, .exclude, items⟩] c = c.filter (! Holds field items ·) := by
      simp [keep_eq_filter, Rule.Admits]
    refine ⟨_, _, hrun .include, hrun .exclude, ?_⟩
    rw [hinclude, hexclude]
    exact ⟨List.filter_sublist, List.filter_sublist, List.filter_append_perm _ c,
      fun v hv => by simp [hv]⟩

/-- Records with a value, with null and without the field, and a plain value. -/
def mixedSession : Session :=
  ⟨.ofList [("a", [.object [("k", .string "x")], .object [("k", .null)], .object [], .string "x"]),
    ("l", [.null, .string "x"])], default, []⟩

theorem run_composes_mixedSession :
    let c : Collection :=
      [.object [("k", .string "x")], .object [("k", .null)], .object [], .string "x"]
    let listed := predicate "k" .include (.string "l")
    let notNull := predicate "k" .exclude (.array [.null])
    let run (ps : List Value) := Operator.filterObjects.run ⟨none, .empty⟩ "a" (.array ps)
    let result (c : Collection) (log : Log) : Except RunError Unit × Session :=
      (.ok (), ⟨mixedSession.store.insert "a" c, mixedSession.files, log⟩)
    mixedSession.store.get? "a" = some c ∧
    (run [listed] mixedSession).1 = .ok () ∧
    List.Forall₂ (Asks mixedSession.store) [listed] [⟨"k", .include, [.null, .string "x"]⟩] ∧
    List.Forall₂ (Asks mixedSession.store) [notNull] [⟨"k", .exclude, [.null]⟩] ∧
    "a" ∉ Operator.filterObjects.mentions (.array [listed]) ∧
    "a" ∉ Operator.filterObjects.mentions (.array [notNull]) ∧
    (∃ log, run [listed, notNull] mixedSession = result [.object [("k", .string "x")]] log) ∧
    (∃ log, (do run [listed]; run [notNull]) mixedSession =
      result [.object [("k", .string "x")]] log) ∧
    run [notNull, listed] mixedSession = run [listed, notNull] mixedSession ∧
    Value.Lists mixedSession.store (.string "l") [.null, .string "x"] ∧
    ∃ kept dropped,
      (∃ log, run [predicate "k" .include (.string "l")] mixedSession = result kept log) ∧
      (∃ log, run [predicate "k" .exclude (.string "l")] mixedSession = result dropped log) ∧
      kept.Sublist c ∧ dropped.Sublist c ∧ (kept ++ dropped).Perm c ∧
      ∀ v ∈ c, (v ∈ kept ↔ Holds "k" [.null, .string "x"] v) ∧
        (v ∈ dropped ↔ ¬ Holds "k" [.null, .string "x"] v) := by
  intro c listed notNull run result
  obtain ⟨haccepted, hcompose, hdivide⟩ := run_composes
  have hc : mixedSession.store.get? "a" = some c := rfl
  have hlists : Value.Lists mixedSession.store (.string "l") [.null, .string "x"] :=
    .inr ⟨"l", rfl, rfl⟩
  have hlisted : List.Forall₂ (Asks mixedSession.store) [listed]
      [⟨"k", .include, [.null, .string "x"]⟩] := .cons (asks_predicate hlists "k" .include) .nil
  have hnotNull : List.Forall₂ (Asks mixedSession.store) [notNull] [⟨"k", .exclude, [.null]⟩] :=
    .cons (asks_predicate (.inl rfl) "k" .exclude) .nil
  have hjob : "a" ∉ Operator.filterObjects.mentions (.array [listed]) := by decide
  have hjob' : "a" ∉ Operator.filterObjects.mentions (.array [notNull]) := by decide
  obtain ⟨hboth, hseries, hperm, -, -⟩ := hcompose ⟨none, .empty⟩ "a" mixedSession c [listed]
    [notNull] _ _ hc hlisted hnotNull hjob hjob'
  exact ⟨hc, (haccepted _ _ _ _ _ hc).2 ⟨_, hlisted⟩, hlisted, hnotNull, hjob, hjob', hboth,
    hseries, hperm [notNull, listed] (.swap ..), hlists,
    hdivide _ _ _ _ "k" _ _ hc hlists⟩

end Filter

end Reshape
