import Mathlib.Data.List.Perm.Basic
import Reshape.Config.Reader
import Reshape.Config.Yaml
import Reshape.Run

/-!
# The order of keys

The settings of an operation may be written in any order. What is read is the same operation, up to
the values of settings that name no operator, and these do not matter to a run.

* `Entry`: one setting as it was read, and `Operation.ofEntries`, the operation of several.
* `Operation.Similar`: two operations that run alike (`Similar.run_eq`).
* `Operation.ofEntries_perm`: the entries in another order make a similar operation.
* `YamlReading.Spending`: a reading takes the same number of aliases whenever it succeeds, so that
  readings can change places (`mapM_perm`).
* `Operation.ofDraft_perm`, `Operation.ofNode_perm`: the fields of an operation in another order, as
  JSON and as YAML.
-/

namespace Reshape

open YamlReading

/-- One setting as it was read: an operator with its parameters unless these are null, or a name
that is no operator. -/
inductive Entry
  | operator (k : Operator) (v : Option Value)
  | unknown (name : String) (v : Value)

namespace Entry

/-- The operator that the setting names. -/
def operator? : Entry → Option Operator
  | .operator k _ => some k
  | .unknown _ _ => none

/-- The parameters that the setting gives. -/
def given? : Entry → Option (Operator × Value)
  | .operator k v => v.map fun v => (k, v)
  | .unknown _ _ => none

/-- Adds the setting to those that name no operator if it does not. -/
def addTo (c : Catalog Value) : Entry → Catalog Value
  | .operator _ _ => c
  | .unknown name v => c.insert name v

end Entry

namespace Operation

/-- The operation of entries after those of which the operators are `seen`; no operator may come
twice. -/
def ofEntries (seen : List Operator) (given : List (Operator × Value)) (unknown : Catalog Value) :
    List Entry → Option Operation
  | [] => some (ofList given unknown)
  | .operator k v :: es =>
    if seen.contains k then none
    else ofEntries (k :: seen) ((v.map fun v => (k, v)).toList ++ given) unknown es
  | .unknown name v :: es => ofEntries seen given (unknown.insert name v) es

theorem ofEntries_eq_some {seen : List Operator} {given : List (Operator × Value)}
    {unknown : Catalog Value} {es : List Entry} {o : Operation} :
    ofEntries seen given unknown es = some o ↔
      (es.filterMap Entry.operator?).Nodup ∧ (es.filterMap Entry.operator?).Disjoint seen ∧
      o = ofList ((es.filterMap Entry.given?).reverse ++ given) (es.foldl Entry.addTo unknown) := by
  induction es generalizing seen given unknown with
  | nil => simp [ofEntries, eq_comm]
  | cons e es ih =>
    cases e with
    | unknown name v => exact ih
    | operator k v =>
      rw [List.filterMap_cons_some (show (Entry.operator k v).operator? = some k from rfl),
        List.nodup_cons, List.disjoint_cons_left, List.foldl_cons, Entry.addTo]
      by_cases hk : k ∈ seen
      · simp [ofEntries, hk]
      · -- the operators after `k` are neither `k` nor seen before
        cases v with
        | none =>
          rw [ofEntries, if_neg (by simpa using hk), ih, List.disjoint_cons_right,
            List.filterMap_cons_none rfl]
          tauto
        | some v =>
          have hv : (Entry.operator k (some v)).given? = some (k, v) := rfl
          rw [ofEntries, if_neg (by simpa using hk), ih, List.disjoint_cons_right,
            List.filterMap_cons_some hv, List.reverse_cons, List.append_assoc]
          tauto

/-! ## Entries in another order -/

/-- The operations give the same parameters to the same operators, and the same names are none. -/
structure Similar (o o' : Operation) : Prop where
  parameters : ∀ k, o.get? k = o'.get? k
  unknown : o.unknown.names = o'.unknown.names

namespace Similar

variable {o o' : Operation}

theorem operators_eq (h : Similar o o') : o.operators = o'.operators := by
  simp only [operators, h.parameters]

/-- Of the settings that name no operator, a run sees the names. -/
theorem run_eq (h : Similar o o') (setting : Setting) (job : String) :
    o.run setting job = o'.run setting job := by
  simp only [run, runOperator, h.parameters, h.unknown]

end Similar

/-- Where every operator is given its parameters once, it does not matter in which order. -/
theorem lookup_of_perm {given given' : List (Operator × Value)} (h : given.Perm given')
    (hnodup : (given.map (·.1)).Nodup) (k : Operator) : given.lookup k = given'.lookup k := by
  induction h with
  | nil => rfl
  | cons e _ ih =>
    rw [List.lookup_cons, List.lookup_cons, ih (List.nodup_cons.1 hnodup).2]
  | swap e f l =>
    have hne : f.1 ≠ e.1 := by
      have := (List.nodup_cons.1 hnodup).1
      simp_all
    rw [List.lookup_cons, List.lookup_cons, List.lookup_cons, List.lookup_cons]
    by_cases he : k = e.1
    · rw [he, beq_self_eq_true, beq_eq_false_iff_ne.2 hne.symm]
    · rw [beq_eq_false_iff_ne.2 he]
  | trans h₁ _ ih₁ ih₂ =>
    rw [ih₁ hnodup, ih₂ ((h₁.map _).nodup_iff.1 hnodup)]

theorem mem_names_foldl_addTo {es : List Entry} {unknown : Catalog Value} {name : String} :
    name ∈ (es.foldl Entry.addTo unknown).names ↔
      name ∈ unknown.names ∨ ∃ v, .unknown name v ∈ es := by
  induction es generalizing unknown with
  | nil => simp
  | cons e es ih =>
    rw [List.foldl_cons, ih]
    cases e with
    | operator k v => simp [Entry.addTo]
    | unknown n v =>
      rw [Entry.addTo, Catalog.names, Catalog.insert, Catalog.mem_names_insertEntry]
      simp only [List.mem_cons, Entry.unknown.injEq]
      grind [Catalog.names]

/-- The names of catalogs are equal if they are the same ones, being in increasing order. -/
theorem names_eq_of_mem_iff {α : Type} {c d : Catalog α} (h : ∀ n, n ∈ c.names ↔ n ∈ d.names) :
    c.names = d.names :=
  List.Perm.eq_of_pairwise
    (fun a _ _ _ hab hba => absurd (String.lt_trans hab hba) (String.lt_irrefl a))
    c.sorted d.sorted ((List.perm_ext_iff_of_nodup c.nodup_names d.nodup_names).2 h)

theorem map_given?_sublist (es : List Entry) :
    ((es.filterMap Entry.given?).map (·.1)).Sublist (es.filterMap Entry.operator?) := by
  induction es with
  | nil => exact .slnil
  | cons e es ih =>
    match e with
    | .unknown _ _ => exact ih
    | .operator k none => exact ih.cons k
    | .operator k (some _) => exact ih.cons_cons k

/-- The entries in another order make a similar operation. -/
theorem ofEntries_perm {es es' : List Entry} {o : Operation} (h : es.Perm es')
    (ho : ofEntries [] [] .empty es = some o) :
    ∃ o', ofEntries [] [] .empty es' = some o' ∧ Similar o o' := by
  obtain ⟨hnodup, -, rfl⟩ := ofEntries_eq_some.1 ho
  refine ⟨_, ofEntries_eq_some.2
    ⟨(h.filterMap _).nodup_iff.1 hnodup, List.disjoint_nil_right _, rfl⟩, fun k => ?_, ?_⟩
  · have hgiven : (es.filterMap Entry.given?).reverse.Perm (es'.filterMap Entry.given?).reverse :=
      (List.reverse_perm _).trans ((h.filterMap _).trans (List.reverse_perm _).symm)
    have hkeys : ((es.filterMap Entry.given?).reverse.map (·.1)).Nodup :=
      ((List.reverse_perm _).map _).nodup_iff.2 (hnodup.sublist (map_given?_sublist es))
    rw [get?_ofList, get?_ofList, List.append_nil, List.append_nil, lookup_of_perm hgiven hkeys]
  · refine names_eq_of_mem_iff fun n => ?_
    simp only [ofList, mem_names_foldl_addTo, h.mem_iff]

end Operation

/-! ## JSON -/

/-- The setting of a name and a value; a null gives an operator no parameters. -/
def Entry.ofValue (name : String) (v : Value) : Entry :=
  match Operator.ofName? name, v with
  | some k, .null => .operator k none
  | some k, v => .operator k (some v)
  | none, v => .unknown name v

/-- The setting that a field is, if nothing of it is missing. -/
def Entry.ofDraft? (depth : Nat) : Option String × Draft → Option Entry
  | (none, _) => none
  | (some name, d) => (d.value? depth).map (Entry.ofValue name)

namespace Operation

theorem readFields_eq_ok {depth : Nat} {seen : List Operator} {given : List (Operator × Value)}
    {unknown : Catalog Value} {fields : List (Option String × Draft)} {o : Operation} :
    readFields depth seen given unknown fields = .ok o ↔
      (∀ f ∈ fields, (Entry.ofDraft? depth f).isSome) ∧
      ofEntries seen given unknown (fields.filterMap (Entry.ofDraft? depth)) = some o := by
  induction fields generalizing seen given unknown with
  | nil => simp [readFields, ofEntries]
  | cons f fields ih =>
    rw [List.forall_mem_cons]
    match f with
    | (none, d) => simp [readFields, Entry.ofDraft?]
    | (some name, d) =>
      cases hd : d.value? depth with
      | none =>
        -- either the operator was seen before or the value is not there
        have hf : Entry.ofDraft? depth (some name, d) = none := by rw [Entry.ofDraft?, hd]; rfl
        rw [readFields, hf, hd]
        grind
      | some v =>
        have hf : Entry.ofDraft? depth (some name, d) = some (.ofValue name v) := by
          rw [Entry.ofDraft?, hd]; rfl
        rw [List.filterMap_cons_some hf, hf, readFields, hd]
        cases hk : Operator.ofName? name with
        | none => simpa [Entry.ofValue, hk, ofEntries] using ih
        | some k =>
          by_cases hs : k ∈ seen
          · cases v <;> simp [Entry.ofValue, hk, ofEntries, hs]
          · cases v <;> simpa [Entry.ofValue, hk, ofEntries, hs] using ih

/-- The fields of a JSON object in another order make a similar operation. -/
theorem ofDraft_perm {depth : Nat} {fields fields' : List (Option String × Draft)} {closed : Bool}
    {o : Operation} (h : fields.Perm fields') (ho : ofDraft depth (.object fields closed) = .ok o) :
    ∃ o', ofDraft depth (.object fields' closed) = .ok o' ∧ Similar o o' := by
  rw [ofDraft] at ho ⊢
  by_cases hdepth : depth = 0
  · rw [if_pos hdepth] at ho
    cases ho
  rw [if_neg hdepth] at ho ⊢
  cases hr : readFields (depth - 1) [] [] .empty fields with
  | error e =>
    rw [hr] at ho
    cases ho
  | ok p =>
    obtain ⟨hfields, hp⟩ := readFields_eq_ok.1 hr
    obtain ⟨p', hp', hpp'⟩ := ofEntries_perm (h.filterMap _) hp
    rw [hr] at ho
    rw [readFields_eq_ok.2 ⟨fun f hf => hfields f (h.mem_iff.2 hf), hp'⟩]
    cases closed <;> cases ho
    exact ⟨p', rfl, hpp'⟩

end Operation

/-! ## YAML -/

namespace YamlReading

open Yaml

variable {α β : Type}

/-- Whenever the reading succeeds, it gives the same and follows the same number of aliases. -/
def Spending (x : YamlReading α) : Prop :=
  ∀ ⦃j : Nat⦄ ⦃a : α⦄ ⦃j' : Nat⦄, x j = some (a, j') →
    ∃ n, j = j' + n ∧ ∀ i, x (i + n) = some (a, i)

theorem bind_eq_some {x : YamlReading α} {f : α → YamlReading β} {j j' : Nat} {b : β} :
    (x >>= f) j = some (b, j') ↔ ∃ a i, x j = some (a, i) ∧ f a i = some (b, j') := by
  change (x j).bind (fun p => f p.1 p.2) = some (b, j') ↔ _
  rw [Option.bind_eq_some_iff, Prod.exists]

/-- What is read before does not matter if it is refused in the end. -/
theorem bind_refuse (x : YamlReading α) : (x >>= fun _ => (refuse : YamlReading β)) = refuse := by
  funext j
  change (x j).bind (fun _ => none) = none
  cases x j <;> rfl

namespace Spending

theorem pure (a : α) : Spending (Pure.pure a : YamlReading α) := by
  intro j b j' h
  cases h
  exact ⟨0, rfl, fun i => rfl⟩

theorem refuse : Spending (refuse : YamlReading α) :=
  fun _ _ _ h => nomatch h

theorem accept (a : Option α) : Spending (accept a) := by
  cases a with
  | none => exact refuse
  | some a => exact pure a

theorem bind {x : YamlReading α} {f : α → YamlReading β} (hx : Spending x)
    (hf : ∀ a, Spending (f a)) : Spending (x >>= f) := by
  intro j b j' h
  obtain ⟨a, i, hxj, hfi⟩ := bind_eq_some.1 h
  obtain ⟨m, rfl, hm⟩ := hx hxj
  obtain ⟨n, rfl, hn⟩ := hf a hfi
  refine ⟨n + m, Nat.add_assoc .., fun k => bind_eq_some.2 ⟨a, k + n, ?_, hn k⟩⟩
  rw [← Nat.add_assoc, hm]

theorem mapM {f : α → YamlReading β} {as : List α} (h : ∀ a ∈ as, Spending (f a)) :
    Spending (as.mapM f) := by
  induction as with
  | nil => exact pure []
  | cons a as ih =>
    rw [List.mapM_cons]
    exact bind (h a (by simp)) fun b =>
      bind (ih fun c hc => h c (List.mem_cons_of_mem _ hc)) fun bs => pure (b :: bs)

/-- An alias is followed once, whatever it is an alias of. -/
theorem follow (d : Document) (n : Node) : Spending (follow d n) := by
  match n with
  | .scalar _ _ | .sequence _ _ _ | .mapping _ _ _ => exact pure _
  | .alias anchor =>
    rintro (_ | j) m j' h
    · cases h
    · obtain ⟨m, hm, h⟩ := Option.map_eq_some_iff.1 h
      cases h
      exact ⟨1, rfl, fun i => Option.map_eq_some_iff.2 ⟨_, hm, rfl⟩⟩

theorem text (d : Document) (onlyTexts : Bool) (n : Node) : Spending (text d onlyTexts n) := by
  refine bind (follow d n) fun m => ?_
  split
  · split
    · split
      · exact pure _
      · exact refuse
    · exact pure _
  · exact refuse

theorem value (d : Document) (onlyTexts : Bool) (depth : Nat) (n : Node) :
    Spending (value d onlyTexts depth n) := by
  induction depth generalizing n with
  | zero =>
    refine bind (follow d n) fun m => ?_
    split
    · exact accept _
    · exact refuse
  | succ depth ih =>
    refine bind (follow d n) fun m => ?_
    split
    · exact accept _
    · split
      · exact refuse
      · exact bind (mapM fun a _ => ih a) fun _ => pure _
    · split
      · exact refuse
      · refine bind (mapM fun f _ => ?_) fun _ => pure _
        exact bind (text d onlyTexts f.1) fun _ => bind (ih f.2) fun _ => pure _
    · exact refuse

end Spending

theorem mapM_cons_eq_some {f : α → YamlReading β} {a : α} {as : List α} {j j' : Nat}
    {bs : List β} : (a :: as).mapM f j = some (bs, j') ↔
      ∃ b bs' i, bs = b :: bs' ∧ f a j = some (b, i) ∧ as.mapM f i = some (bs', j') := by
  rw [List.mapM_cons, bind_eq_some]
  constructor
  · rintro ⟨b, i, hb, h⟩
    obtain ⟨bs', i', hbs', hlast⟩ := bind_eq_some.1 h
    cases hlast
    exact ⟨b, bs', i, rfl, hb, hbs'⟩
  · rintro ⟨b, bs', i, rfl, hb, hbs'⟩
    exact ⟨b, i, hb, bind_eq_some.2 ⟨bs', j', hbs', rfl⟩⟩

/-- Readings may change places: each takes what the other one leaves. -/
theorem mapM_perm {f : α → YamlReading β} (hf : ∀ a, Spending (f a)) {as as' : List α}
    (h : as.Perm as') {j j' : Nat} {bs : List β} (hbs : as.mapM f j = some (bs, j')) :
    ∃ bs', as'.mapM f j = some (bs', j') ∧ bs.Perm bs' := by
  induction h generalizing j bs with
  | nil => exact ⟨bs, hbs, .refl bs⟩
  | cons a _ ih =>
    obtain ⟨b, bs, i, rfl, hb, hbs⟩ := mapM_cons_eq_some.1 hbs
    obtain ⟨bs', hbs', hperm⟩ := ih hbs
    exact ⟨b :: bs', mapM_cons_eq_some.2 ⟨b, bs', i, rfl, hb, hbs'⟩, hperm.cons b⟩
  | swap a a' as =>
    obtain ⟨b', _, i', rfl, hb', h⟩ := mapM_cons_eq_some.1 hbs
    obtain ⟨b, bs, i, rfl, hb, hrest⟩ := mapM_cons_eq_some.1 h
    obtain ⟨n', rfl, hn'⟩ := hf a' hb'
    obtain ⟨n, rfl, hn⟩ := hf a hb
    refine ⟨b :: b' :: bs, mapM_cons_eq_some.2 ⟨b, b' :: bs, i + n', rfl, ?_, ?_⟩, .swap b b' bs⟩
    · rw [Nat.add_right_comm, hn]
    · exact mapM_cons_eq_some.2 ⟨b', bs, i, rfl, hn' i, hrest⟩
  | trans _ _ ih₁ ih₂ =>
    obtain ⟨bs', hbs', hperm⟩ := ih₁ hbs
    obtain ⟨bs'', hbs'', hperm'⟩ := ih₂ hbs'
    exact ⟨bs'', hbs'', hperm.trans hperm'⟩

end YamlReading

/-- The parameters that a node is; none if it is a null. -/
def YamlReading.parameters (d : Yaml.Document) (depth : Nat) (n : Yaml.Node) :
    YamlReading (Option Value) := do
  match ← follow d n with
  | .scalar _ s => accept s.optionalValue?
  | n => return some (← value d false depth n)

/-- The setting that a field is. -/
def Entry.ofNode (d : Yaml.Document) (depth : Nat) (f : Yaml.Node × Yaml.Node) :
    YamlReading Entry := do
  let name ← text d false f.1
  match Operator.ofName? name with
  | none => return .unknown name (← value d true depth f.2)
  | some k => return .operator k (← parameters d depth f.2)

theorem Entry.spending_ofNode (d : Yaml.Document) (depth : Nat) (f : Yaml.Node × Yaml.Node) :
    Spending (Entry.ofNode d depth f) := by
  refine .bind (.text d false f.1) fun name => ?_
  split
  · exact .bind (.value d true depth f.2) fun _ => .pure _
  · refine .bind (.bind (.follow d f.2) fun n => ?_) fun _ => .pure _
    split
    · exact .accept _
    · exact .bind (.value d false depth _) fun _ => .pure _

namespace Operation

variable {d : Yaml.Document} {depth : Nat}

theorem readNodes_eq {seen : List Operator} {given : List (Operator × Value)}
    {unknown : Catalog Value} {fields : List (Yaml.Node × Yaml.Node)} :
    readNodes d depth seen given unknown fields = (do
      let es ← fields.mapM (Entry.ofNode d depth)
      accept (ofEntries seen given unknown es)) := by
  induction fields generalizing seen given unknown with
  | nil => rfl
  | cons f fields ih =>
    obtain ⟨k, n⟩ := f
    rw [readNodes, List.mapM_cons, Entry.ofNode]
    simp only [bind_assoc]
    congr 1
    funext name
    cases Operator.ofName? name with
    | none => simp [ih, ofEntries]
    | some k =>
      by_cases hs : seen.contains k
      · -- the operator is refused before its parameters are read
        have hnone (v : Option Value) (es : List Entry) :
            accept (ofEntries seen given unknown (.operator k v :: es)) = refuse := by
          rw [ofEntries, if_pos hs]
          rfl
        simp only [hs, bind_assoc, pure_bind, hnone, bind_refuse, if_true]
      · have hsome (v : Option Value) (es : List Entry) :
            ofEntries seen given unknown (.operator k v :: es) =
              ofEntries (k :: seen) ((v.map fun v => (k, v)).toList ++ given) unknown es := by
          rw [ofEntries, if_neg hs]
        simp only [hs, bind_assoc, pure_bind, ih, parameters, hsome]
        refine bind_congr fun m => ?_
        split
        · exact bind_congr fun v => by cases v <;> rfl
        · simp

theorem readNodes_perm {fields fields' : List (Yaml.Node × Yaml.Node)} {j j' : Nat} {o : Operation}
    (h : fields.Perm fields') (ho : readNodes d depth [] [] .empty fields j = some (o, j')) :
    ∃ o', readNodes d depth [] [] .empty fields' j = some (o', j') ∧ Similar o o' := by
  rw [readNodes_eq] at ho ⊢
  obtain ⟨es, i, hes, hlast⟩ := bind_eq_some.1 ho
  obtain ⟨p, hp, heq⟩ := Option.map_eq_some_iff.1 hlast
  cases heq
  obtain ⟨es', hes', hperm⟩ := mapM_perm (Entry.spending_ofNode d depth) h hes
  obtain ⟨o', ho', hoo'⟩ := ofEntries_perm hperm hp
  exact ⟨o', bind_eq_some.2 ⟨es', j', hes', Option.map_eq_some_iff.2 ⟨o', ho', rfl⟩⟩, hoo'⟩

/-- The fields of a YAML mapping in another order make a similar operation. -/
theorem ofNode_perm {anchor : Option Nat} {tag : Option String}
    {fields fields' : List (Yaml.Node × Yaml.Node)} {j j' : Nat} {o : Operation}
    (h : fields.Perm fields')
    (ho : ofNode d depth (.mapping anchor tag fields) j = some (o, j')) :
    ∃ o', ofNode d depth (.mapping anchor tag fields') j = some (o', j') ∧ Similar o o' := by
  cases depth with
  | zero => cases ho
  | succ depth => exact readNodes_perm h ho

end Operation

end Reshape
