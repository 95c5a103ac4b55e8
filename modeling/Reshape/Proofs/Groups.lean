import Mathlib.Algebra.Ring.Nat
import Mathlib.Data.List.Forall2
import Reshape.Proofs.Joining

/-!
# Groups of keys

The keys of a collection come one after another, each with a value. A key either joins the group of
its label or, as the first one of its label, makes a group at the end. What has become of the groups
is told by the pairs alone: one group for each label, made of the pairs that have it.

* `Grouping.labels`, `Grouping.labelled`, `Grouping.gathered`: the labels in order of first
  appearance, the pairs of a label and the group that these make.
* `Grouping.groups_eq`: the groups are the gathered ones.
* `Grouping.sum_length_groups`: each pair is in one group.
* `Grouping.Split`, `Split.contributions_eq`: a record with several keys counts like several
  records.
* `Grouping.run_groups_exactly`: the operator.
-/

namespace Reshape.Grouping

variable {pairs : List (Value × Value)} {p : Value × Value} {name : String}

/-! ## Labels -/

/-- The labels of the keys, in order of first appearance. -/
def labels (pairs : List (Value × Value)) : List String :=
  (pairs.map fun p => label p.1).eraseDups

/-- The pairs whose keys have the label. -/
def labelled (name : String) (pairs : List (Value × Value)) : List (Value × Value) :=
  pairs.filter fun p => label p.1 = name

theorem mem_labels : name ∈ labels pairs ↔ ∃ p ∈ pairs, label p.1 = name := by
  rw [labels, List.mem_eraseDups, List.mem_map]

theorem labels_concat (pairs : List (Value × Value)) (p : Value × Value) :
    labels (pairs ++ [p]) =
      if label p.1 ∈ labels pairs then labels pairs else labels pairs ++ [label p.1] := by
  rw [labels, List.map_append, List.map_singleton, List.eraseDups_append, ← labels,
    List.removeAll, List.filter_singleton]
  by_cases h : label p.1 ∈ labels pairs
  · have hmem : label p.1 ∈ pairs.map fun p => label p.1 := List.mem_eraseDups.1 h
    rw [if_pos h]
    simp [hmem]
  · have hmem : label p.1 ∉ pairs.map fun p => label p.1 := fun hm => h (List.mem_eraseDups.2 hm)
    rw [if_neg h]
    simp [hmem, List.eraseDups_cons]

theorem nodup_labels (pairs : List (Value × Value)) : (labels pairs).Nodup := by
  induction pairs using List.reverseRecOn with
  | nil => exact List.nodup_nil
  | append_singleton pairs p ih =>
    rw [labels_concat]
    split
    · exact ih
    · rename_i h
      exact List.concat_eq_append ▸ ih.concat h

theorem labelled_concat_of_eq (h : label p.1 = name) :
    labelled name (pairs ++ [p]) = labelled name pairs ++ [p] := by
  rw [labelled, List.filter_append, ← labelled, List.filter_singleton, h]
  simp

theorem labelled_concat_of_ne (h : label p.1 ≠ name) :
    labelled name (pairs ++ [p]) = labelled name pairs := by
  rw [labelled, List.filter_append, ← labelled, List.filter_singleton]
  simp [h]

theorem labelled_eq_nil_iff : labelled name pairs = [] ↔ name ∉ labels pairs := by
  rw [labelled, List.filter_eq_nil_iff, mem_labels]
  simp

/-! ## Groups -/

/-- The group of the pairs that have a label. -/
def gathered (pairs : List (Value × Value)) (name : String) : Group where
  label := name
  key := ((labelled name pairs).head?.map (·.1)).getD .null
  values := (labelled name pairs).map (·.2)

theorem gathered_concat_of_eq (h : label p.1 = name) (hmem : name ∈ labels pairs) :
    gathered (pairs ++ [p]) name =
      { gathered pairs name with values := (gathered pairs name).values ++ [p.2] } := by
  obtain ⟨first, rest, hlabelled⟩ :=
    List.exists_cons_of_ne_nil (mt labelled_eq_nil_iff.1 (not_not_intro hmem))
  rw [gathered, gathered, labelled_concat_of_eq h, hlabelled, List.map_append]
  rfl

theorem gathered_concat_of_new (h : label p.1 ∉ labels pairs) :
    gathered (pairs ++ [p]) (label p.1) = ⟨label p.1, p.1, [p.2]⟩ := by
  rw [gathered, labelled_concat_of_eq rfl, labelled_eq_nil_iff.2 h]
  rfl

theorem gathered_concat_of_ne (h : label p.1 ≠ name) :
    gathered (pairs ++ [p]) name = gathered pairs name := by
  rw [gathered, gathered, labelled_concat_of_ne h]

/-- A key with a new label makes a group at the end. -/
theorem add_of_notMem {gs : List Group} (h : name ∉ gs.map Group.label) (key value : Value) :
    add name key value gs = gs ++ [⟨name, key, [value]⟩] := by
  induction gs with
  | nil => rfl
  | cons g gs ih =>
    rw [List.map_cons, List.mem_cons, not_or] at h
    rw [add, if_neg (Ne.symm h.1), ih h.2, List.cons_append]

/-- A key whose label is there adds its value to the group of that label. -/
theorem add_of_mem {gs : List Group} (hgs : (gs.map Group.label).Nodup)
    (h : name ∈ gs.map Group.label) (key value : Value) :
    add name key value gs =
      gs.map fun g => if g.label = name then { g with values := g.values ++ [value] } else g := by
  induction gs with
  | nil => cases h
  | cons g gs ih =>
    obtain ⟨hg, hgs⟩ := List.nodup_cons.1 hgs
    rw [add, List.map_cons]
    by_cases hname : g.label = name
    · -- the other groups have other labels
      have hrest : ∀ g' ∈ gs, g'.label ≠ name := fun g' hg' he =>
        hg (List.mem_map.2 ⟨g', hg', he.trans hname.symm⟩)
      rw [if_pos hname, if_pos hname]
      refine congrArg _ ((List.map_id gs).symm.trans (List.map_congr_left fun g' hg' => ?_))
      rw [if_neg (hrest g' hg'), id_eq]
    · rw [if_neg hname, if_neg hname, ih hgs ((List.mem_cons.1 h).resolve_left (Ne.symm hname))]

theorem groups_concat (pairs : List (Value × Value)) (p : Value × Value) :
    groups (pairs ++ [p]) = add (label p.1) p.1 p.2 (groups pairs) :=
  List.foldl_concat ..

/-- There is one group for each label, made of the pairs that have it. -/
theorem groups_eq (pairs : List (Value × Value)) :
    groups pairs = (labels pairs).map (gathered pairs) := by
  induction pairs using List.reverseRecOn with
  | nil => rfl
  | append_singleton pairs p ih =>
    have hlabels : ((labels pairs).map (gathered pairs)).map Group.label = labels pairs := by
      rw [List.map_map]
      exact List.map_id _
    rw [groups_concat, ih, labels_concat]
    by_cases h : label p.1 ∈ labels pairs
    · rw [if_pos h, add_of_mem (by rw [hlabels]; exact nodup_labels pairs) (by rwa [hlabels]),
        List.map_map]
      refine List.map_congr_left fun name hname => ?_
      by_cases hp : name = label p.1
      · rw [Function.comp_apply, gathered_concat_of_eq hp.symm hname]
        exact if_pos hp
      · rw [Function.comp_apply, gathered_concat_of_ne (Ne.symm hp)]
        exact if_neg hp
    · rw [if_neg h, add_of_notMem (by rwa [hlabels]), List.map_append, List.map_singleton,
        gathered_concat_of_new h]
      congr 1
      refine List.map_congr_left fun name hname => ?_
      have hp : label p.1 ≠ name := fun he => h (he ▸ hname)
      exact (gathered_concat_of_ne hp).symm

theorem sum_length_add (name : String) (key value : Value) (gs : List Group) :
    ((add name key value gs).map fun g => g.values.length).sum =
      (gs.map fun g => g.values.length).sum + 1 := by
  induction gs with
  | nil => rfl
  | cons g gs ih =>
    rw [add]
    split
    · simp only [List.map_cons, List.sum_cons, List.length_append, List.length_singleton]
      omega
    · simp only [List.map_cons, List.sum_cons, ih]
      omega

/-- Each pair is in one group. -/
theorem sum_length_groups (pairs : List (Value × Value)) :
    ((groups pairs).map fun g => g.values.length).sum = pairs.length := by
  induction pairs using List.reverseRecOn with
  | nil => rfl
  | append_singleton pairs p ih =>
    rw [groups_concat, sum_length_add, ih, List.length_append, List.length_singleton]

/-! ## Records with several keys -/

variable {aggregated aggregation : String}

/-- One record with an array of keys is replaced by one record for each of these, which are no
arrays themselves. -/
inductive Split (aggregation : String) : Collection → Collection → Prop
  | intro (before after : Collection) {r : Record} {items : List Value}
    (hget : r.get? aggregation = some (.array items)) (hitems : ∀ k ∈ items, k.items? = none) :
    Split aggregation (before ++ .object r :: after)
      (before ++ items.map (fun k => .object (r.insert aggregation k)) ++ after)

theorem keys_of_items? {k : Value} (h : k.items? = none) : keys k = [k] := by
  cases k with
  | array items => cases h
  | _ => rfl

theorem contribution_insert (hne : aggregated ≠ aggregation) (r : Record) {k : Value}
    (hk : k.items? = none) :
    contribution aggregated aggregation (.object (r.insert aggregation k)) =
      [(k, (r.get? aggregated).getD .null)] := by
  have hkey : (Value.object (r.insert aggregation k)).field? aggregation = some k :=
    (Record.get?_insert ..).trans (if_pos rfl)
  have hvalue : (Value.object (r.insert aggregation k)).field? aggregated = r.get? aggregated :=
    (Record.get?_insert ..).trans (if_neg hne)
  rw [contribution, hkey, hvalue]
  dsimp only
  rw [keys_of_items? hk, List.map_singleton]

/-- The keys of one record count like those of several records. -/
theorem Split.contributions_eq (hne : aggregated ≠ aggregation) {c c' : Collection}
    (h : Split aggregation c c') :
    contributions aggregated aggregation c' = contributions aggregated aggregation c := by
  cases h with
  | intro before after hget hitems =>
    rename_i r items
    have hone : contribution aggregated aggregation (.object r) =
        items.map fun k => (k, (r.get? aggregated).getD .null) := by
      have hkey : (Value.object r).field? aggregation = some (.array items) := hget
      rw [contribution, hkey]
      rfl
    have hmany : contributions aggregated aggregation
        (items.map fun k => .object (r.insert aggregation k)) =
          items.map fun k => (k, (r.get? aggregated).getD .null) := by
      rw [contributions, List.flatMap_map, List.flatMap_congr fun k hk =>
        contribution_insert hne r (hitems k hk)]
      exact List.flatMap_pure_eq_map _ _
    rw [contributions] at hmany
    rw [contributions, contributions, List.flatMap_append, List.flatMap_append, hmany,
      List.flatMap_append, List.flatMap_cons, hone, List.append_assoc]

/-! ## The operator -/

/-- The parameters ask for the values of one field by those of another one, in a collection of the
given name if there is one. -/
def Asks (raw : Value) (name : Option String) (aggregated aggregation : String) : Prop :=
  ∃ params, Shape.readRecord struct raw = .ok params ∧ params.text? "name" = name ∧
    params.text? "aggregatedField" = some aggregated ∧
    params.text? "aggregationField" = some aggregation

variable {raw : Value} {target : Option String} {job : String} {s : Session} {c : Collection}

/-- What the parameters ask for is done if the collection is there. -/
theorem run_of_asks (hasks : Asks raw target aggregated aggregation)
    (hc : s.store.get? job = some c) (setting : Setting) :
    ∃ log, Operator.aggregate.run setting job raw s =
      (.ok (), ⟨s.store.insert (target.getD job) (group aggregated aggregation c), s.files,
        log⟩) := by
  obtain ⟨params, hparams, rfl, haggregated, haggregation⟩ := hasks
  have hrecords : records s.store job raw = .ok ((params.text? "name").getD job,
      group aggregated aggregation c, warnings job aggregation c) :=
    bind_eq_ok.2 ⟨params, Operator.readWith_eq_ok.2 hparams,
      bind_eq_ok.2 ⟨aggregated, Record.required_eq_ok.2 haggregated,
        bind_eq_ok.2 ⟨aggregation, Record.required_eq_ok.2 haggregation,
          bind_eq_ok.2 ⟨c, Store.find_eq_ok.2 hc, rfl⟩⟩⟩⟩
  rw [Operator.run_eq, Operator.filesAfter_of_ne_save (by decide), Operator.change, hrecords]
  exact ⟨_, rfl⟩

/-- The record of a group has the key and, in the other field, the values. -/
theorem toValue_eq (hne : aggregated ≠ aggregation) (g : Group) :
    g.toValue aggregated aggregation =
      .object [(aggregation, g.key), (aggregated, .array g.values)] := by
  rw [Group.toValue, Record.insert, if_neg hne.symm]
  rfl

/-- How many values the record of a group has. -/
def size (aggregated : String) (v : Value) : Nat :=
  (((v.field? aggregated).bind Value.items?).getD []).length

theorem size_toValue (hne : aggregated ≠ aggregation) (g : Group) :
    size aggregated (g.toValue aggregated aggregation) = g.values.length := by
  have hget : (Value.object [(aggregation, g.key), (aggregated, .array g.values)]).field?
      aggregated = some (.array g.values) := by
    change Record.get? _ aggregated = _
    rw [Record.get?_cons, if_neg hne, Record.get?_cons, if_pos rfl]
  rw [size, toValue_eq hne, hget]
  rfl

/-- **Values are grouped exactly**: there is one record for each label, in order of first
appearance, with the first key of that label and the values of all its keys. Each value is in one
group, and a record with several keys counts like several records. -/
theorem run_groups_exactly : ∀ (setting : Setting) (job : String) (raw : Value)
    (target : Option String) (aggregated aggregation : String) (s : Session) (c : Collection),
    Asks raw target aggregated aggregation → aggregated ≠ aggregation →
    s.store.get? job = some c →
    let pairs := contributions aggregated aggregation c
    ∃ d log, Operator.aggregate.run setting job raw s =
        (.ok (), ⟨s.store.insert (target.getD job) d, s.files, log⟩) ∧
      List.Forall₂ (fun name v => ∃ first rest, labelled name pairs = first :: rest ∧
        v = .object [(aggregation, first.1), (aggregated, .array ((first :: rest).map (·.2)))])
        (labels pairs) d ∧
      (d.map (size aggregated)).sum = pairs.length ∧
      ∀ c', Split aggregation c c' → ∃ log,
        Operator.aggregate.run setting job raw { s with store := s.store.insert job c' } =
          (.ok (), ⟨(s.store.insert job c').insert (target.getD job) d, s.files, log⟩) := by
  intro setting job raw target aggregated aggregation s c hasks hne hc pairs
  obtain ⟨log, hrun⟩ := run_of_asks hasks hc setting
  refine ⟨_, log, hrun, ?_, ?_, fun c' hsplit => ?_⟩
  · rw [group, groups_eq, List.map_map, List.forall₂_map_right_iff, List.forall₂_same]
    intro name hname
    obtain ⟨first, rest, hlabelled⟩ :=
      List.exists_cons_of_ne_nil (mt labelled_eq_nil_iff.1 (not_not_intro hname))
    refine ⟨first, rest, hlabelled, ?_⟩
    rw [Function.comp_apply, toValue_eq hne, gathered, hlabelled]
    rfl
  · have hsize : ((groups pairs).map fun g => size aggregated (g.toValue aggregated aggregation)) =
        (groups pairs).map fun g => g.values.length :=
      List.map_congr_left fun g _ => size_toValue hne g
    rw [group, List.map_map]
    exact (congrArg List.sum hsize).trans (sum_length_groups pairs)
  · have hgroup : group aggregated aggregation c' = group aggregated aggregation c := by
      rw [group, group, hsplit.contributions_eq hne]
    rw [← hgroup]
    exact run_of_asks hasks (Catalog.get?_insert_self ..) setting

/-- One person in a group, one in two, one in none and one without a name. -/
def people : Collection :=
  [.object [("group", .string "a"), ("name", .string "Alex")],
    .object [("group", .array [.string "b", .string "a"]), ("name", .string "Kim")],
    .object [("name", .string "Pat")], .object [("group", .string "a")]]

/-- The same people, of whom the one in two groups is listed twice. -/
def peopleByGroup : Collection :=
  [.object [("group", .string "a"), ("name", .string "Alex")],
    .object [("group", .string "b"), ("name", .string "Kim")],
    .object [("group", .string "a"), ("name", .string "Kim")],
    .object [("name", .string "Pat")], .object [("group", .string "a")]]

/-- The names of the people by groups, with null for the one that has no name. -/
theorem run_groups_exactly_people :
    let setting : Setting := ⟨none, .empty⟩
    let raw : Value :=
      .object [("aggregatedField", .string "name"), ("aggregationField", .string "group")]
    let store : Store := Catalog.empty.insert "people" people
    let d : Collection :=
      [.object [("group", .string "a"), ("name", .array [.string "Alex", .string "Kim", .null])],
        .object [("group", .string "b"), ("name", .array [.string "Kim"])]]
    Asks raw none "name" "group" ∧ Split "group" people peopleByGroup ∧
      (∃ log, Operator.aggregate.run setting "people" raw ⟨store, default, []⟩ =
        (.ok (), ⟨store.insert "people" d, default, log⟩)) ∧
      ∃ log, Operator.aggregate.run setting "people" raw
          ⟨store.insert "people" peopleByGroup, default, []⟩ =
        (.ok (), ⟨(store.insert "people" peopleByGroup).insert "people" d, default, log⟩) := by
  intro setting raw store d
  have hasks : Asks raw none "name" "group" := ⟨_, rfl, rfl, rfl, rfl⟩
  have hitems : ∀ k ∈ [Value.string "b", .string "a"], k.items? = none := by decide
  have hsplit : Split "group" people peopleByGroup :=
    .intro [.object [("group", .string "a"), ("name", .string "Alex")]]
      [.object [("name", .string "Pat")], .object [("group", .string "a")]] rfl hitems
  have hlabels : labels (contributions "name" "group" people) = ["\"a\"", "\"b\""] := by
    decide +kernel
  have ha : labelled "\"a\"" (contributions "name" "group" people) =
      [(.string "a", .string "Alex"), (.string "a", .string "Kim"), (.string "a", .null)] := by
    decide +kernel
  have hb : labelled "\"b\"" (contributions "name" "group" people) =
      [(.string "b", .string "Kim")] := by
    decide +kernel
  obtain ⟨e, log, hrun, hgroups, -, hmany⟩ := run_groups_exactly setting "people" raw none "name"
    "group" ⟨store, default, []⟩ people hasks (by decide) rfl
  rw [hlabels] at hgroups
  obtain _ | ⟨⟨first, rest, hfirst, rfl⟩, _ | ⟨⟨first', rest', hfirst', rfl⟩, _ | _⟩⟩ := hgroups
  cases ha.symm.trans hfirst
  cases hb.symm.trans hfirst'
  exact ⟨hasks, hsplit, ⟨log, hrun⟩, hmany peopleByGroup hsplit⟩

end Reshape.Grouping
