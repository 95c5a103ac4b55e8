import Mathlib.Data.List.Basic
import Reshape.Proofs.Footprint
import Reshape.Proofs.Steps

/-!
# Jobs that do not meet

The footprint of a job is the set of collections that it mentions. A job that neither loads nor
saves reads and writes nothing else, so two of them whose footprints are disjoint can run in either
order.

* `Attempt.LocalTo`: what is done depends on the collections of some names only, and changes only
  those (`LocalTo.bind`, `LocalTo.mono`).
* `Attempt.LocalTo.comm`: what is local to disjoint sets of names can change places.
* `Job.footprint`, `Job.run_localTo`: a job is local to its footprint.
* `Job.run_comm`: two jobs with disjoint footprints.
-/

namespace Reshape

namespace Session

/-- The sessions hold the same in the collections of the names. -/
def AgreeOn (names : List String) (s t : Session) : Prop := s.store.AgreeOn names t.store

/-- The sessions differ at most in the collections of the names and in their logs. -/
def AgreeOff (names : List String) (s t : Session) : Prop :=
  (∀ n, n ∉ names → s.store.get? n = t.store.get? n) ∧ s.files = t.files

variable {names names' : List String} {s t u : Session}

theorem AgreeOff.trans (h : AgreeOff names s t) (h' : AgreeOff names t u) : AgreeOff names s u :=
  ⟨fun n hn => (h.1 n hn).trans (h'.1 n hn), h.2.trans h'.2⟩

theorem AgreeOff.mono (h : AgreeOff names s t) (hsub : names ⊆ names') : AgreeOff names' s t :=
  ⟨fun n hn => h.1 n fun hn' => hn (hsub hn'), h.2⟩

/-- What differs at most off some names agrees on the others. -/
theorem AgreeOff.agreeOn (h : AgreeOff names s t) (hd : names.Disjoint names') :
    AgreeOn names' s t :=
  fun n hn => h.1 n fun hn' => hd hn' hn

end Session

namespace Attempt

open Session

variable {ε α β : Type} {names names' : List String}

/-- What is done depends on the collections of the names only, and changes only those. -/
structure LocalTo (names : List String) (x : Attempt ε α) : Prop where
  reads : Alike (AgreeOn names) x x
  writes : ∀ s, AgreeOff names s (x s).2

namespace LocalTo

theorem pure (a : α) : LocalTo names (Pure.pure a : Attempt ε α) :=
  ⟨.pure a, fun _ => ⟨fun _ _ => rfl, rfl⟩⟩

theorem bind {x : Attempt ε α} {f : α → Attempt ε β} (hx : LocalTo names x)
    (hf : ∀ a, LocalTo names (f a)) : LocalTo names (x >>= f) := by
  refine ⟨.bind hx.reads fun a => (hf a).reads, fun s => ?_⟩
  have hs := hx.writes s
  rw [bind_apply]
  rcases hxs : x s with ⟨_ | a, t⟩ <;> rw [hxs] at hs
  · exact hs
  · exact hs.trans ((hf a).writes t)

theorem forM {f : β → Attempt ε Unit} {bs : List β} (h : ∀ b ∈ bs, LocalTo names (f b)) :
    LocalTo names (ForM.forM bs f) :=
  forM_induction (pure ()) (fun _ _ hx hy => bind hx fun _ => hy) h

theorem mono {x : Attempt ε α} (hx : LocalTo names x) (hsub : names ⊆ names') :
    LocalTo names' x := by
  refine ⟨fun s t h => ?_, fun s => (hx.writes s).mono hsub⟩
  obtain ⟨hr, hs⟩ := hx.reads s t (h.mono hsub)
  refine ⟨hr, fun n hn => ?_⟩
  by_cases hn' : n ∈ names
  · exact hs n hn'
  · rw [← (hx.writes s).1 n hn', h n hn, (hx.writes t).1 n hn']

/-- What differs in the log at most is local to the same names. -/
theorem of_alike {x y : Attempt ε α} (h : Alike Same x y) (hy : LocalTo names y) :
    LocalTo names x := by
  refine ⟨fun s t hst => ?_, fun s => ?_⟩
  · obtain ⟨hr, hs⟩ := h s s (.refl s)
    obtain ⟨hr', ht⟩ := h t t (.refl t)
    obtain ⟨hy, hst'⟩ := hy.reads s t hst
    refine ⟨hr.trans (hy.trans hr'.symm), fun n hn => ?_⟩
    rw [hs.1, ht.1, hst' n hn]
  · obtain ⟨-, hs⟩ := h s s (.refl s)
    obtain ⟨hw, hf⟩ := hy.writes s
    exact ⟨fun n hn => by rw [hs.1, hw n hn], by rw [hs.2, hf]⟩

/-- **What is local to disjoint sets of names can change places.** -/
theorem comm {x : Attempt ε α} {y : Attempt ε β} (hx : LocalTo names x) (hy : LocalTo names' y)
    (hd : names.Disjoint names') {s t u : Session} {a : α} {b : β} (ha : x s = (.ok a, t))
    (hb : y t = (.ok b, u)) :
    ∃ t' u', y s = (.ok b, t') ∧ x t' = (.ok a, u') ∧ u'.Same u := by
  have hst : AgreeOff names s t := by simpa only [ha] using hx.writes s
  have htu : AgreeOff names' t u := by simpa only [hb] using hy.writes t
  -- `y` finds what it reads as it was before `x`
  obtain ⟨hyr, hyt⟩ := hy.reads s t (hst.agreeOn hd)
  rcases hys : y s with ⟨r, t'⟩
  rw [hys, hb] at hyr hyt
  cases hyr
  have hst' : AgreeOff names' s t' := by simpa only [hys] using hy.writes s
  -- and `x` finds what it reads as `y` left it
  obtain ⟨hxr, hxs⟩ := hx.reads s t' (hst'.agreeOn (List.disjoint_symm hd))
  rcases hxt : x t' with ⟨r, u'⟩
  rw [hxt, ha] at hxr hxs
  cases hxr
  have htu' : AgreeOff names t' u' := by simpa only [hxt] using hx.writes t'
  refine ⟨t', u', rfl, hxt, Catalog.ext_get? fun n => ?_, ?_⟩
  · by_cases hn : n ∈ names
    · rw [← hxs n hn, htu.1 n (hd hn)]
    · rw [← htu'.1 n hn]
      by_cases hn' : n ∈ names'
      · exact hyt n hn'
      · rw [← hst'.1 n hn', hst.1 n hn, htu.1 n hn']
  · rw [← htu'.2, ← hst'.2, hst.2, htu.2]

end LocalTo

end Attempt

/-! ## Operators -/

namespace Change

theorem store_agreeOn (c : Change) {names : List String} {s t : Store} (h : s.AgreeOn names t) :
    (c.store s).AgreeOn names (c.store t) := by
  intro n hn
  rw [store, store]
  cases c.written with
  | none => exact h n hn
  | some w => simp only [Catalog.get?_insert, h n hn]

theorem get?_store_of_notMem {c : Change} {names : List String}
    (h : ∀ name records, c.written = some (name, records) → name ∈ names) (s : Store) {n : String}
    (hn : n ∉ names) : (c.store s).get? n = s.get? n := by
  rw [store]
  cases hw : c.written with
  | none => rfl
  | some w =>
    refine Catalog.get?_insert_of_ne ?_ s w.2
    rintro rfl
    exact hn (h w.1 w.2 hw)

end Change

/-- An operator without files is local to the collection of its job and those it mentions. -/
theorem Operator.run_localTo {o : Operator} (ho : o.IsInternal) (setting : Setting) (job : String)
    (raw : Value) : Attempt.LocalTo (job :: o.mentions raw) (o.run setting job raw) := by
  have hfiles := filesAfter_of_ne_save ho.2 setting job raw
  refine ⟨fun s t h => ?_, fun s => ?_⟩
  · rw [run_eq, run_eq, change_of_agreeOn ho h]
    cases hc : o.change setting job raw t with
    | error e => exact ⟨rfl, h⟩
    | ok c => exact ⟨rfl, c.store_agreeOn h⟩
  · rw [run_eq, hfiles]
    cases hc : o.change setting job raw s with
    | error e => exact ⟨fun _ _ => rfl, rfl⟩
    | ok c =>
      refine ⟨fun n hn => (Change.get?_store_of_notMem ?_ s.store hn).symm, rfl⟩
      exact fun name records hw => mem_of_written hc hw

/-! ## Jobs -/

namespace Job

/-- The collections that a job mentions: its own one, and those that the parameters of its
operators name. -/
def footprint (j : Job) : List String :=
  j.name :: j.steps.flatMap fun p => p.operator.mentions p.raw

/-- Whether the job neither loads nor saves. -/
def IsInternal (j : Job) : Prop := ∀ o ∈ j.operations, ∀ k ∈ o.operators, k.IsInternal

instance : DecidablePred IsInternal := fun j =>
  inferInstanceAs (Decidable (∀ o ∈ j.operations, ∀ k ∈ o.operators, k.IsInternal))

theorem IsInternal.step {j : Job} (hj : j.IsInternal) {p : Step} (hp : p ∈ j.steps) :
    p.job = j.name ∧ p.operator.IsInternal := by
  obtain ⟨o, ho, hp⟩ := List.mem_flatMap.1 hp
  obtain ⟨k, hk, hp⟩ := List.mem_filterMap.1 hp
  obtain ⟨raw, hraw, rfl⟩ := Option.map_eq_some_iff.1 hp
  exact ⟨rfl, hj o ho k (List.mem_filter.2 ⟨hk, by rw [hraw]; rfl⟩)⟩

/-- A job that neither loads nor saves is local to its footprint. -/
theorem run_localTo {j : Job} (hj : j.IsInternal) (setting : Setting) :
    Attempt.LocalTo j.footprint (j.run setting) := by
  refine .of_alike (j.run_alike setting) (.bind (.forM fun p hp => ?_) fun _ => .pure _)
  obtain ⟨hjob, hp'⟩ := hj.step hp
  refine (Operator.run_localTo hp' setting p.job p.raw).mono ?_
  rw [hjob]
  exact List.cons_subset_cons _ fun n hn => List.mem_flatMap.2 ⟨p, hp, hn⟩

/-- **Jobs that do not meet commute.** If two jobs neither load nor save and no collection is in
both of their footprints, then they are finished in one order if they are in the other, with the
same numbers of operators, and leave the same store. -/
theorem run_comm : ∀ (setting : Setting) (j k : Job), j.IsInternal → k.IsInternal →
    j.footprint.Disjoint k.footprint → ∀ (s u : Session) (m n : Nat),
      (∃ t t', j.run setting s = (.ok m, t) ∧ k.run setting t = (.ok n, t') ∧ t'.Same u) ↔
        ∃ t t', k.run setting s = (.ok n, t) ∧ j.run setting t = (.ok m, t') ∧ t'.Same u := by
  intro setting j k hj hk hd s u m n
  have hj' := run_localTo hj setting
  have hk' := run_localTo hk setting
  constructor
  · rintro ⟨t, t', hm, hn, hu⟩
    obtain ⟨v, v', hn', hm', hv⟩ := hj'.comm hk' hd hm hn
    exact ⟨v, v', hn', hm', hv.trans hu⟩
  · rintro ⟨t, t', hn, hm, hu⟩
    obtain ⟨v, v', hm', hn', hv⟩ := hk'.comm hj' (List.disjoint_symm hd) hn hm
    exact ⟨v, v', hm', hn', hv.trans hu⟩

/-- A job that copies its records. -/
def copyOfA : Job := ⟨"a", [.single .copyTo (.string "b")]⟩

/-- A job that keeps the fields that another collection lists. -/
def fieldsOfC : Job := ⟨"c", [.single .filterFields (.object [("include", .string "d")])]⟩

/-- The collections of the two jobs, and the list of fields. -/
def collectionsACD : Session :=
  ⟨.ofList [("a", [.object [("k", .string "x")]]),
    ("c", [.object [("k", .string "y"), ("v", .null)]]), ("d", [.string "k"])], default, []⟩

theorem run_comm_copyOfA_fieldsOfC :
    ∃ t t' u u', copyOfA.run ⟨none, .empty⟩ collectionsACD = (.ok 1, t) ∧
      fieldsOfC.run ⟨none, .empty⟩ t = (.ok 1, t') ∧
      t'.store.get? "b" = some [.object [("k", .string "x")]] ∧
      t'.store.get? "c" = some [.object [("k", .string "y")]] ∧
      fieldsOfC.run ⟨none, .empty⟩ collectionsACD = (.ok 1, u) ∧
      copyOfA.run ⟨none, .empty⟩ u = (.ok 1, u') ∧ u'.Same t' := by
  have hd : ∀ n ∈ copyOfA.footprint, n ∉ fieldsOfC.footprint := by decide
  obtain ⟨t, ht⟩ : ∃ t, copyOfA.run ⟨none, .empty⟩ collectionsACD = (.ok 1, t) := ⟨_, rfl⟩
  obtain ⟨t', ht'⟩ : ∃ t', fieldsOfC.run ⟨none, .empty⟩ t = (.ok 1, t') := by
    cases ht
    exact ⟨_, rfl⟩
  obtain ⟨u, u', hu, hu', hsame⟩ := (run_comm ⟨none, .empty⟩ copyOfA fieldsOfC (by decide)
    (by decide) (fun n hn => hd n hn) collectionsACD t' 1 1).1 ⟨t, t', ht, ht', .refl t'⟩
  refine ⟨t, t', u, u', ht, ht', ?_, ?_, hu, hu', hsame⟩ <;> cases ht <;> cases ht' <;> rfl

end Job

end Reshape
