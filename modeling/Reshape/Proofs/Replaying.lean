import Mathlib.Tactic.SplitIfs
import Reshape.Reference
import Reshape.Text.Utf

/-!
# Stores after a sequence of calls

Whatever calls are made, what a name stands for afterwards is what the calls on that name alone make
of what it stood for before. So it does not matter how the calls on different names come between
each other. The names are listed in the order of their bytes.

* `Text.bytes_lt_of_lt`: the order of code points is that of the bytes in UTF-8.
* `Store.Call`, `Store.after`: the calls that change a store, and the store after one of them.
* `Store.Call.replay`: what a call makes of the collection of its name.
* `Store.get?_after_self`, `Store.get?_after_of_ne`: one call. `Store.get?_foldl_after`: any
  sequence of calls.
* `Store.calls_replay`: this, and what is looked up and listed.
-/

namespace Reshape

/-! ## The order of texts -/

namespace Text

theorem bytes_eq_flatMap (s : String) : bytes s = s.toList.flatMap String.utf8EncodeChar := by
  have h : s.toByteArray = s.toList.utf8Encode := String.utf8Encode_toList.symm
  rw [bytes, String.toUTF8, h]
  exact List.toList_data_toByteArray

/-- The first byte in which two characters differ tells their order. -/
theorem utf8EncodeChar_append_lt {c d : Char} (h : c < d) (rest rest' : List UInt8) :
    String.utf8EncodeChar c ++ rest < String.utf8EncodeChar d ++ rest' := by
  have hlt : c.val.toNat < d.val.toNat := h
  have hd : d.val.toNat < 0x110000 := by
    rcases d.valid with hd | hd <;> omega
  -- the bytes after the first one are digits to the base 64
  have hsquare (n : Nat) : n / 4096 = n / 64 / 64 := by omega
  have hcube (n : Nat) : n / 262144 = n / 64 / 64 / 64 := by omega
  simp only [String.utf8EncodeChar]
  -- the first one tells how many there are
  split_ifs <;> simp (disch := omega) only [List.cons_append, List.nil_append,
    List.cons_lt_cons_iff, UInt8.lt_iff_toNat_lt, ← UInt8.toNat_inj, UInt8.toNat_ofNat',
    Nat.mod_eq_of_lt, hsquare, hcube] <;> omega

theorem flatMap_utf8EncodeChar_lt {cs ds : List Char} (h : cs < ds) :
    cs.flatMap String.utf8EncodeChar < ds.flatMap String.utf8EncodeChar := by
  induction h with
  | @nil d ds =>
    obtain ⟨b, bs, hb⟩ := List.exists_cons_of_ne_nil (String.utf8EncodeChar_ne_nil (c := d))
    rw [List.flatMap_nil, List.flatMap_cons, hb]
    exact List.nil_lt_cons ..
  | rel h => exact utf8EncodeChar_append_lt h ..
  | cons _ ih => exact List.append_left_lt ih

/-- **The order of code points is that of the bytes.** -/
theorem bytes_lt_of_lt {s t : String} (h : s < t) : bytes s < bytes t := by
  rw [bytes_eq_flatMap, bytes_eq_flatMap]
  exact flatMap_utf8EncodeChar_lt (String.lt_iff.1 h)

end Text

namespace Catalog

variable {α : Type} {c : Catalog α} {n : String}

theorem contains_iff : c.contains n = true ↔ ∃ a, c.get? n = some a := Option.isSome_iff_exists

theorem mem_names_iff : n ∈ c.names ↔ ∃ a, c.get? n = some a := by
  rw [← contains_iff, contains, get?, List.lookup_isSome_iff, names, List.mem_map]
  exact exists_congr fun e => and_congr_right fun _ => by rw [beq_iff_eq, eq_comm]

end Catalog

namespace Store

/-! ## Calls -/

/-- A call that changes a store. -/
inductive Call
  | set (name : String) (c : Collection)
  | append (name : String) (values : Collection)
  | remove (name : String)
  /-- Changes a collection that is there. -/
  | modify (name : String) (f : Collection → Collection)

namespace Call

/-- The name that the call is on. -/
def name : Call → String
  | .set name _ | .append name _ | .remove name | .modify name _ => name

/-- The store that the call makes, or the error. -/
def run (s : Store) : Call → Except Cause Store
  | .set name c => .ok (s.insert name c)
  | .append name values => .ok (s.append name values)
  | .remove name => .ok (s.erase name)
  | .modify name f => match s.modify? name f with
    | some t => .ok t
    | none => .error (.missingCollection name)

/-- What the call makes of the collection of its name, if there is one. -/
def replay (c : Option Collection) : Call → Option Collection
  | .set _ c' => some c'
  | .append _ values => some (c.getD [] ++ values)
  | .remove _ => none
  | .modify _ f => c.map f

end Call

/-- The store after a call. If it fails, the store is as it was. -/
def after (s : Store) (call : Call) : Store := (call.run s).toOption.getD s

variable {call : Call}

/-- Only a change of a collection that is not there fails. -/
theorem run_eq_error_iff {s : Store} {e : Cause} : call.run s = .error e ↔
    (∃ f, call = .modify call.name f) ∧ s.get? call.name = none ∧
      e = .missingCollection call.name := by
  cases call with
  | modify name f =>
    rw [Call.run, modify?, Call.name]
    cases s.get? name <;> simp [eq_comm]
  | _ => simp [Call.run]

theorem get?_after_self (s : Store) (call : Call) :
    (s.after call).get? call.name = call.replay (s.get? call.name) := by
  cases call with
  | set name c => exact Catalog.get?_insert_self ..
  | append name values => exact Catalog.get?_insert_self ..
  | remove name => exact (Catalog.get?_erase ..).trans (if_pos rfl)
  | modify name f =>
    rw [after, Call.run, modify?, Call.name, Call.replay]
    cases h : s.get? name with
    | none => exact h
    | some c => exact Catalog.get?_insert_self ..

theorem get?_after_of_ne {n : String} (h : n ≠ call.name) (s : Store) :
    (s.after call).get? n = s.get? n := by
  cases call with
  | set name c => exact Catalog.get?_insert_of_ne h ..
  | append name values => exact Catalog.get?_insert_of_ne h ..
  | remove name => exact (Catalog.get?_erase ..).trans (if_neg h)
  | modify name f =>
    rw [after, Call.run, modify?]
    cases s.get? name with
    | none => rfl
    | some c => exact Catalog.get?_insert_of_ne h ..

/-- What a name stands for in the end is what the calls on it make of what it stood for. -/
theorem get?_foldl_after (s : Store) (calls : List Call) (n : String) :
    (calls.foldl after s).get? n =
      (calls.filter (·.name = n)).foldl Call.replay (s.get? n) := by
  induction calls generalizing s with
  | nil => rfl
  | cons call calls ih =>
    rw [List.foldl_cons, ih, List.filter_cons]
    by_cases hn : call.name = n
    · subst hn
      rw [get?_after_self, if_pos (decide_eq_true rfl), List.foldl_cons]
    · rw [get?_after_of_ne (Ne.symm hn), if_neg (by simpa using hn)]

/-- The calls may come between each other in another way, if those on each name keep their order. -/
theorem foldl_after_congr {calls calls' : List Call}
    (h : ∀ n, calls'.filter (·.name = n) = calls.filter (·.name = n)) (s : Store) :
    calls'.foldl after s = calls.foldl after s :=
  Catalog.ext_get? fun n => by rw [get?_foldl_after, get?_foldl_after, h]

theorem after_comm {a b : Call} (h : a.name ≠ b.name) (s : Store) :
    (s.after b).after a = (s.after a).after b := by
  have hsame (n : String) : [b, a].filter (·.name = n) = [a, b].filter (·.name = n) := by
    rw [List.filter_cons, List.filter_cons, List.filter_cons, List.filter_cons]
    by_cases ha : a.name = n
    · have hb : b.name ≠ n := fun hb => h (ha.trans hb.symm)
      simp [ha, hb]
    · simp [ha]
  exact foldl_after_congr hsame s

theorem find_eq_error_iff {s : Store} {n : String} {e : Cause} :
    s.find n = .error e ↔ s.get? n = none ∧ e = .missingCollection n := by
  rw [find]
  cases s.get? n <;> simp [eq_comm]

/-- **Calls are replayed name by name.** Whatever the store and the calls are, what a name stands
for in the end is what the calls on it, by themselves, make of what it stood for at first: a
collection that is set replaces what was there, values are appended to what is there or make a
collection, and nothing is left of what is removed. Only a change of a collection that is not there
fails, and it leaves the store as it was. So calls on different names can change places, one pair of
them or all over the sequence. A name is looked up and found, contained and listed if it stands for
something. The names are listed in the order of their bytes, each once, and their number is the
size. -/
theorem calls_replay (s : Store) (calls : List Call) :
    let t := calls.foldl after s
    let contents (n : String) : Option Collection :=
      (calls.filter (·.name = n)).foldl Call.replay (s.get? n)
    (∀ n, t.get? n = contents n) ∧
    (∀ (call : Call) (e : Cause), (call.run t = .error e ↔ (∃ f, call = .modify call.name f) ∧
        contents call.name = none ∧ e = .missingCollection call.name) ∧
      (call.run t = .error e → t.after call = t)) ∧
    (∀ calls' : List Call, (∀ n, calls'.filter (·.name = n) = calls.filter (·.name = n)) →
      calls'.foldl after s = t) ∧
    (∀ a b : Call, a.name ≠ b.name → (t.after b).after a = (t.after a).after b ∧
      ∀ e, a.run (t.after b) = .error e ↔ a.run t = .error e) ∧
    (∀ n, (t.contains n = true ↔ ∃ c, contents n = some c) ∧
      (n ∈ t.names ↔ ∃ c, contents n = some c) ∧
      (∀ c, t.find n = .ok c ↔ contents n = some c) ∧
      ∀ e, t.find n = .error e ↔ contents n = none ∧ e = .missingCollection n) ∧
    t.names.Pairwise (fun m n => Text.bytes m < Text.bytes n) ∧ t.size = t.names.length := by
  intro t contents
  have hget (n : String) : t.get? n = contents n := get?_foldl_after s calls n
  refine ⟨hget, fun call e => ⟨?_, fun h => ?_⟩, fun calls' h => foldl_after_congr h s,
    fun a b h => ⟨after_comm h t, fun e => ?_⟩, fun n => ⟨?_, ?_, fun c => ?_, fun e => ?_⟩,
    t.sorted.imp fun h => ?_, (List.length_map ..).symm⟩
  · rw [run_eq_error_iff, hget]
  · rw [after, h]
    rfl
  · rw [run_eq_error_iff, run_eq_error_iff, get?_after_of_ne h]
  · rw [Catalog.contains_iff, hget]
  · rw [Catalog.mem_names_iff, hget]
  · rw [find_eq_ok, hget]
  · rw [find_eq_error_iff, hget]
  · exact Text.bytes_lt_of_lt h

/-- A store with one collection. -/
def roster : Store := .ofList [("é", [.string "x"])]

/-- Calls on three names, of which the second on `é` fails. -/
def rosterCalls : List Call :=
  [.append "z" [.null], .remove "é", .modify "é" List.reverse, .modify "z" (.null :: ·),
    .set "a" [], .append "é" [.string "y"]]

/-- The same calls, name by name. -/
def sortedCalls : List Call :=
  [.set "a" [], .append "z" [.null], .modify "z" (.null :: ·), .remove "é",
    .modify "é" List.reverse, .append "é" [.string "y"]]

theorem calls_replay_roster :
    let t := rosterCalls.foldl after roster
    t.get? "z" = some [.null, .null] ∧ t.get? "é" = some [.string "y"] ∧ t.get? "o" = none ∧
    (Call.modify "o" List.reverse).run t = .error (.missingCollection "o") ∧
    t.after (.modify "o" List.reverse) = t ∧
    (∀ n, sortedCalls.filter (·.name = n) = rosterCalls.filter (·.name = n)) ∧
    sortedCalls.foldl after roster = t ∧
    (Call.remove "z").name ≠ (Call.remove "é").name ∧
    (t.after (.remove "é")).after (.remove "z") = (t.after (.remove "z")).after (.remove "é") ∧
    t.names = ["a", "z", "é"] ∧ t.names.Pairwise (fun m n => Text.bytes m < Text.bytes n) ∧
    t.size = 3 := by
  intro t
  obtain ⟨hget, hfails, hsorted, hcomm, -, hnames, hsize⟩ := calls_replay roster rosterCalls
  have hfailed : (Call.modify "o" List.reverse).run t = .error (.missingCollection "o") :=
    (hfails ..).1.2 ⟨⟨_, rfl⟩, rfl, rfl⟩
  have hsame (n : String) :
      sortedCalls.filter (·.name = n) = rosterCalls.filter (·.name = n) := by
    by_cases ha : "a" = n
    · subst ha
      rfl
    · by_cases hz : "z" = n
      · subst hz
        rfl
      · simp [sortedCalls, rosterCalls, Call.name, List.filter_cons, ha, hz]
  have hne : (Call.remove "z").name ≠ (Call.remove "é").name := by decide
  exact ⟨hget "z", hget "é", hget "o", hfailed, (hfails ..).2 hfailed, hsame, hsorted _ hsame, hne,
    (hcomm _ _ hne).1, by decide, hnames, hsize⟩

end Store

end Reshape
