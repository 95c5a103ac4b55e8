import Reshape.Number.Basic

/-!
# Values and records

* `Value`: null, truth values, numbers, strings, arrays, and objects whose fields are in order.
* `Record`: the fields of an object. `Record.insert` keeps the place of a field that is there and
  appends one that is not; `Record.erase` keeps the order of the others.
* `Record.ofList`: the record with given fields; `Record.ofList_of_nodup`, if their names differ.
* `Value.truthy`: what counts as true.
-/

namespace Reshape

inductive Value
  | null
  | bool (b : Bool)
  | number (n : Number)
  | string (s : String)
  | array (items : List Value)
  | object (fields : List (String × Value))

/-- The fields of an object, in order. -/
abbrev Record := List (String × Value)

/-- An ordered list of records, or of plain values. -/
abbrev Collection := List Value

namespace Value

instance : Inhabited Value := ⟨.null⟩

mutual

/-- Decides whether two values are the same, field order included. -/
def decEq : (a b : Value) → Decidable (a = b)
  | .null, .null => isTrue rfl
  | .bool a, .bool b => decidable_of_iff (a = b) (by simp)
  | .number a, .number b => decidable_of_iff (a = b) (by simp)
  | .string a, .string b => decidable_of_iff (a = b) (by simp)
  | .array a, .array b =>
    match decEqItems a b with
    | isTrue h => isTrue (by rw [h])
    | isFalse h => isFalse (by simpa using h)
  | .object a, .object b =>
    match decEqFields a b with
    | isTrue h => isTrue (by rw [h])
    | isFalse h => isFalse (by simpa using h)
  | .null, .bool _ | .null, .number _ | .null, .string _ | .null, .array _ | .null, .object _
  | .bool _, .null | .bool _, .number _ | .bool _, .string _ | .bool _, .array _
  | .bool _, .object _ | .number _, .null | .number _, .bool _ | .number _, .string _
  | .number _, .array _ | .number _, .object _ | .string _, .null | .string _, .bool _
  | .string _, .number _ | .string _, .array _ | .string _, .object _ | .array _, .null
  | .array _, .bool _ | .array _, .number _ | .array _, .string _ | .array _, .object _
  | .object _, .null | .object _, .bool _ | .object _, .number _ | .object _, .string _
  | .object _, .array _ => isFalse (by simp)

def decEqItems : (a b : List Value) → Decidable (a = b)
  | [], [] => isTrue rfl
  | [], _ :: _ | _ :: _, [] => isFalse (by simp)
  | x :: a, y :: b =>
    match decEq x y, decEqItems a b with
    | isTrue h, isTrue h' => isTrue (by rw [h, h'])
    | isFalse h, _ => isFalse (by simp [h])
    | _, isFalse h => isFalse (by simp [h])

def decEqFields : (a b : List (String × Value)) → Decidable (a = b)
  | [], [] => isTrue rfl
  | [], _ :: _ | _ :: _, [] => isFalse (by simp)
  | (j, x) :: a, (k, y) :: b =>
    match decEq x y, decEqFields a b with
    | isTrue h, isTrue h' => decidable_of_iff (j = k) (by simp [h, h'])
    | isFalse h, _ => isFalse (by simp [h])
    | _, isFalse h => isFalse (by simp [h])

end

instance : DecidableEq Value := decEq

/-- The fields of an object. -/
def fields? : Value → Option Record
  | .object fields => some fields
  | _ => none

/-- Whether the value is an object. -/
def isObject (v : Value) : Bool := v.fields?.isSome

/-- The elements of an array. -/
def items? : Value → Option (List Value)
  | .array items => some items
  | _ => none

/-- Null, false, zero and the empty string are false; all else is true. -/
def truthy : Value → Bool
  | .null => false
  | .bool b => b
  | .number n => !n.isZero
  | .string s => s ≠ ""
  | .array _ | .object _ => true

/-- The value of a binary64 result: null beyond the range, whole where `Number.ofBinary64` is. -/
def ofBinary64? : Option Binary64 → Value
  | none => .null
  | some x => .number (.ofBinary64 x)

end Value

namespace Record

/-- The value of the field `k`. -/
def get? (r : Record) (k : String) : Option Value := r.lookup k

/-- Whether there is a field `k`. -/
def contains (r : Record) (k : String) : Bool := (r.get? k).isSome

/-- Sets the field `k`, in its place if it is there and at the end if it is not. -/
def insert : Record → String → Value → Record
  | [], k, v => [(k, v)]
  | (j, w) :: r, k, v => if j = k then (j, v) :: r else (j, w) :: insert r k v

/-- Removes the field `k`. -/
def erase (r : Record) (k : String) : Record := r.filter (·.1 ≠ k)

/-- The names of the fields, in order. -/
def keys (r : Record) : List String := r.map (·.1)

/-- The record with the given fields; of fields of one name the first gives the place and the last
the value. -/
def ofList (fields : List (String × Value)) : Record :=
  fields.foldl (fun r f => insert r f.1 f.2) []

/-- A field that is not there goes to the end. -/
theorem insert_of_notMem {r : Record} {k : String} (h : k ∉ r.keys) (v : Value) :
    r.insert k v = r ++ [(k, v)] := by
  induction r with
  | nil => rfl
  | cons f r ih =>
    obtain ⟨j, w⟩ := f
    simp only [keys, List.map_cons, List.mem_cons, not_or] at h
    rw [insert, if_neg (Ne.symm h.1), ih h.2]
    rfl

theorem foldl_insert_of_nodup {r fields : Record} (h : (keys (r ++ fields)).Nodup) :
    fields.foldl (fun r f => insert r f.1 f.2) r = r ++ fields := by
  induction fields generalizing r with
  | nil => rw [List.foldl_nil, List.append_nil]
  | cons f fields ih =>
    obtain ⟨k, v⟩ := f
    have hk : k ∉ r.keys := by
      intro hk
      rw [keys, List.map_append, List.nodup_append] at h
      exact h.2.2 k hk k List.mem_cons_self rfl
    have happend : r ++ (k, v) :: fields = r ++ [(k, v)] ++ fields := by simp
    rw [List.foldl_cons, insert_of_notMem hk, ih (happend ▸ h), happend]

/-- Fields of distinct names make the record that they are. -/
theorem ofList_of_nodup {fields : Record} (h : fields.keys.Nodup) : ofList fields = fields :=
  foldl_insert_of_nodup h

end Record

namespace Value

/-- The field `name` of an object; other values have no fields. -/
def field? (v : Value) (name : String) : Option Value := v.fields?.bind (·.get? name)

/-- Changes the fields of an object and leaves other values alone. -/
def mapFields (f : Record → Record) : Value → Value
  | .object fields => .object (f fields)
  | v => v

end Value

end Reshape
