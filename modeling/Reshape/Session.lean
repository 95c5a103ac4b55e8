import Reshape.Error
import Reshape.Files
import Reshape.Log
import Reshape.Store

/-!
# Sessions

* `Session`: the store, the files and the log.
* `Attempt`: what changes a session and may fail; a failure keeps the changes made before it.
* `Attempt.ask` reads a session, `Attempt.put` and `Attempt.append` write a collection,
  `Attempt.revise` changes records where they are, and `Attempt.note` adds to the log.
-/

namespace Reshape

structure Session where
  store : Store
  files : Files
  log : Log

namespace Session

/-- The session with more entries in its log. -/
def note (s : Session) (entries : Log) : Session := { s with log := s.log ++ entries }

end Session

/-- What changes a session and may fail; a failure keeps the changes made before it. -/
abbrev Attempt (ε : Type) := ExceptT ε (StateM Session)

namespace Attempt

variable {ε α : Type}

/-- What the session tells; it stays as it is. -/
def ask (f : Session → Except ε α) : Attempt ε α := fun s => (f s, s)

/-- Adds entries to the log. -/
def note (entries : Log) : Attempt ε Unit := modify (·.note entries)

/-- Sets a collection. -/
def put (name : String) (c : Collection) : Attempt ε Unit :=
  modify fun s => { s with store := s.store.insert name c }

/-- Adds values to the end of a collection, making it if it is not there. -/
def append (name : String) (values : Collection) : Attempt ε Unit :=
  modify fun s => { s with store := s.store.append name values }

/-- Changes the records of a collection that is there, where they are. -/
def revise (name : String) (f : Record → Record) : Attempt Cause Unit := fun s =>
  match s.store.modify? name (·.map (·.mapFields f)) with
  | some store => (.ok (), { s with store })
  | none => (.error (.missingCollection name), s)

/-! ## What they make of a session -/

variable {β ε' : Type}

@[simp] theorem pure_apply (a : α) (s : Session) : (pure a : Attempt ε α) s = (.ok a, s) := rfl

theorem bind_apply (x : Attempt ε α) (f : α → Attempt ε β) (s : Session) :
    (x >>= f) s = match x s with
      | (.ok a, t) => f a t
      | (.error e, t) => (.error e, t) := by
  change (match x s with | (r, t) => ExceptT.bindCont f r t) = _
  rcases x s with ⟨_ | _, t⟩ <;> rfl

theorem bind_ok {x : Attempt ε α} {f : α → Attempt ε β} {s t : Session} {a : α}
    (h : x s = (.ok a, t)) : (x >>= f) s = f a t := by
  rw [bind_apply, h]

theorem bind_error {x : Attempt ε α} {f : α → Attempt ε β} {s t : Session} {e : ε}
    (h : x s = (.error e, t)) : (x >>= f) s = (.error e, t) := by
  rw [bind_apply, h]

theorem adapt_apply (f : ε → ε') (x : Attempt ε α) (s : Session) :
    (x.adapt f : Attempt ε' α) s = ((x s).1.mapError f, (x s).2) := rfl

@[simp] theorem ask_apply (f : Session → Except ε α) (s : Session) : ask f s = (f s, s) := rfl

@[simp] theorem note_apply (entries : Log) (s : Session) :
    (note entries : Attempt ε Unit) s = (.ok (), s.note entries) := rfl

/-- To note nothing is to do nothing. -/
@[simp] theorem note_nil : (note [] : Attempt ε Unit) = pure () := by
  funext s
  rw [note_apply, Session.note, List.append_nil, pure_apply]

@[simp] theorem put_apply (name : String) (c : Collection) (s : Session) :
    (put name c : Attempt ε Unit) s =
      (.ok (), { s with store := s.store.insert name c }) := rfl

@[simp] theorem append_apply (name : String) (values : Collection) (s : Session) :
    (append name values : Attempt ε Unit) s =
      (.ok (), { s with store := s.store.append name values }) := rfl

theorem revise_of_get? {name : String} {c : Collection} {s : Session}
    (h : s.store.get? name = some c) (f : Record → Record) :
    revise name f s =
      (.ok (), { s with store := s.store.insert name (c.map (·.mapFields f)) }) := by
  rw [revise, Store.modify?, h]
  rfl

end Attempt

end Reshape
