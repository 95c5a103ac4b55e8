import Reshape.Session

/-!
# Comparing attempts

Two attempts are compared by what they give and by the sessions they end in, as far as a relation
of sessions tells these apart. Of the relations, `Session.Same` forgets the log.

* `bind_eq_ok`, `bind_congr_ok`: one result that may be missing after another.
* `Attempt.of_bind_ok`, `Attempt.of_bind_error`: how one thing after another can end.
* `Attempt.Alike`: started in related sessions, two attempts give the same result and end in
  related sessions, also when they fail (`Alike.bind`, `Alike.forM`).
* `Attempt.forM_induction`, `Attempt.forM_cons_eq_ok`, `Attempt.forM_eq_error`,
  `Attempt.mapM_eq_error`: lists of attempts. If one fails, then one of them does after all before
  it were finished.
* `Attempt.forM_invariant`, `Attempt.forM_congr_reached`: what is asked of an attempt is asked of
  the sessions only that it finds when its turn comes.
-/

namespace Reshape

theorem bind_eq_ok {ε α β : Type} {x : Except ε α} {f : α → Except ε β} {b : β} :
    x >>= f = .ok b ↔ ∃ a, x = .ok a ∧ f a = .ok b := by
  rcases x with e | a <;> simp [bind, Except.bind]

/-- What goes on after a result may differ where there is none. -/
theorem bind_congr_ok {ε α β : Type} {x : Except ε α} {f g : α → Except ε β}
    (h : ∀ a, x = .ok a → f a = g a) : x >>= f = x >>= g := by
  cases x with
  | error e => rfl
  | ok a => exact h a rfl

namespace Session

/-- The sessions differ at most in their logs. -/
def Same (s t : Session) : Prop := s.store = t.store ∧ s.files = t.files

namespace Same

theorem refl (s : Session) : Same s s := ⟨rfl, rfl⟩

theorem trans {s t u : Session} (h : Same s t) (h' : Same t u) : Same s u :=
  ⟨h.1.trans h'.1, h.2.trans h'.2⟩

end Same

end Session

namespace Attempt

variable {ε α β : Type} {R : Session → Session → Prop}

/-- What holds of doing nothing and of one thing after another holds of a list of things. -/
theorem forM_induction {P : Attempt ε Unit → Prop} {f : β → Attempt ε Unit} (hpure : P (pure ()))
    (hbind : ∀ x y, P x → P y → P (x >>= fun _ => y)) {bs : List β} (h : ∀ b ∈ bs, P (f b)) :
    P (forM bs f) := by
  induction bs with
  | nil => exact hpure
  | cons b bs ih =>
    rw [List.forM_cons]
    exact hbind _ _ (h b (by simp)) (ih fun c hc => h c (List.mem_cons_of_mem _ hc))

/-- What is returned in the end does not depend on the session. -/
theorem eq_of_return {x : Attempt ε α} {b c : β} {s : Session}
    (h : ((x >>= fun _ => pure b) s).1 = .ok c) : c = b := by
  rw [bind_apply] at h
  rcases hx : x s with ⟨_ | _, t⟩ <;> rw [hx] at h <;> cases h
  rfl

/-- One thing after another is finished if both are. -/
theorem of_bind_ok {x : Attempt ε α} {f : α → Attempt ε β} {s t : Session} {b : β}
    (h : (x >>= f) s = (.ok b, t)) : ∃ a u, x s = (.ok a, u) ∧ f a u = (.ok b, t) := by
  rw [bind_apply] at h
  rcases hx : x s with ⟨_ | a, u⟩ <;> rw [hx] at h
  · cases h
  · exact ⟨a, u, rfl, h⟩

/-- One thing after another fails if the first does, or the second after the first is finished. -/
theorem of_bind_error {x : Attempt ε α} {f : α → Attempt ε β} {s t : Session} {e : ε}
    (h : (x >>= f) s = (.error e, t)) :
    x s = (.error e, t) ∨ ∃ a u, x s = (.ok a, u) ∧ f a u = (.error e, t) := by
  rw [bind_apply] at h
  rcases hx : x s with ⟨_ | a, u⟩ <;> rw [hx] at h
  · cases h
    exact .inl rfl
  · exact .inr ⟨a, u, rfl, h⟩

/-- To return something in the end does not change the session. -/
theorem session_of_return (x : Attempt ε α) (b : β) (s : Session) :
    ((x >>= fun _ => pure b) s).2 = (x s).2 := by
  rw [bind_apply]
  rcases x s with ⟨_ | _, t⟩ <;> rfl

/-- Started in related sessions, the two attempts give the same result and end in related
sessions. -/
def Alike (R : Session → Session → Prop) (x y : Attempt ε α) : Prop :=
  ∀ s t, R s t → (x s).1 = (y t).1 ∧ R (x s).2 (y t).2

namespace Alike

theorem pure (a : α) : Alike R (Pure.pure a : Attempt ε α) (Pure.pure a) :=
  fun _ _ h => ⟨rfl, h⟩

theorem bind {x y : Attempt ε α} {f g : α → Attempt ε β} (hx : Alike R x y)
    (hf : ∀ a, Alike R (f a) (g a)) : Alike R (x >>= f) (y >>= g) := by
  intro s t h
  obtain ⟨hr, hs⟩ := hx s t h
  rw [bind_apply, bind_apply]
  rcases hxs : x s with ⟨_ | a, s'⟩ <;> rcases hyt : y t with ⟨_ | b, t'⟩ <;>
    rw [hxs, hyt] at hr hs <;> cases hr
  · exact ⟨rfl, hs⟩
  · exact hf a s' t' hs

theorem forM {f : β → Attempt ε Unit} {bs : List β} (h : ∀ b ∈ bs, Alike R (f b) (f b)) :
    Alike R (ForM.forM bs f) (ForM.forM bs f) :=
  forM_induction (P := fun x => Alike R x x) (pure ()) (fun _ _ hx hy => bind hx fun _ => hy) h

/-- What is noted before does not matter if the relation does not see the log. -/
theorem note_left {x y : Attempt ε α} (hR : ∀ s t l, R s t → R (s.note l) t) (entries : Log)
    (h : Alike R x y) : Alike R (do note entries; x) y := by
  intro s t hs
  rw [bind_ok (note_apply entries s)]
  exact h _ t (hR s t entries hs)

end Alike

/-- If a list of attempts is finished, then so are the first of them and the others after it. -/
theorem forM_cons_eq_ok {f : β → Attempt ε Unit} {b : β} {bs : List β} {s t : Session}
    (h : forM (b :: bs) f s = (.ok (), t)) :
    ∃ u, f b s = (.ok (), u) ∧ forM bs f u = (.ok (), t) := by
  rw [List.forM_cons, bind_apply] at h
  rcases hb : f b s with ⟨_ | _, u⟩ <;> rw [hb] at h
  · cases h
  · exact ⟨u, rfl, h⟩

/-- What each attempt keeps in the session that it finds is kept to the end, however that comes. -/
theorem forM_invariant {P : Session → Prop} {f : β → Attempt ε Unit} {bs : List β} {s : Session}
    (hs : P s) (h : ∀ done b t, done ++ [b] <+: bs → forM done f s = (.ok (), t) → P t →
      P (f b t).2) : P (forM bs f s).2 := by
  induction bs generalizing s with
  | nil => exact hs
  | cons b bs ih =>
    have hb := h [] b s (List.prefix_append [b] bs) rfl hs
    rw [List.forM_cons]
    rcases hrun : f b s with ⟨e | _, t⟩ <;> rw [hrun] at hb
    · rw [bind_error hrun]
      exact hb
    · rw [bind_ok hrun]
      refine ih hb fun done c u hdone hrest => h (b :: done) c u ?_ ?_
      · exact List.cons_prefix_cons.2 ⟨rfl, hdone⟩
      · rw [List.forM_cons, bind_ok hrun, hrest]

/-- Attempts may be replaced by others that do the same in the sessions that are reached. -/
theorem forM_congr_reached {f g : β → Attempt ε Unit} {bs : List β} {s : Session}
    (h : ∀ done b t, done ++ [b] <+: bs → forM done f s = (.ok (), t) → g b t = f b t) :
    forM bs g s = forM bs f s := by
  induction bs generalizing s with
  | nil => rfl
  | cons b bs ih =>
    have hb := h [] b s (List.prefix_append [b] bs) rfl
    rw [List.forM_cons, List.forM_cons]
    rcases hrun : f b s with ⟨e | _, t⟩ <;> rw [hrun] at hb
    · rw [bind_error hrun, bind_error hb]
    · rw [bind_ok hrun, bind_ok hb]
      refine ih fun done c u hdone hrest => h (b :: done) c u ?_ ?_
      · exact List.cons_prefix_cons.2 ⟨rfl, hdone⟩
      · rw [List.forM_cons, bind_ok hrun, hrest]

/-- If a list of attempts fails, then one of them does after all before it were finished. -/
theorem forM_eq_error {f : β → Attempt ε Unit} {bs : List β} {s t : Session} {e : ε}
    (h : forM bs f s = (.error e, t)) :
    ∃ done b rest u, bs = done ++ b :: rest ∧ forM done f s = (.ok (), u) ∧
      f b u = (.error e, t) := by
  induction bs generalizing s with
  | nil => cases h
  | cons b bs ih =>
    rw [List.forM_cons, bind_apply] at h
    rcases hb : f b s with ⟨_ | _, v⟩ <;> rw [hb] at h
    · exact ⟨[], b, bs, s, rfl, rfl, hb.trans h⟩
    · obtain ⟨done, c, rest, u, rfl, hdone, hc⟩ := ih h
      exact ⟨b :: done, c, rest, u, rfl, by rw [List.forM_cons, bind_ok hb, hdone], hc⟩

/-- If a list of attempts that give something fails, then one of them does after all before it were
finished. -/
theorem mapM_eq_error {f : β → Attempt ε α} {bs : List β} {s t : Session} {e : ε}
    (h : bs.mapM f s = (.error e, t)) :
    ∃ done b rest u as, bs = done ++ b :: rest ∧ done.mapM f s = (.ok as, u) ∧
      f b u = (.error e, t) := by
  induction bs generalizing s with
  | nil => cases h
  | cons b bs ih =>
    rw [List.mapM_cons] at h
    rcases of_bind_error h with hb | ⟨a, v, hb, h⟩
    · exact ⟨[], b, bs, s, [], rfl, rfl, hb⟩
    rcases of_bind_error h with hbs | ⟨as, w, -, h⟩
    · obtain ⟨done, c, rest, u, as, rfl, hdone, hc⟩ := ih hbs
      refine ⟨b :: done, c, rest, u, a :: as, rfl, ?_, hc⟩
      rw [List.mapM_cons, bind_ok hb, bind_ok hdone, pure_apply]
    · cases h

end Attempt

end Reshape
