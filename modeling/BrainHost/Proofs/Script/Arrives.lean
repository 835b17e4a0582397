import BrainHost.Proofs.Script.Gives

/-! # What actions arrive at

An action that only looks at the realm, and rests now and then, arrives at one result. Where failing is
excused it may fail instead, so that what it gives is told even where it is not told that it gives
something. Where it is not excused, a run ends with the result. -/

namespace BrainHost.Script

variable {α β : Type} {excused : Prop} {r : Realm} {a : α} {b : β}

namespace Res

/-- An action comes to a result with so many rests at most, and the realm stays as it is. -/
def Arrives (excused : Prop) (r : Realm) (a : α) : Res α → Nat → Prop
  | ok b r', _ => b = a ∧ r' = r
  | thrown _ _, _ => excused
  | left _ _, _ => excused
  | ask query r' resume, n =>
    query = .rest ∧ r' = r ∧ ∃ m, n = m + 1 ∧ (resume (.value .undefined) r).Arrives excused r a m
  | stuck, _ => excused

theorem arrives_ok (n : Nat) : (ok a r).Arrives excused r a n := ⟨rfl, rfl⟩

theorem Arrives.mono {x : Res α} {m n : Nat} (h : x.Arrives excused r a m) (le : m ≤ n) : x.Arrives excused r a n := by
  induction x generalizing m n with
  | ok b r' => exact h
  | thrown v r' => exact h
  | left v r' => exact h
  | ask query r' resume ih =>
    obtain ⟨rest, same, m, rfl, more⟩ := h
    exact ⟨rest, same, n - 1, by omega, ih _ _ more (by omega)⟩
  | stuck => exact h

theorem Arrives.bind {x : Res α} {f : α → Realm → Res β} {m n : Nat} (h : x.Arrives excused r a m)
    (h' : (f a r).Arrives excused r b n) : (x.bind f).Arrives excused r b (m + n) := by
  induction x generalizing m with
  | ok b r' =>
    obtain ⟨rfl, rfl⟩ := h
    exact h'.mono (Nat.le_add_left _ _)
  | thrown v r' => exact h
  | left v r' => exact h
  | ask query r' resume ih =>
    obtain ⟨rest, same, m, rfl, more⟩ := h
    exact ⟨rest, same, m + n, by omega, ih _ _ more⟩
  | stuck => exact h

theorem Arrives.gives {x : Res α} {n : Nat} (h : x.Arrives excused r a n) : x.Gives fun b r' => b = a ∧ r' = r := by
  induction x generalizing n with
  | ok b r' => exact h
  | thrown v r' => trivial
  | left v r' => trivial
  | ask query r' resume ih =>
    obtain ⟨rest, rfl, m, -, more⟩ := h
    exact ⟨fun _ => ih _ _ more, fun other => absurd rest other⟩
  | stuck => trivial

end Res

namespace Act

variable {m : Act α} {f : α → Act β}

theorem arrives_bind {k n : Nat} (h : (m r).Arrives excused r a k) (h' : (f a r).Arrives excused r b n) :
    ((m >>= f) r).Arrives excused r b (k + n) := Res.Arrives.bind h h'

theorem arrives_after {n : Nat} (h : m r = .ok a r) (h' : (f a r).Arrives excused r b n) :
    ((m >>= f) r).Arrives excused r b n := by
  change ((m r).bind fun a => f a).Arrives excused r b n
  rw [h]
  exact h'

section

variable {σ : Type} {body : σ → Act (Except σ α)} {s s' : σ} {k n : Nat}

theorem arrives_stop (h : (body s r).Arrives excused r (.ok a) k) (rounds : Nat) :
    (forever body (rounds + 1) s r).Arrives excused r a (k + 1) := by
  refine ⟨rfl, rfl, k, rfl, ?_⟩
  change ((body s r).bind _).Arrives excused r a (k + 0)
  exact h.bind (Res.arrives_ok 0)

theorem arrives_again {rounds : Nat} (h : (body s r).Arrives excused r (.error s') k)
    (h' : (forever body rounds s' r).Arrives excused r a n) :
    (forever body (rounds + 1) s r).Arrives excused r a (k + n + 1) := by
  refine ⟨rfl, rfl, k + n, rfl, ?_⟩
  change ((body s r).bind _).Arrives excused r a (k + n)
  exact h.bind h'

end

end Act

theorem Machine.run_arrives {fuel n : Nat} (threads : Array Thread) {x : Res α} (sound : x.Sound)
    (h : x.Arrives False r a n) (enough : n < fuel) :
    Machine.run fuel threads (.main x sound) = .done (⟨r, threads⟩, .ok a) := by
  induction fuel generalizing x n with
  | zero => cases enough
  | succ fuel ih =>
    cases x with
    | ok b r' =>
      obtain ⟨rfl, rfl⟩ := h
      rfl
    | thrown v r' => exact h.elim
    | left v r' => exact h.elim
    | ask query r' resume =>
      obtain ⟨rfl, rfl, m, rfl, more⟩ := h
      exact ih _ more (by omega)
    | stuck => exact h.elim

theorem Context.run_arrives {c : Context} {m : Act α} {n : Nat} (h : (m c.realm).Arrives False r a n)
    (enough : n < Act.endless) : c.run m = .done (⟨r, c.threads⟩, .ok a) :=
  Machine.run_arrives c.threads (m.sound c.realm) h enough

end BrainHost.Script
