import BrainHost.Proofs.Table.Step

/-! # Brains whose context is in use

While a script of a brain runs its context is in use, and an operation of that brain that host functions start
meanwhile does not get into it. So the brain stays as it is, its modules included, whatever is done with the
others. -/

namespace BrainHost

variable {E : Engine} {K : HostKind} {number other : Nat}

/-- A brain whose context is in use stays as it is. -/
def Held (number : Nat) (w v : World E K) : Prop :=
  ∀ b, w.brains[number]? = some b → b.context = none → v.brains[number]? = some b

namespace Held

variable {u v w : World E K}

theorem refl (w : World E K) : Held number w w := fun _ hb _ => hb

theorem trans (h : Held number w v) (h' : Held number v u) : Held number w u :=
  fun b hb hused => h' b (h b hb hused) hused

theorem of_brains (h : v.brains = w.brains) : Held number w v := fun _ hb _ => by rw [h, hb]

theorem of_free {b : Brain E} {c : E.Context} (hb : w.brains[number]? = some b) (hc : b.context = some c) :
    Held number w v := by
  intro b' hb' hused
  obtain rfl : b = b' := Option.some.inj (hb.symm.trans hb')
  rw [hc] at hused
  cases hused

theorem modified (hother : other ≠ number) (w : World E K) (f : Brain E → Brain E) :
    Held number w { w with brains := w.brains.modify other f } := by
  intro b hb _
  rw [Array.getElem?_modify, if_neg hother, hb]

end Held

/-- Conduct: a brain whose context is in use stays as it is. -/
def held (E : Engine) (K : HostKind) (number : Nat) : Conduct E K where
  admits link := ∀ callback w, (link callback w).Ends (Held number w)
  rel := Held number
  refl := .refl
  trans := .trans

namespace held

variable {w : World E K}

theorem lax : (held E K number).Lax where
  logged _ _ := .of_brains rfl
  invoke callback _ hl w := hl callback w
  serving _ _ _ _ := .of_brains rfl

theorem calling : (held E K number).Calling where
  toLoud := lax.loud
  callService := lax.callService
  rested {w other b c v c'} hb hc hv _ := by
    by_cases hother : other = number
    · subst hother
      exact .of_free hb hc
    · exact ((Held.modified hother w _).trans hv).trans (.modified hother v _)
  works := .of_true fun _ _ => trivial
  scratched _ _ := .of_brains rfl

variable {link : Link E K} (hl : (held E K number).admits link)
include hl

theorem load (other : Nat) (id source : String) (w : World E K) :
    ((Brain.load other id source).run link w).Ends (Held number w) := by
  rw [Operation.load_apply]
  by_cases hother : other = number
  · subst hother
    cases hfound : w.brains[other]?.bind fun b => b.context.map (b, ·) with
    | none =>
      rw [Brain.enter_apply, hfound]
      exact .refl w
    | some p =>
      obtain ⟨b, hb, hpair⟩ := Option.bind_eq_some_iff.mp hfound
      obtain ⟨c, hc, -⟩ := Option.map_eq_some_iff.mp hpair
      exact Outcome.ends_of_forall (fun v => .of_free hb hc) _
  · refine ((calling.visiting.runModule other id source) link hl w).bind (fun r v hv => ?_) fun _ hv => hv
    cases r with
    | ok namespaceObject => exact hv.trans (.modified hother v _)
    | error failure => exact hv

theorem setModule (id moduleId source : String) (w : World E K) :
    ((Operation.setModule id moduleId source).act link w).Ends (Held number w) := by
  refine lax.loud.logged_ends hl
    ((Operation.setModule_enters w id moduleId source).ends (fun _ => .of_brains rfl) ?_)
  rintro _ ⟨other, -, rfl⟩
  exact load hl other moduleId source w

omit hl

/-! ## Hosts -/

variable {S : Type}

theorem playing (reach : Reach) : (held E (Minded S) number).Playing reach.allows where
  think _ _ := .of_brains rfl
  note _ _ _ := .of_brains rfl
  ask deed hallowed := by
    have asked : Act.Keeps (held E (Minded S) number) (note (.asked deed)) :=
      Act.Keeps.modify fun _ => .of_brains rfl
    refine asked.bind fun _ => ?_
    cases deed with
    | call bridge service args => exact hallowed.elim
    | report reporter result => exact lax.report reporter result
    | assign hook on => exact Act.Keeps.modify fun _ => .of_brains rfl
    | operate op =>
      cases op with
      | start path => exact hallowed.elim
      | stop => exact hallowed.elim
      | resetBrain id source => exact hallowed.elim
      | setModule id moduleId source => exact fun _ hl w => setModule hl id moduleId source w
      | updateAgent id agent state buffer =>
        exact calling.updateAgent id agent state buffer fun json =>
          (calling.invoke _ (by simp)).bind fun _ => .pure _
      | namespaceJson id moduleId => exact calling.sessionNamespaceJson id moduleId
      | evaluate source => exact calling.toLending.sessionEvaluate source
      | evaluateToInteger source => exact calling.toLending.evaluateToInteger source

theorem admits {reach : Reach} {host : Host S} (hhost : ∀ callback, (host callback).Asks reach.allows)
    (depth : Nat) : (held E (Minded S) number).admits (host.link depth) :=
  (playing reach).link (fun _ h => h) (fun _ _ _ hv => hv) hhost depth

end held

end BrainHost
