import BrainHost.Proofs.Script.Gives

/-! # Actions that do not throw

An action is calm if it does not throw, whatever the scripts that it calls do, as long as the host
answers in a way that fits the request. What an action returns is then looked at in the same way. -/

namespace BrainHost.Script

variable {α β : Type} {fits : Fitting Value}

/-- An action that does not throw. -/
def Res.Calm (fits : Fitting Value) (x : Res α) : Prop := x.Settles fits fun exit _ => ∃ a, exit = .ok a

theorem Res.Calm.bind {x : Res α} {f : α → Realm → Res β} (h : x.Calm fits)
    (hf : ∀ a r, (f a r).Calm fits) : (x.bind f).Calm fits :=
  Res.Settles.bind h (fun a r _ => hf a r) nofun

theorem Res.calm_capture (x : Res α) : x.capture.Calm fits := by
  induction x with
  | ok a r => exact ⟨_, rfl⟩
  | thrown v r => exact ⟨_, rfl⟩
  | left v r => exact ⟨_, rfl⟩
  | ask query r resume ih => exact fun reply r' _ => ih reply r'
  | stuck => trivial

namespace Act

/-- An action that does not throw in any realm. -/
def Calm (fits : Fitting Value) (m : Act α) : Prop := ∀ r, (m r).Calm fits

theorem settles_host_bind {P : Except Value β → Realm → Prop} {request : Request} {f : Answer Value → Act β} {r : Realm}
    (hf : ∀ answer, fits request answer → (f answer r).Settles fits P) :
    ((host request >>= f) r).Settles fits P := by
  rintro reply r' ⟨rfl, answer, rfl, hfits⟩
  exact hf answer hfits

namespace Calm

theorem pure (a : α) : Calm fits (Pure.pure a : Act α) := fun _ => ⟨a, rfl⟩

theorem read (f : Realm → α) : Calm fits (Act.read f) := fun r => ⟨f r, rfl⟩

theorem capture (m : Act α) : Calm fits m.capture := fun r => (m r).calm_capture

theorem bind {m : Act α} {f : α → Act β} (hm : Calm fits m) (hf : ∀ a, Calm fits (f a)) :
    Calm fits (m >>= f) := fun r => (hm r).bind hf

theorem ite {p : Prop} [Decidable p] {m n : Act α} (hm : Calm fits m) (hn : Calm fits n) :
    Calm fits (if p then m else n) := by
  split
  · exact hm
  · exact hn

theorem host (request : Request) {f : Answer Value → Act β} (hf : ∀ answer, Calm fits (f answer)) :
    Calm fits (Act.host request >>= f) := fun r => settles_host_bind fun answer _ => hf answer r

end Calm

/-- What an action returns has a property in every realm. -/
def Yields (fits : Fitting Value) (P : α → Prop) (m : Act α) : Prop :=
  ∀ r, (m r).Settles fits fun exit _ => ∀ a, exit = .ok a → P a

namespace Yields

variable {P : β → Prop}

theorem pure {b : β} (h : P b) : Yields fits P (Pure.pure b : Act β) := by
  rintro r _ ⟨⟩
  exact h

theorem bind (m : Act α) {f : α → Act β} (hf : ∀ a, Yields fits P (f a)) : Yields fits P (m >>= f) := fun r =>
  (m r).settles_true.bind (fun a r _ => hf a r) fun _ _ _ => nofun

theorem host {request : Request} {f : Answer Value → Act β}
    (hf : ∀ answer, fits request answer → Yields fits P (f answer)) : Yields fits P (Act.host request >>= f) :=
  fun r => settles_host_bind fun answer hfits => hf answer hfits r

end Yields

end Act

end BrainHost.Script
