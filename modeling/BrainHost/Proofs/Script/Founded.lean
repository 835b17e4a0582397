import BrainHost.Proofs.Script.Pristine
import BrainHost.Proofs.Script.Setup

/-! # New realms are pristine

Whatever the prototypes of objects and of arrays are given while a realm is set up, writing the value of a tree
does not seek it. -/

namespace BrainHost.Script

open Intrinsic

/-- A key that is given to prototypes: a symbol, or a name that is not sought. -/
def Key.Usual (k : Key) : Prop := (∃ id, k = .symbol id) ∨ ∃ name, Unsought name ∧ k = .text name

@[simp] theorem WellKnown.usual (w : WellKnown) : w.key.Usual := .inl ⟨_, rfl⟩

@[simp] theorem Key.Usual.text {name : String} (h : Unsought name) : (Key.text name).Usual := .inr ⟨name, h, rfl⟩

theorem Key.Usual.not_sought {k : Key} (h : k.Usual) : ¬ k.Sought := by
  obtain ⟨id, rfl⟩ | ⟨name, unsought, rfl⟩ := h
  · intro sought
    obtain ⟨s, e⟩ := sought.exists_name
    cases e
  · exact unsought.not_sought

namespace Obj.Bare

variable {o : Obj} {k : Key}

theorem put (h : o.Bare) (usual : k.Usual) (p : Property) : (o.put k p).Bare where
  quiet := h.quiet
  unset k' sought :=
    (Properties.get?_insert_of_ne (fun e : k = k' => usual.not_sought (e ▸ sought)) _ p).trans (h.unset k' sought)

theorem store (h : o.Bare) (usual : k.Usual) (p : Property) : (o.store k p).Bare ∧ (o.store k p).proto = o.proto := by
  have noIndex (i : Nat) : k ≠ .index i := by
    obtain ⟨id, rfl⟩ | ⟨name, -, rfl⟩ := usual <;> exact nofun
  unfold Obj.store
  split
  · exact absurd rfl (noIndex _)
  · split
    · split
      · exact ⟨⟨.inr ⟨_, _, _, rfl⟩, h.unset⟩, rfl⟩
      · exact ⟨h, rfl⟩
    · exact ⟨h.put usual p, rfl⟩
  · exact ⟨h.put usual p, rfl⟩

end Obj.Bare

/-- The prototypes of objects and of arrays have nothing that is sought. -/
def Standard.pristine : Standard where
  fit ref o :=
    (ref = objectPrototype.ref → o.Bare ∧ o.proto = none) ∧
      (ref = arrayPrototype.ref → o.Bare ∧ (o.proto = none ∨ o.proto = some objectPrototype.ref))
  usual := Key.Usual
  aside aside _ := ⟨fun e => absurd e aside.1, fun e => absurd e aside.2.1⟩
  shapes shaped o fit := by
    cases shaped with
    | objects => exact ⟨fun _ => ⟨⟨.inl rfl, (fit.1 rfl).1.unset⟩, rfl⟩, nofun⟩
    | arrays => exact ⟨nofun, fun _ => ⟨⟨.inr ⟨_, _, _, rfl⟩, (fit.2 rfl).1.unset⟩, .inr rfl⟩⟩
    | error => exact ⟨nofun, nofun⟩
    | @errors kind => cases kind <;> exact ⟨nofun, nofun⟩
  stores usual ref o p fit := by
    refine ⟨fun e => ?_, fun e => ?_⟩
    · obtain ⟨bare, same⟩ := (fit.1 e).1.store usual p
      exact ⟨bare, same ▸ (fit.1 e).2⟩
    · obtain ⟨bare, same⟩ := (fit.2 e).1.store usual p
      exact ⟨bare, same ▸ (fit.2 e).2⟩
  symbols id := .inl ⟨id, rfl⟩
  constructors := .text (by decide)

theorem Realm.Meets.pristine {r : Realm} (h : r.Meets .pristine) : r.Pristine := by
  have there (i : Intrinsic) : ∃ o, r.objects[i.ref]? = some o :=
    ⟨_, Array.getElem?_eq_getElem (Nat.lt_of_lt_of_le i.ref_lt h.size)⟩
  obtain ⟨o, found⟩ := there objectPrototype
  obtain ⟨o', found'⟩ := there arrayPrototype
  exact ⟨⟨o, found, (h.fit _ _ found).1 rfl⟩, ⟨o', found', (h.fit _ _ found').2 rfl⟩⟩

theorem Realm.Meets.initial_pristine (maxDepth : Nat) : (Realm.initial maxDepth).Meets .pristine := by
  have bare : ({} : Obj).Bare := ⟨.inl rfl, fun _ _ => rfl⟩
  have fits (ref : Nat) : Standard.pristine.fit ref {} := ⟨fun _ => ⟨bare, rfl⟩, fun _ => ⟨bare, .inl rfl⟩⟩
  exact .initial_of_given fits (fun name there =>
    .text ((by decide : ∀ name ∈ givenNames, Unsought name) name there)) maxDepth

theorem Realm.Pristine.initial (maxDepth : Nat) : (Realm.initial maxDepth).Pristine :=
  (Realm.Meets.initial_pristine maxDepth).pristine

theorem Context.create_pristine {config : EngineConfig} {table : List (String × Capability)} {c : Context}
    (h : Context.create config table = .ok c) : c.realm.Pristine := by
  obtain ⟨maxDepth, made⟩ := create_realm h
  rw [made]
  exact ((Realm.Meets.initial_pristine maxDepth).install table).pristine

end BrainHost.Script
