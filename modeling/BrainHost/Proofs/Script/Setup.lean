import BrainHost.Script.Engine
import Mathlib.Data.List.Induction

/-! # How realms begin

The objects that a realm begins with are made step by step. Whatever is asked of the prototypes of objects,
of arrays and of errors holds of a new realm if every shape that they get and every key that is given to
them leaves it so. The rest of the objects is left aside. -/

namespace BrainHost.Script

open Intrinsic

/-- A reference to an object of which nothing is asked. -/
def Aside (ref : Nat) : Prop :=
  ref ≠ objectPrototype.ref ∧ ref ≠ arrayPrototype.ref ∧ ∀ kind, ref ≠ (errorPrototype kind).ref

theorem Intrinsic.ref_lt (i : Intrinsic) : i.ref < Intrinsic.count := by
  cases i with
  | collectionIteratorPrototype isSet => cases isSet <;> decide
  | errorPrototype kind => cases kind <;> decide
  | typedPrototypeOf t => cases t <;> decide
  | typedConstructorOf t => cases t <;> decide
  | _ => decide

@[simp] theorem Intrinsic.aside {i : Intrinsic} :
    Aside i.ref ↔ i ≠ objectPrototype ∧ i ≠ arrayPrototype ∧ ∀ kind, i ≠ errorPrototype kind := by
  constructor
  · rintro ⟨objects, arrays, errors⟩
    exact ⟨fun e => objects (e ▸ rfl), fun e => arrays (e ▸ rfl), fun kind e => errors kind (e ▸ rfl)⟩
  · rintro ⟨objects, arrays, errors⟩
    unfold Aside
    cases i with
    | objectPrototype => exact absurd rfl objects
    | arrayPrototype => exact absurd rfl arrays
    | errorPrototype kind => exact absurd rfl (errors kind)
    | collectionIteratorPrototype isSet =>
      cases isSet <;> exact ⟨by decide, by decide, fun kind => by cases kind <;> decide⟩
    | typedPrototypeOf t => cases t <;> exact ⟨by decide, by decide, fun kind => by cases kind <;> decide⟩
    | typedConstructorOf t => cases t <;> exact ⟨by decide, by decide, fun kind => by cases kind <;> decide⟩
    | _ => exact ⟨by decide, by decide, fun kind => by cases kind <;> decide⟩

/-- The shapes of the prototypes of which something may be asked. -/
inductive Shaped : Intrinsic → Option Nat → Kind → Prop
  | objects : Shaped objectPrototype none .ordinary
  | arrays : Shaped arrayPrototype (some objectPrototype.ref) (.array #[] 0 true)
  | error : Shaped (errorPrototype .error) (some objectPrototype.ref) .ordinary
  | errors {kind : ErrorClass} (special : kind ≠ .error) :
    Shaped (errorPrototype kind) (some (errorPrototype .error).ref) .ordinary

@[simp] theorem nativeObject_lent (f : Native) (name : String) (length : Nat) :
    (nativeObject f name length).lent = none := rfl

/-- What is asked of the objects of a realm, by their references, and the keys that may be given to them. -/
structure Standard where
  fit : Nat → Obj → Prop
  usual : Key → Prop
  aside : ∀ {ref}, Aside ref → ∀ o, fit ref o
  shapes : ∀ {i proto kind}, Shaped i proto kind → ∀ o, fit i.ref o → fit i.ref { o with proto, kind }
  stores : ∀ {k}, usual k → ∀ ref o p, fit ref o → fit ref (o.store k p)
  symbols : ∀ id, usual (.symbol id)
  constructors : usual (.text "constructor")

/-- A realm has all that it begins with and nothing that was lent, and its objects are as a standard asks. -/
structure Realm.Meets (S : Standard) (r : Realm) : Prop where
  size : Intrinsic.count ≤ r.objects.size
  fit : ∀ ref o, r.objects[ref]? = some o → S.fit ref o
  unlent : ∀ ref, r.loan? ref = none

namespace Realm.Meets

variable {S : Standard} {r : Realm} {ref target proto : Nat} {k : Key}

/-! ## Steps -/

theorem change {T : Standard} (h : r.Meets S) {f : Obj → Obj} (here : ∀ o, S.fit ref o → T.fit ref (f o))
    (elsewhere : ∀ other ≠ ref, ∀ o, S.fit other o → T.fit other o)
    (own : ∀ o, o.lent = none → (f o).lent = none) : (r.modifyObject ref f).Meets T where
  size := by
    unfold Realm.modifyObject
    rw [Array.size_modify]
    exact h.size
  fit other o found := by
    unfold Realm.modifyObject at found
    rw [Array.getElem?_modify] at found
    split at found
    · rename_i same
      obtain ⟨before, there, rfl⟩ := Option.map_eq_some_iff.mp found
      exact same ▸ here before (same ▸ h.fit _ _ there)
    · rename_i other
      exact elsewhere _ (Ne.symm other) o (h.fit _ o found)
  unlent other := by
    refine ((Still.modifyObject r ref fun o found => ?_).loans other).trans (h.unlent other)
    have none : o.lent = none := by
      rw [← h.unlent ref, loan?, found, Option.bind_some]
    rw [own o none, none]

theorem modify (h : r.Meets S) {f : Obj → Obj} (keeps : ∀ o, S.fit ref o → S.fit ref (f o))
    (own : ∀ o, o.lent = none → (f o).lent = none) : (r.modifyObject ref f).Meets S :=
  h.change keeps (fun _ _ _ => id) own

theorem modify_aside (h : r.Meets S) (aside : Aside ref) {f : Obj → Obj}
    (own : ∀ o, o.lent = none → (f o).lent = none) : (r.modifyObject ref f).Meets S :=
  h.modify (fun _ _ => S.aside aside _) own

theorem replace_aside (h : r.Meets S) (aside : Aside ref) {o : Obj} (own : o.lent = none) :
    (r.modifyObject ref fun _ => o).Meets S := h.modify_aside aside fun _ _ => own

theorem inherit_aside (h : r.Meets S) (aside : Aside ref) (proto : Option Nat) :
    (r.modifyObject ref fun o => { o with proto }).Meets S := h.modify_aside aside fun _ => id

theorem aside_size (h : r.Meets S) : Aside r.objects.size :=
  have later (i : Intrinsic) : r.objects.size ≠ i.ref := Nat.ne_of_gt (Nat.lt_of_lt_of_le i.ref_lt h.size)
  ⟨later _, later _, fun _ => later _⟩

theorem allocate (h : r.Meets S) {o : Obj} (own : o.lent = none) : (r.allocate o).2.Meets S where
  size := by
    unfold Realm.allocate
    rw [Array.size_push]
    exact Nat.le_succ_of_le h.size
  fit ref o' found := by
    unfold Realm.allocate at found
    rw [Array.getElem?_push] at found
    split at found
    · rename_i same
      exact S.aside (same ▸ h.aside_size) o'
    · exact h.fit ref o' found
  unlent ref := ((Still.allocate r own).loans ref).trans (h.unlent ref)

theorem aside_allocate (h : r.Meets S) (o : Obj) : Aside (r.allocate o).1 := h.aside_size

theorem give_aside (h : r.Meets S) (aside : Aside target) (k : Key) (p : Property) :
    (r.give target k p).Meets S := h.modify_aside aside fun o none => (o.store_lent k p).trans none

theorem give_usual (h : r.Meets S) (usual : S.usual k) (target : Nat) (p : Property) :
    (r.give target k p).Meets S := h.modify (fun o => S.stores usual target o p) fun o none => (o.store_lent k p).trans none

theorem shape (h : r.Meets S) {i : Intrinsic} (aside : Aside i.ref) (proto : Option Nat) (kind : Kind) :
    (r.shape i proto kind).Meets S := h.modify_aside aside fun _ => id

theorem shape_shaped (h : r.Meets S) {i : Intrinsic} {proto : Option Nat} {kind : Kind} (shaped : Shaped i proto kind) :
    (r.shape i proto kind).Meets S := h.modify (S.shapes shaped) fun _ => id

theorem addNative (h : r.Meets S) (f : Native) (name : String) (length : Nat) :
    (r.addNative f name length).2.Meets S := h.allocate rfl

theorem aside_addNative (h : r.Meets S) (f : Native) (name : String) (length : Nat) :
    Aside (r.addNative f name length).1 := h.aside_size

theorem giveMethods_aside (h : r.Meets S) (aside : Aside target) (entries : List Entry) :
    (r.giveMethods target entries).Meets S :=
  List.foldlRecOn entries _ h fun _ h _ _ => (h.addNative _ _ _).give_aside aside _ _

theorem giveMethods_usual (h : r.Meets S) (target : Nat) {entries : List Entry}
    (usual : ∀ e ∈ entries, S.usual (.text e.1)) : (r.giveMethods target entries).Meets S :=
  List.foldlRecOn entries _ h fun _ h e he => (h.addNative _ _ _).give_usual (usual e he) _ _

theorem giveSymbols (h : r.Meets S) (target : Nat) (entries : List (WellKnown × Nat × Native)) :
    (r.giveSymbols target entries).Meets S :=
  List.foldlRecOn entries _ h fun _ h _ _ => (h.addNative _ _ _).give_usual (S.symbols _) _ _

theorem giveGetters (h : r.Meets S) (aside : Aside target) (entries : List (String × Native)) :
    (r.giveGetters target entries).Meets S :=
  List.foldlRecOn entries _ h fun _ h _ _ => (h.addNative _ _ _).give_aside aside _ _

theorem giveSpecies (h : r.Meets S) (target : Nat) : (r.giveSpecies target).Meets S :=
  (h.addNative _ _ _).give_usual (S.symbols _) _ _

theorem giveAlias (h : r.Meets S) (aside : Aside target) (k name : Key) :
    (r.giveAlias target k name).Meets S := by
  unfold Realm.giveAlias
  split
  · exact h.give_aside aside _ _
  · exact h

theorem giveTag (h : r.Meets S) (target : Nat) (tag : String) : (r.giveTag target tag).Meets S :=
  h.give_usual (S.symbols _) _ _

theorem giveConstants (h : r.Meets S) (aside : Aside target) (constants : List (String × Float)) :
    (r.giveConstants target constants).Meets S :=
  List.foldlRecOn constants _ h fun _ h _ _ => h.give_aside aside _ _

theorem giveGlobal (h : r.Meets S) (name : String) (v : Value) : (r.giveGlobal name v).Meets S :=
  h.give_aside (by simp) _ _

theorem makeConstructor (h : r.Meets S) (aside : Aside ref) (entry : Entry) (proto : Nat) :
    (r.makeConstructor ref entry proto).Meets S :=
  ((h.replace_aside aside rfl).give_aside aside _ _).give_usual S.constructors _ _

theorem addConstructor (h : r.Meets S) (entry : Entry) (proto : Nat) :
    (r.addConstructor entry proto).2.Meets S :=
  ((h.allocate rfl).makeConstructor (h.aside_size) entry proto).giveGlobal _ _

theorem aside_addConstructor (h : r.Meets S) (entry : Entry) (proto : Nat) :
    Aside (r.addConstructor entry proto).1 := h.aside_size

theorem addLibrary (h : r.Meets S) (name : String) (entries : List Entry) :
    (r.addLibrary name entries).2.Meets S :=
  (((h.allocate rfl).giveTag _ name).giveMethods_aside (h.aside_size) entries).giveGlobal _ _

theorem aside_addLibrary (h : r.Meets S) (name : String) (entries : List Entry) :
    Aside (r.addLibrary name entries).1 := h.aside_size

theorem foldl {α : Type} (h : r.Meets S) {f : Realm → α → Realm} (step : ∀ r a, r.Meets S → (f r a).Meets S)
    (as : List α) : (as.foldl f r).Meets S := List.foldlRecOn as f h fun r h a _ => step r a h

/-! ## Libraries -/

-- The steps are taken as they are from here on: their lemmas say what is needed of them.
attribute [local irreducible] Realm.allocate Realm.modifyObject Realm.give Realm.shape Realm.addNative
  Realm.giveMethods Realm.giveSymbols Realm.giveGetters Realm.giveSpecies Realm.giveAlias Realm.giveTag
  Realm.giveConstants Realm.giveGlobal Realm.makeConstructor Realm.addConstructor Realm.addLibrary

theorem setUpGlobals (h : r.Meets S) : (setUpGlobals r).Meets S := by
  unfold Script.setUpGlobals
  dsimp only
  apply_rules [shape, giveMethods_aside, giveConstants, give_aside, giveGlobal, addLibrary, aside_addLibrary]
  all_goals simp

theorem setUpTexts (h : r.Meets S) : (setUpTexts r).Meets S := by
  unfold Script.setUpTexts
  dsimp only
  apply_rules [shape, addConstructor, aside_addConstructor, makeConstructor, giveMethods_aside, giveAlias, giveSymbols,
    giveGlobal, giveSpecies, giveGetters]
  all_goals simp

theorem setUpPromises (h : r.Meets S) : (setUpPromises r).Meets S := by
  unfold Script.setUpPromises
  dsimp only
  apply_rules [shape, makeConstructor, giveGlobal, giveMethods_aside, giveSpecies, giveTag]
  all_goals simp

theorem setUpDates (h : r.Meets S) : (setUpDates r).Meets S := by
  unfold Script.setUpDates
  dsimp only
  apply_rules [shape, addConstructor, aside_addConstructor, giveMethods_aside, giveAlias, addNative, give_aside]
  all_goals simp

theorem setUpProxies (h : r.Meets S) : (setUpProxies r).Meets S := by
  unfold Script.setUpProxies
  dsimp only
  apply_rules [addNative, aside_addNative, giveMethods_aside, giveGlobal]

theorem setUpCollection (h : r.Meets S) (isSet weak : Bool) {i : Intrinsic} (aside : Aside i.ref)
    (names : List (String × Nat × CollectionFunction)) : (setUpCollection r isSet weak i names).Meets S := by
  unfold Script.setUpCollection
  dsimp only
  split <;>
    apply_rules [shape, addConstructor, aside_addConstructor, giveSpecies, giveMethods_aside, giveGetters, giveTag]

theorem setUpCollections (h : r.Meets S) : (setUpCollections r).Meets S := by
  unfold Script.setUpCollections
  dsimp only
  apply_rules [setUpCollection, giveAlias]
  all_goals simp

theorem setUpTyped (h : r.Meets S) : (setUpTyped r).Meets S := by
  unfold Script.setUpTyped
  dsimp only
  refine List.foldlRecOn _ _ ?_ fun r h t _ => ?_
  · apply_rules [give_aside, addNative]
    · refine List.foldlRecOn _ _ ?_ fun r h name _ => ?_
      · apply_rules [shape, makeConstructor, giveMethods_aside, giveSpecies, giveGetters, giveAlias]
        all_goals simp
      · split
        · exact h.give_aside (by simp) _ _
        · exact h
    · simp
  · apply_rules [shape, makeConstructor, inherit_aside, replace_aside, giveGlobal, giveConstants]
    all_goals simp

theorem setUpBuffers (h : r.Meets S) : (setUpBuffers r).Meets S := by
  unfold Script.setUpBuffers
  dsimp only
  apply_rules [setUpTyped, shape, makeConstructor, giveGlobal, giveMethods_aside, giveSpecies, giveGetters, giveTag,
    addConstructor]
  all_goals simp

theorem setUpPrimitives (h : r.Meets S) : (setUpPrimitives r).Meets S := by
  unfold Script.setUpPrimitives
  dsimp only
  -- Its last constructor is asked for twice, so what comes before it is settled once.
  refine giveTag (giveMethods_aside (giveMethods_aside (addConstructor ?before _ _)
    (aside_addConstructor ?before _ _) _) (by simp) _) _ _
  apply_rules [foldl, giveTag, giveMethods_aside, addConstructor, aside_addConstructor, shape, give_aside, addNative,
    giveGetters, giveGlobal, makeConstructor, giveConstants]
  case step =>
    intro r name h
    split
    · refine h.give_aside ?_ _ _
      apply_rules [giveMethods_aside, addConstructor, aside_addConstructor, shape]
      all_goals simp
    · exact h
  case step => exact fun r w h => h.give_aside (by simp) _ _
  all_goals simp

theorem setUpCoroutines (h : r.Meets S) : (setUpCoroutines r).Meets S := by
  unfold Script.setUpCoroutines
  dsimp only
  refine List.foldlRecOn _ _ ?_ fun r h made there => ?_
  · apply_rules [shape, giveSymbols, allocate, giveMethods_aside, giveTag]
    all_goals simp
  · simp only [List.mem_cons, List.not_mem_nil, or_false] at there
    obtain rfl | rfl | rfl := there <;>
      apply_rules [shape, giveTag, give_aside, inherit_aside, replace_aside, allocate, aside_allocate]
    all_goals simp

/-! Some libraries give names to the prototypes of which something may be asked. -/

theorem setUpObjects (h : r.Meets S) (methods : ∀ e ∈ objectMethods, S.usual (.text e.1))
    (accessor : S.usual (.text "__proto__")) : (setUpObjects r).Meets S := by
  unfold Script.setUpObjects
  dsimp only
  have giveMethods {r : Realm} (h : r.Meets S) := h.giveMethods_usual objectPrototype.ref methods
  have giveAccessor {r : Realm} (h : r.Meets S) := h.give_usual accessor objectPrototype.ref
  apply_rules [giveMethods, giveAccessor, shape_shaped, Shaped.objects, inherit_aside, replace_aside,
    giveMethods_aside, addNative, addConstructor, give_aside, aside_addConstructor]
  all_goals simp

theorem setUpArrays (h : r.Meets S) (methods : ∀ e ∈ arrayMethods, S.usual (.text e.1))
    (values : S.usual (.text "values")) : (setUpArrays r).Meets S := by
  unfold Script.setUpArrays
  dsimp only
  refine List.foldlRecOn _ _ ?_ fun r h iterator there => ?_
  · have giveMethods {r : Realm} (h : r.Meets S) := h.giveMethods_usual arrayPrototype.ref methods
    have giveValues {r : Realm} (h : r.Meets S) := h.give_usual values arrayPrototype.ref
    have giveSymbol {r : Realm} (h : r.Meets S) (w : WellKnown) := h.give_usual (S.symbols w.id) arrayPrototype.ref
    apply_rules [giveMethods, giveValues, giveSymbol, shape_shaped, Shaped.arrays, makeConstructor, giveGlobal,
      giveMethods_aside, giveSpecies, inherit_aside, replace_aside, allocate]
    all_goals simp
  · have aside : Aside iterator.1.ref := by
      simp only [List.mem_cons, List.not_mem_nil, or_false] at there
      obtain rfl | rfl | rfl | rfl | rfl := there <;> simp
    apply_rules [giveTag, giveMethods_aside, shape]

theorem addErrors (h : r.Meets S) (text : S.usual (.text "toString")) (name : S.usual (.text "name"))
    (message : S.usual (.text "message")) : (addErrors r).2.Meets S := by
  unfold Script.addErrors
  dsimp only
  apply_rules [shape_shaped, Shaped.error, addConstructor, giveMethods_usual, give_usual]
  simpa using text

theorem addErrorClass (h : r.Meets S) (name : S.usual (.text "name")) (message : S.usual (.text "message"))
    (base : Nat) {kind : ErrorClass} (special : kind ≠ .error) : (addErrorClass base r kind).Meets S := by
  unfold Script.addErrorClass
  dsimp only
  apply_rules [shape_shaped, Shaped.errors, addConstructor, aside_addConstructor, inherit_aside, replace_aside, give_usual]

theorem setUpErrors (h : r.Meets S) (text : S.usual (.text "toString")) (name : S.usual (.text "name"))
    (message : S.usual (.text "message")) : (setUpErrors r).Meets S :=
  List.foldlRecOn _ _ (h.addErrors text name message) fun _ h kind there =>
    h.addErrorClass name message _ ((by decide : ∀ kind ∈ ErrorClass.all.drop 1, kind ≠ .error) kind there)

theorem install (h : r.Meets S) (table : List (String × Capability)) : (r.install table).Meets S :=
  List.foldlRecOn table _ h fun _ h _ _ => (h.addNative _ _ _).give_aside (by simp) _ _

end Realm.Meets

/-! ## New realms -/

/-- The realm of empty objects with which setting up begins. -/
def Realm.blank (maxDepth : Nat) : Realm :=
  { objects := Array.replicate Intrinsic.count {}
    scopes := #[
      { parent := none, object := some Intrinsic.globalObject.ref, isVariableScope := true
        bindings := #[⟨thisName, some (.object Intrinsic.globalObject.ref), .free⟩] }]
    symbols := (WellKnown.all.map fun w => some (Str.ofString s!"Symbol.{w.name}")).toArray, maxDepth }

/-- A realm before its errors are set up. -/
def Realm.errorless (maxDepth : Nat) : Realm := setUpCoroutines (setUpGlobals (setUpObjects (blank maxDepth)))

/-- The names that are given to the prototypes of which something may be asked. -/
def givenNames : List String :=
  ["__proto__", "values", "toString", "name", "message"] ++ (objectMethods ++ arrayMethods).map Prod.fst

theorem objectMethods_given : ∀ e ∈ objectMethods, e.1 ∈ givenNames := fun _ he =>
  List.mem_append_right _ (List.mem_map_of_mem (List.mem_append_left _ he))

theorem arrayMethods_given : ∀ e ∈ arrayMethods, e.1 ∈ givenNames := fun _ he =>
  List.mem_append_right _ (List.mem_map_of_mem (List.mem_append_right _ he))

namespace Realm.Meets

variable {S : Standard}

theorem blank (empty : ∀ ref, S.fit ref {}) (maxDepth : Nat) : (Realm.blank maxDepth).Meets S where
  size := Nat.le_of_eq Array.size_replicate.symm
  fit ref o found := by
    unfold Realm.blank at found
    rw [Array.getElem?_replicate] at found
    split at found
    · injection found with found
      exact found ▸ empty ref
    · cases found
  unlent ref := by
    unfold Realm.loan? Realm.blank
    rw [Array.getElem?_replicate]
    split <;> rfl

section Given

variable (empty : ∀ ref, S.fit ref {}) (given : ∀ name ∈ givenNames, S.usual (.text name)) (maxDepth : Nat)
include empty given

theorem errorless : (Realm.errorless maxDepth).Meets S := by
  have objects := (blank empty maxDepth).setUpObjects (fun e he => given _ (objectMethods_given e he))
    (given _ (by decide))
  unfold Realm.errorless
  exact objects.setUpGlobals.setUpCoroutines

theorem withErrors : (Script.setUpErrors (Realm.errorless maxDepth)).Meets S :=
  (errorless empty given maxDepth).setUpErrors (given _ (by decide)) (given _ (by decide)) (given _ (by decide))

end Given

theorem initial {maxDepth : Nat} (errors : (Script.setUpErrors (Realm.errorless maxDepth)).Meets S)
    (methods : ∀ e ∈ arrayMethods, S.usual (.text e.1)) (values : S.usual (.text "values")) :
    (Realm.initial maxDepth).Meets S :=
  have arrays := errors.setUpPrimitives.setUpTexts.setUpArrays methods values
  arrays.setUpCollections.setUpPromises.setUpBuffers.setUpDates.setUpProxies

theorem initial_of_given (empty : ∀ ref, S.fit ref {}) (given : ∀ name ∈ givenNames, S.usual (.text name))
    (maxDepth : Nat) : (Realm.initial maxDepth).Meets S :=
  (withErrors empty given maxDepth).initial (fun e he => given _ (arrayMethods_given e he)) (given _ (by decide))

end Realm.Meets

theorem Context.create_realm {config : EngineConfig} {table : List (String × Capability)} {c : Context}
    (h : Context.create config table = .ok c) : ∃ maxDepth, c.realm = (Realm.initial maxDepth).install table := by
  unfold Context.create at h
  split at h
  · cases h
  · injection h with h
    exact ⟨config.maxStackSize.getD usualStack / callSize, by rw [← h]⟩

/-- Nothing is asked of any object. -/
def Standard.lax : Standard where
  fit _ _ := True
  usual _ := True
  aside _ _ := trivial
  shapes _ _ _ := trivial
  stores _ _ _ _ _ := trivial
  symbols _ := trivial
  constructors := trivial

theorem Context.create_unlent {config : EngineConfig} {table : List (String × Capability)} {c : Context}
    (h : Context.create config table = .ok c) (ref : Nat) : c.realm.loan? ref = none := by
  obtain ⟨maxDepth, realm⟩ := Context.create_realm h
  have initial : (Realm.initial maxDepth).Meets .lax :=
    .initial_of_given (fun _ => trivial) (fun _ _ => trivial) maxDepth
  rw [realm]
  exact (initial.install table).unlent ref

end BrainHost.Script
