import BrainHost.Proofs.Json.Units
import BrainHost.Proofs.Script.Gives
import BrainHost.Proofs.Script.Pristine
import BrainHost.Proofs.Script.Setup

/-! # Errors of sources

What is thrown because of a fault in a source is an error whose prototype says what it is. As long as no
script touched the prototypes of errors, the error tells its name, its message and its place without
asking anyone. -/

namespace BrainHost.Script

open Intrinsic Script.Act

variable {r r' : Realm} {o : Obj} {ref : Nat}

/-! ## Reading errors -/

/-- An ordinary object or an error: it has nothing but its properties. -/
def Kind.Plain (kind : Kind) : Prop := kind = .ordinary ∨ kind = .error

theorem ownProperty_plain (found : r.objects[ref]? = some o) (plain : o.kind.Plain) (k : Key) :
    r.ownProperty ref k = o.properties.get? k := by
  unfold Realm.ownProperty
  rw [Realm.object_of_getElem? found]
  obtain plain | plain := plain <;> simp only [plain]

theorem getFrom_plain (found : r.objects[ref]? = some o) (plain : o.kind.Plain) (n : Nat) (k : Key) (v : Value) :
    getFrom (n + 1) ref k v r = getFrom.ordinary n o ref k v r := by
  rw [getFrom, getObject_bind found]
  obtain plain | plain := plain <;> rw [plain]

theorem getFrom_own (found : r.objects[ref]? = some o) (plain : o.kind.Plain) {k : Key} {v : Value} {w e c : Bool}
    (own : o.properties.get? k = some ⟨.data v w, e, c⟩) (n : Nat) (receiver : Value) :
    getFrom (n + 1) ref k receiver r = .ok v r := by
  rw [getFrom_plain found plain, getFrom.ordinary, Act.read_bind, ownProperty_plain found plain, own]
  rfl

theorem getFrom_inherited (found : r.objects[ref]? = some o) (plain : o.kind.Plain) {k : Key}
    (unset : o.properties.get? k = none) (n : Nat) (receiver : Value) :
    getFrom (n + 1) ref k receiver r = match o.proto with
      | some p => getFrom n p k receiver r
      | none => .ok .undefined r := by
  rw [getFrom_plain found plain, getFrom.ordinary, Act.read_bind, ownProperty_plain found plain, unset]
  cases o.proto <;> rfl

/-! ## Realms whose errors are as they were -/

/-- The names under which an error may tell its place, beyond its stack. -/
def placeNames : List String := ["fileName", "lineNumber", "columnNumber"]

/-- An ordinary object that tells no place and comes from an object of one reference, if from any. -/
structure Obj.Placeless (parent : Option Nat) (o : Obj) : Prop where
  ordinary : o.kind = .ordinary
  unset : ∀ name ∈ placeNames, o.properties.get? (.text name) = none
  proto : o.proto = none ∨ o.proto = parent

/-- What syntax errors come from tells no place, and they have their name from it. -/
structure Realm.Frank (r : Realm) : Prop where
  objects : ∃ o, r.objects[objectPrototype.ref]? = some o ∧ o.Placeless none
  errors : ∃ o, r.objects[(errorPrototype .error).ref]? = some o ∧ o.Placeless (some objectPrototype.ref)
  syntaxErrors : ∃ o, r.objects[(errorPrototype .syntaxError).ref]? = some o ∧
    o.Placeless (some (errorPrototype .error).ref) ∧
      o.properties.get? (.text "name") = some (.hidden (.text "SyntaxError"))

namespace Realm.Frank

theorem grows (h : r.Frank) (h' : r.Grows r') : r'.Frank where
  objects := by
    obtain ⟨o, found, rest⟩ := h.objects
    exact ⟨o, h' _ _ found, rest⟩
  errors := by
    obtain ⟨o, found, rest⟩ := h.errors
    exact ⟨o, h' _ _ found, rest⟩
  syntaxErrors := by
    obtain ⟨o, found, rest⟩ := h.syntaxErrors
    exact ⟨o, h' _ _ found, rest⟩

variable (h : r.Frank) (n : Nat) (receiver : Value)
include h

theorem getFrom_name : getFrom (n + 1) (errorPrototype .syntaxError).ref (.text "name") receiver r =
    .ok (.text "SyntaxError") r := by
  obtain ⟨o, found, placeless, named⟩ := h.syntaxErrors
  exact getFrom_own found (.inl placeless.ordinary) named n receiver

theorem getFrom_place {name : String} (place : name ∈ placeNames) :
    getFrom (n + 3) (errorPrototype .syntaxError).ref (.text name) receiver r = .ok .undefined r := by
  have objects : getFrom (n + 1) objectPrototype.ref (.text name) receiver r = .ok .undefined r := by
    obtain ⟨o, found, placeless⟩ := h.objects
    rw [getFrom_inherited found (.inl placeless.ordinary) (placeless.unset _ place),
      or_self_iff.mp placeless.proto]
  have errors : getFrom (n + 2) (errorPrototype .error).ref (.text name) receiver r = .ok .undefined r := by
    obtain ⟨o, found, placeless⟩ := h.errors
    rw [getFrom_inherited found (.inl placeless.ordinary) (placeless.unset _ place)]
    obtain root | parent := placeless.proto
    · rw [root]
    · rw [parent]
      exact objects
  obtain ⟨o, found, placeless, -⟩ := h.syntaxErrors
  rw [getFrom_inherited found (.inl placeless.ordinary) (placeless.unset _ place)]
  obtain root | parent := placeless.proto
  · rw [root]
  · rw [parent]
    exact errors

end Realm.Frank

/-! ## New realms -/

theorem Key.text_ne {name name' : String} (h : name ≠ name') : Key.text name ≠ .text name' :=
  fun e => h (Str.ofString_injective (Key.name.inj e))

/-- A key that tells no place. -/
def Key.Other (k : Key) : Prop := ∀ name ∈ placeNames, k ≠ .text name

theorem Key.Other.text {name : String} (h : name ∉ placeNames) : (Key.text name).Other :=
  fun _ place => Key.text_ne fun e => h (e ▸ place)

theorem Obj.store_ordinary (ordinary : o.kind = .ordinary) (k : Key) (p : Property) : o.store k p = o.put k p := by
  unfold Obj.store
  cases k <;> simp only [ordinary]

namespace Obj.Placeless

variable {parent : Option Nat}

theorem store (h : o.Placeless parent) {k : Key} (other : k.Other) (p : Property) : (o.store k p).Placeless parent := by
  rw [Obj.store_ordinary h.ordinary]
  exact ⟨h.ordinary, fun name place => (Properties.get?_insert_of_ne (other name place) _ p).trans (h.unset name place),
    h.proto⟩

theorem shape (h : o.Placeless parent) {proto : Option Nat} (proper : proto = none ∨ proto = parent) :
    { o with proto, kind := .ordinary : Obj }.Placeless parent := ⟨rfl, h.unset, proper⟩

end Obj.Placeless

/-- What syntax errors come from tells no place. -/
def Standard.placeless : Standard where
  fit ref o :=
    (ref = objectPrototype.ref → o.Placeless none) ∧
      (ref = (errorPrototype .error).ref → o.Placeless (some objectPrototype.ref)) ∧
        (ref = (errorPrototype .syntaxError).ref → o.Placeless (some (errorPrototype .error).ref))
  usual := Key.Other
  aside aside _ := ⟨fun e => absurd e aside.1, fun e => absurd e (aside.2.2 _), fun e => absurd e (aside.2.2 _)⟩
  shapes shaped o fit := by
    cases shaped with
    | objects => exact ⟨fun _ => (fit.1 rfl).shape (.inl rfl), nofun, nofun⟩
    | arrays => exact ⟨nofun, nofun, nofun⟩
    | error => exact ⟨nofun, fun _ => (fit.2.1 rfl).shape (.inr rfl), nofun⟩
    | @errors kind special =>
      refine ⟨?_, fun e => ?_, fun e => (fit.2.2 e).shape (.inr rfl)⟩
      · cases kind <;> exact nofun
      · cases kind with
        | error => exact absurd rfl special
        | _ => exact absurd e (by decide)
  stores other ref o p fit :=
    ⟨fun e => (fit.1 e).store other p, fun e => (fit.2.1 e).store other p, fun e => (fit.2.2 e).store other p⟩
  symbols id := nofun
  constructors := .text (by decide)

/-- Syntax errors have their name from what they come from. -/
def Standard.named : Standard where
  fit ref o := ref = (errorPrototype .syntaxError).ref →
    o.kind = .ordinary ∧ o.properties.get? (.text "name") = some (.hidden (.text "SyntaxError"))
  usual k := k ≠ .text "name"
  aside aside _ e := absurd e (aside.2.2 _)
  shapes shaped o fit e := by
    cases shaped with
    | objects => exact absurd e (by decide)
    | arrays => exact absurd e (by decide)
    | error => exact absurd e (by decide)
    | errors => exact ⟨rfl, (fit e).2⟩
  stores other ref o p fit e := by
    obtain ⟨ordinary, named⟩ := fit e
    rw [Obj.store_ordinary ordinary]
    exact ⟨ordinary, (Properties.get?_insert_of_ne other _ p).trans named⟩
  symbols id := nofun
  constructors := Key.text_ne (by decide)

namespace Realm.Meets

theorem frank (placeless : r.Meets .placeless) (named : r.Meets .named) : r.Frank := by
  have there (i : Intrinsic) : ∃ o, r.objects[i.ref]? = some o :=
    ⟨_, Array.getElem?_eq_getElem (Nat.lt_of_lt_of_le i.ref_lt placeless.size)⟩
  obtain ⟨o, found⟩ := there objectPrototype
  obtain ⟨o', found'⟩ := there (errorPrototype .error)
  obtain ⟨o'', found''⟩ := there (errorPrototype .syntaxError)
  exact ⟨⟨o, found, (placeless.fit _ _ found).1 rfl⟩, ⟨o', found', (placeless.fit _ _ found').2.1 rfl⟩,
    ⟨o'', found'', (placeless.fit _ _ found'').2.2 rfl, (named.fit _ _ found'' rfl).2⟩⟩

theorem named (h : r.Meets .placeless) :
    (r.give (errorPrototype .syntaxError).ref (.text "name") (.hidden (.text "SyntaxError"))).Meets .named := by
  refine h.change (fun o fit _ => ?_) (fun _ other _ _ e => absurd e other)
    fun o none => (o.store_lent _ _).trans none
  have ordinary := (fit.2.2 rfl).ordinary
  rw [Obj.store_ordinary ordinary]
  exact ⟨ordinary, Properties.get?_insert_self _ _ _⟩

-- The steps are taken as they are from here on: their lemmas say what is needed of them.
attribute [local irreducible] Realm.allocate Realm.modifyObject Realm.give Realm.shape Realm.addConstructor

theorem addErrorClass_named (h : r.Meets .placeless) (base : Nat) :
    (Script.addErrorClass base r .syntaxError).Meets .named := by
  unfold Script.addErrorClass
  dsimp only
  refine give_usual (named ?_) (Key.text_ne (by decide)) _ _
  have special : ErrorClass.syntaxError ≠ .error := by decide
  apply_rules [shape_shaped, Shaped.errors, addConstructor, aside_addConstructor, inherit_aside]

theorem addErrorClass_other (h : r.Meets .named) (base : Nat) {kind : ErrorClass} (special : kind ≠ .error)
    (other : kind ≠ .syntaxError) : (Script.addErrorClass base r kind).Meets .named := by
  unfold Script.addErrorClass
  dsimp only
  have elsewhere : (errorPrototype kind).ref ≠ (errorPrototype .syntaxError).ref := by
    cases kind with
    | syntaxError => exact absurd rfl other
    | _ => decide
  have giveName {r : Realm} (h : r.Meets .named) (p : Property) :
      (r.give (errorPrototype kind).ref (.text "name") p).Meets .named := by
    unfold Realm.give
    exact h.modify (fun _ _ same => absurd same elsewhere) fun o none => (o.store_lent _ _).trans none
  refine give_usual (giveName ?_ _) (Key.text_ne (by decide)) _ _
  apply_rules [shape_shaped, Shaped.errors, addConstructor, aside_addConstructor, inherit_aside]

theorem setUpErrors_named (h : r.Meets .placeless) : (Script.setUpErrors r).Meets .named := by
  have name : Key.Other (.text "name") := .text (by decide)
  have message : Key.Other (.text "message") := .text (by decide)
  have order : ErrorClass.all.drop 1 = [.evalError, .rangeError, .referenceError] ++
      .syntaxError :: [.typeError, .uriError, .internalError, .aggregateError] := rfl
  unfold Script.setUpErrors
  dsimp only
  rw [order, List.foldl_append, List.foldl_cons]
  refine List.foldlRecOn _ _ (addErrorClass_named (List.foldlRecOn _ _ (h.addErrors (.text (by decide)) name message)
    fun r h kind there => ?_) _) fun r h kind there => ?_
  · exact h.addErrorClass name message _
      ((by decide : ∀ kind ∈ [ErrorClass.evalError, .rangeError, .referenceError], kind ≠ .error) kind there)
  · obtain ⟨special, other⟩ :=
      (by decide : ∀ kind ∈ [ErrorClass.typeError, .uriError, .internalError, .aggregateError],
        kind ≠ .error ∧ kind ≠ .syntaxError) kind there
    exact h.addErrorClass_other _ special other

theorem initial_errors (maxDepth : Nat) :
    (Realm.initial maxDepth).Meets .placeless ∧ (Realm.initial maxDepth).Meets .named := by
  have empty (parent : Option Nat) : ({} : Obj).Placeless parent := ⟨rfl, fun _ _ => rfl, .inl rfl⟩
  have fits (ref : Nat) : Standard.placeless.fit ref {} := ⟨fun _ => empty _, fun _ => empty _, fun _ => empty _⟩
  have given : ∀ name ∈ givenNames, Key.Other (.text name) := fun name there =>
    .text ((by decide : ∀ name ∈ givenNames, name ∉ placeNames) name there)
  have unnamed : ∀ e ∈ arrayMethods, Key.text e.1 ≠ .text "name" := fun e he =>
    Key.text_ne ((by decide : ∀ e ∈ arrayMethods, e.1 ≠ "name") e he)
  exact ⟨initial_of_given fits given maxDepth,
    (errorless fits given maxDepth).setUpErrors_named.initial unnamed (Key.text_ne (by decide))⟩

end Realm.Meets

theorem Context.create_frank {config : EngineConfig} {table : List (String × Capability)} {c : Context}
    (h : Context.create config table = .ok c) : c.realm.Frank := by
  obtain ⟨maxDepth, made⟩ := create_realm h
  obtain ⟨placeless, named⟩ := Realm.Meets.initial_errors maxDepth
  rw [made]
  exact (placeless.install table).frank (named.install table)

end BrainHost.Script
