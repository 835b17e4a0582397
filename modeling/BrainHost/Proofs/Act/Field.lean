import BrainHost.Proofs.Act.Free
import BrainHost.Proofs.Service.Errors
import BrainHost.Proofs.Script.Calm

/-! # Fields of actors

How a script that reads or writes a field is answered. A request that does not get through to the host
is logged, and comes back without a value. -/

namespace BrainHost

variable {E : Engine} {K : HostKind} {link : Link E K} {w u v : World E K}

/-! ## Answers -/

def FieldValue.kind : FieldValue → FieldKind
  | boolean _ => .boolean
  | float _ => .float
  | vector3 _ _ _ => .vector3
  | quaternion _ _ _ _ => .quaternion
  | string _ => .string

/-- The parts that a script's object gets of a value. -/
def FieldValue.parts : FieldValue → List (String × Float32)
  | vector3 x y z => [("x", x), ("y", y), ("z", z)]
  | quaternion x y z w => [("x", x), ("y", y), ("z", z), ("w", w)]
  | _ => []

/-- Values that are made of parts. -/
def FieldKind.inParts : FieldKind → Bool
  | vector3 => true
  | quaternion => true
  | _ => false

/-- Getters of the host give values of the kind that they are for. -/
def Link.Typed (link : Link E K) : Prop :=
  ∀ {kind actor field w value v}, link (.getField kind actor field) w = .done (.value value) v →
    value.kind = kind

/-- How fields of actors are answered: a value is one of the field's kind, with an object at hand if it
comes in parts, and only a string that is no text cannot be read. -/
def Request.Fits {V : Type} : Fitting V
  | .field .get kind args, answer =>
    answer = .none ∨ ∃ value, answer = .field value ∧ value.kind = kind ∧
      (kind.inParts = true → args[2]? = some .object)
  | .field .set kind args, answer =>
    answer = .none ∨ answer = .unreadable ∧ kind = .string ∧ args[2]? = some (.text none)
  | _, _ => True

namespace Act

theorem isReadable_object {kind : FieldKind} {args : List Argument} (hkind : kind.inParts = true)
    (h : isReadable kind args link w = .done true v) : args[2]? = some .object := by
  have received : true = receives args kind := ((isReadable_tells kind args).eq_of_done h).1
  have object : isObject args[2]? = true := by cases kind <;> first | exact received.symm | cases hkind
  exact isObject_iff.mp object

theorem readField_kind (hlink : link.Typed) {kind : FieldKind} {actor field : Nat} {value : FieldValue}
    (h : readField kind actor field link w = .done (some value) v) : value.kind = kind := by
  obtain ⟨reply, u, hreply, hrest⟩ := bind_eq_done.mp h
  cases reply with
  | none => cases hrest
  | filled buffer => cases hrest
  | value given =>
    have hgiven : given.kind = kind := hlink hreply
    cases given with
    | string s =>
      obtain ⟨check, u', -, hrest⟩ := bind_eq_done.mp hrest
      cases check <;> (cases hrest; exact hgiven)
    | _ => cases hrest; exact hgiven

theorem writtenValue_unreadable {kind : FieldKind} {args : List Argument}
    (h : writtenValue kind args link w = .done .unreadable v) :
    kind = .string ∧ args[2]? = some (.text none) :=
  made_eq_unreadable.mp ((writtenValue_tells kind args).eq_of_done h).1.symm

theorem accessField_fits (hlink : link.Typed) {direction : Direction} {kind : FieldKind}
    {args : List Argument} {answer : Answer E.Value}
    (h : accessField direction kind args link w = .done answer v) :
    Request.Fits (.field direction kind args) answer := by
  have nothing : Request.Fits (.field direction kind args) (.none : Answer E.Value) := by
    cases direction <;> exact .inl rfl
  unfold accessField at h
  obtain ⟨set, _, -, h⟩ := bind_eq_done.mp h
  split at h
  · obtain ⟨_, _, -, h⟩ := bind_eq_done.mp h
    cases h
    exact nothing
  obtain ⟨ids, _, -, h⟩ := bind_eq_done.mp h
  cases ids with
  | none =>
    cases h
    exact nothing
  | some ids =>
    cases direction with
    | get =>
      obtain ⟨readable, _, hreadable, h⟩ := bind_eq_done.mp h
      cases readable with
      | false =>
        cases h
        exact nothing
      | true =>
        obtain ⟨value, _, hvalue, h⟩ := bind_eq_done.mp h
        cases value with
        | none =>
          cases h
          exact nothing
        | some value =>
          cases h
          exact .inr ⟨value, rfl, readField_kind hlink hvalue, fun hkind => isReadable_object hkind hreadable⟩
    | set =>
      obtain ⟨written, _, hwritten, h⟩ := bind_eq_done.mp h
      cases written with
      | value x =>
        obtain ⟨_, _, -, h⟩ := bind_eq_done.mp h
        cases h
        exact nothing
      | refused =>
        cases h
        exact nothing
      | unreadable =>
        cases h
        exact .inr ⟨rfl, writtenValue_unreadable hwritten⟩

theorem serve_fits (hlink : link.Typed) {s : Surroundings E} {request : Request}
    {answer : Answer E.Value} (h : serve s request link w = .done answer v) : request.Fits answer := by
  cases request with
  | field direction kind args => exact accessField_fits hlink h
  | _ => trivial

end Act

/-! ## Refusals -/

/-- Errors that are logged stay logged, if the host keeps to that. -/
def erring (E : Engine) (K : HostKind) : Conduct E K := growing World.errors

/-- Errors were logged on the way from one state to another. -/
def Erred (w v : World E K) : Prop := Grew World.errors w v

/-- What is logged as wrong stays logged, if the host keeps to that. -/
def recording (E : Engine) (K : HostKind) : Conduct E K := growing World.complaints

/-- Something was logged as wrong on the way from one state to another. -/
def Complained (w v : World E K) : Prop := Grew World.complaints w v

/-- A link by which no field of an actor is got to. -/
def Link.Bars (link : Link E K) : Prop :=
  (∀ kind actor field w, link (.getField kind actor field) w = .stuck) ∧
    ∀ actor field value w, link (.setField actor field value) w = .stuck

namespace Act

section

variable (hlink : (erring E K).admits link)
include hlink

theorem Tells.erred {α : Type} {m : Act E K α} {messages : List String} {a b : α} (h : m.Tells messages a)
    (some : messages ≠ []) (done : m link w = .done b v) : Erred w v := by
  obtain ⟨-, told⟩ := h.eq_of_done done
  obtain ⟨message, others, rfl⟩ := List.exists_cons_of_ne_nil some
  rw [List.forM_cons] at told
  obtain ⟨_, u, first, rest⟩ := bind_eq_done.mp told
  exact (errors_tally.logError hlink first).before (errors_tally.outward hlink (.logErrors others) rest)

theorem idArguments_erred {args : List Argument} (h : idArguments args link w = .done none v) :
    Erred w v := by
  have told := idArguments_tells (E := E) (K := K) args
  exact told.erred hlink (fun none => idFaults_eq_nil.mp none (told.eq_of_done h).1.symm) h

theorem isReadable_erred {kind : FieldKind} {args : List Argument}
    (h : isReadable kind args link w = .done false v) : Erred w v := by
  have told := isReadable_tells (E := E) (K := K) kind args
  rw [← (told.eq_of_done h).1] at told
  exact told.erred hlink (List.cons_ne_nil _ _) h

theorem writtenValue_erred {kind : FieldKind} {args : List Argument}
    (h : writtenValue kind args link w = .done .refused v) : Erred w v := by
  have told := writtenValue_tells (E := E) (K := K) kind args
  exact told.erred hlink (fun none => faults_eq_nil.mp none (told.eq_of_done h).1.symm) h

/-- A script is not left in the dark: where no field is got to, an error was logged, unless the script
wrote a string that is no text. -/
theorem accessField_erred (hbars : link.Bars) {direction : Direction} {kind : FieldKind}
    {args : List Argument} {answer : Answer E.Value}
    (h : accessField direction kind args link w = .done answer v) :
    Erred w v ∧ answer = .none ∨ answer = .unreadable := by
  unfold accessField at h
  obtain ⟨set, w', hset, h⟩ := bind_eq_done.mp h
  rw [isSet_apply] at hset
  cases hset
  split at h
  · obtain ⟨_, _, hlog, h⟩ := bind_eq_done.mp h
    cases h
    exact .inl ⟨errors_tally.logError hlink hlog, rfl⟩
  obtain ⟨ids, u, hids, h⟩ := bind_eq_done.mp h
  cases ids with
  | none =>
    cases h
    exact .inl ⟨idArguments_erred hlink hids, rfl⟩
  | some ids =>
    have numbered := errors_tally.outward hlink (idArguments_tells args).outward hids
    cases direction with
    | get =>
      obtain ⟨readable, _, hreadable, h⟩ := bind_eq_done.mp h
      cases readable with
      | false =>
        cases h
        exact .inl ⟨(isReadable_erred hlink hreadable).after numbered, rfl⟩
      | true =>
        -- The host's getter would have been called, and that never returns.
        obtain ⟨_, _, hread, -⟩ := bind_eq_done.mp h
        obtain ⟨_, _, hget, -⟩ := bind_eq_done.mp hread
        rw [invoke_apply, hbars.1] at hget
        cases hget
    | set =>
      obtain ⟨written, _, hwritten, h⟩ := bind_eq_done.mp h
      cases written with
      | value x =>
        obtain ⟨_, _, hsetter, -⟩ := bind_eq_done.mp h
        rw [invoke_apply, hbars.2] at hsetter
        cases hsetter
      | refused =>
        cases h
        exact .inl ⟨(writtenValue_erred hlink hwritten).after numbered, rfl⟩
      | unreadable =>
        cases h
        exact .inr rfl

end

end Act

end BrainHost
