import BrainHost.Proofs.Message.Located
import BrainHost.Proofs.Script.Fault

/-! # Traces of errors

An error is made with properties that tell the calls during which it was made. As long as no script touches
them, they are the frames of these calls, and they agree on a place. -/

namespace BrainHost.Script

open Intrinsic Script.Act

variable {r made : Realm} {c : Context} {ref : Nat} {call : Call} {calls : List Call} {f : StackFrame}
  {frames : List StackFrame} {p : Location}

/-! ## Frames -/

/-- The name under which a stack shows a call. -/
def Realm.shownName (r : Realm) (call : Call) : Str :=
  let name := match call.function with
    | some ref => r.functionName ref
    | none => .empty
  if name.isEmpty then Str.ofString "<anonymous>" else name

/-- A frame shows a call: its name is a text, and its place is where the call is. -/
structure Realm.Frames (r : Realm) (call : Call) (f : StackFrame) : Prop where
  name : (r.shownName call).toString? = some f.name
  place : f.place = call.file.map fun file => ⟨file, call.place.line, some call.place.column⟩

theorem Str.ofString_append (a b : String) : Str.ofString a ++ Str.ofString b = Str.ofString (a ++ b) := by
  apply Str.ext_units
  have joined (s t : Str) : (s ++ t).units.toList = s.units.toList ++ t.units.toList := by
    change (Str.append s t).units.toList = _
    unfold Str.append
    split
    · next empty => simp [Array.isEmpty_iff.mp empty]
    · exact Array.toList_append
  rw [joined, units_ofString, units_ofString, units_ofString, String.toList_append, unitsOf_append]

theorem Realm.Frames.frame_eq (h : r.Frames call f) : r.frame call = Str.ofString (f.line ++ "\n") := by
  have framed : r.frame call =
      Str.ofString "    at " ++ r.shownName call ++ Str.ofString (" (" ++ f.inner ++ ")\n") := by
    unfold Realm.frame StackFrame.inner
    rw [h.place]
    cases call.file with
    | none => rfl
    | some file =>
      have text : s!"{file}:{call.place.line}:{call.place.column}" =
          (⟨file, call.place.line, some call.place.column⟩ : Location).text := by
        simp [Location.text, String.append_assoc]
        rfl
      dsimp only
      rw [text]
      rfl
  rw [framed, Str.eq_ofString h.name, Str.ofString_append, Str.ofString_append]
  simp [StackFrame.line, String.append_assoc]

theorem Realm.stack_eq (h : List.Forall₂ r.Frames calls frames) : r.stack calls = Str.ofString (stackText frames) := by
  have goes (acc : String) : calls.foldl (fun out call => out ++ r.frame call) (Str.ofString acc) =
      Str.ofString (acc ++ stackText frames) := by
    induction h generalizing acc with
    | nil => simp [stackText]
    | cons shows rest ih =>
      rw [List.foldl_cons, shows.frame_eq, Str.ofString_append, ih]
      simp [stackText, String.append_assoc]
  have start : Str.empty = Str.ofString "" := Str.ext_units (by rw [units_ofString]; rfl)
  unfold Realm.stack
  rw [start, goes, String.empty_append]

theorem find?_of_shows (h : List.Forall₂ r.Frames calls frames) (shown : Shows frames p) :
    ∃ call, calls.find? (fun call => call.file.isSome) = some call ∧ p.line = call.place.line := by
  induction shown generalizing calls with
  | here _ placed rest =>
    cases h with
    | @cons call _ _ _ frame _ =>
      obtain ⟨file, filed, rfl⟩ := Option.map_eq_some_iff.mp (frame.place.symm.trans placed)
      exact ⟨call, by simp [filed], rfl⟩
  | native _ native _ ih =>
    cases h with
    | @cons call _ _ _ frame rest =>
      have unfiled : call.file = none := Option.map_eq_none_iff.mp (frame.place.symm.trans native)
      obtain ⟨placed, found, line⟩ := ih rest
      exact ⟨placed, by simp [unfiled, found], line⟩

/-! ## Errors -/

/-- An error that tells the calls during which it was made, in a realm as it was then, and whose place nobody
touched or told otherwise. -/
structure Realm.Traced (r : Realm) (ref : Nat) (made : Realm) (calls : List Call) : Prop where
  error : ∃ o, r.objects[ref]? = some o ∧ o.kind = .error ∧
    ∀ entry ∈ made.traceProperties calls, o.properties.get? entry.1 = some entry.2
  bare : ∀ name ∈ placeNames, (∀ entry ∈ made.traceProperties calls, entry.1 ≠ .text name) →
    getValue (.object ref) (.text name) r = .ok .undefined r

theorem Realm.traceProperties_none (none : calls.find? (fun call => call.file.isSome) = none) :
    r.traceProperties calls = [(.text "stack", .hidden (.string (r.stack calls)))] := by
  unfold traceProperties
  rw [none]
  rfl

theorem Realm.traceProperties_some (found : calls.find? (fun call => call.file.isSome) = some call) :
    r.traceProperties calls = [(.text "stack", .hidden (.string (r.stack calls))),
      (.text "lineNumber", .hidden (.nat call.place.line)),
      (.text "columnNumber", .hidden (.nat call.place.column))] := by
  unfold traceProperties
  rw [found]
  rfl

namespace Realm.Traced

variable (h : r.Traced ref made calls)
include h

theorem getValue_traced {name : String} {v : Value} (entry : (Key.text name, .hidden v) ∈ made.traceProperties calls) :
    getValue (.object ref) (.text name) r = .ok v r := by
  obtain ⟨o, found, kind, traced⟩ := h.error
  exact getFrom_own found (.inr kind) (traced _ entry) _ _

theorem isError : r.isError (.object ref) = true := by
  obtain ⟨o, found, kind, -⟩ := h.error
  unfold Realm.isError
  dsimp only
  rw [Realm.object_of_getElem? found, kind]

theorem getValue_stack : getValue (.object ref) (.text "stack") r = .ok (.string (made.stack calls)) r :=
  h.getValue_traced (List.mem_append_left _ List.mem_cons_self)

theorem getValue_fileName : getValue (.object ref) (.text "fileName") r = .ok .undefined r := by
  refine h.bare _ (by decide) fun entry traced => ?_
  cases placed : calls.find? fun call => call.file.isSome with
  | none =>
    rw [made.traceProperties_none placed] at traced
    simp only [List.mem_singleton] at traced
    rw [traced]
    exact Key.text_ne (by decide)
  | some call =>
    rw [made.traceProperties_some placed] at traced
    simp only [List.mem_cons, List.not_mem_nil, or_false] at traced
    obtain rfl | rfl | rfl := traced <;> exact Key.text_ne (by decide)

theorem getValue_place : (∃ call, calls.find? (fun call => call.file.isSome) = some call ∧
      getValue (.object ref) (.text "lineNumber") r = .ok (.nat call.place.line) r ∧
      getValue (.object ref) (.text "columnNumber") r = .ok (.nat call.place.column) r) ∨
    getValue (.object ref) (.text "lineNumber") r = .ok .undefined r ∧
      getValue (.object ref) (.text "columnNumber") r = .ok .undefined r := by
  cases placed : calls.find? fun call => call.file.isSome with
  | none =>
    have other {name : String} (named : "stack" ≠ name) :
        ∀ entry ∈ made.traceProperties calls, entry.1 ≠ .text name := by
      rw [made.traceProperties_none placed]
      intro entry traced
      rw [List.mem_singleton.mp traced]
      exact Key.text_ne named
    exact .inr ⟨h.bare _ (by decide) (other (by decide)), h.bare _ (by decide) (other (by decide))⟩
  | some call =>
    have entries := made.traceProperties_some placed
    exact .inl ⟨call, rfl, h.getValue_traced (by simp [entries]), h.getValue_traced (by simp [entries])⟩

end Realm.Traced

/-- An error whose trace was left alone is found where its trace says, if lines are read as the numbers that
they are. -/
theorem Realm.Traced.located (h : c.realm.Traced ref made calls) (framed : List.Forall₂ made.Frames calls frames)
    (whole : ∀ call ∈ calls, (Value.nat call.place.line).integer? = some (call.place.line : Int)) :
    BrainHost.Located engine c (.object ref) frames where
  error := h.isError
  stack := by
    have text : (made.stack calls).toString? = some (stackText frames) := by
      rw [made.stack_eq framed, toString?_ofString]
    exact ⟨_, property_of_getValue h.getValue_stack, rfl, text ▸ Context.runTotal_same none (textOf_string _ _)⟩
  file := ⟨_, property_of_getValue h.getValue_fileName, rfl⟩
  line := by
    obtain ⟨call, placed, line, -⟩ | ⟨line, -⟩ := h.getValue_place
    · refine ⟨_, property_of_getValue line, fun p shown l read => ?_⟩
      obtain ⟨call', placed', same⟩ := find?_of_shows framed shown
      obtain rfl := Option.some.inj (placed.symm.trans placed')
      have known := whole call (List.mem_of_find?_eq_some placed)
      have number : (engine.integer? (.nat call.place.line)).bind Int.toNat? = some call.place.line := by
        change ((Value.nat call.place.line).integer?).bind Int.toNat? = _
        rw [known]
        rfl
      rw [same]
      exact Option.some.inj (read.symm.trans number)
    · exact ⟨_, property_of_getValue line, nofun⟩
  column := by
    obtain ⟨call, -, -, column⟩ | ⟨-, column⟩ := h.getValue_place
    · exact ⟨_, property_of_getValue column⟩
    · exact ⟨_, property_of_getValue column⟩

/-- An error with the properties that trace it, before a realm has it. -/
def Realm.traced (r : Realm) (calls : List Call) (o : Obj) : Obj :=
  (r.traceProperties calls).foldl (fun o (k, p) => o.put k p) o

theorem Realm.kind_traced (o : Obj) : (r.traced calls o).kind = o.kind ∧ (r.traced calls o).proto = o.proto := by
  unfold traced
  induction r.traceProperties calls generalizing o with
  | nil => exact ⟨rfl, rfl⟩
  | cons entry rest ih => exact ih (o.put entry.1 entry.2)

theorem Realm.get?_traced (o : Obj) : ∀ entry ∈ r.traceProperties calls,
    (r.traced calls o).properties.get? entry.1 = some entry.2 := by
  unfold traced
  cases placed : calls.find? fun call => call.file.isSome with
  | none =>
    rw [r.traceProperties_none placed]
    simp [Obj.get?_put_text]
  | some call =>
    rw [r.traceProperties_some placed]
    simp [Obj.get?_put_text]

theorem Realm.get?_traced_of_ne (o : Obj) {k : Key} (other : ∀ entry ∈ r.traceProperties calls, entry.1 ≠ k) :
    (r.traced calls o).properties.get? k = o.properties.get? k := by
  unfold traced
  generalize r.traceProperties calls = entries at other
  induction entries generalizing o with
  | nil => rfl
  | cons entry rest ih =>
    rw [List.foldl_cons, ih _ fun e he => other e (.tail _ he)]
    exact Properties.get?_insert_of_ne (other entry (.head _)) _ _

theorem Realm.newError_traced (r : Realm) (kind : ErrorClass) (message : Str)
    (bare : ∀ name ∈ placeNames, ∀ n receiver, getFrom (n + 3) (errorPrototype kind).ref (.text name) receiver
      (r.newError kind message).2 = .ok .undefined (r.newError kind message).2) :
    (r.newError kind message).2.Traced (r.newError kind message).1 r r.calls := by
  let o : Obj := ({ kind := .error, proto := some (errorPrototype kind).ref } : Obj).put (.text "message")
    (.hidden (.string message))
  have found : (r.newError kind message).2.objects[(r.newError kind message).1]? = some (r.traced r.calls o) :=
    r.getElem?_allocate _
  obtain ⟨isError, proto⟩ : (r.traced r.calls o).kind = .error ∧
      (r.traced r.calls o).proto = some (errorPrototype kind).ref := r.kind_traced o
  refine ⟨⟨_, found, isError, r.get?_traced o⟩, fun name place other => ?_⟩
  have unset : (r.traced r.calls o).properties.get? (.text name) = none := by
    rw [r.get?_traced_of_ne o other, Obj.get?_put_text, if_neg (by rintro rfl; exact absurd place (by decide))]
    rfl
  obtain ⟨n, far⟩ := exists_far
  show getFrom reach _ (.text name) _ _ = _
  rw [far, getFrom_inherited found (.inr isError) unset, proto]
  exact bare name place n _

end BrainHost.Script
