import BrainHost.Proofs.Act.Blame
import BrainHost.Proofs.Script.Errors

/-! # Faults in sources

A source that is not read is thrown out with a syntax error. As long as no script touched the prototypes
of errors, the error is taken for what it is, and its diagnostic is made without asking the host for
anything. -/

namespace BrainHost

namespace Script

open Intrinsic Script.Act

variable {r : Realm} {c : Context} {ref : Nat} {message : String}

/-! ## Errors of faults -/

/-- An error that is thrown because of a fault in a source. -/
structure Obj.Faulty (o : Obj) (message : String) : Prop where
  kind : o.kind = .error
  proto : o.proto = some (errorPrototype .syntaxError).ref
  name : o.properties.get? (.text "name") = none
  message : o.properties.get? (.text "message") = some (.hidden (.text message))
  stack : ∃ s, o.properties.get? (.text "stack") = some (.hidden (.string s))
  places : ∀ name ∈ placeNames,
    o.properties.get? (.text name) = none ∨ ∃ v, o.properties.get? (.text name) = some (.hidden v)

/-- A realm with an error that was thrown because of a fault in a source. -/
structure Realm.Faulty (r : Realm) (ref : Nat) (message : String) : Prop where
  frank : r.Frank
  error : ∃ o, r.objects[ref]? = some o ∧ o.Faulty message

theorem Obj.get?_put_text (o : Obj) (name name' : String) (p : Property) :
    (o.put (.text name) p).properties.get? (.text name') =
      if name = name' then some p else o.properties.get? (.text name') := by
  unfold Obj.put
  split
  · next e => rw [e, Properties.get?_insert_self]
  · next other => exact Properties.get?_insert_of_ne (Key.text_ne other) _ _

/-- What an error tells of its place it tells as hidden data. -/
def Obj.Placed (o : Obj) : Prop := ∀ name ∈ placeNames,
  o.properties.get? (.text name) = none ∨ ∃ v, o.properties.get? (.text name) = some (.hidden v)

theorem Obj.Placed.put {o : Obj} (h : o.Placed) (name : String) (v : Value) :
    (o.put (.text name) (.hidden v)).Placed := by
  intro name' place
  rw [Obj.get?_put_text]
  split
  · exact .inr ⟨v, rfl⟩
  · exact h name' place

def Obj.syntaxError : Obj := { kind := .error, proto := some (errorPrototype .syntaxError).ref }

theorem Obj.placed_syntaxError : Obj.syntaxError.Placed := fun _ _ => .inl rfl

theorem Obj.get?_syntaxError (k : Key) : Obj.syntaxError.properties.get? k = none := rfl

theorem Realm.Frank.allocate_faulty (h : r.Frank) {o : Obj} (faulty : o.Faulty message) :
    (r.allocate o).2.Faulty (r.allocate o).1 message :=
  ⟨h.grows (.allocate r o), o, r.getElem?_allocate o, faulty⟩

theorem throwSyntax_faulty {α : Type} (h : r.Frank) (file : String) (fault : SyntaxFault) : ∃ ref r',
    (throwSyntax file fault : Act α) r = .thrown (.object ref) r' ∧ r'.Faulty ref fault.message := by
  refine ⟨_, _, rfl, h.allocate_faulty (o := ((((Obj.syntaxError.put _ _).put _ _).put _ _).put _ _).put _ _) ?_⟩
  exact
    { kind := rfl
      proto := rfl
      name := by simp [Obj.get?_put_text, Obj.get?_syntaxError]
      message := by simp [Obj.get?_put_text]; rfl
      stack := ⟨_, (Obj.get?_put_text _ _ _ _).trans (if_pos rfl)⟩
      places := ((((Obj.placed_syntaxError.put _ _).put _ _).put _ _).put _ _).put _ _ }

theorem fail_faulty {α : Type} (h : r.Frank) (message : String) : ∃ ref r',
    (fail .syntaxError (Str.ofString message) : Act α) r = .thrown (.object ref) r' ∧ r'.Faulty ref message := by
  refine ⟨_, _, rfl, h.allocate_faulty ?_⟩
  have told := (Obj.placed_syntaxError.put "message" (.text message)).put "stack" (.string (r.stack r.calls))
  unfold Realm.errorObject Realm.traceProperties
  cases (r.calls.find? fun c => c.file.isSome).map Call.place with
  | none =>
    exact
      { kind := rfl
        proto := rfl
        name := by simp [Obj.putAll, Obj.get?_put_text]; rfl
        message := by simp [Obj.putAll, Obj.get?_put_text]; rfl
        stack := ⟨_, (Obj.get?_put_text _ _ _ _).trans (if_pos rfl)⟩
        places := told }
  | some place =>
    exact
      { kind := rfl
        proto := rfl
        name := by simp [Obj.putAll, Obj.get?_put_text]; rfl
        message := by simp [Obj.putAll, Obj.get?_put_text]; rfl
        stack := ⟨_, by simp [Obj.putAll, Obj.get?_put_text]; rfl⟩
        places := (told.put _ _).put _ _ }

theorem throwFault_faulty {α : Type} (h : r.Frank) (file : String) (fault : SyntaxFault) : ∃ ref r',
    (throwFault file fault : Act α) r = .thrown (.object ref) r' ∧ r'.Faulty ref fault.message := by
  unfold throwFault
  split
  · exact throwSyntax_faulty h file fault
  · exact fail_faulty h fault.message

/-! ## What the errors tell -/

theorem exists_far : ∃ n, reach = n + 4 := ⟨reach - 4, (Nat.sub_add_cancel (by decide)).symm⟩

theorem Act.capture_of_ok {α : Type} {m : Act α} {a : α} {r' : Realm} (h : m r = .ok a r') :
    m.capture r = .ok (.ok a) r' := by
  change (m r).capture = _
  rw [h]
  rfl

theorem textOf_string (s : Str) (r : Realm) : textOf (.string s) r = .ok s.toString? r := rfl

namespace Realm.Faulty

variable (h : r.Faulty ref message)
include h

theorem getValue_name : getValue (.object ref) (.text "name") r = .ok (.text "SyntaxError") r := by
  obtain ⟨o, found, faulty⟩ := h.error
  obtain ⟨n, far⟩ := exists_far
  show getFrom reach ref (.text "name") (.object ref) r = _
  rw [far, getFrom_inherited found (.inr faulty.kind) faulty.name, faulty.proto]
  exact h.frank.getFrom_name _ _

theorem getValue_message : getValue (.object ref) (.text "message") r = .ok (.text message) r := by
  obtain ⟨o, found, faulty⟩ := h.error
  exact getFrom_own found (.inr faulty.kind) faulty.message _ _

theorem getValue_stack : ∃ s, getValue (.object ref) (.text "stack") r = .ok (.string s) r := by
  obtain ⟨o, found, faulty⟩ := h.error
  obtain ⟨s, stack⟩ := faulty.stack
  exact ⟨s, getFrom_own found (.inr faulty.kind) stack _ _⟩

theorem getValue_place {name : String} (place : name ∈ placeNames) :
    ∃ v, getValue (.object ref) (.text name) r = .ok v r := by
  obtain ⟨o, found, faulty⟩ := h.error
  obtain unset | ⟨v, own⟩ := faulty.places name place
  · obtain ⟨n, far⟩ := exists_far
    refine ⟨.undefined, show getFrom reach ref (.text name) (.object ref) r = _ from ?_⟩
    rw [far, getFrom_inherited found (.inr faulty.kind) unset, faulty.proto]
    exact h.frank.getFrom_place _ _ place
  · exact ⟨v, getFrom_own found (.inr faulty.kind) own _ _⟩

theorem isError : r.isError (.object ref) = true := by
  obtain ⟨o, found, faulty⟩ := h.error
  unfold Realm.isError
  dsimp only
  rw [Realm.object_of_getElem? found, faulty.kind]

theorem headline : Script.headline (.object ref) r = .ok ("SyntaxError: " ++ message) r := by
  obtain ⟨o, found, faulty⟩ := h.error
  have text (s : String) : textOf (.text s) r = .ok (some s) r := by
    rw [Value.text, textOf_string, toString?_ofString]
  unfold Script.headline
  dsimp only
  rw [getObject_bind found, faulty.kind]
  dsimp only
  rw [Act.pure_bind, if_neg (by decide), Act.bind_of_ok (Act.capture_of_ok h.getValue_name)]
  dsimp only [Value.text]
  rw [Act.pure_bind, Act.bind_of_ok (Act.capture_of_ok h.getValue_message)]
  dsimp only
  rw [if_neg (show ¬ (Value.text message).isNullish = true from Bool.false_ne_true), Act.bind_of_ok (text message),
    toString?_ofString]
  rfl

end Realm.Faulty

/-! ## Sources with faults -/

namespace Context

variable {α : Type} {m : Act α} {a : α}

theorem run_same (h : m c.realm = .ok a c.realm) : c.run m = .done (c, .ok a) := run_ok h

theorem runTotal_same (fallback : α) (h : m c.realm = .ok a c.realm) : c.runTotal fallback m = .done (c, a) := by
  unfold runTotal
  rw [run_same h]
  rfl

end Context

theorem property_of_getValue {v w : Value} {name : String} (h : getValue v (.text name) c.realm = .ok w c.realm) :
    engine.property v name c = .done (c, .ok w) := Context.run_same h

namespace Realm.Faulty

variable (h : c.realm.Faulty ref message) {K : HostKind} (s : Surroundings engine)
include h

theorem tells_isSyntaxError :
    Inside.Tells (Inside.isSyntaxError s (.object ref) : Inside engine K Bool) c true := by
  have named : ((Value.text "SyntaxError").text? == some "SyntaxError") = true :=
    beq_iff_eq.mpr (toString?_ofString "SyntaxError")
  refine (Inside.Tells.inspect _).bind ?_
  rw [if_pos (show engine.isError c (.object ref) = true from h.isError)]
  refine (Inside.Tells.stringProperty (property_of_getValue h.getValue_name)).bind ?_
  change Inside.Tells (pure ((Value.text "SyntaxError").text? == some "SyntaxError") : Inside engine K Bool) c true
  rw [named]
  exact .pure true

theorem tells_describe : ∃ d, Inside.Tells (Inside.describe s (.object ref) : Inside engine K Diagnostic) c d ∧
    d.message = "SyntaxError: " ++ message := by
  obtain ⟨stack, hstack⟩ := h.getValue_stack
  obtain ⟨file, hfile⟩ := h.getValue_place (show "fileName" ∈ placeNames by decide)
  obtain ⟨line, hline⟩ := h.getValue_place (show "lineNumber" ∈ placeNames by decide)
  obtain ⟨column, hcolumn⟩ := h.getValue_place (show "columnNumber" ∈ placeNames by decide)
  have text : engine.toText (.string stack) c = .done (c, stack.toString?) :=
    Context.runTotal_same none (textOf_string _ _)
  have headlineRead : engine.headline (.object ref) c = .done (c, "SyntaxError: " ++ message) :=
    Context.runTotal_same "" h.headline
  have stackTold := Inside.Tells.textProperty (K := K) (s := s) (property_of_getValue hstack) rfl text
  have fileTold := Inside.Tells.stringProperty (K := K) (s := s) (property_of_getValue hfile)
  have lineTold := Inside.Tells.numberProperty (K := K) (s := s) (property_of_getValue hline)
  have columnTold := Inside.Tells.numberProperty (K := K) (s := s) (property_of_getValue hcolumn)
  have headlineTold := Inside.Tells.perform (K := K) (s := s) headlineRead
  exact ⟨_, stackTold.bind (fileTold.bind (lineTold.bind (columnTold.bind (headlineTold.bind (.pure _))))), rfl⟩

theorem tells_diagnose (lookup : Option String → Option String) :
    ∃ d, Inside.Tells (Inside.diagnose s (.object ref) lookup : Inside engine K Diagnostic) c d ∧
      d.message = "SyntaxError: " ++ message := by
  obtain ⟨d, described, told⟩ := h.tells_describe s (K := K)
  refine ⟨d.withSource lookup, (Inside.Tells.inspect _).bind ?_, ?_⟩
  · rw [if_pos (show engine.isError c (.object ref) = true from h.isError)]
    exact described.bind (.pure _)
  · unfold Diagnostic.withSource
    split <;> exact told

end Realm.Faulty

/-- What a context makes of a source: the script that it is, or the fault in it. -/
def Context.reading (c : Context) (source : String) : Except SyntaxFault Program :=
  Program.read (.script false {}) "<eval>" scriptFile c.realm.sites source.toList

theorem evaluateScript_fault {source : String} {fault : SyntaxFault} (h : c.realm.Frank)
    (unread : c.reading source = .error fault) : ∃ ref r,
      engine.evaluate false source c = .done (⟨r, c.threads⟩, .error (.object ref)) ∧
        r.Faulty ref fault.message := by
  obtain ⟨ref, r, thrown, faulty⟩ := throwFault_faulty (α := Program) h scriptFile fault
  have read : readProgram (.script false {}) "<eval>" scriptFile source.toList c.realm = .thrown (.object ref) r := by
    unfold Context.reading at unread
    rw [readProgram, Act.read_bind, unread]
    exact thrown
  refine ⟨ref, r, Context.run_thrown ?_, faulty⟩
  change (readProgram (.script false {}) "<eval>" scriptFile source.toList c.realm).bind _ = _
  rw [read]
  rfl

end Script

theorem Inside.evaluate_fault {K : HostKind} {s : Surroundings Script.engine} {c : Script.Context} {source : String}
    {fault : Script.SyntaxFault} (compiling running : String) (h : c.realm.Frank)
    (text : Diagnostic.ofNul? source = none) (unread : c.reading source = .error fault) : ∃ d c',
      (∀ (link : Link Script.engine K) w, (Inside.evaluate s compiling running source).run c link w =
        .done (.error (.script (.compilation compiling d)), c') w) ∧
      d.message = "SyntaxError: " ++ fault.message ∧ c'.realm.Frank := by
  obtain ⟨ref, r, thrown, faulty⟩ := Script.evaluateScript_fault h unread
  let c' : Script.Context := ⟨r, c.threads⟩
  have faulty' : c'.realm.Faulty ref fault.message := faulty
  obtain ⟨d, told, message⟩ := faulty'.tells_diagnose (K := K) s fun _ => some source
  refine ⟨d, c', fun link w => ?_, message, faulty.frank⟩
  have ran : (Act.carryOut s (Script.engine.evaluate false source c) : Act Script.engine K _) link w =
      .done (c', .error (.object ref)) w := by
    rw [thrown]
    rfl
  exact (evaluate_thrown text ran).trans ((faulty'.tells_isSyntaxError s).blame told link w)

end BrainHost
