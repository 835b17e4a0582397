import BrainHost.Proofs.Act.Basic
import BrainHost.Running

/-! # Operations that only look outward

Most of what scripts ask for is told to the log or passed on to the host, and does not look at the
runtime but for the hooks that are set. -/

namespace BrainHost

variable {E : Engine} {K : HostKind} {α : Type}

namespace Act

/-- An operation that is built from rows of the log and calls of host functions, those for services
and for results apart. -/
inductive Outward : {α : Type} → Act E K α → Prop
  | pure {α : Type} (a : α) : Outward (Pure.pure a)
  | bind {α β : Type} {m : Act E K α} {f : α → Act E K β} (hm : Outward m) (hf : ∀ a, Outward (f a)) :
    Outward (m >>= f)
  | record (severity : Severity) (target message : String) : Outward (Act.record severity target message)
  | isSet (hook : Hook) : Outward (Act.isSet hook)
  | invoke {callback : Callback} (h : ∀ service args reporter, callback ≠ .callService service args reporter)
      (hresult : ∀ json, callback ≠ .result json) : Outward (Act.invoke callback)

namespace Outward

theorem ite {p : Prop} [Decidable p] {m n : Act E K α} (hm : Outward m) (hn : Outward n) :
    Outward (if p then m else n) := by
  split
  · exact hm
  · exact hn

theorem warnOf (check : Except Rejection Unit) : Outward (Act.warnOf check : Act E K _) := by
  cases check with
  | ok u => exact pure _
  | error cause => exact (record _ _ _).bind fun _ => pure _

theorem checkLength (limit : Limit) (length : Nat) : Outward (Act.checkLength limit length : Act E K _) :=
  warnOf _

theorem notify (hook : Hook) {callback : Callback}
    (h : ∀ service args reporter, callback ≠ .callService service args reporter)
    (hresult : ∀ json, callback ≠ .result json) : Outward (Act.notify hook callback : Act E K Unit) :=
  (isSet hook).bind fun _ => ((invoke h hresult).bind fun _ => pure _).ite (pure _)

theorem logDebug (message : String) : Outward (Act.logDebug message : Act E K Unit) :=
  notify _ (by simp) (by simp)

theorem logError (message : String) : Outward (Act.logError message : Act E K Unit) :=
  (record _ _ _).bind fun _ => notify _ (by simp) (by simp)

theorem logService (failure : ServiceFailure) :
    Outward (Act.logService failure : Act E K (Except ServiceFailure α)) :=
  (logError _).bind fun _ => pure _

end Outward

/-! ## Operations that only log errors -/

/-- An operation logs the messages and has a value then; it does nothing else. -/
def Tells (m : Act E K α) (messages : List String) (a : α) : Prop :=
  m = do
    forM messages logError
    pure a

namespace Tells

variable {β : Type} {m : Act E K α} {messages more : List String} {a : α} {b : β}

theorem bind {f : α → Act E K β} (hm : m.Tells messages a) (hf : (f a).Tells more b) :
    (m >>= f).Tells (messages ++ more) b := by
  unfold Tells at *
  rw [hm, bind_assoc, pure_bind, hf, List.forM_append, bind_assoc]

theorem bind_pure {f : α → Act E K β} (hm : m.Tells messages a) (hf : f a = Pure.pure b) :
    (m >>= f).Tells messages b := by
  unfold Tells at *
  rw [hm, bind_assoc, pure_bind, hf]

theorem logError (message : String) : Tells (do Act.logError message; pure a : Act E K α) [message] a := by
  unfold Tells
  rw [List.forM_cons, List.forM_nil, bind_assoc, pure_bind]

theorem complain (message : String) :
    Tells (Act.complain message : Act E K (Option α)) [message] none := Tells.logError message

theorem pure : Tells (pure a : Act E K α) [] a := by
  unfold Tells
  rw [List.forM_nil, pure_bind]

theorem eq_pure (h : m.Tells [] a) : m = Pure.pure a := h.trans Tells.pure.symm

theorem eq_of_done {link : Link E K} {w v : World E K} {a' : α} (h : m.Tells messages a)
    (done : m link w = .done a' v) : a' = a ∧ (forM messages Act.logError : Act E K Unit) link w = .done () v := by
  unfold Tells at h
  rw [h, bind_apply] at done
  obtain ⟨⟨⟩, u, told, ended⟩ := Outcome.bind_eq_done.mp done
  cases ended
  exact ⟨rfl, told⟩

end Tells

theorem Outward.logErrors (messages : List String) : Outward (forM messages Act.logError : Act E K Unit) := by
  induction messages with
  | nil => exact .pure _
  | cons message messages ih =>
    rw [List.forM_cons]
    exact (Outward.logError message).bind fun _ => ih

theorem Tells.outward {m : Act E K α} {messages : List String} {a : α} (h : m.Tells messages a) : Outward m := by
  unfold Tells at h
  rw [h]
  exact (Outward.logErrors messages).bind fun _ => .pure _

/-! ## Arguments of accessors

What each reader of arguments says of them, and what it makes of them. -/

/-! ### Numbers of actors and fields -/

/-- What is said of an argument that should have been the number of an actor or a field. -/
def unnumbered (what : String) (argument : Argument) : List String :=
  if argument.id?.isSome then []
  else [s!"Invalid {what} id argument given for actor accessor. Need a number."]

/-- The numbers of an actor and a field, which come first. -/
def ids? : List Argument → Option (Nat × Nat)
  | actor :: field :: _ => actor.id?.bind fun i => field.id?.map fun j => (i, j)
  | _ => none

/-- What is said of arguments that do not begin with two numbers. The second is not looked at if the first is none. -/
def idFaults : List Argument → List String
  | actor :: field :: _ => if actor.id?.isSome then unnumbered "field" field else unnumbered "actor" actor
  | _ => ["Not enough args for actor accessor. Need at least 2."]

theorem idArgument_tells (what : String) (argument : Argument) :
    Tells (idArgument what argument : Act E K _) (unnumbered what argument) argument.id? := by
  unfold idArgument unnumbered
  cases argument.id? with
  | some n => exact .pure
  | none => exact .complain _

theorem unnumbered_of_some {what : String} {argument : Argument} {n : Nat} (h : argument.id? = some n) :
    unnumbered what argument = [] := by
  rw [unnumbered, h]
  rfl

theorem unnumbered_of_none {what : String} {argument : Argument} (h : argument.id? = none) :
    unnumbered what argument ≠ [] := by
  rw [unnumbered, h]
  exact List.cons_ne_nil _ _

theorem idArguments_tells (args : List Argument) :
    Tells (idArguments args : Act E K _) (idFaults args) (ids? args) := by
  match args with
  | actor :: field :: _ =>
    have actorTold : Tells (idArgument "actor" actor : Act E K _) _ _ := idArgument_tells ..
    have fieldTold : Tells (idArgument "field" field : Act E K _) _ _ := idArgument_tells ..
    unfold idArguments idFaults ids?
    dsimp only
    cases hactor : actor.id? with
    | none =>
      rw [hactor] at actorTold
      exact actorTold.bind_pure rfl
    | some i =>
      rw [hactor, unnumbered_of_some hactor] at actorTold
      rw [actorTold.eq_pure, pure_bind]
      refine fieldTold.bind_pure ?_
      cases field.id? <;> rfl
  | [] => exact .complain _
  | [_] => exact .complain _

theorem idFaults_eq_nil {args : List Argument} : idFaults args = [] ↔ ids? args ≠ none := by
  unfold idFaults ids?
  split
  · next actor field _ =>
    cases hactor : actor.id? with
    | none => simp [unnumbered_of_none hactor]
    | some i =>
      cases hfield : field.id? with
      | none => simp [unnumbered_of_none hfield]
      | some j => simp [unnumbered_of_some hfield]
  · simp

/-! ### Objects that are written to -/

def isObject : Option Argument → Bool
  | some .object => true
  | _ => false

theorem isObject_iff {third : Option Argument} : isObject third = true ↔ third = some .object := by
  unfold isObject
  split <;> simp_all

/-- An object to write the parts of a value to is at hand, where one is needed. -/
def receives (args : List Argument) : FieldKind → Bool
  | .vector3 | .quaternion => isObject args[2]?
  | _ => true

theorem isReadable_tells (kind : FieldKind) (args : List Argument) :
    Tells (isReadable kind args : Act E K Bool) (if receives args kind then [] else [missingObject kind])
      (receives args kind) := by
  have parts (third : Option Argument) : Tells (match third with
      | some .object => Pure.pure true
      | _ => do Act.logError (missingObject kind); Pure.pure false : Act E K Bool)
      (if isObject third then [] else [missingObject kind]) (isObject third) := by
    rcases third with _ | argument
    · exact .logError _
    · cases argument with
      | object => exact .pure
      | _ => exact .logError _
  cases kind with
  | vector3 => exact parts _
  | quaternion => exact parts _
  | _ => exact .pure

/-! ### Values that are written -/

/-- The number that is written from an argument. -/
def single (args : List Argument) (i : Nat) : Option Float32 := (args[i]?).bind Argument.single?

/-- What is said of an argument that should have been a number. -/
def lacking (args : List Argument) (i : Nat) : List String :=
  if (single args i).isSome then [] else [s!"{ordinal i} argument needs to be a number!"]

/-- The text that an argument stands for. -/
def madeText : Option Argument → Written
  | none => .value (.string "")
  | some .nothing => .value (.string "")
  | some (.text (some s)) => .value (.string s)
  | some (.text none) => .unreadable
  | some _ => .refused

/-- What is said of an argument that should have been a text. -/
def textFaults (argument : Option Argument) : List String :=
  match madeText argument with
  | .refused => ["3rd argument needs to be a string or undefined!"]
  | _ => []

/-- The value that the arguments of a setter make. -/
def made (args : List Argument) : FieldKind → Written
  | .boolean => .value (.boolean (((args[2]?).map Argument.truthy).getD false))
  | .float =>
    match single args 2 with
    | some x => .value (.float x)
    | none => .refused
  | .vector3 =>
    match single args 2, single args 3, single args 4 with
    | some x, some y, some z => .value (.vector3 x y z)
    | _, _, _ => .refused
  | .quaternion =>
    match single args 2, single args 3, single args 4, single args 5 with
    | some x, some y, some z, some w => .value (.quaternion x y z w)
    | _, _, _, _ => .refused
  | .string => madeText args[2]?

/-- What is said of the arguments of a setter. Every number is looked at. -/
def faults (args : List Argument) : FieldKind → List String
  | .boolean => []
  | .float => lacking args 2
  | .vector3 => lacking args 2 ++ (lacking args 3 ++ lacking args 4)
  | .quaternion => lacking args 2 ++ (lacking args 3 ++ (lacking args 4 ++ lacking args 5))
  | .string => textFaults args[2]?

theorem numberArgument_tells (args : List Argument) (i : Nat) :
    Tells (numberArgument args i : Act E K _) (lacking args i) (single args i) := by
  unfold numberArgument lacking single
  cases (args[i]?).bind Argument.single? with
  | some x => exact .pure
  | none => exact .complain _

theorem writtenValue_tells (kind : FieldKind) (args : List Argument) :
    Tells (writtenValue kind args : Act E K Written) (faults args kind) (made args kind) := by
  have number := numberArgument_tells (E := E) (K := K) args
  cases kind with
  | boolean => exact .pure
  | float => exact (number 2).bind_pure (by unfold made; cases single args 2 <;> rfl)
  | vector3 =>
    refine (number 2).bind ((number 3).bind ((number 4).bind_pure ?_))
    unfold made
    cases single args 2 <;> cases single args 3 <;> cases single args 4 <;> rfl
  | quaternion =>
    refine (number 2).bind ((number 3).bind ((number 4).bind ((number 5).bind_pure ?_)))
    unfold made
    cases single args 2 <;> cases single args 3 <;> cases single args 4 <;> cases single args 5 <;> rfl
  | string =>
    unfold writtenValue faults made
    dsimp only
    rcases args[2]? with _ | argument
    · exact .pure
    · cases argument with
      | nothing => exact .pure
      | text s => cases s <;> exact .pure
      | _ => exact .logError _

theorem lacking_eq_nil {args : List Argument} {i : Nat} : lacking args i = [] ↔ (single args i).isSome = true := by
  unfold lacking
  split <;> simp [*]

theorem faults_eq_nil {args : List Argument} {kind : FieldKind} :
    faults args kind = [] ↔ made args kind ≠ .refused := by
  cases kind with
  | boolean => simp [faults, made]
  | float =>
    simp only [faults, made, lacking_eq_nil]
    cases single args 2 <;> simp
  | vector3 =>
    simp only [faults, made, List.append_eq_nil_iff, lacking_eq_nil]
    cases single args 2 <;> cases single args 3 <;> cases single args 4 <;> simp
  | quaternion =>
    simp only [faults, made, List.append_eq_nil_iff, lacking_eq_nil]
    cases single args 2 <;> cases single args 3 <;> cases single args 4 <;> cases single args 5 <;> simp
  | string =>
    simp only [faults, made, textFaults]
    cases madeText args[2]? <;> simp

theorem madeText_eq_unreadable {third : Option Argument} :
    madeText third = .unreadable ↔ third = some (.text none) := by
  unfold madeText
  split <;> simp_all

theorem made_eq_unreadable {args : List Argument} {kind : FieldKind} :
    made args kind = .unreadable ↔ kind = .string ∧ args[2]? = some (.text none) := by
  cases kind with
  | boolean => simp [made]
  | float =>
    simp only [made]
    cases single args 2 <;> simp
  | vector3 =>
    simp only [made]
    split <;> simp
  | quaternion =>
    simp only [made]
    split <;> simp
  | string => simp [made, madeText_eq_unreadable]

/-! ## Fields of actors -/

namespace Outward

theorem readField (kind : FieldKind) (actor field : Nat) :
    Outward (Act.readField kind actor field : Act E K (Option FieldValue)) := by
  unfold Act.readField
  refine (invoke (by simp) (by simp)).bind fun reply => ?_
  split
  · refine (checkLength _ _).bind fun r => ?_
    cases r <;> exact pure _
  · exact pure _
  · exact pure _

theorem accessField (direction : Direction) (kind : FieldKind) (args : List Argument) :
    Outward (Act.accessField direction kind args : Act E K _) := by
  unfold Act.accessField
  refine (isSet _).bind fun on => ite ((logError _).bind fun _ => pure _) ?_
  refine (idArguments_tells args).outward.bind fun ids => ?_
  cases ids with
  | none => exact pure _
  | some ids =>
    cases direction with
    | get =>
      refine (isReadable_tells kind args).outward.bind fun readable => ite ?_ (pure _)
      refine (readField kind _ _).bind fun v => ?_
      cases v <;> exact pure _
    | set =>
      refine (writtenValue_tells kind args).outward.bind fun written => ?_
      cases written with
      | value v => exact (invoke (by simp) (by simp)).bind fun _ => pure _
      | refused => exact pure _
      | unreadable => exact pure _

/-! ## Requests -/

theorem passOn (message : String) {log : String → Act E K Unit} (hlog : ∀ text, Outward (log text)) :
    Outward (Act.passOn message log) := by
  refine (checkLength _ _).bind fun r => ?_
  cases r with
  | ok u => exact (hlog _).bind fun _ => pure _
  | error cause => exact pure _

theorem serve {s : Surroundings E} {request : Request} (h : ∀ name args, request ≠ .service name args) :
    Outward (Act.serve s request : Act E K _) := by
  cases request with
  | imported => exact (record _ _ _).bind fun _ => pure _
  | debug message => exact passOn message logDebug
  | error message => exact passOn message logError
  | module id =>
    refine (checkLength _ _).bind fun r => ?_
    split <;> exact pure _
  | service name args => exact absurd rfl (h name args)
  | unnamedService => exact (logError _).bind fun _ => pure _
  | unwritableArgs service reason => exact (logError _).bind fun _ => pure _
  | unreadableResult result => exact (logError _).bind fun _ => pure _
  | field direction kind args => exact accessField direction kind args

end Outward

end Act

end BrainHost
