import BrainHost.Proofs.Act.Calls
import BrainHost.Proofs.Act.Outward
import BrainHost.Proofs.Message.Size

/-! # Messages of scripts

What scripts log is measured before it is passed on. What the runtime says of their requests is short,
but for what it quotes of the arguments and results of services. -/

namespace BrainHost

variable {E : Engine} {K : HostKind} {α : Type} {allowed : Callback → Prop}

/-- Calls of host functions as scripts lead to them, with messages of any text that is short. -/
structure Curt (allowed : Callback → Prop) : Prop where
  debug : ∀ message, IsShort message → allowed (.debug message)
  error : ∀ message, IsShort message → allowed (.error message)
  service : ∀ service args reporter, allowed (.callService service args reporter)
  getField : ∀ kind actor field, allowed (.getField kind actor field)
  setField : ∀ actor field value, allowed (.setField actor field value)

/-- Such calls, and those by which native code is asked for strings. -/
structure Terse (allowed : Callback → Prop) : Prop extends Curt allowed where
  fillString : ∀ actor field buffer, allowed (.fillString actor field buffer)

/-- Calls of host functions as operations make them, with messages of any text that is short, and errors of
any that quotes. -/
structure Blunt (allowed : Callback → Prop) : Prop extends Curt allowed where
  quoting : ∀ message, Quoting message → allowed (.error message)

/-- Such calls, and those by which native code is asked for strings. -/
structure Candid (allowed : Callback → Prop) : Prop extends Terse allowed, Blunt allowed

theorem Blunt.sendable (h : Blunt allowed) {message : String} (hmessage : Sendable message) :
    allowed (.error message) := hmessage.elim (h.error message) (h.quoting message)

theorem isShort_of_check {text : String} (h : Limit.logMessage.checkLength text.utf8ByteSize = .ok ()) :
    IsShort text := by
  unfold Limit.checkLength at h
  split at h
  · cases h
  · next hsize => exact Nat.not_lt.mp hsize

theorem le_of_refusal?_none {w : World E K} {service args : String}
    (h : Act.refusal? w service args = none) : service.utf8ByteSize ≤ Limit.serviceName.maxBytes := by
  unfold Act.refusal? at h
  split at h
  · cases h
  · cases h
  · next hservice hargs => exact le_of_check hservice

theorem measured_of_refusal? {w : World E K} {service args : String} {failure : ServiceFailure}
    (h : Act.refusal? w service args = some failure) : (Failure.service failure).Measured := by
  unfold Act.refusal? at h
  split at h
  · cases h
    trivial
  · cases h
    trivial
  · next hservice hargs =>
    split at h
    · cases h
      trivial
    · split at h
      · cases h
        exact le_of_check hservice
      · cases h

theorem Act.Calls.passOn (message : String) {log : String → Act E K Unit}
    (hlog : IsShort message → Act.Calls allowed (log message)) :
    Act.Calls allowed (Act.passOn message log : Act E K (Answer E.Value)) := by
  refine (Act.Calls.warnOf _).bind_of fun r hr => ?_
  obtain ⟨link, w, v, hrun⟩ := hr
  cases r with
  | ok u =>
    rw [Act.warnOf_apply] at hrun
    injection hrun with hcheck
    exact (hlog (isShort_of_check hcheck)).bind fun _ => .pure _
  | error cause => exact .pure _

/-! ## What is said of arguments -/

namespace Act

theorem unnumbered_isShort {what : String} (hwhat : what.utf8ByteSize ≤ 100) (argument : Argument) :
    ∀ message ∈ unnumbered what argument, IsShort message := by
  unfold unnumbered
  split
  · exact nofun
  · exact List.forall_mem_singleton.mpr (isShort_between hwhat (by decide))

theorem idFaults_isShort (args : List Argument) : ∀ message ∈ idFaults args, IsShort message := by
  unfold idFaults
  split
  · split
    · exact unnumbered_isShort (by decide) _
    · exact unnumbered_isShort (by decide) _
  · exact List.forall_mem_singleton.mpr (by decide)

theorem lacking_isShort (args : List Argument) {i : Nat} (hi : (ordinal i).utf8ByteSize ≤ 100) :
    ∀ message ∈ lacking args i, IsShort message := by
  unfold lacking
  split
  · exact nofun
  · have short : IsShort ("" ++ ordinal i ++ " argument needs to be a number!") := isShort_between hi (by decide)
    rw [String.empty_append] at short
    exact List.forall_mem_singleton.mpr short

theorem faults_isShort (args : List Argument) (kind : FieldKind) : ∀ message ∈ faults args kind, IsShort message := by
  have third := lacking_isShort args (i := 2) (by decide)
  have fourth := lacking_isShort args (i := 3) (by decide)
  have fifth := lacking_isShort args (i := 4) (by decide)
  have sixth := lacking_isShort args (i := 5) (by decide)
  cases kind with
  | boolean => exact nofun
  | float => exact third
  | vector3 => exact List.forall_mem_append.mpr ⟨third, List.forall_mem_append.mpr ⟨fourth, fifth⟩⟩
  | quaternion =>
    exact List.forall_mem_append.mpr ⟨third, List.forall_mem_append.mpr ⟨fourth,
      List.forall_mem_append.mpr ⟨fifth, sixth⟩⟩⟩
  | string =>
    unfold faults textFaults
    dsimp only
    split
    · exact List.forall_mem_singleton.mpr (by decide)
    · exact nofun

end Act

namespace Curt

variable (h : Curt allowed)
include h

theorem logError {message : String} (hshort : IsShort message) :
    Act.Calls allowed (Act.logError message : Act E K Unit) := .logError (h.error message hshort)

/-! ## Fields of actors -/

theorem tells {m : Act E K α} {messages : List String} {a : α} (told : m.Tells messages a)
    (short : ∀ message ∈ messages, IsShort message) : Act.Calls allowed m := by
  unfold Act.Tells at told
  rw [told]
  refine Act.Calls.bind ?_ fun _ => .pure _
  clear told
  induction messages with
  | nil => exact .pure _
  | cons message messages ih =>
    rw [List.forM_cons]
    exact (h.logError (short _ (.head _))).bind fun _ => ih fun other hother => short other (.tail _ hother)

theorem isReadable (kind : FieldKind) (args : List Argument) :
    Act.Calls allowed (Act.isReadable kind args : Act E K Bool) := by
  have short : IsShort (missingObject kind) := by cases kind <;> decide
  refine h.tells (Act.isReadable_tells kind args) ?_
  split
  · exact nofun
  · exact List.forall_mem_singleton.mpr short

theorem readField (kind : FieldKind) (actor field : Nat) :
    Act.Calls allowed (Act.readField kind actor field : Act E K (Option FieldValue)) := by
  unfold Act.readField
  refine (Act.Calls.invoke (h.getField kind actor field)).bind fun reply => ?_
  split
  · refine (Act.Calls.warnOf _).bind fun r => ?_
    cases r <;> exact .pure _
  · exact .pure _
  · exact .pure _

theorem accessField (direction : Direction) (kind : FieldKind) (args : List Argument) :
    Act.Calls allowed (Act.accessField direction kind args : Act E K _) := by
  have short : IsShort s!"No actor {kind.name} {direction.name} set" := by
    cases direction <;> cases kind <;> decide
  unfold Act.accessField
  refine (Act.Calls.isSet _).bind fun on => .ite (fun _ => (h.logError short).bind fun _ => .pure _) fun _ => ?_
  refine (h.tells (Act.idArguments_tells args) (Act.idFaults_isShort args)).bind fun ids => ?_
  cases ids with
  | none => exact .pure _
  | some ids =>
    cases direction with
    | get =>
      refine (h.isReadable kind args).bind fun readable => .ite (fun _ => ?_) fun _ => .pure _
      refine (h.readField kind _ _).bind fun v => ?_
      cases v <;> exact .pure _
    | set =>
      refine (h.tells (Act.writtenValue_tells kind args) (Act.faults_isShort args kind)).bind fun written => ?_
      cases written with
      | value v => exact (Act.Calls.invoke (h.setField _ _ v)).bind fun _ => .pure _
      | refused => exact .pure _
      | unreadable => exact .pure _

/-! ## Requests -/

theorem serve (s : Surroundings E) {request : Request} (hservice : ∀ name args, request ≠ .service name args)
    (hargs : ∀ service reason, request ≠ .unwritableArgs service reason)
    (hresult : ∀ result, request ≠ .unreadableResult result) :
    Act.Calls allowed (Act.serve s request : Act E K _) := by
  cases request with
  | imported => exact (Act.Calls.record _ _ _).bind fun _ => .pure _
  | debug message => exact Act.Calls.passOn message fun hshort => .logDebug (h.debug message hshort)
  | error message => exact Act.Calls.passOn message fun hshort => .logError (h.error message hshort)
  | module id =>
    refine (Act.Calls.warnOf _).bind fun r => ?_
    split <;> exact .pure _
  | service name args => exact absurd rfl (hservice name args)
  | unnamedService => exact (h.logError (by decide)).bind fun _ => .pure _
  | unwritableArgs service reason => exact absurd rfl (hargs service reason)
  | unreadableResult result => exact absurd rfl (hresult result)
  | field direction kind args => exact h.accessField direction kind args

/-! ## Services -/

theorem conclude (bridge reporter : Nat) {service : String}
    (hservice : service.utf8ByteSize ≤ Limit.serviceName.maxBytes) :
    Act.Calls allowed (Act.conclude bridge reporter service : Act E K _) := by
  have short : IsShort (ServiceFailure.notReported service).message := isShort_between hservice (by decide)
  intro link link' alike
  funext w
  rw [Act.conclude_apply, Act.conclude_apply]
  split
  · rw [h.logError short link link' alike]
  · rfl

theorem callService (bridge : Nat) (service args : String) :
    Act.Calls allowed (Act.callService bridge service args : Act E K _) := by
  intro link link' alike
  funext w
  -- The name is known to be measured only where the call is not refused.
  rw [Act.callService_apply, Act.callService_apply, alike _ (h.service _ _ _)]
  cases hrefusal : Act.refusal? w service args with
  | some failure => rfl
  | none =>
    dsimp only
    congr 1
    funext reply v
    rw [h.conclude bridge _ (le_of_refusal?_none hrefusal) link link' alike]

end Curt

namespace Blunt

variable (h : Blunt allowed)
include h

theorem measured {failure : Failure} (hmeasured : failure.Measured) :
    Act.Calls allowed (Act.logError failure.message : Act E K Unit) :=
  .logError (h.sendable hmeasured.sendable)

theorem serveScript (bridge : Nat) (service args : String) :
    Act.Calls allowed (Act.serveScript bridge service args : Act E K _) := by
  refine (h.callService bridge service args).bind_of fun r hr => ?_
  obtain ⟨link, w, v, hrun⟩ := hr
  split
  · exact .pure _
  · exact (Act.Calls.logError (h.quoting _ (.uncaptured service args))).bind fun _ => .pure _
  · exact .pure _
  · next failure hother =>
    obtain ⟨hrefusal, -⟩ := Act.callService_error link w bridge service args hrun
    exact (h.measured (measured_of_refusal? hrefusal)).bind fun _ => .pure _

theorem serve (s : Surroundings E) (request : Request) :
    Act.Calls allowed (Act.serve s request : Act E K _) := by
  cases request with
  | service name args =>
    obtain ⟨bridge?, modules⟩ := s
    cases bridge? with
    | none => exact .pure _
    | some bridge =>
      refine (h.serveScript bridge name args).bind fun r => ?_
      cases r <;> exact .pure _
  | unwritableArgs service reason =>
    have measured : (Failure.service (.unserializableArgs service reason)).Measured := trivial
    exact (h.measured measured).bind fun _ => .pure _
  | unreadableResult result =>
    have measured : (Failure.service (.invalidResult result)).Measured := trivial
    exact (h.measured measured).bind fun _ => .pure _
  | _ => exact h.toCurt.serve s (by simp) (by simp) (by simp)

/-! ## Reports -/

theorem logService {failure : ServiceFailure} (hmeasured : (Failure.service failure).Measured) :
    Act.Calls allowed (Act.logService failure : Act E K (Except ServiceFailure α)) :=
  (h.measured hmeasured).bind fun _ => .pure _

theorem report (reporter : Nat) (result : String) :
    Act.Calls allowed (Act.report reporter result : Act E K _) := by
  refine (Act.Calls.warnOf _).bind fun r => ?_
  cases r with
  | error cause => exact h.logService trivial
  | ok u =>
    refine (Act.Calls.modify _).bind fun _ => Act.Calls.get.bind fun w => ?_
    split
    · refine .ite (fun _ => (Act.Calls.modify _).bind fun _ => .pure _) fun _ => ?_
      exact (Act.Calls.modify _).bind fun _ => h.logService trivial
    · exact h.logService trivial

end Blunt

end BrainHost
