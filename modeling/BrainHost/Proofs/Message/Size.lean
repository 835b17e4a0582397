import BrainHost.Proofs.Message.Preview
import BrainHost.Session
import Mathlib.Data.Nat.Digits.Defs
import Mathlib.Data.String.Basic

/-! # Sizes of messages

The texts that the runtime has of its own are far below the bound for log messages. A failure can have a
longer text only because it quotes something that has no such bound. -/

namespace BrainHost

def IsShort (message : String) : Prop := message.utf8ByteSize ≤ Limit.logMessage.maxBytes

instance : DecidablePred IsShort := fun message =>
  inferInstanceAs (Decidable (message.utf8ByteSize ≤ Limit.logMessage.maxBytes))

/-- The message that a service gave no result, which quotes the arguments. -/
def uncaptured (service args : String) : String :=
  s!"Failed to capture result of service '{service}'. See prior errors for details. Input args json: {args}"

/-! ## Messages that quote -/

/-- Whether the text of a failure quotes something that may be longer than a log message: a script and
what it throws, the id of a brain, what is passed to and from services, or a reason of the engine. -/
def Failure.quotes : Failure → Bool
  | script (.compilation _ _) => true
  | script (.exception _ _) => true
  | script (.missingEntryPoint _ _) => true
  | marshal (.unserializable _) => true
  | service (.unserializableArgs _ _) => true
  | service (.noCurrentUser _) => true
  | service (.invalidResult _) => true
  | unknownBrain _ => true
  | resetFailed _ _ => true
  | engine _ => true
  | _ => false

def Rejection.length? : Rejection → Option Nat
  | empty _ => none
  | tooLong _ actual => some actual

/-- The number that a failure tells of. -/
def Failure.number? : Failure → Option Nat
  | rejected cause => cause.length?
  | script (.pendingJobLimit limit) => some limit
  | marshal (.resultTooLarge actual _) => some actual
  | marshal (.bufferTooLarge actual _) => some actual
  | service (.invalidRequest cause) => cause.length?
  | service (.resultRejected cause) => cause.length?
  | _ => none

/-- A message that may be longer than a log message. Numbers are not bounded here, and those that no
machine has could be. -/
inductive Quoting : String → Prop
  | failure {failure : Failure} (h : failure.quotes = true) : Quoting failure.message
  | uncaptured (service args : String) : Quoting (uncaptured service args)
  | number {failure : Failure} {n : Nat} (h : failure.number? = some n) (hn : 2 ^ 64 ≤ n) :
    Quoting failure.message

def Sendable (message : String) : Prop := IsShort message ∨ Quoting message

/-! ## Sizes -/

theorem le_of_check {limit : Limit} {text : String} (h : limit.check text = .ok ()) :
    text.utf8ByteSize ≤ limit.maxBytes := by
  unfold Limit.check Limit.checkLength at h
  split at h
  · cases h
  · split at h
    · cases h
    · next hsize => exact Nat.not_lt.mp hsize

theorem utf8Len_le (cs : List Char) : String.utf8Len cs ≤ 4 * cs.length := by
  induction cs with
  | nil => simp
  | cons c cs ih =>
    have := c.utf8Size_le_four
    rw [String.utf8Len_cons, List.length_cons]
    omega

theorem utf8ByteSize_toString {n : Nat} (h : n < 2 ^ 64) : (toString n).utf8ByteSize ≤ 80 := by
  have digits : (Nat.toDigits 10 n).length ≤ 20 := Nat.toDigits_length 10 n 20 (by decide) (by omega)
  have bytes := utf8Len_le (Nat.toDigits 10 n)
  change (String.ofList (Nat.toDigits 10 n)).utf8ByteSize ≤ 80
  rw [String.utf8ByteSize_ofList]
  omega

theorem isShort_between {before text after : String} {room : Nat} (h : text.utf8ByteSize ≤ room)
    (hroom : before.utf8ByteSize + room + after.utf8ByteSize ≤ Limit.logMessage.maxBytes) :
    IsShort (before ++ text ++ after) := by
  unfold IsShort
  rw [String.utf8ByteSize_append, String.utf8ByteSize_append]
  omega

theorem isShort_pair {before text between text' after : String} (h : text.utf8ByteSize ≤ 80)
    (h' : text'.utf8ByteSize ≤ 80)
    (hroom : before.utf8ByteSize + between.utf8ByteSize + after.utf8ByteSize + 160 ≤ Limit.logMessage.maxBytes) :
    IsShort (before ++ text ++ between ++ text' ++ after) := by
  refine isShort_between h' ?_
  rw [String.utf8ByteSize_append, String.utf8ByteSize_append]
  omega

theorem utf8ByteSize_preview {text : String} (h : text.utf8ByteSize ≤ Limit.json.maxBytes) :
    (preview text).utf8ByteSize ≤ 5000 := by
  unfold preview
  split
  · next hsmall => exact Nat.le_trans hsmall (by decide)
  · have number : (toString text.utf8ByteSize).utf8ByteSize ≤ 80 :=
      utf8ByteSize_toString (Nat.lt_of_le_of_lt h (by decide))
    have start := utf8Len_takeBytes previewBytes text.toList
    have before : (toString "... (").utf8ByteSize = 5 := by decide
    have after : (toString " bytes total)").utf8ByteSize = 13 := by decide
    have bytes : previewBytes = 4096 := rfl
    rw [String.utf8ByteSize_append, String.utf8ByteSize_append, String.utf8ByteSize_append,
      String.utf8ByteSize_ofList]
    omega

/-! ## Failures -/

/-- The texts that a failure holds are no longer than what they are made of may be. -/
def Failure.Measured : Failure → Prop
  | marshal (.invalidState text) => ∃ state, text = preview state ∧ state.utf8ByteSize ≤ Limit.json.maxBytes
  | marshal (.resultTooLarge _ max) => max < 2 ^ 64
  | marshal (.bufferTooLarge _ max) => max < 2 ^ 64
  | service (.nested name) => name.utf8ByteSize ≤ Limit.serviceName.maxBytes
  | service (.notReported name) => name.utf8ByteSize ≤ Limit.serviceName.maxBytes
  | script (.invalidBrain _) => False
  | config cause => IsShort cause.message
  | resetFailed _ cause => cause.Measured
  | _ => True

theorem Sendable.of_number {failure : Failure} {n : Nat} (h : failure.number? = some n)
    (hshort : (toString n).utf8ByteSize ≤ 80 → IsShort failure.message) : Sendable failure.message := by
  rcases Nat.lt_or_ge n (2 ^ 64) with hn | hn
  · exact .inl (hshort (utf8ByteSize_toString hn))
  · exact .inr (.number h hn)

theorem Rejection.utf8ByteSize_message (cause : Rejection)
    (h : ∀ n, cause.length? = some n → (toString n).utf8ByteSize ≤ 80) :
    cause.message.utf8ByteSize ≤ 300 := by
  cases cause with
  | empty limit => cases limit <;> decide
  | tooLong limit actual =>
    have number : (toString actual).utf8ByteSize ≤ 80 := h actual rfl
    have before : (toString "A given " ++ toString limit.describe ++
        toString " exceeded the maximum expected length of " ++ toString limit.maxBytes ++
        toString " bytes (got ").utf8ByteSize ≤ 200 := by
      cases limit <;> decide
    have after : (toString ")").utf8ByteSize = 1 := by decide
    change (_ ++ toString actual ++ toString ")").utf8ByteSize ≤ 300
    rw [String.utf8ByteSize_append, String.utf8ByteSize_append]
    omega

theorem Rejection.sendable {failure : Failure} (cause : Rejection) (before : String)
    (hmessage : failure.message = before ++ cause.message) (hnumber : failure.number? = cause.length?)
    (hbefore : before.utf8ByteSize ≤ 100) : Sendable failure.message := by
  have short (h : ∀ n, cause.length? = some n → (toString n).utf8ByteSize ≤ 80) : IsShort failure.message := by
    have size := cause.utf8ByteSize_message h
    have bound : Limit.logMessage.maxBytes = 1048576 := rfl
    rw [hmessage, IsShort, String.utf8ByteSize_append, bound]
    omega
  cases hlength : cause.length? with
  | none => exact .inl (short fun n hn => absurd (hlength.symm.trans hn) (by simp))
  | some n =>
    -- A number that no machine has would make the message quote.
    refine .of_number (hnumber.trans hlength) fun hn => short fun m hm => ?_
    cases hlength.symm.trans hm
    exact hn

theorem Failure.Measured.sendable {failure : Failure} (h : failure.Measured) : Sendable failure.message := by
  cases failure with
  | rejected cause =>
    exact cause.sendable "" (String.empty_append ..).symm rfl (by decide)
  | script cause =>
    cases cause with
    | pendingJobLimit limit => exact .of_number rfl fun hn => isShort_between hn (by decide)
    | invalidBrain operation => exact h.elim
    | _ => exact .inr (.failure rfl)
  | marshal cause =>
    cases cause with
    | invalidState text =>
      obtain ⟨state, rfl, hstate⟩ := h
      have short : IsShort ("Failed to JSON-parse state:\n" ++ preview state ++ "") :=
        isShort_between (utf8ByteSize_preview hstate) (by decide)
      rw [String.append_empty] at short
      exact .inl short
    | unserializable reason => exact .inr (.failure rfl)
    | resultTooLarge actual max =>
      exact .of_number rfl fun hn => isShort_pair hn (utf8ByteSize_toString h) (by decide)
    | bufferTooLarge actual max =>
      exact .of_number rfl fun hn => isShort_pair hn (utf8ByteSize_toString h) (by decide)
  | service cause =>
    cases cause with
    | noHandler => exact .inl (by decide)
    | invalidRequest cause => exact cause.sendable _ rfl rfl (by decide)
    | nested name => exact .inl (isShort_between h (by decide))
    | notReported name => exact .inl (isShort_between h (by decide))
    | resultRejected cause => exact cause.sendable _ rfl rfl (by decide)
    | _ => exact .inr (.failure rfl)
  | alreadyInitialized => exact .inl (by decide)
  | notInitialized => exact .inl (by decide)
  | config cause => exact .inl h
  | _ => exact .inr (.failure rfl)

end BrainHost
