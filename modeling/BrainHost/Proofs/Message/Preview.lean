import BrainHost.Marshal
import Mathlib.Data.String.Basic

/-! # Previews

A long text is cut at the last boundary between characters that is within the bound. No character takes more
than four bytes, so this boundary is found after at most three steps back. -/

namespace BrainHost

/-- The characters at the start of a text that take at most so many bytes. -/
def takeBytes : Nat → List Char → List Char
  | _, [] => []
  | room, c :: rest => if room < c.utf8Size then [] else c :: takeBytes (room - c.utf8Size) rest

/-- A text if it is short, or its start in whole characters and its length. -/
def preview (text : String) : String :=
  if text.utf8ByteSize ≤ previewBytes then text
  else String.ofList (takeBytes previewBytes text.toList) ++ s!"... ({text.utf8ByteSize} bytes total)"

/-! ## The characters within a bound -/

theorem utf8Len_takeBytes (room : Nat) (cs : List Char) : String.utf8Len (takeBytes room cs) ≤ room := by
  induction cs generalizing room with
  | nil => simp [takeBytes]
  | cons c cs ih =>
    unfold takeBytes
    split
    · simp
    · have := ih (room - c.utf8Size)
      rw [String.utf8Len_cons]
      omega

theorem takeBytes_start (room : Nat) (cs : List Char) : takeBytes room cs <+: cs := by
  induction cs generalizing room with
  | nil => exact List.prefix_rfl
  | cons c cs ih =>
    unfold takeBytes
    split
    · exact List.nil_prefix
    · exact (List.prefix_cons_inj c).mpr (ih _)

theorem start_takeBytes {front cs : List Char} (within : front <+: cs) {room : Nat}
    (fits : String.utf8Len front ≤ room) : front <+: takeBytes room cs := by
  induction cs generalizing front room with
  | nil => exact List.prefix_nil.mp within ▸ List.nil_prefix
  | cons c cs ih =>
    cases front with
    | nil => exact List.nil_prefix
    | cons d front =>
      obtain ⟨rfl, tail⟩ := List.cons_prefix_cons.mp within
      rw [String.utf8Len_cons] at fits
      unfold takeBytes
      rw [if_neg (by omega)]
      exact (List.prefix_cons_inj d).mpr (ih tail (by omega))

theorem lt_utf8Len_takeBytes {room : Nat} {cs : List Char} (long : room < String.utf8Len cs) :
    room < String.utf8Len (takeBytes room cs) + 4 := by
  induction cs generalizing room with
  | nil => simp at long
  | cons c cs ih =>
    have four := c.utf8Size_le_four
    rw [String.utf8Len_cons] at long
    unfold takeBytes
    split
    · rw [String.utf8Len_nil]
      omega
    · have left : room - c.utf8Size < String.utf8Len cs := by omega
      have rest := ih left
      rw [String.utf8Len_cons]
      omega

/-! ## Boundaries -/

theorem isBoundary_iff {text : String} {offset : Nat} :
    isBoundary text offset = true ↔ ∃ front, front <+: text.toList ∧ String.utf8Len front = offset := by
  unfold isBoundary
  rw [String.Pos.Raw.isValid_eq_true_iff, String.Pos.Raw.isValid_iff_exists_take_toList]
  constructor
  · rintro ⟨i, e⟩
    exact ⟨text.toList.take i, List.take_prefix i _, by rw [← String.utf8ByteSize_ofList]; exact e.symm⟩
  · rintro ⟨front, within, rfl⟩
    refine ⟨front.length, ?_⟩
    rw [← List.prefix_iff_eq_take.mp within, String.utf8ByteSize_ofList]

theorem firstBytes?_start {text : String} {front : List Char} (within : front <+: text.toList) :
    firstBytes? text (String.utf8Len front) = some (String.ofList front) := by
  have boundary := isBoundary_iff.mpr ⟨front, within, rfl⟩
  obtain ⟨rest, whole⟩ := within
  have splits : String.Pos.Splits
      (⟨⟨String.utf8Len front⟩, String.Pos.Raw.isValid_eq_true_iff.mp boundary⟩ : text.Pos)
      (String.ofList front) (String.ofList rest) := by
    refine ⟨?_, ?_⟩
    · rw [← String.ofList_append, whole, String.ofList_toList]
    · rw [String.Pos.Raw.ext_iff, String.byteIdx_rawEndPos, String.utf8ByteSize_ofList]
  unfold firstBytes?
  rw [dif_pos boundary, Option.some.injEq, ← String.toByteArray_inj, splits.toByteArray_left_eq]
  rfl

theorem backToBoundary?_eq {text : String} {last : Nat} (boundary : isBoundary text last = true) (steps : Nat)
    (between : ∀ k < steps, isBoundary text (last + steps - k) = false) :
    backToBoundary? text (last + steps) = some last := by
  induction steps with
  | zero => cases last <;> simp [backToBoundary?, boundary]
  | succ steps ih =>
    have here : isBoundary text (last + steps + 1) = false := between 0 (Nat.succ_pos steps)
    show (if isBoundary text (last + steps + 1) then _ else backToBoundary? text (last + steps)) = _
    rw [here]
    refine ih fun k hk => ?_
    have := between (k + 1) (Nat.succ_lt_succ hk)
    rwa [show last + (steps + 1) - (k + 1) = last + steps - k by omega] at this

/-! ## The preview -/

/-- The search ends where what is taken of the text ends. -/
theorem backToBoundary?_takeBytes {text : String} {room : Nat} :
    backToBoundary? text room = some (String.utf8Len (takeBytes room text.toList)) := by
  have fits := utf8Len_takeBytes room text.toList
  have boundary : isBoundary text (String.utf8Len (takeBytes room text.toList)) = true :=
    isBoundary_iff.mpr ⟨_, takeBytes_start room _, rfl⟩
  have found := backToBoundary?_eq boundary (room - String.utf8Len (takeBytes room text.toList)) fun k hk => ?_
  · rwa [Nat.add_sub_cancel' fits] at found
  · -- A boundary further on would end a longer start that fits.
    rw [Nat.add_sub_cancel' fits, Bool.eq_false_iff]
    intro further
    obtain ⟨front, within, size⟩ := isBoundary_iff.mp further
    have small : String.utf8Len front ≤ room := by omega
    obtain ⟨rest, whole⟩ := start_takeBytes within small
    have longer := congrArg String.utf8Len whole
    rw [String.utf8Len_append] at longer
    omega

theorem preview?_eq (text : String) : preview? text = some (preview text) := by
  unfold preview? preview
  split
  · rfl
  · rw [backToBoundary?_takeBytes, Option.bind_eq_bind, Option.bind_some,
      firstBytes?_start (takeBytes_start _ _)]
    rfl

theorem Inside.decodeState_eq {E : Engine} {K : HostKind} (text : String) :
    (Inside.decodeState text : Inside E K E.Value) = (do
      match ← Inside.change (E.parseJson text) with
      | .ok v => pure v
      | .error _ => throw (.marshal (.invalidState (preview text)))) := by
  unfold Inside.decodeState
  refine congrArg _ (funext fun read => ?_)
  cases read with
  | ok v => rfl
  | error e => simp only [preview?_eq]

/-- **Previews.** A text of at most 4096 bytes is quoted as it is. Of a longer text the search finds a boundary
after at most three steps back from there, and what is quoted is the longest start in whole characters that takes
at most 4096 bytes, with the length of the text behind it. -/
theorem preview_cuts_between_characters (text : String) :
    (text.utf8ByteSize ≤ 4096 → preview? text = some text) ∧
    (4096 < text.utf8ByteSize → ∃ start offset,
      backToBoundary? text 4096 = some offset ∧ firstBytes? text offset = some start ∧
      preview? text = some (start ++ "... (" ++ toString text.utf8ByteSize ++ " bytes total)") ∧
      start.utf8ByteSize = offset ∧ 4093 ≤ offset ∧ offset ≤ 4096 ∧ start.toList <+: text.toList ∧
      ∀ front, front <+: text.toList → String.utf8Len front ≤ 4096 → front <+: start.toList) := by
  refine ⟨fun short => ?_, fun long => ?_⟩
  · unfold preview?
    exact if_pos short
  · have size : 4096 < String.utf8Len text.toList := by rwa [← String.utf8ByteSize_ofList, String.ofList_toList]
    have close := lt_utf8Len_takeBytes size
    refine ⟨String.ofList (takeBytes 4096 text.toList), _, backToBoundary?_takeBytes,
      firstBytes?_start (takeBytes_start _ _), ?_, String.utf8ByteSize_ofList _, by omega,
      utf8Len_takeBytes _ _, ?_, fun front within fits => ?_⟩
    · have cut : preview text = String.ofList (takeBytes 4096 text.toList) ++
          ("... (" ++ toString text.utf8ByteSize ++ " bytes total)") := if_neg (Nat.not_le.mpr long)
      rw [preview?_eq, cut, String.append_assoc, String.append_assoc, String.append_assoc]
    · rw [String.toList_ofList]
      exact takeBytes_start _ _
    · rw [String.toList_ofList]
      exact start_takeBytes within fits

end BrainHost
