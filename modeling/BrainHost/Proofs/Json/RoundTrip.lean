import BrainHost.Inspect
import BrainHost.Proofs.Json.Result
import BrainHost.Proofs.Json.Telling
import BrainHost.Proofs.Script.Founded
import Mathlib.Data.String.Basic

/-! # States that go round

A state that is decoded and encoded again may come back in another form: members with one key become
one, indices move to the front, zeros lose their sign. The form that it comes back in is final. -/

namespace BrainHost

namespace Script

variable {r : Realm} {bound : Nat} {v : Value} {j : Json}

/-! ## One pass -/

def writeText (v : Value) : Act (Option String) := do
  pure ((← writeJson v .undefined .undefined).map Str.toText)

theorem stringify_apply (v : Value) (c : Context) : engine.stringify v c = c.run (writeText v) := rfl

theorem stringify_eq {c : Context} (pristine : c.realm.Pristine) (shown : c.realm.Shows bound v j)
    (shallow : j.level ≤ Json.maxDepth) (small : j.steps < Act.endless) :
    engine.stringify v c = .done (⟨c.realm.withHolder v, c.threads⟩, .ok (some (String.ofList j.chars))) := by
  have written : (writeJson v .undefined .undefined c.realm).Arrives False _ _ _ :=
    writeJson_arrives pristine shown (.inr ⟨shallow, Nat.le_of_lt small⟩)
  have told : (writeText v c.realm).Arrives False (c.realm.withHolder v) (some (String.ofList j.chars)) j.steps :=
    written.bind (n := 0) ⟨congrArg some (Json.toText_render j), rfl⟩
  exact Context.run_arrives told small

theorem length_le_utf8ByteSize (cs : List Char) : cs.length ≤ (String.ofList cs).utf8ByteSize := by
  rw [String.utf8ByteSize_ofList]
  induction cs with
  | nil => exact Nat.zero_le _
  | cons c cs ih =>
    have := c.utf8Size_pos
    rw [String.utf8Len_cons, List.length_cons]
    omega

theorem steps_lt_endless {size : Nat} (small : (String.ofList j.chars).utf8ByteSize ≤ size)
    (bounded : 2 * size < Act.endless) : j.steps < Act.endless := by
  have := Json.steps_le j
  have := length_le_utf8ByteSize j.chars
  omega

theorem stringify_ofJson {c : Context} (pristine : c.realm.Pristine) (tidy : j.Tidy)
    (shallow : j.level ≤ Json.maxDepth) (small : j.steps < Act.endless) :
    ∃ c', engine.stringify (c.realm.ofJson j).1 ⟨(c.realm.ofJson j).2, c.threads⟩
      = .done (c', .ok (some (String.ofList j.chars))) ∧ c'.realm.Pristine := by
  obtain ⟨grows, j', shown, same⟩ := c.realm.ofJson_shows j
  rw [same tidy] at shown
  have pristine' := pristine.grows grows
  exact ⟨_, stringify_eq (c := ⟨_, c.threads⟩) pristine' shown shallow small, pristine'.grows (.withHolder _ _)⟩

end Script

open Script (Json)

namespace Inside

variable {E : Engine} {K : HostKind} {link : Link E K} {w w' : World E K} {s : Surroundings E} {c c' : E.Context}
  {v : E.Value} {text : String}

theorem encodeState_written (written : Act.carryOut s (E.stringify v c) link w = .done (c', .ok (some text)) w') :
    (encodeState s v).run c link w = .done (if Limit.json.maxBytes < text.utf8ByteSize then
      .error (.marshal (.resultTooLarge text.utf8ByteSize Limit.json.maxBytes)) else .ok text, c') w' := by
  unfold encodeState
  rw [run_bind, Act.bind_apply, run_perform, Act.bind_apply, written]
  show (if Limit.json.maxBytes < text.utf8ByteSize then
      throw (.marshal (.resultTooLarge text.utf8ByteSize Limit.json.maxBytes)) else pure text :
    Inside E K String).run c' link w' = _
  split <;> rfl

theorem encodeState_done (written : E.stringify v c = .done (c', .ok (some text))) (s : Surroundings E)
    (link : Link E K) (w : World E K) :
    (encodeState s v).run c link w = .done (if Limit.json.maxBytes < text.utf8ByteSize then
      .error (.marshal (.resultTooLarge text.utf8ByteSize Limit.json.maxBytes)) else .ok text, c') w := by
  apply encodeState_written
  rw [written]
  rfl

end Inside

section

variable {E : Engine} {K : HostKind}

namespace Inspect

def silent : Link E Quiet := fun _ w => .done .none w

theorem alone_of_run {α : Type} {m : Inside E Quiet α} {result : Except Failure α} {c c' : E.Context}
    {w' : World E Quiet} (create : E.create {} [] = .ok c)
    (run : m.run c silent { host := () } = .done (result, c') w') : alone E m = result := by
  unfold silent at run
  unfold alone
  rw [create]
  dsimp only
  rw [run]

theorem roundTrip_decoded {text : String} {v : E.Value} {c c₁ : E.Context} {link : Link E Quiet}
    {w w₁ : World E Quiet} (decoded : (Inside.decodeState text).run c link w = .done (.ok v, c₁) w₁) :
    (roundTrip text : Inside E Quiet String).run c link w = (Inside.encodeState nowhere v).run c₁ link w₁ := by
  unfold roundTrip
  rw [Inside.run_bind, Act.bind_apply, decoded]
  rfl

theorem alone_roundTrip {text : String} {result : Except Failure String} {v : E.Value} {c c₁ c₂ : E.Context}
    {w₁ w₂ : World E Quiet} (create : E.create {} [] = .ok c)
    (decoded : (Inside.decodeState text).run c silent { host := () } = .done (.ok v, c₁) w₁)
    (encoded : (Inside.encodeState nowhere v).run c₁ silent w₁ = .done (result, c₂) w₂) :
    alone E (roundTrip text) = result := alone_of_run create ((roundTrip_decoded decoded).trans encoded)

end Inspect

end

variable {K : HostKind}

end BrainHost
