import BrainHost.Proofs.Json.Snapshot
import BrainHost.Proofs.Json.Strict
import BrainHost.Proofs.Message.Preview

/-! # Texts that scripts write

What the engine writes of a value is one line of strict JSON, which the engine reads in every
context. -/

namespace BrainHost.Script

/-- A text that is that of a tree which is not too deep. -/
def IsWritten (text : String) : Prop := ∃ j : Json, j.level ≤ Json.maxDepth ∧ text = String.ofList j.chars

theorem stringify_isWritten (v : Value) (c : Context) :
    (engine.stringify v c).Ends fun p => ∀ text, p.2 = .ok (some text) → IsWritten text := by
  have written (r : Realm) : ((do pure ((← writeJson v .undefined .undefined).map Str.toText) : Act _) r).Gives
      fun o _ => ∀ text, o = some text → IsWritten text := by
    refine Act.gives_bind.mpr ((writeJson_readable v r).mono fun o r h => ?_)
    intro text e
    obtain ⟨s, hs, rfl⟩ := Option.map_eq_some_iff.mp e
    obtain ⟨j, shallow, rfl⟩ := h s hs
    exact ⟨j, shallow, Json.toText_render j⟩
  exact (c.run_ends (written c.realm)).mono fun p h text e => h (some text) e text rfl

namespace IsWritten

variable {text : String}

theorem ne_empty (h : IsWritten text) : text ≠ "" := by
  obtain ⟨j, -, rfl⟩ := h
  intro e
  have none : j.chars = [] := by rw [← String.toList_ofList (l := j.chars), e, String.toList_empty]
  have some := Json.chars_length_pos j
  rw [none] at some
  exact absurd some (Nat.lt_irrefl 0)

theorem isJson (h : IsWritten text) : Document.isJson text = true := by
  obtain ⟨j, -, rfl⟩ := h
  exact Json.isJson_chars j

theorem visible (h : IsWritten text) : ∀ c ∈ text.toList, 0x20 ≤ c.toNat := by
  obtain ⟨j, -, rfl⟩ := h
  rw [String.toList_ofList]
  exact Json.chars_ge j

theorem exists_ofUnits? (h : IsWritten text) : ∃ j, Json.ofUnits? (unitsOf text.toList) = .ok j := by
  obtain ⟨j, shallow, rfl⟩ := h
  rw [String.toList_ofList]
  exact ⟨_, Json.ofUnits?_chars shallow⟩

end IsWritten

/-! ## Reading -/

theorem readJson_ok {text : String} {j : Json} (h : Json.ofUnits? (unitsOf text.toList) = .ok j) (r : Realm) :
    readJson (.ofString text) r = .ok (r.ofJson j).1 (r.ofJson j).2 := by
  unfold readJson
  rw [units_ofString]
  dsimp only
  rw [h]
  rfl

theorem parseJson_ok {text : String} {j : Json} (h : Json.ofUnits? (unitsOf text.toList) = .ok j) (c : Context) :
    engine.parseJson text c = (⟨(c.realm.ofJson j).2, c.threads⟩, .ok (c.realm.ofJson j).1) := by
  show c.runAlone _ = _
  unfold Context.runAlone
  rw [Context.run_ok (readJson_ok h c.realm)]
  rfl

end BrainHost.Script

namespace BrainHost.Inside

variable {E : Engine} {K : HostKind} {text : String} {c c' : E.Context} {v : E.Value}

theorem decodeState_ok (h : E.parseJson text c = (c', .ok v)) (link : Link E K) (w : World E K) :
    (decodeState text : Inside E K E.Value).run c link w = .done (.ok v, c') w := by
  have change : (change (E.parseJson text) : Inside E K _).run c link w = .done (.ok (.ok v), c') w := by
    show Outcome.done (Except.ok (E.parseJson text c).2, (E.parseJson text c).1) w = _
    rw [h]
  rw [decodeState_eq, run_bind, Act.bind_apply, change]
  rfl

end BrainHost.Inside
