import BrainHost.Proofs.Json.Result
import BrainHost.Proofs.Update.Delivery

/-! # Results as states

A result can be handed back as the state of a later update, so a host can go on for any number of
updates with what it is given. -/

namespace BrainHost

open Script (IsWritten)

/-- A text that every update admits as a state, on one line. -/
structure IsState (text : String) : Prop where
  nonempty : text ≠ ""
  bounded : text.utf8ByteSize ≤ 10 * 1024 * 1024
  strict : Document.isJson text = true
  visible : ∀ c ∈ text.toList, 0x20 ≤ c.toNat
  admitted : Limit.json.check text = .ok ()
  decoded : ∀ {K : HostKind} (c : Script.engine.Context) (link : Link Script.engine K) (w : World Script.engine K),
    ∃ v c', (Inside.decodeState text).run c link w = .done (.ok v, c') w

theorem Script.IsWritten.check {text : String} (h : IsWritten text) :
    Limit.json.check text
      = if Limit.json.maxBytes < text.utf8ByteSize then .error (.tooLong .json text.utf8ByteSize) else .ok () := by
  have nonempty : text.utf8ByteSize ≠ 0 := fun e => h.ne_empty (String.utf8ByteSize_eq_zero_iff.mp e)
  unfold Limit.check
  rw [if_neg nonempty]
  rfl

theorem Script.IsWritten.isState {text : String} (h : IsWritten text) (hsize : text.utf8ByteSize ≤ Limit.json.maxBytes) :
    IsState text where
  nonempty := h.ne_empty
  bounded := hsize
  strict := h.isJson
  visible := h.visible
  admitted := by rw [h.check, if_neg (Nat.not_lt.mpr hsize)]
  decoded c link w := by
    obtain ⟨j, hj⟩ := h.exists_ofUnits?
    exact ⟨_, _, Inside.decodeState_ok (Script.parseJson_ok hj c) link w⟩

theorem Cycle.writes {E : Engine} {b : Brain E} {state json : String} {view : E.Value} {last : Phase}
    {moves : List (Move E)} (h : Cycle b state view last moves (.ok json)) :
    ∃ before v, moves = before ++ [.write v (.ok (some json))] ∧ json.utf8ByteSize ≤ Limit.json.maxBytes := by
  cases h with
  | encodes hread hcall hdrain hflush hwrite =>
    cases hwrite with
    | written text hsize => exact ⟨_, _, rfl, hsize⟩

variable {K : HostKind} {b : Brain Script.engine} {link : Link Script.engine K}

theorem Cycle.isState {state json : String} {buffer bytes : ByteArray} {view : Script.engine.Value} {last : Phase}
    {moves : List (Move Script.engine)} {p q : Scene Script.engine K} (h : Cycle b state view last moves (.ok json))
    (path : Path b link (.attach buffer view :: moves ++ [.detach view bytes]) p q) : IsState json := by
  obtain ⟨before, v, rfl, hsize⟩ := h.writes
  obtain ⟨x, hmoves, -⟩ := Path.append.mp path
  rw [← List.cons_append] at hmoves
  obtain ⟨y, -, hlast⟩ := Path.append.mp hmoves
  have hwrite : Act.carryOut b.surroundings (Script.engine.stringify v y.1) link y.2 = .done (x.1, .ok (some json)) x.2 :=
    Path.single.mp hlast
  exact ((Script.stringify_isWritten v y.1).carryOut hwrite json rfl).isState hsize

theorem Inside.encodeState_admits (s : Surroundings Script.engine) (v : Script.engine.Value) {c c' : Script.engine.Context}
    {w w' : World Script.engine K} {text : String}
    (h : Act.carryOut s (Script.engine.stringify v c) link w = .done (c', .ok (some text)) w') :
    (Inside.encodeState s v).run c link w = .done (match Limit.json.check text with
      | .ok () => .ok text
      | .error _ => .error (.marshal (.resultTooLarge text.utf8ByteSize Limit.json.maxBytes)), c') w' := by
  have written : IsWritten text := (Script.stringify_isWritten v c).carryOut h text rfl
  rw [written.check]
  unfold Inside.encodeState
  rw [run_bind, Act.bind_apply, run_perform, Act.bind_apply, h]
  show (if Limit.json.maxBytes < text.utf8ByteSize then
      throw (.marshal (.resultTooLarge text.utf8ByteSize Limit.json.maxBytes)) else pure text :
    Inside Script.engine K String).run c' link w' = _
  split <;> rfl

/-- **Results are states.** An update delivers nothing, or it delivers a text that every update
admits as a state: one line of strict JSON within its bound, which is decoded in every context. The
bound of results lets the same texts pass as the bound of states. -/
theorem results_are_states (link : Link Script.engine K) (w : World Script.engine K) (id agent state : String)
    (buffer : ByteArray) :
    ((∃ json bytes v, Session.Delivers id agent state buffer link w json bytes v ∧ IsState json) ∨
      Session.Withholds id agent state buffer link w) ∧
    ∀ (s : Surroundings Script.engine) v c c' w w' text,
      Act.carryOut s (Script.engine.stringify v c) link w = .done (c', .ok (some text)) w' →
        (Inside.encodeState s v).run c link w = .done (match Limit.json.check text with
          | .ok () => .ok text
          | .error _ => .error (.marshal (.resultTooLarge text.utf8ByteSize Limit.json.maxBytes)), c') w' := by
  refine ⟨?_, fun s v c c' w w' text h => Inside.encodeState_admits s v h⟩
  obtain ⟨number, b, c, view, moves, json, bytes, q, -, -, -, hcycle, hpath, hdelivers⟩ | hwithholds :=
    Session.updateAgent_delivers link w id agent state buffer
  · exact .inl ⟨json, bytes, _, hdelivers, hcycle.isState hpath⟩
  · exact .inr hwithholds

end BrainHost
