import BrainHost.Proofs.Json.ReadBack
import BrainHost.Proofs.Script.Gives

/-! # Trees of values

The tree of a value part by part. Whatever scripts do meanwhile, it is no deeper than the levels that
are allowed, so what is written of a value is the text of a tree that can be read again. -/

namespace BrainHost.Script

open Script.Act

/-- The realm in which a value is written: an object with it as its only property is there. -/
def Realm.withHolder (r : Realm) (v : Value) : Realm :=
  (r.allocate { proto := some Intrinsic.objectPrototype.ref }).2.modifyObject r.objects.size
    fun o => o.store (.name .empty) (.plain v)

theorem writeJson_apply (v : Value) (r : Realm) :
    writeJson v .undefined .undefined r =
      (snapshot {} Json.maxDepth [] (.object r.objects.size) (.name .empty) v (r.withHolder v)).bind
        fun o r => .ok (o.map (Json.render .empty)) r := rfl

/-! ## Levels -/

namespace Json

theorem itemsLevel_le {items : List Json} {n : Nat} : itemsLevel items ≤ n ↔ ∀ j ∈ items, j.level ≤ n := by
  induction items with
  | nil => simp [itemsLevel]
  | cons j items ih => rw [itemsLevel, Nat.max_le, ih, List.forall_mem_cons]

theorem membersLevel_le {members : List (Str × Json)} {n : Nat} :
    membersLevel members ≤ n ↔ ∀ m ∈ members, m.2.level ≤ n := by
  induction members with
  | nil => simp [membersLevel]
  | cons m members ih =>
    obtain ⟨key, j⟩ := m
    rw [membersLevel, Nat.max_le, ih, List.forall_mem_cons]

end Json

/-- A tree is so deep at most, also where `null` stands for it because there is none. -/
def Within (n : Nat) (o : Option Json) (_ : Realm) : Prop := (o.getD .null).level ≤ n

theorem itemRound_within {n : Nat} (ih : ∀ around holder k v r, (snapshot {} n around holder k v r).Gives (Within n))
    (around : List Nat) (ref count : Nat) (s : Nat × Array Json) (r : Realm)
    (kept : ∀ j ∈ s.2.toList, j.level ≤ n) :
    (itemRound (snapshot {} n) around ref count s r).Gives
      (Round (fun s _ => ∀ j ∈ s.2.toList, j.level ≤ n) fun items _ => ∀ j ∈ items.toList, j.level ≤ n) := by
  unfold itemRound
  split
  · exact kept
  · refine gives_of_all fun item r => gives_bind.mpr ((ih _ _ _ _ _).mono fun o r h => ?_)
    intro j hj
    rw [Array.toList_push] at hj
    rcases List.mem_append.mp hj with hj | hj
    · exact kept j hj
    · exact List.mem_singleton.mp hj ▸ h

theorem memberRound_within {n : Nat}
    (ih : ∀ around holder k v r, (snapshot {} n around holder k v r).Gives (Within n)) (around : List Nat) (ref : Nat)
    (s : List Key × Array (Str × Json)) (r : Realm) (kept : ∀ m ∈ s.2.toList, m.2.level ≤ n) :
    (memberRound (snapshot {} n) around ref s r).Gives
      (Round (fun s _ => ∀ m ∈ s.2.toList, m.2.level ≤ n) fun members _ => ∀ m ∈ members.toList, m.2.level ≤ n) := by
  obtain ⟨keys, acc⟩ := s
  cases keys with
  | nil => exact kept
  | cons key rest =>
    refine gives_of_all fun item r => gives_bind.mpr ((ih _ _ _ _ _).mono fun o r h => ?_)
    cases o with
    | none => exact kept
    | some j =>
      intro m hm
      rw [Array.toList_push] at hm
      rcases List.mem_append.mp hm with hm | hm
      · exact kept m hm
      · exact List.mem_singleton.mp hm ▸ h

theorem snapshot_within (n : Nat) (around : List Nat) (holder : Value) (k : Key) (v : Value) (r : Realm) :
    (snapshot {} n around holder k v r).Gives (Within n) := by
  induction n generalizing around holder k v r with
  | zero => trivial
  | succ n ih =>
    rw [snapshot]
    refine gives_of_all fun v r => gives_of_all fun v r => ?_
    have scalar {j : Json} (h : j.level = 1) : Within (n + 1) (some j) r := by
      show j.level ≤ n + 1
      omega
    have nothing {r : Realm} : Within (n + 1) none r := by
      show Json.null.level ≤ n + 1
      rw [Json.level]
      omega
    cases v with
    | undefined => exact nothing
    | symbol id => exact nothing
    | null => exact scalar (by rw [Json.level])
    | bool b => exact scalar (by rw [Json.level])
    | number x => exact scalar (by rw [Json.level])
    | string s => exact scalar (by rw [Json.level])
    | bigint i => trivial
    | object ref =>
      show (partsOf (snapshot {} n) around none ref r).Gives _
      unfold partsOf
      refine gives_of_all fun callable r => ?_
      split
      · exact nothing
      split
      · trivial
      refine gives_of_all fun isArray r => ?_
      split
      · refine gives_of_all fun count r => gives_bind.mpr ?_
        have items := gives_loop (itemRound_within ih around ref count) (s := (0, #[])) (r := r) (by simp)
        refine items.mono fun items r h => ?_
        have := Json.itemsLevel_le.mpr h
        show (Json.array items.toList).level ≤ n + 1
        rw [Json.level]
        omega
      · refine gives_of_all fun keys r => gives_bind.mpr (gives_bind.mpr ?_)
        have members := gives_loop (memberRound_within ih around ref) (s := (keys.toList, #[])) (r := r) (by simp)
        refine members.mono fun members r h => ?_
        have := Json.membersLevel_le.mpr h
        show (Json.object members.toList).level ≤ n + 1
        rw [Json.level]
        omega

/-- What is written of a value is the text of a tree that is not too deep. -/
def Readable (o : Option Str) (_ : Realm) : Prop :=
  ∀ s, o = some s → ∃ j : Json, j.level ≤ Json.maxDepth ∧ s = Json.render .empty j

theorem writeJson_readable (v : Value) (r : Realm) : (writeJson v .undefined .undefined r).Gives Readable := by
  rw [writeJson_apply]
  refine Res.gives_bind.mpr ((snapshot_within _ _ _ _ _ _).mono fun o r h => ?_)
  intro s hs
  obtain ⟨j, rfl, rfl⟩ := Option.map_eq_some_iff.mp hs
  exact ⟨j, h, rfl⟩

end BrainHost.Script
