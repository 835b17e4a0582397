import BrainHost.Text.Alphanumeric
import Mathlib.Data.List.Chain
import Mathlib.Data.List.TakeWhile

/-! # Classes of characters

A run of characters of a class is what is taken up to a character of another one. A class may be a sorted table of
disjoint ranges, and a binary search answers whether one of the ranges holds a character. -/

namespace BrainHost

section Runs

variable {α : Type} {p : α → Bool} {xs ys : List α}

theorem ne_of_class {x y : α} (hx : p x = true) (hy : p y = false) : x ≠ y := ne_of_apply_ne p (by simp [hx, hy])

theorem forall_head?_cons {P : α → Prop} {x : α} (h : P x) : ∀ y, (x :: xs).head? = some y → P y := by
  rintro y e
  cases e
  exact h

theorem takeWhile_append_of_stop (hx : ∀ x ∈ xs, p x = true) (hy : ∀ y, ys.head? = some y → p y = false) :
    (xs ++ ys).takeWhile p = xs := by
  rw [List.takeWhile_append_of_pos hx]
  cases ys with
  | nil => simp
  | cons y ys => rw [List.takeWhile_cons_of_neg (by simp [hy y rfl]), List.append_nil]

theorem dropWhile_append_of_stop (hx : ∀ x ∈ xs, p x = true) (hy : ∀ y, ys.head? = some y → p y = false) :
    (xs ++ ys).dropWhile p = ys := by
  rw [List.dropWhile_append_of_pos hx]
  cases ys with
  | nil => rfl
  | cons y ys => rw [List.dropWhile_cons_of_neg (by simp [hy y rfl])]

theorem head_dropWhile_false {x : α} (h : (xs.dropWhile p).head? = some x) : p x = false := by
  have stopped := List.head?_dropWhile_not p xs
  rw [h] at stopped
  simpa using stopped

end Runs

namespace Text

/-- One range ends before another one starts. -/
def Precedes (a b : Nat × Nat) : Prop := a.1 ≤ a.2 ∧ a.2 < b.1 ∧ b.1 ≤ b.2

instance (a b : Nat × Nat) : Decidable (Precedes a b) :=
  inferInstanceAs (Decidable (a.1 ≤ a.2 ∧ a.2 < b.1 ∧ b.1 ≤ b.2))

instance : Trans Precedes Precedes Precedes where
  trans h h' := ⟨h.1, by have := h.2; have := h'.2; omega, h'.2.2⟩

def SortedRanges (table : Array (Nat × Nat)) : Prop := table.toList.IsChain Precedes

/-- A range holds a code point. -/
def Holds (r : Nat × Nat) (n : Nat) : Prop := r.1 ≤ n ∧ n ≤ r.2

variable {table : Array (Nat × Nat)} {n : Nat}

theorem SortedRanges.precedes (sorted : SortedRanges table) {i j : Nat} {a b : Nat × Nat} (lt : i < j)
    (ha : table[i]? = some a) (hb : table[j]? = some b) : Precedes a b := by
  have pairs := List.pairwise_iff_getElem.mp (List.isChain_iff_pairwise.mp sorted)
  obtain ⟨hi, rfl⟩ := Array.getElem?_eq_some_iff.mp ha
  obtain ⟨hj, rfl⟩ := Array.getElem?_eq_some_iff.mp hb
  exact pairs i j (by simpa using hi) (by simpa using hj) lt

theorem SortedRanges.lt_of_below (sorted : SortedRanges table) {i j : Nat} {a b : Nat × Nat}
    (ha : table[i]? = some a) (hb : table[j]? = some b) (holds : Holds a n) (below : n < b.1) : i < j := by
  refine Nat.lt_of_not_le fun late => ?_
  rcases Nat.eq_or_lt_of_le late with rfl | late
  · cases ha.symm.trans hb
    exact Nat.not_le.mpr below holds.1
  · have := (sorted.precedes late hb ha).1
    have := (sorted.precedes late hb ha).2
    have := holds.1
    omega

theorem SortedRanges.lt_of_above (sorted : SortedRanges table) {i j : Nat} {a b : Nat × Nat}
    (ha : table[i]? = some a) (hb : table[j]? = some b) (holds : Holds a n) (above : b.2 < n) : j < i := by
  refine Nat.lt_of_not_le fun early => ?_
  rcases Nat.eq_or_lt_of_le early with rfl | early
  · cases ha.symm.trans hb
    exact Nat.not_le.mpr above holds.2
  · have := (sorted.precedes early ha hb).2
    have := holds.2
    omega

theorem searchRanges_iff (sorted : SortedRanges table) {steps lo hi : Nat} (enough : hi < lo + steps)
    (inside : hi ≤ table.size) :
    searchRanges table n steps lo hi = true ↔
      ∃ i r, lo ≤ i ∧ i < hi ∧ table[i]? = some r ∧ Holds r n := by
  induction steps generalizing lo hi with
  | zero =>
    refine ⟨fun h => absurd h Bool.false_ne_true, ?_⟩
    rintro ⟨i, r, after, before, -, -⟩
    omega
  | succ steps ih =>
    unfold searchRanges
    split
    · next some_left =>
      have middle : (lo + hi) / 2 < table.size := by omega
      obtain ⟨⟨first, last⟩, there⟩ : ∃ r, table[(lo + hi) / 2]? = some r := ⟨_, Array.getElem?_eq_getElem middle⟩
      simp only [there]
      split
      · next below =>
        rw [ih (by omega) (by omega)]
        refine ⟨fun ⟨i, r, after, before, found⟩ => ⟨i, r, after, by omega, found⟩, ?_⟩
        rintro ⟨i, r, after, before, found, holds⟩
        exact ⟨i, r, after, sorted.lt_of_below found there holds below, found, holds⟩
      · split
        · next above =>
          rw [ih (by omega) inside]
          refine ⟨fun ⟨i, r, after, before, found⟩ => ⟨i, r, by omega, before, found⟩, ?_⟩
          rintro ⟨i, r, after, before, found, holds⟩
          exact ⟨i, r, sorted.lt_of_above found there holds above, before, found, holds⟩
        · next notBelow notAbove =>
          exact ⟨fun _ => ⟨_, _, by omega, by omega, there, Nat.not_lt.mp notBelow, Nat.not_lt.mp notAbove⟩,
            fun _ => rfl⟩
    · next none_left =>
      refine ⟨fun h => absurd h Bool.false_ne_true, ?_⟩
      rintro ⟨i, r, after, before, -, -⟩
      omega

theorem inRanges_iff (sorted : SortedRanges table) : inRanges table n = true ↔ ∃ r ∈ table, Holds r n := by
  unfold inRanges
  rw [searchRanges_iff sorted (by omega) (Nat.le_refl _)]
  constructor
  · rintro ⟨i, r, -, -, found, holds⟩
    exact ⟨r, Array.mem_of_getElem? found, holds⟩
  · rintro ⟨r, mem, holds⟩
    obtain ⟨i, lt, rfl⟩ := Array.mem_iff_getElem.mp mem
    exact ⟨i, _, Nat.zero_le i, lt, Array.getElem?_eq_getElem lt, holds⟩

/-! ## Letters and digits -/

theorem sorted_alphanumericRanges : SortedRanges alphanumericRanges := by
  unfold SortedRanges
  decide +kernel

theorem isAlphanumeric_iff (c : Char) : isAlphanumeric c = true ↔ ∃ r ∈ alphanumericRanges, Holds r c.toNat := by
  rw [← inRanges_iff sorted_alphanumericRanges]
  unfold isAlphanumeric
  split
  · next ascii =>
    have same : ∀ n < 128, (Char.ofNat n).isAlphanum = inRanges alphanumericRanges n := by decide +kernel
    rw [← same c.toNat ascii, Char.ofNat_toNat]
  · rfl

end Text

end BrainHost
