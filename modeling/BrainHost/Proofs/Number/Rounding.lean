import BrainHost.Proofs.Number.Double
import Mathlib.Algebra.Order.Field.Power
import Mathlib.Algebra.Order.Field.Rat
import Mathlib.Data.Rat.Cast.Order
import Mathlib.Tactic.FieldSimp
import Mathlib.Tactic.Linarith
import Mathlib.Tactic.Positivity

/-! # Rounding a quotient

A quotient that lies close enough to the value of a double rounds to it. Close enough is what a
decimal number of seventeen digits comes to. -/

namespace BrainHost.Number

/-- The magnitude of a finite double. -/
def Binary.value (b : Binary) : ℚ := b.mantissa * (2 : ℚ) ^ b.exponent

theorem abs_roundDiv_sub_le (num : Nat) {den : Nat} (hd : 0 < den) :
    |(roundDiv num den : ℚ) - num / den| ≤ 1 / 2 := by
  have hdq : (0 : ℚ) < den := by exact_mod_cast hd
  have hr : num % den < den := Nat.mod_lt _ hd
  have split : (num : ℚ) / den = (num / den : ℕ) + (num % den : ℕ) / den := by
    have e : (num : ℚ) = den * (num / den : ℕ) + (num % den : ℕ) := by
      exact_mod_cast (Nat.div_add_mod num den).symm
    field_simp
    linarith
  have below (h : 2 * (num % den) ≤ den) : ((num % den : ℕ) : ℚ) / den ≤ 1 / 2 := by
    have : 2 * ((num % den : ℕ) : ℚ) ≤ den := by exact_mod_cast h
    rw [div_le_iff₀ hdq]
    linarith
  have above (h : den ≤ 2 * (num % den)) : 1 / 2 ≤ ((num % den : ℕ) : ℚ) / den := by
    have : (den : ℚ) ≤ 2 * ((num % den : ℕ) : ℚ) := by exact_mod_cast h
    rw [le_div_iff₀ hdq]
    linarith
  have nonneg : 0 ≤ ((num % den : ℕ) : ℚ) / den := by positivity
  have le_one : ((num % den : ℕ) : ℚ) / den ≤ 1 := by
    rw [div_le_one hdq]
    exact_mod_cast hr.le
  have down (h : 2 * (num % den) ≤ den) : |((num / den : ℕ) : ℚ) - num / den| ≤ 1 / 2 := by
    have := below h
    rw [split, abs_le]
    constructor <;> linarith
  have up (h : den ≤ 2 * (num % den)) : |((num / den + 1 : ℕ) : ℚ) - num / den| ≤ 1 / 2 := by
    have := above h
    rw [split, abs_le]
    push_cast
    constructor <;> linarith
  unfold roundDiv
  dsimp only
  split
  · exact down (by omega)
  · split
    · exact up (by omega)
    · split
      · exact down (by omega)
      · exact up (by omega)

theorem roundDiv_eq {num den m : Nat} (hd : 0 < den) (h : |(num : ℚ) / den - m| < 1 / 2) : roundDiv num den = m := by
  have hr := abs_roundDiv_sub_le num hd
  have close : |((roundDiv num den : ℤ) : ℚ) - (m : ℤ)| < 1 := by
    have := abs_sub_le (roundDiv num den : ℚ) (num / den) m
    push_cast
    linarith
  have : |(roundDiv num den : ℤ) - (m : ℤ)| < 1 := by exact_mod_cast close
  have := Int.abs_lt_one_iff.mp this
  omega

/-! ## Powers of a base -/

section Powers

variable {num den : Nat} {base : Nat}

theorem scaled_le_iff (hd : 0 < den) (hb : 0 < base) (k : Int) :
    (if k ≥ 0 then den * Nat.pow base k.toNat ≤ num else den ≤ num * Nat.pow base (-k).toNat)
      ↔ (base : ℚ) ^ k ≤ num / den := by
  have hdq : (0 : ℚ) < den := by exact_mod_cast hd
  rw [le_div_iff₀ hdq]
  split
  · rename_i h
    obtain ⟨n, rfl⟩ := Int.eq_ofNat_of_zero_le h
    rw [Int.toNat_natCast, zpow_natCast, mul_comm]
    exact_mod_cast Iff.rfl
  · rename_i h
    obtain ⟨n, rfl⟩ : ∃ n : Nat, k = -(n : Int) := ⟨(-k).toNat, by omega⟩
    have hp : (0 : ℚ) < (base : ℚ) ^ n := by positivity
    rw [neg_neg, Int.toNat_natCast, zpow_neg, zpow_natCast, inv_mul_le_iff₀ hp, mul_comm ((base : ℚ) ^ n)]
    exact_mod_cast Iff.rfl

theorem div_mul_pow (n : Nat) : ((num : ℚ) / ((den * base ^ n : ℕ) : ℚ)) = num / den * (base : ℚ) ^ (-(n : Int)) := by
  rw [zpow_neg, zpow_natCast]
  push_cast
  rw [div_mul_eq_div_div, div_eq_mul_inv (_ / _)]

theorem mul_pow_div (n : Nat) : (((num * base ^ n : ℕ) : ℚ) / den) = num / den * (base : ℚ) ^ (n : Int) := by
  rw [zpow_natCast]
  push_cast
  ring

end Powers

theorem zpow_log2_le {n : Nat} (h : n ≠ 0) : (2 : ℚ) ^ (n.log2 : Int) ≤ n := by
  rw [zpow_natCast]
  exact_mod_cast Nat.log2_self_le h

theorem lt_zpow_log2 (n : Nat) : (n : ℚ) < (2 : ℚ) ^ ((n.log2 : Int) + 1) := by
  have h : n < 2 ^ (n.log2 + 1) := Nat.lt_log2_self
  have e : (2 : ℚ) ^ ((n.log2 : Int) + 1) = ((2 ^ (n.log2 + 1) : ℕ) : ℚ) := by
    push_cast
    exact zpow_natCast 2 (n.log2 + 1)
  rw [e]
  exact_mod_cast h

theorem zpow_log2_sub_bounds {num den : Nat} (hn : num ≠ 0) (hd : den ≠ 0) :
    (2 : ℚ) ^ ((num.log2 : Int) - den.log2 - 1) < num / den
      ∧ (num : ℚ) / den < (2 : ℚ) ^ ((num.log2 : Int) - den.log2 + 1) := by
  have hdq : (0 : ℚ) < den := by exact_mod_cast Nat.pos_of_ne_zero hd
  have two : (2 : ℚ) ≠ 0 := by norm_num
  constructor
  · rw [lt_div_iff₀ hdq]
    calc (2 : ℚ) ^ ((num.log2 : Int) - den.log2 - 1) * den
        < (2 : ℚ) ^ ((num.log2 : Int) - den.log2 - 1) * (2 : ℚ) ^ ((den.log2 : Int) + 1) := by
          have := lt_zpow_log2 den
          gcongr
      _ = (2 : ℚ) ^ (num.log2 : Int) := by
          rw [← zpow_add₀ two]
          congr 1
          ring
      _ ≤ num := zpow_log2_le hn
  · rw [div_lt_iff₀ hdq]
    calc (num : ℚ) < (2 : ℚ) ^ ((num.log2 : Int) + 1) := lt_zpow_log2 num
      _ = (2 : ℚ) ^ ((num.log2 : Int) - den.log2 + 1) * (2 : ℚ) ^ (den.log2 : Int) := by
          rw [← zpow_add₀ two]
          congr 1
          ring
      _ ≤ (2 : ℚ) ^ ((num.log2 : Int) - den.log2 + 1) * den := by
          have := zpow_log2_le hd
          gcongr

/-! ## The parts of a rounding -/

/-- The exponent of the first binary digit of a quotient. -/
def leadOf (num den : Nat) : Int :=
  let top : Int := num.log2 - den.log2
  let atLeast : Bool := if top ≥ 0 then den * Nat.pow 2 top.toNat ≤ num else den ≤ num * Nat.pow 2 (-top).toNat
  if atLeast then top else top - 1

/-- A quotient rounded to a multiple of a power of two. -/
def mantissaOf (num den : Nat) (unit : Int) : Nat :=
  if unit ≥ 0 then roundDiv num (den * Nat.pow 2 unit.toNat) else roundDiv (num * Nat.pow 2 (-unit).toNat) den

/-- The bits of the double nearest to a quotient, unless they are too many. -/
def ratioBits (num den : Nat) : Nat :=
  let unit := max (leadOf num den - 52) (-1074)
  let m := mantissaOf num den unit
  if m < Nat.pow 2 52 then m else (unit + 1074).toNat * Nat.pow 2 52 + m

theorem zero_eq_signed (negative : Bool) : zero negative = signed negative 0 := by cases negative <;> rfl

theorem infinity_eq_signed (negative : Bool) : infinity negative = signed negative infinityBits := by
  cases negative <;> rfl

theorem ofRatio_eq_signed {num den : Nat} (hn : num ≠ 0) (hd : den ≠ 0) (negative : Bool) :
    ofRatio negative num den = signed negative (min (ratioBits num den) infinityBits) := by
  rw [min_def]
  have h : ¬ ((num = 0 || den = 0) = true) := by simp [hn, hd]
  unfold ofRatio
  rw [if_neg h]
  show (if ratioBits num den ≥ infinityBits then infinity negative else signed negative (ratioBits num den)) = _
  rw [infinity_eq_signed]
  by_cases hb : ratioBits num den ≥ infinityBits
  · rw [if_pos hb]
    split
    · rw [Nat.le_antisymm ‹_› hb]
    · rfl
  · rw [if_neg hb, if_pos (by omega)]

theorem leadOf_bounds {num den : Nat} (hn : num ≠ 0) (hd : den ≠ 0) :
    (2 : ℚ) ^ leadOf num den ≤ num / den ∧ (num : ℚ) / den < (2 : ℚ) ^ (leadOf num den + 1) := by
  obtain ⟨low, high⟩ := zpow_log2_sub_bounds hn hd
  have reaches : (if (num.log2 - den.log2 : Int) ≥ 0
      then decide (den * Nat.pow 2 (num.log2 - den.log2 : Int).toNat ≤ num)
      else decide (den ≤ num * Nat.pow 2 (-(num.log2 - den.log2 : Int)).toNat)) = true
        ↔ (2 : ℚ) ^ ((num.log2 : Int) - den.log2) ≤ num / den := by
    have scaled : _ ↔ ((2 : Nat) : ℚ) ^ (num.log2 - den.log2 : Int) ≤ num / den :=
      scaled_le_iff (Nat.pos_of_ne_zero hd) (by norm_num) _
    push_cast at scaled
    rw [← scaled]
    split <;> exact decide_eq_true_iff
  unfold leadOf
  dsimp only
  by_cases h : (2 : ℚ) ^ ((num.log2 : Int) - den.log2) ≤ num / den
  · rw [if_pos (reaches.mpr h)]
    exact ⟨h, high⟩
  · rw [if_neg fun c => h (reaches.mp c), sub_add_cancel]
    exact ⟨low.le, not_le.mp h⟩

theorem mantissaOf_eq {num den m : Nat} {unit : Int} (hd : den ≠ 0)
    (h : |(num : ℚ) / den * (2 : ℚ) ^ (-unit) - m| < 1 / 2) : mantissaOf num den unit = m := by
  have hd := Nat.pos_of_ne_zero hd
  unfold mantissaOf
  split
  · rename_i hu
    obtain ⟨n, rfl⟩ := Int.eq_ofNat_of_zero_le hu
    apply roundDiv_eq (Nat.mul_pos hd (Nat.pow_pos (by norm_num)))
    rw [Int.toNat_natCast, div_mul_pow]
    exact_mod_cast h
  · rename_i hu
    obtain ⟨n, rfl⟩ : ∃ n : Nat, unit = -(n : Int) := ⟨(-unit).toNat, by omega⟩
    apply roundDiv_eq hd
    rw [neg_neg, Int.toNat_natCast, Nat.pow_eq, mul_pow_div]
    rw [neg_neg] at h
    exact_mod_cast h

/-! ## What rounds to a double -/

variable {b : Binary} {num den : Nat}

/-- Being so close to a double that seventeen digits suffice. -/
def Binary.Near (b : Binary) (q : ℚ) : Prop := |q - b.value| * (2 * 10 ^ 16) ≤ b.value

theorem two_zpow_add (i j : Int) : (2 : ℚ) ^ (i + j) = (2 : ℚ) ^ i * (2 : ℚ) ^ j := zpow_add₀ (by norm_num) i j

/-- In units of its last digit, a double is less than half a unit away from what is near to it, and
less than a quarter if it is a power of two. -/
theorem Binary.Near.bound {q : ℚ} (near : b.Near q) :
    |q * (2 : ℚ) ^ (-b.exponent) - b.mantissa| ≤ (b.mantissa : ℚ) / (2 * 10 ^ 16) := by
  have hp : (0 : ℚ) < (2 : ℚ) ^ (-b.exponent) := by positivity
  have hv : b.value * (2 : ℚ) ^ (-b.exponent) = b.mantissa := by
    rw [Binary.value, mul_assoc, ← two_zpow_add, add_neg_cancel, zpow_zero, mul_one]
  rw [le_div_iff₀ (by norm_num)]
  calc |q * (2 : ℚ) ^ (-b.exponent) - b.mantissa| * (2 * 10 ^ 16)
      = |q - b.value| * (2 * 10 ^ 16) * (2 : ℚ) ^ (-b.exponent) := by
        rw [← hv, ← sub_mul, abs_mul, abs_of_pos hp]
        ring
    _ ≤ b.value * (2 : ℚ) ^ (-b.exponent) := by
        unfold Binary.Near at near
        gcongr
    _ = b.mantissa := hv

theorem lt_unit_iff {q : ℚ} {e : Int} {k : Nat} : q < (2 : ℚ) ^ (e + k) ↔ q * (2 : ℚ) ^ (-e) < 2 ^ k := by
  rw [two_zpow_add, zpow_natCast, zpow_neg, ← div_eq_mul_inv, div_lt_iff₀ (by positivity), mul_comm]

theorem leadOf_lt_iff (hn : num ≠ 0) (hd : den ≠ 0) {j : Int} :
    leadOf num den < j ↔ (num : ℚ) / den < (2 : ℚ) ^ j := by
  obtain ⟨low, high⟩ := leadOf_bounds hn hd
  have one : (1 : ℚ) < 2 := by norm_num
  constructor
  · intro h
    exact high.trans_le (zpow_le_zpow_right₀ one.le (by omega))
  · intro h
    exact (zpow_lt_zpow_iff_right₀ one).mp (low.trans_lt h)

theorem leadOf_lt_unit_iff (hn : num ≠ 0) (hd : den ≠ 0) {e : Int} {k : Nat} :
    leadOf num den < e + k ↔ (num : ℚ) / den * (2 : ℚ) ^ (-e) < 2 ^ k :=
  (leadOf_lt_iff hn hd).trans lt_unit_iff

theorem Binary.Canonical.slack (h : b.Canonical) : (b.mantissa : ℚ) / (2 * 10 ^ 16) < 23 / 50 := by
  have : (b.mantissa : ℚ) < 2 ^ 53 := by exact_mod_cast h.1
  rw [div_lt_iff₀ (by norm_num)]
  linarith

theorem Binary.Near.leadOf_lt (near : b.Near (num / den)) (h : b.Canonical) (hn : num ≠ 0) (hd : den ≠ 0) :
    leadOf num den < b.exponent + 53 := by
  refine (leadOf_lt_unit_iff hn hd (k := 53)).mpr ?_
  have whole : (b.mantissa : ℚ) + 1 ≤ 2 ^ 53 := by exact_mod_cast h.1
  have := (abs_le.mp near.bound).2
  have := h.slack
  linarith

theorem Binary.Near.below (near : b.Near (num / den)) (h : b.Canonical) (hn : num ≠ 0) (hd : den ≠ 0)
    (other : max (leadOf num den - 52) (-1074) ≠ b.exponent) :
    b.mantissa = 2 ^ 52 ∧ leadOf num den = b.exponent + 51 ∧ -1074 < b.exponent := by
  have lead_lt := near.leadOf_lt h hn hd
  have bounds := abs_le.mp near.bound
  have slack := h.slack
  obtain ⟨-, hl, -, hf⟩ := h
  have full : 2 ^ 52 ≤ b.mantissa := by omega
  have lowest : b.mantissa = 2 ^ 52 := by
    by_contra c
    have more : (2 : ℚ) ^ 52 + 1 ≤ b.mantissa := by exact_mod_cast (by omega : 2 ^ 52 + 1 ≤ b.mantissa)
    have under := (leadOf_lt_unit_iff hn hd (k := 52)).mp (by omega : leadOf num den < b.exponent + 52)
    linarith
  have reaches : ¬ leadOf num den < b.exponent + 51 := by
    intro c
    have under := (leadOf_lt_unit_iff hn hd (k := 51)).mp c
    rw [lowest] at bounds slack
    push_cast at bounds slack
    linarith
  exact ⟨lowest, by omega, by omega⟩

theorem ratioBits_eq (h : b.Canonical) (hn : num ≠ 0) (hd : den ≠ 0)
    (near : b.Near (num / den)) : ratioBits num den = b.bits := by
  have close := near.bound
  -- The exponent of the double is that of the quotient, unless the quotient lies right below a power of two.
  by_cases same : max (leadOf num den - 52) (-1074) = b.exponent
  · have hround : mantissaOf num den b.exponent = b.mantissa := mantissaOf_eq hd (by linarith [h.slack])
    obtain ⟨-, -, -, hf⟩ := h
    unfold ratioBits Binary.bits
    dsimp only
    rw [same, hround, Nat.pow_eq]
    split <;> omega
  · obtain ⟨lowest, lead, normal⟩ := near.below h hn hd same
    have hround : mantissaOf num den (b.exponent - 1) = 2 ^ 53 := by
      apply mantissaOf_eq hd
      have double : (num : ℚ) / den * (2 : ℚ) ^ (-(b.exponent - 1)) = 2 * (num / den * (2 : ℚ) ^ (-b.exponent)) := by
        rw [neg_sub, sub_eq_add_neg, two_zpow_add, zpow_one]
        ring
      rw [double]
      have bounds := abs_le.mp close
      rw [lowest] at bounds
      push_cast at bounds ⊢
      rw [abs_lt]
      constructor <;> linarith
    have unit : max (leadOf num den - 52) (-1074) = b.exponent - 1 := by omega
    unfold ratioBits Binary.bits
    dsimp only
    rw [unit, hround, Nat.pow_eq, lowest, if_neg (by norm_num)]
    omega

theorem ofRatio_eq (h : b.Canonical) (hn : num ≠ 0) (hd : den ≠ 0)
    (near : b.Near (num / den)) (negative : Bool) : ofRatio negative num den = signed negative b.bits := by
  rw [ofRatio_eq_signed hn hd, ratioBits_eq h hn hd near, min_eq_left h.bits_lt.le]

end BrainHost.Number
