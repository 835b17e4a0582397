import BrainHost.Actor
import BrainHost.Proofs.Number.Rounding
import Mathlib.Algebra.Order.Floor.Semifield
import Mathlib.Data.Rat.Floor

/-! # Whole parts of doubles

Which doubles lie in the range of 16 bits, and what they are cut to: both are told from the exact value of
the double, infinities and what is no number left out. -/

namespace BrainHost

namespace Number

open Float.Model (UnpackedFloat Format)
open Float.Model.UnpackedFloat

/-- The exact value of a finite double. -/
def Binary.signedValue (b : Binary) : ℚ := if b.negative then -b.value else b.value

variable {x : Float} {b : Binary}

/-! ## Doubles taken apart -/

theorem unpack_of_toBinary?_eq_none (h : toBinary? x = none) :
    x.toModel.unpack = .notANumber ∨ ∃ s, x.toModel.unpack = .infinity s := by
  change unpack Format.binary64 x.toBits.toBitVec = _ ∨ ∃ s, unpack Format.binary64 x.toBits.toBitVec = _
  have special : @unpackExponent Format.binary64 x.toBits.toBitVec = -1#_ := by
    apply BitVec.eq_of_toNat_eq
    rw [toNat_unpackExponent]
    exact not_not.mp (toBinary?_eq_none.mp h)
  unfold unpack
  dsimp only
  rw [if_pos special]
  split
  · exact .inr ⟨_, rfl⟩
  · exact .inl rfl

theorem ofBitVec_unpackSign (v : BitVec 64) :
    Sign.ofBitVec (@unpackSign Format.binary64 v) =
      if v.toNat / 2 ^ 63 = 1 then .negative else .positive := by
  rw [← toNat_unpackSign]
  generalize (@unpackSign Format.binary64 v : BitVec 1) = s
  rcases BitVec.eq_zero_or_eq_one s with rfl | rfl
  · rfl
  · rfl

theorem finite_congr {s s' : UnpackedFloat.Sign} {m m' : Nat} {e e' : Int} {pos : 0 < m} {pos' : 0 < m'}
    (hs : s = s') (hm : m = m') (he : e = e') : UnpackedFloat.finite s m e pos = .finite s' m' e' pos' := by
  subst hs hm he
  rfl

theorem unpackExponent_eq_zero {v : BitVec 64} :
    @unpackExponent Format.binary64 v = 0#_ ↔ v.toNat / 2 ^ 52 % 2 ^ 11 = 0 := by
  rw [← toNat_unpackExponent]
  exact BitVec.toNat_eq

theorem unpackMantissa_eq_zero {v : BitVec 64} :
    @unpackMantissa Format.binary64 v = 0#_ ↔ v.toNat % 2 ^ 52 = 0 := by
  rw [← toNat_unpackMantissa]
  exact BitVec.toNat_eq

theorem toNat_full (v : BitVec 64) :
    (1#1 ++ @unpackMantissa Format.binary64 v).toNat = v.toNat % 2 ^ 52 + 2 ^ 52 := by
  rw [BitVec.toNat_append, ← Nat.shiftLeft_add_eq_or_of_lt (BitVec.isLt _), toNat_unpackMantissa, Nat.add_comm]
  rfl

theorem unpack_of_toBinary? (h : toBinary? x = some b) :
    (b.mantissa = 0 ∧ ∃ s, x.toModel.unpack = .zero s) ∨
      ∃ pos, x.toModel.unpack =
        .finite (if b.negative then .negative else .positive) b.mantissa b.exponent pos := by
  change (b.mantissa = 0 ∧ ∃ s, unpack Format.binary64 x.toBits.toBitVec = _) ∨
    ∃ pos, unpack Format.binary64 x.toBits.toBitVec = _
  have finite : Finite x.toBits := by
    by_contra n
    rw [toBinary?_eq_none.mpr n] at h
    cases h
  have hbias : Format.binary64.exponentBias = 1023 := rfl
  unfold unpack
  dsimp only
  rw [if_neg (unpackExponent_ne finite), ofBitVec_unpackSign]
  unfold toBinary? at h
  simp only [Nat.pow_eq] at h
  rw [if_neg finite] at h
  by_cases subnormal : x.toBits.toNat / 2 ^ 52 % 2 ^ 11 = 0
  · have noExponent := unpackExponent_eq_zero.mpr subnormal
    rw [if_pos noExponent]
    rw [if_pos subnormal] at h
    cases h
    by_cases zero : x.toBits.toNat % 2 ^ 52 = 0
    · rw [dif_pos (unpackMantissa_eq_zero.mpr zero)]
      exact .inl ⟨zero, _, rfl⟩
    · rw [dif_neg (mt unpackMantissa_eq_zero.mp zero)]
      refine .inr ⟨Nat.pos_of_ne_zero zero, ?_⟩
      refine finite_congr (if_congr decide_eq_true_iff.symm rfl rfl) (toNat_unpackMantissa _) ?_
      rw [noExponent, hbias]
      rfl
  · rw [if_neg (mt unpackExponent_eq_zero.mp subnormal)]
    rw [if_neg subnormal] at h
    cases h
    refine .inr ⟨Nat.add_pos_right _ (by decide), ?_⟩
    refine finite_congr (if_congr decide_eq_true_iff.symm rfl rfl) (toNat_full _) ?_
    rw [toNat_unpackExponent, hbias]
    rfl

/-! ## The range of 16 bits -/

theorem zero_le_iff : x ≥ 0 ↔ UnpackedFloat.le (.zero .positive) x.toModel.unpack = true := by
  change decide _ = true ↔ _
  rw [decide_eq_true_eq]
  rfl

theorem le_iff {y : Float} : x ≤ y ↔ UnpackedFloat.le x.toModel.unpack y.toModel.unpack = true := by
  change decide _ = true ↔ _
  rw [decide_eq_true_eq]
  rfl

theorem unpack_65535 : ∃ pos, (65535 : Float).toModel.unpack = .finite .positive (65535 * 2 ^ 37) (-37) pos :=
  ⟨by decide, rfl⟩

theorem Binary.Canonical.value_le_iff (h : b.Canonical) :
    b.value ≤ 65535 ↔ ((compare b.exponent (-37)).then (compare b.mantissa (65535 * 2 ^ 37))).isLE = true := by
  have two : (0 : ℚ) < 2 := by norm_num
  obtain ⟨hm, -, -, hf⟩ := h
  unfold Binary.value
  rcases Int.lt_trichotomy b.exponent (-37) with below | same | above
  · rw [Int.compare_eq_lt.mpr below]
    refine iff_of_true ?_ rfl
    calc (b.mantissa : ℚ) * 2 ^ b.exponent
        ≤ ((2 ^ 53 : ℕ) : ℚ) * 2 ^ (-38 : ℤ) := by
          have hm : (b.mantissa : ℚ) ≤ ((2 ^ 53 : ℕ) : ℚ) := by exact_mod_cast hm.le
          have he : (2 : ℚ) ^ b.exponent ≤ 2 ^ (-38 : ℤ) := zpow_le_zpow_right₀ (by norm_num) (by omega)
          gcongr
      _ ≤ 65535 := by norm_num
  · rw [same, compare_eq_iff_eq.mpr rfl, Ordering.eq_then, Nat.isLE_compare]
    have scale : (65535 : ℚ) = ((65535 * 2 ^ 37 : ℕ) : ℚ) * 2 ^ (-37 : ℤ) := by norm_num
    rw [scale, mul_le_mul_iff_left₀ (zpow_pos two _)]
    exact Nat.cast_le
  · rw [Int.compare_eq_gt.mpr above]
    refine iff_of_false (not_le.mpr ?_) Bool.false_ne_true
    have full : 2 ^ 52 ≤ b.mantissa := hf.resolve_right (by omega)
    calc (65535 : ℚ) < ((2 ^ 52 : ℕ) : ℚ) * 2 ^ (-36 : ℤ) := by norm_num
      _ ≤ b.mantissa * 2 ^ b.exponent := by
          have hm : ((2 ^ 52 : ℕ) : ℚ) ≤ b.mantissa := by exact_mod_cast full
          have he : (2 : ℚ) ^ (-36 : ℤ) ≤ 2 ^ b.exponent := zpow_le_zpow_right₀ (by norm_num) (by omega)
          gcongr

theorem Binary.value_nonneg (b : Binary) : 0 ≤ b.value := by
  unfold Binary.value
  positivity

theorem Binary.value_pos (h : 0 < b.mantissa) : 0 < b.value := by
  unfold Binary.value
  positivity

theorem Binary.value_eq_zero (h : b.mantissa = 0) : b.value = 0 := by
  rw [Binary.value, h, Nat.cast_zero, zero_mul]

theorem inRange_iff (h : toBinary? x = some b) :
    (x ≥ 0 ∧ x ≤ 65535) ↔ 0 ≤ b.signedValue ∧ b.signedValue ≤ 65535 := by
  obtain ⟨pos, bound⟩ := unpack_65535
  rw [zero_le_iff, le_iff, bound, Binary.signedValue]
  rcases unpack_of_toBinary? h with ⟨zero, s, hx⟩ | ⟨hpos, hx⟩
  · rw [hx, Binary.value_eq_zero zero, neg_zero, ite_self]
    exact iff_of_true ⟨rfl, by cases s <;> rfl⟩ ⟨le_refl _, by norm_num⟩
  · rw [hx]
    cases b.negative with
    | true =>
      refine iff_of_false (fun hle => Bool.false_ne_true hle.1) fun hle => ?_
      have := Binary.value_pos hpos
      have := hle.1
      rw [if_pos rfl] at this
      linarith
    | false =>
      rw [if_neg Bool.false_ne_true, if_neg Bool.false_ne_true]
      exact and_congr (iff_of_true rfl b.value_nonneg) (canonical_of_toBinary? h).1.value_le_iff.symm

theorem not_inRange (h : toBinary? x = none) : ¬ (x ≥ 0 ∧ x ≤ 65535) := by
  obtain ⟨pos, bound⟩ := unpack_65535
  rw [zero_le_iff, le_iff, bound]
  rintro ⟨hzero, hle⟩
  rcases unpack_of_toBinary?_eq_none h with hx | ⟨s, hx⟩
  · rw [hx] at hzero
    cases hzero
  · rw [hx] at hzero hle
    cases s with
    | negative => cases hzero
    | positive => cases hle

/-! ## Cutting off what follows the point -/

theorem mantissa_shiftRight (em : ExtendedMantissa) (n : Nat) : (em >>> n).mantissa = em.mantissa / 2 ^ n := by
  change (n.repeat ExtendedMantissa.shiftRightOne em).mantissa = _
  induction n with
  | zero => exact (Nat.div_one _).symm
  | succ n ih =>
    change (n.repeat ExtendedMantissa.shiftRightOne em).mantissa / 2 = _
    rw [ih, Nat.div_div_eq_div_mul, Nat.pow_succ]

theorem roundToInt_positive (m : Nat) (e : Int) :
    roundToInt .positive m e = ((m * 2 ^ e.toNat / 2 ^ (-e).toNat : ℕ) : Int) := by
  have shift : (0 - (e - (e.toNat : Int))).toNat = (-e).toNat := by omega
  simp only [roundToInt, decreaseExponent, shiftToExponent, mantissa_shiftRight, Int.sub_zero, shift]
  rw [Nat.shiftLeft_eq]
  rfl

theorem floor_value (b : Binary) :
    ⌊b.value⌋₊ = b.mantissa * 2 ^ b.exponent.toNat / 2 ^ (-b.exponent).toNat := by
  have two : (2 : ℚ) ≠ 0 := by norm_num
  have parts : b.exponent = (b.exponent.toNat : Int) - ((-b.exponent).toNat : Int) := by omega
  have quotient : b.value =
      ((b.mantissa * 2 ^ b.exponent.toNat : ℕ) : ℚ) / ((2 ^ (-b.exponent).toNat : ℕ) : ℚ) := by
    unfold Binary.value
    conv_lhs => rw [parts, zpow_sub₀ two, zpow_natCast, zpow_natCast]
    push_cast
    ring
  rw [quotient, Nat.floor_div_eq_div]

theorem toNat_toUInt16 (h : toBinary? x = some b) (hnonneg : 0 ≤ b.signedValue) (hle : b.signedValue ≤ 65535) :
    x.toUInt16.toNat = ⌊b.signedValue⌋₊ := by
  change (UInt16.ofNatClamp (x.toModel.unpack.toInt 0 (UInt16.size - 1)).toNat).toNat = _
  rcases unpack_of_toBinary? h with ⟨zero, s, hx⟩ | ⟨hpos, hx⟩
  · rw [hx, Binary.signedValue, Binary.value_eq_zero zero, neg_zero, ite_self, Nat.floor_zero]
    rfl
  · rw [hx]
    cases hsign : b.negative with
    | true =>
      rw [Binary.signedValue, hsign, if_pos rfl] at hnonneg
      exact absurd hnonneg (not_le.mpr (neg_neg_of_pos (Binary.value_pos hpos)))
    | false =>
      have signed : b.signedValue = b.value := by rw [Binary.signedValue, hsign, if_neg Bool.false_ne_true]
      rw [signed] at hle ⊢
      rw [if_neg Bool.false_ne_true]
      change (UInt16.ofNatClamp (roundToInt .positive b.mantissa b.exponent).toNat).toNat = _
      rw [roundToInt_positive, ← floor_value, Int.toNat_natCast]
      have small : ⌊b.value⌋₊ < 65536 := by
        have : ⌊b.value⌋₊ ≤ 65535 := Nat.floor_le_of_le (by exact_mod_cast hle)
        omega
      unfold UInt16.ofNatClamp
      rw [dif_pos small]
      rfl

end Number

theorem Argument.id?_number {x : Float} {n : Nat} :
    (Argument.number x).id? = some n ↔
      ∃ b, Number.toBinary? x = some b ∧ 0 ≤ b.signedValue ∧ b.signedValue ≤ 65535 ∧ n = ⌊b.signedValue⌋₊ := by
  have opened : (Argument.number x).id? =
      if decide (x ≥ 0) && decide (x ≤ 65535) then some x.toUInt16.toNat else none := rfl
  rw [opened]
  constructor
  · intro h
    rw [Option.ite_none_right_eq_some, Bool.and_eq_true, decide_eq_true_eq, decide_eq_true_eq] at h
    obtain ⟨inRange, hn⟩ := h
    cases hx : Number.toBinary? x with
    | none => exact absurd inRange (Number.not_inRange hx)
    | some b =>
      obtain ⟨hnonneg, hle⟩ := (Number.inRange_iff hx).mp inRange
      cases hn
      exact ⟨b, rfl, hnonneg, hle, Number.toNat_toUInt16 hx hnonneg hle⟩
  · rintro ⟨b, hx, hnonneg, hle, rfl⟩
    obtain ⟨hzero, hbound⟩ := (Number.inRange_iff hx).mpr ⟨hnonneg, hle⟩
    rw [decide_eq_true hzero, decide_eq_true hbound, Bool.and_self, if_pos rfl,
      Number.toNat_toUInt16 hx hnonneg hle]

end BrainHost
