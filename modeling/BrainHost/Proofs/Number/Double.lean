import BrainHost.Number.Binary
import Mathlib.Tactic.Ring
import Mathlib.Tactic.NormNum

/-! # Bits of doubles

A double that is finite has the bits that it was made of, and its exact value tells which double it
is. -/

namespace BrainHost.Number

open Float.Model (Format)
open Float.Model.UnpackedFloat

/-! ## The fields of a bit pattern -/

theorem toNat_unpackExponent (b : BitVec 64) :
    (@unpackExponent Format.binary64 b).toNat = b.toNat / 2 ^ 52 % 2 ^ 11 := by
  simp [unpackExponent, BitVec.extractLsb, BitVec.extractLsb', Nat.shiftRight_eq_div_pow]

theorem toNat_unpackMantissa (b : BitVec 64) :
    (@unpackMantissa Format.binary64 b).toNat = b.toNat % 2 ^ 52 := by
  simp [unpackMantissa, BitVec.extractLsb, BitVec.extractLsb', Nat.shiftRight_eq_div_pow]

theorem toNat_unpackSign (b : BitVec 64) :
    (@unpackSign Format.binary64 b).toNat = b.toNat / 2 ^ 63 := by
  have hb : b.toNat < 2 ^ 64 := b.isLt
  have h : (@unpackSign Format.binary64 b).toNat = b.toNat / 2 ^ 63 % 2 := by
    change (BitVec.extractLsb' 63 1 b).toNat = _
    simp [BitVec.extractLsb', Nat.shiftRight_eq_div_pow]
  omega

theorem toBitVec_ofBitVec (s : BitVec 1) : (Sign.ofBitVec s).toBitVec = s := by
  revert s
  decide

theorem toNat_packComponents (s : Sign) (e : BitVec 11) (m : BitVec 52) :
    (packComponents Format.binary64 s e m).toNat = s.toBitVec.toNat * 2 ^ 63 + e.toNat * 2 ^ 52 + m.toNat := by
  have h : (packComponents Format.binary64 s e m).toNat
      = ((s.toBitVec.toNat <<< 11 ||| e.toNat) <<< 52) ||| m.toNat := by
    rw [packComponents, BitVec.toNat_append, BitVec.toNat_append]
  rw [h, ← Nat.shiftLeft_add_eq_or_of_lt m.isLt, ← Nat.shiftLeft_add_eq_or_of_lt e.isLt,
    Nat.shiftLeft_eq, Nat.shiftLeft_eq]
  ring

theorem packComponents_unpack (b : BitVec 64) {e : BitVec 11} {m : BitVec 52}
    (he : @unpackExponent Format.binary64 b = e) (hm : @unpackMantissa Format.binary64 b = m) :
    packComponents Format.binary64 (.ofBitVec (@unpackSign Format.binary64 b)) e m = b := by
  subst he hm
  apply BitVec.eq_of_toNat_eq
  rw [toNat_packComponents, toBitVec_ofBitVec, toNat_unpackExponent, toNat_unpackMantissa, toNat_unpackSign]
  have hb : b.toNat < 2 ^ 64 := b.isLt
  omega

/-! ## Finite doubles -/

/-- The field that tells a finite pattern from the others. -/
def Finite (b : UInt64) : Prop := b.toNat / 2 ^ 52 % 2 ^ 11 ≠ 2047

theorem unpackExponent_ne {b : UInt64} (h : Finite b) :
    @unpackExponent Format.binary64 b.toBitVec ≠ -1#_ := by
  intro e
  apply h
  have he := toNat_unpackExponent b.toBitVec
  rw [e] at he
  exact he.symm

theorem log2_eq_52 {m : Nat} (h : 2 ^ 52 ≤ m) (h' : m < 2 ^ 53) : m.log2 = 52 :=
  (Nat.log2_eq_iff (by omega)).mpr ⟨h, h'⟩

theorem log2_lt_52 {m : Nat} (h : m ≠ 0) (h' : m < 2 ^ 52) : m.log2 < 52 := (Nat.log2_lt h).mpr h'

theorem isFinite_unpack {b : UInt64} (h : Finite b) : (unpack Format.binary64 b.toBitVec).isFinite = true := by
  unfold unpack
  dsimp only
  rw [if_neg (unpackExponent_ne h)]
  by_cases subnormal : @unpackExponent Format.binary64 b.toBitVec = 0#_
  · rw [if_pos subnormal]
    by_cases zero : @unpackMantissa Format.binary64 b.toBitVec = 0#_
    · rw [dif_pos zero]
      rfl
    · rw [dif_neg zero]
      rfl
  · rw [if_neg subnormal]
    rfl

theorem pack_unpack {b : UInt64} (h : Finite b) :
    pack Format.binary64 (unpack Format.binary64 b.toBitVec) = b.toBitVec := by
  have hm : (@unpackMantissa Format.binary64 b.toBitVec).toNat < 2 ^ 52 := BitVec.isLt _
  have he : (@unpackExponent Format.binary64 b.toBitVec).toNat < 2 ^ 11 := BitVec.isLt _
  have special := unpackExponent_ne h
  have hbias : Format.binary64.exponentBias = 1023 := rfl
  have hbits : Format.binary64.mantissaBits = 53 := rfl
  unfold unpack
  dsimp only
  rw [if_neg special]
  by_cases subnormal : @unpackExponent Format.binary64 b.toBitVec = 0#_
  · rw [if_pos subnormal]
    by_cases zero : @unpackMantissa Format.binary64 b.toBitVec = 0#_
    · rw [dif_pos zero]
      exact packComponents_unpack _ subnormal zero
    · rw [dif_neg zero]
      have hpos : (@unpackMantissa Format.binary64 b.toBitVec).toNat ≠ 0 := fun h0 =>
        zero (BitVec.eq_of_toNat_eq (by simpa using h0))
      have hlog := log2_lt_52 hpos hm
      unfold pack
      simp only [subnormal, hbias, hbits]
      rw [if_neg (by decide), if_neg (by omega)]
      exact packComponents_unpack _ subnormal (by rw [BitVec.ofNat_toNat, BitVec.setWidth_eq])
  · rw [if_neg subnormal]
    have hmant : (1#1 ++ @unpackMantissa Format.binary64 b.toBitVec).toNat
        = 2 ^ 52 + (@unpackMantissa Format.binary64 b.toBitVec).toNat := by
      rw [BitVec.toNat_append, ← Nat.shiftLeft_add_eq_or_of_lt hm]
      rfl
    have hlog : (1#1 ++ @unpackMantissa Format.binary64 b.toBitVec).toNat.log2 = 52 :=
      log2_eq_52 (by omega) (by omega)
    have hexp : (@unpackExponent Format.binary64 b.toBitVec).toNat ≠ 2 ^ 11 - 1 := fun e =>
      special (BitVec.eq_of_toNat_eq (by simpa using e))
    have hbiased : (((@unpackExponent Format.binary64 b.toBitVec).toNat : Int) - ((1023 : Nat) + (52 : Nat))
        + (1023 : Nat) + (52 : Nat)).toNat = (@unpackExponent Format.binary64 b.toBitVec).toNat := by
      omega
    unfold pack
    simp only [hbias, hbits, hlog, hbiased]
    rw [if_neg (by show ¬ 2 ^ 11 ≤ _; omega), if_pos trivial]
    refine packComponents_unpack _ ?_ ?_
    · rw [BitVec.ofNat_toNat, BitVec.setWidth_eq]
    · apply BitVec.eq_of_toNat_eq
      rw [hmant]
      show _ = (2 ^ 52 + _) % 2 ^ 52
      omega

theorem toBits_ofBits {b : UInt64} (h : Finite b) : (Float.ofBits b).toBits = b := by
  have h := pack_unpack h
  show UInt64.ofBitVec (pack Format.binary64 (unpack Format.binary64 b.toBitVec)) = b
  rw [h]

theorem eq_of_toBits {x y : Float} (h : x.toBits = y.toBits) : x = y := by
  obtain ⟨⟨bx, vx⟩⟩ := x
  obtain ⟨⟨by', vy⟩⟩ := y
  change bx = by' at h
  subst h
  rfl

theorem toBinary?_eq_none {x : Float} : toBinary? x = none ↔ ¬ Finite x.toBits := by
  unfold toBinary? Finite
  simp only [Nat.pow_eq]
  split
  · simp [*]
  · split <;> simp [*]

theorem isFinite_eq (x : Float) : x.isFinite = (toBinary? x).isSome := by
  by_cases h : Finite x.toBits
  · have hs : (toBinary? x).isSome := by
      rw [Option.isSome_iff_ne_none, Ne, toBinary?_eq_none]
      exact fun n => n h
    rw [hs]
    exact isFinite_unpack h
  · rw [toBinary?_eq_none.mpr h]
    show (unpack Format.binary64 x.toBits.toBitVec).isFinite = false
    have e : @unpackExponent Format.binary64 x.toBits.toBitVec = -1#_ := by
      apply BitVec.eq_of_toNat_eq
      rw [toNat_unpackExponent]
      exact not_not.mp h
    unfold unpack
    dsimp only
    rw [if_pos e]
    split <;> rfl

/-! ## Doubles from their exact values -/

/-- The double with a sign whose other bits are given. -/
def signed (negative : Bool) (bits : Nat) : Float :=
  Float.ofBits (UInt64.ofNat (if negative then bits + Nat.pow 2 63 else bits))

/-- The bits of an infinity, without its sign. -/
def infinityBits : Nat := 0x7FF0000000000000

/-- The exact values that doubles have: fewer digits than 53 only with the least exponent. -/
structure Binary.Canonical (b : Binary) : Prop where
  mantissa_lt : b.mantissa < 2 ^ 53
  le_exponent : -1074 ≤ b.exponent
  exponent_le : b.exponent ≤ 971
  full : 2 ^ 52 ≤ b.mantissa ∨ b.exponent = -1074

/-- The bits of a finite double without its sign. A full mantissa carries into the exponent. -/
def Binary.bits (b : Binary) : Nat := (b.exponent + 1074).toNat * 2 ^ 52 + b.mantissa

variable {b : Binary} {x : Float}

theorem Binary.Canonical.bits_lt (h : b.Canonical) : b.bits < infinityBits := by
  obtain ⟨hm, hl, hu, -⟩ := h
  unfold Binary.bits infinityBits
  omega

theorem toNat_toBits_signed (negative : Bool) {bits : Nat} (h : bits < infinityBits) :
    (signed negative bits).toBits.toNat = if negative then bits + 2 ^ 63 else bits := by
  unfold infinityBits at h
  have hn : (UInt64.ofNat (if negative then bits + Nat.pow 2 63 else bits)).toNat
      = if negative then bits + 2 ^ 63 else bits :=
    UInt64.toNat_ofNat_of_lt' (by simp only [Nat.pow_eq, UInt64.size]; split <;> omega)
  have hf : Finite (UInt64.ofNat (if negative then bits + Nat.pow 2 63 else bits)) := by
    unfold Finite
    rw [hn]
    split <;> omega
  rw [signed, toBits_ofBits hf, hn]

theorem toBinary?_signed (h : b.Canonical) : toBinary? (signed b.negative b.bits) = some b := by
  have hbits := toNat_toBits_signed b.negative h.bits_lt
  obtain ⟨negative, m, e⟩ := b
  obtain ⟨hm, hl, hu, hf⟩ := h
  simp only [Binary.bits] at hm hl hu hf hbits ⊢
  unfold toBinary?
  simp only [Nat.pow_eq, hbits]
  generalize hk : (e + 1074).toNat = k at *
  cases negative with
  | false =>
    simp only [Bool.false_eq_true, if_false]
    rw [if_neg (by omega)]
    split <;> simp only [Option.some.injEq, Binary.mk.injEq, decide_eq_false_iff_not] <;> omega
  | true =>
    simp only [if_true]
    rw [if_neg (by omega)]
    split <;> simp only [Option.some.injEq, Binary.mk.injEq, decide_eq_true_eq] <;> omega

theorem canonical_of_toBinary? (h : toBinary? x = some b) : b.Canonical ∧ x = signed b.negative b.bits := by
  have finite : Finite x.toBits := by
    by_contra n
    rw [toBinary?_eq_none.mpr n] at h
    cases h
  have hlt : x.toBits.toNat < 2 ^ 64 := x.toBits.toNat_lt
  unfold Finite at finite
  have canonical : b.Canonical := by
    unfold toBinary? at h
    simp only [Nat.pow_eq] at h
    rw [if_neg finite] at h
    split at h <;> injection h with h <;> subst h <;> constructor <;> dsimp only <;> omega
  refine ⟨canonical, ?_⟩
  apply eq_of_toBits
  apply UInt64.toNat_inj.mp
  rw [toNat_toBits_signed _ canonical.bits_lt]
  unfold toBinary? at h
  simp only [Nat.pow_eq] at h
  rw [if_neg finite] at h
  split at h <;> injection h with h <;> subst h <;> by_cases sign : x.toBits.toNat / 2 ^ 63 = 1 <;>
    simp only [Binary.bits, sign, decide_true, decide_false, if_true, Bool.false_eq_true, if_false] <;> omega

theorem bits_of_toBinary?_signed {negative : Bool} {bits : Nat} (hb : bits ≤ infinityBits)
    (h : toBinary? (signed negative bits) = some b) : bits = b.bits := by
  have hlt : bits < infinityBits := by
    rcases Nat.lt_or_eq_of_le hb with hlt | rfl
    · exact hlt
    · cases negative <;> cases h
  obtain ⟨canonical, e⟩ := canonical_of_toBinary? h
  have e : (signed negative bits).toBits.toNat = (signed b.negative b.bits).toBits.toNat := by rw [← e]
  rw [toNat_toBits_signed _ hlt, toNat_toBits_signed _ canonical.bits_lt] at e
  have := canonical.bits_lt
  unfold infinityBits at hlt this
  cases negative <;> cases hn : b.negative <;> simp only [hn, Bool.false_eq_true, if_false, if_true] at e <;>
    omega

end BrainHost.Number
