import BrainHost.Proofs.Number.Rounding
import BrainHost.Number.Decimal
import Mathlib.Tactic.Positivity

/-! # The shortest digits of a double

Reading a decimal number rounds it. Seventeen significant digits of a double always read back as the
double, so the search for the fewest ends with digits that do. -/

namespace BrainHost.Number

variable {b : Binary} {digits : Nat} {exponent : Int}

/-! ## Reading a decimal number -/

/-- Being within the sizes for which a decimal number is rounded. -/
structure InRange (digits : Nat) (exponent : Int) : Prop where
  digits_ne : digits ≠ 0
  not_huge : (digits.log2 / 3 : Nat) + exponent ≤ 400
  not_tiny : -400 ≤ (digits.log2 / 4 : Nat) + exponent ∨ -400 ≤ (digits.log2 / 3 : Nat) + exponent

theorem ofDecimal_eq_ofRatio (h : InRange digits exponent) (negative : Bool) :
    ofDecimal negative digits exponent = if exponent ≥ 0 then ofRatio negative (digits * Nat.pow 10 exponent.toNat) 1
      else ofRatio negative digits (Nat.pow 10 (-exponent).toNat) := by
  obtain ⟨hd, hh, ht⟩ := h
  have tiny : ¬ ((((digits.log2 : Int) / 4 + exponent < -400 && ((digits.log2 : Int) / 3 + exponent < -400 : Bool)) : Bool)
      = true) := by
    simp only [Bool.and_eq_true, decide_eq_true_eq]
    omega
  unfold ofDecimal
  dsimp only
  rw [if_neg hd, if_neg (by omega), if_neg tiny]

theorem exists_ofDecimal_eq_signed (digits : Nat) (exponent : Int) :
    ∃ bits ≤ infinityBits, ∀ negative, ofDecimal negative digits exponent = signed negative bits := by
  have none : ∃ bits ≤ infinityBits, ∀ negative, zero negative = signed negative bits :=
    ⟨0, Nat.zero_le _, zero_eq_signed⟩
  have all : ∃ bits ≤ infinityBits, ∀ negative, infinity negative = signed negative bits :=
    ⟨infinityBits, Nat.le_refl _, infinity_eq_signed⟩
  have ratio {num den : Nat} (hn : num ≠ 0) (hd : den ≠ 0) :
      ∃ bits ≤ infinityBits, ∀ negative, ofRatio negative num den = signed negative bits :=
    ⟨_, Nat.min_le_right _ _, ofRatio_eq_signed hn hd⟩
  have pow (n : Nat) : Nat.pow 10 n ≠ 0 := (Nat.pow_pos (by norm_num)).ne'
  unfold ofDecimal
  dsimp only
  split
  · exact none
  · split
    · exact all
    · split
      · exact none
      · split
        · exact ratio (Nat.mul_ne_zero ‹_› (pow _)) one_ne_zero
        · exact ratio ‹_› (pow _)

theorem ofDecimal_mul_pow {n : Nat} (negative : Bool) (h : digits * 10 ^ n < 2 ^ 200) :
    ofDecimal negative (digits * 10 ^ n) 0 = ofDecimal negative digits n := by
  obtain rfl | hd := eq_or_ne digits 0
  · rw [Nat.zero_mul, ofDecimal, if_pos rfl, ofDecimal, if_pos rfl]
  have hne : digits * 10 ^ n ≠ 0 := Nat.mul_ne_zero hd (Nat.pow_pos (by norm_num)).ne'
  have hlog : (digits * 10 ^ n).log2 < 200 := (Nat.log2_lt hne).mpr h
  -- A factor of ten adds three binary digits, so both sides are within range together.
  have grows : digits.log2 + 3 * n ≤ (digits * 10 ^ n).log2 := by
    rw [Nat.le_log2 hne]
    calc 2 ^ (digits.log2 + 3 * n) = 2 ^ digits.log2 * 8 ^ n := by rw [pow_add, pow_mul]; norm_num
      _ ≤ digits * 10 ^ n := Nat.mul_le_mul (Nat.log2_self_le hd) (Nat.pow_le_pow_left (by norm_num) n)
  have left : InRange (digits * 10 ^ n) 0 := ⟨hne, by omega, by omega⟩
  have right : InRange digits n := ⟨hd, by omega, by omega⟩
  rw [ofDecimal_eq_ofRatio left, ofDecimal_eq_ofRatio right, if_pos (by omega), if_pos (by omega), Int.toNat_natCast]
  simp only [Int.toNat_zero, Nat.pow_eq, pow_zero, mul_one]

theorem Binary.Near.pos (hpos : 0 < b.value) {q : ℚ} (near : b.Near q) : b.value / 2 < q ∧ q < 2 * b.value := by
  unfold Binary.Near at near
  have : |q - b.value| * 2 < b.value := by
    have := abs_nonneg (q - b.value)
    linarith
  have := abs_lt.mp (by linarith : |q - b.value| < b.value / 2)
  constructor <;> linarith [this.1, this.2]

theorem Binary.Canonical.value_bounds (h : b.Canonical) (hm : b.mantissa ≠ 0) :
    (2 : ℚ) ^ (-1074 : Int) ≤ b.value ∧ b.value < (2 : ℚ) ^ (1024 : Int) := by
  obtain ⟨hlt, hl, hu, -⟩ := h
  have two : (1 : ℚ) ≤ 2 := by norm_num
  have hone : (1 : ℚ) ≤ b.mantissa := by exact_mod_cast Nat.one_le_iff_ne_zero.mpr hm
  have hltq : (b.mantissa : ℚ) < 2 ^ 53 := by exact_mod_cast hlt
  constructor
  · calc (2 : ℚ) ^ (-1074 : Int) ≤ (2 : ℚ) ^ b.exponent := zpow_le_zpow_right₀ two hl
      _ ≤ b.mantissa * (2 : ℚ) ^ b.exponent := le_mul_of_one_le_left (by positivity) hone
  · calc b.value < 2 ^ 53 * (2 : ℚ) ^ b.exponent := by
          unfold Binary.value
          gcongr
      _ ≤ 2 ^ 53 * (2 : ℚ) ^ (971 : Int) := by
          have := zpow_le_zpow_right₀ two hu
          gcongr
      _ = (2 : ℚ) ^ (1024 : Int) := by
          rw [← zpow_natCast, ← zpow_add₀ (by norm_num)]
          norm_num

theorem two_zpow_le : 2 * (2 : ℚ) ^ (1024 : Int) ≤ (10 : ℚ) ^ (310 : Int) := by
  have h : 2 * 2 ^ 1024 ≤ 10 ^ 310 := by decide +kernel
  exact_mod_cast h

theorem ten_zpow_lt : (10 : ℚ) ^ (-400 : Int) < (2 : ℚ) ^ (-1074 : Int) / 2 / 2 ^ 60 := by
  have h : 2 ^ 1074 * 2 * 2 ^ 60 < 10 ^ 400 := by decide +kernel
  have h : (2 : ℚ) ^ 1074 * 2 * 2 ^ 60 < 10 ^ 400 := by exact_mod_cast h
  rw [zpow_neg, zpow_neg, div_div, div_eq_mul_inv, ← mul_inv, ← mul_assoc]
  exact inv_strictAnti₀ (by positivity) h

theorem ofDecimal_eq (h : b.Canonical) (hm : b.mantissa ≠ 0) (hd : digits ≠ 0) (hlt : digits < 2 ^ 60)
    (near : b.Near (digits * (10 : ℚ) ^ exponent)) (negative : Bool) :
    ofDecimal negative digits exponent = signed negative b.bits := by
  obtain ⟨low, high⟩ := h.value_bounds hm
  have hpos : 0 < b.value := lt_of_lt_of_le (by positivity) low
  obtain ⟨above, below⟩ := near.pos hpos
  have ten : (1 : ℚ) < 10 := by norm_num
  have hpow : (0 : ℚ) < (10 : ℚ) ^ exponent := by positivity
  have hone : (1 : ℚ) ≤ digits := by exact_mod_cast Nat.one_le_iff_ne_zero.mpr hd
  have hltq : (digits : ℚ) < 2 ^ 60 := by exact_mod_cast hlt
  have exponent_lt : exponent < 310 := by
    apply (zpow_lt_zpow_iff_right₀ ten).mp
    calc (10 : ℚ) ^ exponent ≤ digits * (10 : ℚ) ^ exponent := le_mul_of_one_le_left hpow.le hone
      _ < 2 * (2 : ℚ) ^ (1024 : Int) := below.trans (by linarith)
      _ ≤ (10 : ℚ) ^ (310 : Int) := two_zpow_le
  have lt_exponent : -400 < exponent := by
    apply (zpow_lt_zpow_iff_right₀ ten).mp
    have : (2 : ℚ) ^ (-1074 : Int) / 2 < 2 ^ 60 * (10 : ℚ) ^ exponent :=
      calc (2 : ℚ) ^ (-1074 : Int) / 2 ≤ b.value / 2 := by linarith
        _ < digits * (10 : ℚ) ^ exponent := above
        _ ≤ 2 ^ 60 * (10 : ℚ) ^ exponent := by gcongr
    calc (10 : ℚ) ^ (-400 : Int) < (2 : ℚ) ^ (-1074 : Int) / 2 / 2 ^ 60 := ten_zpow_lt
      _ < (10 : ℚ) ^ exponent := by
        rw [div_lt_iff₀ (by norm_num)]
        linarith
  have hlog : digits.log2 < 60 := (Nat.log2_lt hd).mpr hlt
  have inRange : InRange digits exponent := ⟨hd, by omega, by omega⟩
  rw [ofDecimal_eq_ofRatio inRange]
  split
  · rename_i he
    obtain ⟨n, rfl⟩ := Int.eq_ofNat_of_zero_le he
    apply ofRatio_eq h (Nat.mul_ne_zero hd (Nat.pow_pos (by norm_num)).ne') one_ne_zero
    rw [Int.toNat_natCast]
    push_cast
    rw [div_one, ← zpow_natCast]
    exact near
  · rename_i he
    obtain ⟨n, rfl⟩ : ∃ n : Nat, exponent = -(n : Int) := ⟨(-exponent).toNat, by omega⟩
    apply ofRatio_eq h hd (Nat.pow_pos (by norm_num)).ne'
    rw [neg_neg, Int.toNat_natCast]
    push_cast
    rw [div_eq_mul_inv, ← zpow_natCast, ← zpow_neg]
    exact near

/-! ## The decimal exponent -/

/-- Powers of two below powers of ten, by two fractions around the logarithm. -/
theorem two_zpow_le_ten_zpow {a c : Int} (h : 28 * a ≤ 93 * c) (h' : 59 * a ≤ 196 * c) :
    (2 : ℚ) ^ a ≤ (10 : ℚ) ^ c := by
  have ten : (1 : ℚ) ≤ 10 := by norm_num
  rcases le_total 0 a with ha | ha
  · rw [← pow_le_pow_iff_left₀ (by positivity) (by positivity) (by norm_num : 93 ≠ 0)]
    calc ((2 : ℚ) ^ a) ^ 93 = (2 ^ 93) ^ a := by rw [← zpow_natCast, ← zpow_natCast, zpow_comm]
      _ ≤ (10 ^ 28) ^ a := zpow_le_zpow_left₀ ha (by norm_num) (by norm_num)
      _ = (10 : ℚ) ^ (28 * a) := by rw [zpow_mul]; norm_cast
      _ ≤ (10 : ℚ) ^ (93 * c) := zpow_le_zpow_right₀ ten h
      _ = ((10 : ℚ) ^ c) ^ 93 := by rw [mul_comm, zpow_mul]; norm_cast
  · rw [← pow_le_pow_iff_left₀ (by positivity) (by positivity) (by norm_num : 196 ≠ 0)]
    calc ((2 : ℚ) ^ a) ^ 196 = (2 ^ 196) ^ a := by rw [← zpow_natCast, ← zpow_natCast, zpow_comm]
      _ ≤ (10 ^ 59) ^ a := by
          obtain ⟨n, rfl⟩ : ∃ n : Nat, a = -(n : Int) := ⟨(-a).toNat, by omega⟩
          rw [zpow_neg, zpow_neg, zpow_natCast, zpow_natCast]
          have : (10 ^ 59 : ℚ) ^ n ≤ (2 ^ 196) ^ n := pow_le_pow_left₀ (by positivity) (by norm_num) n
          exact inv_anti₀ (by positivity) this
      _ = (10 : ℚ) ^ (59 * a) := by rw [zpow_mul]; norm_cast
      _ ≤ (10 : ℚ) ^ (196 * c) := zpow_le_zpow_right₀ ten h'
      _ = ((10 : ℚ) ^ c) ^ 196 := by rw [mul_comm, zpow_mul]; norm_cast

theorem ten_zpow_le_two_zpow {a c : Int} (h : 93 * c ≤ 28 * a) (h' : 196 * c ≤ 59 * a) :
    (10 : ℚ) ^ c ≤ (2 : ℚ) ^ a := by
  have := two_zpow_le_ten_zpow (a := -a) (c := -c) (by linarith) (by linarith)
  rw [zpow_neg, zpow_neg] at this
  exact (inv_le_inv₀ (by positivity) (by positivity)).mp this

theorem decimalExponent_bounds {num den : Nat} (hn : num ≠ 0) (hd : den ≠ 0)
    (low : (2 : ℚ) ^ (-1074 : Int) ≤ num / den) (high : (num : ℚ) / den < (2 : ℚ) ^ (1024 : Int)) :
    (10 : ℚ) ^ (decimalExponent num den - 1) ≤ num / den
      ∧ (num : ℚ) / den < (10 : ℚ) ^ decimalExponent num den := by
  obtain ⟨below, above⟩ := zpow_log2_sub_bounds hn hd
  have two : (1 : ℚ) < 2 := by norm_num
  have guess_lt := (zpow_lt_zpow_iff_right₀ two).mp (below.trans high)
  have lt_guess := (zpow_lt_zpow_iff_right₀ two).mp (low.trans_lt above)
  have reaches (k : Int) : (if k ≥ 0 then decide (den * Nat.pow 10 k.toNat ≤ num)
      else decide (den ≤ num * Nat.pow 10 (-k).toNat)) = true ↔ (10 : ℚ) ^ k ≤ num / den := by
    have scaled : _ ↔ ((10 : Nat) : ℚ) ^ k ≤ num / den := scaled_le_iff (Nat.pos_of_ne_zero hd) (by norm_num) k
    push_cast at scaled
    rw [← scaled]
    split <;> exact decide_eq_true_iff
  unfold decimalExponent
  dsimp only
  generalize hg : (num.log2 : Int) - den.log2 = guess at *
  generalize he : guess * 30103 / 100000 = e
  simp only [reaches]
  split
  · rename_i h
    refine ⟨by rwa [show e + 2 - 1 = e + 1 by ring], above.trans_le ?_⟩
    apply two_zpow_le_ten_zpow <;> omega
  · rename_i h
    split
    · rename_i h'
      exact ⟨by rwa [add_sub_cancel_right], not_le.mp h⟩
    · rename_i h'
      split
      · rename_i h''
        exact ⟨h'', not_le.mp h'⟩
      · rename_i h''
        refine ⟨le_trans ?_ below.le, not_le.mp h''⟩
        apply ten_zpow_le_two_zpow <;> omega

/-! ## Significant digits -/

theorem abs_scaledRound_sub_le (num : Nat) {den : Nat} (hd : 0 < den) (places : Int) :
    |(scaledRound .toEven num den places : ℚ) - num / den * (10 : ℚ) ^ places| ≤ 1 / 2 := by
  unfold scaledRound
  split
  · rename_i h
    obtain ⟨n, rfl⟩ := Int.eq_ofNat_of_zero_le h
    have close := abs_roundDiv_sub_le (num * 10 ^ n) hd
    rw [mul_pow_div] at close
    exact_mod_cast close
  · rename_i h
    obtain ⟨n, rfl⟩ : ∃ n : Nat, places = -(n : Int) := ⟨(-places).toNat, by omega⟩
    have scaled_pos : 0 < den * 10 ^ n := by positivity
    have close := abs_roundDiv_sub_le num scaled_pos
    rw [div_mul_pow] at close
    rw [neg_neg]
    exact_mod_cast close

theorem ratio_eq_value (hm : b.mantissa ≠ 0) :
    b.ratio.1 ≠ 0 ∧ b.ratio.2 ≠ 0 ∧ (b.ratio.1 : ℚ) / b.ratio.2 = b.value := by
  have pow (n : Nat) : Nat.pow 2 n ≠ 0 := (Nat.pow_pos (by norm_num)).ne'
  unfold Binary.ratio Binary.value
  split
  · rename_i h
    obtain ⟨n, hn⟩ := Int.eq_ofNat_of_zero_le h
    refine ⟨Nat.mul_ne_zero hm (pow _), one_ne_zero, ?_⟩
    rw [hn, Int.toNat_natCast, zpow_natCast]
    push_cast
    rw [div_one]
    norm_cast
  · rename_i h
    obtain ⟨n, hn⟩ : ∃ n : Nat, b.exponent = -(n : Int) := ⟨(-b.exponent).toNat, by omega⟩
    refine ⟨hm, pow _, ?_⟩
    rw [hn, neg_neg, Int.toNat_natCast, zpow_neg, zpow_natCast, div_eq_mul_inv]
    norm_cast

theorem ofDigits_digitsOf (n : Nat) : ofDigits (digitsOf n) = n := by
  have h : ofDigits (digitsOf n) = Nat.ofDigitChars 10 (Nat.toDigits 10 n) 0 := by
    unfold ofDigits digitsOf
    rw [Nat.ofDigitChars_eq_foldl, List.foldl_map]
    congr 1
    funext acc c
    rw [Nat.mul_comm]
  rw [h, Nat.ofDigitChars_ten_toDigits]

theorem length_digitsOf {n count : Nat} (h : 10 ^ count ≤ n) (h' : n < 10 ^ (count + 1)) :
    (digitsOf n).length = count + 1 := by
  rw [digitsOf, List.length_map]
  have le : (Nat.toDigits 10 n).length ≤ count + 1 := (Nat.length_toDigits_le_iff (by norm_num) (by omega)).mpr h'
  have pos := Nat.length_toDigits_pos (b := 10) (n := n)
  by_contra ne
  have short := (Nat.length_toDigits_le_iff (b := 10) (n := n) (k := count) (by norm_num) (by omega)).mp (by omega)
  omega

/-- What is said of `count + 1` significant digits: the digits are those of a number of that length,
and half a unit of the last one is missing at most. -/
structure Decimal.Rounds (d : Decimal) (v : ℚ) (count n : Nat) (e : Int) : Prop where
  digits_eq : d.digits = digitsOf n
  le_n : 10 ^ count ≤ n
  n_lt : n < 10 ^ (count + 1)
  le_value : (10 : ℚ) ^ (e - 1) ≤ v
  close : |(n : ℚ) * (10 : ℚ) ^ (d.point - (count + 1 : ℕ)) - v| ≤ 1 / 2 * (10 : ℚ) ^ (e - (count + 1 : ℕ))

theorem ten_zpow_add (i j : Int) : (10 : ℚ) ^ (i + j) = (10 : ℚ) ^ i * (10 : ℚ) ^ j := zpow_add₀ (by norm_num) i j

theorem rounded_bounds {v : ℚ} {e : Int} {count n : Nat} (below : (10 : ℚ) ^ (e - 1) ≤ v) (above : v < (10 : ℚ) ^ e)
    (close : |(n : ℚ) - v * (10 : ℚ) ^ (((count + 1 : ℕ) : Int) - e)| ≤ 1 / 2) :
    10 ^ count ≤ n ∧ n ≤ 10 ^ (count + 1) := by
  have hp : (0 : ℚ) < (10 : ℚ) ^ (((count + 1 : ℕ) : Int) - e) := by positivity
  have atLeast : (10 : ℚ) ^ count ≤ v * (10 : ℚ) ^ (((count + 1 : ℕ) : Int) - e) := by
    calc (10 : ℚ) ^ count = (10 : ℚ) ^ (e - 1) * (10 : ℚ) ^ (((count + 1 : ℕ) : Int) - e) := by
          rw [← ten_zpow_add, ← zpow_natCast]
          congr 1
          push_cast
          ring
      _ ≤ _ := by gcongr
  have lessThan : v * (10 : ℚ) ^ (((count + 1 : ℕ) : Int) - e) < (10 : ℚ) ^ (count + 1) := by
    calc _ < (10 : ℚ) ^ e * (10 : ℚ) ^ (((count + 1 : ℕ) : Int) - e) := by gcongr
      _ = (10 : ℚ) ^ (count + 1) := by
          rw [← ten_zpow_add, ← zpow_natCast]
          congr 1
          ring
  have bounds := abs_le.mp close
  constructor
  · have : (10 : ℚ) ^ count < n + 1 := by linarith
    have : 10 ^ count < n + 1 := by exact_mod_cast this
    omega
  · have : (n : ℚ) < 10 ^ (count + 1) + 1 := by linarith
    have : n < 10 ^ (count + 1) + 1 := by exact_mod_cast this
    omega

theorem close_unscaled {v : ℚ} {e k : Int} {n : Nat} (close : |(n : ℚ) - v * (10 : ℚ) ^ (k - e)| ≤ 1 / 2) :
    |(n : ℚ) * (10 : ℚ) ^ (e - k) - v| ≤ 1 / 2 * (10 : ℚ) ^ (e - k) := by
  have hq : (0 : ℚ) < (10 : ℚ) ^ (e - k) := by positivity
  have cancel : (10 : ℚ) ^ (k - e) * (10 : ℚ) ^ (e - k) = 1 := by
    rw [← ten_zpow_add]
    simp
  calc |(n : ℚ) * (10 : ℚ) ^ (e - k) - v|
      = |(n : ℚ) - v * (10 : ℚ) ^ (k - e)| * (10 : ℚ) ^ (e - k) := by
        rw [← abs_of_pos hq, ← abs_mul, abs_of_pos hq, sub_mul, mul_assoc v, cancel, mul_one]
    _ ≤ _ := by gcongr

theorem Binary.Canonical.significant_rounds (h : b.Canonical) (hm : b.mantissa ≠ 0) (count : Nat) :
    ∃ n e, (b.significant .toEven (count + 1)).Rounds b.value count n e := by
  obtain ⟨hn, hd, hv⟩ := ratio_eq_value hm
  obtain ⟨low, high⟩ := h.value_bounds hm
  unfold Binary.significant
  generalize hr : b.ratio = r at hn hd hv
  obtain ⟨num, den⟩ := r
  dsimp only at hn hd hv ⊢
  rw [← hv] at low high
  obtain ⟨below, above⟩ := decimalExponent_bounds hn hd low high
  generalize he : decimalExponent num den = e at *
  have close := abs_scaledRound_sub_le num (Nat.pos_of_ne_zero hd) (((count + 1 : ℕ) : Int) - e)
  generalize hN : scaledRound .toEven num den (((count + 1 : ℕ) : Int) - e) = n at *
  rw [hv] at below above close
  obtain ⟨le_n, n_le⟩ := rounded_bounds below above close
  have unscaled := close_unscaled close
  split
  · -- A carry through all digits leaves a power of ten, of which the last zero goes.
    rename_i full
    obtain rfl : n = 10 ^ (count + 1) := Nat.le_antisymm n_le full
    have div : 10 ^ (count + 1) / 10 = 10 ^ count := by rw [pow_succ, Nat.mul_div_cancel _ (by norm_num)]
    refine ⟨10 ^ count, e, by rw [div], le_refl _, Nat.pow_lt_pow_right (by norm_num) (by omega), below, ?_⟩
    have same : ((10 ^ count : ℕ) : ℚ) * (10 : ℚ) ^ (e + 1 - (count + 1 : ℕ))
        = ((10 ^ (count + 1) : ℕ) : ℚ) * (10 : ℚ) ^ (e - (count + 1 : ℕ)) := by
      push_cast
      rw [← zpow_natCast, ← zpow_natCast, ← ten_zpow_add, ← ten_zpow_add]
      congr 1
      push_cast
      ring
    rw [same]
    exact unscaled
  · rename_i small
    exact ⟨n, e, rfl, le_n, Nat.lt_of_not_le small, below, unscaled⟩

theorem Decimal.Rounds.ne_zero {d : Decimal} {v : ℚ} {count n : Nat} {e : Int} (h : d.Rounds v count n e) : n ≠ 0 := by
  have := Nat.pow_pos (n := count) (by norm_num : 0 < 10)
  have := h.le_n
  omega

theorem Decimal.Rounds.length {d : Decimal} {v : ℚ} {count n : Nat} {e : Int} (h : d.Rounds v count n e) :
    d.digits.length = count + 1 := by
  rw [h.digits_eq, length_digitsOf h.le_n h.n_lt]

/-- Seventeen digits are near enough. -/
theorem Decimal.Rounds.near {d : Decimal} {n : Nat} {e : Int} (h : d.Rounds b.value 16 n e) :
    b.Near (n * (10 : ℚ) ^ (d.point - 17)) := by
  obtain ⟨-, -, -, low, close⟩ := h
  unfold Binary.Near
  calc |(n : ℚ) * (10 : ℚ) ^ (d.point - 17) - b.value| * (2 * 10 ^ 16)
      ≤ 1 / 2 * (10 : ℚ) ^ (e - 17) * (2 * 10 ^ 16) := by gcongr; exact close
    _ = (10 : ℚ) ^ (e - 17) * (10 : ℚ) ^ (16 : Int) := by norm_num; ring
    _ = (10 : ℚ) ^ (e - 1) := by
        rw [← ten_zpow_add]
        congr 1
        ring
    _ ≤ b.value := low

/-! ## The shortest digits -/

/-- Digits of a number that reads as a double, with any sign. -/
structure Decimal.Reads (d : Decimal) (b : Binary) (n : Nat) : Prop where
  digits_eq : d.digits = digitsOf n
  ne_zero : n ≠ 0
  lt : n < 10 ^ 17
  reads : ∀ negative, ofDecimal negative n (d.point - d.digits.length) = signed negative b.bits

theorem ofDecimal_of_readsBack (hr : b.readsBack digits exponent = true) (negative : Bool) :
    ofDecimal negative digits exponent = signed negative b.bits := by
  obtain ⟨bits, hb, e⟩ := exists_ofDecimal_eq_signed digits exponent
  unfold Binary.readsBack at hr
  split at hr
  · cases hr
  · rename_i r hread
    rw [e] at hread
    have hbits := bits_of_toBinary?_signed hb hread
    simp only [Bool.and_eq_true, decide_eq_true_eq] at hr
    rw [e, hbits, Binary.bits, Binary.bits, hr.1, hr.2]

theorem shortestFrom_reads (h : b.Canonical) (hm : b.mantissa ≠ 0) (more count : Nat) (sum : more + count = 16) :
    ∃ n, (b.shortestFrom more (count + 1)).Reads b n := by
  induction more generalizing count with
  | zero =>
    obtain ⟨n, e, rounds⟩ := h.significant_rounds hm count
    obtain rfl : count = 16 := by omega
    refine ⟨n, rounds.digits_eq, rounds.ne_zero, rounds.n_lt, fun negative => ?_⟩
    unfold Binary.shortestFrom
    rw [rounds.length]
    exact ofDecimal_eq h hm rounds.ne_zero (rounds.n_lt.trans_le (by norm_num)) rounds.near negative
  | succ more ih =>
    obtain ⟨n, e, rounds⟩ := h.significant_rounds hm count
    unfold Binary.shortestFrom
    dsimp only
    split
    · rename_i found
      rw [rounds.digits_eq, ofDigits_digitsOf, ← rounds.digits_eq] at found
      have lt := rounds.n_lt.trans_le (Nat.pow_le_pow_right (by norm_num) (by omega : count + 1 ≤ 17))
      exact ⟨n, rounds.digits_eq, rounds.ne_zero, lt, ofDecimal_of_readsBack found⟩
    · exact ih (count + 1) (by omega)

theorem shortest_reads (h : b.Canonical) (hm : b.mantissa ≠ 0) : ∃ n, b.shortest.Reads b n :=
  shortestFrom_reads h hm 16 0 rfl

end BrainHost.Number
