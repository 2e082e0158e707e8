import Statecraft.Proofs.Decimal.Rounding

/-!
# The shortest decimal reads back

The search among powers of ten ends with a hit (`search_isSome`), because the last of them is
finer than the interval, and a hit is a decimal in the interval (`shortest_spec`).
-/

namespace Statecraft.Decimal

section
variable (d n : Nat) (k e : Int)

/-- The common denominator is a positive factor on both sides. -/
theorem sameScale_eq : ∃ c : ℚ, 0 < c ∧
    ((sameScale d k n e).1 : ℚ) = d * 10 ^ k * c ∧ ((sameScale d k n e).2 : ℚ) = n * 2 ^ e * c := by
  refine ⟨10 ^ (-k).toNat * 2 ^ (-e).toNat, by positivity, ?_⟩
  rw [zpow_toNat 10 k, zpow_toNat 2 e]
  simp only [sameScale, Nat.cast_mul, cast_tenTo, cast_twoTo]
  constructor <;> field_simp

theorem sameScale_le :
    (sameScale d k n e).1 ≤ (sameScale d k n e).2 ↔ (d : ℚ) * 10 ^ k ≤ n * 2 ^ e := by
  obtain ⟨c, positive, left, right⟩ := sameScale_eq d n k e
  rw [← Nat.cast_le (α := ℚ), left, right]
  exact mul_le_mul_iff_left₀ positive

theorem sameScale_ge :
    (sameScale d k n e).2 ≤ (sameScale d k n e).1 ↔ (n : ℚ) * 2 ^ e ≤ d * 10 ^ k := by
  obtain ⟨c, positive, left, right⟩ := sameScale_eq d n k e
  rw [← Nat.cast_le (α := ℚ), left, right]
  exact mul_le_mul_iff_left₀ positive

end

namespace Interval

variable {i : Interval} {d : Nat} {k : Int}

theorem holds_iff : i.holds d k = true ↔ d ≠ 0 ∧ i.Contains (d * 10 ^ k) := by
  have low := sameScale_ge d i.low k i.exponent
  have high := sameScale_le d i.high k i.exponent
  have above := sameScale_le d i.low k i.exponent
  have below := sameScale_ge d i.high k i.exponent
  have strict : (sameScale d k i.low i.exponent).2 < (sameScale d k i.low i.exponent).1 ∧
      (sameScale d k i.high i.exponent).1 < (sameScale d k i.high i.exponent).2 ↔
      (i.low : ℚ) * 2 ^ i.exponent < d * 10 ^ k ∧ (d : ℚ) * 10 ^ k < i.high * 2 ^ i.exponent := by
    rw [← not_le, ← not_le, above, below, not_le, not_le]
  unfold holds Contains
  cases i.closed with
  | true =>
    simp only [bne_iff_ne, ne_eq, Bool.and_eq_true, if_true, decide_eq_true_eq, true_or, and_true,
      low, high]
  | false =>
    simp only [bne_iff_ne, ne_eq, Bool.and_eq_true, Bool.false_eq_true, if_false,
      decide_eq_true_eq, false_or, strict]
    exact and_congr_right fun _ => ⟨fun h => ⟨h.1.le, h.2.le, h⟩, fun h => h.2.2⟩

theorem holds_of_multiple? (h : i.multiple? k = some d) : i.holds d k = true := by
  unfold multiple? at h
  dsimp only at h
  split at h
  · rename_i below above
    split_ifs at h <;> cases h <;> assumption
  · rename_i below _
    cases h
    exact below
  · rename_i _ above
    cases h
    exact above
  · cases h

/-- What the search finds is a hit among the powers of ten it goes through. -/
theorem search_some {fuel : Nat} {k : Int} {found : Digits} (h : i.search fuel k = some found) :
    i.holds found.digits found.exponent = true ∧ k - fuel < found.exponent ∧
      found.exponent ≤ k := by
  induction fuel generalizing k with
  | zero => cases h
  | succ fuel ih =>
    unfold search at h
    split at h
    · rename_i d hit
      obtain rfl := Option.some.inj h
      refine ⟨holds_of_multiple? hit, ?_, ?_⟩ <;> dsimp only <;> omega
    · obtain ⟨holds, low, high⟩ := ih h
      refine ⟨holds, ?_, ?_⟩ <;> push_cast <;> omega

/-- The search finds something if there is a hit at the last power of ten. -/
theorem search_isSome {fuel : Nat} {k : Int} (h : (i.multiple? (k - fuel)).isSome) :
    (i.search (fuel + 1) k).isSome := by
  induction fuel generalizing k with
  | zero =>
    obtain ⟨d, hit⟩ := Option.isSome_iff_exists.mp h
    simp only [Nat.cast_zero, sub_zero] at hit
    simp [search, hit]
  | succ fuel ih =>
    unfold search
    split
    · rfl
    · apply ih
      have same : k - 1 - (fuel : Int) = k - ((fuel + 1 : Nat) : Int) := by push_cast; omega
      rw [same]
      exact h

end Interval

section
variable {m : Nat} {e : Int}

theorem low_add_one_le (positive : 0 < m) :
    (intervalOf m e).low + 1 ≤ (intervalOf m e).middle := by
  unfold intervalOf
  dsimp only
  split <;> omega

/-- The multiple of a power of ten that is next below the middle. -/
theorem multiple_below (i : Interval) (k : Int) :
    let below := (sameScale 1 k i.middle i.exponent).2 / (sameScale 1 k i.middle i.exponent).1
    (below : ℚ) * 10 ^ k ≤ i.middle * 2 ^ i.exponent ∧
      (i.middle : ℚ) * 2 ^ i.exponent < below * 10 ^ k + 10 ^ k := by
  obtain ⟨c, scale, one, middle⟩ := sameScale_eq 1 i.middle k i.exponent
  generalize sameScale 1 k i.middle i.exponent = s at one middle ⊢
  have unit : (0 : ℚ) < 10 ^ k := by positivity
  have positive : 0 < s.1 := by
    have : (0 : ℚ) < s.1 := by
      rw [one]
      positivity
    exact_mod_cast this
  have at_most : ((s.2 / s.1 : Nat) : ℚ) * s.1 ≤ s.2 := by
    exact_mod_cast Nat.div_mul_le_self s.2 s.1
  have less : (s.2 : ℚ) < (s.2 / s.1 : Nat) * s.1 + s.1 := by
    exact_mod_cast Nat.lt_div_mul_add positive
  rw [one, middle, Nat.cast_one, one_mul, ← mul_assoc] at at_most less
  rw [← add_mul] at less
  exact ⟨le_of_mul_le_mul_right at_most scale, lt_of_mul_lt_mul_right less scale.le⟩

/-- This multiple is a hit if the power of ten is not above a quarter unit. -/
theorem multiple?_isSome (positive : 0 < m) {k : Int} (fine : (10 : ℚ) ^ k ≤ 2 ^ (e - 2)) :
    ((intervalOf m e).multiple? k).isSome := by
  obtain ⟨at_most, less⟩ := multiple_below (intervalOf m e) k
  have quarter_unit : (0 : ℚ) < 2 ^ (e - 2) := by positivity
  have exponent : (intervalOf m e).exponent = e - 2 := rfl
  have least : ((intervalOf m e).low : ℚ) + 1 ≤ (intervalOf m e).middle := by
    exact_mod_cast low_add_one_le positive
  have greatest : ((intervalOf m e).middle : ℚ) < (intervalOf m e).high := by
    exact_mod_cast (by show 4 * m < 4 * m + 2; omega)
  have lowest : (0 : ℚ) ≤ (intervalOf m e).low := Nat.cast_nonneg _
  unfold Interval.multiple?
  dsimp only
  generalize (sameScale 1 k (intervalOf m e).middle (intervalOf m e).exponent).2 /
    (sameScale 1 k (intervalOf m e).middle (intervalOf m e).exponent).1 = below at *
  rw [exponent] at at_most less
  have above_low : ((intervalOf m e).low : ℚ) * 2 ^ (e - 2) < below * 10 ^ k := by
    have := mul_le_mul_of_nonneg_right least quarter_unit.le
    linarith
  have below_high : (below : ℚ) * 10 ^ k < (intervalOf m e).high * 2 ^ (e - 2) :=
    at_most.trans_lt (mul_lt_mul_of_pos_right greatest quarter_unit)
  have hit : (intervalOf m e).holds below k = true := by
    refine Interval.holds_iff.mpr ⟨?_, above_low.le, below_high.le, Or.inr ⟨above_low, below_high⟩⟩
    rintro rfl
    have := mul_nonneg lowest quarter_unit.le
    simp only [Nat.cast_zero, zero_mul] at above_low
    linarith
  rw [hit]
  cases (intervalOf m e).holds (below + 1) k with
  | true =>
    dsimp only
    split_ifs <;> rfl
  | false => rfl

/-- `estimate_le_two_pow` for exponents of both signs. -/
theorem estimate_le_two_zpow {s : Int} (h : s ≤ 100000) :
    (10 : ℚ) ^ (s * 30103 / 100000 - 2) ≤ 2 ^ (s + 1) := by
  obtain ⟨n, rfl | rfl⟩ := s.eq_nat_or_neg
  · have estimate := estimate_le_two_pow (by omega : n ≤ 100000)
    calc (10 : ℚ) ^ ((n : Int) * 30103 / 100000 - 2)
        ≤ 10 ^ ((n * 30103 / 100000 : Nat) : Int) :=
          zpow_le_zpow_right₀ (by norm_num) (by omega)
      _ ≤ 2 ^ ((n + 1 : Nat) : Int) := by
          rw [zpow_natCast, zpow_natCast]
          exact_mod_cast estimate
  · have estimate := two_pow_le_estimate n
    calc (10 : ℚ) ^ (-(n : Int) * 30103 / 100000 - 2)
        ≤ 10 ^ (-((n * 30103 / 100000 + 2 : Nat) : Int)) :=
          zpow_le_zpow_right₀ (by norm_num) (by omega)
      _ ≤ 2 ^ (-((n + 1 : Nat) : Int)) := by
          rw [zpow_neg, zpow_neg, zpow_natCast, zpow_natCast]
          apply inv_anti₀ (by positivity)
          exact_mod_cast estimate
      _ ≤ 2 ^ (-(n : Int) + 1) := zpow_le_zpow_right₀ (by norm_num) (by push_cast; omega)

/-- The last of the powers of ten is fine enough. -/
theorem powerAbove_fine (fits : Fits m e) :
    (10 : ℚ) ^ (powerAbove m e - 23) ≤ 2 ^ (e - 2) := by
  have length : m.log2 ≤ 52 := by
    by_cases zero : m = 0
    · simp [zero]
    · have := (Nat.log2_lt zero).mpr fits.mantissa_lt
      omega
  have greatest := fits.le_greatest
  have estimate := estimate_le_two_zpow (by omega : (m.log2 : Int) + 1 + e ≤ 100000)
  have apart : (10 : ℚ) ^ (-19 : Int) ≤ 2 ^ (-63 : Int) := by norm_num
  calc (10 : ℚ) ^ (powerAbove m e - 23)
      = 10 ^ (((m.log2 : Int) + 1 + e) * 30103 / 100000 - 2) * 10 ^ (-19 : Int) := by
        rw [← zpow_add₀ (by norm_num)]
        congr 1
        unfold powerAbove
        omega
    _ ≤ 2 ^ ((m.log2 : Int) + 1 + e + 1) * 2 ^ (-63 : Int) :=
        mul_le_mul estimate apart (by positivity) (by positivity)
    _ = 2 ^ ((m.log2 : Int) + 1 + e + 1 + -63) := (zpow_add₀ two_ne_zero _ _).symm
    _ ≤ 2 ^ (e - 2) := zpow_le_zpow_right₀ (by norm_num) (by omega)

/-- **The shortest decimal is in the interval around the double.** -/
theorem shortest_spec (fits : Fits m e) (positive : 0 < m) :
    (shortest m e).digits ≠ 0 ∧ -399 ≤ (shortest m e).exponent ∧
      (intervalOf m e).Contains ((shortest m e).digits * 10 ^ (shortest m e).exponent) := by
  have finest : ((intervalOf m e).multiple? (powerAbove m e - (23 : Nat))).isSome :=
    multiple?_isSome positive (powerAbove_fine fits)
  obtain ⟨found, search⟩ := Option.isSome_iff_exists.mp (Interval.search_isSome finest)
  have eq : shortest m e = found := by
    unfold shortest
    rw [search]
    rfl
  obtain ⟨holds, low, _⟩ := Interval.search_some search
  obtain ⟨some_digit, contains⟩ := Interval.holds_iff.mp holds
  have least := fits.least_le
  rw [eq]
  refine ⟨some_digit, ?_, contains⟩
  unfold powerAbove at low
  omega

end

end Statecraft.Decimal
