import Statecraft.Decimal.Shortest
import Statecraft.Proofs.Decimal.Bits

/-!
# Rounding to the nearest double

The integer arithmetic is that of the rationals `num / den`, `d * 10 ^ k` and `m * 2 ^ e`. What
lies in the interval around a finite double rounds to it (`nearest_of_contains`), whichever way
it is written (`ofDecimal_of_contains`).
-/

namespace Statecraft.Decimal

section
variable {num den : Nat}

@[simp] theorem cast_twoTo (n : Nat) : ((twoTo n : Nat) : ℚ) = 2 ^ n := by
  simp [twoTo]

@[simp] theorem cast_tenTo (n : Nat) : ((tenTo n : Nat) : ℚ) = 10 ^ n := by
  simp [tenTo]

theorem twoTo_pos (n : Nat) : 0 < twoTo n := Nat.two_pow_pos n

theorem tenTo_pos (n : Nat) : 0 < tenTo n := Nat.pow_pos (by decide)

/-- A power splits into its two natural parts, of which one is one. -/
theorem zpow_toNat (b : ℚ) (e : Int) : b ^ e = b ^ e.toNat / b ^ (-e).toNat := by
  obtain ⟨n, rfl | rfl⟩ := e.eq_nat_or_neg <;> simp

theorem scaleTwo_ratio (num den : Nat) (e : Int) :
    ((scaleTwo num den e).1 : ℚ) / (scaleTwo num den e).2 = num / den / 2 ^ e := by
  rw [zpow_toNat 2 e]
  simp only [scaleTwo, Nat.cast_mul, cast_twoTo]
  field_simp

theorem scaleTwo_pos (h : 0 < den) (e : Int) : 0 < (scaleTwo num den e).2 :=
  Nat.mul_pos h (twoTo_pos _)

/-- What is within half of an integer rounds to it; half way only if it is even. -/
theorem roundDiv_eq {n d q : Nat} (hd : 0 < d) (low : 2 * (d * q) ≤ 2 * n + d)
    (high : 2 * n ≤ 2 * (d * q) + d)
    (tie : q % 2 = 0 ∨ 2 * (d * q) < 2 * n + d ∧ 2 * n < 2 * (d * q) + d) :
    roundDiv n d = q := by
  have split := Nat.div_add_mod n d
  have rest := Nat.mod_lt n hd
  have near : q = n / d ∨ q = n / d + 1 := by
    by_contra far
    rcases Nat.lt_or_ge q (n / d) with below | above
    · have := Nat.mul_le_mul_left d (Nat.succ_le_of_lt below)
      rw [Nat.mul_succ] at this
      omega
    · have beyond : n / d + 2 ≤ q := by omega
      have := Nat.mul_le_mul_left d beyond
      rw [Nat.mul_add] at this
      omega
  unfold roundDiv
  dsimp only
  rcases near with rfl | rfl
  · split_ifs <;> simp_all <;> omega
  · rw [Nat.mul_succ] at low high tie
    split_ifs <;> simp_all <;> omega

/-- `roundDiv_eq` in terms of the quotient. -/
theorem roundDiv_of_ratio {n d q : Nat} (hd : 0 < d)
    (low : (q : ℚ) - 1 / 2 ≤ n / d) (high : (n : ℚ) / d ≤ q + 1 / 2)
    (tie : q % 2 = 0 ∨ ((q : ℚ) - 1 / 2 < n / d ∧ (n : ℚ) / d < q + 1 / 2)) :
    roundDiv n d = q := by
  have positive : (0 : ℚ) < d := by exact_mod_cast hd
  rw [le_div_iff₀ positive] at low
  rw [div_le_iff₀ positive] at high
  rw [lt_div_iff₀ positive, div_lt_iff₀ positive] at tie
  have low' : (2 * (d * q) : ℚ) ≤ 2 * n + d := by linarith
  have high' : (2 * n : ℚ) ≤ 2 * (d * q) + d := by linarith
  refine roundDiv_eq hd (by exact_mod_cast low') (by exact_mod_cast high') ?_
  rcases tie with even | ⟨l, h⟩
  · exact Or.inl even
  · have l' : (2 * (d * q) : ℚ) < 2 * n + d := by linarith
    have h' : (2 * n : ℚ) < 2 * (d * q) + d := by linarith
    exact Or.inr ⟨by exact_mod_cast l', by exact_mod_cast h'⟩

end

section Exponent
variable {num den : Nat}

/-- Where a positive quotient lies by the lengths of its two numbers. -/
theorem ratio_log2 (hn : 0 < num) (hd : 0 < den) :
    (2 : ℚ) ^ ((num.log2 : Int) - den.log2 - 1) < num / den ∧
      (num : ℚ) / den < 2 ^ ((num.log2 : Int) - den.log2 + 1) := by
  have positive : (0 : ℚ) < den := by exact_mod_cast hd
  have num_low : ((2 ^ num.log2 : Nat) : ℚ) ≤ num := by
    exact_mod_cast Nat.log2_self_le (by omega)
  have num_high : (num : ℚ) < ((2 ^ (num.log2 + 1) : Nat) : ℚ) := by
    exact_mod_cast Nat.lt_log2_self
  have den_low : ((2 ^ den.log2 : Nat) : ℚ) ≤ den := by
    exact_mod_cast Nat.log2_self_le (by omega)
  have den_high : (den : ℚ) < ((2 ^ (den.log2 + 1) : Nat) : ℚ) := by
    exact_mod_cast Nat.lt_log2_self
  push_cast at num_low num_high den_low den_high
  constructor
  · rw [lt_div_iff₀ positive]
    calc (2 : ℚ) ^ ((num.log2 : Int) - den.log2 - 1) * den
        < 2 ^ ((num.log2 : Int) - den.log2 - 1) * 2 ^ (den.log2 + 1) :=
          mul_lt_mul_of_pos_left den_high (by positivity)
      _ = 2 ^ num.log2 := by
          rw [← zpow_natCast, ← zpow_natCast, ← zpow_add₀ two_ne_zero]
          congr 1
          omega
      _ ≤ num := num_low
  · rw [div_lt_iff₀ positive]
    calc (num : ℚ) < 2 ^ (num.log2 + 1) := num_high
      _ = 2 ^ ((num.log2 : Int) - den.log2 + 1) * 2 ^ den.log2 := by
          rw [← zpow_natCast, ← zpow_natCast, ← zpow_add₀ two_ne_zero]
          congr 1
          omega
      _ ≤ 2 ^ ((num.log2 : Int) - den.log2 + 1) * den :=
          mul_le_mul_of_nonneg_left den_low (by positivity)

/-- The exponent before it is cut off at the least one. -/
theorem exponentFor_spec (hn : 0 < num) (hd : 0 < den) :
    ∃ E : Int, exponentFor num den = max (-1074) E ∧
      (2 : ℚ) ^ (52 + E) ≤ num / den ∧ (num : ℚ) / den < 2 ^ (53 + E) := by
  obtain ⟨low, high⟩ := ratio_log2 hn hd
  let guess : Int := (num.log2 : Int) - den.log2 - 52
  have ratio := scaleTwo_ratio num den guess
  have positive : (0 : ℚ) < ((scaleTwo num den guess).2 : ℚ) := by
    exact_mod_cast scaleTwo_pos hd guess
  have test : (scaleTwo num den guess).1 < (scaleTwo num den guess).2 * twoTo 52 ↔
      (num : ℚ) / den < 2 ^ (52 + guess) := by
    have unit : (0 : ℚ) < 2 ^ guess := by positivity
    rw [zpow_add₀ two_ne_zero, ← div_lt_iff₀ unit, ← ratio, div_lt_iff₀ positive, mul_comm]
    norm_cast
  by_cases small : (num : ℚ) / den < 2 ^ (52 + guess)
  · refine ⟨guess - 1, ?_, ?_, ?_⟩
    · show max (-1074) (if (scaleTwo num den guess).1 < (scaleTwo num den guess).2 * twoTo 52
        then guess - 1 else guess) = _
      rw [if_pos (test.mpr small)]
    · refine le_of_eq_of_le ?_ low.le
      congr 1
      omega
    · refine lt_of_lt_of_eq small ?_
      congr 1
      omega
  · refine ⟨guess, ?_, le_of_not_gt small, ?_⟩
    · show max (-1074) (if (scaleTwo num den guess).1 < (scaleTwo num den guess).2 * twoTo 52
        then guess - 1 else guess) = _
      rw [if_neg fun h => small (test.mp h)]
    · refine lt_of_lt_of_eq high ?_
      congr 1
      omega

theorem exponentFor_eq (hn : 0 < num) (hd : 0 < den) {e : Int} (least : -1074 ≤ e)
    (low : e = -1074 ∨ (2 : ℚ) ^ (52 + e) ≤ num / den) (high : (num : ℚ) / den < 2 ^ (53 + e)) :
    exponentFor num den = e := by
  obtain ⟨E, eq, low', high'⟩ := exponentFor_spec hn hd
  have upper : 52 + E < 53 + e :=
    (zpow_lt_zpow_iff_right₀ (by norm_num)).mp (low'.trans_lt high)
  rw [eq]
  rcases low with rfl | low
  · omega
  · have lower : 52 + e < 53 + E :=
      (zpow_lt_zpow_iff_right₀ (by norm_num)).mp (low.trans_lt high')
    omega

end Exponent

/-- The interval has this number in it, its ends only if it is closed. -/
def Interval.Contains (i : Interval) (v : ℚ) : Prop :=
  let low := (i.low : ℚ) * 2 ^ i.exponent
  let high := (i.high : ℚ) * 2 ^ i.exponent
  low ≤ v ∧ v ≤ high ∧ (i.closed = true ∨ low < v ∧ v < high)

section
variable {m : Nat} {e : Int} {v : ℚ}

/-- Quarter units are a fourth of a unit. -/
theorem quarter (n : ℚ) (e : Int) : n * 2 ^ (e - 2) = n / 4 * 2 ^ e := by
  rw [zpow_sub₀ two_ne_zero]
  ring

/-- The interval around a double in terms of the quotient by its unit. -/
theorem contains_intervalOf :
    (intervalOf m e).Contains v ↔
      ((intervalOf m e).low : ℚ) / 4 ≤ v / 2 ^ e ∧ v / 2 ^ e ≤ m + 1 / 2 ∧
        (m % 2 = 0 ∨ ((intervalOf m e).low : ℚ) / 4 < v / 2 ^ e ∧ v / 2 ^ e < m + 1 / 2) := by
  have unit : (0 : ℚ) < 2 ^ e := by positivity
  have even : (intervalOf m e).closed = true ↔ m % 2 = 0 := by simp [intervalOf]
  have exponent : (intervalOf m e).exponent = e - 2 := rfl
  have high : ((intervalOf m e).high : ℚ) / 4 = m + 1 / 2 := by
    show ((4 * m + 2 : Nat) : ℚ) / 4 = _
    push_cast
    ring
  unfold Interval.Contains
  dsimp only
  rw [even, exponent, quarter, quarter, high, ← le_div_iff₀ unit, ← div_le_iff₀ unit,
    ← lt_div_iff₀ unit, ← div_lt_iff₀ unit]

theorem low_of_power (hm : m = 2 ^ 52) (he : e ≠ -1074) :
    ((intervalOf m e).low : ℚ) / 4 = m - 1 / 4 := by
  have low : (intervalOf m e).low = 4 * m - 1 := by simp [intervalOf, twoTo, hm, he]
  rw [low, Nat.cast_sub (by omega)]
  push_cast
  ring

theorem low_of_not_power (positive : 0 < m) (h : ¬ (m = 2 ^ 52 ∧ e ≠ -1074)) :
    ((intervalOf m e).low : ℚ) / 4 = m - 1 / 2 := by
  have ordinary : ¬ (m == twoTo 52 && e != -1074) = true := by simpa [twoTo] using h
  have low : (intervalOf m e).low = 4 * m - 2 := by simp only [intervalOf, if_neg ordinary]
  rw [low, Nat.cast_sub (by omega)]
  push_cast
  ring

/-- A double is in the interval around it. -/
theorem contains_self (e : Int) (positive : 0 < m) : (intervalOf m e).Contains (m * 2 ^ e) := by
  have unit : (0 : ℚ) < 2 ^ e := by positivity
  have low : ((intervalOf m e).low : ℚ) / 4 < m := by
    by_cases power : m = 2 ^ 52 ∧ e ≠ -1074
    · rw [low_of_power power.1 power.2]
      linarith
    · rw [low_of_not_power positive power]
      linarith
  rw [contains_intervalOf, mul_div_cancel_right₀ _ unit.ne']
  exact ⟨low.le, by linarith, Or.inr ⟨low, by linarith⟩⟩

/-- A number in the interval around a double is within half a unit of it, and by less than that
if the mantissa is odd. -/
theorem Interval.Contains.within_half (positive : 0 < m) (h : (intervalOf m e).Contains v) :
    (m : ℚ) - 1 / 2 ≤ v / 2 ^ e ∧ v / 2 ^ e ≤ m + 1 / 2 ∧
      (m % 2 = 0 ∨ (m : ℚ) - 1 / 2 < v / 2 ^ e ∧ v / 2 ^ e < m + 1 / 2) := by
  obtain ⟨low, high, ends⟩ := contains_intervalOf.mp h
  by_cases special : m = 2 ^ 52 ∧ e ≠ -1074
  · rw [low_of_power special.1 special.2] at low
    refine ⟨by linarith, high, Or.inl ?_⟩
    rw [special.1]
    rfl
  · rw [low_of_not_power positive special] at low ends
    exact ⟨low, high, ends⟩

end

theorem Fits.mantissa_le {m : Nat} {e : Int} (fits : Fits m e) : (m : ℚ) ≤ 2 ^ 53 - 1 := by
  have : ((m + 1 : Nat) : ℚ) ≤ ((2 ^ 53 : Nat) : ℚ) := by exact_mod_cast fits.mantissa_lt
  push_cast at this
  linarith

section
variable {num den m : Nat} {e : Int}

/-- The bits of a rounded quotient, if they are those of a finite double. -/
theorem nearestBits_eq (hn : 0 < num) (fits : Fits m e) {E : Int} {q : Nat}
    (hE : exponentFor num den = E)
    (hq : roundDiv (scaleTwo num den E).1 (scaleTwo num den E).2 = q)
    (total : (E + 1074).toNat * 2 ^ 52 + q = magnitudeBits m e) :
    nearestBits num den = magnitudeBits m e := by
  have finite := fits.magnitudeBits_lt
  unfold nearestBits
  rw [if_neg (by simpa using (by omega : num ≠ 0)), hE]
  dsimp only
  rw [hq]
  show min ((E + 1074).toNat * 2 ^ 52 + q) (2047 * 2 ^ 52) = _
  rw [total, Nat.min_eq_left finite.le]

/-- A quotient that is no less than the least mantissa has the exponent of the double. -/
theorem nearestBits_normal (hn : 0 < num) (hd : 0 < den) (fits : Fits m e) (positive : 0 < m)
    (h : (intervalOf m e).Contains (num / den))
    (normal : e = -1074 ∨ (2 : ℚ) ^ 52 ≤ num / den / 2 ^ e) :
    nearestBits num den = magnitudeBits m e := by
  have unit : (0 : ℚ) < 2 ^ e := by positivity
  have mantissa := fits.mantissa_le
  obtain ⟨low, high, ends⟩ := h.within_half positive
  have exponent : exponentFor num den = e := by
    apply exponentFor_eq hn hd fits.least_le
    · rcases normal with rfl | normal
      · exact Or.inl rfl
      · rw [le_div_iff₀ unit] at normal
        rw [zpow_add₀ two_ne_zero]
        exact Or.inr normal
    · rw [zpow_add₀ two_ne_zero, ← div_lt_iff₀ unit]
      refine lt_of_le_of_lt high ?_
      norm_num
      linarith
  rw [← scaleTwo_ratio] at low high ends
  exact nearestBits_eq hn fits exponent (roundDiv_of_ratio (scaleTwo_pos hd e) low high ends) rfl

/-- A quotient just below a power of two has an exponent less by one, and rounds up to the
power. -/
theorem nearestBits_below_power (hn : 0 < num) (hd : 0 < den) (fits : Fits m e) (positive : 0 < m)
    (h : (intervalOf m e).Contains (num / den)) (he : e ≠ -1074)
    (below : (num : ℚ) / den / 2 ^ e < 2 ^ 52) : nearestBits num den = magnitudeBits m e := by
  have least := fits.least_le
  have power : m = 2 ^ 52 := by
    have low := (h.within_half positive).1
    have : 2 ^ 52 ≤ m := fits.normal.resolve_left he
    have : (m : ℚ) < 2 ^ 52 + 1 := by linarith
    have : m < 2 ^ 52 + 1 := by exact_mod_cast this
    omega
  have close := (contains_intervalOf.mp h).1
  rw [low_of_power power he, power] at close
  push_cast at close
  have twice : (num : ℚ) / den / 2 ^ (e - 1) = 2 * (num / den / 2 ^ e) := by
    rw [zpow_sub₀ two_ne_zero]
    field_simp
  have unit : (0 : ℚ) < 2 ^ (e - 1) := by positivity
  have exponent : exponentFor num den = e - 1 := by
    apply exponentFor_eq hn hd (by omega)
    · rw [zpow_add₀ two_ne_zero, ← le_div_iff₀ unit, twice]
      right
      norm_num at close ⊢
      linarith
    · rw [zpow_add₀ two_ne_zero, ← div_lt_iff₀ unit, twice]
      norm_num at below ⊢
      linarith
  have rounded : roundDiv (scaleTwo num den (e - 1)).1 (scaleTwo num den (e - 1)).2 = 2 ^ 53 := by
    apply roundDiv_of_ratio (scaleTwo_pos hd _)
    · rw [scaleTwo_ratio, twice]
      norm_num at close ⊢
      linarith
    · rw [scaleTwo_ratio, twice]
      norm_num at below ⊢
      linarith
    · exact Or.inl rfl
  apply nearestBits_eq hn fits exponent rounded
  unfold magnitudeBits
  omega

/-- Bits of a double and of the numbers that round to it. -/
theorem nearestBits_of_contains (hn : 0 < num) (hd : 0 < den) (fits : Fits m e) (positive : 0 < m)
    (h : (intervalOf m e).Contains (num / den)) : nearestBits num den = magnitudeBits m e := by
  by_cases normal : e = -1074 ∨ (2 : ℚ) ^ 52 ≤ num / den / 2 ^ e
  · exact nearestBits_normal hn hd fits positive h normal
  · push Not at normal
    exact nearestBits_below_power hn hd fits positive h normal.1 normal.2

end

theorem nearestBits_le (num den : Nat) : nearestBits num den ≤ 2047 * 2 ^ 52 := by
  unfold nearestBits
  split
  · omega
  · exact Nat.min_le_right _ _

/-- The bits of the nearest double, which is never the undefined number. -/
theorem toNat_toBits_nearest (negative : Bool) (num den : Nat) :
    (nearest negative num den).toBits.toNat =
      (if negative then 2 ^ 63 else 0) + nearestBits num den := by
  have bound := nearestBits_le num den
  have word : (if negative then 2 ^ 63 else 0) + nearestBits num den < 2 ^ 64 := by
    split <;> omega
  have bits : (UInt64.ofNat ((if negative then twoTo 63 else 0) + nearestBits num den)).toNat =
      (if negative then 2 ^ 63 else 0) + nearestBits num den := UInt64.toNat_ofNat_of_lt' word
  unfold nearest
  rw [toBits_ofBits, bits]
  rw [bits]
  unfold twoTo
  simp only [Nat.pow_eq]
  split <;> omega

/-- **What lies in the interval around a double rounds to it.** -/
theorem nearest_of_contains {x : Float} {negative : Bool} {m : Nat} {e : Int} {num den : Nat}
    (parts_x : parts x = .finite negative m e) (positive : 0 < m) (hn : 0 < num) (hd : 0 < den)
    (h : (intervalOf m e).Contains (num / den)) : nearest negative num den = x := by
  obtain ⟨fits, bits⟩ := parts_eq_finite parts_x
  apply Float.toBits_inj.mp
  apply UInt64.toNat_inj.mp
  rw [toNat_toBits_nearest, nearestBits_of_contains hn hd fits positive h, bits]

/-- Nothing that is rounded is the undefined number. -/
theorem parts_nearest_ne_nan (negative : Bool) (num den : Nat) :
    parts (nearest negative num den) ≠ .nan := by
  have bound := nearestBits_le num den
  unfold parts twoTo
  simp only [Nat.pow_eq, beq_iff_eq]
  rw [toNat_toBits_nearest]
  generalize ht : (if negative then 2 ^ 63 else 0) + nearestBits num den = total
  have field : total / 2 ^ 52 % 2 ^ 11 = 2047 → total % 2 ^ 52 = 0 := by
    split at ht <;> omega
  split
  · rename_i top
    rw [if_pos (field top)]
    exact nofun
  · split <;> exact nofun

section
variable {m : Nat} {e : Int} {v : ℚ}

/-- All numbers that round to a double lie between these. -/
theorem Interval.Contains.bounds (fits : Fits m e) (positive : 0 < m)
    (h : (intervalOf m e).Contains v) : (2 : ℚ) ^ (-1075 : Int) ≤ v ∧ v < 2 ^ (1024 : Int) := by
  have unit : (0 : ℚ) < 2 ^ e := by positivity
  obtain ⟨low, high, _⟩ := h.within_half positive
  rw [le_div_iff₀ unit] at low
  rw [div_le_iff₀ unit] at high
  have one : (1 : ℚ) ≤ m := by exact_mod_cast positive
  have mantissa := fits.mantissa_le
  constructor
  · calc (2 : ℚ) ^ (-1075 : Int) = 1 / 2 * 2 ^ (-1074 : Int) := by
          rw [show (-1075 : Int) = -1 + -1074 from rfl, zpow_add₀ two_ne_zero]
          norm_num
      _ ≤ 1 / 2 * 2 ^ e := by
          have := zpow_le_zpow_right₀ (by norm_num : (1 : ℚ) ≤ 2) fits.least_le
          linarith
      _ ≤ (m - 1 / 2) * 2 ^ e := mul_le_mul_of_nonneg_right (by linarith) unit.le
      _ ≤ v := low
  · calc v ≤ (m + 1 / 2) * 2 ^ e := high
      _ < 2 ^ 53 * 2 ^ e := mul_lt_mul_of_pos_right (by linarith) unit
      _ = 2 ^ (53 + e) := by
          rw [zpow_add₀ two_ne_zero]
          rfl
      _ ≤ 2 ^ (1024 : Int) := by
          apply zpow_le_zpow_right₀ (by norm_num)
          have := fits.le_greatest
          omega

end

/-! The estimate of a decimal's size by its digits in base two -/

/-- The logarithm of two to the base ten is a little less than `0.30103`. -/
theorem two_pow_le_ten_pow : 2 ^ 100000 ≤ 10 ^ 30103 := by decide +kernel

theorem ten_pow_le_two_pow : 10 ^ 30103 ≤ 2 ^ 100001 := by decide +kernel

theorem two_pow_le_estimate (n : Nat) : 2 ^ (n + 1) ≤ 10 ^ (n * 30103 / 100000 + 2) := by
  apply (Nat.pow_le_pow_iff_left (by decide : 100000 ≠ 0)).mp
  calc (2 ^ (n + 1)) ^ 100000 = (2 ^ 100000) ^ (n + 1) := by rw [← pow_mul, ← pow_mul, mul_comm]
    _ ≤ (10 ^ 30103) ^ (n + 1) := Nat.pow_le_pow_left two_pow_le_ten_pow _
    _ = 10 ^ (30103 * (n + 1)) := by rw [← pow_mul]
    _ ≤ 10 ^ ((n * 30103 / 100000 + 2) * 100000) := Nat.pow_le_pow_right (by decide) (by omega)
    _ = (10 ^ (n * 30103 / 100000 + 2)) ^ 100000 := by rw [← pow_mul]

theorem estimate_le_two_pow {n : Nat} (h : n ≤ 100000) :
    10 ^ (n * 30103 / 100000) ≤ 2 ^ (n + 1) := by
  apply (Nat.pow_le_pow_iff_left (by decide : 100000 ≠ 0)).mp
  calc (10 ^ (n * 30103 / 100000)) ^ 100000 = 10 ^ (n * 30103 / 100000 * 100000) := by
        rw [← pow_mul]
    _ ≤ 10 ^ (30103 * n) := Nat.pow_le_pow_right (by decide) (by omega)
    _ = (10 ^ 30103) ^ n := by rw [← pow_mul]
    _ ≤ (2 ^ 100001) ^ n := Nat.pow_le_pow_left ten_pow_le_two_pow _
    _ = 2 ^ (100001 * n) := by rw [← pow_mul]
    _ ≤ 2 ^ ((n + 1) * 100000) := Nat.pow_le_pow_right (by decide) (by omega)
    _ = (2 ^ (n + 1)) ^ 100000 := by rw [← pow_mul]

/-- A decimal that is not tiny has no small estimate. -/
theorem estimate_ge {digits : Nat} {k : Int} (h : (2 : ℚ) ^ (-1075 : Int) ≤ digits * 10 ^ k) :
    -400 ≤ (digits.log2 : Int) * 30103 / 100000 + k := by
  by_contra small
  have unit : (0 : ℚ) < 10 ^ k := by positivity
  have upper : (digits : ℚ) ≤ 10 ^ (((digits.log2 * 30103 / 100000 + 2 : Nat)) : Int) := by
    have estimate := Nat.lt_log2_self.le.trans (two_pow_le_estimate digits.log2)
    rw [zpow_natCast]
    exact_mod_cast estimate
  have tiny : (digits : ℚ) * 10 ^ k ≤ 10 ^ (-399 : Int) := by
    calc (digits : ℚ) * 10 ^ k
        ≤ 10 ^ (((digits.log2 * 30103 / 100000 + 2 : Nat)) : Int) * 10 ^ k :=
          mul_le_mul_of_nonneg_right upper unit.le
      _ = 10 ^ (((digits.log2 * 30103 / 100000 + 2 : Nat) : Int) + k) :=
          (zpow_add₀ (by norm_num) _ _).symm
      _ ≤ 10 ^ (-399 : Int) := zpow_le_zpow_right₀ (by norm_num) (by omega)
  have apart : (10 : ℚ) ^ (-399 : Int) < 2 ^ (-1075 : Int) := by
    rw [zpow_neg, zpow_neg]
    apply inv_strictAnti₀ (by positivity)
    exact_mod_cast (by decide +kernel : 2 ^ 1075 < 10 ^ 399)
  linarith

/-- A decimal that is not huge has no great estimate, unless it has very many digits. -/
theorem estimate_le {digits : Nat} {k : Int} (least : -400 ≤ k) (positive : digits ≠ 0)
    (h : (digits : ℚ) * 10 ^ k < 2 ^ (1024 : Int)) :
    (digits.log2 : Int) * 30103 / 100000 + k ≤ 400 := by
  by_contra great
  have unit : (0 : ℚ) < 10 ^ k := by positivity
  have lower : ((2 ^ digits.log2 : Nat) : ℚ) ≤ digits := by
    exact_mod_cast Nat.log2_self_le positive
  have few : digits.log2 ≤ 100000 := by
    have fine : (10 : ℚ) ^ (-400 : Int) ≤ 10 ^ k := zpow_le_zpow_right₀ (by norm_num) least
    have bound : ((2 ^ digits.log2 : Nat) : ℚ) * 10 ^ (-400 : Int) < 2 ^ (1024 : Int) :=
      (mul_le_mul lower fine (by positivity) (by positivity)).trans_lt h
    rw [zpow_neg, ← div_eq_mul_inv, div_lt_iff₀ (by positivity)] at bound
    have bound' : 2 ^ digits.log2 < 2 ^ 1024 * 10 ^ 400 := by exact_mod_cast bound
    have : 2 ^ digits.log2 < 2 ^ 100000 :=
      bound'.trans (by decide +kernel)
    exact ((Nat.pow_lt_pow_iff_right (by decide)).mp this).le
  have estimate : ((10 ^ (digits.log2 * 30103 / 100000) : Nat) : ℚ) ≤ 2 * digits := by
    have := estimate_le_two_pow few
    calc ((10 ^ (digits.log2 * 30103 / 100000) : Nat) : ℚ)
        ≤ ((2 ^ (digits.log2 + 1) : Nat) : ℚ) := by exact_mod_cast this
      _ = 2 * ((2 ^ digits.log2 : Nat) : ℚ) := by
          push_cast
          ring
      _ ≤ 2 * digits := by linarith
  have huge : (10 : ℚ) ^ (401 : Int) ≤ 2 * (digits * 10 ^ k) := by
    calc (10 : ℚ) ^ (401 : Int)
        ≤ 10 ^ (((digits.log2 * 30103 / 100000 : Nat) : Int) + k) :=
          zpow_le_zpow_right₀ (by norm_num) (by omega)
      _ = ((10 ^ (digits.log2 * 30103 / 100000) : Nat) : ℚ) * 10 ^ k := by
          rw [zpow_add₀ (by norm_num), zpow_natCast]
          push_cast
          rfl
      _ ≤ 2 * digits * 10 ^ k := mul_le_mul_of_nonneg_right estimate unit.le
      _ = 2 * (digits * 10 ^ k) := mul_assoc _ _ _
  have apart : (2 : ℚ) * 2 ^ (1024 : Int) < 10 ^ (401 : Int) := by
    exact_mod_cast (by decide +kernel : 2 * 2 ^ 1024 < 10 ^ 401)
  have contradiction := (huge.trans_lt (mul_lt_mul_of_pos_left h two_pos)).trans apart
  exact lt_irrefl _ contradiction

/-- **A decimal in the interval around a double reads as the double.** -/
theorem ofDecimal_of_contains {x : Float} {negative : Bool} {m : Nat} {e : Int} {digits : Nat}
    {k : Int} (parts_x : parts x = .finite negative m e) (positive : 0 < m) (least : -400 ≤ k)
    (h : (intervalOf m e).Contains (digits * 10 ^ k)) : ofDecimal negative digits k = x := by
  obtain ⟨low, high⟩ := h.bounds (parts_eq_finite parts_x).1 positive
  have some_digit : digits ≠ 0 := by
    rintro rfl
    have : (0 : ℚ) < 2 ^ (-1075 : Int) := by positivity
    simp only [Nat.cast_zero, zero_mul] at low
    linarith
  have not_tiny := estimate_ge low
  have not_huge := estimate_le least some_digit high
  unfold ofDecimal exponentLimit
  dsimp only
  rw [if_neg (by simp only [Bool.or_eq_true, beq_iff_eq, decide_eq_true_eq]; omega),
    if_neg (by omega)]
  apply nearest_of_contains parts_x positive
  · exact Nat.mul_pos (Nat.pos_of_ne_zero some_digit) (tenTo_pos _)
  · exact tenTo_pos _
  · rw [Nat.cast_mul, cast_tenTo, cast_tenTo, mul_div_assoc, ← zpow_toNat]
    exact h

/-- Nothing that is read is the undefined number. -/
theorem parts_ofDecimal_ne_nan (negative : Bool) (digits : Nat) (k : Int) :
    parts (ofDecimal negative digits k) ≠ .nan := by
  unfold ofDecimal
  dsimp only
  split_ifs <;> exact parts_nearest_ne_nan _ _ _

end Statecraft.Decimal
