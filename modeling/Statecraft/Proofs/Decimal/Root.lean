import Statecraft.Proofs.Decimal.Rounding

/-!
# Roots of integers

An integer of at most fifty-three binary digits is a double (`toBits_ofInt`), and the root of that
double is the integer's root with `rootPlaces` binary places, rounded to the nearest
(`exists_parts_sqrt`). Below `2 ^ 52` there are so many places that rounding never reaches an
integer which the root is not: rounded up, the root is the least integer whose square is not below
the number (`ceil?_sqrt_exact`).
-/

namespace Statecraft.Decimal

open Float.Model (Format UnpackedFloat totalExponent)
open Float.Model.UnpackedFloat

section Normal

variable {m : Nat} {e : Int} {x : Float} {b : BitVec Format.binary64.numBits}

theorem log2_full (hidden : 2 ^ 52 ≤ m) (below : m < 2 ^ 53) : m.log2 = 52 :=
  (Nat.log2_eq_iff (by omega)).mpr ⟨hidden, below⟩

/-- The fields of the bits of a double with a hidden bit. -/
theorem magnitudeBits_fields (fits : Fits m e) (hidden : 2 ^ 52 ≤ m) :
    magnitudeBits m e / 2 ^ 63 = 0 ∧ magnitudeBits m e / 2 ^ 52 % 2 ^ 11 = (e + 1075).toNat ∧
      magnitudeBits m e % 2 ^ 52 = m - 2 ^ 52 := by
  obtain ⟨below, least, greatest, -⟩ := fits
  unfold magnitudeBits
  refine ⟨?_, ?_, ?_⟩ <;> omega

theorem parts_of_bits (fits : Fits m e) (hidden : 2 ^ 52 ≤ m)
    (bits : x.toBits.toNat = magnitudeBits m e) : parts x = .finite false m e := by
  obtain ⟨sign, field, rest⟩ := magnitudeBits_fields fits hidden
  obtain ⟨below, least, greatest, -⟩ := fits
  unfold parts twoTo
  simp only [Nat.pow_eq, beq_iff_eq, bits, sign, field, rest]
  rw [if_neg (by omega), if_neg (by omega)]
  simp only [Parts.finite.injEq]
  refine ⟨rfl, ?_, ?_⟩ <;> omega

theorem toNat_unpackSign : (unpackSign b).toNat = b.toNat / 2 ^ 63 % 2 := by
  simp [unpackSign, Nat.shiftRight_eq_div_pow]

theorem unpack_of_bits (fits : Fits m e) (hidden : 2 ^ 52 ≤ m)
    (bits : b.toNat = magnitudeBits m e) :
    unpack Format.binary64 b = .finite .positive m e (by omega) := by
  obtain ⟨sign, field, rest⟩ := magnitudeBits_fields fits hidden
  rw [← bits] at sign field rest
  rw [← toNat_unpackExponent] at field
  rw [← toNat_unpackMantissa] at rest
  obtain ⟨below, least, greatest, -⟩ := fits
  have unsigned : unpackSign b = 0#1 := by
    apply BitVec.eq_of_toNat_eq
    rw [toNat_unpackSign, sign]
    rfl
  have finite : unpackExponent b ≠ -1#_ := by
    intro top
    have := congrArg BitVec.toNat top
    rw [field] at this
    change (e + 1075).toNat = 2047 at this
    omega
  have normal : unpackExponent b ≠ 0#_ := by
    intro bottom
    have := congrArg BitVec.toNat bottom
    rw [field] at this
    change (e + 1075).toNat = 0 at this
    omega
  have mantissa : (1#1 ++ unpackMantissa b).toNat = m := by
    rw [BitVec.toNat_append, ← Nat.shiftLeft_add_eq_or_of_lt (unpackMantissa b).isLt, rest,
      Nat.shiftLeft_eq]
    change 1 * 2 ^ 52 + _ = _
    omega
  have exponent : ((unpackExponent b).toNat : Int) -
      (Format.binary64.exponentBias + Format.binary64.mantissaBitsWithoutImplicit) = e := by
    rw [field]
    change ((e + 1075).toNat : Int) - (1023 + 52) = e
    omega
  unfold unpack
  dsimp only
  rw [if_neg finite, if_neg normal]
  simp only [unsigned, mantissa, exponent]
  rfl

/-- Packing gives the bits back: they are those that unpack to these parts. -/
theorem toNat_pack (fits : Fits m e) (hidden : 2 ^ 52 ≤ m) (positive : 0 < m) :
    (pack Format.binary64 (.finite .positive m e positive)).toNat = magnitudeBits m e := by
  obtain ⟨-, field, -⟩ := magnitudeBits_fields fits hidden
  have finite := fits.magnitudeBits_lt
  have greatest := fits.le_greatest
  have word : (BitVec.ofNat 64 (magnitudeBits m e)).toNat = magnitudeBits m e := by
    rw [BitVec.toNat_ofNat]
    omega
  have number : @isNaNBits Format.binary64 (BitVec.ofNat 64 (magnitudeBits m e)) = false := by
    rw [isNaNBits, decide_eq_false_iff_not]
    rintro ⟨top, -⟩
    have := congrArg BitVec.toNat top
    rw [toNat_unpackExponent, word, field] at this
    change (e + 1075).toNat = 2047 at this
    omega
  have packed := @pack_unpack Format.binary64 (BitVec.ofNat 64 (magnitudeBits m e)) (by decide)
  rw [number, unpack_of_bits fits hidden word] at packed
  rw [packed]
  exact word

end Normal

section Rounded

variable {r : Nat} {t : Int} {accuracy : Accuracy}

/-- At its own exponent a mantissa is not shifted. -/
theorem shiftToTargetExponent_self
    (own : Format.binary64.targetExponent (totalExponent r t) = t) :
    shiftToTargetExponent Format.binary64 r t accuracy =
      (ExtendedMantissa.ofMantissaAndAccuracy r accuracy, t) := by
  unfold shiftToTargetExponent shiftToExponent
  simp only [own, Int.sub_self, Int.toNat_zero, Nat.cast_zero, add_zero]
  rfl

theorem roundedMantissa_ofMantissaAndAccuracy (r : Nat) (accuracy : Accuracy) :
    (ExtendedMantissa.ofMantissaAndAccuracy r accuracy).roundedMantissa =
      accuracy.roundToNearestEven r := by
  rcases accuracy with _ | _ | _ | _ <;> rfl

theorem roundToNearestEven_bounds (r : Nat) (accuracy : Accuracy) :
    r ≤ accuracy.roundToNearestEven r ∧ accuracy.roundToNearestEven r ≤ r + 1 := by
  rcases accuracy with _ | _ | _ | _ <;> simp only [Accuracy.roundToNearestEven] <;> omega

theorem targetExponent_full (low : 2 ^ 52 ≤ r) (high : r < 2 ^ 53) (least : -1074 ≤ t) :
    Format.binary64.targetExponent (totalExponent r t) = t := by
  have log := log2_full low high
  change max ((r.log2 : Int) + 1 + t - 53) (-1074) = t
  omega

/-- A rounded mantissa of full length stays as it is, and one that has reached the next power of
two is halved. -/
theorem shiftToTargetExponent_carry (low : 2 ^ 52 ≤ r) (high : r ≤ 2 ^ 53) (least : -1074 ≤ t) :
    ∃ m e, shiftToTargetExponent Format.binary64 r t .exact = (⟨m, false, false⟩, e) ∧
      2 ^ 52 ≤ m ∧ m < 2 ^ 53 ∧ (e = t ∧ m = r ∨ e = t + 1 ∧ 2 * m = r) := by
  rcases Nat.lt_or_eq_of_le high with full | rfl
  · exact ⟨r, t, shiftToTargetExponent_self (targetExponent_full low full least), low, full,
      Or.inl ⟨rfl, rfl⟩⟩
  · have own : Format.binary64.targetExponent (totalExponent (2 ^ 53) t) = t + 1 := by
      change max (((2 ^ 53).log2 : Int) + 1 + t - 53) (-1074) = t + 1
      rw [Nat.log2_two_pow]
      omega
    have one : (t + 1 - t).toNat = 1 := by omega
    refine ⟨2 ^ 52, t + 1, ?_, by omega, by omega, Or.inr ⟨rfl, rfl⟩⟩
    unfold shiftToTargetExponent shiftToExponent
    simp only [own, one]
    rfl

/-- A mantissa of full length is rounded in its last place. -/
theorem roundWithAccuracy_full (accuracy : Accuracy) (low : 2 ^ 52 ≤ r) (high : r < 2 ^ 53)
    (least : -1074 ≤ t) (greatest : t ≤ 970) :
    ∃ m e positive,
      roundWithAccuracy Format.binary64 .positive r t accuracy = .finite .positive m e positive ∧
      Fits m e ∧ 2 ^ 52 ≤ m ∧
      (e = t ∧ m = accuracy.roundToNearestEven r ∨
        e = t + 1 ∧ 2 * m = accuracy.roundToNearestEven r) := by
  obtain ⟨at_least, at_most⟩ := roundToNearestEven_bounds r accuracy
  obtain ⟨m, e, carried, hidden, below, value⟩ :=
    shiftToTargetExponent_carry (low.trans at_least) (at_most.trans high) least
  refine ⟨m, e, by omega, ?_, ⟨below, by omega, by omega, Or.inr hidden⟩, hidden, value⟩
  unfold roundWithAccuracy
  rw [shiftToTargetExponent_self (targetExponent_full low high least)]
  simp only [roundedMantissa_ofMantissaAndAccuracy, carried]
  rw [dif_neg (by omega)]

end Rounded

section Whole

variable {n : Nat}

theorem log2_le (positive : 0 < n) (small : n < 2 ^ 53) : n.log2 ≤ 52 :=
  Nat.le_of_lt_succ ((Nat.log2_lt positive.ne').mpr small)

/-- An integer of at most fifty-three binary digits, moved up to the hidden bit. -/
theorem fits_of_lt (positive : 0 < n) (small : n < 2 ^ 53) :
    2 ^ 52 ≤ n * 2 ^ (52 - n.log2) ∧ Fits (n * 2 ^ (52 - n.log2)) ((n.log2 : Int) - 52) := by
  have length := log2_le positive small
  have unit := Nat.two_pow_pos (52 - n.log2)
  have low : 2 ^ 52 ≤ n * 2 ^ (52 - n.log2) := by
    calc 2 ^ 52 = 2 ^ n.log2 * 2 ^ (52 - n.log2) := by
          rw [← Nat.pow_add, Nat.add_sub_cancel' length]
      _ ≤ n * 2 ^ (52 - n.log2) := Nat.mul_le_mul_right _ (Nat.log2_self_le positive.ne')
  have high : n * 2 ^ (52 - n.log2) < 2 ^ 53 := by
    calc n * 2 ^ (52 - n.log2)
        < 2 ^ (n.log2 + 1) * 2 ^ (52 - n.log2) := Nat.mul_lt_mul_of_pos_right Nat.lt_log2_self unit
      _ = 2 ^ 53 := by
          rw [← Nat.pow_add]
          congr 1
          omega
  exact ⟨low, high, by omega, by omega, Or.inr low⟩

/-- The double of an integer of at most fifty-three binary digits is the integer. -/
theorem toBits_ofInt (positive : 0 < n) (small : n < 2 ^ 53) :
    (ofInt n).toBits.toNat = magnitudeBits (n * 2 ^ (52 - n.log2)) ((n.log2 : Int) - 52) := by
  obtain ⟨hidden, fits⟩ := fits_of_lt positive small
  have length := log2_le positive small
  have same : ((n * 2 ^ (52 - n.log2) : Nat) : ℚ) * 2 ^ ((n.log2 : Int) - 52) =
      (n : Nat) / (1 : Nat) := by
    have exponent : (2 : ℚ) ^ (52 - n.log2) * 2 ^ ((n.log2 : Int) - 52) = 1 := by
      rw [← zpow_natCast, ← zpow_add₀ two_ne_zero, Nat.cast_sub length]
      norm_num
    push_cast
    rw [mul_assoc, exponent, mul_one, div_one]
  have inside := contains_self ((n.log2 : Int) - 52) (by omega : 0 < n * 2 ^ (52 - n.log2))
  rw [same] at inside
  have unsigned : decide ((n : Int) < 0) = false := by simp
  unfold ofInt
  rw [unsigned, toNat_toBits_nearest, Int.natAbs_natCast,
    nearestBits_of_contains positive Nat.one_pos fits (by omega) inside, if_neg Bool.false_ne_true,
    Nat.zero_add]

end Whole

section Root

variable {n : Nat}

/-- The binary places behind the point that a root of fifty-three digits has. -/
def rootPlaces (n : Nat) : Nat := 52 - n.log2 / 2

/-- The integer whose root is the root of `n` in units of the last place. -/
def radicand (n : Nat) : Nat := n * (2 ^ rootPlaces n) ^ 2

/-- The root of `n` in units of the last place, rounded to the nearest. -/
def roundedRoot (n : Nat) : Nat :=
  let root := Nat.sqrt (radicand n)
  if radicand n ≤ root ^ 2 + root then root else root + 1

theorem sqrt_radicand_bounds (positive : 0 < n) (small : n < 2 ^ 53) :
    2 ^ 52 ≤ Nat.sqrt (radicand n) ∧ Nat.sqrt (radicand n) < 2 ^ 53 := by
  have length := log2_le positive small
  have places : (2 ^ rootPlaces n) ^ 2 = 2 ^ (104 - n.log2 / 2 * 2) := by
    rw [← Nat.pow_mul]
    unfold rootPlaces
    congr 1
    omega
  have unit := Nat.two_pow_pos (104 - n.log2 / 2 * 2)
  rw [Nat.le_sqrt', Nat.sqrt_lt', radicand, places]
  constructor
  · calc (2 ^ 52) ^ 2 ≤ 2 ^ n.log2 * 2 ^ (104 - n.log2 / 2 * 2) := by
          rw [← Nat.pow_mul, ← Nat.pow_add]
          exact Nat.pow_le_pow_right two_pos (by omega)
      _ ≤ n * 2 ^ (104 - n.log2 / 2 * 2) :=
          Nat.mul_le_mul_right _ (Nat.log2_self_le positive.ne')
  · calc n * 2 ^ (104 - n.log2 / 2 * 2)
        < 2 ^ (n.log2 + 1) * 2 ^ (104 - n.log2 / 2 * 2) :=
          Nat.mul_lt_mul_of_pos_right Nat.lt_log2_self unit
      _ ≤ (2 ^ 53) ^ 2 := by
          rw [← Nat.pow_mul, ← Nat.pow_add]
          exact Nat.pow_le_pow_right two_pos (by omega)

/-- The root's digits before they are rounded, and which way they are. -/
theorem sqrtCore_eq (positive : 0 < n) (small : n < 2 ^ 53) :
    ∃ accuracy, sqrtCore Format.binary64 (n * 2 ^ (52 - n.log2)) ((n.log2 : Int) - 52) =
        (Nat.sqrt (radicand n), -(rootPlaces n : Int), accuracy) ∧
      accuracy.roundToNearestEven (Nat.sqrt (radicand n)) = roundedRoot n := by
  obtain ⟨hidden, fits⟩ := fits_of_lt positive small
  have length := log2_le positive small
  have exponent : min (((n.log2 : Int) - 52).ediv 2) (Format.binary64.targetExponent
      ((totalExponent (n * 2 ^ (52 - n.log2)) ((n.log2 : Int) - 52) + 1).ediv 2)) =
      -(rootPlaces n : Int) := by
    have log := log2_full hidden fits.mantissa_lt
    unfold rootPlaces totalExponent
    rw [log]
    change min (((n.log2 : Int) - 52) / 2)
      (max (((52 : Nat) + 1 + ((n.log2 : Int) - 52) + 1) / 2 - 53) (-1074)) = _
    omega
  have shifted : (n * 2 ^ (52 - n.log2)) <<<
      ((n.log2 : Int) - 52 - 2 * -(rootPlaces n : Int)).toNat = radicand n := by
    rw [Nat.shiftLeft_eq, mul_assoc, ← Nat.pow_add, radicand, ← Nat.pow_mul]
    congr 2
    unfold rootPlaces
    omega
  unfold sqrtCore
  simp only [exponent, shifted]
  refine ⟨_, rfl, ?_⟩
  have below := Nat.sqrt_le' (radicand n)
  unfold roundedRoot
  dsimp only
  rw [← pow_two]
  split_ifs <;> simp only [Accuracy.roundToNearestEven] <;> omega

/-- The root of an integer is its rounded root, with the exponent of the last place or, where
rounding has carried, the next one. -/
theorem exists_parts_sqrt (positive : 0 < n) (small : n < 2 ^ 53) :
    ∃ m e, parts (ofInt n).sqrt = .finite false m e ∧
      (e = -(rootPlaces n : Int) ∧ m = roundedRoot n ∨
        e = -(rootPlaces n : Int) + 1 ∧ 2 * m = roundedRoot n) := by
  obtain ⟨hidden, fits⟩ := fits_of_lt positive small
  obtain ⟨accuracy, core, rounded⟩ := sqrtCore_eq positive small
  obtain ⟨low, high⟩ := sqrt_radicand_bounds positive small
  have least : -1074 ≤ -(rootPlaces n : Int) := by
    unfold rootPlaces
    omega
  obtain ⟨m, e, some_digit, final, fits', hidden', value⟩ :=
    roundWithAccuracy_full accuracy low high least (by omega)
  rw [rounded] at value
  refine ⟨m, e, parts_of_bits fits' hidden' ?_, value⟩
  have unpacked : (ofInt n).toModel.unpack =
      .finite .positive (n * 2 ^ (52 - n.log2)) ((n.log2 : Int) - 52) (by omega) :=
    unpack_of_bits fits hidden (toBits_ofInt positive small)
  have run : (ofInt n).sqrt.toBits.toNat = (pack Format.binary64
      (UnpackedFloat.sqrt Format.binary64 (ofInt n).toModel.unpack)).toNat := rfl
  rw [run, unpacked]
  unfold UnpackedFloat.sqrt
  simp only [core]
  rw [final]
  exact toNat_pack fits' hidden' some_digit

end Root

section Ceiling

variable {n : Nat}

/-- A number is rounded up by less than a unit. -/
theorem ceil?_of_parts {x : Float} {m k : Nat} (h : parts x = .finite false m (-(k : Int))) :
    ∃ c : Nat, ceil? x = some (c : Int) ∧ m ≤ c * 2 ^ k ∧ c * 2 ^ k < m + 2 ^ k := by
  have whole : (-(k : Int)).toNat = 0 := by omega
  have behind : (- -(k : Int)).toNat = k := by omega
  have up : ceil? x = some (-(-(m : Int) / (2 ^ k : Nat))) := by
    unfold ceil?
    rw [h]
    dsimp only
    rw [if_neg Bool.false_ne_true, whole, behind]
    simp only [twoTo, Nat.pow_eq, pow_zero, Nat.cast_one, mul_one]
  have unit : (0 : Int) < (2 ^ k : Nat) := by exact_mod_cast Nat.two_pow_pos k
  have division := Int.mul_ediv_add_emod (-(m : Int)) (2 ^ k : Nat)
  have rest_nonneg := Int.emod_nonneg (-(m : Int)) unit.ne'
  have rest_lt := Int.emod_lt_of_pos (-(m : Int)) unit
  have quotient : -(m : Int) / (2 ^ k : Nat) ≤ 0 :=
    Int.ediv_nonpos_of_nonpos_of_neg (by omega) unit
  obtain ⟨c, hc⟩ := Int.eq_ofNat_of_zero_le (Int.neg_nonneg.mpr quotient)
  refine ⟨c, hc ▸ up, ?_, ?_⟩
  · zify
    rw [← hc]
    push_cast at *
    linarith
  · zify
    rw [← hc]
    push_cast at *
    linarith

theorem ceil?_sqrt (positive : 0 < n) (small : n < 2 ^ 53) :
    ∃ c : Nat, ceil? (ofInt n).sqrt = some (c : Int) ∧ roundedRoot n ≤ c * 2 ^ rootPlaces n ∧
      c * 2 ^ rootPlaces n < roundedRoot n + 2 ^ rootPlaces n := by
  obtain ⟨m, e, parts_root, ⟨rfl, rfl⟩ | ⟨rfl, twice⟩⟩ := exists_parts_sqrt positive small
  · exact ceil?_of_parts parts_root
  · obtain ⟨k, hk⟩ : ∃ k, rootPlaces n = k + 1 := by
      have length := log2_le positive small
      exact ⟨51 - n.log2 / 2, by unfold rootPlaces; omega⟩
    have halved : -(rootPlaces n : Int) + 1 = -(k : Int) := by omega
    rw [halved] at parts_root
    obtain ⟨c, up, low, high⟩ := ceil?_of_parts parts_root
    refine ⟨c, up, ?_, ?_⟩ <;> rw [hk, Nat.pow_succ, ← mul_assoc, ← twice] <;> omega

/-- A root `r` in units of `1 / s` that is rounded up lies between the same integers as the exact
one if the units are fine. One that was rounded down to an integer is that integer, because the
root of the next number is more than half a unit away. -/
theorem square_bounds {s root c r : Nat} (fine : 2 ^ 27 ≤ s) (root_lt : root < 2 ^ 53)
    (below : root ^ 2 ≤ n * s ^ 2) (above : n * s ^ 2 < (root + 1) ^ 2)
    (rounded : r = if n * s ^ 2 ≤ root ^ 2 + root then root else root + 1)
    (low : r ≤ (c + 1) * s) (high : (c + 1) * s < r + s) : c ^ 2 < n ∧ n ≤ (c + 1) ^ 2 := by
  have more : c * s < r := by
    rw [Nat.add_mul] at high
    omega
  split_ifs at rounded with down
  · subst rounded
    constructor
    · apply Nat.lt_of_mul_lt_mul_right (a := s ^ 2)
      calc c ^ 2 * s ^ 2 = (c * s) ^ 2 := (mul_pow ..).symm
        _ < r ^ 2 := Nat.pow_lt_pow_left more two_ne_zero
        _ ≤ n * s ^ 2 := below
    · by_contra beyond
      have close : s ^ 2 ≤ (c + 1) * s := by
        have beyond_square : ((c + 1) ^ 2 + 1) * s ^ 2 ≤ n * s ^ 2 := Nat.mul_le_mul_right _ (by omega)
        have root_le : r ^ 2 ≤ ((c + 1) * s) ^ 2 := Nat.pow_le_pow_left low 2
        rw [Nat.add_mul, one_mul, ← mul_pow] at beyond_square
        omega
      have long : s ≤ c + 1 := by
        rw [pow_two] at close
        exact Nat.le_of_mul_le_mul_right close (by omega)
      have : (2 ^ 27 - 1) * 2 ^ 27 ≤ c * s := Nat.mul_le_mul (by omega) fine
      omega
  · subst rounded
    constructor
    · apply Nat.lt_of_mul_lt_mul_right (a := s ^ 2)
      have : (c * s) ^ 2 ≤ root ^ 2 := Nat.pow_le_pow_left (by omega) 2
      rw [← mul_pow]
      omega
    · apply Nat.le_of_lt
      apply Nat.lt_of_mul_lt_mul_right (a := s ^ 2)
      calc n * s ^ 2 < (root + 1) ^ 2 := above
        _ ≤ ((c + 1) * s) ^ 2 := Nat.pow_le_pow_left low 2
        _ = (c + 1) ^ 2 * s ^ 2 := mul_pow ..

/-- **The root of an integer below `2 ^ 52` is rounded up as if it were exact.** -/
theorem ceil?_sqrt_exact (positive : 0 < n) (small : n < 2 ^ 52) :
    ∃ c : Nat, ceil? (ofInt n).sqrt = some ((c + 1 : Nat) : Int) ∧
      c ^ 2 < n ∧ n ≤ (c + 1) ^ 2 := by
  have small' : n < 2 ^ 53 := small.trans (by norm_num)
  obtain ⟨c, up, low, high⟩ := ceil?_sqrt positive small'
  obtain ⟨root_ge, root_lt⟩ := sqrt_radicand_bounds positive small'
  have fine : 2 ^ 27 ≤ 2 ^ rootPlaces n := by
    have length : n.log2 < 52 := (Nat.log2_lt positive.ne').mpr small
    exact Nat.pow_le_pow_right two_pos (by unfold rootPlaces; omega)
  cases c with
  | zero =>
    unfold roundedRoot at low
    dsimp only at low
    split_ifs at low <;> omega
  | succ c =>
    exact ⟨c, up, square_bounds fine root_lt (Nat.sqrt_le' _) (Nat.lt_succ_sqrt' _) rfl low high⟩

end Ceiling

end Statecraft.Decimal
