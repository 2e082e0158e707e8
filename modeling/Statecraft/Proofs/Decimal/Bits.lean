import Mathlib
import Statecraft.Decimal.Binary

/-!
# Doubles and their bits

A bit pattern other than an undefined number is that of the double it makes (`toBits_ofBits`),
and the bits of a finite double are what its parts count up to (`parts_eq_finite`).
-/

namespace Statecraft.Decimal

open Float.Model (Format)
open Float.Model.UnpackedFloat

section
variable (b : BitVec Format.binary64.numBits)

theorem toNat_unpackMantissa : (unpackMantissa b).toNat = b.toNat % 2 ^ 52 := by
  simp [unpackMantissa]

theorem toNat_unpackExponent : (unpackExponent b).toNat = b.toNat / 2 ^ 52 % 2 ^ 11 := by
  simp [unpackExponent, Nat.shiftRight_eq_div_pow]

end

/-- A pattern of all but the undefined numbers is that of the double it makes. -/
theorem toBits_ofBits {a : UInt64}
    (h : a.toNat / twoTo 52 % twoTo 11 = 2047 → a.toNat % twoTo 52 = 0) :
    (Float.ofBits a).toBits = a := by
  have number : @isNaNBits Format.binary64 a.toBitVec = false := by
    rw [isNaNBits, decide_eq_false_iff_not]
    rintro ⟨top, some_mantissa⟩
    apply some_mantissa
    apply BitVec.eq_of_toNat_eq
    rw [toNat_unpackMantissa]
    apply h
    have field := congrArg BitVec.toNat top
    rw [toNat_unpackExponent] at field
    exact field
  have packed := @pack_unpack Format.binary64 a.toBitVec (by decide)
  rw [number] at packed
  exact congrArg UInt64.ofBitVec packed

/-- What the parts of a finite double can be: the mantissa has a hidden bit, unless the exponent
is the least one. -/
structure Fits (m : Nat) (e : Int) : Prop where
  mantissa_lt : m < 2 ^ 53
  least_le : -1074 ≤ e
  le_greatest : e ≤ 971
  normal : e = -1074 ∨ 2 ^ 52 ≤ m

/-- The bits of a positive double with these parts. -/
def magnitudeBits (m : Nat) (e : Int) : Nat := (e + 1074).toNat * 2 ^ 52 + m

theorem Fits.magnitudeBits_lt {m : Nat} {e : Int} (h : Fits m e) :
    magnitudeBits m e < 2047 * 2 ^ 52 := by
  have := h.mantissa_lt
  have := h.least_le
  have := h.le_greatest
  unfold magnitudeBits
  omega

theorem parts_eq_finite {x : Float} {negative : Bool} {m : Nat} {e : Int}
    (h : parts x = .finite negative m e) :
    Fits m e ∧ x.toBits.toNat = (if negative then 2 ^ 63 else 0) + magnitudeBits m e := by
  have bound : x.toBits.toNat < 2 ^ 64 := x.toBits.toBitVec.isLt
  unfold parts twoTo at h
  simp only [Nat.pow_eq, beq_iff_eq] at h
  have sign : ∀ n : Nat, n < 2 ^ 64 → (if (n / 2 ^ 63 == 1) = true then 2 ^ 63 else 0) =
      n / 2 ^ 63 * 2 ^ 63 := by
    intro n hn
    by_cases hs : n / 2 ^ 63 = 1
    · rw [hs]
      rfl
    · have none : n / 2 ^ 63 = 0 := by omega
      rw [none]
      rfl
  unfold magnitudeBits
  split at h
  · split at h <;> cases h
  split at h
  · rename_i bottom
    obtain ⟨rfl, rfl, rfl⟩ := Parts.finite.inj h
    rw [sign _ bound]
    refine ⟨⟨?_, ?_, ?_, Or.inl rfl⟩, ?_⟩ <;> omega
  · obtain ⟨rfl, rfl, rfl⟩ := Parts.finite.inj h
    rw [sign _ bound]
    refine ⟨⟨?_, ?_, ?_, Or.inr ?_⟩, ?_⟩ <;> omega

theorem parts_nan : parts Float.nan = .nan := by decide +kernel

theorem isNaN_of_parts {x : Float} (h : parts x ≠ .nan) : x.isNaN = false := by
  rw [Float.isNaN_eq_decide_eq_nan, decide_eq_false_iff_not]
  rintro rfl
  exact h parts_nan

/-- A number equals itself; the undefined one does not. -/
theorem beq_self {x : Float} (h : x.isNaN = false) : (x == x) = true := by
  rw [Float.isNaN_eq_decide_eq_nan, decide_eq_false_iff_not] at h
  exact Float.beq_self_iff.mpr h

end Statecraft.Decimal
