/-!
# Floating-point numbers as exact rationals

A finite double is `± mantissa * 2 ^ exponent`. `parts` takes a number apart
and `nearest` goes back from any non-negative rational to the closest double,
a tie going to the even mantissa. Both are exact integer arithmetic on the bit
pattern.
-/

namespace Statecraft.Decimal

/-- A power of two. -/
def twoTo (n : Nat) : Nat := Nat.pow 2 n

/-- A power of ten. -/
def tenTo (n : Nat) : Nat := Nat.pow 10 n

/-- A number taken apart. Zero has mantissa zero. -/
inductive Parts where
  | nan
  | infinite (negative : Bool)
  | finite (negative : Bool) (mantissa : Nat) (exponent : Int)
  deriving DecidableEq, Repr

/-- The parts of a double: a normal number has the hidden bit `2 ^ 52`, a
subnormal one the least exponent. -/
def parts (x : Float) : Parts :=
  let bits : Nat := x.toBits.toNat
  let negative := bits / twoTo 63 == 1
  let e : Nat := bits / twoTo 52 % twoTo 11
  let f : Nat := bits % twoTo 52
  if e == 2047 then (if f == 0 then .infinite negative else .nan)
  else if e == 0 then .finite negative f (-1074)
  else .finite negative (f + twoTo 52) ((e : Int) - 1075)

/-- The quotient rounded to the nearest integer, a tie to the even one. -/
def roundDiv (num den : Nat) : Nat :=
  let q := num / den
  let r := num % den
  if 2 * r < den then q
  else if den < 2 * r then q + 1
  else if q % 2 == 0 then q else q + 1

/-- `num / (den * 2 ^ e)` as a pair of naturals. -/
def scaleTwo (num den : Nat) (e : Int) : Nat × Nat :=
  (num * twoTo (-e).toNat, den * twoTo e.toNat)

/-- The exponent at which `num / den` has a mantissa below `2 ^ 53`, and one of
at least `2 ^ 52` unless that exponent is the least one. -/
def exponentFor (num den : Nat) : Int :=
  let guess : Int := (Nat.log2 num : Int) - (Nat.log2 den : Int) - 52
  let (n, d) := scaleTwo num den guess
  max (-1074) (if n < d * twoTo 52 then guess - 1 else guess)

/-- The bits of the positive double closest to `num / den`. A mantissa that
rounds up to `2 ^ 53` carries into the exponent field. -/
def nearestBits (num den : Nat) : Nat :=
  if num == 0 then 0
  else
    let e := exponentFor num den
    let (n, d) := scaleTwo num den e
    min ((e + 1074).toNat * twoTo 52 + roundDiv n d) (2047 * twoTo 52)

/-- The double closest to `± num / den`, infinite from half a unit above the
greatest one. -/
def nearest (negative : Bool) (num den : Nat) : Float :=
  Float.ofBits (UInt64.ofNat ((if negative then twoTo 63 else 0) + nearestBits num den))

/-- The double closest to an integer. -/
def ofInt (n : Int) : Float := nearest (n < 0) n.natAbs 1

/-- Above `10 ^ 400` and below `10 ^ -400` every double overflows or vanishes. -/
def exponentLimit : Int := 400

/-- The double closest to `± digits * 10 ^ exponent`. -/
def ofDecimal (negative : Bool) (digits : Nat) (exponent : Int) : Float :=
  let size : Int := (Nat.log2 digits : Int) * 30103 / 100000 + exponent
  if digits == 0 || size < -exponentLimit then nearest negative 0 1
  else if exponentLimit < size then nearest negative (tenTo 400) 1
  else nearest negative (digits * tenTo exponent.toNat) (tenTo (-exponent).toNat)

/-- Neither infinite nor the undefined number. -/
def isFinite (x : Float) : Bool :=
  match parts x with
  | .finite .. => true
  | _ => false

/-- The integer that a finite number equals, if it equals one. -/
def toInt? (x : Float) : Option Int :=
  match parts x with
  | .finite negative m e =>
    let sign : Int := if negative then -1 else 1
    if 0 ≤ e then some (sign * ((m * twoTo e.toNat : Nat) : Int))
    else if m % twoTo (-e).toNat == 0 then some (sign * ((m / twoTo (-e).toNat : Nat) : Int))
    else none
  | _ => none

/-- The least integer that is not below a finite number. -/
def ceil? (x : Float) : Option Int :=
  match parts x with
  | .finite negative m e =>
    let digits : Int := if negative then -m else m
    some (-(-(digits * twoTo e.toNat) / twoTo (-e).toNat))
  | _ => none

/-- A finite number and an integer are the same number. -/
def equalsInt (x : Float) (n : Int) : Bool := toInt? x == some n

end Statecraft.Decimal
