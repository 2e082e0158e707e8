import Statecraft.Decimal.Shortest

/-!
# Decimals of a given number of digits

A number rounded to so many digits, a tie going to the even last digit.
-/

namespace Statecraft.Decimal

/-- The number in multiples of the first of `10 ^ k`, `10 ^ (k - 1)`, … that it has
`count` digits of, among at most `fuel` more. -/
def roundedFrom (count m : Nat) (e : Int) : Nat → Int → Digits
  | 0, k =>
    let (unit, x) := sameScale 1 k m e
    ⟨roundDiv x unit, k⟩
  | fuel + 1, k =>
    let (unit, x) := sameScale 1 k m e
    if unit * tenTo (count - 1) ≤ x then ⟨roundDiv x unit, k⟩ else roundedFrom count m e fuel (k - 1)

/-- The positive double `m * 2 ^ e` rounded to `count` digits. The power of ten above it is at
most four too high. -/
def rounded (count m : Nat) (e : Int) : Digits :=
  roundedFrom count m e 4 (powerAbove m e - count)

end Statecraft.Decimal
