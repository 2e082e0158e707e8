import Statecraft.Decimal.Binary

/-!
# The shortest decimal that reads back

The reals that round to `m * 2 ^ e` form an interval around it, whose ends
belong to it when `m` is even. `shortest` finds the coarsest power of ten with a
multiple in that interval and, of the two multiples next to the number, takes
the nearer one.
-/

namespace Statecraft.Decimal

/-- A positive decimal `digits * 10 ^ exponent`. -/
structure Digits where
  digits : Nat
  exponent : Int
  deriving DecidableEq, Repr

/-- The interval that rounds to a double, in units of `2 ^ exponent`: from `low`
to `high` around `middle`. -/
structure Interval where
  low : Nat
  middle : Nat
  high : Nat
  exponent : Int
  closed : Bool
  deriving DecidableEq, Repr

/-- Half a unit on either side, in quarter units; below a power of two the
neighbour is half as far. -/
def intervalOf (m : Nat) (e : Int) : Interval where
  low := if m == twoTo 52 && e != -1074 then 4 * m - 1 else 4 * m - 2
  middle := 4 * m
  high := 4 * m + 2
  exponent := e - 2
  closed := m % 2 == 0

/-- `d * 10 ^ k` and `n * 2 ^ e` over a common denominator. -/
def sameScale (d : Nat) (k : Int) (n : Nat) (e : Int) : Nat × Nat :=
  (d * tenTo k.toNat * twoTo (-e).toNat, n * twoTo e.toNat * tenTo (-k).toNat)

/-- The positive decimal `d * 10 ^ k` rounds to the interval's middle. -/
def Interval.holds (i : Interval) (d : Nat) (k : Int) : Bool :=
  let (a, low) := sameScale d k i.low i.exponent
  let (b, high) := sameScale d k i.high i.exponent
  d != 0 && (if i.closed then low ≤ a && b ≤ high else low < a && b < high)

/-- The multiple of `10 ^ k` in the interval that is nearest to its middle among
the two next to it; of two equally near ones the even one. -/
def Interval.multiple? (i : Interval) (k : Int) : Option Nat :=
  let (unit, x) := sameScale 1 k i.middle i.exponent
  let below := x / unit
  let rest := x % unit
  let above := below + 1
  match i.holds below k, i.holds above k with
  | true, true =>
    if 2 * rest < unit then some below
    else if unit < 2 * rest then some above
    else if below % 2 == 0 then some below else some above
  | true, false => some below
  | false, true => some above
  | false, false => none

/-- The first hit among `k, k - 1, …`, at most `fuel` of them. -/
def Interval.search (i : Interval) : Nat → Int → Option Digits
  | 0, _ => none
  | fuel + 1, k =>
    match i.multiple? k with
    | some d => some ⟨d, k⟩
    | none => i.search fuel (k - 1)

/-- A power of ten above `m * 2 ^ e`. -/
def powerAbove (m : Nat) (e : Int) : Int :=
  ((Nat.log2 m : Int) + 1 + e) * 30103 / 100000 + 2

/-- The shortest decimal that rounds to the positive double `m * 2 ^ e`. Among
twenty-four powers of ten below the number one always has a multiple in the
interval, so the default is not reached. -/
def shortest (m : Nat) (e : Int) : Digits :=
  ((intervalOf m e).search 24 (powerAbove m e)).getD ⟨m, 0⟩

end Statecraft.Decimal
