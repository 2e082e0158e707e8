import Statecraft.Decimal.Binary
import Statecraft.Text.Digit

/-!
# Reading numerals

A numeral is an optional sign, digits with at most one point, and an optional
exponent. Digits of every script are understood.
-/

namespace Statecraft.Decimal

open Statecraft.Text (isDigit ofDigits)

/-- A numeral taken apart: sign, the digits before and after the point, whether a
point or an exponent was written, and the exponent. -/
structure Numeral where
  negative : Bool
  whole : List Char
  fraction : List Char
  integral : Bool
  exponent : Int
  deriving DecidableEq, Repr

/-- An optional sign, and the rest. -/
def splitSign : List Char → Bool × List Char
  | '-' :: r => (true, r)
  | '+' :: r => (false, r)
  | r => (false, r)

/-- The exponent part of a numeral: nothing, or `e`, an optional sign and digits
up to the end. -/
def exponent? : List Char → Option (Option Int)
  | [] => some none
  | c :: r =>
    if c == 'e' || c == 'E' then
      let (negative, ds) := splitSign r
      if !ds.isEmpty && ds.all isDigit then
        let n : Int := ofDigits ds
        some (some (if negative then -n else n))
      else none
    else none

/-- The numeral that the whole text writes: `12`, `12.`, `12.5`, `.5`, each with
an optional exponent. -/
def Numeral.ofChars? (s : List Char) : Option Numeral := do
  let (negative, body) := splitSign s
  let whole := body.takeWhile isDigit
  let rest := body.dropWhile isDigit
  let (fraction, tail, point) := match rest with
    | '.' :: r => (r.takeWhile isDigit, r.dropWhile isDigit, true)
    | r => ([], r, false)
  if whole.isEmpty && fraction.isEmpty then none
  else
    let e ← exponent? tail
    some ⟨negative, whole, fraction, !point && e.isNone, e.getD 0⟩

/-- The integer before the point, with its sign. -/
def Numeral.toInt (n : Numeral) : Int :=
  let m : Int := ofDigits n.whole
  if n.negative then -m else m

/-- The closest double. -/
def Numeral.toFloat (n : Numeral) : Float :=
  ofDecimal n.negative (ofDigits (n.whole ++ n.fraction)) (n.exponent - n.fraction.length)

end Statecraft.Decimal
