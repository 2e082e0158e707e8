import Statecraft.Decimal.Rounded

/-!
# Writing floating-point numbers

One function writes a decimal of a number; a `Style` holds what the formats decide
differently.
-/

namespace Statecraft.Decimal

/-- What a format decides about the text of a number. -/
structure Style where
  /-- The number of digits to round to; none takes the shortest decimal that reads back. -/
  precision : Option Nat
  /-- What a whole number ends in that is written out. -/
  wholeEnd : String
  /-- The point may stand this many places before the first digit and still be written out. -/
  leadingZeros : Nat
  /-- The greatest number of digits before the point that is written out. -/
  wholeDigits : Nat
  /-- A number in exponent form has a point even if it has one digit. -/
  pointInExponentForm : Bool
  /-- A plus sign before a positive exponent. -/
  exponentPlus : Bool
  /-- The exponent has at least this many digits. -/
  exponentWidth : Nat
  /-- The spelling of the undefined number. -/
  nan : String
  /-- The spelling of infinity, to which a minus is added. -/
  infinity : String
  deriving DecidableEq, Repr

/-- Digits to the given count, filled with zeros on the left. -/
def padLeft (width : Nat) (s : List Char) : List Char :=
  List.replicate (width - s.length) '0' ++ s

/-- The decimal digits of a natural number. -/
def natDigits (n : Nat) : List Char := (Nat.toDigits 10 n)

/-- The decimal text of a natural number. -/
def natText (n : Nat) : String := String.ofList (natDigits n)

theorem natText_injective {m n : Nat} (h : natText m = natText n) : m = n := by
  have hd : Nat.toDigits 10 m = Nat.toDigits 10 n := String.ofList_injective h
  simpa using congrArg (Nat.ofDigitChars 10 · 0) hd

/-- The decimal text of an integer. -/
def intText (n : Int) : String :=
  String.ofList (if n < 0 then '-' :: natDigits n.natAbs else natDigits n.natAbs)

/-- The greatest number of digits of an integer that is read or written. -/
def digitLimit : Nat := 4300

/-- The integer's text stays within the limit. -/
def isWritable (n : Int) : Bool := n.natAbs < tenTo digitLimit

/-- An integer passes the limit, as a text of so many digits or as a number. -/
inductive LimitError where
  | reading (digits : Nat)
  | writing
  deriving DecidableEq, Repr

def LimitError.message (e : LimitError) : String :=
  let found := match e with
    | .reading digits => ": value has " ++ intText digits ++ " digits"
    | .writing => ""
  "Exceeds the limit (" ++ intText digitLimit ++ " digits) for integer string conversion" ++ found
    ++ "; use sys.set_int_max_str_digits() to increase the limit"

/-- The digits without the zeros at the end, and the exponent raised by their number. -/
def dropZeros (digits : List Char) (exponent : Int) : List Char × Int :=
  let kept := (digits.reverse.dropWhile (· == '0')).reverse
  (kept, exponent + (digits.length - kept.length : Nat))

/-- The exponent's text with sign and width. -/
def Style.exponentText (style : Style) (e : Int) : List Char :=
  let sign := if e < 0 then ['-'] else if style.exponentPlus then ['+'] else []
  'e' :: sign ++ padLeft style.exponentWidth (natDigits e.natAbs)

/-- The text of the positive decimal `digits * 10 ^ exponent`. -/
def Style.positive (style : Style) (d : Digits) : List Char :=
  let (ds, e) := dropZeros (natDigits d.digits) d.exponent
  let point : Int := ds.length + e
  if -(style.leadingZeros : Int) < point && point ≤ style.wholeDigits then
    if point ≤ 0 then '0' :: '.' :: List.replicate (-point).toNat '0' ++ ds
    else if ds.length ≤ point.toNat then
      ds ++ List.replicate (point.toNat - ds.length) '0' ++ style.wholeEnd.toList
    else ds.take point.toNat ++ '.' :: ds.drop point.toNat
  else
    let fraction := if ds.length == 1 then (if style.pointInExponentForm then ['.', '0'] else [])
      else '.' :: ds.drop 1
    ds.take 1 ++ fraction ++ style.exponentText (point - 1)

/-- The text of a number. -/
def Style.text (style : Style) (x : Float) : String :=
  match parts x with
  | .nan => style.nan
  | .infinite negative => if negative then "-" ++ style.infinity else style.infinity
  | .finite negative m e =>
    let digits := match style.precision with
      | none => shortest m e
      | some count => rounded count m e
    let body := if m == 0 then '0' :: style.wholeEnd.toList else style.positive digits
    String.ofList (if negative then '-' :: body else body)

/-- Numbers in guards and messages: written out from `0.0001` up to sixteen
digits before the point, otherwise with an exponent of two digits or more. -/
def plain : Style where
  precision := none
  wholeEnd := ".0"
  leadingZeros := 4
  wholeDigits := 16
  pointInExponentForm := false
  exponentPlus := true
  exponentWidth := 2
  nan := "nan"
  infinity := "inf"

/-- Numbers in tables: rounded to six digits, a whole one without a point, written out below a
million. -/
def brief : Style := { plain with precision := some 6, wholeEnd := "", wholeDigits := 6 }

end Statecraft.Decimal
