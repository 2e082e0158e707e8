import Statecraft.Document.Basic

/-!
# Days and times

Which dates exist, and the texts of dates and times.
-/

namespace Statecraft

/-- The number of days of a month. -/
def daysIn (year month : Nat) : Nat :=
  if month == 2 then (if isLeapYear year then 29 else 28)
  else if month == 4 || month == 6 || month == 9 || month == 11 then 30 else 31

/-- A number in at least `width` digits. -/
def paddedText (width n : Nat) : String :=
  String.ofList (Decimal.padLeft width (Decimal.natDigits n))

/-- `2024-01-31`. -/
def Date.text (d : Date) : String :=
  paddedText 4 d.year ++ "-" ++ paddedText 2 d.month ++ "-" ++ paddedText 2 d.day

/-- An offset as `+01:00`, with seconds only if there are any. -/
def offsetText (offset : Int) : String :=
  let n := offset.natAbs
  let seconds := if n % 60 == 0 then "" else ":" ++ paddedText 2 (n % 60)
  (if offset < 0 then "-" else "+") ++ paddedText 2 (n / 3600) ++ ":" ++ paddedText 2 (n / 60 % 60)
    ++ seconds

/-- `2024-01-31T10:20:30.000500+01:00`, with the given text between day and time. -/
def Moment.text (t : Moment) (separator : String) : String :=
  let fraction := if t.microsecond == 0 then "" else "." ++ paddedText 6 t.microsecond
  t.date.text ++ separator ++ paddedText 2 t.hour ++ ":" ++ paddedText 2 t.minute ++ ":"
    ++ paddedText 2 t.second ++ fraction ++ (t.offset.map offsetText).getD ""

end Statecraft
