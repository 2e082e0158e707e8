import Statecraft.Document.Calendar
import Statecraft.Text.Quoted

/-!
# Documents in messages

How a message shows a value: texts in quotes, lists in brackets, mappings in
braces.
-/

namespace Statecraft.Document

/-- A day in messages. -/
def displayDate (d : Date) : String :=
  "datetime.date(" ++ ", ".intercalate ([d.year, d.month, d.day].map Decimal.natText) ++ ")"

/-- A distance from universal time in messages; one to the west is a day back and some seconds
forward. -/
def displayOffset (offset : Int) : String :=
  if offset == 0 then "datetime.timezone.utc"
  else
    let days := if offset < 0 then "days=-1, " else ""
    "datetime.timezone(datetime.timedelta(" ++ days ++ "seconds="
      ++ Decimal.intText (offset % 86400) ++ "))"

/-- A time in messages, without seconds and microseconds that are zero. -/
def displayMoment (t : Moment) : String :=
  let seconds := if t.microsecond != 0 then [t.second, t.microsecond]
    else if t.second != 0 then [t.second] else []
  let parts := [t.date.year, t.date.month, t.date.day, t.hour, t.minute] ++ seconds
  let offset := (t.offset.map fun o => ", tzinfo=" ++ displayOffset o).getD ""
  "datetime.datetime(" ++ ", ".intercalate (parts.map Decimal.natText) ++ offset ++ ")"

/-- A byte string in messages. -/
def displayBytes (bs : List UInt8) : String :=
  let chars := bs.map fun b => Char.ofNat b.toNat
  let q := Text.quoteFor chars
  let shown := fun c : Char =>
    if c.toNat < 127 then Text.quotedChar q c else Text.escapeByNumber c
  String.ofList ('b' :: q :: chars.flatMap shown ++ [q])

mutual

/-- A value as messages show it. -/
def display : Document → String
  | .null => "None"
  | .bool b => if b then "True" else "False"
  | .int n => Decimal.intText n
  | .float x => Decimal.plain.text x
  | .text s => Text.quoted s
  | .date d => displayDate d
  | .moment t => displayMoment t
  | .bytes bs => displayBytes bs
  | .set [] => "set()"
  | .set ms => "\x7b" ++ ", ".intercalate (displayList ms) ++ "\x7d"
  | .list items => "[" ++ ", ".intercalate (displayList items) ++ "]"
  | .map entries => "\x7b" ++ ", ".intercalate (displayEntries entries) ++ "\x7d"
  | .shared _ d => d.display

def displayList : List Document → List String
  | [] => []
  | d :: r => d.display :: displayList r

def displayEntries : Entries → List String
  | [] => []
  | (k, v) :: r => (k.display ++ ": " ++ v.display) :: displayEntries r

end

/-- A value as part of a sentence: a text without quotes, all else as `display`. -/
def inSentence (d : Document) : String :=
  match d.content with
  | .text s => s
  | d => d.display

end Statecraft.Document
