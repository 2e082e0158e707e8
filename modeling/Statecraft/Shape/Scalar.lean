import Statecraft.Shape.Basic
import Statecraft.Decimal.Numeral
import Statecraft.Text.Blank

/-!
# Checks of scalars, lists and mappings

What counts as a text, a number, a truth value, a list or a mapping. Numbers
may come as texts; texts never come as numbers.
-/

namespace Statecraft.Shape

open Statecraft (Document)

/-- A text; a byte string counts if it is UTF-8. -/
def text (d : Document) : Checked String :=
  match d.content with
  | .text s => .ok s
  | .bytes bs =>
    match String.fromUTF8? ⟨bs.toArray⟩ with
    | some s => .ok s
    | none => .fail .notUnicode
  | _ => .fail .notText

/-- The text as a truth value, in any case of its letters. -/
def booleanOf? (s : String) : Option Bool :=
  let t := String.ofList (s.toList.map Char.toLower)
  if ["0", "off", "f", "false", "n", "no"].contains t then some false
  else if ["1", "on", "t", "true", "y", "yes"].contains t then some true
  else none

/-- A text as a truth value. -/
def booleanOfText (s : String) : Checked Bool :=
  match booleanOf? s with
  | some b => .ok b
  | none => .fail .unclearBoolean

/-- Integers from here on do not fit a word of 64 bits. -/
def wordLimit : Int := Decimal.twoTo 63

def fitsWord (n : Int) : Bool := -wordLimit ≤ n && n < wordLimit

/-- An integer as a truth value. -/
def booleanOfInt (n : Int) : Checked Bool :=
  if n == 0 then .ok false
  else if n == 1 then .ok true
  else if fitsWord n then .fail .unclearBoolean
  else .fail .notBoolean

/-- A truth value, or a text, byte string or number that stands for one. A number with a point
has to lie between the limits of a word. -/
def boolean (d : Document) : Checked Bool :=
  match d.content with
  | .bool b => .ok b
  | .int n => booleanOfInt n
  | .float x =>
    match Decimal.toInt? x with
    | some n => if n == -wordLimit then .fail .notBoolean else booleanOfInt n
    | none => .fail .notBoolean
  | .text s => booleanOfText s
  | .bytes bs =>
    match String.fromUTF8? ⟨bs.toArray⟩ with
    | some s => booleanOfText s
    | none => .fail .unclearBoolean
  | _ => .fail .notBoolean

/-- White space around a number that is given as a text. -/
def isNumberSpace (c : Char) : Bool := Text.isBlank c && !(28 ≤ c.toNat && c.toNat ≤ 31)

/-- The text without white space around it. -/
def trimNumber (s : List Char) : List Char :=
  ((s.dropWhile isNumberSpace).reverse.dropWhile isNumberSpace).reverse

/-- The text without the underscores between its characters; none if one stands at
an end or beside another. -/
def dropUnderscores? (s : List Char) : Option (List Char) :=
  let doubled := (s.zip (s.drop 1)).any fun p => p.1 == '_' && p.2 == '_'
  if s.head? == some '_' || s.getLast? == some '_' || doubled then none
  else some (s.filter (· != '_'))

/-- A number in plain ASCII: decimal, or a name of infinity or the undefined number. -/
def readNumber? (s : List Char) : Option Float :=
  let (negative, body) := Decimal.splitSign s
  let name := String.ofList (body.map Char.toLower)
  if name == "inf" || name == "infinity" then some (if negative then -1.0 / 0.0 else 1.0 / 0.0)
  else if name == "nan" then some (0.0 / 0.0)
  else if s.all (·.toNat < 128) then (Decimal.Numeral.ofChars? s).map Decimal.Numeral.toFloat
  else none

/-- A number given as a text: with white space around it, or with underscores in it. -/
def numberOf? (s : String) : Option Float :=
  let cs := s.toList
  match readNumber? (trimNumber cs) with
  | some x => some x
  | none => (dropUnderscores? cs).bind readNumber?

/-- A number, a truth value or a text that writes a number. -/
def number (d : Document) : Checked Float :=
  match d.content with
  | .bool b => .ok (if b then 1.0 else 0.0)
  | .int n =>
    let x := Decimal.ofInt n
    if Decimal.isFinite x then .ok x else .fail .notNumber
  | .float x => .ok x
  | .text s =>
    match numberOf? s with
    | some x => .ok x
    | none => .fail .unclearNumber
  | .bytes bs =>
    match (String.fromUTF8? ⟨bs.toArray⟩).bind numberOf? with
    | some x => .ok x
    | none => .fail .unclearNumber
  | _ => .fail .notNumber

/-- A list's items. -/
def list (d : Document) : Checked (List Document) :=
  match d.content with
  | .list items => .ok items
  | .set items => .ok items
  | _ => .fail .notList

/-- A tuple's items, which a list also gives. -/
def tuple (d : Document) : Checked (List Document) :=
  match d.content with
  | .list items => .ok items
  | .set items => .ok items
  | _ => .fail .notTuple

/-- A list of texts. -/
def texts (d : Document) : Checked (List String) :=
  (list d).andThen (Checked.items text)

/-- A mapping's entries, reported as a missing record of the given name. -/
def record (name : String) (d : Document) : Checked Document.Entries :=
  match d.content with
  | .map entries => .ok entries
  | _ => .fail (.notModel name)

/-- A key that has to be there. -/
def required (entries : Document.Entries) (key : String) (check : Document → Checked α) :
    Checked α :=
  match Document.Entries.get? entries key with
  | some d => (check d).atKey key
  | none => (Checked.fail .missing).atKey key

/-- A key that has a value of its own if it is not there. -/
def optional (entries : Document.Entries) (key : String) (absent : α)
    (check : Document → Checked α) : Checked α :=
  match Document.Entries.get? entries key with
  | some d => (check d).atKey key
  | none => .ok absent

/-- One of the given names. -/
def oneOf (names : List String) (of : String → Option α) (kind : List String → Kind)
    (d : Document) : Checked α :=
  match d.content with
  | .text s =>
    match of s with
    | some a => .ok a
    | none => .fail (kind names)
  | _ => .fail (kind names)

end Statecraft.Shape
