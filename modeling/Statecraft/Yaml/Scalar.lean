import Statecraft.Text.Blank
import Statecraft.Text.Digit

/-!
# Kinds of scalars

What an unquoted scalar is: a text, unless it has the form of a truth value, a
number, a time, nothing, or one of the two special keys. The forms are tried in
a fixed order.
-/

namespace Statecraft.Yaml

/-- What a node is. -/
inductive Tag where
  | null
  | bool
  | int
  | float
  | timestamp
  | text
  | binary
  | set
  | pairs
  | orderedPairs
  | list
  | map
  | merge
  | equals
  | unknown (name : String)
  deriving DecidableEq, Repr

namespace Tag

/-- What the names of the standard tags begin with. -/
def standard : String := "tag:yaml.org,2002:"

/-- The short name of a standard tag. -/
def shortName : Tag → String
  | .null => "null"
  | .bool => "bool"
  | .int => "int"
  | .float => "float"
  | .timestamp => "timestamp"
  | .text => "str"
  | .binary => "binary"
  | .set => "set"
  | .pairs => "pairs"
  | .orderedPairs => "omap"
  | .list => "seq"
  | .map => "map"
  | .merge => "merge"
  | .equals => "value"
  | .unknown name => name

def standardTags : List Tag :=
  [.null, .bool, .int, .float, .timestamp, .text, .binary, .set, .pairs, .orderedPairs, .list, .map,
    .merge, .equals]

/-- The tag of a full name. -/
def ofName (name : String) : Tag :=
  ((standardTags.find? fun t => standard ++ t.shortName == name)).getD (.unknown name)

end Tag

/-! ## Forms of numbers and times -/

/-- One or more characters of a class up to the end. -/
def allOf (test : Char → Bool) (s : List Char) : Bool := !s.isEmpty && s.all test

def isDecimalChar (c : Char) : Bool := Text.isAsciiDigit c || c == '_'

def isOctalChar (c : Char) : Bool := ('0' ≤ c && c ≤ '7') || c == '_'

def isBinaryChar (c : Char) : Bool := c == '0' || c == '1' || c == '_'

def isHexChar (c : Char) : Bool := (Text.hexValue? c).isSome || c == '_'

def dropSign : List Char → List Char
  | '+' :: r => r
  | '-' :: r => r
  | r => r

/-- Digits from one to nine first, then digits and underscores. -/
def isDecimalRun : List Char → Bool
  | c :: r => Text.isAsciiDigit c && c != '0' && r.all isDecimalChar
  | [] => false

/-- A part of a number in base sixty: one or two digits below sixty. -/
def isSixtieth (s : List Char) : Bool :=
  match s with
  | [a] => Text.isAsciiDigit a
  | [a, b] => '0' ≤ a && a ≤ '5' && Text.isAsciiDigit b
  | _ => false

/-- The pieces between the occurrences of a character. -/
def splitAt (separator : Char) : List Char → List (List Char)
  | [] => [[]]
  | c :: r =>
    if c == separator then [] :: splitAt separator r
    else
      match splitAt separator r with
      | p :: ps => (c :: p) :: ps
      | [] => [[c]]

def isInt (s : List Char) : Bool :=
  match dropSign s with
  | ['0'] => true
  | '0' :: 'b' :: r => allOf isBinaryChar r
  | '0' :: 'x' :: r => allOf isHexChar r
  | '0' :: r => allOf isOctalChar r
  | r =>
    match splitAt ':' r with
    | [p] => isDecimalRun p
    | p :: ps => isDecimalRun p && ps.all isSixtieth
    | [] => false

/-- An exponent with its sign, or nothing. -/
def isExponent : List Char → Bool
  | [] => true
  | e :: sign :: r => (e == 'e' || e == 'E') && (sign == '+' || sign == '-') && allOf Text.isAsciiDigit r
  | [_] => false

/-- Digits and underscores, a digit first. -/
def startsWithDigit : List Char → Bool
  | c :: _ => Text.isAsciiDigit c
  | [] => false

/-- A number with a point, in base ten with an optional exponent or in base sixty. -/
def isPointed (s : List Char) : Bool :=
  let whole := s.takeWhile (· != '.')
  match s.dropWhile (· != '.') with
  | [] => false
  | _ :: fraction =>
    match splitAt ':' whole with
    | [p] =>
      startsWithDigit p && p.all isDecimalChar && isExponent (fraction.dropWhile isDecimalChar)
    | p :: ps =>
      startsWithDigit p && p.all isDecimalChar && ps.all isSixtieth && fraction.all isDecimalChar
    | [] => false

def isFloat (s : List Char) : Bool :=
  (match s with
    | '.' :: r => startsWithDigit r && isExponent (r.dropWhile isDecimalChar)
    | _ => false)
  || isPointed (dropSign s)
  || [".inf", ".Inf", ".INF"].any (·.toList == dropSign s)
  || [".nan", ".NaN", ".NAN"].any (·.toList == s)

/-- Between `low` and `high` digits in front, and the rest. -/
def digitsOf? (low high : Nat) (s : List Char) : Option (List Char × List Char) :=
  let ds := (s.takeWhile Text.isAsciiDigit).take high
  if low ≤ ds.length then some (ds, s.drop ds.length) else none

/-- The rest after a character that has to be there. -/
def after? (c : Char) : List Char → Option (List Char)
  | x :: r => if x == c then some r else none
  | [] => none

/-- The parts of a time of day. -/
structure Clock where
  hour : List Char
  minute : List Char
  second : List Char
  fraction : List Char
  deriving DecidableEq, Repr

/-- A distance from universal time: none written, universal time itself, or hours and
minutes with a sign. -/
inductive Zone where
  | absent
  | universal
  | offset (negative : Bool) (hours minutes : List Char)
  deriving DecidableEq, Repr

/-- The parts of a written time. -/
structure Stamp where
  year : List Char
  month : List Char
  day : List Char
  clock : Option (Clock × Zone)
  deriving DecidableEq, Repr

def isTab (c : Char) : Bool := c == ' ' || c == '\t'

/-- A zone up to the end, with blanks before it. -/
def zone? (s : List Char) : Option Zone :=
  match s.dropWhile isTab with
  | [] => if s.isEmpty then some .absent else none
  | ['Z'] => some .universal
  | c :: r =>
    if c == '+' || c == '-' then do
      let (hours, r) ← digitsOf? 1 2 r
      match r with
      | [] => some (.offset (c == '-') hours [])
      | _ => do
        let r ← after? ':' r
        let (minutes, r) ← digitsOf? 2 2 r
        if r.isEmpty then some (.offset (c == '-') hours minutes) else none
    else none

/-- A time of day with an optional zone up to the end. -/
def clock? (s : List Char) : Option (Clock × Zone) := do
  let (hour, r) ← digitsOf? 1 2 s
  let r ← after? ':' r
  let (minute, r) ← digitsOf? 2 2 r
  let r ← after? ':' r
  let (second, r) ← digitsOf? 2 2 r
  let (fraction, r) := match r with
    | '.' :: t => (t.takeWhile Text.isAsciiDigit, t.dropWhile Text.isAsciiDigit)
    | t => ([], t)
  let zone ← zone? r
  some (⟨hour, minute, second, fraction⟩, zone)

/-- A written time: a day, or a day and a time of day. A line break at the end does not
count. -/
def Stamp.ofChars? (s : List Char) : Option Stamp := do
  let (year, r) ← digitsOf? 4 4 (Text.dropLineEnd s)
  let r ← after? '-' r
  let (month, r) ← digitsOf? 1 2 r
  let r ← after? '-' r
  let (day, r) ← digitsOf? 1 2 r
  match r with
  | [] => some ⟨year, month, day, none⟩
  | c :: t =>
    let rest ← if c == 'T' || c == 't' then some t
      else if isTab c then some (t.dropWhile isTab) else none
    let clock ← clock? rest
    some ⟨year, month, day, some clock⟩

/-- A text that is a time without being marked so: a lone day needs two digits for
month and day. -/
def isTimestamp (s : List Char) : Bool :=
  match Stamp.ofChars? s with
  | some ⟨_, m, d, none⟩ => m.length == 2 && d.length == 2
  | some _ => true
  | none => false

def truths : List String :=
  ["yes", "Yes", "YES", "true", "True", "TRUE", "on", "On", "ON"]

def falsehoods : List String :=
  ["no", "No", "NO", "false", "False", "FALSE", "off", "Off", "OFF"]

/-- What an unquoted scalar is. A line break at its end does not count. -/
def Tag.ofPlain (scalar : List Char) : Tag :=
  let s := if scalar.length == 1 then scalar else Text.dropLineEnd scalar
  let t := String.ofList s
  if truths.contains t || falsehoods.contains t then .bool
  else if isFloat s then .float
  else if isInt s then .int
  else if t == "<<" then .merge
  else if t.isEmpty || ["~", "null", "Null", "NULL"].contains t then .null
  else if isTimestamp s then .timestamp
  else if t == "=" then .equals
  else .text

end Statecraft.Yaml
