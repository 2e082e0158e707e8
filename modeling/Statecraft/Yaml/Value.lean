import Statecraft.Yaml.Node
import Statecraft.Decimal.Numeral
import Statecraft.Document.Calendar
import Statecraft.Text.Blank
import Statecraft.Text.Case

/-!
# Values of YAML nodes

What nodes mean as documents. A map's merge keys bring in the entries of other
maps, before its own. Nodes that occur at several places become shared values.
-/

namespace Statecraft.Yaml

/-! ## Scalars -/

/-- What may stand in front of the digits of a number that is known to be in a base. -/
def baseMark (base : Nat) : List (List Char) :=
  if base == 16 then ["0x".toList, "0X".toList]
  else if base == 8 then ["0o".toList, "0O".toList]
  else if base == 2 then ["0b".toList, "0B".toList]
  else []

/-- The value of a digit: a hexadecimal one, or a decimal one of any script. -/
def anyDigit? (c : Char) : Option Nat := Text.hexValue? c <|> Text.digitValue? c

/-- An integer in a base: digits after a sign and the base's mark, with blanks around. -/
def intIn (base : Nat) (s : List Char) : Result Int :=
  let (negative, body) := Decimal.splitSign (Text.trim s)
  let ds := if (baseMark base).contains (body.take 2) then body.drop 2 else body
  let valid := fun c => (anyDigit? c).any (· < base)
  if ds.isEmpty || !ds.all valid then .error (.notInteger (String.ofList s) base)
  else if base == 10 && Decimal.digitLimit < ds.length then .error (.limit (.reading ds.length))
  else
    let n : Int := ds.foldl (fun n c => n * base + (anyDigit? c).getD 0) 0
    .ok (if negative then -n else n)

/-- The value of parts in base sixty, the last one counting once. -/
def sixty (parts : List Int) : Int := parts.foldl (fun n p => n * 60 + p) 0

def sixtyFloat (parts : List Float) : Float :=
  (parts.reverse.foldl (fun (p : Float × Float) d => (p.1 + d * p.2, p.2 * 60)) (0, 1)).1

/-- Each of the results, or the first fault. -/
def all : List (Result α) → Result (List α)
  | [] => .ok []
  | .ok a :: r => (all r).map (a :: ·)
  | .error e :: _ => .error e

/-- An integer: binary, octal, hexadecimal, decimal or in base sixty, underscores not
counting. -/
def int (s : List Char) : Result Int :=
  let s := s.filter (· != '_')
  let (negative, body) := Decimal.splitSign s
  let signed := fun (n : Int) => if negative then -n else n
  match s, body with
  | [], _ => .error .emptyNumber
  | _, [] => .error .emptyNumber
  | _, ['0'] => .ok 0
  | _, '0' :: 'b' :: r => (intIn 2 r).map signed
  | _, '0' :: 'x' :: r => (intIn 16 r).map signed
  | _, '0' :: r => (intIn 8 ('0' :: r)).map signed
  | _, body =>
    if body.contains ':' then
      (all ((splitAt ':' body).map (intIn 10))).map fun ps => signed (sixty ps)
    else (intIn 10 body).map signed

/-- A decimal numeral or a name of infinity or the undefined number, with blanks around. -/
def numeral (s : List Char) : Result Float :=
  let t := Text.trim s
  let (negative, body) := Decimal.splitSign t
  let name := String.ofList (body.map Char.toLower)
  if name == "inf" || name == "infinity" then .ok (if negative then -1.0 / 0.0 else 1.0 / 0.0)
  else if name == "nan" then .ok (0.0 / 0.0)
  else
    match Decimal.Numeral.ofChars? t with
    | some n => .ok n.toFloat
    | none => .error (.notNumber (String.ofList s))

/-- A number with a point: decimal, infinite, undefined or in base sixty, underscores
not counting. -/
def float (s : List Char) : Result Float :=
  let s := (Text.lower (String.ofList (s.filter (· != '_')))).toList
  let (negative, body) := Decimal.splitSign s
  let signed := fun (x : Float) => if negative then -x else x
  if s.isEmpty then .error .emptyNumber
  else if body == ".inf".toList then .ok (signed (1.0 / 0.0))
  else if body == ".nan".toList then .ok (0.0 / 0.0)
  else if body.contains ':' then
    (all ((splitAt ':' body).map numeral)).map fun ps => signed (sixtyFloat ps)
  else (numeral body).map signed

/-- A truth value, in any case of its letters. -/
def bool (s : List Char) : Result Bool :=
  let t := Text.lower (String.ofList s)
  if ["yes", "true", "on"].contains t then .ok true
  else if ["no", "false", "off"].contains t then .ok false
  else .error (.unknownTruth t)

/-- The value of a character of base sixty-four. -/
def sextet? (c : Char) : Option Nat :=
  if 'A' ≤ c && c ≤ 'Z' then some (c.toNat - 65)
  else if 'a' ≤ c && c ≤ 'z' then some (c.toNat - 71)
  else if Text.isAsciiDigit c then some (c.toNat + 4)
  else if c == '+' then some 62
  else if c == '/' then some 63
  else none

/-- The bytes of groups of four characters; a last group lacks one or two. -/
def bytesOf : List Nat → List UInt8
  | a :: b :: c :: d :: r =>
    let n := ((a * 64 + b) * 64 + c) * 64 + d
    UInt8.ofNat (n / 65536) :: UInt8.ofNat (n / 256 % 256) :: UInt8.ofNat (n % 256) :: bytesOf r
  | [a, b, c] =>
    let n := (a * 64 + b) * 64 + c
    [UInt8.ofNat (n / 1024), UInt8.ofNat (n / 4 % 256)]
  | [a, b] => [UInt8.ofNat ((a * 64 + b) / 16)]
  | _ => []

/-- The sextets up to the padding that completes a group, or to the end, and whether the last
group is complete. Other characters do not count, and padding that something comes after
is none. `pads` are the padding characters since the last of the `count` sextets. -/
def sextetsOf (count pads : Nat) : List Char → List Nat × Bool
  | [] => ([], count % 4 == 0)
  | c :: r =>
    if c == '=' then
      if 2 ≤ count % 4 && 4 ≤ count % 4 + pads + 1 then ([], true)
      else sextetsOf count (if 2 ≤ count % 4 then pads + 1 else pads) r
    else
      match sextet? c with
      | some n =>
        let (ns, complete) := sextetsOf (count + 1) 0 r
        (n :: ns, complete)
      | none => sextetsOf count pads r

/-- Bytes in base sixty-four. -/
def binary (s : List Char) : Result (List UInt8) :=
  if s.any (127 < ·.toNat) then .error .malformed
  else
    let (ns, complete) := sextetsOf 0 0 s
    if complete then .ok (bytesOf ns) else .error .malformed

/-- The offset of a zone in seconds. -/
def offset : Zone → Result (Option Int)
  | .absent => .ok none
  | .universal => .ok (some 0)
  | .offset negative hours minutes =>
    let n : Int := Text.ofDigits hours * 3600 + Text.ofDigits minutes * 60
    if 86400 ≤ n then
      .error (.badTime ("offset must be a timedelta strictly between -timedelta(hours=24) and "
        ++ "timedelta(hours=24), not datetime.timedelta(" ++ timedelta (if negative then -n else n)
        ++ ")."))
    else .ok (some (if negative then -n else n))
where
  timedelta (n : Int) : String :=
    let seconds := n % 86400
    "days=" ++ Decimal.intText (n / 86400)
      ++ (if seconds == 0 then "" else ", seconds=" ++ Decimal.intText seconds)

/-- A day that exists. -/
def date (year month day : Nat) : Result Date :=
  if year == 0 then .error (.badTime "year 0 is out of range")
  else if month == 0 || 12 < month then .error (.badTime "month must be in 1..12")
  else if day == 0 || daysIn year month < day then
    .error (.badTime "day is out of range for month")
  else .ok ⟨year, month, day⟩

/-- The first six digits of a fraction as microseconds. -/
def microseconds (fraction : List Char) : Nat :=
  let ds := fraction.take 6
  Text.ofDigits (ds ++ List.replicate (6 - ds.length) '0')

/-- A day, or a day and a time of day. -/
def timestamp (s : List Char) : Result Document :=
  match Stamp.ofChars? s with
  | none => .error .notTime
  | some t =>
    let year := Text.ofDigits t.year
    let month := Text.ofDigits t.month
    let day := Text.ofDigits t.day
    match t.clock with
    | none => (date year month day).map .date
    | some (clock, zone) =>
      match offset zone, date year month day with
      | .error e, _ => .error e
      | _, .error e => .error e
      | .ok o, .ok d =>
        let hour := Text.ofDigits clock.hour
        let minute := Text.ofDigits clock.minute
        let second := Text.ofDigits clock.second
        if 23 < hour then .error (.badTime "hour must be in 0..23")
        else if 59 < minute then .error (.badTime "minute must be in 0..59")
        else if 59 < second then .error (.badTime "second must be in 0..59")
        else .ok (.moment ⟨d, hour, minute, second, microseconds clock.fraction, o⟩)

/-! ## Collections -/

/-- A node that becomes a collection, and so cannot be a key. -/
def isCollection (n : Node) : Bool :=
  match n.tag with
  | .list | .map | .set | .pairs | .orderedPairs => true
  | _ => false

/-- The entries of maps that are merged into one; a list's later maps come first. -/
def mergedEntries (expand : Node → Result (List (Node × Node))) (n : Node) :
    Result (List (Node × Node)) :=
  match n with
  | .map .. => expand n
  | .list _ _ items =>
    (all (items.map fun i => match i with
      | .map .. => expand i
      | _ => .error .malformed)).map fun es => es.reverse.flatten
  | .scalar .. | .around _ => .error .malformed

/-- The entries of a map with those of its merge keys in front. -/
def expanded : Nat → Node → Result (List (Node × Node))
  | 0, _ => .error .malformed
  | fuel + 1, n =>
    match n with
    | .map _ _ entries =>
      let merges := entries.filter (·.1.tag == .merge)
      let own := entries.filter (·.1.tag != .merge)
      (all (merges.map fun e => mergedEntries (expanded fuel) e.2)).map fun es => es.flatten ++ own
    | _ => .error .malformed

/-- The text of a node where a scalar has to be: of a map, the one at its key of
equality. -/
def scalarText : Nat → Node → Result (List Char)
  | 0, _ => .error .malformed
  | fuel + 1, n =>
    match n with
    | .scalar _ _ s => .ok s
    | .map _ _ entries =>
      match entries.find? (·.1.tag == .equals) with
      | some e => scalarText fuel e.2
      | none => .error .malformed
    | .list .. | .around _ => .error .malformed

/-- Entries as a mapping: keys that are equal are one, and the last value counts. -/
def gather (entries : List (Document × Document)) : Document.Entries :=
  entries.foldl (fun es e => es.insert e.1 e.2) []

/-- A key of a map, of which the mark of equality is one. -/
def keyOf (value : Node → Finding Document) (n : Node) : Finding Document :=
  match n with
  | .scalar _ .equals s => .ok (.text (String.ofList s))
  | n => if isCollection n then .error ⟨0, .malformed⟩ else value n

/-- The entries of a map, merge keys included. -/
def mapping (value : Node → Finding Document) (fuel : Nat) (n : Node) :
    Finding Document.Entries :=
  match expanded fuel n with
  | .error e => .error ⟨0, e⟩
  | .ok es => (Finding.all (es.map fun e => Finding.both (keyOf value e.1) (value e.2))).map gather

/-- A map with one entry, as a pair. -/
def pairOf (value : Node → Finding Document) (n : Node) : Finding Document :=
  match n with
  | .map _ _ [(k, v)] => (Finding.both (value k) (value v)).map fun p => .list [p.1, p.2]
  | _ => .error ⟨0, .malformed⟩

/-- A list with each node of a list made into an item. -/
def listOf (item : Node → Finding Document) (n : Node) : Finding Document :=
  match n with
  | .list _ _ items => (Finding.all (items.map item)).map .list
  | _ => .error ⟨0, .malformed⟩

/-- The value of a node; collections and times carry the number of their node. -/
def value : Nat → Node → Finding Document
  | 0, _ => .error ⟨0, .malformed⟩
  | fuel + 1, n =>
    let scalar := fun (make : List Char → Result Document) =>
      Finding.here ((scalarText fuel n).bind make)
    let share := fun (r : Finding Document) => r.map (.shared n.number)
    let parts := fun (r : Finding Document) => share (Finding.inside r)
    match n.tag with
    | .null => scalar fun _ => .ok .null
    | .bool => scalar fun s => (bool s).map .bool
    | .int => scalar fun s => (int s).map .int
    | .float => scalar fun s => (float s).map .float
    | .timestamp => share (scalar timestamp)
    | .binary => scalar fun s => (binary s).map .bytes
    | .text => scalar fun s => .ok (.text (String.ofList s))
    | .list => parts (listOf (value fuel) n)
    | .map => parts ((mapping (value fuel) fuel n).map Document.map)
    | .set => parts ((mapping (value fuel) fuel n).map fun es => .set (es.map (·.1)))
    | .pairs | .orderedPairs => parts (listOf (pairOf (value fuel)) n)
    | .merge | .equals | .unknown _ => .error ⟨0, .malformed⟩

end Statecraft.Yaml
