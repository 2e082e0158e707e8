import Statecraft.Decimal.Notation

/-!
# Documents

The values that definitions, guard trees and settings are written in: scalars,
lists and mappings, with keys of any kind. A value that a text mentions at
several places under one name is wrapped in `shared` at each of them; `plain`
takes these wrappers off.
-/

namespace Statecraft

/-- A day of the calendar. -/
structure Date where
  year : Nat
  month : Nat
  day : Nat
  deriving DecidableEq, Repr

/-- February has a twenty-ninth in this year. -/
def isLeapYear (year : Nat) : Bool :=
  year % 4 == 0 && (year % 100 != 0 || year % 400 == 0)

/-- The number of days from the start of the first year. -/
def Date.number (d : Date) : Nat :=
  let y := d.year - 1
  let months := [0, 31, 59, 90, 120, 151, 181, 212, 243, 273, 304, 334].getD (d.month - 1) 0
  365 * y + y / 4 - y / 100 + y / 400 + months
    + (if 2 < d.month && isLeapYear d.year then 1 else 0) + d.day

/-- A time of a day, with the distance from universal time in seconds if known. -/
structure Moment where
  date : Date
  hour : Nat
  minute : Nat
  second : Nat
  microsecond : Nat
  offset : Option Int
  deriving DecidableEq, Repr

/-- The microseconds from the start of the first year, by the moment's own clock. -/
def Moment.elapsed (t : Moment) : Int :=
  (((t.date.number * 24 + t.hour) * 60 + t.minute) * 60 + t.second) * 1000000 + t.microsecond

/-- Equality of moments: those with known offsets are equal if they are one instant. -/
def Moment.same (a b : Moment) : Bool :=
  match a.offset, b.offset with
  | some o, some p => a.elapsed - o * 1000000 == b.elapsed - p * 1000000
  | _, _ => a == b

inductive Document where
  | null
  | bool (value : Bool)
  | int (value : Int)
  | float (value : Float)
  | text (value : String)
  | date (value : Date)
  | moment (value : Moment)
  | bytes (value : List UInt8)
  | set (members : List Document)
  | list (items : List Document)
  | map (entries : List (Document × Document))
  | shared (label : Nat) (content : Document)
  deriving Inhabited

namespace Document

/-- A mapping's entries. -/
abbrev Entries := List (Document × Document)

/-- The value itself, without the wrappers around it. -/
def content : Document → Document
  | .shared _ d => d.content
  | d => d

mutual

/-- The value without any mention of shared places. -/
def plain : Document → Document
  | .shared _ d => d.plain
  | .set ms => .set (plainList ms)
  | .list items => .list (plainList items)
  | .map entries => .map (plainEntries entries)
  | d => d

def plainList : List Document → List Document
  | [] => []
  | d :: r => d.plain :: plainList r

def plainEntries : Entries → Entries
  | [] => []
  | (k, v) :: r => (k.plain, v.plain) :: plainEntries r

end

mutual

/-- The number of collections around the innermost value. -/
def depth : Document → Nat
  | .list items => depthList items + 1
  | .set items => depthList items + 1
  | .map entries => depthEntries entries + 1
  | .shared _ d => d.depth + 1
  | _ => 0

def depthList : List Document → Nat
  | [] => 0
  | d :: r => max d.depth (depthList r)

def depthEntries : Entries → Nat
  | [] => 0
  | (_, v) :: r => max v.depth (depthEntries r)

end

/-- The entry of a text key. -/
def Entries.get? (entries : Entries) (key : String) : Option Document :=
  (entries.find? fun e => match e.1.content with
    | .text k => k == key
    | _ => false).map (·.2)

/-- The entry of a text key, if this is a mapping that has it. -/
def get? (d : Document) (key : String) : Option Document :=
  match d.content with
  | .map entries => Entries.get? entries key
  | _ => none

/-- A mapping with text keys. -/
def object (entries : List (String × Document)) : Document :=
  .map (entries.map fun e => (.text e.1, e.2))

/-- A list of texts. -/
def texts (items : List String) : Document := .list (items.map .text)

/-- A mapping with the entries whose value is present. -/
def objectOf (entries : List (String × Option Document)) : Document :=
  object (entries.filterMap fun e => e.2.map (e.1, ·))

/-- Numbers and truth values as one kind: truth is one, falsehood zero. -/
inductive Magnitude where
  | exact (value : Int)
  | float (value : Float)

/-- The number that a value counts as. -/
def magnitude? : Document → Option Magnitude
  | .bool b => some (.exact (if b then 1 else 0))
  | .int n => some (.exact n)
  | .float x => some (.float x)
  | _ => none

/-- Equality of numbers across kinds, by exact value. -/
def Magnitude.same : Magnitude → Magnitude → Bool
  | .exact a, .exact b => a == b
  | .exact a, .float y => Decimal.equalsInt y a
  | .float x, .exact b => Decimal.equalsInt x b
  | .float x, .float y => x == y

mutual

/-- Equality of values: numbers by value across kinds, mappings by their entries
in any order, all else by content. -/
def same : Document → Document → Bool
  | .shared _ a, b => a.same b
  | .null, b => match b.content with | .null => true | _ => false
  | .bool a, b => match b.content.magnitude? with
    | some y => Magnitude.same (.exact (if a then 1 else 0)) y | none => false
  | .int a, b => match b.content.magnitude? with
    | some y => Magnitude.same (.exact a) y | none => false
  | .float a, b => match b.content.magnitude? with
    | some y => Magnitude.same (.float a) y | none => false
  | .text a, b => match b.content with | .text t => a == t | _ => false
  | .date a, b => match b.content with | .date t => a == t | _ => false
  | .moment a, b => match b.content with | .moment t => a.same t | _ => false
  | .bytes a, b => match b.content with | .bytes t => a == t | _ => false
  | .set a, b => match b.content with
    | .set t => a.length == t.length && subset a t | _ => false
  | .list a, b => match b.content with | .list t => sameList a t | _ => false
  | .map a, b => match b.content with
    | .map t => a.length == t.length && within a t | _ => false

def sameList : List Document → List Document → Bool
  | [], [] => true
  | a :: r, b :: s => a.same b && sameList r s
  | _, _ => false

/-- Every member has an equal one in the list. -/
def subset : List Document → List Document → Bool
  | [], _ => true
  | a :: r, t => t.any a.same && subset r t

/-- Every entry has one with an equal key and an equal value in the list. -/
def within : Entries → Entries → Bool
  | [], _ => true
  | (k, v) :: r, t => t.any (fun e => k.same e.1 && v.same e.2) && within r t

end

/-- Equality of keys: the undefined number is one key, however often it is written. -/
def sameKey (a b : Document) : Bool :=
  match a.content, b.content with
  | .float x, .float y => x == y || (x.isNaN && y.isNaN)
  | _, _ => a.same b

/-- The entries with one for `key` set: in place of an entry with an equal key,
whose key stays, or else at the end. -/
def Entries.insert (entries : Entries) (key value : Document) : Entries :=
  if entries.any (fun e => e.1.sameKey key) then
    entries.map fun e => if e.1.sameKey key then (e.1, value) else e
  else entries ++ [(key, value)]

end Document

end Statecraft
