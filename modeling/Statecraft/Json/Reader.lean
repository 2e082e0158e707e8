import Statecraft.Document.Basic
import Statecraft.Decimal.Numeral

/-!
# Reading JSON

The reader accepts `NaN`, `Infinity` and `-Infinity` beside the standard's
values, keeps integers exact and the order of keys, and lets a repeated key keep
its place and take its last value. A failure knows how much of the text was
left, from which line and column follow.
-/

namespace Statecraft.Json

open Statecraft (Document)

/-- Why a text is no JSON. -/
inductive Fault where
  | expectingValue
  | expectingKey
  | expectingColon
  | expectingComma
  | unterminatedString
  | controlCharacter
  | invalidEscape
  | invalidCodeEscape
  | extraData
  | byteOrderMark
  deriving DecidableEq, Repr

def Fault.message : Fault → String
  | .expectingValue => "Expecting value"
  | .expectingKey => "Expecting property name enclosed in double quotes"
  | .expectingColon => "Expecting ':' delimiter"
  | .expectingComma => "Expecting ',' delimiter"
  | .unterminatedString => "Unterminated string starting at"
  | .controlCharacter => "Invalid control character at"
  | .invalidEscape => "Invalid \\escape"
  | .invalidCodeEscape => "Invalid \\uXXXX escape"
  | .extraData => "Extra data"
  | .byteOrderMark => "Unexpected UTF-8 BOM (decode using utf-8-sig)"

/-- What stopped the reader: a fault where so many characters were left, or an
integer with too many digits. -/
inductive Stop where
  | fault (fault : Fault) (left : Nat)
  | limit (limit : Decimal.LimitError)
  deriving DecidableEq, Repr

/-- A reader's result: the value and the rest of the text. -/
abbrev Step (α : Type) := Except Stop (α × List Char)

/-- White space between JSON's tokens. -/
def isSpace (c : Char) : Bool := c == ' ' || c == '\t' || c == '\n' || c == '\r'

def skipSpace (s : List Char) : List Char := s.dropWhile isSpace

def stop (f : Fault) (s : List Char) : Except Stop α := .error (.fault f s.length)

/-- Four hexadecimal digits, which cannot be the last of a text as the string goes on. -/
def code? (s : List Char) : Option (Nat × List Char) :=
  match s with
  | a :: b :: c :: d :: next :: r => do
    let a ← Text.hexValue? a
    let b ← Text.hexValue? b
    let c ← Text.hexValue? c
    let d ← Text.hexValue? d
    some (((a * 16 + b) * 16 + c) * 16 + d, next :: r)
  | _ => none

/-- The character of a one-letter escape. -/
def escaped? (c : Char) : Option Char :=
  match c with
  | '"' => some '"'
  | '\\' => some '\\'
  | '/' => some '/'
  | 'b' => some '\x08'
  | 'f' => some '\x0c'
  | 'n' => some '\n'
  | 'r' => some '\r'
  | 't' => some '\t'
  | _ => none

/-- A first half of a surrogate pair. -/
def isHigh (n : Nat) : Bool := 0xD800 ≤ n && n ≤ 0xDBFF

/-- A second half of a surrogate pair. -/
def isLow (n : Nat) : Bool := 0xDC00 ≤ n && n ≤ 0xDFFF

/-- The character of a code; half a pair alone stands for the replacement character. -/
def ofCode (n : Nat) : Char := if isHigh n || isLow n then '\uFFFD' else Char.ofNat n

/-- The character of a `\u` escape after its `u`, two escapes making one pair. -/
def unicode? (s : List Char) : Option (Char × List Char) := do
  let (n, r) ← code? s
  if isHigh n then
    match r with
    | '\\' :: 'u' :: t =>
      match code? t with
      | some (m, u) =>
        if isLow m then some (Char.ofNat (0x10000 + (n - 0xD800) * 0x400 + (m - 0xDC00)), u)
        else some (ofCode n, r)
      | none => some (ofCode n, r)
    | _ => some (ofCode n, r)
  else some (ofCode n, r)

/-- The inside of a string up to its closing quote, in reverse; `start` is what
was left at its opening quote. -/
def readString (start : Nat) : Nat → List Char → List Char → Step (List Char)
  | 0, _, _ => .error (.fault .unterminatedString start)
  | _ + 1, _, [] => .error (.fault .unterminatedString start)
  | fuel + 1, done, c :: r =>
    if c == '"' then .ok (done, r)
    else if c == '\\' then
      match r with
      | [] => .error (.fault .unterminatedString start)
      | 'u' :: t =>
        match unicode? t with
        | some (x, u) => readString start fuel (x :: done) u
        | none => stop .invalidCodeEscape r
      | e :: t =>
        match escaped? e with
        | some x => readString start fuel (x :: done) t
        | none => stop .invalidEscape (c :: r)
    else if c.toNat < 32 then stop .controlCharacter (c :: r)
    else readString start fuel (c :: done) r

/-- A string after its opening quote. -/
def string (s : List Char) : Step String :=
  (readString (s.length + 1) (s.length + 1) [] s).map fun (done, r) =>
    (String.ofList done.reverse, r)

/-- Digits after a point, if any follow it. -/
def fraction (s : List Char) : List Char × List Char :=
  match s with
  | '.' :: d :: r =>
    if Text.isAsciiDigit d then
      ('.' :: d :: r.takeWhile Text.isAsciiDigit, r.dropWhile Text.isAsciiDigit)
    else ([], s)
  | _ => ([], s)

/-- An exponent, if one follows in full. -/
def exponent (s : List Char) : List Char × List Char :=
  match s with
  | e :: r =>
    if e == 'e' || e == 'E' then
      let (sign, t) := match r with
        | '+' :: t => (['+'], t)
        | '-' :: t => (['-'], t)
        | t => ([], t)
      let ds := t.takeWhile Text.isAsciiDigit
      if ds.isEmpty then ([], s) else (e :: sign ++ ds, t.dropWhile Text.isAsciiDigit)
    else ([], s)
  | [] => ([], [])

/-- A number without its sign. -/
def number? (negative : Bool) (s : List Char) : Option (Except Stop Document × List Char) := do
  let (whole, r) ← match s with
    | '0' :: r => some (['0'], r)
    | c :: _ =>
      if Text.isAsciiDigit c then
        some (s.takeWhile Text.isAsciiDigit, s.dropWhile Text.isAsciiDigit)
      else none
    | [] => none
  let (frac, r) := fraction r
  let (exp, r) := exponent r
  if frac.isEmpty && exp.isEmpty then
    if Decimal.digitLimit < whole.length then some (.error (.limit (.reading whole.length)), r)
    else
      let n : Int := Text.ofDigits whole
      some (.ok (.int (if negative then -n else n)), r)
  else
    let numeral ← Decimal.Numeral.ofChars? (whole ++ frac ++ exp)
    let x := { numeral with negative := negative }.toFloat
    some (.ok (.float x), r)

/-- A value that is neither a string nor a collection. -/
def scalar (s : List Char) : Step Document :=
  match s with
  | 'n' :: 'u' :: 'l' :: 'l' :: r => .ok (.null, r)
  | 't' :: 'r' :: 'u' :: 'e' :: r => .ok (.bool true, r)
  | 'f' :: 'a' :: 'l' :: 's' :: 'e' :: r => .ok (.bool false, r)
  | 'N' :: 'a' :: 'N' :: r => .ok (.float (0.0 / 0.0), r)
  | 'I' :: 'n' :: 'f' :: 'i' :: 'n' :: 'i' :: 't' :: 'y' :: r => .ok (.float (1.0 / 0.0), r)
  | '-' :: 'I' :: 'n' :: 'f' :: 'i' :: 'n' :: 'i' :: 't' :: 'y' :: r =>
    .ok (.float (-1.0 / 0.0), r)
  | '-' :: r =>
    match number? true r with
    | some (v, t) => v.map (·, t)
    | none => stop .expectingValue s
  | _ =>
    match number? false s with
    | some (v, t) => v.map (·, t)
    | none => stop .expectingValue s

mutual

/-- A value. The fuel bounds the number of values and separators. -/
def value : Nat → List Char → Step Document
  | 0, s => stop .expectingValue s
  | fuel + 1, s =>
    match s with
    | '"' :: r => (string r).map fun (t, u) => (.text t, u)
    | '\x7b' :: r =>
      match skipSpace r with
      | '\x7d' :: t => .ok (.map [], t)
      | t => members fuel [] t
    | '[' :: r =>
      match skipSpace r with
      | ']' :: t => .ok (.list [], t)
      | t => items fuel [] t
    | _ => scalar s

/-- The items of a list from the next one on. -/
def items : Nat → List Document → List Char → Step Document
  | 0, _, s => stop .expectingValue s
  | fuel + 1, done, s =>
    match value fuel s with
    | .error e => .error e
    | .ok (v, r) =>
      match skipSpace r with
      | ']' :: t => .ok (.list (v :: done).reverse, t)
      | ',' :: t => items fuel (v :: done) (skipSpace t)
      | t => stop .expectingComma t

/-- The members of an object from the next key on. -/
def members : Nat → Document.Entries → List Char → Step Document
  | 0, _, s => stop .expectingKey s
  | fuel + 1, done, s =>
    match s with
    | '"' :: r =>
      match string r with
      | .error e => .error e
      | .ok (k, t) =>
        match skipSpace t with
        | ':' :: u =>
          match value fuel (skipSpace u) with
          | .error e => .error e
          | .ok (v, w) =>
            let done := Document.Entries.insert done (.text k) v
            match skipSpace w with
            | '\x7d' :: x => .ok (.map done, x)
            | ',' :: x => members fuel done (skipSpace x)
            | x => stop .expectingComma x
        | u => stop .expectingColon u
    | _ => stop .expectingKey s

end

/-- The one value of a text. -/
def document (s : List Char) : Except Stop Document :=
  match s with
  | '\uFEFF' :: _ => stop .byteOrderMark s
  | _ =>
    match value (2 * s.length + 2) (skipSpace s) with
    | .error e => .error e
    | .ok (v, r) =>
      match skipSpace r with
      | [] => .ok v
      | t => stop .extraData t

/-- A failure's place: line and column from one, position from zero. -/
structure Place where
  line : Nat
  column : Nat
  position : Nat
  deriving DecidableEq, Repr

/-- The place after so many characters of the text. -/
def placeAt (s : List Char) (position : Nat) : Place :=
  let before := s.take position
  ⟨before.count '\n' + 1, (before.reverse.takeWhile (· != '\n')).length + 1, position⟩

/-- Why a text cannot be read. -/
inductive Error where
  | invalid (fault : Fault) (place : Place)
  | limit (limit : Decimal.LimitError)
  deriving DecidableEq, Repr

def Error.message : Error → String
  | .invalid fault place =>
    fault.message ++ ": line " ++ Decimal.intText place.line ++ " column "
      ++ Decimal.intText place.column ++ " (char " ++ Decimal.intText place.position ++ ")"
  | .limit e => e.message

/-- The value that a text writes. -/
def read (text : String) : Except Error Document :=
  let s := text.toList
  match document s with
  | .ok v => .ok v
  | .error (.fault f left) => .error (.invalid f (placeAt s (s.length - left)))
  | .error (.limit e) => .error (.limit e)

end Statecraft.Json
