import Statecraft.Text.Digit
import Statecraft.Decimal.Notation

/-!
# UTF-8

Bytes as text. The first byte that rules the bytes out as UTF-8 decides what is
said about them: which bytes are at fault, and why.
-/

namespace Statecraft.Text

/-- Why bytes are no text. -/
inductive EncodingFault where
  | start
  | continuation
  | truncated
  deriving DecidableEq, Repr

def EncodingFault.reason : EncodingFault → String
  | .start => "invalid start byte"
  | .continuation => "invalid continuation byte"
  | .truncated => "unexpected end of data"

/-- The bytes at fault: where they begin, the first of them, how many they are. -/
structure Undecodable where
  fault : EncodingFault
  position : Nat
  byte : Nat
  count : Nat
  deriving DecidableEq, Repr

def Undecodable.message (u : Undecodable) : String :=
  let place :=
    if u.count == 1 then
      "byte 0x" ++ String.ofList (hex 2 u.byte) ++ " in position "
        ++ Decimal.natText u.position
    else
      "bytes in position " ++ Decimal.natText u.position ++ "-"
        ++ Decimal.natText (u.position + u.count - 1)
  "'utf-8' codec can't decode " ++ place ++ ": " ++ u.fault.reason

/-- What a first byte asks for: the number of bytes after it, and the bounds of the
first of these. -/
def sequence? (b : Nat) : Option (Nat × Nat × Nat) :=
  if b ≤ 0x7F then some (0, 0x80, 0xBF)
  else if 0xC2 ≤ b && b ≤ 0xDF then some (1, 0x80, 0xBF)
  else if b == 0xE0 then some (2, 0xA0, 0xBF)
  else if b == 0xED then some (2, 0x80, 0x9F)
  else if 0xE1 ≤ b && b ≤ 0xEF then some (2, 0x80, 0xBF)
  else if b == 0xF0 then some (3, 0x90, 0xBF)
  else if 0xF1 ≤ b && b ≤ 0xF3 then some (3, 0x80, 0xBF)
  else if b == 0xF4 then some (3, 0x80, 0x8F)
  else none

/-- How many of the bytes continue a sequence that still owes `owed` of them. -/
def continued : Nat → Nat → Nat → List Nat → Nat
  | 0, _, _, _ => 0
  | _ + 1, _, _, [] => 0
  | owed + 1, low, high, b :: r =>
    if low ≤ b && b ≤ high then continued owed 0x80 0xBF r + 1 else 0

/-- The value of a sequence: the bits that its first byte leaves, then six for each
other byte. -/
def codePoint (first : Nat) (rest : List Nat) : Nat :=
  let bits := match rest.length with
    | 0 => first
    | 1 => first % 0x20
    | 2 => first % 0x10
    | _ => first % 0x08
  rest.foldl (fun n b => n * 64 + b % 64) bits

/-- The characters of bytes from a position on. -/
def decodeFrom (position : Nat) (bytes : List Nat) : Except Undecodable (List Char) :=
  match bytes with
  | [] => .ok []
  | b :: r =>
    match sequence? b with
    | none => .error ⟨.start, position, b, 1⟩
    | some (owed, low, high) =>
      let n := continued owed low high r
      if n == owed then
        (decodeFrom (position + n + 1) (r.drop n)).map (Char.ofNat (codePoint b (r.take n)) :: ·)
      else if r.length ≤ n then .error ⟨.truncated, position, b, r.length + 1⟩
      else .error ⟨.continuation, position, b, n + 1⟩
termination_by bytes.length
decreasing_by simp only [List.length_cons, List.length_drop]; omega

/-- The text of bytes. -/
def decode (bytes : List UInt8) : Except Undecodable String :=
  (decodeFrom 0 (bytes.map UInt8.toNat)).map String.ofList

/-- The bytes of a text. -/
def encode (s : String) : List UInt8 := s.toUTF8.toList

/-- The text with each kind of line end as a line feed. -/
def unifyLines : List Char → List Char
  | '\r' :: '\n' :: r => '\n' :: unifyLines r
  | '\r' :: r => '\n' :: unifyLines r
  | c :: r => c :: unifyLines r
  | [] => []

end Statecraft.Text
