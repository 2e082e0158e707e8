import Statecraft.Literal.Token
import Statecraft.Text.Named

/-!
# Texts in quotes

What a text in quotes stands for, as far as it matters: characters, bytes, or a text
with fields to fill in. Its escapes have to be complete; those of a text with fields are
looked at along with its fields.
-/

namespace Statecraft.Literal

/-- What a text in quotes stands for. -/
inductive Quoted where
  | characters
  | bytes
  | formatted
  deriving DecidableEq, Repr

/-- Why a text in quotes stands for nothing. -/
inductive QuoteFault where
  | escape (start count : Nat) (reason : String)
  | byteEscape (position : Nat)
  | notAscii
  | mixed
  deriving DecidableEq, Repr

def QuoteFault.message : QuoteFault → String
  | .escape start count reason =>
    let place :=
      if count == 1 then "byte 0x5c in position " ++ Decimal.natText start
      else
        "bytes in position " ++ Decimal.natText start ++ "-" ++ Decimal.natText (start + count - 1)
    "(unicode error) 'unicodeescape' codec can't decode " ++ place ++ ": " ++ reason
  | .byteEscape position => "(value error) invalid \\x escape at position " ++ Decimal.natText position
  | .notAscii => "bytes can only contain ASCII literal characters"
  | .mixed => "cannot mix bytes and nonbytes literals"

/-- The width of a character where escapes are counted: those beyond ASCII are written by their
number in eight digits. -/
def escapeWidth (c : Char) : Nat := if 128 ≤ c.toNat then 10 else 1

/-- The width of a text where escapes are counted. A backslash takes the character behind it along,
and is written by its number itself in front of one beyond ASCII. -/
def escapedWidth : List Char → Nat
  | [] => 0
  | '\\' :: c :: r => (if 128 ≤ c.toNat then 16 else 2) + escapedWidth r
  | c :: r => escapeWidth c + escapedWidth r

/-- The number of hexadecimal digits that the text starts with, at most `width`. -/
def hexRun (width : Nat) (s : List Char) : Nat :=
  ((s.take width).takeWhile fun c => (Text.hexValue? c).isSome).length

/-- The greatest number of a character. -/
def characterLimit : Nat := 0x10FFFF

/-- What is wrong with the escapes of a text from a position on. A backslash at its end stands for
itself. -/
def escapeFault? : Nat → Nat → List Char → Option QuoteFault
  | 0, _, _ => none
  | _, _, [] => none
  | fuel + 1, position, c :: r =>
    if c != '\\' then escapeFault? fuel (position + escapeWidth c) r
    else
      match r with
      | [] => none
      | kind :: t =>
        let digits := fun (width : Nat) (reason : String) =>
          let n := hexRun width t
          if n < width then some (.escape position (n + 2) reason)
          else if characterLimit < Text.ofBase 16 (t.take width) then
            some (.escape position (width + 2) "illegal Unicode character")
          else escapeFault? fuel (position + width + 2) (t.drop width)
        match kind with
        | 'x' => digits 2 "truncated \\xXX escape"
        | 'u' => digits 4 "truncated \\uXXXX escape"
        | 'U' => digits 8 "truncated \\UXXXXXXXX escape"
        | 'N' =>
          let reason := "malformed \\N character escape"
          match t with
          | '\x7b' :: u =>
            let name := u.takeWhile (· != '\x7d')
            let width := escapedWidth name
            if name.length == u.length then some (.escape position (width + 3) reason)
            else if name.isEmpty then some (.escape position 3 reason)
            else if !Text.isCharacterName name then
              some (.escape position (width + 4) "unknown Unicode character name")
            else escapeFault? fuel (position + width + 4) (u.drop (name.length + 1))
          | _ => some (.escape position 2 reason)
        | kind =>
          if 128 ≤ kind.toNat then escapeFault? fuel (position + 6) (kind :: t)
          else escapeFault? fuel (position + 2) t

/-- What is wrong with the escapes of bytes from a position on. -/
def byteFault? : Nat → Nat → List Char → Option QuoteFault
  | 0, _, _ => none
  | _, _, [] => none
  | fuel + 1, position, c :: r =>
    match c, r with
    | '\\', 'x' :: t =>
      if hexRun 2 t < 2 then some (.byteEscape position)
      else byteFault? fuel (position + 4) (t.drop 2)
    | '\\', _ :: t => byteFault? fuel (position + 2) t
    | _, r => byteFault? fuel (position + 1) r

/-- What stands between the quotes. -/
def betweenQuotes (s : List Char) : List Char :=
  match s with
  | a :: b :: c :: _ =>
    let size := if a == b && b == c && 6 ≤ s.length then 3 else 1
    (s.drop size).take (s.length - 2 * size)
  | _ => []

namespace Token

/-- The letters in front of the quotes of a text, as small ones. -/
def letters (t : Token) : List Char :=
  (t.lexeme.takeWhile fun c => !(c == '\'' || c == '"')).map Char.toLower

/-- What stands between the quotes of a text. -/
def body (t : Token) : List Char := betweenQuotes (t.lexeme.drop t.letters.length)

/-- The number of characters in front of what stands between the quotes. -/
def opening (t : Token) : Nat :=
  t.letters.length + (t.lexeme.length - t.letters.length - t.body.length) / 2

/-- Backslashes are characters like all others. -/
def isRaw (t : Token) : Bool := t.letters.contains 'r'

/-- What a text in quotes stands for. -/
def quoted (t : Token) : Except QuoteFault Quoted :=
  if t.letters.contains 'b' then
    if t.body.any fun c => 128 ≤ c.toNat then .error .notAscii
    else
      match if t.isRaw then none else byteFault? (t.body.length + 1) 0 t.body with
      | some fault => .error fault
      | none => .ok .bytes
  else if t.letters.contains 'f' then .ok .formatted
  else
    match if t.isRaw then none else escapeFault? (t.body.length + 1) 0 t.body with
    | some fault => .error fault
    | none => .ok .characters

end Token

/-- Texts in quotes one after the other stand for one text: bytes only go with bytes. -/
def Quoted.join (first second : Quoted) : Except QuoteFault Quoted :=
  match first, second with
  | .bytes, .bytes => .ok .bytes
  | .bytes, _ | _, .bytes => .error .mixed
  | .characters, .characters => .ok .characters
  | _, _ => .ok .formatted

end Statecraft.Literal
