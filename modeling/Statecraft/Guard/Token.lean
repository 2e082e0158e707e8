import Statecraft.Guard.Tree
import Statecraft.Text.Digit
import Statecraft.Text.Quoted

/-!
# Tokens of guard texts

`scan` cuts a text into tokens, leaving out the blanks between them. A maximal
run of characters that are neither blank nor punctuation is one word; it is a
field if it is the context's name followed by dotted names.
-/

namespace Statecraft.Guard

inductive Token.Kind where
  | logic (logic : Logic)
  | compare (operator : Operator)
  | not
  | opening
  | closing
  | quoted
  | field
  | word
  deriving DecidableEq, Repr

/-- A token, its text and where in the whole text it starts. -/
structure Token where
  kind : Token.Kind
  text : List Char
  position : Nat
  deriving DecidableEq, Repr

namespace Token

/-- A character of words: neither blank nor one of the punctuation marks. -/
def isWordChar (c : Char) : Bool :=
  !Text.isBlank c && !(['(', ')', '!', '&', '|', '=', '<', '>', '"', '\''].contains c)

/-- A character of the names in a path. -/
def isNameChar (c : Char) : Bool := Text.isAsciiDigit c || Text.isAsciiLetter c || c == '_'

/-- Names joined by single dots; `inName` says that a name has begun. -/
def isDotted : Bool → List Char → Bool
  | inName, [] => inName
  | inName, c :: r => if c == '.' then inName && isDotted false r else isNameChar c && isDotted true r

/-- A path below the context. -/
def isField : List Char → Bool
  | 'c' :: 't' :: 'x' :: '.' :: r => isDotted false r
  | _ => false

/-- How many characters a quoted literal has after its opening quote. A
backslash takes the next character with it, which must not be a line break. -/
def quotedLength? (quote : Char) : List Char → Option Nat
  | [] => none
  | ['\\'] => none
  | '\\' :: c :: r => if c == '\n' then none else (quotedLength? quote r).map (· + 2)
  | c :: r => if c == quote then some 1 else (quotedLength? quote r).map (· + 1)

/-- What starts with `c` and goes on in `r`: a token's kind, or none for blanks,
and how many characters of `r` belong to it. -/
def lexeme? (c : Char) (r : List Char) : Option (Option Kind × Nat) :=
  if Text.isBlank c then some (none, (r.takeWhile Text.isBlank).length)
  else if c == '&' then
    match r with
    | '&' :: _ => some (some (.logic .and), 1)
    | _ => none
  else if c == '|' then
    match r with
    | '|' :: _ => some (some (.logic .or), 1)
    | _ => none
  else if c == '=' then
    match r with
    | '=' :: _ => some (some (.compare .equal), 1)
    | _ => none
  else if c == '!' then
    match r with
    | '=' :: _ => some (some (.compare .notEqual), 1)
    | _ => some (some .not, 0)
  else if c == '>' then
    match r with
    | '=' :: _ => some (some (.compare .greaterEqual), 1)
    | _ => some (some (.compare .greater), 0)
  else if c == '<' then
    match r with
    | '=' :: _ => some (some (.compare .lessEqual), 1)
    | _ => some (some (.compare .less), 0)
  else if c == '(' then some (some .opening, 0)
  else if c == ')' then some (some .closing, 0)
  else if c == '"' || c == '\'' then (quotedLength? c r).map (some .quoted, ·)
  else
    let w := r.takeWhile isWordChar
    some (some (if isField (c :: w) then .field else .word), w.length)

end Token

/-- What a text that is no guard has in the place where reading it failed. -/
inductive Fault where
  | blank
  | unterminatedText
  | unexpectedCharacter (char : Char)
  | unexpectedToken (text : List Char)
  | unmatchedClosing
  | unmatchedOpening
  | emptyParentheses
  | mixedLogic
  | missingOperand (after : List Char)
  | missingValue (after : Operator)
  | expected (what : String) (got : Option (List Char))
  | expectedCondition
  deriving DecidableEq, Repr

namespace Fault

def quotedChars (s : List Char) : String := Text.quoted (String.ofList s)

def message : Fault → String
  | .blank => "empty expression"
  | .unterminatedText => "unterminated string literal"
  | .unexpectedCharacter c => "unexpected character " ++ quotedChars [c]
  | .unexpectedToken t => "unexpected " ++ quotedChars t
  | .unmatchedClosing => "unmatched ')'"
  | .unmatchedOpening => "unmatched '('"
  | .emptyParentheses => "empty parentheses"
  | .mixedLogic => "cannot mix '&&' and '||' at the same level; group with parentheses"
  | .missingOperand t => "missing operand after " ++ quotedChars t
  | .missingValue op => "missing value after " ++ Text.quoted op.name
  | .expected what (some t) => "expected " ++ what ++ ", got " ++ quotedChars t
  | .expected what none => "expected " ++ what ++ ", got end of expression"
  | .expectedCondition => "expected condition, got end of expression"

end Fault

/-- Why and where a text is no guard. -/
structure Failure where
  fault : Fault
  position : Nat
  deriving DecidableEq, Repr

namespace Failure

def message (f : Failure) : String := f.fault.message

/-- The message with its place, columns counted from one. -/
def text (f : Failure) : String :=
  f.message ++ " (at column " ++ Decimal.intText (f.position + 1 : Nat) ++ ")"

end Failure

namespace Token

/-- The tokens of a text that starts at the given position. -/
def scan (position : Nat) : List Char → Except Failure (List Token)
  | [] => .ok []
  | c :: r =>
    match lexeme? c r with
    | none =>
      .error ⟨if c == '"' || c == '\'' then .unterminatedText else .unexpectedCharacter c, position⟩
    | some (kind?, n) =>
      match scan (position + 1 + n) (r.drop n) with
      | .error e => .error e
      | .ok ts =>
        match kind? with
        | none => .ok ts
        | some kind => .ok (⟨kind, c :: r.take n, position⟩ :: ts)
termination_by s => s.length

end Token

end Statecraft.Guard
