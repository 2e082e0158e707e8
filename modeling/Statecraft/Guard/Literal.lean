import Statecraft.Guard.Tree
import Statecraft.Decimal.Numeral

/-!
# Literals of guards

The text of a value, and the values that unquoted words and quoted texts stand
for. A quoted text escapes its quote and the backslash, so that reading takes
back exactly what was written.
-/

namespace Statecraft.Guard

/-- A text with its double quotes and backslashes escaped. -/
def escapeText : List Char → List Char
  | [] => []
  | c :: r => if c == '\\' || c == '"' then '\\' :: c :: escapeText r else c :: escapeText r

/-- A text in double quotes. -/
def quote (s : List Char) : List Char := '"' :: escapeText s ++ ['"']

/-- The characters that escapes stand for; a backslash at the end stands for itself. -/
def unescape : List Char → List Char
  | [] => []
  | ['\\'] => ['\\']
  | '\\' :: c :: r => c :: unescape r
  | c :: r => c :: unescape r

/-- The text inside a quoted literal. -/
def unquote (literal : List Char) : List Char := unescape (literal.drop 1).dropLast

/-- The text of a number: without a point if it is whole and below `10 ^ 16`. -/
def floatText (x : Float) : String :=
  match Decimal.toInt? x with
  | some n => if n.natAbs < Decimal.tenTo 16 then Decimal.intText n else Decimal.plain.text x
  | none => Decimal.plain.text x

/-- A value's text. -/
def Value.render : Value → List Char
  | .null => "null".toList
  | .bool b => (if b then "true" else "false").toList
  | .int n => (Decimal.intText n).toList
  | .float x => (floatText x).toList
  | .text s => quote s.toList

/-- The value is no integer with too many digits. -/
def Value.isWritable : Value → Bool
  | .int n => Decimal.isWritable n
  | _ => true

/-- The value of an unquoted word: a constant, a number, or the word itself. A
number may be followed by one line break. -/
def Value.ofWord (word : List Char) : Except Decimal.LimitError Value :=
  if word == "null".toList then .ok .null
  else if word == "true".toList then .ok (.bool true)
  else if word == "false".toList then .ok (.bool false)
  else
    match Decimal.Numeral.ofChars? (Text.dropLineEnd word) with
    | none => .ok (.text (String.ofList word))
    | some n =>
      if !n.integral then .ok (.float n.toFloat)
      else if Decimal.digitLimit < n.whole.length then .error (.reading n.whole.length)
      else .ok (.int n.toInt)

end Statecraft.Guard
