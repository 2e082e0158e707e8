import Statecraft.Text.Digit

/-!
# Characters of YAML

Which characters a stream may hold, and the classes that its grammar is about.
-/

namespace Statecraft.Yaml

/-- A character that may stand in a stream. -/
def isAllowed (c : Char) : Bool :=
  let n := c.toNat
  n == 9 || n == 10 || n == 13 || (32 ≤ n && n ≤ 126) || n == 0x85 ||
    (0xA0 ≤ n && n ≤ 0xD7FF) || (0xE000 ≤ n && n ≤ 0xFFFD) || 0x10000 ≤ n

/-- Ends a line. -/
def isBreak (c : Char) : Bool :=
  c == '\n' || c == '\r' || c == '\u0085' || c == '\u2028' || c == '\u2029'

/-- A blank, a tab or the end of a line. -/
def isSpaceOrBreak (c : Char) : Bool := c == ' ' || c == '\t' || isBreak c

/-- A character of anchors, handles and directives. -/
def isWordChar (c : Char) : Bool :=
  Text.isAsciiDigit c || Text.isAsciiLetter c || c == '-' || c == '_'

/-- A character of tags that stands for itself. -/
def isUriChar (c : Char) : Bool :=
  Text.isAsciiDigit c || Text.isAsciiLetter c || "-;/?:@&=+$,_.!~*'()[]".toList.contains c

/-- The text ends here, or with a character that satisfies the test. -/
def endsWith (test : Char → Bool) : List Char → Bool
  | [] => true
  | c :: _ => test c

/-- At the end of a line or of the text. -/
def atBreak (s : List Char) : Bool := endsWith isBreak s

/-- Before a blank, a tab, the end of a line or of the text. -/
def atSpace (s : List Char) : Bool := endsWith isSpaceOrBreak s

/-- At a line that separates documents: three dashes or three dots alone. -/
def atSeparator : List Char → Bool
  | '-' :: '-' :: '-' :: r => atSpace r
  | '.' :: '.' :: '.' :: r => atSpace r
  | _ => false

end Statecraft.Yaml
