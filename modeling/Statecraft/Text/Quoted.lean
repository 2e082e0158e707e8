import Statecraft.Text.Digit
import Statecraft.Text.Printable

/-!
# Quoted text in messages

How a message quotes a text: in single quotes, or in double ones if the text
has single quotes and no double ones; the quote in use, the backslash and what
cannot be printed are escaped.
-/

namespace Statecraft.Text

/-- The quote that needs the fewer escapes, the single one in doubt. -/
def quoteFor (s : List Char) : Char :=
  if s.contains '\'' && !s.contains '"' then '"' else '\''

/-- A character that has no printed form, by its number. -/
def escapeByNumber (c : Char) : List Char :=
  let n := c.toNat
  if n ≤ 0xFF then '\\' :: 'x' :: hex 2 n
  else if n ≤ 0xFFFF then '\\' :: 'u' :: hex 4 n
  else '\\' :: 'U' :: hex 8 n

/-- One character of a text quoted with `quote`. -/
def quotedChar (quote c : Char) : List Char :=
  if c == quote || c == '\\' then ['\\', c]
  else if c == '\t' then ['\\', 't']
  else if c == '\n' then ['\\', 'n']
  else if c == '\r' then ['\\', 'r']
  else if isPrintable c then [c]
  else escapeByNumber c

/-- The text as a message quotes it. -/
def quoted (s : String) : String :=
  let cs := s.toList
  let q := quoteFor cs
  String.ofList (q :: cs.flatMap (quotedChar q) ++ [q])

end Statecraft.Text
