import Statecraft.Yaml.Char

/-!
# A place in a YAML stream

The rest of the text with the line and the column it starts at.
-/

namespace Statecraft.Yaml

structure Cursor where
  rest : List Char
  line : Nat
  column : Nat
  index : Nat
  deriving Repr

namespace Cursor

def start (s : List Char) : Cursor := ⟨s, 0, 0, 0⟩

def peek? (c : Cursor) : Option Char := c.rest.head?

/-- The place after the next character. A carriage return before a line feed does
not end the line yet, and a byte order mark takes no column. -/
def next (c : Cursor) : Cursor :=
  match c.rest with
  | [] => c
  | x :: r =>
    if (isBreak x && x != '\r') || (x == '\r' && r.head? != some '\n') then
      ⟨r, c.line + 1, 0, c.index + 1⟩
    else ⟨r, c.line, if x == '\uFEFF' then c.column else c.column + 1, c.index + 1⟩

/-- The place some characters on. -/
def skip (c : Cursor) : Nat → Cursor
  | 0 => c
  | n + 1 => c.next.skip n

/-- The place after all leading characters that satisfy the test. -/
def skipWhile (c : Cursor) (test : Char → Bool) : Cursor :=
  c.skip (c.rest.takeWhile test).length

def skipBlanks (c : Cursor) : Cursor := c.skipWhile (· == ' ')

/-- The end of a line as it counts in a text: all but the separators of lines and
paragraphs become a line feed. Nothing if no line ends here. -/
def lineBreak (c : Cursor) : List Char × Cursor :=
  match c.rest with
  | '\r' :: '\n' :: _ => (['\n'], c.skip 2)
  | x :: _ =>
    if x == '\u2028' || x == '\u2029' then ([x], c.next)
    else if isBreak x then (['\n'], c.next) else ([], c)
  | [] => ([], c)

/-- Past a comment and the blanks before it, up to the end of the line; nothing else
may stand there. -/
def restOfLine? (c : Cursor) : Option Cursor :=
  let c := c.skipBlanks
  let c := if c.peek? == some '#' then c.skipWhile (!isBreak ·) else c
  if atBreak c.rest then some c.lineBreak.2 else none

end Cursor

end Statecraft.Yaml
