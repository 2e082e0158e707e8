import Statecraft.Text.Digit

/-!
# Writing lines of YAML

A pen knows the column that it is at, whether blank space is in front of it, and
whether nothing but indentation marks has been written on the line. Scalars are
written with it in one of four styles; texts wider than the line are folded at
single blanks.
-/

namespace Statecraft.Yaml

/-- Lines are folded and broken after this column. -/
def lineWidth : Nat := 80

structure Pen where
  written : String
  column : Nat
  afterBlank : Bool
  indenting : Bool
  deriving Repr

namespace Pen

/-- The pen at the start of a text. -/
def start : Pen := ⟨"", 0, true, true⟩

/-- The pen after some characters of a line. -/
def put (pen : Pen) (s : List Char) : Pen :=
  { pen with written := pen.written ++ String.ofList s, column := pen.column + s.length }

/-- The pen within a word. -/
def inWord (pen : Pen) : Pen := { pen with afterBlank := false, indenting := false }

/-- A mark of the grammar, kept apart from what is in front of it. -/
def mark (pen : Pen) (s : String) : Pen :=
  (pen.put (if pen.afterBlank then s.toList else ' ' :: s.toList)).inWord

/-- A mark that follows what is in front of it directly. -/
def joinedMark (pen : Pen) (s : String) : Pen := (pen.put s.toList).inWord

/-- The mark that opens a collection within a line. -/
def openingMark (pen : Pen) (s : String) : Pen := { pen.mark s with afterBlank := true }

/-- A mark that counts as indentation. -/
def indentMark (pen : Pen) (s : String) : Pen := { pen.mark s with indenting := pen.indenting }

/-- The start of the next line. -/
def lineBreak (pen : Pen) : Pen := ⟨pen.written ++ "\n", 0, true, true⟩

/-- The pen at a column of an otherwise empty line. -/
def indent (pen : Pen) (column : Nat) : Pen :=
  let pen :=
    if !pen.indenting || pen.column > column || (pen.column == column && !pen.afterBlank) then
      pen.lineBreak
    else pen
  if pen.column < column then
    { pen.put (List.replicate (column - pen.column) ' ') with afterBlank := true }
  else pen

/-- The pen is past the width of the line. -/
def isPastWidth (pen : Pen) : Bool := lineWidth < pen.column

/-- A new line if the pen is past the width. -/
def wrap (pen : Pen) (column : Nat) : Pen := if pen.isPastWidth then pen.indent column else pen

end Pen

/-- The leading characters that are of the kind of the first one, for a given kind. -/
def leadingRun (test : Char → Bool) (s : List Char) : List Char :=
  match s with
  | [] => []
  | c :: r => c :: r.takeWhile (test · == test c)

/-! ## Plain and single-quoted scalars -/

/-- The words of a plain scalar, a single blank being a place to fold. -/
def plainFrom (fold : Bool) (column : Nat) : Nat → List Char → Pen → Pen
  | 0, _, pen => pen
  | _, [], pen => pen
  | fuel + 1, s, pen =>
    let run := leadingRun (· == ' ') s
    let rest := s.drop run.length
    if run == [' '] && fold && pen.isPastWidth then
      plainFrom fold column fuel rest (pen.indent column).inWord
    else plainFrom fold column fuel rest (pen.put run)

/-- A plain scalar. Folded lines start at the column. -/
def Pen.plain (pen : Pen) (fold : Bool) (column : Nat) (s : List Char) : Pen :=
  if s.isEmpty then pen
  else
    let pen := if pen.afterBlank then pen else pen.put [' ']
    plainFrom fold column s.length s pen.inWord

/-- A line feed for each of a run of line feeds, and one more. -/
def blankLines (n : Nat) (pen : Pen) : Pen := n.repeat Pen.lineBreak pen.lineBreak

/-- The inside of a single-quoted scalar: quotes are doubled, line feeds leave an empty
line between the lines they separate. -/
def singleFrom (fold : Bool) (column : Nat) : Nat → Bool → List Char → Pen → Pen
  | 0, _, _, pen => pen
  | _, _, [], pen => pen
  | fuel + 1, first, c :: r, pen =>
    if c == ' ' then
      let run := leadingRun (· == ' ') (c :: r)
      let rest := (c :: r).drop run.length
      if run == [' '] && pen.isPastWidth && fold && !first && !rest.isEmpty then
        singleFrom fold column fuel false rest (pen.indent column)
      else singleFrom fold column fuel false rest (pen.put run)
    else if c == '\n' then
      let run := leadingRun (· == '\n') (c :: r)
      singleFrom fold column fuel false ((c :: r).drop run.length)
        ((blankLines run.length pen).indent column)
    else singleFrom fold column fuel false r (pen.put (if c == '\'' then ['\'', '\''] else [c]))

/-- A single-quoted scalar. -/
def Pen.single (pen : Pen) (fold : Bool) (column : Nat) (s : List Char) : Pen :=
  (singleFrom fold column s.length true s (pen.mark "'")).joinedMark "'"

/-! ## Double-quoted scalars -/

/-- The escape of a character that has a short one. -/
def shortEscape? (c : Char) : Option Char :=
  [('\x00', '0'), ('\x07', 'a'), ('\x08', 'b'), ('\t', 't'), ('\n', 'n'), ('\x0b', 'v'),
    ('\x0c', 'f'), ('\r', 'r'), ('\x1b', 'e'), ('"', '"'), ('\\', '\\'), ('\u0085', 'N'),
    ('\u00a0', '_'), ('\u2028', 'L'), ('\u2029', 'P')].lookup c

/-- A character that stands for itself between double quotes. -/
def isBare (c : Char) : Bool := 32 ≤ c.toNat && c.toNat ≤ 126 && c != '"' && c != '\\'

/-- The escape of a character, with upper-case digits if it goes by number. -/
def escapeOf (c : Char) : List Char :=
  let upper := fun width => (Text.hex width c.toNat).map Char.toUpper
  match shortEscape? c with
  | some e => ['\\', e]
  | none =>
    if c.toNat ≤ 0xFF then '\\' :: 'x' :: upper 2
    else if c.toNat ≤ 0xFFFF then '\\' :: 'u' :: upper 4
    else '\\' :: 'U' :: upper 8

/-- A line of a double-quoted scalar ends here: a backslash marks it, and another one
keeps a blank that comes next. -/
def cutLine (column : Nat) (next : Option Char) (pen : Pen) : Pen :=
  let pen := ((pen.put ['\\']).indent column).inWord
  if next == some ' ' then pen.put ['\\'] else pen

/-- The inside of a double-quoted scalar. `held` are the characters that have been
passed but not written yet, the last one first. -/
def doubleFrom (fold : Bool) (column : Nat) : Bool → List Char → List Char → Pen → Pen
  | _, held, [], pen => pen.put held.reverse
  | first, held, c :: r, pen =>
    let canCut := fold && !first && !r.isEmpty
    if isBare c then
      let full := lineWidth < pen.column + held.length
      if canCut && (c == ' ' || held.isEmpty) && full then
        doubleFrom fold column false [c] r (cutLine column (some c) (pen.put held.reverse))
      else doubleFrom fold column false (c :: held) r pen
    else
      let pen := (pen.put held.reverse).put (escapeOf c)
      if canCut && lineWidth + 1 < pen.column then
        doubleFrom fold column false [] r (cutLine column r.head? pen)
      else doubleFrom fold column false [] r pen

/-- A double-quoted scalar. -/
def Pen.double (pen : Pen) (fold : Bool) (column : Nat) (s : List Char) : Pen :=
  (doubleFrom fold column true [] s (pen.mark "\"")).joinedMark "\""

/-! ## Literal scalars -/

/-- The indicators of a literal scalar's first and last characters: a given indentation
if it starts with a blank, and what becomes of the line ends after it. -/
def literalHints (s : List Char) : String :=
  let indentation := match s with
    | ' ' :: _ | '\n' :: _ => "2"
    | _ => ""
  let ends := match s.reverse with
    | '\n' :: '\n' :: _ | ['\n'] => "+"
    | '\n' :: _ => ""
    | _ => "-"
  if s.isEmpty then "" else indentation ++ ends

/-- The lines of a literal scalar. -/
def literalFrom (column : Nat) : Nat → List Char → Pen → Pen
  | 0, _, pen => pen
  | _, [], pen => pen
  | fuel + 1, '\n' :: r, pen => literalFrom column fuel r pen.lineBreak
  | fuel + 1, s, pen =>
    let line := s.takeWhile (· != '\n')
    let rest := s.drop line.length
    let pen := (pen.indent column).put line
    literalFrom column fuel (rest.drop 1) pen.lineBreak

/-- A literal scalar, each line at the column. -/
def Pen.literal (pen : Pen) (column : Nat) (s : List Char) : Pen :=
  literalFrom column (s.length + 1) s (pen.mark ("|" ++ literalHints s)).lineBreak

end Statecraft.Yaml
