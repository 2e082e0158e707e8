import Statecraft.Yaml.Char
import Statecraft.Yaml.Outline
import Statecraft.Yaml.Pen

/-!
# Writing YAML

Blocks are indented by two, except for a list that is the value of a key.
Collections of plain scalars are written within lines, which are broken after
column eighty. A scalar is plain if that reads back as the same value, or else in
the first style of quotes that can hold it.
-/

namespace Statecraft.Yaml

/-! ## Styles of scalars -/

/-- What matters about a text for the styles that can hold it. -/
structure Traits where
  empty : Bool
  multiline : Bool
  /-- Plain within lines. -/
  inlinePlain : Bool
  /-- Plain in blocks. -/
  blockPlain : Bool
  single : Bool
  literal : Bool
  deriving DecidableEq, Repr

/-- Ends a line of a scalar that is written on several lines. -/
def isLineEnd (c : Char) : Bool := isBreak c && c != '\r'

/-- A blank, a tab or a line's end, or nothing at all, comes next. -/
def spaceNext (s : List Char) : Bool := endsWith (fun c => c == '\x00' || isSpaceOrBreak c) s

/-- An indicator at the start of a text that is none within lines, or none anywhere. -/
def leadingIndicators (s : List Char) : Bool × Bool :=
  match s with
  | [] => (false, false)
  | c :: r =>
    if "#,[]\x7b\x7d&*!|>'\"%@\x60".toList.contains c then (true, true)
    else if c == '?' || c == ':' then (true, spaceNext r)
    else if c == '-' then (spaceNext r, spaceNext r)
    else (false, false)

/-- The same for what follows `before`. -/
def innerIndicators (before : Char) : List Char → Bool × Bool
  | [] => (false, false)
  | c :: r =>
    let (inline, block) := innerIndicators c r
    let comment := c == '#' && spaceNext [before]
    let colon := c == ':'
    (inline || comment || colon || ",?[]\x7b\x7d".toList.contains c,
      block || comment || (colon && spaceNext r))

/-- The text could be taken for a line between documents. -/
def looksLikeSeparator (s : List Char) : Bool :=
  "---".toList.isPrefixOf s || "...".toList.isPrefixOf s

/-- Two characters follow each other somewhere in the text. -/
def hasPair (a b : Char) : List Char → Bool
  | x :: y :: r => (x == a && y == b) || hasPair a b (y :: r)
  | _ => false

def Traits.ofText (s : List Char) : Traits :=
  if s.isEmpty then ⟨true, false, false, true, true, false⟩
  else
    let (leadInline, leadBlock) := leadingIndicators s
    let (inline, block) := match s with
      | c :: r => innerIndicators c r
      | [] => (false, false)
    let separator := looksLikeSeparator s
    let isEdge := fun (c : Option Char) => c == some ' ' || c.any isLineEnd
    let edges := isEdge s.head? || isEdge s.getLast?
    let special := s.any fun c => !(c == '\n' || (32 ≤ c.toNat && c.toNat ≤ 126))
    let multiline := s.any isLineEnd
    let foldable := !hasPair ' ' '\n' s && !special
    let plain := !edges && !multiline && foldable
    { empty := false
      multiline := multiline
      inlinePlain := plain && !(leadInline || inline || separator)
      blockPlain := plain && !(leadBlock || block || separator)
      single := foldable && !hasPair '\n' ' ' s
      literal := foldable && s.getLast? != some ' ' }

/-- The styles of scalars. -/
inductive Style where
  | plain
  | single
  | double
  | literal
  deriving DecidableEq, Repr

/-- Where a scalar stands: within a line, and as a key with its colon on the same line. -/
structure Place where
  inline : Bool
  isKey : Bool
  deriving DecidableEq, Repr

/-- The style of a scalar: bytes are literal, all else is plain if its form says what it is,
and quotes are the last resort. -/
def styleOf (place : Place) (tag : Tag) (s : List Char) : Style :=
  let t := Traits.ofText s
  if tag == .binary then
    if !place.inline && !place.isKey && t.literal then .literal else .double
  else if Tag.ofPlain s == tag && !(place.isKey && (t.empty || t.multiline))
      && (if place.inline then t.inlinePlain else t.blockPlain) then .plain
  else if t.single && !(place.isKey && t.multiline) then .single
  else .double

/-- The tag is written unless the style and form of the scalar imply it. -/
def needsTag (style : Style) (tag : Tag) (s : List Char) : Bool :=
  if style == .plain then Tag.ofPlain s != tag else tag != .text

/-- A tag's short form. -/
def tagMark (t : Tag) : String := "!!" ++ t.shortName

/-! ## Nodes -/

/-- The length of what comes in front of a key's text. -/
def propertyLength (anchor : Option String) (tag : Tag) : Nat :=
  (anchor.map String.length).getD 0 + (tagMark tag).length

/-- A key whose colon can follow on the same line. -/
def isSimpleKey : Outline → Bool
  | .alias name => name.length < 128
  | .scalar anchor tag s =>
    propertyLength anchor tag + s.length < 128 && !s.isEmpty && !s.any isLineEnd
  | .list anchor _ items => propertyLength anchor .list < 128 && items.isEmpty
  | .map anchor tag _ entries => propertyLength anchor tag < 128 && entries.isEmpty

/-- The indentation of what is within a line, or of a block. -/
def deeper (indent : Option Nat) (inline : Bool) : Nat :=
  match indent with
  | none => if inline then 2 else 0
  | some n => n + 2

def anchorMark (anchor : Option String) (pen : Pen) : Pen :=
  match anchor with
  | some a => pen.mark ("&" ++ a)
  | none => pen

/-- A scalar with its tag. -/
def writeScalar (indent : Option Nat) (place : Place) (tag : Tag) (s : List Char) (pen : Pen) :
    Pen :=
  let style := styleOf place tag s
  let pen := if needsTag style tag s then pen.mark (tagMark tag) else pen
  let column := deeper indent true
  let fold := !place.isKey
  match style with
  | .plain => pen.plain fold column s
  | .single => pen.single fold column s
  | .double => pen.double fold column s
  | .literal => pen.literal column s

mutual

/-- A node. A block list that is the value of a key is not indented further if the pen has
left the indentation. -/
def writeNode (indent : Option Nat) (inMap : Bool) (place : Place) : Outline → Pen → Pen
  | .alias name, pen => pen.mark ("*" ++ name)
  | .scalar anchor tag s, pen => writeScalar indent place tag s (anchorMark anchor pen)
  | .list anchor inline items, pen =>
    let pen := anchorMark anchor pen
    if place.inline || inline || items.isEmpty then
      let column := deeper indent true
      (writeInlineItems column true items (pen.openingMark "[")).joinedMark "]"
    else
      let column := match indent with
        | some n => if inMap && !pen.indenting then n else n + 2
        | none => 0
      writeBlockItems column items pen
  | .map anchor tag inline entries, pen =>
    let pen := anchorMark anchor pen
    let pen := if tag == .map then pen else pen.mark (tagMark tag)
    if place.inline || inline || entries.isEmpty then
      let column := deeper indent true
      (writeInlineEntries column true entries (pen.openingMark "\x7b")).joinedMark "\x7d"
    else writeBlockEntries (deeper indent false) entries pen

/-- The items within a line, which may be broken before each of them. -/
def writeInlineItems (column : Nat) (first : Bool) : List Outline → Pen → Pen
  | [], pen => pen
  | o :: r, pen =>
    let pen := (if first then pen else pen.joinedMark ",").wrap column
    writeInlineItems column false r (writeNode (some column) false ⟨true, false⟩ o pen)

/-- The entries within a line. -/
def writeInlineEntries (column : Nat) (first : Bool) : List (Outline × Outline) → Pen → Pen
  | [], pen => pen
  | (k, v) :: r, pen =>
    let pen := (if first then pen else pen.joinedMark ",").wrap column
    let pen :=
      if isSimpleKey k then (writeNode (some column) true ⟨true, true⟩ k pen).joinedMark ":"
      else
        ((writeNode (some column) true ⟨true, false⟩ k (pen.mark "?")).wrap column).mark ":"
    writeInlineEntries column false r (writeNode (some column) true ⟨true, false⟩ v pen)

/-- The items of a block list, each after a dash. -/
def writeBlockItems (column : Nat) : List Outline → Pen → Pen
  | [], pen => pen
  | o :: r, pen =>
    let pen := (pen.indent column).indentMark "-"
    writeBlockItems column r (writeNode (some column) false ⟨false, false⟩ o pen)

/-- The entries of a block map. A key that cannot be written simply has a mark of its own. -/
def writeBlockEntries (column : Nat) : List (Outline × Outline) → Pen → Pen
  | [], pen => pen
  | (k, v) :: r, pen =>
    let pen := pen.indent column
    let pen :=
      if isSimpleKey k then (writeNode (some column) true ⟨false, true⟩ k pen).joinedMark ":"
      else
        let pen := writeNode (some column) true ⟨false, false⟩ k (pen.indentMark "?")
        (pen.indent column).indentMark ":"
    writeBlockEntries column r (writeNode (some column) true ⟨false, false⟩ v pen)

end

/-- The text of an outline. -/
def Outline.text (o : Outline) : String :=
  ((writeNode none false ⟨false, false⟩ o Pen.start).indent 0).written

/-- The text of a document. -/
def write (d : Document) : Except Decimal.LimitError String :=
  (Outline.ofDocument d).map Outline.text

end Statecraft.Yaml
