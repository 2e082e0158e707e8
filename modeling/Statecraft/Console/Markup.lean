import Statecraft.Console.Emoji
import Statecraft.Console.Style
import Statecraft.Literal.Value
import Statecraft.Text.Quoted

/-!
# Marked-up text

Text with tags in brackets, which open styles and close them again. A tag begins
with a small letter, a hash, a slash or an at sign; other brackets are text. A
backslash in front of a tag takes it as text, and of several backslashes each two
stand for one. The parameters of a tag follow an equals sign; those of a tag that begins
with an at sign are a literal, perhaps after a name, which is read when the tag is closed.

`render` gives the text that is seen, `escape` the markup for a text that is to be
seen as it is.
-/

namespace Statecraft.Console

/-- What markup is made of: text, and tags at their positions, without the brackets. -/
inductive Piece where
  | plain (text : List Char)
  | tag (inside : List Char) (position : Nat)
  deriving DecidableEq, Repr

namespace Piece

/-- A character that a tag may begin with. -/
def startsTag (c : Char) : Bool := ('a' ≤ c && c ≤ 'z') || c == '#' || c == '/' || c == '@'

/-- What comes before the first closing bracket, unless a bracket opens before it. -/
def beforeClosing? : List Char → Option (List Char)
  | [] => none
  | c :: r =>
    if c == ']' then some []
    else if c == '[' then none
    else (beforeClosing? r).map (c :: ·)

/-- What is inside a tag whose opening bracket stands in front of the text. -/
def inside? : List Char → Option (List Char)
  | [] => none
  | c :: r => if startsTag c then (beforeClosing? r).map (c :: ·) else none

/-- The tag that the text starts with, and the number of backslashes in front of it. -/
def tagAt? (text : List Char) : Option (Nat × List Char) :=
  let slashes := (text.takeWhile (· == '\\')).length
  match text.drop slashes with
  | '[' :: r => (inside? r).map (slashes, ·)
  | _ => none

/-- A tag with its brackets. -/
def bracketed (inside : List Char) : List Char := '[' :: inside ++ [']']

/-- Text as a piece, if there is any. -/
def ofPlain (text : List Char) : List Piece := if text.isEmpty then [] else [.plain text]

/-- The pieces of a text that starts at a position; `run` is the text that has been read since
the last tag, in reverse. -/
def scan (position : Nat) (run text : List Char) : List Piece :=
  match text with
  | [] => ofPlain run.reverse
  | c :: r =>
    match tagAt? (c :: r) with
    | none => scan (position + 1) (c :: run) r
    | some (slashes, inside) =>
      let tag := if slashes % 2 == 1 then .plain (bracketed inside)
        else .tag inside (position + slashes)
      let after := scan (position + slashes + inside.length + 2) []
        (r.drop (slashes + inside.length + 1))
      ofPlain run.reverse ++ ofPlain (List.replicate (slashes / 2) '\\') ++ tag :: after
termination_by text.length
decreasing_by all_goals simp only [List.length_cons, List.length_drop]; omega

/-- The pieces of a text. -/
def ofMarkup (text : List Char) : List Piece := scan 0 [] text

end Piece

/-- Why markup gives no text: a closing tag for a style that is not open, one when no style is
open, a colour that is no colour, or parameters that are no literal. -/
inductive MarkupFault where
  | unmatched (inside : String) (position : Nat)
  | nothingOpen (position : Nat)
  | number (fault : NumberFault)
  | parameters (literal whole : String) (refusal : Literal.Refusal)
  deriving DecidableEq, Repr

def MarkupFault.message : MarkupFault → String
  | .unmatched inside p =>
    "closing tag '[" ++ inside ++ "]' at position " ++ Decimal.natText p
      ++ " doesn't match any open tag"
  | .nothingOpen p => "closing tag '[/]' at position " ++ Decimal.natText p ++ " has nothing to close"
  | .number fault => fault.message
  | .parameters literal whole (.writing message) =>
    "error parsing " ++ Text.quoted literal ++ " in " ++ Text.quoted whole ++ "; " ++ message
  | .parameters _ whole .lost =>
    "error parsing " ++ Text.quoted whole ++ "; Negative size passed to PyUnicode_New"
  | .parameters _ whole (.value fault) =>
    "error parsing " ++ Text.quoted whole ++ "; " ++ fault.message

/-- The bell, the backspace and the controls that move between lines and pages. -/
def isControl (c : Char) : Bool := [7, 8, 11, 12, 13].contains c.toNat

/-- A text as it is seen without markup. -/
def visible (text : String) : String := String.ofList (text.toList.filter (!isControl ·))

/-- The text without the backslashes in front of brackets. -/
def withoutSlashes : List Char → List Char
  | '\\' :: '[' :: r => '[' :: withoutSlashes r
  | c :: r => c :: withoutSlashes r
  | [] => []

/-- A run of text between tags as it is seen. -/
def seen (text : List Char) : List Char :=
  (withEmoji (withoutSlashes text)).filter (!isControl ·)

/-- A tag that is open: the name of its style, and its parameters if it has an equals sign. -/
structure OpenTag where
  name : String
  parameters : Option (List Char)
  deriving DecidableEq, Repr

/-- The name of a style in a tag, without parameters. -/
def tagStyle (inside : List Char) : Except MarkupFault String :=
  match styleName (String.ofList (inside.takeWhile (· != '='))) with
  | .ok name => .ok name
  | .error fault => .error (.number fault)

namespace OpenTag

/-- The tag that opens a style. -/
def ofTag (inside : List Char) : Except MarkupFault OpenTag := do
  let name ← tagStyle inside
  .ok ⟨name, if inside.contains '=' then some ((inside.dropWhile (· != '=')).drop 1) else none⟩

/-- The literal in trimmed parameters: what stands in round brackets after a name, nothing in
brackets after a name alone, and else the parameters as they are. -/
def literalOf (parameters : List Char) : List Char :=
  match parameters.dropWhile fun c => Text.isWordChar c || c == '.' with
  | [] => "()".toList
  | '(' :: r =>
    if r.getLast? == some ')' && !r.contains '\n' then '(' :: r else parameters
  | _ => parameters

/-- A tag can be closed: if it begins with an at sign, its parameters have to be a literal. -/
def closing (tag : OpenTag) : Except MarkupFault Unit :=
  let parameters := tag.parameters.getD []
  if tag.name.toList.head? != some '@' || parameters.isEmpty then .ok ()
  else
    let literal := literalOf (Text.trim parameters)
    match Literal.check literal with
    | .ok () => .ok ()
    | .error refusal =>
      .error (.parameters (String.ofList literal) (String.ofList parameters) refusal)

end OpenTag

/-- The text of pieces, after tags that opened some styles and did not close them, the latest
first. A closing tag closes the latest style of its name, or without a name the latest of all. -/
def renderPieces : List OpenTag → List Piece → Except MarkupFault (List Char)
  | _, [] => .ok []
  | opened, .plain text :: r => (renderPieces opened r).map (seen text ++ ·)
  | opened, .tag ('/' :: inside) p :: r =>
    if Text.isBlankText (String.ofList (inside.takeWhile (· != '='))) then
      match opened with
      | [] => .error (.nothingOpen p)
      | latest :: others => do
        latest.closing
        renderPieces others r
    else do
      let name ← tagStyle (Text.trim inside)
      match opened.find? (·.name == name) with
      | some tag => do
        tag.closing
        renderPieces (opened.erase tag) r
      | none => .error (.unmatched (String.ofList ('/' :: inside)) p)
  | opened, .tag inside _ :: r => do
    let tag ← OpenTag.ofTag inside
    renderPieces (tag :: opened) r

/-- The text that markup shows. -/
def render (markup : String) : Except MarkupFault String :=
  (renderPieces [] (Piece.ofMarkup markup.toList)).map String.ofList

/-- The text with a backslash in front of each tag. -/
def escapeTags (text : List Char) : List Char :=
  match text with
  | [] => []
  | c :: r =>
    match Piece.tagAt? (c :: r) with
    | none => c :: escapeTags r
    | some (slashes, inside) =>
      List.replicate (2 * slashes + 1) '\\' ++ Piece.bracketed inside
        ++ escapeTags (r.drop (slashes + inside.length + 1))
termination_by text.length
decreasing_by all_goals simp only [List.length_cons, List.length_drop]; omega

/-- The markup of a text. A single backslash at its end is doubled, as it could stand in front
of a tag. -/
def escape (text : String) : String :=
  let escaped := escapeTags text.toList
  let slashes := (escaped.reverse.takeWhile (· == '\\')).length
  String.ofList (if slashes == 1 then escaped ++ ['\\'] else escaped)

end Statecraft.Console
