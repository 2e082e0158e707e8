import Statecraft.Literal.Formatted
import Statecraft.Literal.Grammar

/-!
# Expressions of texts

The expression that a text is, or what is wrong with the text. The fields of the texts in
it are expressions of their own, which are read where they stand. What is wrong with a
field is told apart from what is wrong with the expression that the field is a part of.
-/

namespace Statecraft.Literal

/-- The most patterns that are tried within each other. -/
def depthFor (ts : Tokens) : Nat := 200 * (ts.list.length + 2)

/-! ## Places -/

/-- A text and where it stands: its first line, and the bytes in front of it on that line. -/
structure Passage where
  text : List Char
  line : Nat
  column : Nat
  deriving DecidableEq, Repr

namespace Passage

/-- The place in the text that has a number of characters behind it. -/
def place (p : Passage) (left : Nat) : Place := Place.behind (p.text.take (p.text.length - left))

/-- Where a token starts. -/
def startOf (p : Passage) (t : Token) : Place := p.place t.left

/-- Where a token stops. -/
def stopOf (p : Passage) (t : Token) : Place := p.place (t.left - t.lexeme.length)

/-- The bytes in front of a token. Those in front of the passage count if the token stops in the
first line. -/
def columnOf (p : Passage) (t : Token) : Nat :=
  (p.startOf t).column + (if (p.stopOf t).above == 0 then p.column else 0)

/-- What is pointed at lies in front of the passage, counted from the passage's own column on
lines below the first. -/
def precedes (p : Passage) : Pointer → Bool
  | .token t => (p.stopOf t).above != 0 && (p.startOf t).column + 1 < p.column
  | .lastOf t => (p.stopOf t).above != 0 && (p.stopOf t).column < p.column
  | .nothing => 0 < p.column

end Passage

/-! ## Messages -/

/-- What is said about tokens that cannot be read: a fault among those that follow comes first, and
a bracket that is open since an earlier line than the last token's. -/
def settled (ts : Tokens) (seen : Nat) (trouble : Trouble) : Trouble :=
  let line := ((ts.list[seen - 1]?).map Token.line).getD 0
  let openSince := ts.opened.head?.filter fun o => o.2 < line
  match ts.fault, openSince with
  | some fault, since =>
    if fault.ofToken then .message fault.message
    else (since.map fun o => .message (Fault.unclosed o.1).message).getD trouble
  | none, _ => trouble

/-- How messages about an expression begin. -/
def opening : Rule → String
  | .field => "f-string: "
  | _ => ""

/-- The expression that tokens of a passage are by a rule. They are read once, and once more to
tell what is wrong. -/
def expressionBy (g : Grammar Rule) (rule : Rule) (passage : Passage) (ts : Tokens) :
    Except Trouble Node :=
  let source : Source := ⟨ts.list.toArray, ts.fault⟩
  let attempt := fun (telling : Bool) (seen : Nat) =>
    (g.read source (depthFor ts) telling (.rule rule) 0).run.run ⟨∅, seen⟩
  let own := fun (text : String) (pointer : Pointer) =>
    if passage.precedes pointer then Trouble.lost else .message (opening rule ++ text)
  let told := fun (trouble : Trouble) (seen : Nat) =>
    match trouble with
    | .lost => .lost
    | trouble =>
      if ((ts.list[seen - 1]?).map Token.showsEnd).getD false then trouble
      else settled ts seen trouble
  let halted := fun (halt : Halt) (seen : Nat) =>
    match halt with
    | .fault fault => .message ((if fault.ofToken then "" else opening rule) ++ fault.message)
    | .message text pointer => told (own text pointer) seen
    | .inside trouble => told trouble seen
  match attempt false 0 with
  | (.error halt, p) => .error (halted halt p.seen)
  | (.ok (.read [n] _), _) => .ok n
  | (.ok _, p) =>
    match attempt true p.seen with
    | (.error halt, q) => .error (halted halt q.seen)
    | (.ok _, q) =>
      let last := ts.list[p.seen - 1]?
      let pointer := pointing .token last
      match last.map Token.kind with
      | some .indent => .error (own "unexpected indent" pointer)
      | some .dedent => .error (own "unexpected unindent" pointer)
      | _ => .error (settled ts q.seen (own "invalid syntax" pointer))

/-! ## Fields -/

/-- The brace of a field is the last thing on its line. -/
def endsLine (field : List Char) : Bool :=
  (field.dropWhile fun c => c == ' ' || c == '\t' || c == '\x0c').head? == some '\n'

/-- The passage of a field in a token of another passage. The field is read as if it were in
brackets, with the line ended behind it. -/
def Passage.field (p : Passage) (t : Token) (text : List Char) (brace : Place) : Passage :=
  ⟨'(' :: text ++ [')', '\n'], t.line + brace.above,
    (if endsLine text then 0 else brace.column) + (if brace.above == 0 then p.columnOf t else 0)⟩

/-- What is wrong with the expression of a field. -/
def fieldTrouble? (grammarIn : Passage → Grammar Rule) (field : Passage) : Option Trouble :=
  match expressionBy (grammarIn field) .field field (Tokens.ofText field.line field.text) with
  | .error trouble => some trouble
  | .ok _ => none

/-- Why a text with fields stops the reading of the tokens that it belongs to. -/
def formattedHalt? (fieldTrouble? : Passage → Option Trouble) (p : Passage) (t : Token) :
    Option Built :=
  let parts := Parts.ofToken t
  let wrong := parts.list.findSome? fun
    | .run text =>
      (escapeFault? (text.length + 1) 0 text).map fun fault => .messageAtLast fault.message
    | .expression text brace =>
      (fieldTrouble? (p.field t text brace)).map fun trouble => .halt (.inside trouble)
  wrong <|> parts.fault.map fun fault => .messageAtLast fault.message

/-- What texts in a row are, behind those that are known to be `before`. -/
def joinedBehind (fieldTrouble? : Passage → Option Trouble) (p : Passage) (before : Option Quoted) :
    List Token → Built
  | [] => .nodes (before.toList.map Node.ofQuoted)
  | t :: r =>
    match t.quoted with
    | .error fault => .halt (.message fault.message (.token t))
    | .ok quoted =>
      match (before.map fun q => q.join quoted).getD (.ok quoted) with
      | .error fault => .messageAtLast fault.message
      | .ok all =>
        match if quoted == .formatted then formattedHalt? fieldTrouble? p t else none with
        | some wrong => wrong
        | none => joinedBehind fieldTrouble? p (some all) r

/-- The grammar of the literals of a passage, in which texts with fields may be within each other
up to a depth. -/
def grammarTo : Nat → Passage → Grammar Rule
  | 0, p => grammarWith (joinedBehind (fun _ => none) p none)
  | depth + 1, p => grammarWith (joinedBehind (fieldTrouble? (grammarTo depth)) p none)

/-- The expression that a text is. A field is shorter than the text that it is a part of. -/
def expressionOf (text : List Char) : Except Trouble Node :=
  let passage : Passage := ⟨text, 1, 0⟩
  expressionBy (grammarTo text.length passage) .whole passage (Tokens.ofText 1 text)

end Statecraft.Literal
