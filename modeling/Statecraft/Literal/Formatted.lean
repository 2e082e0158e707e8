import Statecraft.Literal.Quote

/-!
# Texts with fields

A text with an `f` in front of its quotes has fields in braces. A field is an expression,
perhaps with an equals sign behind it, with a conversion behind an exclamation mark, and
with a format behind a colon. A format may have fields as well, and their formats have
none. Where a text is no format, two equal braces in a row stand for one.

`Parts.ofToken` splits such a text as far as it is written rightly. Whether its
expressions and escapes are right is for those who read them.
-/

namespace Statecraft.Literal

/-- Why a text with fields cannot be split. -/
inductive FormatFault where
  | loneBrace
  | tooDeep
  | backslash
  | comment
  | tooNested
  | unmatched (bracket : Char)
  | mismatched (closing opening : Char)
  | unterminated
  | unclosed
  | empty
  | missing (mark : Char)
  | badConversion
  deriving DecidableEq, Repr

def FormatFault.message : FormatFault → String
  | .loneBrace => "f-string: single '\x7d' is not allowed"
  | .tooDeep => "f-string: expressions nested too deeply"
  | .backslash => "f-string expression part cannot include a backslash"
  | .comment => "f-string expression part cannot include '#'"
  | .tooNested => "f-string: too many nested parenthesis"
  | .unmatched c => "f-string: unmatched '" ++ c.toString ++ "'"
  | .mismatched closing opening =>
    "f-string: closing parenthesis '" ++ closing.toString ++ "' does not match opening parenthesis '"
      ++ opening.toString ++ "'"
  | .unterminated => "f-string: unterminated string"
  | .unclosed => "f-string: expecting '\x7d'"
  | .empty => "f-string: empty expression not allowed"
  | .missing mark => "f-string: expression required before '" ++ mark.toString ++ "'"
  | .badConversion => "f-string: invalid conversion character: expected 's', 'r', or 'a'"

/-! ## Characters between fields -/

/-- Characters up to a brace, and what follows them. -/
structure Run where
  text : List Char
  rest : Rest
  /-- The brace is doubled: it belongs to the characters, and its twin is left out. -/
  doubled : Bool
  deriving DecidableEq, Repr

def Run.after (c : Char) (run : Run) : Run := { run with text := c :: run.text }

def isBrace (c : Char) : Bool := c == '\x7b' || c == '\x7d'

/-- What stands before a character: nothing special, a backslash, the beginning of an escape with a
name, or that and an opening brace. -/
inductive Escaping where
  | none
  | backslash
  | code
  | name
  deriving DecidableEq, Repr

/-- What stands before the character behind `c`. -/
def Escaping.next (raw : Bool) (e : Escaping) (c : Char) : Escaping :=
  match e with
  | .none => if c == '\\' && !raw then .backslash else .none
  | .backslash => if c == 'N' then .code else .none
  | .code => if c == '\x7b' then .name else .none
  | .name => if c == '\x7d' then .none else .name

/-- Braces are parts of an escape here. -/
def Escaping.takesBraces (e : Escaping) : Bool := e == .code || e == .name

/-- The characters that a text starts with. -/
def runOf (raw inFormat : Bool) (e : Escaping) : Rest → Except FormatFault Run
  | [] => .ok ⟨[], [], false⟩
  | c :: r => do
    if isBrace c && !e.takesBraces then
      if !inFormat && r.head? == some c then return ⟨[c], r.drop 1, true⟩
      else if !inFormat && c == '\x7d' then throw .loneBrace
      else return ⟨[], c :: r, false⟩
    else return Run.after c (← runOf raw inFormat (e.next raw c) r)

/-! ## Expressions -/

/-- What is open within an expression: brackets, the innermost first, and a text in quotes, with
its quote and how many of them close it. -/
structure Nesting where
  brackets : List Char
  quote : Option (Char × Nat)
  deriving DecidableEq, Repr

namespace Nesting

/-- What is wrong if the text ends here. -/
def endFault (n : Nesting) : FormatFault :=
  match n.quote, n.brackets with
  | some _, _ => .unterminated
  | none, c :: _ => .unmatched c
  | none, [] => .unclosed

/-- A character that may end an expression outside of brackets. -/
def mayEnd (c : Char) : Bool := ['!', ':', '=', '<', '>', '\x7d'].contains c

/-- A character that makes a comparison with an equals sign behind it. -/
def mayCompare (c : Char) : Bool := ['!', '=', '<', '>'].contains c

/-- The quotes that open a text: three or one. -/
def quotesAt (c : Char) (r : Rest) : Nat := if r.take 2 == [c, c] then 3 else 1

/-- What is open behind a character, and how many characters belong together with it. None if the
expression ends in front of it. -/
def step (n : Nesting) (c : Char) (r : Rest) : Except FormatFault (Option (Nesting × Nat)) :=
  if c == '\\' then .error .backslash
  else
    match n.quote with
    | some (quote, size) =>
      if (List.replicate size quote).isPrefixOf (c :: r) then
        .ok (some ({ n with quote := none }, size - 1))
      else .ok (some (n, 0))
    | none =>
      if c == '\'' || c == '"' then
        .ok (some ({ n with quote := some (c, quotesAt c r) }, quotesAt c r - 1))
      else if c == '(' || c == '[' || c == '\x7b' then
        if bracketLimit ≤ n.brackets.length then .error .tooNested
        else .ok (some ({ n with brackets := c :: n.brackets }, 0))
      else if c == '#' then .error .comment
      else if n.brackets.isEmpty && mayEnd c then
        if mayCompare c && r.head? == some '=' then .ok (some (n, 1))
        else if c == '<' || c == '>' then .ok (some (n, 0))
        else .ok none
      else if c == ')' || c == ']' || c == '\x7d' then
        match n.brackets with
        | [] => .error (.unmatched c)
        | opening :: others =>
          if closingOf opening == c then .ok (some ({ n with brackets := others }, 0))
          else .error (.mismatched c opening)
      else .ok (some (n, 0))

/-- The expression that a text starts with, and what follows it. The next `together` characters
belong to it. -/
def split : Nat → Nesting → Rest → Except FormatFault (List Char × Rest)
  | _, n, [] => .error n.endFault
  | together + 1, n, c :: r => do
    let (expression, rest) ← split together n r
    return (c :: expression, rest)
  | 0, n, c :: r => do
    match ← n.step c r with
    | none => return ([], c :: r)
    | some (n, together) =>
      let (expression, rest) ← split together n r
      return (c :: expression, rest)

end Nesting

/-! ## Fields -/

/-- A place in a text: the number of lines above it, and that of bytes in front of it on its line. -/
structure Place where
  above : Nat
  column : Nat
  deriving DecidableEq, Repr

/-- The number of bytes of a text. -/
def byteLength (s : List Char) : Nat := s.foldl (fun n c => n + c.utf8Size) 0

/-- Where a text stops. -/
def Place.behind (s : List Char) : Place :=
  ⟨(s.filter (· == '\n')).length, byteLength (s.reverse.takeWhile (· != '\n'))⟩

/-- What is to be looked into: characters with their escapes, and expressions with the places of
their braces. -/
inductive Part where
  | run (text : List Char)
  | expression (text : List Char) (brace : Place)
  deriving DecidableEq, Repr

/-- Splitting gives parts until something is wrong. -/
abbrev Splitting (α : Type) := ExceptT FormatFault (StateM (List Part)) α

def give (part : Part) : Splitting Unit := modify (· ++ [part])

def isBlankInField (c : Char) : Bool := c == ' ' || c == '\t' || c == '\n' || c == '\x0c'

/-- The text after an equals sign, which may have blanks behind it. -/
def afterEquals (s : Rest) : Rest :=
  match s with
  | '=' :: r => r.dropWhile fun c => isBlankInField c || c == '\x0b' || c == '\r'
  | r => r

/-- The text after a conversion. -/
def afterConversion (s : Rest) : Except FormatFault Rest :=
  match s with
  | '!' :: c :: r => if c == 's' || c == 'r' || c == 'a' then .ok r else .error .badConversion
  | ['!'] => .error .unclosed
  | r => .ok r

/-- Fields in a text are at level zero, those in its formats at level one. -/
def levelLimit : Nat := 2

/-- Splits a text up to its end, or to the brace that closes the field whose format it is. `place`
tells where what is left of it stands. -/
def splitParts (raw : Bool) (place : Rest → Place) : Nat → Nat → Rest → Splitting Rest
  | 0, _, s => return s
  | fuel + 1, level, s => do
    let run ← runOf raw (0 < level) .none s
    if !raw && !run.text.isEmpty then give (.run run.text)
    match run.doubled, run.rest with
    | true, rest => splitParts raw place fuel level rest
    | false, '\x7b' :: r =>
      if levelLimit ≤ level then throw .tooDeep
      let (expression, behind) ← Nesting.split 0 ⟨[], none⟩ r
      let mark := behind.headD '\x7d'
      if expression.all isBlankInField then throw (if mark == '\x7d' then .empty else .missing mark)
      give (.expression expression (place run.rest))
      let behind ← match ← afterConversion (afterEquals behind) with
        | ':' :: r => splitParts raw place fuel (level + 1) r
        | r => pure r
      match behind with
      | '\x7d' :: r => splitParts raw place fuel level r
      | _ => throw .unclosed
    | false, rest => return rest

/-- The parts of a text with fields, in order, and what is wrong behind them. -/
structure Parts where
  list : List Part
  fault : Option FormatFault
  deriving DecidableEq, Repr

/-- The parts of a text that is written with fields. -/
def Parts.ofToken (t : Token) : Parts :=
  let place := fun (rest : Rest) =>
    Place.behind (t.lexeme.take (t.opening + (t.body.length - rest.length)))
  match (splitParts t.isRaw place (t.body.length + 1) 0 t.body).run.run [] with
  | (.ok _, list) => ⟨list, none⟩
  | (.error fault, list) => ⟨list, some fault⟩

end Statecraft.Literal
