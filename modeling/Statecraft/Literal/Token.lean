import Statecraft.Decimal.Notation
import Statecraft.Text.Identifier
import Statecraft.Text.Printable

/-!
# Tokens of literals

A literal is written in words, numbers, texts in quotes, and marks. Within brackets
lines may end anywhere; outside of them the ends of lines and the indentation of lines
are tokens of their own. A backslash at the end of a line joins it to the next one.
-/

namespace Statecraft.Literal

inductive Token.Kind where
  | name
  | keyword
  | number
  | text
  | mark
  | lineEnd
  | indent
  | dedent
  | finish
  deriving DecidableEq, Repr

/-- A token with the line it starts in, and how many characters are left from there on; with the
number of brackets that are open behind it; and whether reading it has shown that the text ends
there. -/
structure Token where
  kind : Token.Kind
  lexeme : List Char
  line : Nat
  left : Nat
  level : Nat
  showsEnd : Bool
  deriving DecidableEq, Repr

/-- Why a text has no more tokens. -/
inductive Fault where
  | unterminated (triple : Bool) (line : Nat)
  | unclosed (opening : Char)
  | unmatched (closing : Char)
  | mismatched (closing opening : Char) (openingLine : Option Nat)
  | tooNested
  | badNumber (base : String)
  | badDigit (digit : Char) (base : String)
  | leadingZeros
  | badCharacter (c : Char)
  | joinedWrongly
  | endsJoined
  | badDedent
  | mixedIndentation
  | tooIndented
  deriving DecidableEq, Repr

namespace Fault

/-- A code point in at least four capital digits. -/
def codePoint (c : Char) : String :=
  let digits := (Nat.toDigits 16 c.toNat).map Char.toUpper
  "U+" ++ String.ofList (List.replicate (4 - digits.length) '0' ++ digits)

def message : Fault → String
  | .unterminated triple line =>
    "unterminated " ++ (if triple then "triple-quoted " else "")
      ++ "string literal (detected at line " ++ Decimal.natText line ++ ")"
  | .unclosed c => "'" ++ c.toString ++ "' was never closed"
  | .unmatched c => "unmatched '" ++ c.toString ++ "'"
  | .mismatched closing opening line =>
    "closing parenthesis '" ++ closing.toString ++ "' does not match opening parenthesis '"
      ++ opening.toString ++ "'" ++ ((line.map fun n => " on line " ++ Decimal.natText n).getD "")
  | .tooNested => "too many nested parentheses"
  | .badNumber base => "invalid " ++ base ++ " literal"
  | .badDigit d base => "invalid digit '" ++ d.toString ++ "' in " ++ base ++ " literal"
  | .leadingZeros =>
    "leading zeros in decimal integer literals are not permitted; "
      ++ "use an 0o prefix for octal integers"
  | .badCharacter c =>
    if Text.isPrintable c then "invalid character '" ++ c.toString ++ "' (" ++ codePoint c ++ ")"
    else "invalid non-printable character " ++ codePoint c
  | .joinedWrongly => "unexpected character after line continuation character"
  | .endsJoined => "unexpected EOF while parsing"
  | .badDedent => "unindent does not match any outer indentation level"
  | .mixedIndentation => "inconsistent use of tabs and spaces in indentation"
  | .tooIndented => "too many levels of indentation"

/-- The fault is one of a token itself. The others only show where a token is missing. -/
def ofToken : Fault → Bool
  | .unclosed _ | .joinedWrongly | .endsJoined | .badDedent | .mixedIndentation | .tooIndented =>
    false
  | _ => true

end Fault

/-- An open bracket and its line. -/
abbrev Opened := Char × Nat

/-- The tokens of a text, the fault that ends them if they do not reach the end, and the brackets
that are open there, the innermost first. -/
structure Tokens where
  list : List Token
  fault : Option Fault
  opened : List Opened
  deriving Repr

/-! ## Words, numbers and texts -/

def keywords : List String :=
  ["False", "None", "True", "and", "as", "assert", "async", "await", "break", "class", "continue",
   "def", "del", "elif", "else", "except", "finally", "for", "from", "global", "if", "import", "in",
   "is", "lambda", "nonlocal", "not", "or", "pass", "raise", "return", "try", "while", "with",
   "yield"]

/-- A character that a word is taken to begin with; what is beyond ASCII is looked at later. -/
def isWordStart (c : Char) : Bool := Text.isAsciiLetter c || c == '_' || 128 ≤ c.toNat

def isWordPart (c : Char) : Bool := isWordStart c || Text.isAsciiDigit c

/-- The first character that a word cannot have where it stands. -/
def wrongInWord? (word : List Char) : Option Char :=
  match word with
  | [] => none
  | c :: r => if Text.startsName c then r.find? (!Text.continuesName ·) else some c

/-- What is left of a text. -/
abbrev Rest := List Char

/-- Words that stand between two values. They may follow a number directly. -/
def wordsBehindNumbers : List String := ["and", "else", "for", "or", "not"]

/-- What more words that stand between two values begin with. -/
def startsBehindNumbers : List String := ["if", "in", "is"]

/-- The number ends here: not in front of a letter, unless it belongs to a word that may stand
behind a number. Letters beyond ASCII are no part of this rule. -/
def endOfNumber (base : String) (s : Rest) : Except Fault Rest :=
  let isAscii := s.head?.any fun c => c.toNat < 128
  if startsBehindNumbers.any fun w => w.toList.isPrefixOf s then .ok s
  else if wordsBehindNumbers.contains (String.ofList (s.takeWhile isWordPart)) then .ok s
  else if isAscii && s.head?.any isWordPart then .error (.badNumber base)
  else .ok s

/-- Digits with single underscores between them; the text starts with a digit. -/
def decimalTail : Nat → Rest → Except Fault Rest
  | 0, s => .ok s
  | fuel + 1, s =>
    match s.dropWhile Text.isAsciiDigit with
    | '_' :: r =>
      if r.head?.any Text.isAsciiDigit then decimalTail fuel r else .error (.badNumber "decimal")
    | r => .ok r

def isLetter (letter c : Char) : Bool := c.toLower == letter

/-- The rest of a number after its digits and point: an exponent and the mark of an imaginary
one. An `e` without digits may begin a word that stands between two values. -/
def numberTail (s : Rest) : Except Fault Rest :=
  let imaginary := fun (s : Rest) =>
    if s.head?.any (isLetter 'j') then endOfNumber "imaginary" (s.drop 1) else endOfNumber "decimal" s
  if s.head?.any (isLetter 'e') then
    let signed := (s.drop 1).head?.any fun c => c == '+' || c == '-'
    let digits := if signed then s.drop 2 else s.drop 1
    if digits.head?.any Text.isAsciiDigit then do
      imaginary (← decimalTail digits.length digits)
    else if signed then .error (.badNumber "decimal")
    else endOfNumber "decimal" s
  else imaginary s

/-- The rest of a number after its point. -/
def fraction (s : Rest) : Except Fault Rest :=
  if s.head?.any Text.isAsciiDigit then do numberTail (← decimalTail s.length s) else numberTail s

/-- The rest of a number after the digits before its point. -/
def afterWhole (s : Rest) : Except Fault Rest :=
  match s with
  | '.' :: r => fraction r
  | r => numberTail r

/-- Digits of a base, with single underscores in front of them and between them. -/
def basedDigits (base : String) (isDigit : Char → Bool) : Nat → Rest → Except Fault Rest
  | 0, s => .ok s
  | fuel + 1, s =>
    let s := if s.head? == some '_' then s.drop 1 else s
    match s with
    | c :: r =>
      if isDigit c then
        match r.dropWhile isDigit with
        | '_' :: t => basedDigits base isDigit fuel ('_' :: t)
        | t => .ok t
      else if Text.isAsciiDigit c then .error (.badDigit c base)
      else .error (.badNumber base)
    | [] => .error (.badNumber base)

/-- A number in a base, after the letter of the base. -/
def based (base : String) (isDigit : Char → Bool) (s : Rest) : Except Fault Rest := do
  let r ← basedDigits base isDigit (s.length + 1) s
  match r with
  | c :: _ =>
    if Text.isAsciiDigit c then .error (.badDigit c base) else endOfNumber base r
  | [] => .ok r

/-- Zeros with single underscores between them, and whether an underscore is misplaced. -/
def zeros : Nat → Rest → Except Fault Rest
  | 0, s => .ok s
  | fuel + 1, s =>
    match s.dropWhile (· == '0') with
    | '_' :: r =>
      match r with
      | c :: _ =>
        if c == '0' then zeros fuel r
        else if Text.isAsciiDigit c then .ok r
        else .error (.badNumber "decimal")
      | [] => .error (.badNumber "decimal")
    | r => .ok r

/-- A number that starts with a zero. Behind zeros, digits are for numbers with a point, an
exponent or the mark of an imaginary one. -/
def zeroNumber (s : Rest) : Except Fault Rest := do
  match s.drop 1 with
  | c :: r =>
    if isLetter 'x' c then based "hexadecimal" (fun c => (Text.hexValue? c).isSome) r
    else if isLetter 'o' c then based "octal" (fun c => '0' ≤ c && c ≤ '7') r
    else if isLetter 'b' c then based "binary" (fun c => c == '0' || c == '1') r
    else
      let behind ← zeros (s.length + 1) s
      if behind.head?.any Text.isAsciiDigit then
        let t ← decimalTail behind.length behind
        if t.head?.any fun c => c == '.' || isLetter 'e' c || isLetter 'j' c then afterWhole t
        else .error .leadingZeros
      else afterWhole behind
  | [] => .ok []

/-- The rest of a text after the number that it starts with. -/
def afterNumber (s : Rest) : Except Fault Rest :=
  match s with
  | '0' :: _ => zeroNumber s
  | '.' :: r => fraction r
  | _ => do afterWhole (← decimalTail s.length s)

/-- The letters in front of a quote, if the text starts with such letters and a quote: what each
of them says, one may say, and the first of two `u` stands alone. -/
def quotePrefix? (s : Rest) : Option (List Char) :=
  let letters := (s.takeWhile fun c => !(c == '\'' || c == '"')).map Char.toLower
  let quoted := (s.drop letters.length).head?.isSome
  if quoted && ["", "b", "r", "u", "f", "br", "rb", "fr", "rf"].contains (String.ofList letters) then
    some letters
  else none

/-- The rest after the closing quotes, `closed` of which have been read, and the number of lines
that end before them. None if there are no closing quotes: within one line, or at all. -/
def afterQuotes? (quote : Char) (size : Nat) : Nat → Nat → Rest → Except Nat (Rest × Nat)
  | closed, lines, s =>
    if closed == size then .ok (s, lines)
    else
      match s with
      | [] => .error lines
      | '\\' :: c :: r => afterQuotes? quote size 0 (if c == '\n' then lines + 1 else lines) r
      | '\\' :: [] => .error lines
      | c :: r =>
        if c == '\n' then
          if size == 1 then .error lines else afterQuotes? quote size 0 (lines + 1) r
        else if c == quote then afterQuotes? quote size (closed + 1) lines r
        else afterQuotes? quote size 0 lines r

/-- The text after its opening letters and a quote. -/
def afterText (line : Nat) (s : Rest) : Except Fault (Rest × Nat) :=
  match s with
  | [] => .ok ([], 0)
  | quote :: r =>
    let found := match r with
      | q :: q' :: t =>
        if q == quote && q' == quote then (true, afterQuotes? quote 3 0 0 t)
        else if q == quote then (false, .ok (q' :: t, 0))
        else (false, afterQuotes? quote 1 0 0 r)
      | [q] => if q == quote then (false, .ok ([], 0)) else (false, .error 0)
      | [] => (false, .error 0)
    match found with
    | (_, .ok rest) => .ok rest
    | (triple, .error lines) => .error (.unterminated triple (line + lines))

/-! ## Marks -/

/-- Marks of several characters, the longest first. -/
def longMarks : List String :=
  ["**=", "...", "//=", "<<=", ">>=", "!=", "%=", "&=", "**", "*=", "+=", "-=", "->", "//", "/=",
   ":=", "<<", "<=", "<>", "==", ">=", ">>", "@=", "^=", "|="]

/-- The mark that a text starts with. -/
def markOf (s : Rest) : List Char :=
  match longMarks.find? fun m => m.toList.isPrefixOf s with
  | some m => m.toList
  | none => s.take 1

def closingOf (opening : Char) : Char :=
  if opening == '(' then ')' else if opening == '[' then ']' else '\x7d'

/-- The most brackets that are open at once. -/
def bracketLimit : Nat := 200

/-- The open brackets after a mark. -/
def bracketsAfter (line : Nat) (opened : List Opened) (c : Char) : Except Fault (List Opened) :=
  if c == '(' || c == '[' || c == '\x7b' then
    if bracketLimit ≤ opened.length then .error .tooNested else .ok ((c, line) :: opened)
  else if c == ')' || c == ']' || c == '\x7d' then
    match opened with
    | [] => .error (.unmatched c)
    | (opening, openingLine) :: r =>
      if closingOf opening == c then .ok r
      else
        .error (.mismatched c opening (if openingLine == line then none else some openingLine))
  else .ok opened

/-! ## Lines -/

/-- How far a line is indented: with tabs that go on to the next eighth column, and with tabs that
count as one. -/
structure Indent where
  wide : Nat
  narrow : Nat
  deriving DecidableEq, Repr

/-- What is read so far. -/
structure Scan where
  rest : Rest
  line : Nat
  atStart : Bool
  indents : List Indent
  opened : List Opened
  deriving Repr

/-- The blanks at the start of a line; the first backslash among them that joins lines settles how
far the line is indented. -/
def indentation : Nat → Indent → Option Indent → Nat → Rest → Except Fault (Indent × Nat × Rest)
  | 0, i, settled, line, s => .ok (settled.getD i, line, s)
  | fuel + 1, i, settled, line, s =>
    match s with
    | ' ' :: r => indentation fuel ⟨i.wide + 1, i.narrow + 1⟩ settled line r
    | '\t' :: r => indentation fuel ⟨(i.wide / 8 + 1) * 8, i.narrow + 1⟩ settled line r
    | '\x0c' :: r => indentation fuel ⟨0, 0⟩ settled line r
    | '\\' :: r =>
      match r with
      | '\n' :: [] => .error .endsJoined
      | '\n' :: t =>
        let settled := if settled.isSome || i.wide == 0 then settled else some ⟨i.wide, i.wide⟩
        indentation fuel i settled (line + 1) t
      | _ => .error .joinedWrongly
    | _ => .ok (settled.getD i, line, s)

/-- The deepest indentation. -/
def indentLimit : Nat := 100

/-- The indentations after a line that is indented by `i`, and whether it is deeper or how many
less deep. -/
def settle (i : Indent) (indents : List Indent) :
    Except Fault (List Indent × List Token.Kind) :=
  let now := indents.headD ⟨0, 0⟩
  if i.wide == now.wide then
    if i.narrow == now.narrow then .ok (indents, []) else .error .mixedIndentation
  else if now.wide < i.wide then
    if indentLimit ≤ indents.length then .error .tooIndented
    else if i.narrow ≤ now.narrow then .error .mixedIndentation
    else .ok (i :: indents, [.indent])
  else
    let left := indents.dropWhile fun j => i.wide < j.wide
    let outer := left.headD ⟨0, 0⟩
    if outer.wide != i.wide then .error .badDedent
    else if outer.narrow != i.narrow then .error .mixedIndentation
    else .ok (left, List.replicate (indents.length - left.length) .dedent)

/-- The next tokens, or none of them and the end. -/
inductive Step where
  | tokens (ts : List Token) (next : Scan)
  | stop (fault : Option Fault)

/-- Where a token ends is seen from what follows, but for the longest marks and for texts that
are not empty. -/
def endIsSeen (kind : Token.Kind) (lexeme : List Char) : Bool :=
  match kind with
  | .mark => lexeme.length < 3
  | .text => (lexeme.dropWhile fun c => !(c == '\'' || c == '"')).length == 2
  | _ => true

/-- A token of some length that starts here, the lines that end within it, and what follows. -/
def Scan.token (s : Scan) (kind : Token.Kind) (rest : Rest) (lines : Nat) (opened : List Opened) :
    Step :=
  let lexeme := s.rest.take (s.rest.length - rest.length)
  .tokens [⟨kind, lexeme, s.line, s.rest.length, opened.length,
      rest.isEmpty && endIsSeen kind lexeme⟩]
    { s with rest := rest, line := s.line + lines, opened := opened }

/-- The token that starts here, after blanks. -/
def Scan.next (s : Scan) : Step :=
  match s.rest with
  | [] =>
    match s.opened with
    | [] => .stop none
    | (c, _) :: _ => .stop (some (.unclosed c))
  | c :: r =>
    if c == '\n' then
      let after := { s with rest := r, line := s.line + 1, atStart := true }
      if s.opened.isEmpty then .tokens [⟨.lineEnd, [], s.line, s.rest.length, 0, false⟩] after
      else .tokens [] after
    else
      match quotePrefix? s.rest with
      | some letters =>
        match afterText s.line (s.rest.drop letters.length) with
        | .ok (rest, lines) => s.token .text rest lines s.opened
        | .error fault => .stop (some fault)
      | none =>
        if isWordStart c then
          let word := s.rest.takeWhile isWordPart
          match wrongInWord? word with
          | some x => .stop (some (.badCharacter x))
          | none =>
            let kind := if keywords.contains (String.ofList word) then .keyword else .name
            s.token kind (s.rest.drop word.length) 0 s.opened
        else if Text.isAsciiDigit c || (c == '.' && r.head?.any Text.isAsciiDigit) then
          match afterNumber s.rest with
          | .ok rest => s.token .number rest 0 s.opened
          | .error fault => .stop (some fault)
        else if c == '\\' then
          match r with
          | '\n' :: [] => .stop (some .endsJoined)
          | '\n' :: t => .tokens [] { s with rest := t, line := s.line + 1 }
          | _ => .stop (some .joinedWrongly)
        else
          let mark := markOf s.rest
          if mark.length == 1 && !Text.isPrintable c then .stop (some (.badCharacter c))
          else
            match (if mark.length == 1 then bracketsAfter s.line s.opened c else .ok s.opened) with
            | .ok opened => s.token .mark (s.rest.drop mark.length) 0 opened
            | .error fault => .stop (some fault)

/-- The text after blanks and a comment. -/
def afterBlanks (s : Rest) : Rest :=
  match s.dropWhile fun c => c == ' ' || c == '\t' || c == '\x0c' with
  | '#' :: r => r.dropWhile (· != '\n')
  | r => r

/-- One step: the start of a line, or a token after blanks. Lines without tokens count for
nothing. -/
def Scan.step (s : Scan) : Step :=
  if s.atStart then
    match indentation (s.rest.length + 1) ⟨0, 0⟩ none s.line s.rest with
    | .error fault => .stop (some fault)
    | .ok (indent, line, rest) =>
      let here := { s with rest := rest, line := line, atStart := false }
      if rest.head? == some '#' || rest.head? == some '\n' then
        match afterBlanks rest with
        | _ :: r => .tokens [] { here with rest := r, line := line + 1, atStart := true }
        | [] => .tokens [] { here with rest := [] }
      else if s.opened.isEmpty then
        match settle indent s.indents with
        | .error fault => .stop (some fault)
        | .ok (indents, kinds) =>
          let ts := kinds.map fun k => ⟨k, [], line, rest.length, 0, false⟩
          .tokens ts { here with indents := indents }
      else .tokens [] here
  else Scan.next { s with rest := afterBlanks s.rest }

/-- The tokens from here on. -/
def Scan.run : Nat → Scan → Tokens
  | 0, s => ⟨[], none, s.opened⟩
  | fuel + 1, s =>
    match s.step with
    | .tokens ts next =>
      let others := run fuel next
      { others with list := ts ++ others.list }
    | .stop (some fault) => ⟨[], some fault, s.opened⟩
    | .stop none => ⟨[⟨.finish, [], s.line, 0, 0, true⟩], none, []⟩

/-- The tokens of a text that starts in a line. -/
def Tokens.ofText (line : Nat) (s : List Char) : Tokens :=
  Scan.run (2 * s.length + 4) ⟨s, line, true, [⟨0, 0⟩], []⟩

end Statecraft.Literal
