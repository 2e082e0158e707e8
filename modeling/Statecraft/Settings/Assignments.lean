import Statecraft.Text.Blank

/-!
# Files of variables

Lines of the form `NAME=value`. Values may be quoted, with escapes, and may mention
other variables; a hash sign starts a comment. A line that has no such form is
passed over.
-/

namespace Statecraft.Settings

/-- A name with its value, if one is given. -/
abbrev Assignment := String × Option String

/-- White space within a line. -/
def isLineBlank (c : Char) : Bool := Text.isBlank c && c != '\n'

def skipBlanks (s : List Char) : List Char := s.dropWhile isLineBlank

/-- The text after the line's end. -/
def nextLine (s : List Char) : List Char := (s.dropWhile (· != '\n')).drop 1

/-! ## Values -/

/-- The character of an escape within double quotes. -/
def doubleEscape? (c : Char) : Option Char :=
  [('\\', '\\'), ('\'', '\''), ('"', '"'), ('a', '\x07'), ('b', '\x08'), ('f', '\x0c'), ('n', '\n'),
    ('r', '\r'), ('t', '\t'), ('v', '\x0b')].lookup c

/-- The character of an escape within single quotes. -/
def singleEscape? (c : Char) : Option Char := if c == '\\' || c == '\'' then some c else none

/-- The text with its escapes replaced. -/
def unescape (escape? : Char → Option Char) : List Char → List Char
  | '\\' :: c :: r =>
    match escape? c with
    | some x => x :: unescape escape? r
    | none => '\\' :: unescape escape? (c :: r)
  | c :: r => c :: unescape escape? r
  | [] => []
termination_by s => s.length

/-- The number of characters in front of the closing quote. A backslash takes the next character
with it, whichever it is, and there is no second try: `'a\'` is not closed, and what closes `'a\\'`
is its last quote. -/
def closing? (quote : Char) : List Char → Option Nat
  | '\\' :: _ :: r => (closing? quote r).map (· + 2)
  | c :: r =>
    if c == quote then some 0
    else if c == '\\' then none
    else (closing? quote r).map (· + 1)
  | [] => none

/-- A quoted value, after its opening quote. -/
def quotedValue? (quote : Char) (s : List Char) : Option (List Char × List Char) :=
  (closing? quote s).map fun n =>
    let escape? := if quote == '"' then doubleEscape? else singleEscape?
    (unescape escape? (s.take n), s.drop (n + 1))

/-- A line's text up to a comment, which has white space in front of it. -/
def beforeComment : List Char → List Char
  | [] => []
  | c :: r =>
    if Text.isBlank c && (skipBlanks r).head? == some '#' then [] else c :: beforeComment r

/-- A value without quotes: the rest of the line. -/
def bareValue (s : List Char) : List Char × List Char :=
  let line := s.takeWhile (· != '\n')
  (Text.trimEnd (beforeComment line), s.drop line.length)

/-- A value with or without quotes, after the equals sign, and the text after it. A comment that
has white space in front of it leaves no value. -/
def value? (s : List Char) : Option (List Char × List Char) :=
  match skipBlanks s with
  | '\'' :: r => quotedValue? '\'' r
  | '"' :: r => quotedValue? '"' r
  | '#' :: r => some (if s.head?.any isLineBlank then ([], '#' :: r) else bareValue s)
  | r => some (bareValue r)

/-! ## Lines -/

/-- A name with or without quotes, and the text after it. -/
def name? (s : List Char) : Option (List Char × List Char) :=
  match s with
  | '\'' :: r =>
    let name := r.takeWhile (· != '\'')
    match r.drop name.length with
    | _ :: t => if name.isEmpty then none else some (name, t)
    | [] => none
  | _ =>
    let name := s.takeWhile fun c => !(c == '=' || c == '#' || Text.isBlank c)
    if name.isEmpty then none else some (name, s.drop name.length)

/-- The text after the word that marks a variable as one for other programs, if it is there. -/
def afterExport (s : List Char) : List Char :=
  let word := "export".toList
  let rest := s.drop word.length
  if word.isPrefixOf s && rest.head?.any isLineBlank then skipBlanks rest else s

/-- The text after a comment and the line's end; nothing else may come before it. -/
def lineEnd? (s : List Char) : Option (List Char) :=
  let s := match skipBlanks s with
    | '#' :: r => r.dropWhile (· != '\n')
    | _ => s
  match skipBlanks s with
  | [] => some []
  | '\n' :: r => some r
  | _ => none

/-- The assignment of a line, if it has one, and the text after the line. -/
def line (s : List Char) : Option Assignment × List Char :=
  let s := Text.trimStart s
  match afterExport s with
  | [] => (none, [])
  | '#' :: r => (none, nextLine r)
  | t =>
    match name? t with
    | none => (none, nextLine t)
    | some (name, t) =>
      let text := fun (v : List Char) => String.ofList v
      match skipBlanks t with
      | '=' :: u =>
        match value? u with
        | none => (none, nextLine (skipBlanks u))
        | some (v, w) =>
          match lineEnd? w with
          | some r => (some (text name, some (text v)), r)
          | none => (none, nextLine w)
      | u =>
        match lineEnd? u with
        | some r => (some (text name, none), r)
        | none => (none, nextLine u)

/-- The assignments of a text, in order. -/
def assignmentsFrom : Nat → List Char → List Assignment
  | 0, _ => []
  | _, [] => []
  | fuel + 1, s =>
    let (a, r) := line s
    a.toList ++ assignmentsFrom fuel r

/-! ## Mentions of variables -/

/-- The value of the last assignment to a name. -/
def lastValue? (known : List Assignment) (name : String) : Option (Option String) :=
  (known.reverse.find? (·.1 == name)).map (·.2)

/-- A mention's name and default value, after its opening brace, and the text after it. -/
def mention? (s : List Char) : Option (List Char × Option (List Char) × List Char) :=
  let name := s.takeWhile fun c => c != '\x7d' && c != ':'
  match s.drop name.length with
  | '\x7d' :: r => some (name, none, r)
  | ':' :: '-' :: r =>
    let default := r.takeWhile (· != '\x7d')
    match r.drop default.length with
    | _ :: t => some (name, some default, t)
    | [] => none
  | _ => none

/-- The value with its mentions replaced. A variable without a value is empty; an unknown one has
the default value. -/
def resolved (known : List Assignment) : Nat → List Char → List Char
  | 0, s => s
  | fuel + 1, s =>
    match s with
    | '$' :: '\x7b' :: r =>
      match mention? r with
      | some (name, default, t) =>
        let text := match lastValue? known (String.ofList name) with
          | some v => (v.getD "").toList
          | none => default.getD []
        text ++ resolved known fuel t
      | none => '$' :: resolved known fuel ('\x7b' :: r)
    | c :: r => c :: resolved known fuel r
    | [] => []

/-- The assignments with one more, which takes the place of an earlier one to its name. -/
def assign (done : List Assignment) (a : Assignment) : List Assignment :=
  if done.any (·.1 == a.1) then done.map fun e => if e.1 == a.1 then a else e else done ++ [a]

/-- The assignments with all mentions replaced by what is known at their place: variables from
outside, and earlier assignments over them. -/
def resolveAll (outer : List Assignment) : List Assignment → List Assignment → List Assignment
  | done, [] => done
  | done, (name, v) :: r =>
    let value := v.map fun t =>
      String.ofList (resolved (outer ++ done) (t.length + 1) t.toList)
    resolveAll outer (assign done (name, value)) r

/-- The text without a byte order mark in front of it. -/
def withoutMark (text : List Char) : List Char :=
  match text with
  | '\ufeff' :: r => r
  | r => r

/-- The variables that a file assigns. -/
def assignments (outer : List Assignment) (text : String) : List Assignment :=
  resolveAll outer [] (assignmentsFrom (text.length + 1) (withoutMark text.toList))

end Statecraft.Settings
