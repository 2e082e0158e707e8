import Statecraft.Yaml.Cursor

/-!
# Scalars, anchors, tags and directives in a YAML stream

Each function reads one of them from a place and gives what it says and the
place after it, or nothing if it is malformed.
-/

namespace Statecraft.Yaml

/-- What was read and the place after it. -/
abbrev Read (α : Type) := Option (α × Cursor)

/-! ## Quoted scalars -/

/-- The character of a one-letter escape. -/
def escape? (c : Char) : Option Char :=
  match c with
  | '0' => some '\x00'
  | 'a' => some '\x07'
  | 'b' => some '\x08'
  | 't' | '\t' => some '\t'
  | 'n' => some '\n'
  | 'v' => some '\x0b'
  | 'f' => some '\x0c'
  | 'r' => some '\r'
  | 'e' => some '\x1b'
  | ' ' => some ' '
  | '"' => some '"'
  | '\\' => some '\\'
  | '/' => some '/'
  | 'N' => some '\u0085'
  | '_' => some '\u00a0'
  | 'L' => some '\u2028'
  | 'P' => some '\u2029'
  | _ => none

/-- The number of hexadecimal digits after an escape's letter. -/
def escapeWidth? (c : Char) : Option Nat :=
  match c with
  | 'x' => some 2
  | 'u' => some 4
  | 'U' => some 8
  | _ => none

/-- The character of a code point; half of a surrogate pair gives the replacement
character. -/
def charOf (n : Nat) : Option Char :=
  if 0x110000 ≤ n then none
  else if 0xD800 ≤ n && n ≤ 0xDFFF then some '\uFFFD' else some (Char.ofNat n)

/-- What a quoted scalar holds, or the number of its first escape that no character has. -/
abbrev Quoted := Except Nat (List Char)

/-- The lines that are empty after a line's end, and the place of the next text. A
line that separates documents is not allowed here. -/
def emptyLines : Nat → Cursor → List Char → Read (List Char)
  | 0, _, _ => none
  | fuel + 1, c, done =>
    if atSeparator c.rest then none
    else
      let c := c.skipWhile fun x => x == ' ' || x == '\t'
      if c.rest.head?.any isBreak then
        let (b, c) := c.lineBreak
        emptyLines fuel c (done ++ b)
      else some (done, c)

/-- The end of a line and the empty lines after it, folded: a single line feed is a
blank. -/
def foldedBreak (c : Cursor) : Read (List Char) :=
  let (b, c) := c.lineBreak
  (emptyLines (c.rest.length + 1) c []).map fun (breaks, c) =>
    (if b != ['\n'] then b ++ breaks else if breaks.isEmpty then [' '] else breaks, c)

/-- The inside of a quoted scalar up to its closing quote; `done` is what was read,
in reverse. -/
def quotedBody (double : Bool) : Nat → Cursor → List Char → Read Quoted
  | 0, _, _ => none
  | fuel + 1, c, done =>
    match c.rest with
    | [] => none
    | x :: r =>
      if x == (if double then '"' else '\'') then
        if !double && r.head? == some '\'' then quotedBody double fuel (c.skip 2) ('\'' :: done)
        else some (.ok done.reverse, c.next)
      else if double && x == '\\' then
        match r with
        | [] => none
        | e :: t =>
          match escape? e, escapeWidth? e with
          | some y, _ => quotedBody double fuel (c.skip 2) (y :: done)
          | none, some width =>
            let digits := t.take width
            if digits.length == width && digits.all (Text.hexValue? · |>.isSome) then
              let number := Text.ofBase 16 digits
              match charOf number with
              | some y => quotedBody double fuel (c.skip (2 + width)) (y :: done)
              | none => some (.error number, c)
            else none
          | none, none =>
            if isBreak e then
              let c := (c.next).lineBreak.2
              match emptyLines (c.rest.length + 1) c [] with
              | some (breaks, c) => quotedBody double fuel c (breaks.reverse ++ done)
              | none => none
            else none
      else if x == ' ' || x == '\t' || isBreak x then
        let blanks := c.rest.takeWhile fun y => y == ' ' || y == '\t'
        let d := c.skip blanks.length
        if d.rest.isEmpty then none
        else if d.rest.head?.any isBreak then
          match foldedBreak d with
          | some (breaks, d) => quotedBody double fuel d (breaks.reverse ++ done)
          | none => none
        else quotedBody double fuel d (blanks.reverse ++ done)
      else quotedBody double fuel c.next (x :: done)

/-- A quoted scalar from its opening quote on. -/
def quotedScalar (c : Cursor) : Read Quoted :=
  quotedBody (c.peek? == some '"') (c.rest.length + 1) c.next []

/-! ## Plain scalars -/

/-- How many characters of a plain scalar follow without a blank. -/
def plainLength (inFlow : Bool) : List Char → Nat
  | [] => 0
  | x :: r =>
    if isSpaceOrBreak x then 0
    else if x == ':' && endsWith (fun y => isSpaceOrBreak y || (inFlow && ",[]\x7b\x7d".toList.contains y)) r
    then 0
    else if inFlow && ",?[]\x7b\x7d".toList.contains x then 0
    else plainLength inFlow r + 1

/-- The empty lines and indentation after a line's end within a plain scalar;
nothing if documents are separated here. -/
def plainBreaks : Nat → Cursor → List Char → Read (List Char)
  | 0, c, done => some (done, c)
  | fuel + 1, c, done =>
    let c := c.skipBlanks
    if c.rest.head?.any isBreak then
      let (b, c) := c.lineBreak
      if atSeparator c.rest then none else plainBreaks fuel c (done ++ b)
    else some (done, c)

/-- What stands between two words of a plain scalar: the folded blanks, whether a
line ended, and the place after. -/
structure Gap where
  text : List Char
  ended : Bool
  after : Cursor

/-- The gap at a place. -/
def plainGap (c : Cursor) : Gap :=
  let blanks := c.rest.takeWhile (· == ' ')
  let c := c.skip blanks.length
  if c.rest.head?.any isBreak then
    let (b, d) := c.lineBreak
    if atSeparator d.rest then ⟨[], true, d⟩
    else
      match plainBreaks (d.rest.length + 1) d [] with
      | none => ⟨[], true, d⟩
      | some (breaks, d) =>
        ⟨if b != ['\n'] then b ++ breaks else if breaks.isEmpty then [' '] else breaks, true, d⟩
  else ⟨blanks, false, c⟩

/-- A plain scalar's text, whether it ended at the start of a line, and the place
after it. -/
structure Plain where
  text : List Char
  atLineStart : Bool
  after : Cursor

/-- The words of a plain scalar from the next on. Lines have to be indented by
`indent` unless this is in a flow collection. -/
def plainWords (inFlow : Bool) (indent : Int) :
    Nat → Cursor → List Char → List Char → Bool → Plain
  | 0, c, _, done, ended => ⟨done, ended, c⟩
  | fuel + 1, c, gap, done, ended =>
    if c.peek? == some '#' then ⟨done, ended, c⟩
    else
      let n := plainLength inFlow c.rest
      if n == 0 then ⟨done, ended, c⟩
      else
        let done := done ++ gap ++ c.rest.take n
        let g := plainGap (c.skip n)
        if g.text.isEmpty || g.after.peek? == some '#'
            || (!inFlow && (g.after.column : Int) < indent) then ⟨done, g.ended, g.after⟩
        else plainWords inFlow indent fuel g.after g.text done g.ended

/-- A plain scalar. -/
def plainScalar (inFlow : Bool) (indent : Int) (c : Cursor) : Plain :=
  plainWords inFlow indent (c.rest.length + 1) c [] [] false

/-! ## Block scalars -/

/-- What becomes of the line ends at the end of a block scalar. -/
inductive Chomping where
  | strip
  | clip
  | keep
  deriving DecidableEq, Repr

def chomping? (c : Char) : Option Chomping :=
  if c == '+' then some .keep else if c == '-' then some .strip else none

def increment? (c : Char) : Option Nat :=
  if Text.isAsciiDigit c && c != '0' then some (Text.digitValue c) else none

/-- The indicators after a block scalar's mark: chomping and indentation in either
order, then a blank or the line's end. -/
def blockHeader (c : Cursor) : Read (Chomping × Option Nat) :=
  let finish := fun (h : Chomping × Option Nat) (c : Cursor) =>
    if endsWith (fun x => x == ' ' || isBreak x) c.rest then some (h, c) else none
  match c.rest with
  | x :: r =>
    match chomping? x, increment? x with
    | some ch, _ =>
      match r.head? with
      | some y =>
        if Text.isAsciiDigit y then
          (increment? y).bind fun n => finish (ch, some n) (c.skip 2)
        else finish (ch, none) c.next
      | none => finish (ch, none) c.next
    | none, some n =>
      match r.head?.bind chomping? with
      | some ch => finish (ch, some n) (c.skip 2)
      | none => finish (.clip, some n) c.next
    | none, none => finish (.clip, none) c
  | [] => finish (.clip, none) c

/-- The empty lines before a block scalar's text, with the widest indentation seen. -/
def blockIndentation : Nat → Cursor → List Char → Nat → List Char × Nat × Cursor
  | 0, c, done, widest => (done, widest, c)
  | fuel + 1, c, done, widest =>
    match c.rest with
    | ' ' :: _ => blockIndentation fuel c.next done (max widest c.next.column)
    | x :: _ =>
      if isBreak x then
        let (b, c) := c.lineBreak
        blockIndentation fuel c (done ++ b) widest
      else (done, widest, c)
    | [] => (done, widest, c)

/-- Past the blanks up to a column. -/
def skipTo (indent : Nat) (c : Cursor) : Cursor :=
  c.skip (min (indent - c.column) (c.rest.takeWhile (· == ' ')).length)

/-- The empty lines within a block scalar of the given indentation. -/
def blockBreaks (indent : Nat) : Nat → Cursor → List Char → List Char × Cursor
  | 0, c, done => (done, c)
  | fuel + 1, c, done =>
    let c := skipTo indent c
    if c.rest.head?.any isBreak then
      let (b, c) := c.lineBreak
      blockBreaks indent fuel c (done ++ b)
    else (done, c)

/-- The lines of a block scalar: what was read, the last line's end and the empty
lines after it. -/
def blockLines (folded : Bool) (indent : Nat) :
    Nat → Cursor → List Char → List Char → List Char → List Char × List Char × List Char × Cursor
  | 0, c, done, lastBreak, breaks => (done, lastBreak, breaks, c)
  | fuel + 1, c, done, lastBreak, breaks =>
    if c.column == indent && !c.rest.isEmpty then
      let startsWithText := fun (s : List Char) => !(s.head?.any fun x => x == ' ' || x == '\t')
      let line := c.rest.takeWhile (!isBreak ·)
      let textFirst := startsWithText c.rest
      let done := done ++ breaks ++ line
      let (b, c) := (c.skip line.length).lineBreak
      let (breaks, c) := blockBreaks indent (c.rest.length + 1) c []
      if c.column == indent && !c.rest.isEmpty then
        let joint :=
          if folded && b == ['\n'] && textFirst && startsWithText c.rest then
            (if breaks.isEmpty then [' '] else [])
          else b
        blockLines folded indent fuel c (done ++ joint) b breaks
      else (done, b, breaks, c)
    else (done, lastBreak, breaks, c)

/-- A block scalar from its mark on, within a block of the given indentation. -/
def blockScalar (folded : Bool) (outer : Int) (c : Cursor) : Read (List Char) :=
  match blockHeader c.next with
  | none => none
  | some ((chomping, increment), c) =>
    match c.restOfLine? with
    | none => none
    | some c =>
      let least := max 1 (outer + 1).toNat
      let (breaks, indent, c) := match increment with
        | none =>
          let (breaks, widest, c) := blockIndentation (c.rest.length + 1) c [] 0
          (breaks, max least widest, c)
        | some n =>
          let indent := least + n - 1
          let (breaks, c) := blockBreaks indent (c.rest.length + 1) c []
          (breaks, indent, c)
      let (text, lastBreak, breaks, c) :=
        blockLines folded indent (c.rest.length + 1) c [] [] breaks
      let tail := match chomping with
        | .strip => []
        | .clip => lastBreak
        | .keep => lastBreak ++ breaks
      some (text ++ tail, c)

/-! ## Anchors, tags and directives -/

/-- The name of an anchor or alias, from its mark on. -/
def anchorName (c : Cursor) : Read String :=
  let c := c.next
  let name := c.rest.takeWhile isWordChar
  let d := c.skip name.length
  if name.isEmpty then none
  else if endsWith (fun x => isSpaceOrBreak x || "?:,]\x7d%@\x60".toList.contains x) d.rest then
    some (String.ofList name, d)
  else none

/-- The handle of a tag: an exclamation mark, or a word between two of them. -/
def tagHandle (c : Cursor) : Read String :=
  match c.rest with
  | '!' :: ' ' :: _ => some ("!", c.next)
  | '!' :: r =>
    let word := r.takeWhile isWordChar
    match r.drop word.length with
    | '!' :: _ => some (String.ofList ('!' :: word ++ ['!']), c.skip (word.length + 2))
    | _ => none
  | _ => none

/-- The bytes of consecutive percent escapes. -/
def percentBytes : Nat → List Char → List UInt8 × List Char
  | 0, s => ([], s)
  | fuel + 1, '%' :: a :: b :: r =>
    match Text.hexValue? a, Text.hexValue? b with
    | some x, some y =>
      let (bs, t) := percentBytes fuel r
      (UInt8.ofNat (x * 16 + y) :: bs, t)
    | _, _ => ([], '%' :: a :: b :: r)
  | _ + 1, s => ([], s)

/-- The characters of a tag. -/
def uriChars : Nat → Cursor → List Char → Read (List Char)
  | 0, _, _ => none
  | fuel + 1, c, done =>
    match c.rest with
    | '%' :: _ =>
      let (bytes, rest) := percentBytes c.rest.length c.rest
      if rest.head? == some '%' || bytes.isEmpty then none
      else
        match String.fromUTF8? ⟨bytes.toArray⟩ with
        | some s => uriChars fuel (c.skip (3 * bytes.length)) (done ++ s.toList)
        | none => none
    | x :: _ => if isUriChar x then uriChars fuel c.next (done ++ [x]) else some (done, c)
    | [] => some (done, c)

/-- The characters of a tag, at least one. -/
def tagUri (c : Cursor) : Read String :=
  match uriChars (c.rest.length + 1) c [] with
  | some ([], _) | none => none
  | some (s, c) => some (String.ofList s, c)

/-- A tag from its mark on: its handle, if it has one, and the rest. -/
def tag (c : Cursor) : Read (Option String × String) :=
  let read : Read (Option String × String) :=
    match c.rest.drop 1 with
    | '<' :: _ =>
      (tagUri (c.skip 2)).bind fun (suffix, d) =>
        if d.peek? == some '>' then some ((none, suffix), d.next) else none
    | r =>
      if atSpace r then some ((none, "!"), c.next)
      else
        let word := r.takeWhile fun x => !(x == ' ' || isBreak x)
        if word.contains '!' then
          (tagHandle c).bind fun (handle, d) =>
            (tagUri d).map fun (suffix, d) => ((some handle, suffix), d)
        else (tagUri c.next).map fun (suffix, d) => ((some "!", suffix), d)
  read.filter fun (_, d) => endsWith (fun x => x == ' ' || isBreak x) d.rest

/-- What a directive says: the major version, a tag handle with what it stands for,
or something that does not matter. -/
inductive Directive where
  | version (major : Nat)
  | handle (name meaning : String)
  | other
  deriving DecidableEq, Repr

/-- Before a blank or the end of a line or of the text. -/
def atBlank (c : Cursor) : Bool := endsWith (fun x => x == ' ' || isBreak x) c.rest

def digits (c : Cursor) : Read Nat :=
  let ds := c.rest.takeWhile Text.isAsciiDigit
  if ds.isEmpty then none else some (Text.ofDigits ds, c.skip ds.length)

/-- A directive from its mark on. -/
def directive (c : Cursor) : Read Directive :=
  let c := c.next
  let name := c.rest.takeWhile isWordChar
  let d := c.skip name.length
  let read : Read Directive :=
    if name.isEmpty || !atBlank d then none
    else if name == "YAML".toList then
      (digits d.skipBlanks).bind fun (major, e) =>
        if e.peek? == some '.' then
          (digits e.next).bind fun (_, e) => if atBlank e then some (.version major, e) else none
        else none
    else if name == "TAG".toList then
      (tagHandle d.skipBlanks).bind fun (handle, e) =>
        if e.peek? == some ' ' then
          (tagUri e.skipBlanks).bind fun (meaning, e) =>
            if atBlank e then some (.handle handle meaning, e) else none
        else none
    else some (.other, d.skipWhile (!isBreak ·))
  read.bind fun (v, e) => e.restOfLine?.map (v, ·)

end Statecraft.Yaml
