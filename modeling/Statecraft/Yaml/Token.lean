import Statecraft.Yaml.Lexeme

/-!
# Tokens of a YAML stream

Indentation becomes explicit: blocks have tokens for their start and their end.
That something is a key shows only at the colon after it, so a place where a key
may start is kept as a slot among the tokens. The colon fills the slot; slots
that stay empty vanish.
-/

namespace Statecraft.Yaml

inductive Token where
  | directive (directive : Directive)
  | documentStart
  | documentEnd
  | streamEnd
  | blockSequenceStart
  | blockMappingStart
  | blockEnd
  | blockEntry
  | key
  | value
  | flowSequenceStart
  | flowSequenceEnd
  | flowMappingStart
  | flowMappingEnd
  | flowEntry
  | alias (name : String)
  | anchor (name : String)
  | tag (handle : Option String) (suffix : String)
  | scalar (text : List Char) (plain : Bool)
  /-- The number of an escape that no character has; nothing after it is read. -/
  | noCharacter (number : Nat)
  deriving DecidableEq, Repr

/-- The last token of a stream. -/
def Token.isLast : Token → Bool
  | .streamEnd | .noCharacter _ => true
  | _ => false

/-- The token of a quoted scalar. -/
def Token.ofQuoted : Quoted → Token
  | .ok text => .scalar text false
  | .error number => .noCharacter number

/-- A token, or a numbered slot. -/
inductive Item where
  | token (token : Token)
  | slot (number : Nat)
  deriving DecidableEq, Repr

def Item.isLast : Item → Bool
  | .token t => t.isLast
  | .slot _ => false

/-- A place where a key may have started. -/
structure KeyStart where
  slot : Nat
  required : Bool
  level : Nat
  line : Nat
  column : Nat
  index : Nat
  deriving Repr

/-- The state of cutting a stream into tokens. -/
structure Scan where
  cursor : Cursor
  /-- The tokens so far, in reverse. -/
  items : List Item
  /-- What fills the slots. -/
  filled : List (Nat × List Token)
  slots : Nat
  flowLevel : Nat
  indent : Int
  indents : List Int
  keyAllowed : Bool
  keys : List KeyStart
  deriving Repr

namespace Scan

def start (s : List Char) : Scan := ⟨Cursor.start s, [], [], 0, 0, -1, [], true, []⟩

def push (s : Scan) (t : Token) : Scan := { s with items := .token t :: s.items }

def column (s : Scan) : Int := s.cursor.column

/-- Possible keys that are on another line by now are none, which must not happen
to one that has to be a key. -/
def dropStaleKeys (s : Scan) : Option Scan :=
  let stale := fun (k : KeyStart) => k.line != s.cursor.line || 1024 < s.cursor.index - k.index
  if s.keys.any fun k => stale k && k.required then none
  else some { s with keys := s.keys.filter (!stale ·) }

/-- There is no possible key on this level any more, which must not happen to one
that has to be a key. -/
def forgetKey (s : Scan) : Option Scan :=
  if s.keys.any fun k => k.level == s.flowLevel && k.required then none
  else some { s with keys := s.keys.filter (·.level != s.flowLevel) }

/-- A key may start here. -/
def saveKey (s : Scan) : Option Scan :=
  if s.keyAllowed then
    (s.forgetKey).map fun s =>
      let key : KeyStart :=
        ⟨s.slots, s.flowLevel == 0 && s.indent == s.column, s.flowLevel, s.cursor.line,
          s.cursor.column, s.cursor.index⟩
      { s with keys := key :: s.keys, items := .slot s.slots :: s.items, slots := s.slots + 1 }
  else some s

/-- Ends the blocks that are indented further than the column. -/
def unwindBlocks (column : Int) : Nat → Scan → Scan
  | 0, s => s
  | fuel + 1, s =>
    if s.indent > column then
      unwindBlocks column fuel
        { s.push .blockEnd with indent := s.indents.headD (-1), indents := s.indents.drop 1 }
    else s

def unwind (s : Scan) (column : Int) : Scan :=
  if s.flowLevel == 0 then unwindBlocks column (s.indents.length + 1) s else s

/-- Whether a block starts at the column, and the state in which it has. -/
def indentTo (s : Scan) (column : Int) : Bool × Scan :=
  if s.indent < column then (true, { s with indent := column, indents := s.indent :: s.indents })
  else (false, s)

def moveTo (s : Scan) (c : Cursor) : Scan := { s with cursor := c }

def skip (s : Scan) (n : Nat) : Scan := s.moveTo (s.cursor.skip n)

/-- Past blanks, comments and the ends of lines. A new line outside flow collections
may start with a key. -/
def toNextToken : Nat → Scan → Scan
  | 0, s => s
  | fuel + 1, s =>
    let c := s.cursor.skipBlanks
    let c := if c.peek? == some '#' then c.skipWhile (!isBreak ·) else c
    if c.rest.head?.any isBreak then
      toNextToken fuel
        { s.moveTo c.lineBreak.2 with keyAllowed := s.flowLevel == 0 || s.keyAllowed }
    else s.moveTo c

/-- The end of the stream. -/
def streamEnd (s : Scan) : Option Scan :=
  ((s.unwind (-1)).forgetKey).map fun s => { s.push .streamEnd with keyAllowed := false, keys := [] }

def directive (s : Scan) : Option Scan :=
  ((s.unwind (-1)).forgetKey).bind fun s =>
    (Yaml.directive s.cursor).map fun (d, c) =>
      { (s.push (.directive d)).moveTo c with keyAllowed := false }

def documentMark (s : Scan) (t : Token) : Option Scan :=
  ((s.unwind (-1)).forgetKey).map fun s => { (s.push t).skip 3 with keyAllowed := false }

def flowStart (s : Scan) (t : Token) : Option Scan :=
  s.saveKey.map fun s => { (s.push t).skip 1 with flowLevel := s.flowLevel + 1, keyAllowed := true }

def flowEnd (s : Scan) (t : Token) : Option Scan :=
  s.forgetKey.map fun s => { (s.push t).skip 1 with flowLevel := s.flowLevel - 1, keyAllowed := false }

def flowEntry (s : Scan) : Option Scan :=
  s.forgetKey.map fun s => { (s.push .flowEntry).skip 1 with keyAllowed := true }

/-- Starts a block at this column, where keys and entries have to be allowed. -/
def openBlock (s : Scan) (t : Token) : Option Scan :=
  if s.flowLevel != 0 then some s
  else if !s.keyAllowed then none
  else
    let (opened, s) := s.indentTo s.column
    some (if opened then s.push t else s)

def blockEntry (s : Scan) : Option Scan :=
  (s.openBlock .blockSequenceStart).bind fun s =>
    s.forgetKey.map fun s => { (s.push .blockEntry).skip 1 with keyAllowed := true }

def explicitKey (s : Scan) : Option Scan :=
  (s.openBlock .blockMappingStart).bind fun s =>
    s.forgetKey.map fun s => { (s.push .key).skip 1 with keyAllowed := s.flowLevel == 0 }

/-- A colon: what started at the possible key of this level is a key, and so the
start of a block if it is indented further. Without one the colon stands alone. -/
def colon (s : Scan) : Option Scan :=
  match s.keys.find? (·.level == s.flowLevel) with
  | some k =>
    let s := { s with keys := s.keys.filter (·.level != s.flowLevel) }
    let (opened, s) := if s.flowLevel == 0 then s.indentTo k.column else (false, s)
    let fill := if opened then [.blockMappingStart, .key] else [.key]
    some { (s.push .value).skip 1 with filled := (k.slot, fill) :: s.filled, keyAllowed := false }
  | none =>
    (s.openBlock .blockMappingStart).bind fun s =>
      s.forgetKey.map fun s => { (s.push .value).skip 1 with keyAllowed := s.flowLevel == 0 }

/-- A token that can be a key. -/
def keyToken (s : Scan) (read : Cursor → Read α) (token : α → Token) : Option Scan :=
  s.saveKey.bind fun s =>
    (read s.cursor).map fun (a, c) => { (s.push (token a)).moveTo c with keyAllowed := false }

def block (s : Scan) (folded : Bool) : Option Scan :=
  s.forgetKey.bind fun s =>
    (blockScalar folded s.indent s.cursor).map fun (text, c) =>
      { (s.push (.scalar text false)).moveTo c with keyAllowed := true }

def plain (s : Scan) : Option Scan :=
  s.saveKey.map fun s =>
    let p := plainScalar (s.flowLevel != 0) (s.indent + 1) s.cursor
    { (s.push (.scalar p.text true)).moveTo p.after with keyAllowed := p.atLineStart }

/-- A plain scalar may start with the character. -/
def startsPlain (inFlow : Bool) (c : Char) (r : List Char) : Bool :=
  (!isSpaceOrBreak c && !"-?:,[]\x7b\x7d#&*!|>'\"%@\x60".toList.contains c)
    || (!atSpace r && (c == '-' || (!inFlow && (c == '?' || c == ':'))))

/-- The next token. -/
def next (s : Scan) : Option Scan :=
  match (toNextToken (s.cursor.rest.length + 1) s).dropStaleKeys with
  | none => none
  | some s =>
    let s := s.unwind s.column
    let inFlow := s.flowLevel != 0
    let atStart := s.cursor.column == 0
    match s.cursor.rest with
    | [] => s.streamEnd
    | c :: r =>
      if c == '%' && atStart then s.directive
      else if c == '-' && atStart && atSeparator (c :: r) then s.documentMark .documentStart
      else if c == '.' && atStart && atSeparator (c :: r) then s.documentMark .documentEnd
      else if c == '[' then s.flowStart .flowSequenceStart
      else if c == '\x7b' then s.flowStart .flowMappingStart
      else if c == ']' then s.flowEnd .flowSequenceEnd
      else if c == '\x7d' then s.flowEnd .flowMappingEnd
      else if c == ',' then s.flowEntry
      else if c == '-' && atSpace r then s.blockEntry
      else if c == '?' && (inFlow || atSpace r) then s.explicitKey
      else if c == ':' && (inFlow || atSpace r) then s.colon
      else if c == '*' then s.keyToken anchorName .alias
      else if c == '&' then s.keyToken anchorName .anchor
      else if c == '!' then s.keyToken Yaml.tag fun (h, t) => .tag h t
      else if c == '|' && !inFlow then s.block false
      else if c == '>' && !inFlow then s.block true
      else if c == '\'' || c == '"' then s.keyToken quotedScalar .ofQuoted
      else if startsPlain inFlow c r then s.plain
      else none

/-- Tokens to the end of the stream. -/
def run : Nat → Scan → Option Scan
  | 0, _ => none
  | fuel + 1, s =>
    match s.next with
    | none => none
    | some s => if s.items.head?.any Item.isLast then some s else run fuel s

/-- The tokens with the slots filled. -/
def tokens (s : Scan) : List Token :=
  s.items.reverse.flatMap fun
    | .token t => [t]
    | .slot n => (s.filled.lookup n).getD []

end Scan

/-- The tokens of a stream, which a byte order mark may open. -/
def Token.ofStream (s : List Char) : Option (List Token) :=
  if s.all isAllowed then
    let start := Scan.start s
    let start := if s.head? == some '\uFEFF' then start.skip 1 else start
    (Scan.run (s.length + 2) start).map Scan.tokens
  else none

end Statecraft.Yaml
