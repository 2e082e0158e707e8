import Statecraft.Document.Calendar
import Statecraft.Text.Digit

/-!
# Writing JSON

Two layouts share one writer: on one line, and indented by two blanks. A
`Style` holds what else formats decide: how numbers are written and whether
characters beyond ASCII are escaped.
-/

namespace Statecraft.Json

/-- What a JSON format decides. -/
structure Style where
  /-- Blanks of indentation per level; none puts all on one line. -/
  indent : Option Nat
  /-- Characters beyond ASCII are written as `\u` escapes. -/
  ascii : Bool
  /-- Floating-point numbers. -/
  number : Decimal.Style
  /-- Infinite and undefined numbers are written as `null`. -/
  finiteOnly : Bool
  deriving DecidableEq, Repr

/-- A `\u` escape of one code unit. -/
def unitEscape (n : Nat) : List Char := '\\' :: 'u' :: Text.hex 4 n

/-- A character inside a string. -/
def Style.char (style : Style) (c : Char) : List Char :=
  let n := c.toNat
  if c == '"' then ['\\', '"']
  else if c == '\\' then ['\\', '\\']
  else if c == '\n' then ['\\', 'n']
  else if c == '\r' then ['\\', 'r']
  else if c == '\t' then ['\\', 't']
  else if n == 8 then ['\\', 'b']
  else if n == 12 then ['\\', 'f']
  else if n < 32 then unitEscape n
  else if n < 127 || !style.ascii then [c]
  else if n < 0x10000 then unitEscape n
  else unitEscape (0xD800 + (n - 0x10000) / 0x400) ++ unitEscape (0xDC00 + (n - 0x10000) % 0x400)

/-- A string with its quotes. -/
def Style.string (style : Style) (s : String) : List Char :=
  '"' :: s.toList.flatMap style.char ++ ['"']

/-- A floating-point number. -/
def Style.float (style : Style) (x : Float) : String :=
  if style.finiteOnly && !Decimal.isFinite x then "null" else style.number.text x

/-- Why a document has no JSON text: a value of a kind that JSON lacks, as value
or as key, an integer with too many digits, or a value that is a part of itself. -/
inductive Unwritable where
  | value (kind : String)
  | key (kind : String)
  | limit
  | circular
  deriving DecidableEq, Repr

def Unwritable.message : Unwritable → String
  | .value kind => "Object of type " ++ kind ++ " is not JSON serializable"
  | .key kind => "keys must be str, int, float, bool or None, not " ++ kind
  | .limit => Decimal.LimitError.writing.message
  | .circular => "Circular reference detected"

/-- A line break before the content of a level, if the format has lines. -/
def Style.newline (style : Style) (level : Nat) : List Char :=
  match style.indent with
  | some width => '\n' :: List.replicate (width * level) ' '
  | none => []

/-- The separator of two members. -/
def Style.comma (style : Style) (level : Nat) : List Char :=
  match style.indent with
  | some _ => ',' :: style.newline level
  | none => [',', ' ']

/-- An integer's text, if it is not too long. -/
def integer (n : Int) : Except Unwritable (List Char) :=
  if Decimal.isWritable n then .ok (Decimal.intText n).toList else .error .limit

/-- The text of a key: scalars are written as texts. -/
def Style.key (style : Style) : Document → Except Unwritable (List Char)
  | .text t => .ok (style.string t)
  | .null => .ok (style.string "null")
  | .bool b => .ok (style.string (if b then "true" else "false"))
  | .int n => (integer n).map fun t => '"' :: t ++ ['"']
  | .float x => .ok (style.string (style.number.text x))
  | .date _ => .error (.key "date")
  | .moment _ => .error (.key "datetime")
  | .bytes _ => .error (.key "bytes")
  | .set _ => .error (.key "set")
  | .list _ => .error (.key "list")
  | .map _ => .error (.key "dict")
  | .shared _ d => style.key d

mutual

/-- The text of a value whose content stands at the given level, within the shared values of some
labels. -/
def Style.value (style : Style) (level : Nat) (within : List Nat) :
    Document → Except Unwritable (List Char)
  | .null => .ok "null".toList
  | .bool b => .ok (if b then "true" else "false").toList
  | .int n => integer n
  | .float x => .ok (style.float x).toList
  | .text t => .ok (style.string t)
  | .date _ => .error (.value "date")
  | .moment _ => .error (.value "datetime")
  | .bytes _ => .error (.value "bytes")
  | .set _ => .error (.value "set")
  | .list [] => .ok ['[', ']']
  | .list (d :: r) => do
    let first ← style.value (level + 1) within d
    let others ← style.items (level + 1) within r
    .ok ('[' :: style.newline (level + 1) ++ first ++ others ++ style.newline level ++ [']'])
  | .map [] => .ok ['\x7b', '\x7d']
  | .map ((k, v) :: r) => do
    let key ← style.key k
    let first ← style.value (level + 1) within v
    let others ← style.members (level + 1) within r
    .ok ('\x7b' :: style.newline (level + 1) ++ key ++ [':', ' '] ++ first ++ others
      ++ style.newline level ++ ['\x7d'])
  | .shared label d =>
    if within.contains label then .error .circular else style.value level (label :: within) d

/-- The items after the first. -/
def Style.items (style : Style) (level : Nat) (within : List Nat) :
    List Document → Except Unwritable (List Char)
  | [] => .ok []
  | d :: r => do
    let first ← style.value level within d
    let others ← style.items level within r
    .ok (style.comma level ++ first ++ others)

/-- The members after the first. -/
def Style.members (style : Style) (level : Nat) (within : List Nat) :
    Document.Entries → Except Unwritable (List Char)
  | [] => .ok []
  | (k, v) :: r => do
    let key ← style.key k
    let first ← style.value level within v
    let others ← style.members level within r
    .ok (style.comma level ++ key ++ [':', ' '] ++ first ++ others)

end

/-- A document's text. -/
def Style.write (style : Style) (d : Document) : Except Unwritable String :=
  (style.value 0 [] d).map String.ofList

/-- Numbers in definition files. -/
def fileNumber : Decimal.Style := { Decimal.plain with nan := "NaN", infinity := "Infinity" }

/-- Definition files: indented by two, ASCII only. -/
def file : Style := ⟨some 2, true, fileNumber, false⟩

/-- One line without escapes. -/
def line : Style := ⟨none, false, fileNumber, false⟩

end Statecraft.Json
