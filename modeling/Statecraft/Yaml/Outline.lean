import Statecraft.Yaml.Scalar
import Statecraft.Document.Calendar
import Statecraft.Document.Sharing

/-!
# Outlines of documents

What a YAML text says of a document, before anything is said about lines and
columns: scalars have their texts, and a value that occurs at several places is
anchored at the first of them and an alias at the others. Collections of nothing
but plain scalars are marked to stay on one line.
-/

namespace Statecraft.Yaml

inductive Outline where
  | alias (name : String)
  | scalar (anchor : Option String) (tag : Tag) (text : List Char)
  | list (anchor : Option String) (inline : Bool) (items : List Outline)
  | map (anchor : Option String) (tag : Tag) (inline : Bool) (entries : List (Outline × Outline))
  deriving Inhabited

/-! ## Texts of scalars -/

/-- Floating-point numbers: written out as in guards, but always with a point. -/
def fileNumber : Decimal.Style :=
  { Decimal.plain with pointInExponentForm := true, nan := ".nan", infinity := ".inf" }

/-- The character of a value of base sixty-four. -/
def sextetChar (n : Nat) : Char :=
  if n < 26 then Char.ofNat (65 + n)
  else if n < 52 then Char.ofNat (71 + n)
  else if n < 62 then Char.ofNat (n - 4)
  else if n == 62 then '+' else '/'

/-- Bytes in base sixty-four, three bytes to four characters. -/
def sextets : List UInt8 → List Char
  | a :: b :: c :: r =>
    let n := (a.toNat * 256 + b.toNat) * 256 + c.toNat
    sextetChar (n / 262144) :: sextetChar (n / 4096 % 64) :: sextetChar (n / 64 % 64)
      :: sextetChar (n % 64) :: sextets r
  | [a, b] =>
    let n := (a.toNat * 256 + b.toNat) * 4
    [sextetChar (n / 4096), sextetChar (n / 64 % 64), sextetChar (n % 64), '=']
  | [a] =>
    let n := a.toNat * 16
    [sextetChar (n / 64), sextetChar (n % 64), '=', '=']
  | [] => []

/-- Lines of at most `width` characters, each with its end. -/
def linesOf (width : Nat) : Nat → List Char → List Char
  | 0, _ => []
  | _, [] => []
  | fuel + 1, s => s.take width ++ '\n' :: linesOf width fuel (s.drop width)

/-- The text of bytes: lines of seventy-six characters. -/
def bytesText (bs : List UInt8) : List Char :=
  let s := sextets bs
  linesOf 76 s.length s

/-! ## Outlines -/

/-- Names of the values that are anchored, by their labels. -/
abbrev Anchors := List (Nat × String)

/-- Anchors are numbered in three digits. -/
def anchorText (index : Nat) : String := "id" ++ paddedText 3 (index + 1)

/-- The anchors of a document: each label that occurs at several places has one. -/
def anchorsOf (d : Document) : Anchors :=
  d.repeatedLabels.mapIdx fun i l => (l, anchorText i)

/-- A value that may stand on a line with others: a scalar other than bytes. -/
def isInline (d : Document) : Bool :=
  match d.content with
  | .list _ | .map _ | .set _ | .bytes _ => false
  | _ => true

/-- The state of outlining: which anchors have been placed. -/
abbrev Outlining := StateT (List String) (Except Decimal.LimitError)

/-- The first time a value is met its outline is placed with the anchor's name, after
that there is only an alias. -/
def anchored (name : Option String) (outline : Option String → Outlining Outline) :
    Outlining Outline :=
  match name with
  | none => outline none
  | some n => do
    if (← get).contains n then return .alias n
    modify (n :: ·)
    outline name

/-- The outline of an integer, unless it has too many digits. -/
def outlineInt (n : Int) : Outlining Outline :=
  if Decimal.isWritable n then return .scalar none .int (Decimal.intText n).toList
  else throw .writing

mutual

/-- The outline of a value under a name that is given to its anchor, if it has one. -/
def outlineAs (anchors : Anchors) (name : Option String) : Document → Outlining Outline
  | .null => return .scalar none .null "null".toList
  | .bool b => return .scalar none .bool (if b then "true" else "false").toList
  | .int n => outlineInt n
  | .float x => return .scalar none .float (fileNumber.text x).toList
  | .text s => return .scalar none .text s.toList
  | .bytes bs => return .scalar none .binary (bytesText bs)
  | .date d => anchored name fun a => return .scalar a .timestamp d.text.toList
  | .moment t => anchored name fun a => return .scalar a .timestamp (t.text " ").toList
  | .list items => anchored name fun a => do
    return .list a (items.all isInline) (← outlineItems anchors items)
  | .set ms => anchored name fun a => do
    return .map a .set (ms.all isInline) (← outlineMembers anchors ms)
  | .map entries => anchored name fun a => do
    return .map a .map (entries.all fun e => isInline e.1 && isInline e.2)
      (← outlineEntries anchors entries)
  | .shared label d => outlineAs anchors (anchors.lookup label <|> name) d

def outlineItems (anchors : Anchors) : List Document → Outlining (List Outline)
  | [] => return []
  | d :: r => return (← outlineAs anchors none d) :: (← outlineItems anchors r)

/-- The members of a set are keys without values. -/
def outlineMembers (anchors : Anchors) : List Document → Outlining (List (Outline × Outline))
  | [] => return []
  | d :: r => do
    let key ← outlineAs anchors none d
    return (key, .scalar none .null "null".toList) :: (← outlineMembers anchors r)

def outlineEntries (anchors : Anchors) :
    Document.Entries → Outlining (List (Outline × Outline))
  | [] => return []
  | (k, v) :: r => do
    let key ← outlineAs anchors none k
    let value ← outlineAs anchors none v
    return (key, value) :: (← outlineEntries anchors r)

end

/-- The outline of a document. -/
def Outline.ofDocument (d : Document) : Except Decimal.LimitError Outline :=
  ((outlineAs (anchorsOf d) none d).run []).map (·.1)

end Statecraft.Yaml
