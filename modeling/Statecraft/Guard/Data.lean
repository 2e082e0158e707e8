import Statecraft.Guard.Tree
import Statecraft.Shape.Scalar

/-!
# Guard trees as data

The form in which trees are exchanged with a visual builder: mappings tagged
`condition` or `group`. Reading checks the shape and reports every issue.
-/

namespace Statecraft.Guard

open Shape (Checked)

/-- A value that is null, a scalar or nothing at all. -/
def Value.ofDocument (d : Document) : Checked Value :=
  match d.content with
  | .null => .ok .null
  | .bool b => .ok (.bool b)
  | .int n => .ok (.int n)
  | .float x => .ok (.float x)
  | .text s => .ok (.text s)
  | _ => .bad [⟨[.key "bool"], .notBoolean⟩, ⟨[.key "int"], .notInteger⟩,
      ⟨[.key "float"], .notNumber⟩, ⟨[.key "str"], .notText⟩]

def Operator.ofDocument : Document → Checked Operator :=
  Shape.oneOf (Operator.all.map Operator.name) Operator.ofName? .notOneOf

def Logic.ofDocument : Document → Checked Logic :=
  Shape.oneOf (Logic.all.map Logic.name) Logic.ofName? .notOneOf

/-- The tag must be the given one if it is there. -/
def checkTag (tag : String) (entries : Document.Entries) : Checked Unit :=
  Shape.optional entries "type" () <|
    Shape.oneOf [tag] (fun s => if s == tag then some () else none) .notLiteral

/-- A condition from its fields, stored as a condition is. -/
def Condition.ofEntries (entries : Document.Entries) : Checked Condition :=
  let field := Shape.optional entries "field" "" Shape.text
  let operator := Shape.optional entries "operator" .exists Operator.ofDocument
  let value := Shape.optional entries "value" .null Value.ofDocument
  let negated := Shape.optional entries "negated" false Shape.boolean
  let head := Checked.both (fun _ f => f) (checkTag "condition" entries) field
  let middle := Checked.both (fun f op => (f, op)) head operator
  let full := Checked.both (fun p v => (p, v)) middle value
  Checked.both (fun p n => Condition.of p.1.1 p.1.2 p.2 n) full negated

/-- The tags of a group's items. -/
def itemTags : List String := ["condition", "group"]

mutual

/-- A group from its fields; `fuel` bounds its depth. -/
def groupOf : Nat → Document.Entries → Checked Group
  | 0, _ => .fail .notItem
  | fuel + 1, entries =>
    let logic := Shape.optional entries "logic" .and Logic.ofDocument
    let items := Shape.required entries "items" fun d =>
      (Shape.list d).andThen fun ds =>
        if ds.isEmpty then .fail (.tooFew .list) else Checked.items (itemOf fuel) ds
    let negated := Shape.optional entries "negated" false Shape.boolean
    let head := Checked.both (fun _ l => l) (checkTag "group" entries) logic
    let full := Checked.both (fun l i => (l, i)) head items
    Checked.both (fun p n => ⟨p.1, p.2, n⟩) full negated

/-- An item by its tag. -/
def itemOf : Nat → Document → Checked Tree
  | 0, _ => .fail .notItem
  | fuel + 1, d =>
    match d.content with
    | .map entries =>
      match Document.Entries.get? entries "type" with
      | none => .fail (.noTag "type")
      | some tag =>
        match tag.content with
        | .text "condition" =>
          ((Condition.ofEntries entries).map Tree.leaf).atKey "condition"
        | .text "group" => ((groupOf fuel entries).map Group.toTree).atKey "group"
        | tag => .fail (.unknownTag tag.inSentence "type" itemTags)
    | _ => .fail .notItem

end

/-- The guard that data stand for; no data stand for no guard. -/
def Group.ofDocument (d : Document) : Checked (Option Group) :=
  match d.content with
  | .null => .ok none
  | d => ((Shape.record "ConditionGroup" d).andThen (groupOf (2 * d.depth + 2))).map some

def Condition.toDocument (c : Condition) : Document :=
  Document.objectOf [("type", some (.text "condition")), ("field", some (.text c.field)),
    ("operator", some (.text c.operator.name)),
    ("value", if c.operator.needsValue then some c.value.toDocument else none),
    ("negated", some (.bool c.negated))]

/-- A group's data from its items' data. -/
def groupDocument (l : Logic) (items : List Document) (negated : Bool) : Document :=
  Document.object [("type", .text "group"), ("logic", .text l.name), ("items", .list items),
    ("negated", .bool negated)]

mutual

def Tree.toDocument : Tree → Document
  | .leaf c => c.toDocument
  | .group l items n => groupDocument l (Tree.toDocuments items) n

def Tree.toDocuments : List Tree → List Document
  | [] => []
  | t :: r => t.toDocument :: Tree.toDocuments r

end

def Group.toDocument (g : Group) : Document := g.toTree.toDocument

/-- Why a tree cannot be built from given parts: a name of no operator, logic or
view, or parts of the wrong shape. -/
inductive BuildError where
  | unknownName (value : Document) (what : String)
  | shape (issues : List Shape.Issue)

/-- The wording for a name that is not known. -/
def unknownNameMessage (value : Document) (what : String) : String :=
  value.display ++ " is not a valid " ++ what

/-- A named value given as data. -/
def named (what : String) (of : String → Option α) (d : Document) : Except BuildError α :=
  match d.content with
  | .text s =>
    match of s with
    | some a => .ok a
    | none => .error (.unknownName d what)
  | _ => .error (.unknownName d what)

/-- A condition from its parts. -/
def Condition.build (field operator value negated : Document) : Except BuildError Condition :=
  match named "Operator" Operator.ofName? operator with
  | .error e => .error e
  | .ok op =>
    match Condition.ofEntries [(.text "field", field), (.text "operator", .text op.name),
      (.text "value", value), (.text "negated", negated)] with
    | .ok c => .ok c
    | .bad issues => .error (.shape issues)

/-- A group of built items. -/
def Group.build (items : List Tree) (logic negated : Document) : Except BuildError Group :=
  match named "Logic" Logic.ofName? logic with
  | .error e => .error e
  | .ok l =>
    let items := if items.isEmpty then Checked.atKey "items" (.fail (.tooFew .list)) else .ok items
    match Checked.both (fun i n => ⟨l, i, n⟩) items ((Shape.boolean negated).atKey "negated") with
    | .ok g => .ok g
    | .bad issues => .error (.shape issues)

end Statecraft.Guard
