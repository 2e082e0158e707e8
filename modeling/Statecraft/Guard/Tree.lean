import Statecraft.Document.Basic
import Statecraft.Text.Blank

/-!
# Guard trees

A guard is a group of conditions and groups, joined by one logic per group; any
node may be negated. A condition compares a field of the context with a value
or asks whether the field exists. A condition with a blank field is a draft row
and not part of the guard yet.
-/

namespace Statecraft.Guard

/-- The comparisons, and the two questions that need no value. -/
inductive Operator where
  | exists
  | notExists
  | equal
  | notEqual
  | greater
  | greaterEqual
  | less
  | lessEqual
  deriving DecidableEq, Repr

namespace Operator

def all : List Operator :=
  [.exists, .notExists, .equal, .notEqual, .greater, .greaterEqual, .less, .lessEqual]

/-- The operator's name in data and, for comparisons, its spelling in texts. -/
def name : Operator → String
  | .exists => "exists"
  | .notExists => "not_exists"
  | .equal => "=="
  | .notEqual => "!="
  | .greater => ">"
  | .greaterEqual => ">="
  | .less => "<"
  | .lessEqual => "<="

/-- The operator compares with a value. -/
def needsValue : Operator → Bool
  | .exists | .notExists => false
  | _ => true

def comparisons : List Operator := all.filter needsValue

def ofName? (name : String) : Option Operator := all.find? (·.name == name)

theorem ofName?_name (op : Operator) : ofName? op.name = some op := by
  cases op <;> decide

end Operator

/-- How a group combines its items. -/
inductive Logic where
  | and
  | or
  deriving DecidableEq, Repr

namespace Logic

def all : List Logic := [.and, .or]

def name : Logic → String
  | .and => "and"
  | .or => "or"

/-- The spelling between two items. -/
def symbol : Logic → String
  | .and => "&&"
  | .or => "||"

def joiner (l : Logic) : String := " " ++ l.symbol ++ " "

def ofName? (name : String) : Option Logic := all.find? (·.name == name)

end Logic

/-- What a field is compared with. -/
inductive Value where
  | null
  | bool (value : Bool)
  | int (value : Int)
  | float (value : Float)
  | text (value : String)

namespace Value

def toDocument : Value → Document
  | .null => .null
  | .bool b => .bool b
  | .int n => .int n
  | .float x => .float x
  | .text s => .text s

/-- Equality by value: numbers across kinds, a truth value counting as zero or one. -/
def same (a b : Value) : Bool := a.toDocument.same b.toDocument

end Value

/-- A leaf: `field` is a dotted path without the context's name. -/
structure Condition where
  field : String
  operator : Operator
  value : Value
  negated : Bool

namespace Condition

/-- The name of the context with its dot, which every field has in texts. -/
def contextDot : String := "ctx."

/-- The field's path: trimmed, without the context's name. -/
def path (field : String) : String :=
  let s := Text.trim field.toList
  String.ofList (match s with
    | 'c' :: 't' :: 'x' :: '.' :: r => r
    | s => s)

/-- A condition as it is stored: the field's path, and a value only if the
operator needs one. -/
def of (field : String) (operator : Operator) (value : Value) (negated : Bool) : Condition where
  field := path field
  operator := operator
  value := if operator.needsValue then value else .null
  negated := negated

/-- A draft row. -/
def draft : Condition := ⟨"", .exists, .null, false⟩

def isBlank (c : Condition) : Bool := Text.isBlankText c.field

def same (a b : Condition) : Bool :=
  a.field == b.field && a.operator == b.operator && a.value.same b.value && a.negated == b.negated

end Condition

/-- A node below the root. -/
inductive Tree where
  | leaf (condition : Condition)
  | group (logic : Logic) (items : List Tree) (negated : Bool)

/-- A guard's root. -/
structure Group where
  logic : Logic
  items : List Tree
  negated : Bool

namespace Tree

def negated : Tree → Bool
  | .leaf c => c.negated
  | .group _ _ n => n

/-- The node with its negation set. -/
def setNegated : Tree → Tree
  | .leaf c => .leaf { c with negated := true }
  | .group l items _ => .group l items true

mutual

/-- The leaves from left to right. -/
def conditions : Tree → List Condition
  | .leaf c => [c]
  | .group _ items _ => conditionsList items

def conditionsList : List Tree → List Condition
  | [] => []
  | t :: r => t.conditions ++ conditionsList r

end

mutual

/-- Some leaf has a field. -/
def isComplete : Tree → Bool
  | .leaf c => !c.isBlank
  | .group _ items _ => isCompleteList items

def isCompleteList : List Tree → Bool
  | [] => false
  | t :: r => t.isComplete || isCompleteList r

end

mutual

/-- Equality of trees, values compared by value. -/
def same : Tree → Tree → Bool
  | .leaf a, .leaf b => a.same b
  | .group l items n, .group l' items' n' => l == l' && n == n' && sameList items items'
  | _, _ => false

def sameList : List Tree → List Tree → Bool
  | [], [] => true
  | a :: r, b :: s => a.same b && sameList r s
  | _, _ => false

end

end Tree

namespace Group

def toTree (g : Group) : Tree := .group g.logic g.items g.negated

/-- The node as a root: a group as it is, a condition as the one item of a group. -/
def ofTree : Tree → Group
  | .group l items n => ⟨l, items, n⟩
  | .leaf c => ⟨.and, [.leaf c], false⟩

/-- A group with one draft row. -/
def draft (logic : Logic) : Group := ⟨logic, [.leaf Condition.draft], false⟩

def conditions (g : Group) : List Condition := Tree.conditionsList g.items

def isComplete (g : Group) : Bool := Tree.isCompleteList g.items

def same (a b : Group) : Bool := a.toTree.same b.toTree

end Group

end Statecraft.Guard
