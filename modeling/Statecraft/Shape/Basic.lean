import Statecraft.Document.Display

/-!
# The shape of documents

A check either gives a value or lists every place where the document has the
wrong shape. Checks of the parts of a document combine side by side, so no
issue hides another.
-/

namespace Statecraft.Shape

/-- One step into a document. -/
inductive Step where
  | key (name : String)
  | index (index : Int)
  deriving DecidableEq, Repr

/-- The container that has too few items. -/
inductive Container where
  | list
  | tuple
  deriving DecidableEq, Repr

/-- What is wrong in a place. -/
inductive Kind where
  | missing
  | notText
  | notUnicode
  | notList
  | notTuple
  | notMapping
  | notBoolean
  | unclearBoolean
  | notInteger
  | notNumber
  | unclearNumber
  | notPositive
  | negative
  | emptyText
  | tooFew (container : Container)
  | notModel (name : String)
  | notItem
  | noTag (key : String)
  | unknownTag (tag key : String) (expected : List String)
  | notOneOf (expected : List String)
  | notLiteral (expected : List String)
  deriving DecidableEq, Repr

namespace Kind

/-- The kind's code. -/
def code : Kind → String
  | .missing => "missing"
  | .notText => "string_type"
  | .notUnicode => "string_unicode"
  | .notList => "list_type"
  | .notTuple => "tuple_type"
  | .notMapping => "dict_type"
  | .notBoolean => "bool_type"
  | .unclearBoolean => "bool_parsing"
  | .notInteger => "int_type"
  | .notNumber => "float_type"
  | .unclearNumber => "float_parsing"
  | .notPositive => "greater_than"
  | .negative => "greater_than_equal"
  | .emptyText => "string_too_short"
  | .tooFew _ => "too_short"
  | .notModel _ => "model_type"
  | .notItem => "model_attributes_type"
  | .noTag _ => "union_tag_not_found"
  | .unknownTag .. => "union_tag_invalid"
  | .notOneOf _ => "enum"
  | .notLiteral _ => "literal_error"

/-- Choices as `'a', 'b' or 'c'`. -/
def choices (expected : List String) : String :=
  let shown := expected.map fun s => "'" ++ s ++ "'"
  match shown.reverse with
  | [] => ""
  | [one] => one
  | last :: r => ", ".intercalate r.reverse ++ " or " ++ last

def message : Kind → String
  | .missing => "Field required"
  | .notText => "Input should be a valid string"
  | .notUnicode => "Input should be a valid string, unable to parse raw data as a unicode string"
  | .notList => "Input should be a valid list"
  | .notTuple => "Input should be a valid tuple"
  | .notMapping => "Input should be a valid dictionary"
  | .notBoolean => "Input should be a valid boolean"
  | .unclearBoolean => "Input should be a valid boolean, unable to interpret input"
  | .notInteger => "Input should be a valid integer"
  | .notNumber => "Input should be a valid number"
  | .unclearNumber => "Input should be a valid number, unable to parse string as a number"
  | .notPositive => "Input should be greater than 0"
  | .negative => "Input should be greater than or equal to 0"
  | .emptyText => "String should have at least 1 character"
  | .tooFew .list => "List should have at least 1 item after validation, not 0"
  | .tooFew .tuple => "Tuple should have at least 1 item after validation, not 0"
  | .notModel name => "Input should be a valid dictionary or instance of " ++ name
  | .notItem => "Input should be a valid dictionary or object to extract fields from"
  | .noTag key => "Unable to extract tag using discriminator '" ++ key ++ "'"
  | .unknownTag tag key expected =>
    "Input tag '" ++ tag ++ "' found using '" ++ key ++ "' does not match any of the expected tags: "
      ++ ", ".intercalate (expected.map fun s => "'" ++ s ++ "'")
  | .notOneOf expected => "Input should be " ++ choices expected
  | .notLiteral expected => "Input should be " ++ choices expected

end Kind

/-- A place and what is wrong there. -/
structure Issue where
  path : List Step
  kind : Kind
  deriving DecidableEq, Repr

/-- The outcome of a check. -/
inductive Checked (α : Type) where
  | ok (value : α)
  | bad (issues : List Issue)

namespace Checked

/-- The issues, none if there is a value. -/
def issues : Checked α → List Issue
  | .ok _ => []
  | .bad is => is

def value? : Checked α → Option α
  | .ok a => some a
  | .bad _ => none

def map (f : α → β) : Checked α → Checked β
  | .ok a => .ok (f a)
  | .bad is => .bad is

/-- Both checks, with the issues of the first before those of the second. -/
def both (f : α → β → γ) (a : Checked α) (b : Checked β) : Checked γ :=
  match a, b with
  | .ok x, .ok y => .ok (f x y)
  | a, b => .bad (a.issues ++ b.issues)

/-- A further check of the value. -/
def andThen (a : Checked α) (f : α → Checked β) : Checked β :=
  match a with
  | .ok x => f x
  | .bad is => .bad is

/-- All checks of a list. -/
def all : List (Checked α) → Checked (List α)
  | [] => .ok []
  | a :: r => both List.cons a (all r)

/-- One issue right here. -/
def fail (kind : Kind) : Checked α := .bad [⟨[], kind⟩]

/-- The check was made one step deeper. -/
def within (step : Step) : Checked α → Checked α
  | .ok a => .ok a
  | .bad is => .bad (is.map fun i => { i with path := step :: i.path })

/-- The check of a key's value. -/
def atKey (name : String) : Checked α → Checked α := within (.key name)

/-- The checks of the items of a list, each at its index. -/
def items (check : α → Checked β) (xs : List α) : Checked (List β) :=
  all (xs.mapIdx fun i x => (check x).within (.index i))

/-- The result with the issues as an error. -/
def toExcept : Checked α → Except (List Issue) α
  | .ok a => .ok a
  | .bad is => .error is

end Checked

end Statecraft.Shape
