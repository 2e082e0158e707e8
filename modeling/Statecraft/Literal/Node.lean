import Statecraft.Literal.Quote

/-!
# What literals are made of

The parts of an expression, as far as they tell literals from others, and what messages
call them.
-/

namespace Statecraft.Literal

/-- A number that is written out. -/
inductive Numeral where
  | integer (n : Nat)
  | real
  | imaginary
  deriving DecidableEq, Repr

/-- Expressions. Those that no literal has keep only what messages tell of them. -/
inductive Node where
  | number (n : Numeral)
  /-- A text in quotes, before it is known what it stands for. -/
  | written (t : Token)
  /-- No expression: the first and the last token of what follows. -/
  | span (first last : Token)
  | text
  | bytes
  | truth (value : Bool)
  | none
  | ellipsis
  | name (id : List Char)
  | tuple (items : List Node)
  | set (items : List Node)
  /-- Keys and values in turn. -/
  | dict (entries : List Node)
  /-- In place of a key, where the entries of another mapping are put in. -/
  | noKey
  | plus (operand : Node)
  | minus (operand : Node)
  | sum (left right : Node)
  /-- The right side of a sum, before the left one is known. -/
  | addend (right : Node)
  | operation
  | starred (value : Node)
  /-- A comparison; of those that ask whether something is in something, the left side. -/
  | comparison (left : List Node)
  | attribute
  /-- A call; the only one that gives a value is that for an empty set. -/
  | call (emptySet : Bool)
  | lambda
  | conditional
  | generator
  | setComprehension
  | dictComprehension
  | formatted
  | assignment
  | await
  | yield
  /-- Arguments: the first tokens of those that have no name, the last one first, and whether those
  with names are spread mappings. -/
  | arguments (plain : List Token) (unpacked : Bool)
  | named
  | unpacked
  deriving Repr

namespace Node

/-- What a text in quotes is. -/
def ofQuoted : Quoted → Node
  | .characters => .text
  | .bytes => .bytes
  | .formatted => .formatted

def written? : Node → Option Token
  | .written t => some t
  | _ => Option.none

def span? : Node → Option (Token × Token)
  | .span first last => some (first, last)
  | _ => Option.none

/-- A tuple or generator, which brings brackets of its own. -/
def hasBrackets : Node → Bool
  | .tuple _ | .generator => true
  | _ => false

/-- The first expression. -/
def first? (ns : List Node) : Option Node := ns.find? fun n => n.span?.isNone

/-- What messages call an expression. -/
def kind : Node → String
  | .number _ | .written _ | .text | .bytes => "literal"
  | .truth true => "True"
  | .truth false => "False"
  | .none => "None"
  | .ellipsis => "ellipsis"
  | .name _ => "name"
  | .tuple _ => "tuple"
  | .set _ => "set display"
  | .dict _ => "dict literal"
  | .starred _ => "starred"
  | .comparison _ => "comparison"
  | .attribute => "attribute"
  | .call _ => "function call"
  | .lambda => "lambda"
  | .conditional => "conditional expression"
  | .generator => "generator expression"
  | .setComprehension => "set comprehension"
  | .dictComprehension => "dict comprehension"
  | .formatted => "f-string expression"
  | .assignment => "named expression"
  | .await => "await expression"
  | .yield => "yield expression"
  | _ => "expression"

mutual

/-- The first part of an expression that cannot be assigned to by a loop. -/
def wrongTarget? : Node → Option Node
  | .tuple items => wrongTargets? items
  | .starred n => wrongTarget? n
  | .comparison left => wrongTargets? left
  | .name _ | .attribute => Option.none
  | n => some n

def wrongTargets? : List Node → Option Node
  | [] => Option.none
  | n :: r =>
    match wrongTarget? n with
    | some m => some m
    | Option.none => wrongTargets? r

end

/-- Values added to or taken from each other, from left to right. -/
def sumOf : List Node → List Node
  | [] => []
  | first :: r => [r.foldl (fun left n => match n with
      | .addend right => .sum left right
      | _ => .operation) first]

/-- A value followed by what is done with it: its attributes and calls, from left to right. -/
def ofPrimary : List Node → List Node
  | [.name id, .call true] => [.call (id == "set".toList)]
  | [n] => [n]
  | _ :: .call _ :: [] => [.call false]
  | _ :: r => ofPrimary r
  | [] => []

/-- The arguments of a call, of which those without names come with their spans. -/
def argumentsOf (ns : List Node) : Node :=
  let isUnpacked := fun
    | Node.unpacked => true
    | _ => false
  .arguments ((ns.filterMap span?).map (·.1)).reverse (ns.any isUnpacked)

end Node

end Statecraft.Literal
