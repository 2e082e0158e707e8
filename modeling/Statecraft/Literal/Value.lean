import Statecraft.Literal.Expression
import Statecraft.Text.Encoded

/-!
# The values of literals

A literal is a number, a text, a name of a constant, or a collection of literals. Only
what can be looked up may be a key or a member of a set, and mappings and sets cannot.
-/

namespace Statecraft.Literal

/-- What is wrong with an expression that is read but is no literal. -/
inductive ValueFault where
  | malformed
  | missingKey
  | unhashable (kind : String)
  | tooLarge
  deriving DecidableEq, Repr

def ValueFault.message : ValueFault → String
  | .malformed => "malformed node or string on line 1"
  | .missingKey => "malformed node or string: None"
  | .unhashable kind => "unhashable type: '" ++ kind ++ "'"
  | .tooLarge => "int too large to convert to float"

/-- What matters of a value: whether it can be looked up, and if not, the kind of the part that
keeps it from that. -/
inductive Value where
  | plain
  | tuple (unhashable : Option String)
  | mapping
  | set
  deriving DecidableEq, Repr

namespace Value

/-- The kind of the part that cannot be looked up. -/
def unhashable? : Value → Option String
  | .plain => none
  | .tuple kind => kind
  | .mapping => some "dict"
  | .set => some "set"

def asKey (v : Value) : Except ValueFault Unit :=
  match v.unhashable? with
  | some kind => .error (.unhashable kind)
  | none => .ok ()

end Value

/-- The number of an operand. -/
def numeral? : Node → Option Numeral
  | .number n => some n
  | _ => none

/-- The number of an operand with at most one sign. -/
def signedNumeral? : Node → Option Numeral
  | .plus n | .minus n => numeral? n
  | n => numeral? n

/-- Integers from here on are too large for a number with a point. -/
def realLimit : Nat := Decimal.twoTo 1024 - Decimal.twoTo 970

/-- A real part and an imaginary one. -/
def complexOf (left right : Node) : Except ValueFault Value :=
  match signedNumeral? left, numeral? right with
  | some (.integer n), some .imaginary => if realLimit ≤ n then .error .tooLarge else .ok .plain
  | some .real, some .imaginary => .ok .plain
  | _, _ => .error .malformed

mutual

/-- The value of an expression. -/
def valueOf : Node → Except ValueFault Value
  | .number _ | .text | .bytes | .truth _ | .none | .ellipsis => .ok .plain
  | .tuple items => do
    let vs ← valuesOf items
    .ok (.tuple (vs.findSome? Value.unhashable?))
  | .set items => do
    membersOf items
    .ok .set
  | .dict entries => do
    entriesOf entries
    .ok .mapping
  | .plus n => if (numeral? n).isSome then .ok .plain else .error .malformed
  | .minus n => if (numeral? n).isSome then .ok .plain else .error .malformed
  | .sum left right => complexOf left right
  | .call true => .ok .set
  | .noKey => .error .missingKey
  | _ => .error .malformed

def valuesOf : List Node → Except ValueFault (List Value)
  | [] => .ok []
  | n :: r => do
    let v ← valueOf n
    let vs ← valuesOf r
    .ok (v :: vs)

/-- The members of a set, each to be looked up before the next one is valued. -/
def membersOf : List Node → Except ValueFault Unit
  | [] => .ok ()
  | n :: r => do
    (← valueOf n).asKey
    membersOf r

/-- The entries of a mapping, each key to be looked up once its value is known. -/
def entriesOf : List Node → Except ValueFault Unit
  | k :: v :: r => do
    let key ← valueOf k
    let _ ← valueOf v
    key.asKey
    entriesOf r
  | _ => .ok ()

end

/-! ## Texts -/

/-- Why a text is no literal: it is not written as one, which may get lost, or it has no value. -/
inductive Refusal where
  | writing (message : String)
  | lost
  | value (fault : ValueFault)
  deriving DecidableEq, Repr

/-- A text is a literal. -/
def check (text : List Char) : Except Refusal Unit :=
  if text.contains '\x00' then .error (.writing "source code string cannot contain null bytes")
  else
    match expressionOf (Text.unifyLines text) with
    | .error (.message text) => .error (.writing text)
    | .error .lost => .error .lost
    | .ok n =>
      match valueOf n with
      | .error fault => .error (.value fault)
      | .ok _ => .ok ()

end Statecraft.Literal
