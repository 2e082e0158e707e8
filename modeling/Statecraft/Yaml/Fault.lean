import Statecraft.Decimal.Notation
import Statecraft.Text.Quoted

/-!
# Faults of YAML streams

Why a stream has no value, and which of several faults is the one to tell: a document
is taken in from the outside, so that a fault further out comes before one further in,
and of two at one depth the first comes first.
-/

namespace Statecraft.Yaml

/-- Why a stream has no value: it is malformed, an escape goes by a number that no character
has, or a scalar does not have the form that its tag asks for. -/
inductive Fault where
  | malformed
  | noCharacter (number : Nat)
  | notInteger (text : String) (base : Nat)
  | notNumber (text : String)
  | emptyNumber
  | unknownTruth (text : String)
  | notTime
  | badTime (what : String)
  | limit (limit : Decimal.LimitError)
  deriving DecidableEq, Repr

namespace Fault

/-- A number that does not even fit a signed word of thirty-two bits. -/
def isHuge (number : Nat) : Bool := Decimal.twoTo 31 ≤ number

/-- Only so much of a text that is no integer is shown. -/
def shownLength : Nat := 200

def message : Fault → String
  | .malformed => "Invalid YAML"
  | .noCharacter number =>
    if isHuge number then "Python int too large to convert to C int"
    else "chr() arg not in range(0x110000)"
  | .notInteger text base =>
    "invalid literal for int() with base " ++ Decimal.natText base ++ ": "
      ++ String.ofList ((Text.quoted text).toList.take shownLength)
  | .notNumber text => "could not convert string to float: " ++ Text.quoted text
  | .emptyNumber => "string index out of range"
  | .unknownTruth text => Text.quoted text
  | .notTime => "'NoneType' object has no attribute 'groupdict'"
  | .badTime what => what
  | .limit e => e.message

end Fault

/-- A result, or why there is none. -/
abbrev Result := Except Fault

/-! ## Faults in depth -/

/-- A fault with the number of collections around it. -/
structure Found where
  depth : Nat
  fault : Fault
  deriving DecidableEq, Repr

/-- The fault that comes first; one that is no deeper than the other. -/
def Found.first (a b : Found) : Found := if b.depth < a.depth then b else a

/-- A result, or the fault that comes first. -/
abbrev Finding := Except Found

namespace Finding

/-- A fault right here. -/
def here (r : Result α) : Finding α :=
  match r with
  | .ok a => .ok a
  | .error e => .error ⟨0, e⟩

/-- What was found inside a collection. -/
def inside (r : Finding α) : Finding α :=
  match r with
  | .ok a => .ok a
  | .error e => .error { e with depth := e.depth + 1 }

/-- Both results. -/
def both (x : Finding α) (y : Finding β) : Finding (α × β) :=
  match x, y with
  | .ok a, .ok b => .ok (a, b)
  | .error e, .ok _ | .ok _, .error e => .error e
  | .error e, .error f => .error (e.first f)

/-- All results. -/
def all : List (Finding α) → Finding (List α)
  | [] => .ok []
  | x :: r => (both x (all r)).map fun p => p.1 :: p.2

end Finding

end Statecraft.Yaml
