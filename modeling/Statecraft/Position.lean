import Statecraft.Shape.Scalar

/-!
# Positions on the canvas

The top-left corner of a state. A coordinate that nobody gave is the origin's
and is written as the integer zero; a given one is a floating-point number.
-/

namespace Statecraft

open Shape (Checked)

inductive Coordinate where
  | origin
  | at (value : Float)

namespace Coordinate

/-- The coordinate as a number. -/
def value : Coordinate → Float
  | .origin => 0
  | .at x => x

/-- The coordinate as definitions store it. -/
def toDocument : Coordinate → Document
  | .origin => .int 0
  | .at x => .float x

end Coordinate

structure Position where
  x : Coordinate
  y : Coordinate

namespace Position

def origin : Position := ⟨.origin, .origin⟩

/-- The position of two given numbers. -/
def of (x y : Float) : Position := ⟨.at x, .at y⟩

/-- The position as definitions store it. -/
def toDocument (p : Position) : Document :=
  .object [("x", p.x.toDocument), ("y", p.y.toDocument)]

/-- The position as graphs show it, with both numbers. -/
def toGraphDocument (p : Position) : Document :=
  .object [("x", .float p.x.value), ("y", .float p.y.value)]

/-- A coordinate that may be missing. -/
def coordinate (entries : Document.Entries) (key : String) : Checked Coordinate :=
  Shape.optional entries key .origin fun d => (Shape.number d).map .at

def ofDocument (d : Document) : Checked Position :=
  (Shape.record "Position" d).andThen fun entries =>
    Checked.both Position.mk (coordinate entries "x") (coordinate entries "y")

end Position

/-- The key of a definition's annotations that holds the positions of its states. -/
def positionsKey : String := "_builderPositions"

end Statecraft
