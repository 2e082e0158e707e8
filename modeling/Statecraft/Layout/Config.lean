import Statecraft.Shape.Scalar

/-!
# Configuration of layouts

Sizes and distances of the layered layout and of the grid. Both are written for
any kind of number, so that the placements can be spoken about exactly; the
program runs them on floating-point numbers.
-/

namespace Statecraft.Layout

open Shape (Checked)

/-- Which way the layers follow each other. -/
inductive Direction where
  | leftToRight
  | topToBottom
  deriving DecidableEq, Repr

namespace Direction

def name : Direction → String
  | .leftToRight => "LR"
  | .topToBottom => "TB"

def all : List Direction := [.leftToRight, .topToBottom]

def ofName? (name : String) : Option Direction := all.find? (·.name == name)

def ofDocument : Document → Checked Direction :=
  Shape.oneOf (all.map name) ofName? .notLiteral

end Direction

/-- A direction that layouts do not know. -/
structure UnknownDirection where
  name : String
  deriving DecidableEq, Repr

def UnknownDirection.message (u : UnknownDirection) : String :=
  "Unsupported layout direction: " ++ u.name

/-- The layered layout: the size of a node, the gaps within and between layers, and
the margins. -/
structure Config (α : Type) where
  direction : Direction
  nodeWidth : α
  nodeHeight : α
  nodeSep : α
  rankSep : α
  marginX : α
  marginY : α
  deriving Repr

/-- The grid: the distance of neighbours and the place of the first. -/
structure Grid (α : Type) where
  spacingX : α
  spacingY : α
  offsetX : α
  offsetY : α
  deriving Repr

def Config.default : Config Float := ⟨.leftToRight, 120, 48, 60, 80, 50, 50⟩

def Grid.default : Grid Float := ⟨180, 100, 50, 50⟩

/-- The direction of the given name, or the configured one if none is given. -/
def Config.resolve (c : Config α) (name : Option String) : Except UnknownDirection Direction :=
  match name with
  | none | some "" => .ok c.direction
  | some n =>
    match Direction.ofName? n with
    | some d => .ok d
    | none => .error ⟨n⟩

/-- A number above zero. -/
def positive (d : Document) : Checked Float :=
  (Shape.number d).andThen fun x => if 0 < x then .ok x else .fail .notPositive

/-- A number of at least zero. -/
def notNegative (d : Document) : Checked Float :=
  (Shape.number d).andThen fun x => if 0 ≤ x then .ok x else .fail .negative

def Config.ofEntries (entries : Document.Entries) : Checked (Config Float) :=
  let c := Config.default
  let direction := Shape.optional entries "direction" c.direction Direction.ofDocument
  let width := Shape.optional entries "node_width" c.nodeWidth positive
  let height := Shape.optional entries "node_height" c.nodeHeight positive
  let nodeSep := Shape.optional entries "node_sep" c.nodeSep notNegative
  let rankSep := Shape.optional entries "rank_sep" c.rankSep notNegative
  let marginX := Shape.optional entries "margin_x" c.marginX notNegative
  let marginY := Shape.optional entries "margin_y" c.marginY notNegative
  let a := Checked.both (fun d w => Config.mk d w) direction width
  let b := Checked.both (· ·) a height
  let c := Checked.both (· ·) b nodeSep
  let d := Checked.both (· ·) c rankSep
  let e := Checked.both (· ·) d marginX
  Checked.both (· ·) e marginY

def Config.ofDocument (d : Document) : Checked (Config Float) :=
  (Shape.record "LayoutConfig" d).andThen Config.ofEntries

def Grid.ofEntries (entries : Document.Entries) : Checked (Grid Float) :=
  let g := Grid.default
  let spacingX := Shape.optional entries "spacing_x" g.spacingX positive
  let spacingY := Shape.optional entries "spacing_y" g.spacingY positive
  let offsetX := Shape.optional entries "offset_x" g.offsetX Shape.number
  let offsetY := Shape.optional entries "offset_y" g.offsetY Shape.number
  let a := Checked.both (fun x y => Grid.mk x y) spacingX spacingY
  let b := Checked.both (· ·) a offsetX
  Checked.both (· ·) b offsetY

def Grid.ofDocument (d : Document) : Checked (Grid Float) :=
  (Shape.record "GridConfig" d).andThen Grid.ofEntries

end Statecraft.Layout
