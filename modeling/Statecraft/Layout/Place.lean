import Statecraft.Decimal.Binary
import Statecraft.Layout.Config
import Statecraft.Layout.Rank

/-!
# Placing states

The layered layout puts each state on the layer of its rank, at the next free
slot of that layer in the order of the nodes. The grid fills rows from left to
right on a square just large enough.
-/

namespace Statecraft.Layout

/-- A point with coordinates of any kind. -/
structure Point (α : Type) where
  x : α
  y : α
  deriving DecidableEq, Repr

/-- Natural numbers as floating-point ones. -/
instance natCastFloat : NatCast Float := ⟨Float.ofNat⟩

section
variable {α : Type} [Add α] [Mul α] [NatCast α]

/-- The point of the given layer and slot. -/
def Config.point (c : Config α) (direction : Direction) (rank slot : Nat) : Point α :=
  match direction with
  | .leftToRight =>
    ⟨c.marginX + (rank : α) * (c.nodeWidth + c.rankSep),
      c.marginY + (slot : α) * (c.nodeHeight + c.nodeSep)⟩
  | .topToBottom =>
    ⟨c.marginX + (slot : α) * (c.nodeWidth + c.nodeSep),
      c.marginY + (rank : α) * (c.nodeHeight + c.rankSep)⟩

/-- Each state with its slot: how many states before it have its rank. -/
def slots (ranks : Ranks) (states : List String) : List (String × Nat) :=
  states.mapIdx fun i s => (s, (states.take i).countP fun t => ranks.of t == ranks.of s)

/-- The layered layout. -/
def layered (c : Config α) (direction : Direction) (nodes : List Node) (edges : List Edge) :
    List (String × Point α) :=
  let ranks := ranks nodes edges
  (slots ranks (nodes.map Node.id)).map fun p => (p.1, c.point direction (ranks.of p.1) p.2)

/-- The number of columns of a square grid for `n` states: the floating-point root of `n`, rounded
up. -/
def columns (n : Nat) : Nat := ((Decimal.ceil? (Decimal.ofInt n).sqrt).getD 0).toNat

/-- The point of the given row and column. -/
def Grid.point (g : Grid α) (row column : Nat) : Point α :=
  ⟨(column : α) * g.spacingX + g.offsetX, (row : α) * g.spacingY + g.offsetY⟩

/-- The grid, row by row; a repeated state keeps its first place. -/
def Grid.place (g : Grid α) (states : List String) : List (String × Point α) :=
  let c := columns states.length
  let all := states.mapIdx fun i s => (s, g.point (i / c) (i % c))
  all.foldl (fun acc p => if acc.any (·.1 == p.1) then acc else acc ++ [p]) []

end

end Statecraft.Layout
