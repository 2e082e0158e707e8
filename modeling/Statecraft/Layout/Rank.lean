import Statecraft.Graph.Basic

/-!
# Ranks of states

States that reach each other form a component. The components are peeled off in
layers: each time those to which no component left is linked. The rank of a state
is the number of its component's layer.
-/

namespace Statecraft.Layout

/-- An arc from a state to another. -/
abbrev Arc := String × String

/-- The arcs of a graph: one for each source and target that are different nodes. -/
def arcs (nodes : List Node) (edges : List Edge) : List Arc :=
  let known := nodes.map Node.id
  edges.flatMap fun e =>
    if known.contains e.target then
      (e.sources.filter fun s => known.contains s && s != e.target).map (·, e.target)
    else []

/-- The states one arc away. -/
def successors (arcs : List Arc) (state : String) : List String :=
  (arcs.filter (·.1 == state)).map (·.2)

/-- The states seen once each state of the frontier has been left by its arcs; each
step leaves one state. -/
def spread (arcs : List Arc) : Nat → List String → List String → List String
  | 0, seen, _ => seen
  | _ + 1, seen, [] => seen
  | fuel + 1, seen, s :: frontier =>
    let fresh := ((successors arcs s).filter (!seen.contains ·)).eraseDups
    spread arcs fuel (seen ++ fresh) (frontier ++ fresh)

/-- The states that can be reached, the start among them. -/
def reachable (arcs : List Arc) (start : String) : List String :=
  spread arcs (arcs.length + 1) [start] [start]

/-- What each state reaches. -/
abbrev Reach := List (String × List String)

def reachOf (states : List String) (arcs : List Arc) : Reach :=
  states.map fun s => (s, reachable arcs s)

/-- The first state reaches the second. -/
def Reach.leads (r : Reach) (a b : String) : Bool := ((r.lookup a).getD []).contains b

/-- The states reach each other. -/
def Reach.mutual (r : Reach) (a b : String) : Bool := r.leads a b && r.leads b a

/-- The component of a state: the states that it reaches and that reach it. -/
def component (reach : Reach) (states : List String) (state : String) : List String :=
  states.filter (reach.mutual state)

/-- The components of a graph, and the links that its arcs make between different
ones. -/
structure Condensation where
  components : List (List String)
  links : List (List String × List String)

def condense (states : List String) (arcs : List Arc) : Condensation :=
  let component := component (reachOf states arcs) states
  { components := (states.map component).eraseDups
    links := (arcs.map fun a => (component a.1, component a.2)).filter fun l => l.1 != l.2 }

/-- Some of the items left is linked to the item. -/
def isLinked {γ : Type} [BEq γ] (links : List (γ × γ)) (left : List γ) (item : γ) : Bool :=
  links.any fun l => l.2 == item && left.contains l.1

/-- Layers of items, at most `n` of them: each time the items to which none of those
left is linked. -/
def generations {γ : Type} [BEq γ] (links : List (γ × γ)) : Nat → List γ → List (List γ)
  | 0, _ => []
  | n + 1, left =>
    if left.isEmpty then []
    else
      left.filter (!isLinked links left ·) ::
        generations links n (left.filter (isLinked links left))

/-- Ranks by state. -/
abbrev Ranks := List (String × Nat)

def Ranks.of (ranks : Ranks) (state : String) : Nat := (ranks.lookup state).getD 0

/-- Each state of a layer of components with the number of the layer. -/
def Ranks.ofLayers (layers : List (List (List String))) : Ranks :=
  layers.zipIdx.flatMap fun l => l.1.flatten.map (·, l.2)

/-- The ranks of the nodes. -/
def ranks (nodes : List Node) (edges : List Edge) : Ranks :=
  let c := condense (nodes.map Node.id).eraseDups (arcs nodes edges)
  Ranks.ofLayers (generations c.links c.components.length c.components)

end Statecraft.Layout
