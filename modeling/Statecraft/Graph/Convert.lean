import Statecraft.Graph.Merge
import Statecraft.Layout.Place
import Statecraft.Text.Fresh

/-!
# Definitions as graphs and back

A definition's graph has a node for each of its states and an edge for each
event and target. The way back groups the edges by event and target, whatever
the graph looks like, and stores where its states are.
-/

namespace Statecraft

open Layout (Direction)

/-- `name#2`, `name#3`, and so on, the first that is not taken. -/
def freshCopy (name : String) (taken : List String) : String :=
  let candidate := fun k => name ++ "#" ++ Decimal.natText (k + 2)
  candidate (Text.firstFree candidate taken)

/-- One id for each state: its name for the first of a name, a fresh copy for the
others. `taken` are the ids that cannot be used, `seen` the names that have
occurred. -/
def assignIds : List String → List String → List String → List String
  | _, _, [] => []
  | taken, seen, s :: r =>
    if seen.contains s then
      let id := freshCopy s taken
      id :: assignIds (id :: taken) seen r
    else s :: assignIds taken (s :: seen) r

/-- One id for each state of a list. -/
def nodeIdsOf (states : List String) : List String := assignIds states.eraseDups [] states

/-- Where states go that have no stored position. -/
def gridPositions (grid : Layout.Grid Float) (states : List String) : List (String × Position) :=
  (grid.place states).map fun p => (p.1, Position.of p.2.x p.2.y)

/-- Where the layered layout puts nodes; of two nodes with one id the later one
counts. -/
def layeredPositions (config : Layout.Config Float) (direction : Direction) (nodes : List Node)
    (edges : List Edge) : List (String × Position) :=
  Positions.ofList <|
    (Layout.layered config direction nodes edges).map fun p => (p.1, Position.of p.2.x p.2.y)

/-- The nodes at their places in the layered layout. -/
def arrange (config : Layout.Config Float) (direction : Direction) (nodes : List Node)
    (edges : List Edge) : List Node :=
  let placed := layeredPositions config direction nodes edges
  nodes.map fun n => { n with position := (placed.lookup n.id).getD n.position }

/-- How a definition becomes a graph: the direction and sizes of the layered layout
if positions are to be computed, the grid otherwise, and the key of the stored
positions. -/
structure Placement where
  layered : Option (Direction × Layout.Config Float)
  grid : Layout.Grid Float
  key : String

namespace Definition

/-- The nodes of a definition, with stored positions or else on the grid. -/
def toNodes (d : Definition) (grid : Layout.Grid Float) (key : String) : List Node :=
  let stored := d.positions key
  let defaults := gridPositions grid d.states
  ((nodeIdsOf d.states).zip d.states).map fun (id, state) =>
    { id := id
      label := state
      isInitial := id == d.initial
      position := ((stored.get? state).orElse fun _ => defaults.lookup state).getD .origin }

/-- The definition's graph, and the warnings about guards lost in it. -/
def toGraph (d : Definition) (p : Placement) : Graph × List Bundle.Divergence :=
  let nodes := d.toNodes p.grid p.key
  let (edges, divergences) := mergeTransitions d.transitions
  match p.layered with
  | some (direction, config) =>
    if d.hasPositions p.key then (⟨nodes, edges⟩, divergences)
    else (⟨arrange config direction nodes edges, edges⟩, divergences)
  | none => (⟨nodes, edges⟩, divergences)

/-- The definition's graph, the direction given by name. An unknown name matters
only if the layered layout is needed. -/
def toGraphNamed (d : Definition) (autoLayout : Bool) (direction : Option String)
    (config : Layout.Config Float) (grid : Layout.Grid Float) (key : String) :
    Except Layout.UnknownDirection (Graph × List Bundle.Divergence) :=
  if autoLayout && !d.hasPositions key then
    (config.resolve direction).map fun dir => d.toGraph ⟨some (dir, config), grid, key⟩
  else .ok (d.toGraph ⟨none, grid, key⟩)

end Definition

namespace Bundle

/-- The bundle with an edge's sources, and its guard if there is none yet. -/
def take (b : Bundle) (sources : List String) (guard : Option String) : Bundle :=
  { b with
    sources := (b.sources ++ sources).eraseDups
    guard := match guardText b.guard, guardText guard with
      | none, some g => some g
      | _, _ => b.guard }
where
  /-- A guard that says something. -/
  guardText (g : Option String) : Option String := g.filter fun s => !s.isEmpty

/-- A bundle put among bundles. -/
def add (bundles : List Bundle) (new : Bundle) : List Bundle :=
  match bundles with
  | [] => [{ new with sources := new.sources.eraseDups }]
  | b :: r => if b.key == new.key then b.take new.sources new.guard :: r else b :: add r new

/-- The transition of a bundle, written as shortly as it can be. -/
def toTransition (b : Bundle) : Transition :=
  Transition.of (Origin.ofStates b.sources) b.event b.target b.guard

end Bundle

/-- An edge in the names of the states: none if its target or all its sources are
unknown. -/
def Edge.named? (labels : List (String × String)) (e : Edge) : Option Bundle :=
  match labels.lookup e.target, e.sources.filterMap fun s => labels.lookup s with
  | some target, s :: ss => some ⟨e.event, target, s :: ss, e.guard⟩
  | _, _ => none

namespace Graph

/-- The names of the nodes by id; of two nodes with one id the later one counts. -/
def labels (g : Graph) : List (String × String) := (g.nodes.map fun n => (n.id, n.label)).reverse

/-- The name of the initial state, or else of the first. -/
def initial (g : Graph) : String :=
  match g.nodes.find? Node.isInitial with
  | some n => n.label
  | none => (g.nodes.head?.map Node.label).getD ""

/-- The transitions of a graph. -/
def transitions (g : Graph) : List Transition :=
  ((g.edges.filterMap (Edge.named? g.labels)).foldl Bundle.add []).map Bundle.toTransition

/-- The definition of a graph. Earlier annotations are kept, the positions are
stored. -/
def toDefinition (g : Graph) (prior : Annotations) (key : String) : Definition where
  states := g.nodes.map Node.label
  initial := g.initial
  transitions := g.transitions
  annotations :=
    prior.set key (Positions.documentOf (g.nodes.map fun n => (n.label, n.position)))

end Graph

end Statecraft
