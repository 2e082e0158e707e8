import Statecraft.Graph.Basic
import Statecraft.Definition.Basic

/-!
# Merging edges and transitions

Edges with one event and one target are one edge, which is fired from all their
sources in order of first mention. Edges keep the first guard that any of them
has; transitions keep the guard of the first of them, and every other guard
gives a warning.
-/

namespace Statecraft

namespace Edge

/-- The edge with another one's sources, and with its guard if it has none. -/
def absorb (e other : Edge) : Edge :=
  { e with
    sources := (e.sources ++ other.sources).eraseDups
    guard := match e.guard with
      | some g => if g.isEmpty then other.guard else some g
      | none => other.guard }

/-- An edge put among edges: merged into the one with its key, or added at the end. -/
def insert (edges : List Edge) (e : Edge) : List Edge :=
  match edges with
  | [] => [e]
  | f :: r => if f.key == e.key then f.absorb e :: r else f :: insert r e

/-- One edge for each event and target, in order of first occurrence. -/
def normalize (edges : List Edge) : List Edge := edges.foldl insert []

end Edge

/-- Transitions with one event and target, being merged. -/
structure Bundle where
  event : String
  target : String
  sources : List String
  guard : Option String
  deriving DecidableEq, Repr

namespace Bundle

def key (b : Bundle) : String × String := (b.event, b.target)

/-- A guard that was passed over for the one kept. -/
structure Divergence where
  event : String
  target : String
  kept : Option String
  deriving DecidableEq, Repr

def Divergence.message (d : Divergence) : String :=
  "Transitions on '" ++ d.event ++ "' to '" ++ d.target ++ "' have different guards; keeping "
    ++ ((d.kept.map Text.quoted).getD "None")

def ofTransition (t : Transition) : Bundle := ⟨t.event, t.target, t.sources.eraseDups, t.guard⟩

/-- The bundle with the sources of one more transition. -/
def join (b : Bundle) (t : Transition) : Bundle :=
  { b with sources := (b.sources ++ t.sources).eraseDups }

/-- The warning about a transition that joins a bundle with another guard. -/
def divergence? (b : Bundle) (t : Transition) : Option Divergence :=
  if b.guard == t.guard then none else some ⟨b.event, b.target, b.guard⟩

/-- A transition put among bundles, with the warning that this may give. -/
def insert (bundles : List Bundle) (t : Transition) : List Bundle × Option Divergence :=
  match bundles with
  | [] => ([ofTransition t], none)
  | b :: r =>
    if b.key == t.key then (b.join t :: r, b.divergence? t)
    else
      let (r, d) := insert r t
      (b :: r, d)

/-- All transitions put among bundles. -/
def collect : List Bundle → List Transition → List Bundle × List Divergence
  | bundles, [] => (bundles, [])
  | bundles, t :: r =>
    let (next, d) := insert bundles t
    let (all, ds) := collect next r
    (all, d.toList ++ ds)

/-- The edge of a bundle that has a source. -/
def toEdge? (b : Bundle) : Option Edge :=
  if b.sources.isEmpty then none else some (Edge.of b.target b.event b.guard b.sources)

end Bundle

/-- The edges of transitions, with the warnings about guards that are lost. -/
def mergeTransitions (ts : List Transition) : List Edge × List Bundle.Divergence :=
  let (bundles, divergences) := Bundle.collect [] ts
  (bundles.filterMap Bundle.toEdge?, divergences)

end Statecraft
