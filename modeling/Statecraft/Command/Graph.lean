import Statecraft.Command.Basic
import Statecraft.Command.Source
import Statecraft.Graph.Data
import Statecraft.Session

/-!
# Graphs of definition files

The graph of a definition as JSON, and its layout stored in the definition.
-/

namespace Statecraft.Command

open Console
open Layout (Direction)

/-- Graphs as JSON: indented by two, numbers that are not finite as null. -/
def graphStyle : Json.Style := { Json.file with finiteOnly := true }

/-- The settings of a rendering, in force, and the definition it starts from. -/
def openRendering (r : Rendering) : Act (Settings × Definition) := do
  let settings ← loadSettings r.config
  setLevel (settings.shownLevel false)
  let d ← readDefinition r.source
  return (settings, d)

/-- The direction that is asked for, or else the one of the settings. -/
def Rendering.directionOr (r : Rendering) (settings : Settings) : Direction :=
  r.direction.getD settings.layout.direction

/-- How the graph of a definition is placed. -/
def placementOf (r : Rendering) (autoLayout : Bool) (settings : Settings) : Placement where
  layered :=
    if autoLayout || settings.editor.layoutOnLoad then
      some (Rendering.directionOr r settings, settings.layout)
    else none
  grid := settings.grid
  key := settings.editor.positionsKey

/-- The graph of a definition as JSON, in a file if one is named. -/
def showGraph (r : Rendering) (autoLayout : Bool) : Act Unit := do
  let (settings, d) ← openRendering r
  let (g, divergences) := d.toGraph (placementOf r autoLayout settings)
  warnLost divergences
  let text ← orCrash (graphStyle.write g.toDocument) fun e => .target (.json e)
  match r.output with
  | none => echo text
  | some path => do
    writeFile path (text ++ "\n")
    success ("Wrote " ++ Decimal.natText g.nodes.length ++ " nodes, "
      ++ Decimal.natText g.edges.length ++ " edges to " ++ path.text)

/-- A definition laid out: the session on it, after the layout. -/
def laidOut (settings : Settings) (d : Definition) (direction : Direction) :
    Session × List Bundle.Divergence :=
  let (session, divergences) := (Session.start settings).load d false
  ((session.apply (.layout direction settings.layout)).1, divergences)

/-- The layout of a definition stored in it, or in another file if one is named. -/
def layOutFile (r : Rendering) : Act Unit := do
  let (settings, d) ← openRendering r
  let direction := Rendering.directionOr r settings
  let (session, divergences) := laidOut settings d direction
  warnLost divergences
  let target := r.output.getD r.source
  storeDefinition target session.definition none
  success ("Laid out " ++ Decimal.natText session.graph.nodes.length ++ " states ("
    ++ direction.name ++ ")")
  aside ("Positions stored in " ++ target.text)

end Statecraft.Command
