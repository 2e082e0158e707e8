import Statecraft.Edit
import Statecraft.Graph.Check
import Statecraft.Settings.Basic

/-!
# Editing sessions

A session holds a graph and the annotations of the definition it came from.
What it shows, the definition and the check of the graph, is derived from the
graph, so it always matches the latest edit. The listener hears of each edit
that was not turned down.
-/

namespace Statecraft

open Layout (Direction)

structure Session where
  settings : Settings
  annotations : Annotations
  graph : Graph

/-- What the listener hears: the definition and the check after an edit. -/
structure Notice where
  definition : Definition
  check : Check

namespace Session

/-- A session without any state. -/
def start (settings : Settings) : Session := ⟨settings, [], Graph.empty⟩

def definition (s : Session) : Definition :=
  s.graph.toDefinition s.annotations s.settings.editor.positionsKey

def check (s : Session) : Check := Check.ofGraph s.graph

def notice (s : Session) : Notice := ⟨s.definition, s.check⟩

/-- The session with a definition in place of what it held, and the warnings about
guards lost by that. -/
def load (s : Session) (d : Definition) (layout : Bool) : Session × List Bundle.Divergence :=
  let key := s.settings.editor.positionsKey
  let config := s.settings.layout
  let (graph, divergences) :=
    d.toGraph ⟨if layout then some (config.direction, config) else none, s.settings.grid, key⟩
  (⟨s.settings, d.annotations.erase key, graph⟩, divergences)

/-- A session on a definition, laid out if the settings say so. -/
def ofDefinition (settings : Settings) (d : Definition) : Session × List Bundle.Divergence :=
  (start settings).load d settings.editor.layoutOnLoad

/-- The session after an edit, with what the listener hears of it. -/
def apply (s : Session) (e : Edit) : Session × Option Notice :=
  match s.graph.edit? e with
  | none => (s, none)
  | some g =>
    let next := { s with graph := g }
    (next, some next.notice)

/-- The edit that adds a state by the session's defaults. -/
def addingState (s : Session) (name : Option String) (position : Option Position) : Edit :=
  .addState name position s.settings.editor.defaultState s.settings.editor.newStateDistance

/-- The event of a new transition: the given one unless it is empty. -/
def eventOr (s : Session) (event : Option String) : String :=
  match event with
  | none | some "" => s.settings.editor.defaultEvent
  | some e => e

/-- The edit that connects two states. -/
def connecting (s : Session) (source target : String) (event guard : Option String) : Edit :=
  .connect source target (s.eventOr event) guard

/-- The edge that carries a transition. -/
def carrier? (s : Session) (source target event : String) : Option Edge :=
  s.graph.edges.find? fun e => e.key == (event, target) && e.sources.contains source

/-- The edit that lays the graph out. -/
def layingOut (s : Session) (direction : Option String) :
    Except Layout.UnknownDirection Edit :=
  (s.settings.layout.resolve direction).map fun d => .layout d s.settings.layout

end Session

end Statecraft
