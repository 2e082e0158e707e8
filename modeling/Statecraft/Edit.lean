import Statecraft.Graph.Convert

/-!
# Editing graphs

An edit either gives a new graph or is turned down, because it names a node or
an edge that is not there, or a name that cannot be given. Edges that come to
share their event and target are merged.
-/

namespace Statecraft

open Layout (Direction)

inductive Edit where
  | addState (name : Option String) (position : Option Position) (fallback : String)
      (distance : Float)
  | renameState (node name : String)
  | deleteState (node : String)
  | setInitial (node : String)
  | moveState (node : String) (position : Position)
  | connect (source target event : String) (guard : Option String)
  | retarget (edge target : String)
  | deleteEdge (edge : String)
  | setEvent (edge event : String)
  | setGuard (edge : String) (guard : Option String)
  | addSource (edge state : String)
  | removeSource (edge state : String)
  | layout (direction : Direction) (config : Layout.Config Float)

namespace Edit

/-- The event of a new transition. -/
def defaultEvent : String := "event"

/-- The name of a new state. -/
def defaultState : String := "new_state"

/-- How far right of the last state a new one is put. -/
def defaultDistance : Float := 180

end Edit

namespace Graph

/-- The base name if no node has it, or else `base_1`, `base_2`, and so on, the
first that is free. -/
def freshName (g : Graph) (base : String) : String :=
  let taken := g.nodes.map Node.label
  let candidate := fun k => base ++ "_" ++ Decimal.natText (k + 1)
  if taken.contains base then candidate (Text.firstFree candidate taken) else base

theorem freshName_not_mem (g : Graph) (base : String) :
    g.freshName base ∉ g.nodes.map Node.label := by
  unfold freshName
  dsimp only
  split
  · have free := @Text.firstFree_not_mem (fun k => base ++ "_" ++ Decimal.natText (k + 1))
      (g.nodes.map Node.label)
    apply free
    intro i j h
    exact Nat.succ.inj (Decimal.natText_injective ((String.append_right_inj _).1 h))
  · rename_i hb
    simpa using hb

/-- The graph with one edge changed. -/
def updateEdge (g : Graph) (edge : String) (change : Edge → Edge) : Option Graph :=
  if (g.edge? edge).isSome then
    some { g with
      edges := Edge.normalize (g.edges.map fun e => if e.id == edge then change e else e) }
  else none

/-- Where a new state goes that has no position: right of the last one, or to the
first place. -/
def nextPosition (g : Graph) (distance : Float) : Position :=
  match g.nodes.getLast? with
  | some n => Position.of (n.position.x.value + distance) n.position.y.value
  | none => Position.of 100 100

def addState (g : Graph) (name : Option String) (position : Option Position) (fallback : String)
    (distance : Float) : Graph :=
  let wanted := Text.strip (name.getD "")
  let name := g.freshName (if wanted.isEmpty then fallback else wanted)
  let node : Node :=
    { id := name
      label := name
      isInitial := g.nodes.isEmpty
      position := position.getD (g.nextPosition distance) }
  { g with nodes := g.nodes ++ [node] }

/-- The nodes with one of them given another name. -/
def renameNodes (nodes : List Node) (node name : String) : List Node :=
  nodes.map fun n => if n.id == node then { n with id := name, label := name } else n

/-- An edge with one node given another name. -/
def renameIn (node name : String) (e : Edge) : Edge :=
  let rename := fun s => if s == node then name else s
  { e with target := rename e.target, sources := (e.sources.map rename).eraseDups }

def renameState (g : Graph) (node name : String) : Option Graph :=
  let name := Text.strip name
  let taken := g.nodes.any fun n => n.id != node && n.label == name
  if !g.hasNode node || name.isEmpty || taken then none
  else
    some ⟨renameNodes g.nodes node name, Edge.normalize (g.edges.map (renameIn node name))⟩

/-- What is left of an edge without a node, if it still has both ends. -/
def withoutNode (node : String) (e : Edge) : Option Edge :=
  let sources := e.sources.filter (· != node)
  if e.target == node || sources.isEmpty then none else some { e with sources := sources }

def deleteState (g : Graph) (node : String) : Option Graph :=
  if g.hasNode node then
    some ⟨g.nodes.filter (·.id != node), Edge.normalize (g.edges.filterMap (withoutNode node))⟩
  else none

def setInitial (g : Graph) (node : String) : Option Graph :=
  if g.hasNode node then
    some { g with nodes := g.nodes.map fun n => { n with isInitial := n.id == node } }
  else none

def moveState (g : Graph) (node : String) (position : Position) : Option Graph :=
  if g.hasNode node then
    some { g with
      nodes := g.nodes.map fun n => if n.id == node then { n with position := position } else n }
  else none

def connect (g : Graph) (source target event : String) (guard : Option String) : Option Graph :=
  if g.hasNode source && g.hasNode target then
    some { g with edges := Edge.normalize (g.edges ++ [Edge.of target event guard [source]]) }
  else none

def retarget (g : Graph) (edge target : String) : Option Graph :=
  if g.hasNode target then g.updateEdge edge fun e => { e with target := target } else none

def deleteEdge (g : Graph) (edge : String) : Graph :=
  { g with edges := g.edges.filter (·.id != edge) }

def setEvent (g : Graph) (edge event : String) : Option Graph :=
  g.updateEdge edge fun e => { e with event := Text.strip event }

def setGuard (g : Graph) (edge : String) (guard : Option String) : Option Graph :=
  let guard := (guard.map Text.strip).filter fun s => !s.isEmpty
  g.updateEdge edge fun e => { e with guard := guard }

def addSource (g : Graph) (edge state : String) : Option Graph :=
  match g.edge? edge with
  | none => none
  | some e =>
    if g.hasNode state && !e.sources.contains state then
      g.updateEdge edge fun f => { f with sources := e.sources ++ [state] }
    else none

/-- The last source stays. -/
def removeSource (g : Graph) (edge state : String) : Option Graph :=
  match g.edge? edge with
  | none => none
  | some e =>
    if e.sources.contains state && e.sources.length != 1 then
      g.updateEdge edge fun f => { f with sources := e.sources.filter (· != state) }
    else none

def arranged (g : Graph) (direction : Direction) (config : Layout.Config Float) : Graph :=
  { g with nodes := arrange config direction g.nodes g.edges }

/-- The graph after an edit, or none if the edit is turned down. -/
def edit? (g : Graph) : Edit → Option Graph
  | .addState name position fallback distance => some (g.addState name position fallback distance)
  | .renameState node name => g.renameState node name
  | .deleteState node => g.deleteState node
  | .setInitial node => g.setInitial node
  | .moveState node position => g.moveState node position
  | .connect source target event guard => g.connect source target event guard
  | .retarget edge target => g.retarget edge target
  | .deleteEdge edge => some (g.deleteEdge edge)
  | .setEvent edge event => g.setEvent edge event
  | .setGuard edge guard => g.setGuard edge guard
  | .addSource edge state => g.addSource edge state
  | .removeSource edge state => g.removeSource edge state
  | .layout direction config => some (g.arranged direction config)

end Graph

end Statecraft
