import Statecraft.Graph.Basic

/-!
# Checking graphs

What keeps a graph from being saved, and what is only odd about it.
-/

namespace Statecraft

namespace Check

inductive Error where
  | noStates
  | noInitial
  | severalInitial
  | repeatedNames (names : List String)
  | blankName
  | blankEvent (sources : List String) (target : String)
  deriving DecidableEq, Repr

def Error.message : Error → String
  | .noStates => "State machine must have at least one state"
  | .noInitial => "State machine must have an initial state"
  | .severalInitial => "State machine can only have one initial state"
  | .repeatedNames names => "Duplicate state names: " ++ ", ".intercalate names
  | .blankName => "All states must have a name"
  | .blankEvent sources target =>
    "Transition from \"" ++ ", ".intercalate sources ++ "\" to \"" ++ target
      ++ "\" has no event name"

/-- A state that no edge touches. -/
structure Isolated where
  label : String
  deriving DecidableEq, Repr

def Isolated.message (w : Isolated) : String := "State \"" ++ w.label ++ "\" has no transitions"

/-- The labels that occur more than once. -/
def repeatedLabels (nodes : List Node) : List String :=
  let labels := nodes.map Node.label
  labels.eraseDups.filter fun l => 1 < labels.count l

/-- The error about the number of initial states. -/
def initialErrors (nodes : List Node) : List Error :=
  match nodes.countP Node.isInitial with
  | 0 => [.noInitial]
  | 1 => []
  | _ => [.severalInitial]

def errorsOf (g : Graph) : List Error :=
  if g.nodes.isEmpty then [.noStates]
  else
    initialErrors g.nodes
      ++ (if (repeatedLabels g.nodes).isEmpty then [] else [.repeatedNames (repeatedLabels g.nodes)])
      ++ (if g.nodes.any (Text.isBlankText ·.label) then [.blankName] else [])
      ++ (g.edges.filter (Text.isBlankText ·.event)).map fun e => .blankEvent e.sources e.target

def warningsOf (g : Graph) : List Isolated :=
  (g.nodes.filter fun n => !n.isInitial && !g.edges.any (·.touches n.id)).map (⟨·.label⟩)

end Check

/-- The outcome of checking a graph. -/
structure Check where
  errors : List Check.Error
  warnings : List Check.Isolated
  deriving DecidableEq, Repr

namespace Check

def ofGraph (g : Graph) : Check := ⟨errorsOf g, warningsOf g⟩

/-- Errors block saving, warnings do not. -/
def isValid (c : Check) : Bool := c.errors.isEmpty

def errorMessages (c : Check) : List String := c.errors.map Error.message

def warningMessages (c : Check) : List String := c.warnings.map Isolated.message

end Check

end Statecraft
