import Statecraft.Command.Basic
import Statecraft.Command.Source
import Statecraft.Guard.Expression
import Statecraft.Session

/-!
# Making a definition file

A new machine has the states that are given, or is asked for: its states, the
initial one, and transitions until there are no more.
-/

namespace Statecraft

/-- The state names in a list with commas: trimmed, without blank ones and repetitions. -/
def splitStates (text : String) : List String :=
  (((Text.pieces ',' text).map Text.strip).filter fun s => !s.isEmpty).eraseDups

/-- A session on states without transitions; an empty name leaves the first state initial. -/
def Session.ofStates (settings : Settings) (states : List String) (initial : Option String) :
    Session :=
  let s := states.foldl (fun s name => (s.apply (s.addingState (some name) none)).1)
    (Session.start settings)
  match initial with
  | none | some "" => s
  | some name => (s.apply (.setInitial name)).1

namespace Command

open Console

/-! ## The wizard -/

/-- State names, asked for until there are some. -/
def askStates : Nat → Act (List String)
  | 0 => exit 0
  | fuel + 1 => do
    let states := splitStates (← askText "State names (comma separated)" "" "split")
    if states.isEmpty then do
      caution "At least one state is required"
      askStates fuel
    else return states

/-- A guard's text, empty for none. A text that is no guard is kept only if that is wanted. -/
def askGuard : Act String := do
  let text := Text.strip (← askText "Guard (blank for none)" "" "strip")
  if text.isEmpty then return text
  else
    match Guard.Group.ofText text with
    | .error (.limit e) => throw (.crash (.limit e))
    | .ok _ => return text
    | .error (.failure f) => do
      caution ("Guard not understood: " ++ f.text)
      if ← confirm "Keep it as raw text?" false then return text else return ""

/-- The session with a transition from several states, none if there is no such state. -/
def connectAll (s : Session) (sources : List String) (target event guard : String) :
    Option Session :=
  match sources with
  | [] => none
  | first :: others =>
    let guard := if guard.isEmpty then none else some guard
    let next := (s.apply (s.connecting first target (some event) guard)).1
    (next.carrier? first target event).map fun e =>
      others.foldl (fun s source => (s.apply (.addSource e.id source)).1) next

/-- One transition. What is missing leaves the session as it is. -/
def askTransition (s : Session) : Act Session := do
  let states := s.graph.nodes.map Node.label
  let sources ← checkbox "From state(s)" states
  if sources.isEmpty then do
    caution "Pick at least one source state"
    return s
  let target ← select "To state" states
  let event := Text.strip (← askText "Event name" s.settings.editor.defaultEvent "strip")
  if event.isEmpty then do
    caution "Event name is required"
    return s
  let guard ← askGuard
  match connectAll s sources target event guard with
  | none => do
    caution "Could not add transition"
    return s
  | some next => do
    success (", ".intercalate sources ++ " --" ++ event ++ "--> " ++ target)
    return next

/-- Transitions, until no more are wanted. -/
def askTransitions : Nat → Session → Act Session
  | 0, _ => exit 0
  | fuel + 1, s => do
    if ← confirm "Add a transition?" s.graph.edges.isEmpty then
      askTransitions fuel (← askTransition s)
    else return s

/-- A session on the machine that the answers describe. Each round takes an answer, so there are
at most as many rounds as answers. -/
def askMachine (settings : Settings) : Act Session := do
  banner
  heading "States" (some 1) 3
  let states ← askStates ((← answersLeft) + 1)
  heading "Initial state" (some 2) 3
  let initial ← select "Initial state" states
  let session := Session.ofStates settings states (some initial)
  heading "Transitions" (some 3) 3
  askTransitions ((← answersLeft) + 1) session

/-! ## The command -/

/-- A file that is there is kept, unless it may be overwritten. -/
def checkTarget (c : Creation) : Act Unit := do
  let there ← orCrash ((← get).folder.contains c.output) fun e => .target (.path e)
  if there && !c.force then
    let agreed ← if ← isInteractive then confirm (c.output.text ++ " exists. Overwrite?") false
      else pure false
    if !agreed then
      failure (c.output.text ++ " already exists") (some "Pass --force to overwrite")
      exit 1

/-- A session on the states that are given. -/
def givenMachine (settings : Settings) (text : String) (initial : Option String) : Act Session := do
  let states := splitStates text
  if states.isEmpty then refuse "No state names given"
  else
    let wanted := initial.getD ""
    if !wanted.isEmpty && !states.contains wanted then
      refuse ("Initial state '" ++ wanted ++ "' is not one of: " ++ ", ".intercalate states)
    else return Session.ofStates settings states initial

/-- A session on the machine that is given or asked for. -/
def machineOf (c : Creation) (settings : Settings) : Act Session := do
  match c.states with
  | some text => givenMachine settings text c.initial
  | none =>
    if ← isInteractive then askMachine settings
    else do
      failure "No terminal for the wizard"
        (some "Pass --states a,b,c to create non-interactively")
      exit 1

/-- The session laid out as its settings say. -/
def arranged (s : Session) : Session :=
  (s.apply (.layout s.settings.layout.direction s.settings.layout)).1

/-- The definition of a session written to a file, and shown. -/
def writeMachine (path : Path) (session : Session) : Act Unit := do
  session.check.warningMessages.forM aside
  let d := session.definition
  storeDefinition path d (some "Use a .yaml, .yml or .json file name")
  success ("Created " ++ path.text)
  let format := if path.suffix == ".json" then Format.json else .yaml
  preview (← orCrash (d.write format) .target) format path.text
  nextSteps ["Check it: " ++ programName ++ " validate " ++ path.text,
    "Inspect the graph: " ++ programName ++ " graph " ++ path.text]

def createFile (c : Creation) : Act Unit := do
  let settings ← loadSettings c.config
  setLevel (settings.shownLevel c.debug)
  checkTarget c
  let session ← machineOf c settings
  writeMachine c.output (if c.layout then arranged session else session)

end Command

end Statecraft
