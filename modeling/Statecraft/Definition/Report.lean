import Statecraft.Definition.Data
import Statecraft.Guard.Expression

/-!
# Reports on definitions

What is wrong with a document as a definition: first its shape, and if that is
sound, whether its names fit together. A report never fails; the caller decides
what blocks.
-/

namespace Statecraft

namespace Report

/-- What a report complains about. -/
inductive Complaint where
  | notObject
  | missing (key : String)
  | wrongType (key what : String)
  | noStates
  | stateNotText (index : Nat)
  | transitionNotObject (index : Nat)
  | transitionMissing (index : Nat) (key : String)
  | transitionWrongType (index : Nat) (key what : String)
  | unknownInitial (state : String)
  | repeatedState (index : Nat) (state : String)
  | unknownSource (index : Nat) (state : String)
  | unknownTarget (index : Nat) (state : String)
  | divergentGuard (first index : Nat) (event target : String)
  | unreadableGuard (index : Nat) (failure : Guard.Failure)
  | unreachable (state : String)
  | deadEnd (state : String)
  deriving DecidableEq, Repr

namespace Complaint

def code : Complaint → String
  | .notObject | .wrongType .. | .stateNotText _ | .transitionNotObject _
  | .transitionWrongType .. => "INVALID_TYPE"
  | .missing _ | .transitionMissing .. => "MISSING_FIELD"
  | .noStates => "EMPTY_ARRAY"
  | .unknownInitial _ => "INVALID_INITIAL_STATE"
  | .repeatedState .. => "DUPLICATE_STATE"
  | .unknownSource .. | .unknownTarget .. => "INVALID_STATE"
  | .divergentGuard .. => "DIVERGENT_GUARD"
  | .unreadableGuard .. => "UNPARSEABLE_GUARD"
  | .unreachable _ => "UNREACHABLE_STATE"
  | .deadEnd _ => "DEAD_END_STATE"

def message : Complaint → String
  | .notObject => "Definition must be an object"
  | .missing key => "Missing required field '" ++ key ++ "'"
  | .wrongType key what => "'" ++ key ++ "' must be " ++ what
  | .noStates => "'states' array cannot be empty"
  | .stateNotText i => "State at index " ++ Decimal.natText i ++ " must be a string"
  | .transitionNotObject i => "Transition at index " ++ Decimal.natText i ++ " must be an object"
  | .transitionMissing _ key => "Transition missing required field '" ++ key ++ "'"
  | .transitionWrongType _ key what => "'" ++ key ++ "' must be " ++ what
  | .unknownInitial s => "Initial state '" ++ s ++ "' not in states list"
  | .repeatedState _ s => "Duplicate state '" ++ s ++ "'"
  | .unknownSource _ s => "Transition 'from' state '" ++ s ++ "' not in states list"
  | .unknownTarget _ s => "Transition 'to' state '" ++ s ++ "' not in states list"
  | .divergentGuard first i event target =>
    "Transitions on '" ++ event ++ "' to '" ++ target ++ "' have different guards (transitions["
      ++ Decimal.natText first ++ "] and transitions[" ++ Decimal.natText i
      ++ "]); sources sharing an event and target must share one guard"
  | .unreadableGuard _ f => "Guard cannot be edited visually: " ++ f.text
  | .unreachable s => "State '" ++ s ++ "' has no incoming transitions"
  | .deadEnd s => "State '" ++ s ++ "' has no outgoing transitions (terminal state)"

/-- The path of a transition. -/
def transitionPath (index : Nat) : String := "$.transitions[" ++ Decimal.natText index ++ "]"

/-- Where the complaint is found, if it is about one place. -/
def path? : Complaint → Option String
  | .notObject => some "$"
  | .missing key | .wrongType key _ => some ("$." ++ key)
  | .noStates => some "$.states"
  | .stateNotText i | .repeatedState i _ => some ("$.states[" ++ Decimal.natText i ++ "]")
  | .transitionNotObject i => some (transitionPath i)
  | .transitionMissing i key | .transitionWrongType i key _ => some (transitionPath i ++ "." ++ key)
  | .unknownInitial _ => some "$.initial"
  | .unknownSource i _ => some (transitionPath i ++ ".from")
  | .unknownTarget i _ => some (transitionPath i ++ ".to")
  | .divergentGuard _ i _ _ | .unreadableGuard i _ => some (transitionPath i ++ ".guard")
  | .unreachable _ | .deadEnd _ => none

end Complaint

/-- The value of a key, null counting as absent. -/
def given? (entries : Document.Entries) (key : String) : Option Document :=
  (Document.Entries.get? entries key).bind fun d =>
    match d.content with
    | .null => none
    | d => some d

def isText (d : Document) : Bool :=
  match d.content with
  | .text _ => true
  | _ => false

/-- The complaint about a text that is missing or no text. -/
def checkText (entries : Document.Entries) (key : String) (missing wrong : Complaint) :
    List Complaint :=
  match given? entries key with
  | none => [missing]
  | some d => if isText d then [] else [wrong]

def checkStates (entries : Document.Entries) : List Complaint :=
  match given? entries "states" with
  | none => [.missing "states"]
  | some (.list []) => [.noStates]
  | some (.list items) =>
    (items.mapIdx fun i d => if isText d then [] else [Complaint.stateNotText i]).flatten
  | some _ => [.wrongType "states" "an array"]

/-- The complaints about a transition's origin. -/
def checkOrigin (i : Nat) (entries : Document.Entries) : List Complaint :=
  match given? entries "from" with
  | none => [.transitionMissing i "from"]
  | some (.text _) => []
  | some (.list items) =>
    if items.all isText then [] else [.transitionWrongType i "from" "a string or array of strings"]
  | some _ => [.transitionWrongType i "from" "a string or array of strings"]

def checkGuard (i : Nat) (entries : Document.Entries) : List Complaint :=
  match given? entries "guard" with
  | none => []
  | some d => if isText d then [] else [.transitionWrongType i "guard" "a string"]

def checkTransition (i : Nat) (d : Document) : List Complaint :=
  match d.content with
  | .map entries =>
    checkOrigin i entries
      ++ checkText entries "event" (.transitionMissing i "event")
        (.transitionWrongType i "event" "a string")
      ++ checkText entries "to" (.transitionMissing i "to") (.transitionWrongType i "to" "a string")
      ++ checkGuard i entries
  | _ => [.transitionNotObject i]

def checkTransitions (entries : Document.Entries) : List Complaint :=
  match given? entries "transitions" with
  | none => [.missing "transitions"]
  | some (.list items) => (items.mapIdx checkTransition).flatten
  | some _ => [.wrongType "transitions" "an array"]

def checkAnnotations (entries : Document.Entries) : List Complaint :=
  match given? entries "meta" with
  | none | some (.map _) => []
  | some _ => [.wrongType "meta" "an object"]

/-- The complaints about a document's shape. -/
def checkShape (d : Document) : List Complaint :=
  match d.content with
  | .map entries =>
    checkStates entries
      ++ checkText entries "initial" (.missing "initial") (.wrongType "initial" "a string")
      ++ checkTransitions entries ++ checkAnnotations entries
  | _ => [.notObject]

/-- A transition of a document whose shape is sound. -/
structure Arrow where
  sources : List String
  event : String
  target : String
  guard : Option String
  deriving DecidableEq, Repr

/-- The names of a document whose shape is sound. -/
structure Names where
  states : List String
  initial : String
  arrows : List Arrow
  deriving DecidableEq, Repr

def textOf (d : Document) : String :=
  match d.content with
  | .text s => s
  | _ => ""

def textsOf (d : Document) : List String :=
  match d.content with
  | .list items => items.map textOf
  | _ => []

def textAt (d : Document) (key : String) : String := ((d.get? key).map textOf).getD ""

def Arrow.ofDocument (d : Document) : Arrow where
  sources := match (d.get? "from").map Document.content with
    | some (.text s) => [s]
    | some o => textsOf o
    | none => []
  event := textAt d "event"
  target := textAt d "to"
  guard := match (d.get? "guard").map Document.content with
    | some (.text s) => if s.isEmpty then none else some s
    | _ => none

/-- The names of a document; what has the wrong shape counts as absent. -/
def Names.ofDocument (d : Document) : Names where
  states := ((d.get? "states").map textsOf).getD []
  initial := textAt d "initial"
  arrows := match (d.get? "transitions").map Document.content with
    | some (.list items) => items.map Arrow.ofDocument
    | _ => []

/-- The states that repeat an earlier one, with their indices. -/
def repeated (states : List String) : List Complaint :=
  (states.mapIdx fun i s =>
    if (states.take i).contains s then [Complaint.repeatedState i s] else []).flatten

/-- The first arrow with a given event and target, with its index. -/
def firstWith (arrows : List Arrow) (event target : String) : Option (Nat × Arrow) :=
  let i := arrows.findIdx fun a => a.event == event && a.target == target
  (arrows[i]?).map (i, ·)

/-- The errors of one arrow. -/
def Names.arrowErrors (n : Names) (i : Nat) (a : Arrow) : List Complaint :=
  let sources := (a.sources.filter (!n.states.contains ·)).map (Complaint.unknownSource i)
  let target := if n.states.contains a.target then [] else [Complaint.unknownTarget i a.target]
  let guard := match firstWith n.arrows a.event a.target with
    | some (j, b) =>
      if b.guard == a.guard then [] else [Complaint.divergentGuard j i a.event a.target]
    | none => []
  sources ++ target ++ guard

def Names.errors (n : Names) : List Complaint :=
  (if n.states.contains n.initial then [] else [Complaint.unknownInitial n.initial])
    ++ repeated n.states ++ (n.arrows.mapIdx n.arrowErrors).flatten

/-- The warning about a guard that cannot be read as a tree. -/
def guardWarning (i : Nat) (a : Arrow) : Except Decimal.LimitError (List Complaint) :=
  match a.guard with
  | none => .ok []
  | some text =>
    match Guard.Group.ofText text with
    | .ok _ => .ok []
    | .error (.failure f) => .ok [.unreadableGuard i f]
    | .error (.limit e) => .error e

def guardWarnings : Nat → List Arrow → Except Decimal.LimitError (List Complaint)
  | _, [] => .ok []
  | i, a :: r =>
    match guardWarning i a with
    | .error e => .error e
    | .ok first => (guardWarnings (i + 1) r).map (first ++ ·)

/-- States that nothing leads to, the initial one apart. -/
def Names.unreachable (n : Names) : List String :=
  n.states.eraseDups.filter fun s => s != n.initial && !n.arrows.any (·.target == s)

/-- States that nothing leads away from. -/
def Names.deadEnds (n : Names) : List String :=
  n.states.eraseDups.filter fun s => !n.arrows.any (·.sources.contains s)

def Names.warnings (n : Names) : Except Decimal.LimitError (List Complaint) :=
  (guardWarnings 0 n.arrows).map fun guards =>
    guards ++ n.unreachable.map .unreachable ++ n.deadEnds.map .deadEnd

end Report

/-- The errors and warnings about a definition. -/
structure Report where
  errors : List Report.Complaint
  warnings : List Report.Complaint
  deriving DecidableEq, Repr

namespace Report

def isValid (r : Report) : Bool := r.errors.isEmpty

/-- The report on a document. -/
def ofDocument (d : Document) : Except Decimal.LimitError Report :=
  match checkShape d with
  | [] =>
    let n := Names.ofDocument d
    n.warnings.map fun w => ⟨n.errors, w⟩
  | complaints => .ok ⟨complaints, []⟩

/-- The report on a definition. -/
def ofDefinition (d : Definition) : Except Decimal.LimitError Report := ofDocument d.toDocument

end Report

end Statecraft
