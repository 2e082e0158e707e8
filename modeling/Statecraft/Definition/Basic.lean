import Statecraft.Position

/-!
# Definitions

A machine as it is written down: its states in order, the initial one, its
transitions, and annotations that others may add to. Nothing here says that the
names fit together; that is what reports are for.
-/

namespace Statecraft

/-- Where a transition starts: in one state, or in any of a list. -/
inductive Origin where
  | one (state : String)
  | many (states : List String)
  deriving DecidableEq, Repr

namespace Origin

/-- The states, whichever way they were written. -/
def states : Origin → List String
  | .one s => [s]
  | .many ss => ss

def toDocument : Origin → Document
  | .one s => .text s
  | .many ss => .texts ss

/-- The shortest way to write a list of states. -/
def ofStates : List String → Origin
  | [s] => .one s
  | ss => .many ss

end Origin

/-- A guard's text, a blank one being none. -/
def guardText? (guard : Option String) : Option String :=
  guard.filter fun s => !Text.isBlankText s

theorem guardText?_guardText? (guard : Option String) :
    guardText? (guardText? guard) = guardText? guard := by
  simp [guardText?, Option.filter_filter]

/-- A trimmed guard is blank only if it is empty. -/
theorem guardText?_strip (guard : Option String) :
    guardText? ((guard.map Text.strip).filter fun s => !s.isEmpty) =
      (guard.map Text.strip).filter fun s => !s.isEmpty := by
  cases guard with
  | none => rfl
  | some g =>
    cases h : (Text.strip g).isEmpty <;> simp [guardText?, Option.filter, h, Text.isBlankText_strip]

/-- A transition as it is stored: no guard is blank. -/
structure Transition where
  origin : Origin
  event : String
  target : String
  guard : Option String
  guard_stored : guardText? guard = guard
  deriving DecidableEq, Repr

namespace Transition

/-- A transition as it is stored. -/
def of (origin : Origin) (event target : String) (guard : Option String) : Transition :=
  ⟨origin, event, target, guardText? guard, guardText?_guardText? guard⟩

def sources (t : Transition) : List String := t.origin.states

/-- What makes transitions one: their event and their target. -/
def key (t : Transition) : String × String := (t.event, t.target)

def toDocument (t : Transition) : Document :=
  .objectOf [("from", some t.origin.toDocument), ("event", some (.text t.event)),
    ("to", some (.text t.target)), ("guard", t.guard.map .text)]

end Transition

/-- Values by name, in order, with no name twice. -/
abbrev Annotations := List (String × Document)

namespace Annotations

def get? (a : Annotations) (key : String) : Option Document := (a.find? (·.1 == key)).map (·.2)

/-- The value set for a key, in its place or else at the end. -/
def set (a : Annotations) (key : String) (value : Document) : Annotations :=
  if a.any (·.1 == key) then a.map fun e => if e.1 == key then (key, value) else e
  else a ++ [(key, value)]

def erase (a : Annotations) (key : String) : Annotations := a.filter (·.1 != key)

end Annotations

/-- Positions by state name; stored ones may have keys that are no texts. -/
abbrev Positions := List (Document × Position)

namespace Positions

def get? (p : Positions) (state : String) : Option Position :=
  (p.find? fun e => match e.1.content with
    | .text s => s == state
    | _ => false).map (·.2)

def toDocument (p : Positions) : Document := .map (p.map fun e => (e.1, e.2.toDocument))

/-- Positions by name; of two with one name the later one counts, in the place of
the earlier. -/
def ofList (ps : List (String × Position)) : List (String × Position) :=
  ps.foldl (fun acc p =>
    if acc.any (·.1 == p.1) then acc.map fun q => if q.1 == p.1 then p else q
    else acc ++ [p]) []

/-- Named positions as a value of annotations. -/
def documentOf (ps : List (String × Position)) : Document :=
  .object ((ofList ps).map fun p => (p.1, p.2.toDocument))

end Positions

structure Definition where
  states : List String
  initial : String
  transitions : List Transition
  annotations : Annotations

namespace Definition

def empty : Definition := ⟨[], "", [], []⟩

/-- The stored positions; entries that are no positions are passed over. -/
def positions (d : Definition) (key : String) : Positions :=
  match (d.annotations.get? key).map Document.content with
  | some (.map entries) => entries.filterMap fun e =>
      (Position.ofDocument e.2).value?.map (e.1, ·)
  | _ => []

/-- Something is stored under the key of the positions. -/
def hasPositions (d : Definition) (key : String) : Bool := (d.annotations.get? key).isSome

/-- The definition with the positions stored under the key. -/
def withPositions (d : Definition) (ps : List (String × Position)) (key : String) : Definition :=
  { d with annotations := d.annotations.set key (Positions.documentOf ps) }

/-- The transitions that leave a state. -/
def transitionsFrom (d : Definition) (state : String) : List Transition :=
  d.transitions.filter (·.sources.contains state)

/-- The transitions that enter a state. -/
def transitionsTo (d : Definition) (state : String) : List Transition :=
  d.transitions.filter (·.target == state)

/-- The definition as a document, annotations only if there are any. -/
def toDocument (d : Definition) : Document :=
  .objectOf [("states", some (.texts d.states)), ("initial", some (.text d.initial)),
    ("transitions", some (.list (d.transitions.map Transition.toDocument))),
    ("meta", if d.annotations.isEmpty then none else some (.object d.annotations))]

end Definition

end Statecraft
