import Statecraft.Command.Source
import Statecraft.Guard.Expression

/-!
# Describing a definition file

The states and transitions of a definition in two tables.
-/

namespace Statecraft.Command

open Console

/-- A place in a table. -/
def positionText (p : Position) : String :=
  Decimal.brief.text p.x.value ++ ", " ++ Decimal.brief.text p.y.value

/-- The row of a state, with its stored position if those are shown. -/
def stateRow (initial : String) (positions : Option Positions) (state : String) : List String :=
  ["[state]" ++ escape state ++ "[/]", if state == initial then "[green]initial[/]" else "-"]
    ++ (positions.map fun p => ((p.get? state).map positionText).getD "-").toList

/-- A guard in a table, with what is known of its conditions if that is asked for. -/
def guardCell (verbose : Bool) (guard : Option String) : Act String := do
  match guard with
  | none => return "-"
  | some text =>
    if !verbose then return escape text
    else
      match Guard.Group.ofText text with
      | .error (.limit e) => throw (.crash (.limit e))
      | .error (.failure _) => return escape text ++ " [red](unparsed)[/]"
      | .ok g =>
        let count := g.conditions.length
        let noun := if count == 1 then "condition" else "conditions"
        return escape text ++ " [dim](" ++ Decimal.natText count ++ " " ++ noun ++ ")[/]"

/-- The row of a transition. -/
def transitionRow (verbose : Bool) (t : Transition) : Act (List String) := do
  let guard ← guardCell verbose t.guard
  return [", ".intercalate (t.sources.map escape), "[event]" ++ escape t.event ++ "[/]",
    "→ " ++ escape t.target, guard]

/-- The names of a definition's annotations, without those for programs. -/
def publicNames (d : Definition) : List String :=
  (d.annotations.map (·.1)).filter fun name => name.toList.head? != some '_'

def describeFile (path : Path) (verbose : Bool) : Act Unit := do
  let d ← readDefinition path
  blankLine
  plainLine (path.name ++ "  " ++ Decimal.natText d.states.length ++ " states")
  let names := publicNames d
  if !names.isEmpty then aside ("meta: " ++ ", ".intercalate names)
  let positions := if verbose then some (d.positions positionsKey) else none
  table "States" (["Name", "Type"] ++ (positions.map fun _ => "Position").toList)
    (d.states.map (stateRow d.initial positions))
  if !d.transitions.isEmpty then
    let rows ← d.transitions.mapM (transitionRow verbose)
    table "Transitions" ["From", "Event", "To", "Guard"] rows
  blankLine

end Statecraft.Command
