import Statecraft.Command.Source
import Statecraft.Definition.Report
import Statecraft.Graph.Check

/-!
# Validating a definition file

The report on the file, and if that has no errors the check of the graph, whose
messages follow those of the report unless they are among them.
-/

namespace Statecraft.Command

open Console

/-- The messages with others behind them, each once. -/
def withMissing (messages others : List String) : List String :=
  others.foldl (fun done m => if done.contains m then done else done ++ [m]) messages

/-- What a validation found, as markup. The number of transitions is known only if the report has
no errors. -/
structure Findings where
  errors : List String
  warnings : List String
  transitions : Option Nat
  deriving DecidableEq, Repr

/-- An error of a report, with its place. -/
def complaintLine (c : Report.Complaint) : String :=
  escape c.message ++ match c.path? with
    | some path => if path.isEmpty then "" else " [dim](" ++ escape path ++ ")[/]"
    | none => ""

/-- What is found in a document. -/
def findingsOf (data : Document) : Act Findings := do
  let report ← orCrash (Report.ofDocument data) .limit
  let errors := report.errors.map complaintLine
  let warnings := report.warnings.map fun c => escape c.message
  if report.isValid then do
    let d ← orCrash (Definition.ofDocument data).toExcept .shape
    let (g, divergences) := d.toGraph ⟨none, Layout.Grid.default, positionsKey⟩
    warnLost divergences
    let check := Check.ofGraph g
    return {
      errors := withMissing errors (check.errorMessages.map escape)
      warnings := withMissing warnings (check.warningMessages.map escape)
      transitions := some g.edges.length }
  else return ⟨errors, warnings, none⟩

/-- The number of a document's states, if it has a list of them. -/
def stateCount? (data : Document) : Option Nat :=
  match (data.get? "states").map Document.content with
  | some (.list states) => some states.length
  | _ => none

def countText (count : Option Nat) : String := (count.map Decimal.natText).getD "-"

/-- No errors, and no warnings if they count as errors. -/
def Findings.isValid (f : Findings) (strict : Bool) : Bool :=
  f.errors.isEmpty && !(strict && !f.warnings.isEmpty)

/-- The panel about a validation and a line for each finding. -/
def showFindings (path : Path) (states : Option Nat) (f : Findings) (strict : Bool) : Act Unit := do
  let valid := f.isValid strict
  let row := fun (name value : String) => "[bold]" ++ name ++ ":[/] " ++ value
  blankLine
  panel ("\n".intercalate [row "File" (escape path.text), row "States" (countText states),
      row "Transitions" (countText f.transitions),
      row "Status" (if valid then "[green]valid[/]" else "[red]invalid[/]")])
    (if valid then "✓ Valid Definition" else "✗ Invalid Definition")
  f.errors.forM fun m => failure m none
  f.warnings.forM caution

def validateFile (path : Path) (strict debug : Bool) : Act Unit := do
  let settings ← loadSettings none
  setLevel (settings.shownLevel debug)
  let data ← readMapping path
  let findings ← findingsOf data
  showFindings path (stateCount? data) findings strict
  if !findings.isValid strict then exit 1

end Statecraft.Command
