import Statecraft.Console.Terminal

/-!
# Messages

The lines, panels and tables that all commands share. Messages are markup, so texts
that come from elsewhere are escaped where tags in them are to be seen.
-/

namespace Statecraft.Console

/-- What this program is called, and its version. -/
def programName : String := "fsmstudio"

def version : String := "0.1.0"

def success (message : String) : Act Unit := line ("  [green]✓[/] " ++ message)

/-- A line about what went wrong, and one below it about what helps. -/
def failure (message : String) (hint : Option String) : Act Unit := do
  line ("  [red]✗[/] " ++ message)
  match hint with
  | some hint => line ("    [muted]" ++ hint ++ "[/]")
  | none => pure ()

def caution (message : String) : Act Unit := line ("  [yellow]![/] " ++ message)

def aside (message : String) : Act Unit := line ("  [muted]" ++ message ++ "[/]")

/-- The title of a part; a numbered step's title is no markup. -/
def heading (title : String) (step : Option Int) (total : Int) : Act Unit := do
  blankLine
  match step with
  | none => line ("[bold]" ++ title ++ "[/]")
  | some step =>
    plainLine ("  " ++ Decimal.intText step ++ "/" ++ Decimal.intText total ++ " " ++ title)

/-- The name of the program and what it is for. -/
def banner : Act Unit := do
  blankLine
  plainLine ("FSM Studio  v" ++ version)
  line "[muted]State machine definitions, as graphs and guards[/]"
  blankLine

/-- What can be done next, numbered. -/
def nextSteps (steps : List String) : Act Unit := do
  blankLine
  line "[bold]Next steps:[/]"
  (steps.zipIdx 1).forM fun (step, i) => line ("  " ++ Decimal.natText i ++ ". " ++ step)
  blankLine

/-- The most lines of a file that are shown. -/
def previewLines : Nat := 40

/-- The lines of a text; an end of line at its very end begins no other one. -/
def linesOf (text : String) : List String :=
  let parts := text.splitOn "\n"
  if parts.getLast? == some "" then parts.dropLast else parts

/-- The beginning of a file's text, with a note if there is more. -/
def previewOf (text : String) (format : Format) : String :=
  let lines := linesOf text
  let shown := "\n".intercalate (lines.take previewLines)
  if lines.length ≤ previewLines then shown
  else
    shown ++ match format with
      | .yaml => "\n# ... truncated"
      | .json => "\n..."

/-- A file that has been written. -/
def preview (text : String) (format : Format) (title : String) : Act Unit := do
  blankLine
  let title ← rendered title
  put (.shown (.code (previewOf text format) title))

/-- A panel of markup. -/
def panel (body title : String) : Act Unit := do
  let title ← rendered title
  let body ← rendered body
  put (.shown (.panel body title))

/-- A table of markup, after an empty line. -/
def table (title : String) (columns : List String) (rows : List (List String)) : Act Unit := do
  blankLine
  let rows ← rows.mapM fun row => row.mapM rendered
  put (.shown (.table title columns rows))

end Statecraft.Console
