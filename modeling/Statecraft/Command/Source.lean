import Statecraft.Console.Message
import Statecraft.Graph.Convert

/-!
# Definitions that commands read and write

Files that hold no definition end a command with a message; all else that goes wrong
with them is not expected.
-/

namespace Statecraft.Command

open Console

/-- The command ends, the file at fault. -/
def refuse (message : String) : Act α := do
  failure message none
  exit 1

/-- The outcome of reading a file at a path. -/
def expecting (path : Path) (result : Except SourceError α) : Act α := do
  match result with
  | .ok a => return a
  | .error e =>
    match e with
    | .noFile _ => refuse ("File not found: " ++ path.text)
    | e =>
      if e.isFormat then refuse ("Invalid format: " ++ escape e.message)
      else throw (.crash (.source e))

/-- The mapping in a file. -/
def readMapping (path : Path) : Act Document := do
  expecting path ((← get).folder.readSource path)

/-- A place in a document, as messages show it. -/
def placeText (place : List Shape.Step) : String :=
  ".".intercalate <| place.map fun
    | .key k => k
    | .index i => Decimal.intText i

/-- The definition in a file. What is wrong with its shape is listed. -/
def readDefinition (path : Path) : Act Definition := do
  match Definition.ofDocument (← readMapping path) with
  | .ok d => return d
  | .bad issues => do
    failure ("Invalid definition: " ++ Decimal.natText issues.length ++ " problem(s)") none
    issues.forM fun i => line ("    [dim]" ++ placeText i.path ++ ": " ++ i.kind.message ++ "[/]")
    exit 1

/-- A definition stored in a file. If its name or a value does not fit a format, the command ends
with a message. -/
def storeDefinition (path : Path) (d : Definition) (hint : Option String) : Act Unit := do
  match (← get).folder.store path d with
  | .ok folder => modify fun t => { t with folder := folder }
  | .error e =>
    if e.isFormat then do
      failure e.message hint
      exit 1
    else throw (.crash (.target e))

/-- Warnings about guards that were lost. -/
def warnLost (divergences : List Bundle.Divergence) : Act Unit :=
  divergences.forM fun d => warn d.message

end Statecraft.Command
