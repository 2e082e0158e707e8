import Statecraft.Command.Create
import Statecraft.Command.Describe
import Statecraft.Command.Graph
import Statecraft.Command.Guard
import Statecraft.Command.Validate

/-!
# Running the program

What arguments do at a terminal, and how that ends.
-/

namespace Statecraft.Command

open Console

/-- How a run ends. -/
inductive Ending where
  | done
  | exit (code : Nat)
  | crash (fault : Fault)
  | misuse (error : UsageError)
  deriving DecidableEq, Repr

/-- The exit code of a run: one after an error that was not expected, two if the arguments are
wrong. -/
def Ending.code : Ending → Nat
  | .done => 0
  | .exit code => code
  | .crash _ => 1
  | .misuse _ => 2

/-- What is written about wrong arguments. -/
def UsageError.complaint (e : UsageError) : Option String :=
  e.message.map fun m => String.ofList (withoutCodes m.toList)

def perform : Command → Act Unit
  | .create c => createFile c
  | .validate path strict debug => validateFile path strict debug
  | .describe path verbose => describeFile path verbose
  | .graph r autoLayout => showGraph r autoLayout
  | .layout r => layOutFile r
  | .parseGuard text => showTree text
  | .formatGuard tree => showGuard tree
  | .version => plainLine ("FSM Studio v" ++ Console.version)

/-- What is shown as help. -/
def helpText : String :=
  "Usage: " ++ programName ++ " new|validate|info|graph|layout|guard parse|guard format|version"

def Request.act : Request → Act Unit
  | .command c => perform c
  | .version => echo (programName ++ ", version " ++ Console.version)
  | .help => echo helpText

/-- A run of the program. -/
def run (t : Terminal) (arguments : List String) : Ending × Terminal :=
  match Request.ofArguments t.folder arguments with
  | .error (.nullInPath text) => (.crash (.target (.path ⟨.nullInName, Path.ofText text⟩)), t)
  | .error e => (.misuse e, t)
  | .ok request =>
    match (request.act.run).run t with
    | (.ok (), t) => (.done, t)
    | (.error (.exit code), t) => (.exit code, t)
    | (.error (.crash fault), t) => (.crash fault, t)

end Statecraft.Command
