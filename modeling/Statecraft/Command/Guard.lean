import Statecraft.Console.Message
import Statecraft.Guard.Data
import Statecraft.Guard.Expression
import Statecraft.Guard.Render

/-!
# Guards on the command line

Guard texts as trees in JSON, and such trees as texts.
-/

namespace Statecraft.Command

open Console

/-- Trees as JSON: indented by two, numbers that are not finite as null. -/
def treeStyle : Json.Style := { Json.file with finiteOnly := true }

/-- The tree of a guard's text. -/
def showTree (text : String) : Act Unit := do
  match Guard.Group.ofText text with
  | .error (.limit e) => throw (.crash (.limit e))
  | .error (.failure f) => do
    failure ("Cannot parse guard: " ++ f.text) none
    exit 1
  | .ok g => echo (← orCrash (treeStyle.write g.toDocument) fun e => .target (.json e))

/-- The text that an argument stands for: after an at sign, the text of the file that it names.
A name that no file can have is not expected. -/
def argumentText (argument : String) : Act String := do
  match argument.toList with
  | '@' :: name =>
    match (← get).folder.readText (Path.ofText (String.ofList name)) with
    | .ok text => return text
    | .error (.path ⟨.nullInName, path⟩) =>
      throw (.crash (.source (.unreadable (.path ⟨.nullInName, path⟩))))
    | .error (.path e) => do
      failure ("Cannot read tree: " ++ e.message) none
      exit 1
    | .error e => throw (.crash (.source (.unreadable e)))
  | _ => return argument

/-- The tree that JSON stands for. -/
def treeOf (text : String) : Act (Option Guard.Group) := do
  match Json.read text with
  | .error (.limit e) => throw (.crash (.limit e))
  | .error (.invalid fault place) => do
    failure ("Invalid JSON: " ++ (Json.Error.invalid fault place).message) none
    exit 1
  | .ok data =>
    match Guard.Group.ofDocument data with
    | .ok g => return g
    | .bad issues => do
      failure ("Invalid condition tree: " ++ Decimal.natText issues.length ++ " problem(s)") none
      exit 1

/-- The text of a guard's tree. -/
def showGuard (argument : String) : Act Unit := do
  let tree ← treeOf (← argumentText argument)
  let text ← match tree with
    | some g => orCrash g.text .limit
    | none => pure ""
  if text.isEmpty then caution "Tree holds no complete condition; no guard" else echo text

end Statecraft.Command
