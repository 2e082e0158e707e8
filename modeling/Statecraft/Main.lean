import Statecraft.Command.Run
import Statecraft.Console.Screen

/-!
# The program

The command line over the real folder and the real terminal. A run is repeated with
one answer more each time it ends in a question, and only what is new is shown.
-/

namespace Statecraft.Main

open Console

/-- What is stored under a name, if anything is. -/
def storedAt (name : String) : IO (Option Stored) := do
  let path := (← IO.currentDir) / name
  if ← path.isDir then return some .folder
  if ← path.pathExists then return some (.file (← IO.FS.readBinFile path).toList)
  return none

/-- The names of paths that an argument may hold. -/
def namesIn (argument : String) : List String :=
  let cs := argument.toList
  [cs, cs.drop 1, cs.drop 2, (cs.dropWhile (· != '=')).drop 1].map String.ofList

/-- The paths that a run can ask about, with what is stored there. -/
def folderFor (arguments names : List String) : IO Folder := do
  let paths := ((arguments.flatMap namesIn ++ names).filter fun n => !n.isEmpty).map Path.ofText
  let mut entries := []
  for path in (paths ++ paths.map Path.parent).eraseDups do
    match ← storedAt path.text with
    | some stored => entries := (path, stored) :: entries
    | none => pure ()
  return ⟨entries.reverse⟩

/-- The names of variables that a text mentions in braces. -/
def mentioned (text : String) : List String :=
  ((text.splitOn "$\x7b").drop 1).map fun part =>
    String.ofList (part.toList.takeWhile fun c => Text.isAsciiLetter c || Text.isAsciiDigit c || c == '_')

def variablesFor (text : String) : IO (List (String × String)) := do
  let upper := Settings.variableNames.map String.toUpper
  let names := Settings.configVariable :: upper ++ Settings.variableNames ++ mentioned text
  let mut found := []
  for name in names.eraseDups do
    match ← IO.getEnv name with
    | some value => found := (name, value) :: found
    | none => pure ()
  return found.reverse

/-- The files of a folder that another one has not, or has otherwise, written. -/
def writeChanged (before after : Folder) : IO Unit := do
  for entry in after.entries do
    match entry.2 with
    | .file bytes =>
      if !before.entries.contains entry then
        IO.FS.writeBinFile ((← IO.currentDir) / entry.1.text) ⟨bytes.toArray⟩
    | .folder => pure ()

def faultText : Fault → String
  | .answer fault => fault.message
  | .markup fault => fault.message
  | .settings (.path e) => e.message
  | .settings (.undecodable e) => e.message
  | .settings (.unparsable e) => "The value of " ++ e.key ++ " is no JSON"
  | .settings (.shape issues) | .shape issues =>
    "\n".intercalate (issues.map fun i => Command.placeText i.path ++ ": " ++ i.kind.message)
  | .source e => e.message
  | .target e => e.message
  | .limit e => e.message

/-- A typed answer, asked for until it fits; nothing at the end of the input. -/
partial def askFor (question : Question) : IO Answer := do
  IO.print question.onScreen
  (← IO.getStdout).flush
  let line ← (← IO.getStdin).getLine
  if line.isEmpty then return .nothing
  match question.answer? (if line.endsWith "\n" then (line.dropEnd 1).toString else line) with
  | some answer => return answer
  | none => askFor question

/-- Runs with more and more answers; `shown` items have been shown before. -/
partial def converse (start : Terminal) (arguments : List String) (shown : Nat) :
    IO (Command.Ending × Terminal) := do
  let (ending, t) := Command.run start arguments
  for output in t.outputs.drop shown do
    IO.print output.onScreen
  match start.answers, t.questions.getLast? with
  | some answers, some question =>
    if answers.length < t.questions.length then
      let answer ← askFor question
      converse { start with answers := some (answers ++ [answer]) } arguments t.outputs.length
    else return (ending, t)
  | _, _ => return (ending, t)

/-- Runs the program; the result is its exit code. -/
def program (arguments : List String) : IO UInt32 := do
  let config ← IO.getEnv Settings.configVariable
  let names := Settings.configNames ++ [Settings.variablesFile.text, Command.defaultOutput.text]
  let folder ← folderFor arguments (names ++ config.toList)
  let text := match folder.readText Settings.variablesFile with
    | .ok text => text
    | .error _ => ""
  let environment ← variablesFor text
  let answers := if ← (← IO.getStdin).isTty then some [] else none
  let (ending, t) ← converse (Terminal.start folder environment answers) arguments 0
  writeChanged folder t.folder
  for warning in t.warnings do
    IO.eprintln warning
  match ending with
  | .misuse e => IO.eprintln (e.complaint.getD Command.helpText)
  | .crash fault => IO.eprintln (faultText fault)
  | _ => pure ()
  return UInt32.ofNat ending.code

end Statecraft.Main

def main (arguments : List String) : IO UInt32 := Statecraft.Main.program arguments
