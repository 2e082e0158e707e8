import Statecraft.Folder
import Statecraft.Text.Near
import Statecraft.Text.Quoted

/-!
# Arguments of commands

Arguments are words and options. A long option has two dashes and may have its value
after an equals sign; short ones have one dash and one letter and may be written
together, the value of the last right behind it. Otherwise a value is the next
argument, whatever that looks like. Two dashes alone end the options.
-/

namespace Statecraft.Command

/-- What is wrong with arguments. -/
inductive UsageError where
  | nothingGiven
  | missingCommand
  | noSuchCommand (name : String) (near : List String)
  | noSuchOption (name : String) (near : List String)
  | missingValue (option : String)
  | unwantedValue (option : String)
  | notOneOf (option value : String) (choices : List String)
  | noSuchPath (argument path : String)
  | nullInPath (path : String)
  | missingArgument (name : String)
  | extraArguments (words : List String)
  deriving DecidableEq, Repr

/-- A message with the names that may have been meant instead. -/
def suggesting (message : String) (near : List String) : String :=
  match near with
  | [] => message
  | [name] => message ++ " Did you mean " ++ Text.quoted name ++ "?"
  | names =>
    message ++ " (Did you mean one of: " ++ ", ".intercalate (names.map Text.quoted) ++ "?)"

/-- The line that reports an error; where nothing is given at all, help is enough. -/
def UsageError.message : UsageError → Option String
  | .nothingGiven => none
  | .missingCommand => some "Error: Missing command."
  | .noSuchCommand name near =>
    some (suggesting ("Error: No such command " ++ Text.quoted name ++ ".") near)
  | .noSuchOption name near =>
    some (suggesting ("Error: No such option " ++ Text.quoted name ++ ".") near)
  | .missingValue option =>
    some ("Error: Option " ++ Text.quoted option ++ " requires an argument.")
  | .unwantedValue option =>
    some ("Error: Option " ++ Text.quoted option ++ " does not take a value.")
  | .notOneOf option value choices =>
    some ("Error: Invalid value for " ++ option ++ ": " ++ Text.quoted value ++ " is not one of "
      ++ ", ".intercalate (choices.map Text.quoted) ++ ".")
  | .noSuchPath argument path =>
    some ("Error: Invalid value for " ++ argument ++ ": Path " ++ Text.quoted path
      ++ " does not exist.")
  | .nullInPath path => some ("Error: " ++ (PathError.mk .nullInName (Path.ofText path)).message)
  | .missingArgument name => some ("Error: Missing argument '" ++ name ++ "'.")
  | .extraArguments words =>
    let what := if words.length == 1 then "argument" else "arguments"
    some ("Error: Got unexpected extra " ++ what ++ " (" ++ " ".intercalate words ++ ")")

/-- The options of all commands. -/
inductive Key where
  | output
  | states
  | initial
  | force
  | layout
  | config
  | debug
  | strict
  | verbose
  | autoLayout
  | direction
  | version
  | help
  deriving DecidableEq, Repr

namespace Key

/-- How an option is written, the long way first. -/
def names : Key → List String
  | .output => ["--output", "-o"]
  | .states => ["--states", "-s"]
  | .initial => ["--initial", "-i"]
  | .force => ["--force", "-f"]
  | .layout => ["--layout"]
  | .config => ["--config", "-c"]
  | .debug => ["--debug"]
  | .strict => ["--strict"]
  | .verbose => ["--verbose", "-v"]
  | .autoLayout => ["--auto-layout"]
  | .direction => ["--direction", "-d"]
  | .version => ["--version"]
  | .help => ["--help"]

/-- How an option is taken back. -/
def negative : Key → Option String
  | .layout => some "--no-layout"
  | .debug => some "--no-debug"
  | _ => none

def takesValue : Key → Bool
  | .output | .states | .initial | .config | .direction => true
  | _ => false

/-- How an option is written out in full, the way it is taken back among them. -/
def longNames (k : Key) : List String :=
  (k.names.filter fun name => name.toList.take 2 == ['-', '-']) ++ k.negative.toList

/-- An option in error messages. -/
def shown (k : Key) : String := " / ".intercalate (k.names.map Text.quoted)

end Key

/-- What is given for an option. -/
inductive Setting where
  | text (value : String)
  | flag (on : Bool)
  deriving DecidableEq, Repr

abbrev Given := List (Key × Setting)

/-- Arguments that have been read: what is given for options, in order, and the words. -/
structure Arguments where
  given : Given
  words : List String
  deriving DecidableEq, Repr

namespace Arguments

/-- The option that a name writes, and whether it is switched on or off. -/
def find? (keys : List Key) (name : String) : Option (Key × Bool) :=
  keys.findSome? fun k =>
    if k.names.contains name then some (k, true)
    else if k.negative == some name then some (k, false)
    else none

/-- One argument's options, and the one among them that needs the next argument as its value,
with the name it was written by. -/
abbrev Step := Except UsageError (Given × Option (Key × String))

/-- Short options in one argument, without the dash. -/
def readShort (keys : List Key) : List Char → Step
  | [] => .ok ([], none)
  | c :: r =>
    let name := String.ofList ['-', c]
    match find? keys name with
    | none => .error (.noSuchOption name [])
    | some (k, on) =>
      if k.takesValue then
        .ok (if r.isEmpty then ([], some (k, name)) else ([(k, .text (String.ofList r))], none))
      else (readShort keys r).map fun (given, open?) => ((k, .flag on) :: given, open?)

/-- A long option: the one that is written, or else short ones if there is only one dash. -/
def readOption (keys : List Key) (argument : List Char) : Step :=
  let name := String.ofList (argument.takeWhile (· != '='))
  let value? := (argument.dropWhile (· != '=')).tail?.map String.ofList
  let long := argument.take 2 == ['-', '-']
  match if long then find? keys name else none, value? with
  | some (k, on), none => .ok (if k.takesValue then ([], some (k, name)) else ([(k, .flag on)], none))
  | some (k, _), some value =>
    if k.takesValue then .ok ([(k, .text value)], none) else .error (.unwantedValue name)
  | none, _ =>
    if long then .error (.noSuchOption name (Text.nearest name (keys.flatMap Key.longNames)))
    else readShort keys (argument.drop 1)

/-- The argument is written as an option is. -/
def isOption (argument : List Char) : Bool := argument.head? == some '-' && 1 < argument.length

/-- The arguments, options among them that are in `keys`. Words end the options unless they may
be mixed. -/
def read (keys : List Key) (mixed : Bool) : List String → Except UsageError Arguments
  | [] => .ok ⟨[], []⟩
  | argument :: r =>
    if argument == "--" then .ok ⟨[], r⟩
    else if isOption argument.toList then do
      let (given, open?) ← readOption keys argument.toList
      match open?, r with
      | none, r => do
        let rest ← read keys mixed r
        .ok { rest with given := given ++ rest.given }
      | some (_, name), [] => .error (.missingValue name)
      | some (k, _), value :: r => do
        let rest ← read keys mixed r
        .ok { rest with given := given ++ (k, .text value) :: rest.given }
    else if mixed then do
      let rest ← read keys mixed r
      .ok { rest with words := argument :: rest.words }
    else .ok ⟨[], argument :: r⟩

/-- What is given for an option; the last time counts. -/
def last? (a : Arguments) (k : Key) : Option Setting := a.given.reverse.lookup k

def text? (a : Arguments) (k : Key) : Option String :=
  match a.last? k with
  | some (.text s) => some s
  | _ => none

def flag (a : Arguments) (k : Key) (absent : Bool) : Bool :=
  match a.last? k with
  | some (.flag on) => on
  | _ => absent

/-- The options that are given, in the order in which they first are. -/
def keys (a : Arguments) : List Key := (a.given.map (·.1)).eraseDups

end Arguments

end Statecraft.Command
