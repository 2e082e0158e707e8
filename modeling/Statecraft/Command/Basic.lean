import Statecraft.Command.Arguments
import Statecraft.Folder
import Statecraft.Layout.Config

/-!
# Commands

What can be asked for on a command line, and how it is asked for. Options are checked
in the order in which they are given, then the words.
-/

namespace Statecraft

open Layout (Direction)

/-- How a new definition is made. Without states they are asked for. -/
structure Creation where
  output : Path
  states : Option String
  initial : Option String
  force : Bool
  layout : Bool
  config : Option Path
  debug : Bool
  deriving DecidableEq, Repr

/-- What is done with the graph of a definition. -/
structure Rendering where
  source : Path
  direction : Option Direction
  output : Option Path
  config : Option Path
  deriving DecidableEq, Repr

inductive Command where
  | create (creation : Creation)
  | validate (source : Path) (strict debug : Bool)
  | describe (source : Path) (verbose : Bool)
  | graph (rendering : Rendering) (autoLayout : Bool)
  | layout (rendering : Rendering)
  | parseGuard (text : String)
  | formatGuard (tree : String)
  | version
  deriving DecidableEq, Repr

namespace Command

/-- Where a new definition goes if nothing else is said. -/
def defaultOutput : Path := Path.ofText "machine.yaml"

/-- A path that can be asked about. -/
def pathOf (text : String) : Except UsageError Path :=
  if text.toList.contains '\x00' then .error (.nullInPath text) else .ok (Path.ofText text)

/-- A path of something that is there. -/
def existing (f : Folder) (argument text : String) : Except UsageError Path := do
  let path ← pathOf text
  if f.reaches text then .ok path else .error (.noSuchPath argument text)

def directionOf (text : String) : Except UsageError Direction :=
  match Direction.ofName? text with
  | some d => .ok d
  | none => .error (.notOneOf Key.direction.shown text (Direction.all.map Direction.name))

/-- What is given for an option is right. -/
def checkOption (f : Folder) (a : Arguments) (k : Key) : Except UsageError Unit :=
  match k, a.text? k with
  | .config, some text => (existing f Key.config.shown text).map fun _ => ()
  | .output, some text => (pathOf text).map fun _ => ()
  | .direction, some text => (directionOf text).map fun _ => ()
  | _, _ => .ok ()

/-- What options give, once they have been checked. -/
structure Options where
  config : Option Path
  direction : Option Direction
  output : Option Path

def optionsOf (f : Folder) (a : Arguments) : Except UsageError Options := do
  a.keys.forM (checkOption f a)
  .ok {
    config := (a.text? .config).map Path.ofText
    direction := (a.text? .direction).bind Direction.ofName?
    output := (a.text? .output).map Path.ofText }

/-- The only word that a command takes. -/
def word (name : String) (a : Arguments) : Except UsageError (String × List String) :=
  match a.words with
  | [] => .error (.missingArgument name)
  | word :: extra => .ok (word, extra)

def noMore (extra : List String) : Except UsageError Unit :=
  if extra.isEmpty then .ok () else .error (.extraArguments extra)

/-- What is asked for: a command, the version of the program, or help. -/
inductive Request where
  | command (command : Command)
  | version
  | help
  deriving DecidableEq, Repr

/-- The names of commands on definitions. -/
inductive Verb where
  | new
  | validate
  | info
  | graph
  | layout
  | parse
  | format
  | version
  deriving DecidableEq, Repr

namespace Verb

/-- The options that a command takes. -/
def keys : Verb → List Key
  | .new => [.output, .states, .initial, .force, .layout, .config, .debug, .help]
  | .validate => [.strict, .debug, .help]
  | .info => [.verbose, .help]
  | .graph => [.autoLayout, .direction, .output, .config, .help]
  | .layout => [.direction, .output, .config, .help]
  | .parse | .format | .version => [.help]

/-- The command of arguments. -/
def command (f : Folder) (a : Arguments) (v : Verb) : Except UsageError Command := do
  let options ← optionsOf f a
  let source := do
    let (text, extra) ← word "DEFINITION_PATH" a
    let path ← existing f "'DEFINITION_PATH'" text
    noMore extra
    .ok path
  match v with
  | .new => do
    noMore a.words
    .ok (.create {
      output := options.output.getD defaultOutput
      states := a.text? .states
      initial := a.text? .initial
      force := a.flag .force false
      layout := a.flag .layout true
      config := options.config
      debug := a.flag .debug false })
  | .validate => do
    .ok (.validate (← source) (a.flag .strict false) (a.flag .debug false))
  | .info => do
    .ok (.describe (← source) (a.flag .verbose false))
  | .graph => do
    let rendering := ⟨← source, options.direction, options.output, options.config⟩
    .ok (.graph rendering (a.flag .autoLayout false))
  | .layout => do
    .ok (.layout ⟨← source, options.direction, options.output, options.config⟩)
  | .parse => do
    let (text, extra) ← word "EXPRESSION" a
    noMore extra
    .ok (.parseGuard text)
  | .format => do
    let (text, extra) ← word "TREE" a
    noMore extra
    .ok (.formatGuard text)
  | .version => do
    noMore a.words
    .ok .version

end Verb

/-- Names of commands, and of groups of them. -/
inductive Entry where
  | verb (verb : Verb)
  | group (entries : List (String × Verb))

def entries : List (String × Entry) :=
  [("new", .verb .new), ("validate", .verb .validate), ("info", .verb .info),
   ("graph", .verb .graph), ("layout", .verb .layout),
   ("guard", .group [("parse", .parse), ("format", .format)]), ("version", .verb .version)]

/-- What options in front of a command's name ask for instead of a command. -/
def instead? (given : Given) : Option Request :=
  given.head?.map fun
    | (.version, _) => .version
    | _ => .help

/-- What is asked for in front of a command's name, or else the name and what follows it. -/
def readName (keys : List Key) (arguments : List String) :
    Except UsageError (Request ⊕ String × List String) := do
  if arguments.isEmpty then .error .nothingGiven
  let a ← Arguments.read keys false arguments
  match instead? a.given, a.words with
  | some request, _ => .ok (.inl request)
  | none, [] => .error .missingCommand
  | none, name :: rest => .ok (.inr (name, rest))

/-- A name that is none of the commands'; if it looks like an option it is read as one. -/
def unknownName (keys : List Key) (commands : List String) (name : String) (rest : List String) :
    Except UsageError Request := do
  let a ← Arguments.read keys false (name :: rest)
  match instead? a.given with
  | some request => .ok request
  | none => .error (.noSuchCommand name (Text.nearest name commands))

/-- What is asked for after a command's name. -/
def ofVerb (f : Folder) (v : Verb) (arguments : List String) : Except UsageError Request := do
  let a ← Arguments.read v.keys true arguments
  if a.keys.contains .help then .ok .help else (v.command f a).map .command

/-- What arguments ask for. -/
def Request.ofArguments (f : Folder) (arguments : List String) : Except UsageError Request := do
  match ← readName [.version, .help] arguments with
  | .inl request => .ok request
  | .inr (name, rest) =>
    match entries.lookup name with
    | some (.verb v) => ofVerb f v rest
    | some (.group verbs) => do
      match ← readName [.help] rest with
      | .inl request => .ok request
      | .inr (name, rest) =>
        match verbs.lookup name with
        | some v => ofVerb f v rest
        | none => unknownName [.help] (verbs.map (·.1)) name rest
    | none => unknownName [.version, .help] (entries.map (·.1)) name rest

end Command

end Statecraft
