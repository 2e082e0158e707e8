import Statecraft.Folder
import Statecraft.Settings.Variables
import Statecraft.Yaml.Reader

/-!
# Layers of settings

Settings are given directly, in a configuration file, in variables and in a file
of variables. Each leaf comes from the first of these layers that has it, or else
from the defaults.
-/

namespace Statecraft.Settings

/-- What settings are taken from. -/
structure Surroundings where
  folder : Folder
  environment : List (String × String)

/-- What is wrong with a configuration file without being an error. -/
inductive Warning where
  | unreadable (path : Path)
  | notMapping (key : String)
  deriving DecidableEq, Repr

def Warning.message : Warning → String
  | .unreadable path => "Failed to load config from " ++ path.text
  | .notMapping key => "Ignoring non-mapping '" ++ key ++ "' section in config"

/-- Why there are no settings. -/
inductive LoadError where
  | path (error : PathError)
  | undecodable (error : Text.Undecodable)
  | unparsable (error : Unparsable)
  | shape (issues : List Shape.Issue)
  deriving DecidableEq, Repr

/-! ## The configuration file -/

/-- The variable that names the configuration file. -/
def configVariable : String := "FSMSTUDIO_CONFIG"

/-- Where the configuration file is looked for if nothing names it. -/
def configNames : List String := ["fsmstudio.yaml", "fsmstudio.yml"]

/-- The name of a file that is named by text, an empty one naming none. -/
def named? (name : Option String) : Option Path :=
  match name with
  | none | some "" => none
  | some n => some (Path.ofText n)

/-- The first of several paths that is a file's. -/
def firstFile (folder : Folder) : List Path → Except PathError (Option Path)
  | [] => .ok none
  | p :: r => do
    if ← folder.isFile p then .ok (some p) else firstFile folder r

/-- The configuration file: the given one, or the one that the variable names, or the first of
the usual ones that is there. -/
def configPath? (s : Surroundings) (given : Option String) : Except PathError (Option Path) :=
  match named? given, named? (s.environment.lookup configVariable) with
  | some p, _ => firstFile s.folder [p]
  | none, some p => firstFile s.folder [p]
  | none, none => firstFile s.folder (configNames.map Path.ofText)

/-- The entries of the configuration file; a file without a mapping has none. -/
def configEntries (s : Surroundings) (given : Option String) :
    Except PathError (Document.Entries × List Warning) := do
  match ← configPath? s given with
  | none => .ok ([], [])
  | some p =>
    match s.folder.readText p with
    | .error _ => .ok ([], [.unreadable p])
    | .ok text =>
      match Yaml.read text with
      | .error _ => .ok ([], [.unreadable p])
      | .ok d =>
        match d.plain with
        | .map entries => .ok (entries, [])
        | _ => .ok ([], [])

/-- A section of the configuration file: a mapping that is not empty. -/
def configSection (entries : Document.Entries) (sec : Section) :
    Option Document.Entries × List Warning :=
  match entries.get? sec.name with
  | none | some .null | some (.map []) => (none, [])
  | some (.map inner) => (some inner, [])
  | some _ => (none, [.notMapping sec.name])

/-- A direction outside the sections stands for the one of the layout, unless that has its own. -/
def withDirection (entries : Document.Entries) (layout : Option Document.Entries) :
    Option Document.Entries :=
  match entries.get? "direction" with
  | none => layout
  | some d =>
    let inner := layout.getD []
    some (if (inner.get? "direction").isSome then inner else inner.insert (.text "direction") d)

/-- The settings of the configuration file. -/
def ofConfig (entries : Document.Entries) : Document.Entries × List Warning :=
  let (layout, w) := configSection entries .layout
  let (grid, w') := configSection entries .grid
  let (editor, w'') := configSection entries .editor
  let top := topKeys.filterMap fun k => (entries.get? k).map fun d => (Document.text k, d)
  let part := fun (sec : Section) (es : Option Document.Entries) =>
    (es.map fun es => (Document.text sec.name, Document.map es)).toList
  (top ++ part .layout (withDirection entries layout) ++ part .grid grid ++ part .editor editor,
    w ++ w' ++ w'')

/-! ## All layers -/

/-- The file of variables. -/
def variablesFile : Path := Path.ofText ".env"

/-- The variables of the file of variables. -/
def fileVariables (s : Surroundings) : Except Text.Undecodable (List Assignment) :=
  match s.folder.readText variablesFile with
  | .ok text => .ok (assignments (s.environment.map fun v => (v.1, some v.2)) text)
  | .error (.undecodable e) => .error e
  | .error (.path _) => .ok []

/-- The layers laid over each other, the uppermost one first. -/
def combined (layers : List Document.Entries) : Document.Entries :=
  layers.foldl (fun upper lower => upper.overlay lower) []

/-- What a look at the surroundings gives: settings or an error, and warnings. -/
structure Loaded where
  result : Except LoadError Settings
  warnings : List Warning

/-- The settings of layers: those that are given directly, the configuration file, the variables
and the file of variables. -/
def ofLayers (direct config : Document.Entries) (environment inFile : List Assignment) :
    Except LoadError Settings :=
  match ofVariables environment, ofVariables inFile with
  | .error e, _ | .ok _, .error e => .error (.unparsable e)
  | .ok outer, .ok inner =>
    match Settings.ofDocument (.map (combined [direct, config, outer, inner])) with
    | .ok settings => .ok settings
    | .bad issues => .error (.shape issues)

/-- The settings that the surroundings give, under those that are given directly. -/
def load (s : Surroundings) (config : Option String) (direct : Document.Entries) : Loaded :=
  match fileVariables s, configEntries s config with
  | .error e, _ => ⟨.error (.undecodable e), []⟩
  | .ok _, .error e => ⟨.error (.path e), []⟩
  | .ok inFile, .ok (entries, unreadable) =>
    let (fromConfig, ignored) := ofConfig entries
    let environment := s.environment.map fun v => (v.1, some v.2)
    ⟨ofLayers direct fromConfig environment inFile, unreadable ++ ignored⟩

end Statecraft.Settings
