import Statecraft.Document.Overlay
import Statecraft.Json.Reader
import Statecraft.Settings.Assignments
import Statecraft.Settings.Basic
import Statecraft.Text.Case

/-!
# Settings from variables

Variables give settings under names with a common beginning, in any case of their
letters. A section is given as a whole, in JSON, or key by key, with two
underscores between the names; the keys win.
-/

namespace Statecraft.Settings

/-- The parts of the settings that have keys of their own. -/
inductive Section where
  | layout
  | grid
  | editor
  deriving DecidableEq, Repr

namespace Section

def all : List Section := [.layout, .grid, .editor]

def name : Section → String
  | .layout => "layout"
  | .grid => "grid"
  | .editor => "editor"

def keys : Section → List String
  | .layout =>
    ["direction", "node_width", "node_height", "node_sep", "rank_sep", "margin_x", "margin_y"]
  | .grid => ["spacing_x", "spacing_y", "offset_x", "offset_y"]
  | .editor =>
    ["positions_key", "default_event", "default_state_name", "new_state_offset_x",
      "auto_layout_on_load"]

end Section

/-- The settings that stand outside the sections. -/
def topKeys : List String := ["debug", "log_level"]

/-- What the names of the variables begin with. -/
def commonName : String := "fsmstudio_"

/-- What separates a section's name from a key's. -/
def keySeparator : String := "__"

/-- The variables under lower-case names; of several with one name the last counts, in
the place of the first. -/
def lowered (environment : List Assignment) : List Assignment :=
  environment.foldl (fun done v => assign done (Text.lower v.1, v.2)) []

/-- A section's value is no JSON. -/
structure Unparsable where
  key : String
  deriving DecidableEq, Repr

/-- A text or null. -/
def valueOf (v : Option String) : Document := (v.map Document.text).getD .null

/-- The entries with a value at a path. Where a text is in the way, it stays. -/
def insertAt : List String → Document → Document.Entries → Document.Entries
  | [], _, entries => entries
  | [key], v, entries => entries.insert (.text key) v
  | key :: r, v, entries =>
    match entries.get? key with
    | none => entries.insert (.text key) (.map (insertAt r v []))
    | some (.map inner) => entries.insert (.text key) (.map (insertAt r v inner))
    | some _ => entries

/-- The keys of a path, which have two underscores between them. -/
def keysOf : List Char → List (List Char)
  | '_' :: '_' :: r => [] :: keysOf r
  | c :: r =>
    match keysOf r with
    | key :: keys => (c :: key) :: keys
    | [] => [[c]]
  | [] => [[]]

/-- What is given of a section key by key. -/
def keyed (environment : List Assignment) (sec : Section) : Document.Entries :=
  let start := (commonName ++ sec.name ++ keySeparator).toList
  environment.foldl (fun entries v =>
    if start.isPrefixOf v.1.toList then
      insertAt ((keysOf (v.1.toList.drop start.length)).map String.ofList) (valueOf v.2) entries
    else entries) []

/-- The entries with the section's keys in lower case. -/
def withKeys (sec : Section) (entries : Document.Entries) : Document.Entries :=
  entries.foldl (fun done e =>
    let key := match e.1 with
      | .text k => .text ((sec.keys.find? (· == Text.lower k)).getD k)
      | k => k
    Document.Entries.insert done key e.2) []

/-- The variable of a name, if it has a value. -/
def variableText? (environment : List Assignment) (name : String) : Option String :=
  (environment.lookup (commonName ++ name)).bind id

/-- What variables give of a section; nothing if they do not mention it. -/
def sectionValue (environment : List Assignment) (sec : Section) :
    Except Unparsable (Option Document) :=
  let keys := keyed environment sec
  match variableText? environment sec.name with
  | none => .ok (if keys.isEmpty then none else some (.map (withKeys sec keys)))
  | some text =>
    match Json.read text with
    | .error _ => .error ⟨sec.name⟩
    | .ok .null => .ok none
    | .ok (.map whole) => .ok (some (.map (withKeys sec (keys.overlay whole))))
    | .ok d => .ok (some d)

/-- The sections' entries, in order. -/
def sectionEntries (environment : List Assignment) :
    List Section → Except Unparsable Document.Entries
  | [] => .ok []
  | sec :: r =>
    match sectionValue environment sec with
    | .error e => .error e
    | .ok v =>
      (sectionEntries environment r).map fun es =>
        (v.map fun d => (Document.text sec.name, d)).toList ++ es

/-- The settings that variables give. -/
def ofVariables (environment : List Assignment) : Except Unparsable Document.Entries :=
  let environment := lowered environment
  let top := topKeys.filterMap fun k => (variableText? environment k).map fun v =>
    (Document.text k, Document.text v)
  (sectionEntries environment Section.all).map (top ++ ·)

/-- The names of the variables that give settings. -/
def variableNames : List String :=
  let start := Text.lower commonName
  topKeys.map (start ++ ·)
    ++ Section.all.flatMap fun sec =>
      (start ++ sec.name) :: sec.keys.map fun k => start ++ sec.name ++ keySeparator ++ k

end Statecraft.Settings
