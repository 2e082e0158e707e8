import Statecraft.Definition.Data
import Statecraft.Folder
import Statecraft.Json.Reader
import Statecraft.Json.Writer
import Statecraft.Yaml.Reader
import Statecraft.Yaml.Writer

/-!
# Definitions as texts and files

The two formats that definitions are read from and written in. A file's suffix
tells which one it has; a text's is given by name.
-/

namespace Statecraft

inductive Format where
  | yaml
  | json
  deriving DecidableEq, Repr

namespace Format

def name : Format → String
  | .yaml => "yaml"
  | .json => "json"

def ofName? (s : String) : Option Format := [.yaml, .json].find? (·.name == s)

/-- The format of files with a suffix. -/
def ofSuffix? (s : String) : Option Format :=
  if s == ".yaml" || s == ".yml" then some .yaml else if s == ".json" then some .json else none

end Format

/-- Why a text or file gives no document of a definition. -/
inductive SourceError where
  | unknownFormat (name : String)
  | unknownSuffix (suffix : String)
  | yaml (fault : Yaml.Fault)
  | json (error : Json.Error)
  | empty
  | notMapping
  | noFile (path : Path)
  | unreadable (error : ReadError)
  deriving DecidableEq, Repr

def SourceError.message : SourceError → String
  | .unknownFormat name => "Unsupported format: " ++ name
  | .unknownSuffix suffix => "Unsupported file format: " ++ suffix
  | .yaml fault => fault.message
  | .json (.invalid fault place) => "Invalid JSON: " ++ (Json.Error.invalid fault place).message
  | .json (.limit e) => e.message
  | .empty => "Empty machine definition"
  | .notMapping => "Machine definition must be a mapping"
  | .noFile path => "Definition file not found: " ++ path.text
  | .unreadable e => e.message

/-- The file is there but holds no definition. The other errors are about paths, or about values
that a reader of the format stumbles over. -/
def SourceError.isFormat : SourceError → Bool
  | .yaml .emptyNumber | .yaml (.unknownTruth _) | .yaml .notTime => false
  | .yaml (.noCharacter number) => !Yaml.Fault.isHuge number
  | .noFile _ | .unreadable (.path _) => false
  | _ => true

namespace Format

/-- The value that a text writes, whatever it is. -/
def value (format : Format) (text : String) : Except SourceError Document :=
  match format with
  | .yaml =>
    match Yaml.read text with
    | .ok d => .ok d
    | .error e => .error (.yaml e)
  | .json =>
    match Json.read text with
    | .ok d => .ok d
    | .error e => .error (.json e)

/-- The mapping that a text writes. -/
def read (format : Format) (text : String) : Except SourceError Document :=
  match format.value text with
  | .error e => .error e
  | .ok d =>
    match d.content with
    | .null => .error .empty
    | .map _ => .ok d
    | _ => .error .notMapping

end Format

/-- The mapping in a text of the format with the given name. -/
def readSource (name text : String) : Except SourceError Document :=
  match Format.ofName? name with
  | some format => format.read text
  | none => .error (.unknownFormat name)

/-- The mapping in a definition file. -/
def Folder.readSource (f : Folder) (p : Path) : Except SourceError Document :=
  match f.contains p with
  | .error e => .error (.unreadable (.path e))
  | .ok false => .error (.noFile p)
  | .ok true =>
    match f.readText p with
    | .error e => .error (.unreadable e)
    | .ok text =>
      match Format.ofSuffix? p.suffix with
      | some format => format.read text
      | none => .error (.unknownSuffix p.suffix)

/-! ## Writing -/

/-- Why a definition is not written. -/
inductive TargetError where
  | unknownFormat (name : String)
  | unknownSuffix (suffix : String)
  | json (reason : Json.Unwritable)
  | limit (error : Decimal.LimitError)
  | path (error : PathError)
  deriving DecidableEq, Repr

def TargetError.message : TargetError → String
  | .unknownFormat name => "Unsupported format: " ++ name
  | .unknownSuffix suffix => "Unsupported file format: " ++ suffix
  | .json reason => reason.message
  | .limit e => e.message
  | .path e => e.message

/-- The definition has no text or no format. The other errors are about paths, or about values
that a format lacks. -/
def TargetError.isFormat : TargetError → Bool
  | .json (.value _) | .json (.key _) | .path _ => false
  | _ => true

/-- The text of a definition in a format. -/
def Definition.write (d : Definition) : Format → Except TargetError String
  | .yaml =>
    match Yaml.write d.toDocument with
    | .ok s => .ok s
    | .error e => .error (.limit e)
  | .json =>
    match Json.file.write d.toDocument with
    | .ok s => .ok (s ++ "\n")
    | .error e => .error (.json e)

/-- The text of a definition in the format with the given name. -/
def Definition.writeAs (d : Definition) (name : String) : Except TargetError String :=
  match Format.ofName? name with
  | some format => d.write format
  | none => .error (.unknownFormat name)

/-- The folder with a definition stored under the path, in the format of its suffix. -/
def Folder.store (f : Folder) (p : Path) (d : Definition) : Except TargetError Folder :=
  match Format.ofSuffix? p.suffix with
  | none => .error (.unknownSuffix p.suffix)
  | some format =>
    match d.write format with
    | .error e => .error e
    | .ok text =>
      match f.writeText p text with
      | .ok g => .ok g
      | .error e => .error (.path e)

end Statecraft
