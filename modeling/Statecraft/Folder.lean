import Statecraft.Text.Blank
import Statecraft.Text.Encoded
import Statecraft.Text.Quoted

/-!
# Paths and folders

What is stored under which path, and why reading or writing a path fails. A
folder is a value: writing gives the folder with the file in it. A path leads from
folder to folder, two dots to the one above.
-/

namespace Statecraft

/-- A path: its root, which is empty for a relative one, and the names below it. -/
structure Path where
  root : String
  names : List String
  deriving DecidableEq, Repr

namespace Path

/-- Two slashes in front are a root of their own; one slash, or more than two, are the
usual one. -/
def rootOf : List Char → String
  | '/' :: '/' :: '/' :: _ => "/"
  | '/' :: '/' :: _ => "//"
  | '/' :: _ => "/"
  | _ => ""

/-- The path that a text writes. Empty names and single dots do not count. -/
def ofText (s : String) : Path :=
  ⟨rootOf s.toList, (Text.pieces '/' s).filter fun n => !(n.isEmpty || n == ".")⟩

/-- The path in its shortest writing. -/
def text (p : Path) : String :=
  if p.root.isEmpty && p.names.isEmpty then "." else p.root ++ "/".intercalate p.names

/-- The last name, none for a root or the empty path. -/
def name (p : Path) : String := p.names.getLast?.getD ""

/-- The last dot of a name and what follows it. Names that start or end with their
last dot have none. -/
def suffix (p : Path) : String :=
  let cs := p.name.toList
  let after := (cs.reverse.takeWhile (· != '.')).reverse
  let before := cs.take (cs.length - after.length)
  if before.length ≤ 1 || after.isEmpty then "" else String.ofList ('.' :: after)

/-- The path without its last name. -/
def parent (p : Path) : Path := { p with names := p.names.dropLast }

end Path

inductive Stored where
  | file (bytes : List UInt8)
  | folder
  deriving DecidableEq, Repr

/-- Why a path can neither be read nor written. -/
inductive PathFault where
  | missing
  | isFolder
  | notFolder
  | tooLong
  | nullInName
  deriving DecidableEq, Repr

structure PathError where
  fault : PathFault
  path : Path
  deriving DecidableEq, Repr

def PathError.message (e : PathError) : String :=
  let about := fun (what : String) => what ++ ": " ++ Text.quoted e.path.text
  match e.fault with
  | .missing => about "[Errno 2] No such file or directory"
  | .isFolder => about "[Errno 21] Is a directory"
  | .notFolder => about "[Errno 20] Not a directory"
  | .tooLong => about "[Errno 36] File name too long"
  | .nullInName => "embedded null byte"

/-- Why a file has no text. -/
inductive ReadError where
  | path (error : PathError)
  | undecodable (error : Text.Undecodable)
  deriving DecidableEq, Repr

def ReadError.message : ReadError → String
  | .path e => e.message
  | .undecodable e => e.message

/-- What is stored in which place. A place is a path that steps up, with two dots, only in front
of all other names. -/
structure Folder where
  entries : List (Path × Stored)
  deriving DecidableEq, Repr

namespace Folder

/-- The most bytes of a name. -/
def nameLimit : Nat := 255

/-- A path as a whole has fewer bytes than this. -/
def pathLimit : Nat := 4096

/-- The name of the folder above. -/
def above : String := ".."

/-- What is stored in a place: a file, a folder, or a folder that something is stored below. The
folder itself, and those above it, are always there. -/
def stored? (f : Folder) (place : Path) : Option Stored :=
  match f.entries.find? (·.1 == place) with
  | some e => some e.2
  | none =>
    let around := f.entries.any fun e => e.1.root == place.root && place.names.isPrefixOf e.1.names
    if place.names.all (· == above) || around then some .folder else none

/-- One step on from a place. -/
def stepTo (here : Path) (name : String) : Path :=
  if name.isEmpty || name == "." then here
  else if name == above && !here.names.all (· == above) then here.parent
  else if name == above && !here.root.isEmpty then here
  else { here with names := here.names ++ [name] }

/-- The place that names lead to, each step of them from a folder. -/
def walk (f : Folder) (here : Path) : List String → Except PathFault Path
  | [] => .ok here
  | name :: r =>
    match f.stored? here with
    | none => .error .missing
    | some (.file _) => .error .notFolder
    | some .folder =>
      if nameLimit < name.utf8ByteSize then .error .tooLong else walk f (stepTo here name) r

/-- The place of names below a root, the text of which is written out in full. -/
def locate (f : Folder) (text root : String) (names : List String) : Except PathFault Path :=
  if text.toList.contains '\x00' then .error .nullInName
  else if pathLimit ≤ text.utf8ByteSize then .error .tooLong
  else walk f ⟨if root.isEmpty then "" else "/", []⟩ names

/-- The place of a path. -/
def place (f : Folder) (p : Path) : Except PathError Path :=
  match f.locate p.text p.root p.names with
  | .ok place => .ok place
  | .error fault => .error ⟨fault, p⟩

/-- What is found under a path, if anything is. -/
def find? (f : Folder) (p : Path) : Except PathError (Option Stored) :=
  match f.place p with
  | .ok place => .ok (f.stored? place)
  | .error e => if e.fault == .tooLong then .error e else .ok none

def contains (f : Folder) (p : Path) : Except PathError Bool := (f.find? p).map Option.isSome

def isFile (f : Folder) (p : Path) : Except PathError Bool :=
  (f.find? p).map fun
    | some (.file _) => true
    | _ => false

/-- The text of a path, taken as it is written, leads to something: what comes before a slash has
to be a folder. -/
def reaches (f : Folder) (text : String) : Bool :=
  match f.locate text (Path.rootOf text.toList) (Text.pieces '/' text) with
  | .ok place => !text.isEmpty && (f.stored? place).isSome
  | .error _ => false

/-- The text of a file, its line ends unified. -/
def readText (f : Folder) (p : Path) : Except ReadError String :=
  match f.place p with
  | .error e => .error (.path e)
  | .ok place =>
    match f.stored? place with
    | none => .error (.path ⟨.missing, p⟩)
    | some .folder => .error (.path ⟨.isFolder, p⟩)
    | some (.file bytes) =>
      match Text.decode bytes with
      | .ok s => .ok (String.ofList (Text.unifyLines s.toList))
      | .error e => .error (.undecodable e)

/-- The folder with a text stored under the path. -/
def writeText (f : Folder) (p : Path) (text : String) : Except PathError Folder := do
  let place ← f.place p
  let stored := Stored.file (Text.encode text)
  match f.stored? place with
  | some .folder => .error ⟨.isFolder, p⟩
  | some (.file _) => .ok ⟨f.entries.map fun e => if e.1 == place then (place, stored) else e⟩
  | none => .ok ⟨f.entries ++ [(place, stored)]⟩

end Folder

end Statecraft
