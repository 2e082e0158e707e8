import Statecraft.Layout.Config
import Statecraft.Position

/-!
# Settings

What can be configured: messages, the two layouts, and the defaults of editing
sessions.
-/

namespace Statecraft

open Shape (Checked)

inductive LogLevel where
  | debug
  | info
  | warning
  | error
  deriving DecidableEq, Repr

namespace LogLevel

def name : LogLevel → String
  | .debug => "DEBUG"
  | .info => "INFO"
  | .warning => "WARNING"
  | .error => "ERROR"

def all : List LogLevel := [.debug, .info, .warning, .error]

def ofName? (name : String) : Option LogLevel := all.find? (·.name == name)

def ofDocument : Document → Checked LogLevel := Shape.oneOf (all.map name) ofName? .notLiteral

/-- Messages of the first level are shown when the second one is set. -/
def isShown (message level : LogLevel) : Bool := rank level ≤ rank message
where
  rank : LogLevel → Nat
    | .debug => 0
    | .info => 1
    | .warning => 2
    | .error => 3

end LogLevel

/-- Defaults of editing sessions. -/
structure EditorConfig where
  positionsKey : String
  defaultEvent : String
  defaultState : String
  newStateDistance : Float
  layoutOnLoad : Bool

structure Settings where
  debug : Bool
  logLevel : LogLevel
  layout : Layout.Config Float
  grid : Layout.Grid Float
  editor : EditorConfig

def EditorConfig.default : EditorConfig := ⟨Statecraft.positionsKey, "event", "new_state", 180, false⟩

def Settings.default : Settings :=
  ⟨false, .warning, Layout.Config.default, Layout.Grid.default, EditorConfig.default⟩

/-- A text that is not empty. -/
def nonEmptyText (d : Document) : Checked String :=
  (Shape.text d).andThen fun s => if s.isEmpty then .fail .emptyText else .ok s

def EditorConfig.ofDocument (d : Document) : Checked EditorConfig :=
  (Shape.record "EditorConfig" d).andThen fun entries =>
    let c := EditorConfig.default
    let key := Shape.optional entries "positions_key" c.positionsKey nonEmptyText
    let event := Shape.optional entries "default_event" c.defaultEvent nonEmptyText
    let state := Shape.optional entries "default_state_name" c.defaultState nonEmptyText
    let distance := Shape.optional entries "new_state_offset_x" c.newStateDistance Shape.number
    let onLoad := Shape.optional entries "auto_layout_on_load" c.layoutOnLoad Shape.boolean
    let a := Checked.both (fun k e => EditorConfig.mk k e) key event
    let b := Checked.both (· ·) a state
    let c := Checked.both (· ·) b distance
    Checked.both (· ·) c onLoad

/-- The least level of the messages that are shown. -/
def Settings.shownLevel (s : Settings) (debug : Bool) : LogLevel :=
  if debug || s.debug then .debug else s.logLevel

/-- The settings that a document gives, with defaults for the rest. -/
def Settings.ofDocument (d : Document) : Checked Settings :=
  (Shape.record "StudioSettings" d).andThen fun entries =>
    let s := Settings.default
    let debug := Shape.optional entries "debug" s.debug Shape.boolean
    let level := Shape.optional entries "log_level" s.logLevel LogLevel.ofDocument
    let layout := Shape.optional entries "layout" s.layout Layout.Config.ofDocument
    let grid := Shape.optional entries "grid" s.grid Layout.Grid.ofDocument
    let editor := Shape.optional entries "editor" s.editor EditorConfig.ofDocument
    let a := Checked.both (fun d l => Settings.mk d l) debug level
    let b := Checked.both (· ·) a layout
    let c := Checked.both (· ·) b grid
    Checked.both (· ·) c editor

end Statecraft
