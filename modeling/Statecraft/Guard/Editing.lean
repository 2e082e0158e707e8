import Statecraft.Guard.Expression
import Statecraft.Guard.Render

/-!
# Editing one guard in two views

A guard is edited as a tree or as text. Going from the text to the tree reads the
text; a text outside the grammar leaves the tree as it was and is remembered as
the last failure. The listener hears the guard's new text, or none when nothing
is left of the guard.
-/

namespace Statecraft.Guard

inductive View where
  | visual
  | raw
  deriving DecidableEq, Repr

namespace View

def name : View → String
  | .visual => "visual"
  | .raw => "raw"

def ofName? (name : String) : Option View := [visual, raw].find? (·.name == name)

end View

/-- A guard being edited. A tree that is taken away altogether counts as no guard. -/
structure Editing where
  view : View
  raw : String
  lastFailure : Option Failure
  tree : Option Group

/-- What an edit answers. -/
inductive Reply where
  | nothing
  | flag (flag : Bool)
  | guard (text : Option String)
  deriving DecidableEq, Repr

/-- The state after an edit, its answer, and what the listener heard. -/
structure Outcome where
  state : Editing
  reply : Reply
  heard : List (Option String)

inductive Action where
  | switchView (view : View)
  | updateTree (tree : Option Group)
  | setRaw (text : String)
  | commitRaw
  | clear

/-- The text unless it is empty. -/
def nonEmpty? (s : String) : Option String := if s.isEmpty then none else some s

namespace Editing

/-- Editing starts in the visual view. Text outside the grammar starts with a
draft row, the text being put by until the raw view is entered. -/
def start (text : Option String) : Except Decimal.LimitError Editing :=
  let raw := text.getD ""
  if raw.isEmpty then .ok ⟨.visual, raw, none, some (Group.draft .and)⟩
  else
    match Group.ofText raw with
    | .ok tree => .ok ⟨.visual, raw, none, some tree⟩
    | .error (.failure f) => .ok ⟨.visual, raw, some f, some (Group.draft .and)⟩
    | .error (.limit e) => .error e

/-- The text of a tree, which is empty where there is none. -/
def treeText (tree : Option Group) : Except Decimal.LimitError String :=
  match tree with
  | some g => g.text
  | none => .ok ""

/-- The guard's text as the current view shows it. -/
def expression (e : Editing) : Except Decimal.LimitError String :=
  match e.view with
  | .visual => treeText e.tree
  | .raw => .ok e.raw

/-- The other view; going to the visual one says whether the text could be read. -/
def switchView (e : Editing) (view : View) : Except Decimal.LimitError (Editing × Bool) :=
  match e.view, view with
  | .raw, .visual =>
    if Text.isBlankText e.raw then .ok ({ e with view := view }, true)
    else
      match Group.ofText e.raw with
      | .ok tree => .ok ({ e with view := view, tree := some tree, lastFailure := none }, true)
      | .error (.failure f) => .ok ({ e with view := view, lastFailure := some f }, false)
      | .error (.limit l) => .error l
  | .visual, .raw => (treeText e.tree).map fun t => ({ e with view := view, raw := t }, true)
  | .visual, .visual | .raw, .raw => .ok (e, true)

/-- An edit. Raw text is committed as it is, trimmed and not read. -/
def act (e : Editing) : Action → Except Decimal.LimitError Outcome
  | .switchView view => (e.switchView view).map fun (e, ok) => ⟨e, .flag ok, []⟩
  | .updateTree tree =>
    (treeText tree).map fun t => ⟨{ e with tree := tree }, .guard (nonEmpty? t), [nonEmpty? t]⟩
  | .setRaw text => .ok ⟨{ e with raw := text }, .nothing, []⟩
  | .commitRaw =>
    let guard := nonEmpty? (Text.strip e.raw)
    .ok ⟨e, .guard guard, [guard]⟩
  | .clear =>
    .ok ⟨{ e with tree := some (Group.draft .and), raw := "", lastFailure := none }, .nothing, [none]⟩

end Editing

end Statecraft.Guard
