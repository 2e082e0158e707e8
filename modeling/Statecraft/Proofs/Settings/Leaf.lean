import Statecraft.Proofs.Document.Overlay
import Statecraft.Proofs.Shape.Checked
import Statecraft.Settings.Layers

/-!
# Settings one by one

`leaves` lists the settings: where each one stands in entries, how its value is checked, and where
it goes. Entries give settings exactly if their sections are mappings and each leaf takes what
stands in its place, or else its default (`ofDocument_eq_ok`); and they do if each of these values
passes its check (`exists_takes`).
-/

namespace Statecraft

open Shape (Checked)

namespace Settings

/-- A single setting. -/
structure Leaf where
  Value : Type
  part : Option Section
  key : String
  check : Document → Checked Value
  of : Settings → Value

namespace Leaf

def top : List Leaf := [
  ⟨Bool, none, "debug", Shape.boolean, debug⟩,
  ⟨LogLevel, none, "log_level", LogLevel.ofDocument, logLevel⟩]

def layout : List Leaf := [
  ⟨Layout.Direction, some .layout, "direction", Layout.Direction.ofDocument, (·.layout.direction)⟩,
  ⟨Float, some .layout, "node_width", Layout.positive, (·.layout.nodeWidth)⟩,
  ⟨Float, some .layout, "node_height", Layout.positive, (·.layout.nodeHeight)⟩,
  ⟨Float, some .layout, "node_sep", Layout.notNegative, (·.layout.nodeSep)⟩,
  ⟨Float, some .layout, "rank_sep", Layout.notNegative, (·.layout.rankSep)⟩,
  ⟨Float, some .layout, "margin_x", Layout.notNegative, (·.layout.marginX)⟩,
  ⟨Float, some .layout, "margin_y", Layout.notNegative, (·.layout.marginY)⟩]

def grid : List Leaf := [
  ⟨Float, some .grid, "spacing_x", Layout.positive, (·.grid.spacingX)⟩,
  ⟨Float, some .grid, "spacing_y", Layout.positive, (·.grid.spacingY)⟩,
  ⟨Float, some .grid, "offset_x", Shape.number, (·.grid.offsetX)⟩,
  ⟨Float, some .grid, "offset_y", Shape.number, (·.grid.offsetY)⟩]

def editor : List Leaf := [
  ⟨String, some .editor, "positions_key", nonEmptyText, (·.editor.positionsKey)⟩,
  ⟨String, some .editor, "default_event", nonEmptyText, (·.editor.defaultEvent)⟩,
  ⟨String, some .editor, "default_state_name", nonEmptyText, (·.editor.defaultState)⟩,
  ⟨Float, some .editor, "new_state_offset_x", Shape.number, (·.editor.newStateDistance)⟩,
  ⟨Bool, some .editor, "auto_layout_on_load", Shape.boolean, (·.editor.layoutOnLoad)⟩]

/-- What comes of a value for the leaf, or of none. -/
def outcome (l : Leaf) (d? : Option Document) : Checked l.Value :=
  Shape.outcome (l.of Settings.default) l.check d?

/-- The leaf of the settings is the given value, or the default if there is none. -/
def Takes (l : Leaf) (d? : Option Document) (s : Settings) : Prop := l.outcome d? = .ok (l.of s)

/-- What entries give for the leaf; a section that is no mapping gives nothing. -/
def given (l : Leaf) (entries : Document.Entries) : Option Document :=
  match l.part with
  | none => entries.get? l.key
  | some sec => (entries.get? sec.name).bind (·.get? l.key)

theorem given_of_outside {l : Leaf} (part : l.part = none) (entries : Document.Entries) :
    l.given entries = entries.get? l.key := by
  rw [given, part]

theorem given_of_inside {l : Leaf} {sec : Section} (part : l.part = some sec)
    (entries : Document.Entries) :
    l.given entries = (entries.get? sec.name).bind (·.get? l.key) := by
  rw [given, part]

theorem given_nil (l : Leaf) : l.given [] = none := by
  unfold given
  cases l.part <;> rfl

end Leaf

def leaves : List Leaf := Leaf.top ++ Leaf.layout ++ Leaf.grid ++ Leaf.editor

theorem forall_leaves {P : Leaf → Prop} : (∀ l ∈ leaves, P l) ↔ (∀ l ∈ Leaf.top, P l) ∧
    (∀ l ∈ Leaf.layout, P l) ∧ (∀ l ∈ Leaf.grid, P l) ∧ ∀ l ∈ Leaf.editor, P l := by
  simp only [leaves, List.forall_mem_append, and_assoc]

namespace Leaf

theorem key_mem_topKeys {l : Leaf} (known : l ∈ leaves) (outside : l.part = none) :
    l.key ∈ topKeys := by
  revert l
  simp [forall_leaves, top, layout, grid, editor, topKeys]

/-- No leaf tells one mapping from another. -/
theorem check_map {l : Leaf} (known : l ∈ leaves) (es fs : Document.Entries) :
    l.check (.map es) = l.check (.map fs) := by
  revert l
  simp only [forall_leaves, top, layout, grid, editor, List.forall_mem_cons, List.not_mem_nil,
    false_implies, implies_true, and_true]
  exact ⟨⟨rfl, rfl⟩, ⟨rfl, rfl, rfl, rfl, rfl, rfl, rfl⟩, ⟨rfl, rfl, rfl, rfl⟩, rfl, rfl, rfl, rfl,
    rfl⟩

theorem check_onTop {l : Leaf} (known : l ∈ leaves) (below : Option Document) (d : Document) :
    l.check (d.onTop below) = l.check d := by
  rcases Document.onTop_eq below d with same | ⟨es, lower, rfl, -, laid⟩
  · rw [same]
  · rw [laid]
    exact check_map known _ _

end Leaf

section Reading

variable {s : Settings}

/-- A section of the settings is read from a mapping, leaf by leaf. -/
theorem section_eq_ok {β : Type} {ofDocument : Document → Checked β} {read : Settings → β}
    {part : List Leaf} {name : String} (sec : Section) (absent : β)
    (fields : ∀ es, ofDocument (.map es) = .ok (read s) ↔
      ∀ l ∈ part, l.Takes (Document.Entries.get? es l.key) s)
    (shape : ∀ d, ofDocument d = (Shape.record name d).andThen fun es => ofDocument (.map es))
    (start : ofDocument (.map []) = .ok absent) (inside : ∀ l ∈ part, l.part = some sec)
    (entries : Document.Entries) :
    Shape.outcome absent ofDocument (entries.get? sec.name) = .ok (read s) ↔
      (∀ d ∈ entries.get? sec.name, d.IsMapping) ∧ ∀ l ∈ part, l.Takes (l.given entries) s := by
  have given : ∀ l ∈ part, l.given entries = (entries.get? sec.name).bind (·.get? l.key) :=
    fun l hl => Leaf.given_of_inside (inside l hl) entries
  cases found : entries.get? sec.name with
  | none =>
    have nothing : ∀ k, Document.Entries.get? [] k = none := fun _ => rfl
    rw [Shape.outcome, ← start, fields []]
    simp +contextual [given, found, nothing]
  | some d =>
    rw [Shape.outcome, shape]
    cases content : d.content with
    | map es =>
      have get : ∀ k, d.get? k = Document.Entries.get? es k := fun k => by
        simp [Document.get?, content]
      simp +contextual [Shape.record, content, fields, given, found, get, Document.IsMapping]
    | _ => simp [Shape.record, content, Checked.andThen, Checked.fail, Document.IsMapping]

theorem layout_eq_ok (entries : Document.Entries) :
    Layout.Config.ofDocument (.map entries) = .ok s.layout ↔
      ∀ l ∈ Leaf.layout, l.Takes (entries.get? l.key) s := by
  obtain ⟨_, _, ⟨_, _, _, _, _, _, _⟩, _, _⟩ := s
  simp [Leaf.layout, Leaf.Takes, Leaf.outcome, Layout.Config.ofDocument, Shape.record,
    Document.content, Layout.Config.ofEntries, Checked.both_eq_ok, Shape.optional_eq_ok,
    Settings.default, and_assoc]

theorem grid_eq_ok (entries : Document.Entries) :
    Layout.Grid.ofDocument (.map entries) = .ok s.grid ↔
      ∀ l ∈ Leaf.grid, l.Takes (entries.get? l.key) s := by
  obtain ⟨_, _, _, ⟨_, _, _, _⟩, _⟩ := s
  simp [Leaf.grid, Leaf.Takes, Leaf.outcome, Layout.Grid.ofDocument, Shape.record,
    Document.content, Layout.Grid.ofEntries, Checked.both_eq_ok, Shape.optional_eq_ok,
    Settings.default, and_assoc]

theorem editor_eq_ok (entries : Document.Entries) :
    EditorConfig.ofDocument (.map entries) = .ok s.editor ↔
      ∀ l ∈ Leaf.editor, l.Takes (entries.get? l.key) s := by
  obtain ⟨_, _, _, _, ⟨_, _, _, _, _⟩⟩ := s
  simp [Leaf.editor, Leaf.Takes, Leaf.outcome, EditorConfig.ofDocument, Shape.record,
    Document.content, Checked.both_eq_ok, Shape.optional_eq_ok, Settings.default, and_assoc,
    -Bool.exists_bool]

/-- What the parts of the settings are made of. -/
theorem ofDocument_eq_ok_parts (entries : Document.Entries) : ofDocument (.map entries) = .ok s ↔
    (∀ l ∈ Leaf.top, l.Takes (l.given entries) s) ∧
    Shape.outcome default.layout Layout.Config.ofDocument (entries.get? "layout") = .ok s.layout ∧
    Shape.outcome default.grid Layout.Grid.ofDocument (entries.get? "grid") = .ok s.grid ∧
    Shape.outcome default.editor EditorConfig.ofDocument (entries.get? "editor") =
      .ok s.editor := by
  obtain ⟨_, _, _, _, _⟩ := s
  simp [ofDocument, Shape.record, Document.content, Checked.both_eq_ok, Shape.optional_eq_ok,
    Leaf.top, Leaf.Takes, Leaf.outcome, Leaf.given, and_assoc, -Bool.exists_bool]

/-- **Entries give settings** exactly if their sections are mappings and each leaf takes what stands
in its place. -/
theorem ofDocument_eq_ok (entries : Document.Entries) : ofDocument (.map entries) = .ok s ↔
    (∀ sec : Section, ∀ d ∈ entries.get? sec.name, d.IsMapping) ∧
      ∀ l ∈ leaves, l.Takes (l.given entries) s := by
  have layout := section_eq_ok .layout default.layout (layout_eq_ok (s := s)) (fun _ => rfl) rfl
    (by simp [Leaf.layout]) entries
  have grid := section_eq_ok .grid default.grid (grid_eq_ok (s := s)) (fun _ => rfl) rfl
    (by simp [Leaf.grid]) entries
  have editor := section_eq_ok .editor default.editor (editor_eq_ok (s := s)) (fun _ => rfl) rfl
    (by simp [Leaf.editor]) entries
  rw [ofDocument_eq_ok_parts, forall_leaves]
  constructor
  · rintro ⟨top, layoutOk, gridOk, editorOk⟩
    obtain ⟨layoutMapped, layout⟩ := layout.mp layoutOk
    obtain ⟨gridMapped, grid⟩ := grid.mp gridOk
    obtain ⟨editorMapped, editor⟩ := editor.mp editorOk
    refine ⟨fun sec => ?_, top, layout, grid, editor⟩
    cases sec with
    | layout => exact layoutMapped
    | grid => exact gridMapped
    | editor => exact editorMapped
  · rintro ⟨mapped, top, layouts, grids, editors⟩
    exact ⟨top, layout.mpr ⟨mapped .layout, layouts⟩, grid.mpr ⟨mapped .grid, grids⟩,
      editor.mpr ⟨mapped .editor, editors⟩⟩

/-- Values that pass the checks are the leaves of some settings. -/
theorem exists_takes (f : Leaf → Option Document) :
    (∃ s, ∀ l ∈ leaves, l.Takes (f l) s) ↔ ∀ l ∈ leaves, (l.outcome (f l)).IsOk := by
  constructor
  · rintro ⟨s, takes⟩ l hl
    exact ⟨l.of s, takes l hl⟩
  · intro passes
    simp only [forall_leaves, Leaf.top, Leaf.layout, Leaf.grid, Leaf.editor,
      List.forall_mem_cons] at passes
    obtain ⟨⟨⟨debug, h₁⟩, ⟨level, h₂⟩, -⟩, ⟨⟨direction, h₃⟩, ⟨nodeWidth, h₄⟩, ⟨nodeHeight, h₅⟩,
      ⟨nodeSep, h₆⟩, ⟨rankSep, h₇⟩, ⟨marginX, h₈⟩, ⟨marginY, h₉⟩, -⟩, ⟨⟨spacingX, h₁₀⟩,
      ⟨spacingY, h₁₁⟩, ⟨offsetX, h₁₂⟩, ⟨offsetY, h₁₃⟩, -⟩, ⟨key, h₁₄⟩, ⟨event, h₁₅⟩, ⟨state, h₁₆⟩,
      ⟨distance, h₁₇⟩, ⟨onLoad, h₁₈⟩, -⟩ := passes
    refine ⟨⟨debug, level, ⟨direction, nodeWidth, nodeHeight, nodeSep, rankSep, marginX, marginY⟩,
      ⟨spacingX, spacingY, offsetX, offsetY⟩, ⟨key, event, state, distance, onLoad⟩⟩, ?_⟩
    simp only [forall_leaves, Leaf.top, Leaf.layout, Leaf.grid, Leaf.editor, List.forall_mem_cons]
    exact ⟨⟨h₁, h₂, by simp⟩, ⟨h₃, h₄, h₅, h₆, h₇, h₈, h₉, by simp⟩, ⟨h₁₀, h₁₁, h₁₂, h₁₃, by simp⟩,
      h₁₄, h₁₅, h₁₆, h₁₇, h₁₈, by simp⟩

end Reading

end Settings

end Statecraft
