import Statecraft.Proofs.Definition.ReadBack
import Statecraft.Proofs.Guard.RoundTrip

/-!
# What can be written

Scalars, lists and mappings have a text in either format, unless an integer in them is too long
(`IsWritable`). So has every tree that is read from a guard's text (`Group.exists_write_ofText`), and
every definition whose annotations have one (`Definition.exists_write`).
-/

namespace Statecraft

/-- Documents of scalars, lists and mappings with texts for keys, no integer of them too long. -/
inductive Document.IsWritable : Document → Prop
  | null : IsWritable .null
  | bool (b : Bool) : IsWritable (.bool b)
  | int {n : Int} : Decimal.isWritable n = true → IsWritable (.int n)
  | float (x : Float) : IsWritable (.float x)
  | text (s : String) : IsWritable (.text s)
  | list {items : List Document} : (∀ d ∈ items, IsWritable d) → IsWritable (.list items)
  | object {entries : List (String × Document)} : (∀ e ∈ entries, IsWritable e.2) →
      IsWritable (.object entries)

namespace Document.IsWritable

theorem composes : Json.Composes IsWritable := ⟨.text, .bool, .list, fun _ => .object⟩

theorem of_isData {d : Document} (h : Json.IsData d) : IsWritable d := by
  induction h with
  | null => exact .null
  | bool b => exact .bool b
  | int short => exact .int short
  | float => exact .float _
  | text s => exact .text s
  | list _ ih => exact .list ih
  | object _ _ ih => exact .object ih

end Document.IsWritable

namespace Json

variable {style : Style}

theorem exists_items {items : List Document}
    (h : ∀ d ∈ items, ∀ level within, ∃ t, style.value level within d = .ok t)
    (level : Nat) (within : List Nat) : ∃ t, style.items level within items = .ok t := by
  induction items with
  | nil => exact ⟨[], rfl⟩
  | cons d r ih =>
    rw [List.forall_mem_cons] at h
    obtain ⟨first, value⟩ := h.1 level within
    obtain ⟨others, rest⟩ := ih h.2
    exact ⟨_, by rw [Style.items, value, rest]; rfl⟩

theorem exists_members {entries : List (String × Document)}
    (h : ∀ e ∈ entries, ∀ level within, ∃ t, style.value level within e.2 = .ok t)
    (level : Nat) (within : List Nat) :
    ∃ t, style.members level within (entries.map fun e => (.text e.1, e.2)) = .ok t := by
  induction entries with
  | nil => exact ⟨[], rfl⟩
  | cons e r ih =>
    rw [List.forall_mem_cons] at h
    obtain ⟨first, value⟩ := h.1 level within
    obtain ⟨others, rest⟩ := ih h.2
    exact ⟨_, by rw [List.map_cons, Style.members, Style.key, value, rest]; rfl⟩

theorem exists_value (style : Style) {d : Document} (h : d.IsWritable) (level : Nat)
    (within : List Nat) :
    ∃ t, style.value level within d = .ok t := by
  induction h generalizing level within with
  | null | bool | float | text => exact ⟨_, by rw [Style.value]⟩
  | int short => exact ⟨_, by rw [Style.value, integer, if_pos short]⟩
  | @list items _ ih =>
    cases items with
    | nil => exact ⟨_, by rw [Style.value]⟩
    | cons d r =>
      rw [List.forall_mem_cons] at ih
      obtain ⟨first, value⟩ := ih.1 (level + 1) within
      obtain ⟨others, rest⟩ := exists_items ih.2 (level + 1) within
      exact ⟨_, by rw [Style.value, value, rest]; rfl⟩
  | @object entries _ ih =>
    cases entries with
    | nil => exact ⟨_, by rw [Document.object, List.map_nil, Style.value]⟩
    | cons e r =>
      rw [List.forall_mem_cons] at ih
      obtain ⟨first, value⟩ := ih.1 (level + 1) within
      obtain ⟨others, rest⟩ := exists_members ih.2 (level + 1) within
      exact ⟨_, by rw [Document.object, List.map_cons, Style.value, Style.key, value, rest]; rfl⟩

end Json

namespace Yaml

/-- The document has an outline, whatever has been anchored. -/
def HasOutline (anchors : Anchors) (d : Document) : Prop :=
  ∀ placed, ∃ o placed', (outlineAs anchors none d).run placed = .ok (o, placed')

variable {anchors : Anchors}

theorem exists_outlineItems {items : List Document} (h : ∀ d ∈ items, HasOutline anchors d)
    (placed : List String) :
    ∃ os placed', (outlineItems anchors items).run placed = .ok (os, placed') := by
  induction items generalizing placed with
  | nil => exact ⟨[], placed, rfl⟩
  | cons d r ih =>
    rw [List.forall_mem_cons] at h
    obtain ⟨o, placed', first⟩ := h.1 placed
    obtain ⟨os, placed'', rest⟩ := ih h.2 placed'
    refine ⟨o :: os, placed'', ?_⟩
    rw [outlineItems, StateT.run_bind, first]
    show ((outlineItems anchors r).run placed') >>= _ = _
    rw [rest]
    rfl

theorem exists_outlineEntries {entries : List (String × Document)}
    (h : ∀ e ∈ entries, HasOutline anchors e.2) (placed : List String) :
    ∃ os placed', (outlineEntries anchors (entries.map fun e => (.text e.1, e.2))).run placed =
      .ok (os, placed') := by
  induction entries generalizing placed with
  | nil => exact ⟨[], placed, rfl⟩
  | cons e r ih =>
    rw [List.forall_mem_cons] at h
    obtain ⟨o, placed', first⟩ := h.1 placed
    obtain ⟨os, placed'', rest⟩ := ih h.2 placed'
    refine ⟨(.scalar none .text e.1.toList, o) :: os, placed'', ?_⟩
    rw [List.map_cons, outlineEntries, outlineAs]
    show ((outlineAs anchors none e.2).run placed) >>= _ = _
    rw [first]
    show ((outlineEntries anchors _).run placed') >>= _ = _
    rw [rest]
    rfl

theorem HasOutline.of_isWritable {d : Document} (h : d.IsWritable) : HasOutline anchors d := by
  induction h with
  | null | bool | float | text => exact fun placed => ⟨_, placed, by rw [outlineAs]; rfl⟩
  | int short =>
    exact fun placed => ⟨_, placed, by rw [outlineAs, outlineInt, if_pos short]; rfl⟩
  | @list items _ ih =>
    intro placed
    obtain ⟨os, placed', read⟩ := exists_outlineItems ih placed
    refine ⟨.list none (items.all isInline) os, placed', ?_⟩
    rw [outlineAs]
    show ((outlineItems anchors _).run placed) >>= _ = _
    rw [read]
    rfl
  | @object entries _ ih =>
    intro placed
    obtain ⟨os, placed', read⟩ := exists_outlineEntries ih placed
    let inline := (entries.map fun e => (Document.text e.1, e.2)).all fun e =>
      isInline e.1 && isInline e.2
    refine ⟨.map none .map inline os, placed', ?_⟩
    rw [Document.object, outlineAs]
    show ((outlineEntries anchors _).run placed) >>= _ = _
    rw [read]
    rfl

theorem exists_write {d : Document} (h : d.IsWritable) : ∃ text, write d = .ok text := by
  have some_outline : HasOutline (anchorsOf d) d := .of_isWritable h
  obtain ⟨o, placed, outline⟩ := some_outline []
  exact ⟨o.text, by rw [write, Outline.ofDocument, outline]; rfl⟩

end Yaml

namespace Definition

variable {d : Definition}

theorem isWritable_toDocument (h : ∀ e ∈ d.annotations, e.2.IsWritable) :
    d.toDocument.IsWritable := by
  rw [toDocument_eq]
  refine .object fun e he => ?_
  rcases mem_entries he with data | annotations
  · exact .of_isData data
  · exact annotations ▸ .object h

/-- **A definition is written** in both formats if its annotations have texts. -/
theorem exists_write (h : ∀ e ∈ d.annotations, e.2.IsWritable) (format : Format) :
    ∃ text, d.write format = .ok text := by
  have document := isWritable_toDocument h
  cases format with
  | yaml =>
    obtain ⟨text, written⟩ := Yaml.exists_write document
    exact ⟨text, by rw [write, written]⟩
  | json =>
    obtain ⟨text, written⟩ := Json.exists_value Json.file document 0 []
    exact ⟨String.ofList text ++ "\n", by rw [write, Json.Style.write, written]; rfl⟩

end Definition

theorem Position.isWritable_toDocument (p : Position) : p.toDocument.IsWritable := by
  have coordinate : ∀ c : Coordinate, c.toDocument.IsWritable := by
    intro c
    cases c with
    | origin => exact .int (decide_eq_true (Decimal.tenTo_pos _))
    | «at» x => exact .float x
  exact .object (by simp [coordinate])

theorem Positions.isWritable_documentOf (ps : List (String × Position)) :
    (Positions.documentOf ps).IsWritable :=
  .object (List.forall_mem_map.mpr fun p _ => p.2.isWritable_toDocument)

theorem Annotations.mem_of_mem_set {a : Annotations} {key : String} {value : Document}
    {e : String × Document} (h : e ∈ a.set key value) : e ∈ a ∨ e = (key, value) := by
  unfold set at h
  split at h
  · obtain ⟨old, ho, rfl⟩ := List.mem_map.mp h
    by_cases same : old.1 = key
    · exact Or.inr (by simp [same])
    · exact Or.inl (by simpa [same] using ho)
  · exact (List.mem_append.mp h).imp_right List.mem_singleton.mp

/-- The definition of a graph is written if the earlier annotations are. -/
theorem Graph.exists_write_toDefinition (g : Graph) {prior : Annotations}
    (h : ∀ e ∈ prior, e.2.IsWritable) (key : String) (format : Format) :
    ∃ text, (g.toDefinition prior key).write format = .ok text := by
  refine Definition.exists_write (fun e he => ?_) format
  rcases Annotations.mem_of_mem_set he with old | rfl
  · exact h e old
  · exact Positions.isWritable_documentOf _

namespace Guard

theorem Value.isWritable_toDocument {v : Value} (h : v.IsParsed) : v.toDocument.IsWritable := by
  cases v with
  | null => exact .null
  | bool b => exact .bool b
  | int n => exact .int h
  | float x => exact .float x
  | text s => exact .text s

/-- **The tree that is read from a text is written.** -/
theorem Group.exists_write_ofText {text : String} {g : Group} (h : ofText text = .ok g)
    (style : Json.Style) : ∃ tree, style.write g.toDocument = .ok tree := by
  obtain ⟨t, parsed, rfl⟩ := ofText_isParsed h
  have document : (ofTree t).toDocument.IsWritable :=
    Tree.toDocument_of_values Document.IsWritable.composes _ fun c hc =>
      Value.isWritable_toDocument (parsed.conditions c (conditions_ofTree t ▸ hc)).value
  obtain ⟨tree, written⟩ := Json.exists_value style document 0 []
  exact ⟨String.ofList tree, by rw [Json.Style.write, written]; rfl⟩

end Guard

end Statecraft
