import Statecraft.Command.Guard
import Statecraft.Proofs.Json.ReadBack
import Statecraft.Proofs.Guard.Literal

/-!
# Trees read back from their data

A tree without an empty group is read from its data with every condition stored once more
(`Group.ofDocument_toDocument`), and so it is from the JSON text of these data if its values have
one (`Group.read_write`).
-/

namespace Statecraft

namespace Shape

variable {α β γ : Type}

theorem Checked.all_ok {check : α → Checked β} {f : γ → β} {g : γ → α} {xs : List γ}
    (h : ∀ x ∈ xs, check (g x) = .ok (f x)) (step : Nat → Step) :
    Checked.all ((xs.map g).mapIdx fun i x => (check x).within (step i)) = .ok (xs.map f) := by
  induction xs generalizing step with
  | nil => rfl
  | cons x r ih =>
    rw [List.forall_mem_cons] at h
    rw [List.map_cons, List.mapIdx_cons, Checked.all, h.1, ih h.2 fun i => step (i + 1)]
    rfl

/-- All items of a list pass. -/
theorem Checked.items_ok {check : α → Checked β} {f : γ → β} {g : γ → α} {xs : List γ}
    (h : ∀ x ∈ xs, check (g x) = .ok (f x)) : Checked.items check (xs.map g) = .ok (xs.map f) :=
  Checked.all_ok h fun i => .index i

section Keys

variable {entries : Document.Entries} {key : String} {absent : α} {d : Document} {a : α}
  {check : Document → Checked α}

theorem optional_ok (found : Document.Entries.get? entries key = some d) (h : check d = .ok a) :
    optional entries key absent check = .ok a := by
  rw [optional, found]
  show (check d).atKey key = .ok a
  rw [h]
  rfl

theorem required_ok (found : Document.Entries.get? entries key = some d) (h : check d = .ok a) :
    required entries key check = .ok a := by
  rw [required, found]
  show (check d).atKey key = .ok a
  rw [h]
  rfl

theorem oneOf_ok {names : List String} {of : String → Option α} {kind : List String → Kind}
    {s : String} (h : of s = some a) : oneOf names of kind (.text s) = .ok a := by
  unfold oneOf
  simp only [Document.content, h]

end Keys

end Shape

namespace Guard

/-- The condition stored once more. -/
def Condition.reloaded (c : Condition) : Condition := .of c.field c.operator c.value c.negated

namespace Tree

mutual

/-- The tree with its conditions stored once more. -/
def reloaded : Tree → Tree
  | .leaf c => .leaf c.reloaded
  | .group l items n => .group l (reloadedList items) n

def reloadedList : List Tree → List Tree
  | [] => []
  | t :: r => t.reloaded :: reloadedList r

end

/-- No group is empty. -/
inductive IsFilled : Tree → Prop
  | leaf (c : Condition) : IsFilled (.leaf c)
  | group {l : Logic} {items : List Tree} {n : Bool} :
      items ≠ [] → (∀ t ∈ items, IsFilled t) → IsFilled (.group l items n)

theorem reloadedList_eq_map (items : List Tree) : reloadedList items = items.map reloaded := by
  induction items with
  | nil => rfl
  | cons t r ih => rw [reloadedList, ih, List.map_cons]

theorem toDocuments_eq_map (items : List Tree) : toDocuments items = items.map toDocument := by
  induction items with
  | nil => rfl
  | cons t r ih => rw [toDocuments, ih, List.map_cons]

end Tree

def Group.reloaded (g : Group) : Group := ⟨g.logic, Tree.reloadedList g.items, g.negated⟩

theorem Logic.ofName?_name (l : Logic) : ofName? l.name = some l := by
  cases l <;> decide

section Read

open Shape (Checked)

variable {fuel : Nat} {entries : Document.Entries}

theorem Value.ofDocument_toDocument (v : Value) : Value.ofDocument v.toDocument = .ok v := by
  cases v <;> rfl

theorem Operator.ofDocument_name (op : Operator) :
    Operator.ofDocument (.text op.name) = .ok op :=
  Shape.oneOf_ok (ofName?_name op)

theorem Logic.ofDocument_name (l : Logic) : Logic.ofDocument (.text l.name) = .ok l :=
  Shape.oneOf_ok (ofName?_name l)

theorem checkTag_ok {tag : String}
    (found : Document.Entries.get? entries "type" = some (.text tag)) :
    checkTag tag entries = .ok () :=
  Shape.optional_ok found (Shape.oneOf_ok (by simp))

theorem Condition.ofEntries_ok {field : String} {op : Operator} {v : Value} {n : Bool}
    (tag : Document.Entries.get? entries "type" = some (.text "condition"))
    (named : Document.Entries.get? entries "field" = some (.text field))
    (compared : Document.Entries.get? entries "operator" = some (.text op.name))
    (value : Shape.optional entries "value" .null Value.ofDocument = .ok v)
    (negated : Document.Entries.get? entries "negated" = some (.bool n)) :
    ofEntries entries = .ok (of field op v n) := by
  have named' : Shape.optional entries "field" "" Shape.text = .ok field :=
    Shape.optional_ok named rfl
  have compared' : Shape.optional entries "operator" .exists Operator.ofDocument = .ok op :=
    Shape.optional_ok compared (Operator.ofDocument_name op)
  have negated' : Shape.optional entries "negated" false Shape.boolean = .ok n :=
    Shape.optional_ok negated rfl
  unfold ofEntries
  rw [checkTag_ok tag, named', compared', value, negated']
  rfl

theorem itemOf_condition {c : Condition}
    (tag : Document.Entries.get? entries "type" = some (.text "condition"))
    (h : Condition.ofEntries entries = .ok c) :
    itemOf (fuel + 1) (.map entries) = .ok (.leaf c) := by
  simp [itemOf, Document.content, tag, h, Checked.map, Checked.atKey, Checked.within]

theorem itemOf_group {g : Group}
    (tag : Document.Entries.get? entries "type" = some (.text "group"))
    (h : groupOf fuel entries = .ok g) : itemOf (fuel + 1) (.map entries) = .ok g.toTree := by
  simp [itemOf, Document.content, tag, h, Checked.map, Checked.atKey, Checked.within]

theorem Condition.toDocument_comparison {c : Condition} (needs : c.operator.needsValue = true) :
    c.toDocument = .object [("type", .text "condition"), ("field", .text c.field),
      ("operator", .text c.operator.name), ("value", c.value.toDocument),
      ("negated", .bool c.negated)] := by
  simp [toDocument, needs, Document.objectOf]

theorem Condition.toDocument_unary {c : Condition} (unary : c.operator.needsValue = false) :
    c.toDocument = .object [("type", .text "condition"), ("field", .text c.field),
      ("operator", .text c.operator.name), ("negated", .bool c.negated)] := by
  simp [toDocument, unary, Document.objectOf]

/-- **A condition is read from its data** as it is stored once more. -/
theorem Condition.itemOf_toDocument (c : Condition) :
    itemOf (fuel + 1) c.toDocument = .ok (.leaf c.reloaded) := by
  cases needs : c.operator.needsValue with
  | true =>
    rw [toDocument_comparison needs]
    exact itemOf_condition rfl (ofEntries_ok rfl rfl rfl
      (Shape.optional_ok rfl (Value.ofDocument_toDocument c.value)) rfl)
  | false =>
    have no_value : of c.field c.operator c.value c.negated =
        of c.field c.operator .null c.negated := by
      simp [of, needs]
    rw [toDocument_unary needs, reloaded, no_value]
    exact itemOf_condition rfl (ofEntries_ok rfl rfl rfl rfl rfl)

/-- The entries of a group's data. -/
def groupEntries (l : Logic) (items : List Tree) (n : Bool) : Document.Entries :=
  [(.text "type", .text "group"), (.text "logic", .text l.name),
    (.text "items", .list (Tree.toDocuments items)), (.text "negated", .bool n)]

theorem depth_groupEntries (l : Logic) (items : List Tree) (n : Bool) :
    Document.depthEntries (groupEntries l items n) =
      Document.depthList (Tree.toDocuments items) + 1 := by
  simp [groupEntries, Document.depthEntries, Document.depth]

theorem le_depthList {t : Tree} {items : List Tree} (h : t ∈ items) :
    t.toDocument.depth ≤ Document.depthList (Tree.toDocuments items) := by
  induction items with
  | nil => cases h
  | cons u r ih =>
    rw [Tree.toDocuments, Document.depthList]
    rcases List.mem_cons.mp h with rfl | h
    · exact Nat.le_max_left _ _
    · exact (ih h).trans (Nat.le_max_right _ _)

/-- A group is read from its data if its items are. -/
theorem groupOf_groupEntries (l : Logic) {items : List Tree} (n : Bool) (some_item : items ≠ [])
    (read : ∀ t ∈ items, itemOf fuel t.toDocument = .ok t.reloaded) :
    groupOf (fuel + 1) (groupEntries l items n) = .ok ⟨l, Tree.reloadedList items, n⟩ := by
  have logic : Shape.optional (groupEntries l items n) "logic" .and Logic.ofDocument = .ok l :=
    Shape.optional_ok rfl (Logic.ofDocument_name l)
  have negated : Shape.optional (groupEntries l items n) "negated" false Shape.boolean = .ok n :=
    Shape.optional_ok rfl rfl
  have documents : (Tree.toDocuments items).isEmpty = false := by
    rw [Tree.toDocuments_eq_map]
    simpa using some_item
  have all : Checked.items (itemOf fuel) (Tree.toDocuments items) =
      .ok (Tree.reloadedList items) := by
    rw [Tree.toDocuments_eq_map, Tree.reloadedList_eq_map]
    exact Checked.items_ok read
  have listed : Shape.required (groupEntries l items n) "items" (fun d =>
      (Shape.list d).andThen fun ds =>
        if ds.isEmpty then .fail (.tooFew .list) else Checked.items (itemOf fuel) ds) =
      .ok (Tree.reloadedList items) := by
    refine Shape.required_ok rfl ?_
    show (if (Tree.toDocuments items).isEmpty then _ else _) = _
    rw [documents, all]
    rfl
  unfold groupOf
  rw [checkTag_ok rfl, logic, listed, negated]
  rfl

/-- **A tree is read from its data**, with fuel for each collection in them. -/
theorem Tree.IsFilled.itemOf_toDocument {t : Tree} (h : t.IsFilled) {fuel : Nat}
    (enough : t.toDocument.depth ≤ fuel) : itemOf fuel t.toDocument = .ok t.reloaded := by
  induction h generalizing fuel with
  | leaf c =>
    obtain ⟨fuel, rfl⟩ := Nat.exists_add_one_eq.mpr (Nat.lt_of_lt_of_le (Nat.zero_lt_succ _) enough)
    exact c.itemOf_toDocument
  | @group l items n some_item _ ih =>
    have depth : (Document.map (groupEntries l items n)).depth =
        Document.depthList (toDocuments items) + 2 := by
      rw [Document.depth, depth_groupEntries]
    have deep : Document.depthList (toDocuments items) + 2 ≤ fuel := depth ▸ enough
    obtain ⟨fuel, rfl⟩ := Nat.exists_eq_add_of_le' deep
    have read : ∀ t ∈ items, itemOf (fuel + Document.depthList (toDocuments items)) t.toDocument =
        .ok t.reloaded :=
      fun t ht => ih t ht (Nat.le_add_left_of_le (le_depthList ht))
    exact itemOf_group rfl (groupOf_groupEntries l n some_item read)

/-- **A guard is read from its data** with its conditions stored once more. -/
theorem Group.ofDocument_toDocument {g : Group} (h : g.toTree.IsFilled) :
    ofDocument g.toDocument = .ok (some g.reloaded) := by
  obtain ⟨l, items, n⟩ := g
  cases h with
  | group some_item filled =>
    have read : groupOf (2 * (Document.map (groupEntries l items n)).depth + 2)
        (groupEntries l items n) = .ok ⟨l, Tree.reloadedList items, n⟩ := by
      refine groupOf_groupEntries l n some_item fun t ht => (filled t ht).itemOf_toDocument ?_
      have deep := le_depthList ht
      rw [Document.depth, depth_groupEntries]
      omega
    exact congrArg (Checked.map some) read

end Read

section Written

open Json (Composes IsData)

theorem Value.isData_toDocument {v : Value} (h : v.IsReadable) : IsData v.toDocument := by
  cases v with
  | null => exact .null
  | bool b => exact .bool b
  | int n => exact .int h
  | float x => exact .float h
  | text s => exact .text s

section Composes

variable {P : Document → Prop}

theorem Condition.toDocument_of_value (composes : Composes P) {c : Condition}
    (value : P c.value.toDocument) : P c.toDocument := by
  cases needs : c.operator.needsValue with
  | true =>
    rw [toDocument_comparison needs]
    exact composes.object (by simp) (by simp [composes.text, composes.bool, value])
  | false =>
    rw [toDocument_unary needs]
    exact composes.object (by simp) (by simp [composes.text, composes.bool])

mutual

/-- What the values in a tree have, the tree has. -/
theorem Tree.toDocument_of_values (composes : Composes P) (t : Tree)
    (h : ∀ c ∈ t.conditions, P c.value.toDocument) : P t.toDocument := by
  cases t with
  | leaf c => exact c.toDocument_of_value composes (h c (List.mem_singleton_self c))
  | group l items n =>
    have listed : P (.list (toDocuments items)) :=
      composes.list (toDocuments_of_values composes items h)
    exact composes.object (by simp) (by simp [composes.text, composes.bool, listed])

theorem Tree.toDocuments_of_values (composes : Composes P) (items : List Tree)
    (h : ∀ c ∈ conditionsList items, P c.value.toDocument) : ∀ d ∈ toDocuments items, P d := by
  cases items with
  | nil => exact List.forall_mem_nil _
  | cons t r =>
    refine List.forall_mem_cons.mpr ⟨toDocument_of_values composes t fun c hc => ?_,
      toDocuments_of_values composes r fun c hc => ?_⟩
    · exact h c (List.mem_append_left _ hc)
    · exact h c (List.mem_append_right _ hc)

end

end Composes

/-- **A guard is written and read back** through JSON: the text has the data of the guard, and
these stand for the guard with its conditions stored once more. -/
theorem Group.read_write {style : Json.Style} (exact : style.IsExact) {g : Group}
    (filled : g.toTree.IsFilled) (readable : ∀ c ∈ g.conditions, c.value.IsReadable) :
    ∃ text, style.write g.toDocument = .ok text ∧ Json.read text = .ok g.toDocument ∧
      ofDocument g.toDocument = .ok (some g.reloaded) := by
  have data : IsData g.toDocument := g.toTree.toDocument_of_values IsData.composes
    fun c hc => Value.isData_toDocument (readable c hc)
  obtain ⟨text, written, read⟩ := Json.read_write exact data
  exact ⟨text, written, read, ofDocument_toDocument filled⟩

end Written

end Guard

theorem Command.treeStyle_isExact : treeStyle.IsExact := ⟨rfl, rfl⟩

end Statecraft
