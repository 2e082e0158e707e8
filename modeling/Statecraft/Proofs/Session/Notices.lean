import Statecraft.Proofs.Graph.Addressing
import Statecraft.Proofs.Session.Reachable

/-!
# What the listener hears

An edit that is turned down is silent: it leaves the session as it was. The reasons are that it
names a node or an edge that is not there (`Edit.Misses`) and that it makes no sense for those that
are (`Edit.Idle`). Two edits are carried out although they miss something: a deletion of an edge
that is not there, which changes nothing and is heard, and the removal of a source that is no node
(`Edit.RemovesStray`). Main statement: `Session.apply_silent_iff`.
-/

namespace Statecraft

namespace Edit

/-- The nodes that an edit names by their ids. -/
@[simp]
def nodesNamed : Edit → List String
  | .renameState node _ | .deleteState node | .setInitial node | .moveState node _ => [node]
  | .connect source target _ _ => [source, target]
  | .retarget _ target => [target]
  | .addSource _ state | .removeSource _ state => [state]
  | .addState .. | .deleteEdge _ | .setEvent .. | .setGuard .. | .layout .. => []

/-- The edge that an edit names by its id. -/
@[simp]
def edgeNamed? : Edit → Option String
  | .retarget edge _ | .deleteEdge edge | .setEvent edge _ | .setGuard edge _
  | .addSource edge _ | .removeSource edge _ => some edge
  | _ => none

/-- The edit names a node or an edge that the graph does not have. -/
def Misses (g : Graph) (e : Edit) : Prop :=
  (∃ n ∈ e.nodesNamed, n ∉ g.nodeIds) ∨ ∃ i ∈ e.edgeNamed?, g.edge? i = none

/-- The edit makes no sense for the node or edge that it names. -/
@[simp]
def Idle (g : Graph) : Edit → Prop
  | .renameState node name =>
    Text.strip name = "" ∨ ∃ n ∈ g.nodes, n.id ≠ node ∧ n.label = Text.strip name
  | .addSource edge state => ∃ f ∈ g.edge? edge, state ∈ f.sources
  | .removeSource edge state => ∃ f ∈ g.edge? edge, state ∉ f.sources ∨ f.sources.length = 1
  | _ => False

/-- The edit takes from an edge a source that is no node, and another is left. -/
@[simp]
def RemovesStray (g : Graph) : Edit → Prop
  | .removeSource edge state =>
    state ∉ g.nodeIds ∧ ∃ f ∈ g.edge? edge, state ∈ f.sources ∧ f.sources.length ≠ 1
  | _ => False

/-- The edit deletes an edge. -/
@[simp]
def DeletesEdge : Edit → Prop
  | .deleteEdge _ => True
  | _ => False

end Edit

namespace Graph

variable {g : Graph}

theorem updateEdge_eq_none_iff {i : String} {change : Edge → Edge} :
    g.updateEdge i change = none ↔ g.edge? i = none := by
  cases found : g.edge? i <;> simp [updateEdge, found]

theorem renameState_eq_none_iff {node name : String} :
    g.renameState node name = none ↔ node ∉ g.nodeIds ∨ (Edit.renameState node name).Idle g := by
  simp only [renameState, Edit.Idle, ← hasNode_iff]
  split <;> simp_all [or_assoc]

theorem deleteState_eq_none_iff {node : String} :
    g.deleteState node = none ↔ node ∉ g.nodeIds := by
  simp [deleteState, ← hasNode_iff]

theorem setInitial_eq_none_iff {node : String} :
    g.setInitial node = none ↔ node ∉ g.nodeIds := by
  simp [setInitial, ← hasNode_iff]

theorem moveState_eq_none_iff {node : String} {position : Position} :
    g.moveState node position = none ↔ node ∉ g.nodeIds := by
  simp [moveState, ← hasNode_iff]

theorem connect_eq_none_iff {source target event : String} {guard : Option String} :
    g.connect source target event guard = none ↔ source ∉ g.nodeIds ∨ target ∉ g.nodeIds := by
  simp [connect, ← hasNode_iff, imp_iff_not_or]

theorem retarget_eq_none_iff {edge target : String} :
    g.retarget edge target = none ↔ target ∉ g.nodeIds ∨ g.edge? edge = none := by
  simp [retarget, ← hasNode_iff, updateEdge_eq_none_iff, imp_iff_not_or]

theorem addSource_eq_none_iff {edge state : String} :
    g.addSource edge state = none ↔
      (state ∉ g.nodeIds ∨ g.edge? edge = none) ∨ (Edit.addSource edge state).Idle g := by
  cases found : g.edge? edge with
  | none => simp [addSource, found]
  | some f =>
    simp [addSource, found, updateEdge_eq_none_iff, ← hasNode_iff, imp_iff_not_or]

theorem removeSource_eq_none_iff {edge state : String} :
    g.removeSource edge state = none ↔
      g.edge? edge = none ∨ (Edit.removeSource edge state).Idle g := by
  cases found : g.edge? edge with
  | none => simp [removeSource, found]
  | some f => simp [removeSource, found, updateEdge_eq_none_iff, imp_iff_not_or]

/-- When an edit is turned down. -/
theorem edit?_eq_none_iff {e : Edit} :
    g.edit? e = none ↔ e.Misses g ∧ ¬ e.DeletesEdge ∧ ¬ e.RemovesStray g ∨ e.Idle g := by
  unfold Edit.Misses
  cases e with
  | addState name position fallback distance => simp [edit?]
  | renameState node name => simp [edit?, renameState_eq_none_iff]
  | deleteState node => simp [edit?, deleteState_eq_none_iff]
  | setInitial node => simp [edit?, setInitial_eq_none_iff]
  | moveState node position => simp [edit?, moveState_eq_none_iff]
  | connect source target event guard => simp [edit?, connect_eq_none_iff]
  | retarget edge target => simp [edit?, retarget_eq_none_iff]
  | deleteEdge edge => simp [edit?]
  | setEvent edge event => simp [edit?, setEvent, updateEdge_eq_none_iff]
  | setGuard edge guard => simp [edit?, setGuard, updateEdge_eq_none_iff]
  | addSource edge state => simp [edit?, addSource_eq_none_iff]
  | removeSource edge state =>
    cases found : g.edge? edge with
    | none => simp [edit?, removeSource_eq_none_iff, found]
    | some f =>
      -- a source that is listed goes unless it is the last one, be it a node or not
      simpa [edit?, removeSource_eq_none_iff, found] using
        fun stray last => imp_iff_not_or.mp (last stray)
  | layout direction config => simp [edit?]

/-- The sources of the edges of a well-formed graph are nodes. -/
theorem WellFormed.not_removesStray (h : g.WellFormed) (e : Edit) : ¬ e.RemovesStray g := by
  cases e with
  | removeSource edge state =>
    rintro ⟨stray, f, found, listed, _⟩
    exact stray ((h.edges_sound f (edge?_mem found)).sources_known state listed)
  | _ => exact id

end Graph

namespace Session

theorem apply_of_edit?_none {s : Session} {e : Edit} (h : s.graph.edit? e = none) :
    s.apply e = (s, none) := by
  simp [apply, h]

theorem apply_of_edit?_some {s : Session} {e : Edit} {g : Graph} (h : s.graph.edit? e = some g) :
    s.apply e = ({ s with graph := g }, some ({ s with graph := g } : Session).notice) := by
  simp [apply, h]

/-- An edit that names something missing changes nothing, unless it removes a stray source. -/
theorem apply_of_misses {s : Session} {e : Edit} (missing : e.Misses s.graph)
    (stray : ¬ e.RemovesStray s.graph) : (s.apply e).1 = s := by
  cases edited : s.graph.edit? e with
  | none => rw [apply_of_edit?_none edited]
  | some g =>
    have refused : ¬ (e.Misses s.graph ∧ ¬ e.DeletesEdge ∧ ¬ e.RemovesStray s.graph) := by
      intro h
      rw [Graph.edit?_eq_none_iff.mpr (Or.inl h)] at edited
      cases edited
    rw [apply_of_edit?_some edited]
    cases e with
    | deleteEdge i =>
      have same : s.graph.deleteEdge i = s.graph :=
        Graph.deleteEdge_of_missing (by simpa [Edit.Misses] using missing)
      rw [← Option.some.inj edited, same]
    | _ => exact absurd ⟨missing, id, stray⟩ refused

/-- **The listener hears of an edit exactly if it is carried out**, with the definition and the
check of the new graph. An edit that is not heard of leaves the session as it was. So does one that
names a node or an edge that is not there, but a deletion of an edge is heard of all the same, and
a source that is no node can be removed. In a well-formed graph there are no such sources. -/
theorem apply_silent_iff (s : Session) (e : Edit) :
    ((s.apply e).2 = none ↔
      e.Misses s.graph ∧ ¬ e.DeletesEdge ∧ ¬ e.RemovesStray s.graph ∨ e.Idle s.graph) ∧
    ((s.apply e).2 = none → (s.apply e).1 = s) ∧
    (e.Misses s.graph → ¬ e.RemovesStray s.graph → (s.apply e).1 = s) ∧
    ((s.apply e).1.graph ≠ s.graph → (s.apply e).2 = some (s.apply e).1.notice) ∧
    (s.graph.WellFormed → ¬ e.RemovesStray s.graph) := by
  refine ⟨?_, ?_, apply_of_misses, ?_, fun h => h.not_removesStray e⟩
  · rw [← Graph.edit?_eq_none_iff]
    cases edited : s.graph.edit? e <;> simp [apply, edited]
  · cases edited : s.graph.edit? e <;> simp [apply, edited]
  · cases edited : s.graph.edit? e <;> simp [apply, edited]

/-- An edge is led to a state that is not there. -/
theorem apply_silent_iff_missing :
    let s := (ofDefinition .default .twoStates).1
    let e := Edit.retarget (edgeId "a" "go" "b") "c"
    (s.graph.edge? (edgeId "a" "go" "b")).isSome ∧ e.Misses s.graph ∧
      (s.apply e).2 = none ∧ (s.apply e).1 = s := by
  intro s e
  have missing : e.Misses s.graph := Or.inl ⟨"c", List.mem_cons_self, by decide +kernel⟩
  obtain ⟨silent, kept, _⟩ := apply_silent_iff s e
  have unheard : (s.apply e).2 = none := silent.mpr (Or.inl ⟨missing, id, id⟩)
  exact ⟨by decide +kernel, missing, unheard, kept unheard⟩

/-- A state without edges, of which an edge is deleted. -/
theorem missing_edge_heard :
    let d : Definition := ⟨["a"], "a", [], []⟩
    let s := (ofDefinition .default d).1
    let e := Edit.deleteEdge (edgeId "a" "go" "a")
    Reachable .default s ∧ e.Misses s.graph ∧ (s.apply e).1 = s ∧ (s.apply e).2 = some s.notice := by
  intro d s e
  have missing : s.graph.edge? (edgeId "a" "go" "a") = none := by rfl
  refine ⟨ofDefinition_reachable .default ?_, Or.inr ⟨_, rfl, missing⟩, ?_, ?_⟩
  · constructor <;> decide
  · exact apply_of_misses (Or.inr ⟨_, rfl, missing⟩) id
  · show some _ = _
    simp [Graph.deleteEdge_of_missing missing]

end Session

end Statecraft
