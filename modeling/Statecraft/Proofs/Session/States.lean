import Statecraft.Proofs.Definition.Written
import Statecraft.Proofs.Session.Reload
import Statecraft.Proofs.Session.Rounds

/-!
# Sessions on states alone

A session that is started on distinct names holds a node for each of them, no edges, and one initial
node (`ofStates_holdsStates`), laid out or not. Its check warns of all states but the initial one
(`HoldsStates.warnings`).
-/

namespace Statecraft.Session

/-- The session holds states with the names, one of them initial, and nothing else. -/
structure HoldsStates (names : List String) (s : Session) : Prop where
  wellFormed : s.graph.WellFormed
  labels : s.graph.nodes.map Node.label = names
  no_edges : s.graph.edges = []
  initial : ∃ n ∈ s.graph.nodes, n.isInitial = true
  no_annotations : s.annotations = []

section Initial

variable {s : Session}

theorem initial_addState (h : s.graph.nodes = [] ∨ ∃ n ∈ s.graph.nodes, n.isInitial = true)
    (name : String) :
    ∃ n ∈ (s.apply (s.addingState (some name) none)).1.graph.nodes, n.isInitial = true := by
  rw [apply_fst, addingState, Graph.edit?]
  simp only [Option.getD_some, Graph.addState, List.mem_append, List.mem_singleton]
  rcases h with empty | ⟨n, hn, flag⟩
  · exact ⟨_, Or.inr rfl, by simp [empty]⟩
  · exact ⟨n, Or.inl hn, flag⟩

theorem initial_addStates (h : ∃ n ∈ s.graph.nodes, n.isInitial = true) (names : List String) :
    ∃ n ∈ (names.foldl (fun s name => (s.apply (s.addingState (some name) none)).1) s).graph.nodes,
      n.isInitial = true := by
  induction names generalizing s with
  | nil => exact h
  | cons name r ih => exact ih (initial_addState (Or.inr h) name)

theorem initial_setInitial_kept (h : ∃ n ∈ s.graph.nodes, n.isInitial = true) (name : String) :
    ∃ n ∈ (s.apply (.setInitial name)).1.graph.nodes, n.isInitial = true := by
  rw [apply_fst, Graph.edit?, Graph.setInitial]
  split
  · rename_i known
    obtain ⟨m, hm, id⟩ := List.mem_map.mp (Graph.hasNode_iff.mp known)
    exact ⟨_, List.mem_map_of_mem hm, by simp [id]⟩
  · exact h

end Initial

theorem annotations_apply (s : Session) (e : Edit) : (s.apply e).1.annotations = s.annotations := by
  rw [apply_fst]

theorem annotations_addStates (s : Session) (names : List String) :
    (names.foldl (fun s name => (s.apply (s.addingState (some name) none)).1) s).annotations =
      s.annotations := by
  induction names generalizing s with
  | nil => rfl
  | cons name r ih => exact (ih _).trans (annotations_apply s _)

/-- A session that is started on names holds their states. -/
theorem ofStates_holdsStates (settings : Settings) {names : List String}
    (named : ∀ n ∈ names, IsName n) (distinct : names.Nodup) (some_name : names ≠ [])
    (initial : Option String) : HoldsStates names (ofStates settings names initial) := by
  obtain ⟨wellFormed, labels, no_edges, kept⟩ :=
    addStates (s := start settings) Graph.WellFormed.empty named distinct
  let added := names.foldl (fun s name => (s.apply (s.addingState (some name) none)).1)
    (start settings)
  have flagged : ∃ n ∈ added.graph.nodes, n.isInitial = true := by
    obtain ⟨first, r, rfl⟩ := List.exists_cons_of_ne_nil some_name
    exact initial_addStates (initial_addState (Or.inl rfl) first) r
  have bare : HoldsStates names added :=
    ⟨wellFormed, labels, no_edges, flagged, annotations_addStates _ names⟩
  unfold ofStates
  split
  · exact bare
  · exact bare
  · rename_i name _
    obtain ⟨labels', edges', _⟩ := setInitial_kept added name
    exact ⟨apply_wellFormed wellFormed _, labels'.trans labels, edges'.trans no_edges,
      initial_setInitial_kept flagged name, (annotations_apply added _).trans bare.no_annotations⟩

namespace HoldsStates

variable {names : List String} {s : Session}

/-- Laying out only moves the states. -/
theorem layout (h : HoldsStates names s) (direction : Layout.Direction)
    (config : Layout.Config Float) : HoldsStates names (s.apply (.layout direction config)).1 where
  wellFormed := h.wellFormed.arranged direction config
  labels := by
    show (List.map _ s.graph.nodes).map Node.label = names
    rw [List.map_map]
    exact h.labels
  no_edges := h.no_edges
  initial := by
    obtain ⟨n, hn, flag⟩ := h.initial
    exact ⟨_, List.mem_map_of_mem hn, flag⟩
  no_annotations := h.no_annotations

theorem states_eq (h : HoldsStates names s) : s.definition.states = names := h.labels

/-- The check warns of all states but the initial one. -/
theorem warnings (h : HoldsStates names s) :
    s.check.warnings = (names.filter (· != s.definition.initial)).map Check.Isolated.mk := by
  have one : s.graph.nodes.countP Node.isInitial = 1 :=
    Nat.le_antisymm h.wellFormed.one_initial (List.countP_pos_iff.mpr h.initial)
  have flags : ∀ n ∈ s.graph.nodes,
      (!n.isInitial && !s.graph.edges.any (·.touches n.id)) = (n.label != s.graph.initial) := by
    intro n hn
    rw [h.no_edges, ← h.wellFormed.flag_iff one hn, List.any_nil, Bool.not_false, Bool.and_true]
    rfl
  show (s.graph.nodes.filter _).map _ = (names.filter (· != s.graph.initial)).map _
  rw [List.filter_congr flags, ← h.labels, List.filter_map, List.map_map]
  rfl

/-- The definition has a text in either format. -/
theorem exists_write (h : HoldsStates names s) (format : Format) :
    ∃ text, s.definition.write format = .ok text :=
  s.graph.exists_write_toDefinition (by rw [h.no_annotations]; simp) _ format

end HoldsStates

end Statecraft.Session
