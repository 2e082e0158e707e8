import Statecraft.Proofs.Definition.Graph
import Statecraft.Proofs.Definition.Positions
import Statecraft.Proofs.Graph.Definition

/-!
# A graph written down and read again

The definition of a well-formed graph says all about it: read again it gives the same nodes in
the same places, and the same edges (`WellFormed.reload`). Only the initial state may come to be
flagged that was not, where no state was.
-/

namespace Statecraft

/-- Transitions with different keys are not merged. -/
theorem Bundle.collect_of_nodup {ts : List Transition} (h : (ts.map Transition.key).Nodup) :
    (collect [] ts).1 = ts.map ofTransition := by
  rw [collect_fst, Keyed.foldl_put_new ofTransition_key ts [] (by simpa using h)]
  rfl

/-- The transition of a sound edge gives the edge again. -/
theorem Edge.Sound.toEdge?_toTransition {ids : List String} {e : Edge} (h : e.Sound ids) :
    (Bundle.ofTransition e.toTransition).toEdge? = some e := by
  have kept := eraseDups_of_nodup h.sources_distinct
  have sources : (Bundle.ofTransition e.toTransition).sources = e.sources := by
    simp [Bundle.ofTransition, kept]
  have again : Edge.of e.target e.event e.toTransition.guard e.sources = e := by
    have stored : (guardText? e.toTransition.guard) = e.guard := by
      rw [h.toTransition_guard, h.guard_stored]
    obtain ⟨target, event, guard, ss⟩ := e
    simp only [Edge.of, kept, Edge.mk.injEq, true_and, and_true]
    exact stored
  rw [Bundle.toEdge?_eq_some, sources]
  exact ⟨h.sources_nonempty, again⟩

/-- The node as it is read again. -/
def Graph.reloaded (g : Graph) (n : Node) : Node :=
  { n with isInitial := n.label == g.initial, position := n.position.given }

namespace Graph.WellFormed

variable {g : Graph}

/-- The edges come back as they were, in their order. -/
theorem merge_transitions (h : g.WellFormed) : (mergeTransitions g.transitions).1 = g.edges := by
  have keys : (g.transitions.map Transition.key).Nodup := by
    rw [h.transitions_eq, List.map_map]
    exact h.keys_distinct
  show (Bundle.collect [] g.transitions).1.filterMap Bundle.toEdge? = g.edges
  rw [Bundle.collect_of_nodup keys, h.transitions_eq, List.map_map, List.filterMap_map]
  conv_rhs => rw [← List.filterMap_some (l := g.edges)]
  apply List.filterMap_congr
  exact fun e he => (h.edges_sound e he).toEdge?_toTransition

theorem labels_distinct (h : g.WellFormed) : (g.nodes.map Node.label).Nodup :=
  h.labels_eq_ids ▸ h.ids_distinct

theorem eq_of_label (h : g.WellFormed) {m n : Node} (hm : m ∈ g.nodes) (hn : n ∈ g.nodes)
    (e : m.label = n.label) : m = n :=
  List.inj_on_of_nodup_map h.labels_distinct hm hn e

/-- Stored positions take precedence, so the way of placing states does not matter. -/
theorem reload (h : g.WellFormed) (prior : Annotations) (p : Placement) :
    ((g.toDefinition prior p.key).toGraph p).1 = ⟨g.nodes.map g.reloaded, g.edges⟩ := by
  have stored : (g.toDefinition prior p.key).annotations = prior.set p.key
      (Positions.documentOf (g.nodes.map fun n => (n.label, n.position))) := rfl
  have names : ((g.nodes.map fun n => (n.label, n.position)).map Prod.fst).Nodup := by
    rw [List.map_map]
    exact h.labels_distinct
  have nodes : (g.toDefinition prior p.key).toNodes p.grid p.key = g.nodes.map g.reloaded := by
    rw [Definition.toNodes_eq h.labels_distinct]
    show (g.nodes.map Node.label).map _ = _
    rw [List.map_map]
    apply List.map_congr_left
    intro n hn
    have position : ((g.toDefinition prior p.key).positions p.key).get? n.label =
        some n.position.given := by
      rw [Definition.positions_of_set stored names, List.map_map]
      exact Positions.get?_map h.labels_distinct hn
    simp only [Function.comp_apply, position, reloaded, h.ids_are_labels n hn]
    rfl
  rw [Definition.toGraph_of_positions (Definition.hasPositions_of_set stored), nodes]
  exact congrArg _ h.merge_transitions

end Graph.WellFormed

end Statecraft
