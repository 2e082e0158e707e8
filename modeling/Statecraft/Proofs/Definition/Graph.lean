import Statecraft.Proofs.Graph.WellFormed

/-!
# The graph of a definition

Where no state is declared twice each node has its state's name as id. If the transitions
name declared states only, the graph is well-formed, wherever its nodes are put
(`toGraph_wellFormed`).
-/

namespace Statecraft

/-- No state is declared twice, and the transitions name declared states only. -/
structure Definition.NamesFit (d : Definition) : Prop where
  states_distinct : d.states.Nodup
  targets_declared : ∀ t ∈ d.transitions, t.target ∈ d.states
  sources_declared : ∀ t ∈ d.transitions, ∀ s ∈ t.sources, s ∈ d.states

/-- Two states; one event leads from both of them to the second, in two transitions, and
another event leads from nowhere to the first. -/
def Definition.twoStates : Definition where
  states := ["a", "b"]
  initial := "a"
  transitions := [.of (.many ["a", "b"]) "go" "b" (some "ctx.ready"),
    .of (.one "b") "go" "b" (some "ctx.ready"), .of (.many []) "halt" "a" none]
  annotations := [("owner", .text "x")]

theorem Definition.twoStates_namesFit : Definition.twoStates.NamesFit := by
  constructor <;> decide

theorem assignIds_of_nodup (taken seen states : List String) (h : states.Nodup)
    (new : ∀ s ∈ states, s ∉ seen) : assignIds taken seen states = states := by
  induction states generalizing seen with
  | nil => rfl
  | cons s r ih =>
    obtain ⟨hs, hr⟩ := List.nodup_cons.mp h
    have unseen : seen.contains s = false := by
      simpa using new s List.mem_cons_self
    simp only [assignIds, unseen, Bool.false_eq_true, if_false, List.cons.injEq, true_and]
    apply ih _ hr
    intro t ht hts
    rcases List.mem_cons.mp hts with rfl | hts
    · exact hs ht
    · exact new t (List.mem_cons_of_mem _ ht) hts

theorem nodeIdsOf_of_nodup {states : List String} (h : states.Nodup) : nodeIdsOf states = states :=
  assignIds_of_nodup _ [] states h (by simp)

namespace Definition

variable {d : Definition}

theorem toGraph_edges (d : Definition) (p : Placement) :
    (d.toGraph p).1.edges = (mergeTransitions d.transitions).1 := by
  unfold toGraph
  cases p.layered with
  | none => rfl
  | some l =>
    dsimp only
    split <;> rfl

/-- The layered layout moves nodes and does nothing else to them. -/
theorem toGraph_nodes (d : Definition) (p : Placement) :
    ∃ place : Node → Position, (d.toGraph p).1.nodes =
      (d.toNodes p.grid p.key).map fun n => { n with position := place n } := by
  have same : ∀ nodes : List Node, nodes = nodes.map fun n => { n with position := n.position } :=
    fun nodes => (List.map_id nodes).symm
  unfold toGraph
  cases p.layered with
  | none => exact ⟨_, same _⟩
  | some l =>
    dsimp only
    split
    · exact ⟨_, same _⟩
    · exact ⟨_, rfl⟩

/-- Where positions are stored no layout is needed. -/
theorem toGraph_of_positions {p : Placement} (h : d.hasPositions p.key = true) :
    (d.toGraph p).1 = ⟨d.toNodes p.grid p.key, (mergeTransitions d.transitions).1⟩ := by
  unfold toGraph
  cases p.layered with
  | none => rfl
  | some l => simp only [h, if_true]

/-- One node for each state, with the state's name as id. -/
theorem toNodes_eq (h : d.states.Nodup) (grid : Layout.Grid Float) (key : String) :
    d.toNodes grid key = d.states.map fun s => {
      id := s
      label := s
      isInitial := s == d.initial
      position := (((d.positions key).get? s).orElse fun _ =>
        (gridPositions grid d.states).lookup s).getD .origin } := by
  have zipped : d.states.zip d.states = d.states.map fun s => (s, s) := by
    simpa using List.zip_map' (f := id) (g := id) (l := d.states)
  unfold toNodes
  dsimp only
  rw [nodeIdsOf_of_nodup h, zipped, List.map_map]
  rfl

/-- The nodes but for their places. -/
theorem toGraph_names (h : d.states.Nodup) (p : Placement) :
    (d.toGraph p).1.nodes.map (fun n => (n.id, n.label, n.isInitial)) =
      d.states.map fun s => (s, s, s == d.initial) := by
  obtain ⟨place, hp⟩ := d.toGraph_nodes p
  rw [hp, toNodes_eq h, List.map_map, List.map_map]
  rfl

theorem toGraph_nodeIds (h : d.states.Nodup) (p : Placement) :
    (d.toGraph p).1.nodeIds = d.states := by
  have names := congrArg (List.map Prod.fst) (toGraph_names h p)
  simpa [Graph.nodeIds, Function.comp_def] using names

theorem toGraph_labels (h : d.states.Nodup) (p : Placement) :
    (d.toGraph p).1.nodes.map Node.label = d.states := by
  have names := congrArg (List.map fun t => t.2.1) (toGraph_names h p)
  simpa [Function.comp_def] using names

theorem toGraph_countP_isInitial (h : d.states.Nodup) (p : Placement) :
    (d.toGraph p).1.nodes.countP Node.isInitial = d.states.count d.initial := by
  have flags := congrArg (List.countP fun t => t.2.2) (toGraph_names h p)
  rw [List.countP_map, List.countP_map] at flags
  exact flags

theorem toGraph_wellFormed (h : d.NamesFit) (p : Placement) : (d.toGraph p).1.WellFormed := by
  have names := toGraph_names h.states_distinct p
  constructor
  · intro n hn
    have mem := List.mem_map_of_mem (f := fun n : Node => (n.id, n.label, n.isInitial)) hn
    rw [names] at mem
    obtain ⟨s, _, hs⟩ := List.mem_map.mp mem
    simp only [Prod.mk.injEq] at hs
    exact hs.1.symm.trans hs.2.1
  · rw [toGraph_nodeIds h.states_distinct]
    exact h.states_distinct
  · rw [toGraph_countP_isInitial h.states_distinct]
    exact List.nodup_iff_count_le_one.mp h.states_distinct d.initial
  · rw [toGraph_nodeIds h.states_distinct, toGraph_edges]
    exact merge_sound h.targets_declared h.sources_declared
  · rw [toGraph_edges]
    exact nodup_keys_merge d.transitions

end Definition

end Statecraft
