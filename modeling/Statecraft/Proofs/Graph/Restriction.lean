import Statecraft.Proofs.Graph.Gather

/-!
# Deleting as restriction

Where no two edges have one event and target, what is left without a node is the part of the graph
between the other nodes: no edges come to be merged (`Graph.deleteState_eq`). The moves are those
that do not touch the node, and it does not matter in which order nodes are deleted
(`Graph.deleteState_restricts`).
-/

namespace Statecraft

namespace Edge

/-- The edge is still there between some nodes: its target is one of them, and so is a source. -/
def stays (keep : String → Bool) (e : Edge) : Bool := keep e.target && e.sources.any keep

/-- The edge with some of its sources only. -/
def keepSources (keep : String → Bool) (e : Edge) : Edge :=
  { e with sources := e.sources.filter keep }

theorem keepSources_keepSources (keep keep' : String → Bool) (e : Edge) :
    (e.keepSources keep).keepSources keep' = e.keepSources fun s => keep s && keep' s := by
  simp [keepSources, List.filter_filter, Bool.and_comm]

theorem stays_keepSources (keep keep' : String → Bool) (e : Edge) :
    ((e.keepSources keep).stays keep' && e.stays keep) = e.stays fun s => keep s && keep' s := by
  rw [Bool.eq_iff_iff]
  simp only [stays, keepSources, List.any_filter, Bool.and_eq_true, List.any_eq_true]
  constructor
  · rintro ⟨⟨target', s, hs, both⟩, target, _⟩
    exact ⟨⟨target, target'⟩, s, hs, both⟩
  · rintro ⟨⟨target, target'⟩, s, hs, both⟩
    exact ⟨⟨target', s, hs, both⟩, target, s, hs, both.1⟩

end Edge

namespace Graph

/-- The part of a graph between some of its nodes. -/
def restrict (keep : String → Bool) (g : Graph) : Graph where
  nodes := g.nodes.filter fun n => keep n.id
  edges := (g.edges.filter (Edge.stays keep)).map (Edge.keepSources keep)

/-- A state fires an event into a target under a guard. -/
def Moves (g : Graph) (source event target : String) (guard : Option String) : Prop :=
  ∃ e ∈ g.edges, source ∈ e.sources ∧ e.event = event ∧ e.target = target ∧ e.guard = guard

/-- The graph without a node, or as it is if it has no such node. -/
def without (g : Graph) (node : String) : Graph := (g.deleteState node).getD g

variable {g : Graph} {keep : String → Bool} {m n : String}

theorem nodeIds_restrict (keep : String → Bool) (g : Graph) :
    (g.restrict keep).nodeIds = g.nodeIds.filter keep := by
  rw [nodeIds, nodeIds, List.filter_map]
  rfl

theorem keys_restrict_sublist (keep : String → Bool) (g : Graph) :
    ((g.restrict keep).edges.map Edge.key).Sublist (g.edges.map Edge.key) := by
  rw [restrict, List.map_map]
  exact List.filter_sublist.map Edge.key

/-- Between some nodes there are the moves whose ends both are among them. -/
theorem moves_restrict (s e t : String) (c : Option String) :
    (g.restrict keep).Moves s e t c ↔ g.Moves s e t c ∧ keep s ∧ keep t := by
  constructor
  · rintro ⟨_, hf, hs, rfl, rfl, rfl⟩
    obtain ⟨f, mem, rfl⟩ := List.mem_map.mp hf
    obtain ⟨hf, stays⟩ := List.mem_filter.mp mem
    obtain ⟨hs, source⟩ := List.mem_filter.mp hs
    exact ⟨⟨f, hf, hs, rfl, rfl, rfl⟩, source, (Bool.and_eq_true_iff.mp stays).1⟩
  · rintro ⟨⟨f, hf, hs, rfl, rfl, rfl⟩, source, target⟩
    have stays : f.stays keep :=
      Bool.and_eq_true_iff.mpr ⟨target, List.any_eq_true.mpr ⟨s, hs, source⟩⟩
    exact ⟨_, List.mem_map_of_mem (List.mem_filter.mpr ⟨hf, stays⟩),
      List.mem_filter.mpr ⟨hs, source⟩, rfl, rfl, rfl⟩

theorem sources_restrict {f : Edge} (hf : f ∈ (g.restrict keep).edges) : f.sources ≠ [] := by
  obtain ⟨e, he, rfl⟩ := List.mem_map.mp hf
  have stays := (List.mem_filter.mp he).2
  obtain ⟨s, hs, source⟩ := List.any_eq_true.mp (Bool.and_eq_true_iff.mp stays).2
  exact List.ne_nil_of_mem (List.mem_filter.mpr ⟨hs, source⟩)

/-- A part of a part is the part between the nodes that are in both. -/
theorem restrict_restrict (keep keep' : String → Bool) (g : Graph) :
    (g.restrict keep).restrict keep' = g.restrict fun s => keep s && keep' s := by
  have edges : ((g.restrict keep).restrict keep').edges =
      (g.restrict fun s => keep s && keep' s).edges := by
    simp only [restrict, List.filter_map, List.map_map, List.filter_filter, Function.comp_def,
      Edge.stays_keepSources, Edge.keepSources_keepSources]
  have nodes : ((g.restrict keep).restrict keep').nodes =
      (g.restrict fun s => keep s && keep' s).nodes := by
    simp only [restrict, List.filter_filter, Bool.and_comm]
  exact congrArg₂ Graph.mk nodes edges

/-- What an edge loses with a node. -/
theorem withoutNode_eq (n : String) (e : Edge) :
    withoutNode n e = if e.stays (· != n) then some (e.keepSources (· != n)) else none := by
  have gone : (e.sources.filter (· != n)).isEmpty = !e.sources.any (· != n) := by
    rw [Bool.eq_iff_iff]
    simp
  unfold withoutNode Edge.stays Edge.keepSources
  dsimp only
  rw [gone]
  cases at_target : e.target == n <;> cases e.sources.any (· != n) <;> simp [bne, at_target]

/-- A node is deleted by restricting the graph to the others. -/
theorem deleteState_eq (distinct : (g.edges.map Edge.key).Nodup) (known : n ∈ g.nodeIds) :
    g.deleteState n = some (g.restrict (· != n)) := by
  have left : g.edges.filterMap (withoutNode n) = (g.restrict (· != n)).edges := by
    rw [restrict, ← List.filterMap_eq_map, List.filterMap_filter]
    exact List.filterMap_congr fun e _ => withoutNode_eq n e
  unfold deleteState
  rw [if_pos (hasNode_iff.mpr known), left,
    Edge.normalize_of_nodup ((keys_restrict_sublist _ g).nodup distinct)]
  rfl

theorem without_of_missing (unknown : n ∉ g.nodeIds) : g.without n = g := by
  unfold without deleteState
  rw [if_neg (mt hasNode_iff.mp unknown)]
  rfl

theorem without_eq (distinct : (g.edges.map Edge.key).Nodup) (known : n ∈ g.nodeIds) :
    g.without n = g.restrict (· != n) := by
  rw [without, deleteState_eq distinct known]
  rfl

/-- Without two nodes a graph is restricted to the others. -/
theorem without_without_eq (distinct : (g.edges.map Edge.key).Nodup) (hm : m ∈ g.nodeIds)
    (hn : n ∈ g.nodeIds) (other : n ≠ m) :
    (g.without m).without n = g.restrict fun s => s != m && s != n := by
  have still : n ∈ (g.restrict (· != m)).nodeIds := by
    rw [nodeIds_restrict]
    exact List.mem_filter.mpr ⟨hn, bne_iff_ne.mpr other⟩
  rw [without_eq distinct hm, without_eq ((keys_restrict_sublist _ g).nodup distinct) still,
    restrict_restrict]

/-- A node that is missing is not there after a deletion either. -/
theorem missing_without (distinct : (g.edges.map Edge.key).Nodup) (unknown : m ∉ g.nodeIds) :
    m ∉ (g.without n).nodeIds := by
  by_cases known : n ∈ g.nodeIds
  · rw [without_eq distinct known, nodeIds_restrict]
    exact fun still => unknown (List.mem_filter.mp still).1
  · rwa [without_of_missing known]

theorem without_comm (distinct : (g.edges.map Edge.key).Nodup) (m n : String) :
    (g.without m).without n = (g.without n).without m := by
  by_cases same : m = n
  · rw [same]
  · by_cases hm : m ∈ g.nodeIds
    · by_cases hn : n ∈ g.nodeIds
      · rw [without_without_eq distinct hm hn (Ne.symm same),
          without_without_eq distinct hn hm same]
        simp only [Bool.and_comm]
      · rw [without_of_missing hn, without_of_missing (missing_without distinct hn)]
    · rw [without_of_missing hm, without_of_missing (missing_without distinct hm)]

/-- **A node is deleted with all moves that touch it, and with nothing else.** Where no two edges
have one event and target, the nodes and edges that are left stand in their places with all they
had but for the node as a source, no edge is left without a source, and nodes can be deleted in any
order. -/
theorem deleteState_restricts (distinct : (g.edges.map Edge.key).Nodup) :
    (∀ n ∈ g.nodeIds, g.deleteState n = some (g.restrict (· != n)) ∧
      (∀ s e t c, (g.restrict (· != n)).Moves s e t c ↔ g.Moves s e t c ∧ s ≠ n ∧ t ≠ n) ∧
      ∀ e ∈ (g.restrict (· != n)).edges, e.sources ≠ []) ∧
    ∀ m n, (g.without m).without n = (g.without n).without m := by
  refine ⟨fun n known => ⟨deleteState_eq distinct known, fun s e t c => ?_,
    fun _ => sources_restrict⟩, without_comm distinct⟩
  rw [moves_restrict, bne_iff_ne, bne_iff_ne]

/-- Four nodes. One of them has an edge to itself and shares the sources of two others, one of which
it enters; the last edge starts there alone. -/
def shared : Graph where
  nodes := [⟨"a", "a", true, .origin⟩, ⟨"b", "b", false, .origin⟩, ⟨"c", "c", false, .origin⟩,
    ⟨"d", "d", false, .origin⟩]
  edges := [.of "a" "go" (some "ctx.x") ["a", "b"], .of "c" "go" none ["a", "c", "d"],
    .of "d" "halt" none ["b", "a"], .of "d" "go" (some "ctx.y") ["a"]]

theorem deleteState_restricts_shared : (shared.edges.map Edge.key).Nodup ∧
    "a" ∈ shared.nodeIds ∧ shared.deleteState "a" = some (shared.restrict (· != "a")) ∧
    (shared.restrict (· != "a")).nodeIds = ["b", "c", "d"] ∧
    (shared.restrict (· != "a")).edges =
      [.of "c" "go" none ["c", "d"], .of "d" "halt" none ["b"]] ∧
    (shared.without "a").without "d" = (shared.without "d").without "a" := by
  have distinct : (shared.edges.map Edge.key).Nodup := by decide
  have known : "a" ∈ shared.nodeIds := by decide
  obtain ⟨deleted, comm⟩ := deleteState_restricts distinct
  exact ⟨distinct, known, (deleted "a" known).1, by decide, by decide, comm "a" "d"⟩

end Graph

end Statecraft
