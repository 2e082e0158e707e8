import Statecraft.Proofs.Graph.WellFormed

/-!
# The definition of a well-formed graph

The way back from a graph gives the ends of its edges the names of the states and groups the edges
once more. An edge between nodes keeps all its ends (`Edge.named?_eq_named`), and edges with
different keys stay apart (`Bundle.foldl_add_new`). In a well-formed graph the ends have these names
already, so each edge becomes one transition (`transitions_eq`).
-/

namespace Statecraft

/-- The transition that an edge of a well-formed graph becomes. -/
def Edge.toTransition (e : Edge) : Transition :=
  .of (.ofStates e.sources) e.event e.target e.guard

theorem Origin.states_ofStates (ss : List String) : (Origin.ofStates ss).states = ss := by
  unfold Origin.ofStates
  split <;> rfl

namespace Edge

@[simp] theorem toTransition_key (e : Edge) : e.toTransition.key = e.key := rfl

@[simp] theorem toTransition_target (e : Edge) : e.toTransition.target = e.target := rfl

@[simp] theorem toTransition_sources (e : Edge) : e.toTransition.sources = e.sources :=
  Origin.states_ofStates e.sources

theorem Sound.toTransition_guard {ids : List String} {e : Edge} (h : e.Sound ids) :
    e.toTransition.guard = e.guard :=
  h.guard_stored

end Edge

namespace Bundle

@[simp] theorem take_key (b : Bundle) (ss : List String) (guard : Option String) :
    (b.take ss guard).key = b.key := rfl

theorem add_eq_put (bundles : List Bundle) (new : Bundle) :
    add bundles new = Keyed.put key new.key { new with sources := new.sources.eraseDups }
      (·.take new.sources new.guard) bundles := by
  induction bundles with
  | nil => rfl
  | cons b r ih => simp only [add, Keyed.put, beq_iff_eq, ih]

/-- The bundle alone among others. -/
def alone (b : Bundle) : Bundle := { b with sources := b.sources.eraseDups }

@[simp] theorem alone_key (b : Bundle) : b.alone.key = b.key := rfl

theorem foldl_add_eq_put (bundles : List Bundle) : bundles.foldl add [] =
    bundles.foldl (fun acc b => Keyed.put key b.key b.alone (·.take b.sources b.guard) acc) [] := by
  have steps : add = fun acc b => Keyed.put key b.key b.alone (·.take b.sources b.guard) acc :=
    funext fun acc => funext fun b => add_eq_put acc b
  rw [steps]

theorem foldl_add_eq_groups (bundles : List Bundle) : bundles.foldl add [] =
    Keyed.groups key alone (fun c b => b.take c.sources c.guard) bundles := by
  rw [foldl_add_eq_put]
  exact Keyed.foldl_put_eq_groups alone_key (fun c b => take_key b c.sources c.guard) bundles

/-- Bundles with different keys are not merged. -/
theorem foldl_add_new {bundles : List Bundle} (keys : (bundles.map key).Nodup) :
    bundles.foldl add [] = bundles.map alone := by
  rw [foldl_add_eq_put]
  exact Keyed.foldl_put_new alone_key bundles [] (by simpa using keys)

/-- Bundles with different keys stay apart. -/
theorem foldl_add_of_nodup {bundles : List Bundle} (keys : (bundles.map key).Nodup)
    (sources : ∀ b ∈ bundles, b.sources.Nodup) : bundles.foldl add [] = bundles := by
  have each : ∀ b ∈ bundles, b.alone = b := by
    intro b hb
    rw [alone, eraseDups_of_nodup (sources b hb)]
  rw [foldl_add_new keys, map_eq_self each]

end Bundle

/-- An edge between nodes, with at least one source, as every stored edge has. -/
structure Edge.IsBetween (ids : List String) (e : Edge) : Prop where
  sources_nonempty : e.sources ≠ []
  target_known : e.target ∈ ids
  sources_known : ∀ s ∈ e.sources, s ∈ ids

instance (ids : List String) (e : Edge) : Decidable (e.IsBetween ids) :=
  decidable_of_iff (e.sources ≠ [] ∧ e.target ∈ ids ∧ ∀ s ∈ e.sources, s ∈ ids)
    ⟨fun ⟨nonempty, target, sources⟩ => ⟨nonempty, target, sources⟩,
      fun h => ⟨h.sources_nonempty, h.target_known, h.sources_known⟩⟩

/-- The edge as a bundle, with other names for its ends. -/
def Edge.named (name : String → String) (e : Edge) : Bundle :=
  ⟨e.event, name e.target, e.sources.map name, e.guard⟩

theorem Edge.Sound.isBetween {ids : List String} {e : Edge} (h : e.Sound ids) : e.IsBetween ids :=
  ⟨h.sources_nonempty, h.target_known, h.sources_known⟩

/-- An edge between nodes that have names is an edge in these names. -/
theorem Edge.named?_eq_named {labels : List (String × String)} {ids : List String}
    {name : String → String} (looked : ∀ s ∈ ids, labels.lookup s = some (name s)) {e : Edge}
    (h : e.IsBetween ids) : e.named? labels = some (e.named name) := by
  have sources : e.sources.filterMap (fun s => labels.lookup s) = e.sources.map name := by
    rw [← List.filterMap_eq_map]
    exact List.filterMap_congr fun s hs => looked s (h.sources_known s hs)
  unfold named? named
  rw [looked _ h.target_known, sources]
  cases some_source : e.sources with
  | nil => exact absurd some_source h.sources_nonempty
  | cons s r => rfl

/-- An id is looked up with the label of a node that has it. -/
theorem Graph.exists_node_of_lookup {g : Graph} {id label : String}
    (h : g.labels.lookup id = some label) : ∃ n ∈ g.nodes, n.id = id ∧ n.label = label := by
  obtain ⟨l, r, split, _⟩ := List.lookup_eq_some_iff.mp h
  have mem : (id, label) ∈ g.labels := by simp [split]
  obtain ⟨n, hn, same⟩ := List.mem_map.mp (List.mem_reverse.mp mem)
  exact ⟨n, hn, congrArg Prod.fst same, congrArg Prod.snd same⟩

/-- The label of the node with an id. -/
def Graph.labelOf (g : Graph) (id : String) : String := (g.labels.lookup id).getD ""

theorem Graph.lookup_labelOf {g : Graph} {id : String} (h : id ∈ g.nodeIds) :
    g.labels.lookup id = some (g.labelOf id) := by
  obtain ⟨n, hn, rfl⟩ := List.mem_map.mp h
  cases found : g.labels.lookup n.id with
  | some label => rw [labelOf, found, Option.getD_some]
  | none =>
    have listed : (n.id, n.label) ∈ g.labels :=
      List.mem_reverse.mpr (List.mem_map.mpr ⟨n, hn, rfl⟩)
    have missing := List.lookup_eq_none_iff.mp found _ listed
    simp at missing

/-- The initial state is one of the states, also where none is flagged. -/
theorem Graph.initial_mem {g : Graph} (h : g.nodes ≠ []) : g.initial ∈ g.nodes.map Node.label := by
  unfold initial
  cases hf : g.nodes.find? Node.isInitial with
  | some n => exact List.mem_map_of_mem (List.mem_of_find?_eq_some hf)
  | none =>
    cases hn : g.nodes with
    | nil => exact absurd hn h
    | cons m r => simp

namespace Graph.WellFormed

variable {g : Graph}

theorem lookup_labels (h : g.WellFormed) {id : String} (hid : id ∈ g.nodeIds) :
    g.labels.lookup id = some id := by
  have found := lookup_labelOf hid
  obtain ⟨n, hn, own, label⟩ := exists_node_of_lookup found
  rw [found, ← label, ← h.ids_are_labels n hn, own]

theorem named?_eq (h : g.WellFormed) {e : Edge} (he : e ∈ g.edges) :
    e.named? g.labels = some ⟨e.event, e.target, e.sources, e.guard⟩ := by
  have named : e.named? g.labels = some (e.named id) :=
    e.named?_eq_named (fun _ => h.lookup_labels) (h.edges_sound e he).isBetween
  rw [named, Edge.named, List.map_id]
  rfl

/-- Each edge becomes one transition. -/
theorem transitions_eq (h : g.WellFormed) : g.transitions = g.edges.map Edge.toTransition := by
  have named : g.edges.filterMap (Edge.named? g.labels) =
      g.edges.map fun e => ⟨e.event, e.target, e.sources, e.guard⟩ := by
    rw [← List.filterMap_eq_map]
    exact List.filterMap_congr fun e he => h.named?_eq he
  unfold transitions
  rw [named, Bundle.foldl_add_of_nodup, List.map_map]
  · rfl
  · rw [List.map_map]
    exact h.keys_distinct
  · intro b hb
    obtain ⟨e, he, rfl⟩ := List.mem_map.mp hb
    exact (h.edges_sound e he).sources_distinct

/-- The initial state is the flagged one. -/
theorem initial_eq (h : g.WellFormed) {n : Node} (hn : n ∈ g.nodes) (flag : n.isInitial) :
    g.initial = n.label := by
  have found : (g.nodes.find? Node.isInitial).isSome := List.find?_isSome.mpr ⟨n, hn, flag⟩
  obtain ⟨m, hm⟩ := Option.isSome_iff_exists.mp found
  have one : (g.nodes.filter Node.isInitial).length ≤ 1 :=
    List.countP_eq_length_filter ▸ h.one_initial
  have hn' := List.mem_filter.mpr ⟨hn, flag⟩
  have hm' := List.mem_filter.mpr ⟨List.mem_of_find?_eq_some hm, List.find?_some hm⟩
  have same : m = n := by
    match hf : g.nodes.filter Node.isInitial with
    | [] => exact absurd hn' (by simp [hf])
    | [a] =>
      rw [hf, List.mem_singleton] at hn' hm'
      rw [hn', hm']
    | _ :: _ :: _ => simp [hf] at one
  unfold initial
  rw [hm, same]

end Graph.WellFormed

end Statecraft
