import Statecraft.Proofs.Graph.Gather

/-!
# Renaming as relabelling

In a graph whose nodes are named apart and whose edges are between them, a new name is put for the
old one wherever that stands, and nothing else happens: the edges keep different keys, so none are
merged (`Graph.NamedApart.renameState_eq`). Renaming back gives the same graph again
(`Graph.NamedApart.renameState_exact`).
-/

namespace Statecraft

/-- What is taken back item by item is taken back. -/
theorem map_map_of_back {α β : Type} {f : α → β} {f' : β → α} {l : List α}
    (back : ∀ x ∈ l, f' (f x) = x) : (l.map f).map f' = l := by
  rw [List.map_map]
  exact map_eq_self back

namespace Graph

/-- The nodes are named apart by their labels, and the edges are between them, with different keys
and, as edges are stored, no source twice. -/
structure NamedApart (g : Graph) : Prop where
  ids_are_labels : ∀ n ∈ g.nodes, n.id = n.label
  ids_distinct : g.nodeIds.Nodup
  targets_known : ∀ e ∈ g.edges, e.target ∈ g.nodeIds
  sources_known : ∀ e ∈ g.edges, ∀ s ∈ e.sources, s ∈ g.nodeIds
  sources_distinct : ∀ e ∈ g.edges, e.sources.Nodup
  keys_distinct : (g.edges.map Edge.key).Nodup

theorem WellFormed.namedApart {g : Graph} (h : g.WellFormed) : g.NamedApart where
  ids_are_labels := h.ids_are_labels
  ids_distinct := h.ids_distinct
  targets_known := fun e he => (h.edges_sound e he).target_known
  sources_known := fun e he => (h.edges_sound e he).sources_known
  sources_distinct := fun e he => (h.edges_sound e he).sources_distinct
  keys_distinct := h.keys_distinct

end Graph

/-- The node under another name. -/
def Node.relabel (f : String → String) (n : Node) : Node :=
  { n with id := f n.id, label := f n.label }

/-- The edge between nodes of other names. -/
def Edge.relabel (f : String → String) (e : Edge) : Edge :=
  { e with target := f e.target, sources := e.sources.map f }

namespace Graph

variable {g : Graph} {a b : String} {f f' : String → String}

/-- The graph with other names for its nodes, and nothing else changed. -/
def relabel (f : String → String) (g : Graph) : Graph where
  nodes := g.nodes.map (Node.relabel f)
  edges := g.edges.map (Edge.relabel f)

/-- One name put for another. -/
def putFor (a b s : String) : String := if s = a then b else s

theorem nodeIds_relabel (f : String → String) (g : Graph) :
    (g.relabel f).nodeIds = g.nodeIds.map f := by
  simp only [nodeIds, relabel, List.map_map]
  rfl

theorem keys_relabel (f : String → String) (g : Graph) :
    (g.relabel f).edges.map Edge.key = (g.edges.map Edge.key).map (Prod.map id f) := by
  simp only [relabel, List.map_map]
  rfl

namespace NamedApart

/-- Under labels that keep its names apart, a graph stays named apart. -/
theorem relabel (h : g.NamedApart) (inj : ∀ s ∈ g.nodeIds, ∀ t ∈ g.nodeIds, f s = f t → s = t) :
    (g.relabel f).NamedApart where
  ids_are_labels := by
    intro n hn
    obtain ⟨m, hm, rfl⟩ := List.mem_map.mp hn
    exact congrArg f (h.ids_are_labels m hm)
  ids_distinct := by
    rw [nodeIds_relabel]
    exact h.ids_distinct.map_on inj
  targets_known := by
    rw [nodeIds_relabel]
    intro e he
    obtain ⟨u, hu, rfl⟩ := List.mem_map.mp he
    exact List.mem_map_of_mem (h.targets_known u hu)
  sources_known := by
    rw [nodeIds_relabel]
    intro e he s hs
    obtain ⟨u, hu, rfl⟩ := List.mem_map.mp he
    obtain ⟨t, ht, rfl⟩ := List.mem_map.mp hs
    exact List.mem_map_of_mem (h.sources_known u hu t ht)
  sources_distinct := by
    intro e he
    obtain ⟨u, hu, rfl⟩ := List.mem_map.mp he
    have known := h.sources_known u hu
    exact (h.sources_distinct u hu).map_on fun s hs t ht => inj s (known s hs) t (known t ht)
  keys_distinct := by
    rw [keys_relabel]
    refine h.keys_distinct.map_on fun k hk l hl same => ?_
    obtain ⟨e, he, rfl⟩ := List.mem_map.mp hk
    obtain ⟨u, hu, rfl⟩ := List.mem_map.mp hl
    obtain ⟨event, target⟩ := Prod.mk.inj same
    exact Prod.ext event (inj _ (h.targets_known e he) _ (h.targets_known u hu) target)

/-- Labels that are taken back on the names of a graph leave it as it was. -/
theorem relabel_relabel (h : g.NamedApart) (back : ∀ s ∈ g.nodeIds, f' (f s) = s) :
    (g.relabel f).relabel f' = g := by
  have node : ∀ n ∈ g.nodes, (n.relabel f).relabel f' = n := by
    intro n hn
    have label : f' (f n.label) = n.label :=
      back _ (h.ids_are_labels n hn ▸ List.mem_map_of_mem hn)
    simp only [Node.relabel, back n.id (List.mem_map_of_mem hn), label]
  have edge : ∀ e ∈ g.edges, (e.relabel f).relabel f' = e := by
    intro e he
    have sources : (e.sources.map f).map f' = e.sources :=
      map_map_of_back fun s hs => back s (h.sources_known e he s hs)
    simp only [Edge.relabel, back e.target (h.targets_known e he), sources]
  unfold Graph.relabel
  dsimp only
  rw [map_map_of_back node, map_map_of_back edge]

/-- No other node has the name that is free. -/
theorem ne_of_free (h : g.NamedApart) (free : ∀ n ∈ g.nodes, n.id ≠ a → n.label ≠ b) :
    ∀ s ∈ g.nodeIds, s ≠ a → s ≠ b := by
  intro s hs other
  obtain ⟨n, hn, rfl⟩ := List.mem_map.mp hs
  rw [h.ids_are_labels n hn]
  exact free n hn other

/-- A name that was put for another is taken back. -/
theorem putFor_putFor (apart : ∀ s ∈ g.nodeIds, s ≠ a → s ≠ b) :
    ∀ s ∈ g.nodeIds, putFor b a (putFor a b s) = s := by
  intro s hs
  unfold putFor
  by_cases same : s = a
  · rw [if_pos same, if_pos rfl, same]
  · rw [if_neg same, if_neg (apart s hs same)]

theorem putFor_injective (apart : ∀ s ∈ g.nodeIds, s ≠ a → s ≠ b) :
    ∀ s ∈ g.nodeIds, ∀ t ∈ g.nodeIds, putFor a b s = putFor a b t → s = t := by
  intro s hs t ht same
  rw [← putFor_putFor apart s hs, ← putFor_putFor apart t ht, same]

/-- A node is renamed by putting the new name for the old one, if no other node has it. -/
theorem renameState_eq (h : g.NamedApart) (known : a ∈ g.nodeIds) (trimmed : Text.strip b = b)
    (visible : Text.isBlankText b = false) (apart : ∀ s ∈ g.nodeIds, s ≠ a → s ≠ b) :
    g.renameState a b = some (g.relabel (putFor a b)) := by
  have fits : (!g.hasNode a || b.isEmpty || g.nodes.any fun n => n.id != a && n.label == b) =
      false := by
    have free : ∀ n ∈ g.nodes, n.id ≠ a → n.label ≠ b := by
      intro n hn other
      rw [← h.ids_are_labels n hn]
      exact apart n.id (List.mem_map_of_mem hn) other
    have some_char : b.isEmpty = false := by
      rw [← trimmed, ← Text.isBlankText_strip, trimmed, visible]
    simpa [hasNode_iff.mpr known, some_char] using free
  have nodes : renameNodes g.nodes a b = g.nodes.map (Node.relabel (putFor a b)) := by
    refine List.map_congr_left fun n hn => ?_
    have named := h.ids_are_labels n hn
    obtain ⟨id, label, initial, position⟩ := n
    obtain rfl : id = label := named
    simp only [Node.relabel, putFor, beq_iff_eq]
    split <;> rfl
  have edges : g.edges.map (renameIn a b) = (g.relabel (putFor a b)).edges := by
    refine List.map_congr_left fun e he => ?_
    have distinct : (e.sources.map (putFor a b)).Nodup :=
      (relabel h (putFor_injective apart)).sources_distinct _ (List.mem_map_of_mem he)
    have renamed (s : String) : (if (s == a) = true then b else s) = putFor a b s := by
      simp [putFor]
    simp only [renameIn, renamed, eraseDups_of_nodup distinct]
    rfl
  unfold renameState
  simp only [trimmed, fits, nodes, edges]
  rw [Edge.normalize_of_nodup (h.relabel (putFor_injective apart)).keys_distinct]
  rfl

/-- **Renaming a node puts its new name for the old one and does nothing else.** In a graph that is
named apart, where the new name is trimmed and not blank and no other node's label, the nodes and
edges stay as many, in their places, with all that is not a name; and the old name, if it is trimmed
and not blank, can be given back, which makes the graph what it was. -/
theorem renameState_exact (h : g.NamedApart) (known : a ∈ g.nodeIds) (trimmed : Text.strip b = b)
    (visible : Text.isBlankText b = false) (free : ∀ n ∈ g.nodes, n.id ≠ a → n.label ≠ b) :
    g.renameState a b = some (g.relabel (putFor a b)) ∧
      (Text.strip a = a → Text.isBlankText a = false →
        (g.relabel (putFor a b)).renameState b a = some g) := by
  have apart := h.ne_of_free free
  refine ⟨h.renameState_eq known trimmed visible apart, fun trimmed visible => ?_⟩
  have ids : (g.relabel (putFor a b)).nodeIds = g.nodeIds.map (putFor a b) := nodeIds_relabel _ g
  have known_back : b ∈ (g.relabel (putFor a b)).nodeIds := by
    rw [ids]
    exact List.mem_map.mpr ⟨a, known, if_pos rfl⟩
  have apart_back : ∀ s ∈ (g.relabel (putFor a b)).nodeIds, s ≠ b → s ≠ a := by
    rw [ids]
    intro s hs other
    obtain ⟨t, ht, rfl⟩ := List.mem_map.mp hs
    by_cases same : t = a
    · exact absurd (if_pos same) other
    · rwa [putFor, if_neg same]
  have back := (h.relabel (putFor_injective apart)).renameState_eq known_back trimmed visible
    apart_back
  rw [back, h.relabel_relabel (putFor_putFor apart)]

end NamedApart

/-- Three nodes. One of them has an edge to itself, is the second source of another edge, and is
entered by a third; two of the edges have the same event. -/
def looped : Graph where
  nodes := [⟨"a", "a", true, .origin⟩, ⟨"b", "b", false, .origin⟩, ⟨"c", "c", false, .origin⟩]
  edges := [.of "a" "go" (some "ctx.x") ["a", "b"], .of "c" "go" none ["c", "a"],
    .of "a" "back" none ["c"]]

theorem renameState_exact_looped : looped.NamedApart ∧
    ∃ g', looped.renameState "a" "new a" = some g' ∧ g'.nodeIds = ["new a", "b", "c"] ∧
      g'.edges = [.of "new a" "go" (some "ctx.x") ["new a", "b"],
        .of "c" "go" none ["c", "new a"], .of "new a" "back" none ["c"]] ∧
      g'.renameState "new a" "a" = some looped := by
  have apart : looped.NamedApart := by
    constructor <;> decide
  have free : ∀ n ∈ looped.nodes, n.id ≠ "a" → n.label ≠ "new a" := by decide
  obtain ⟨renamed, back⟩ :=
    NamedApart.renameState_exact apart (by decide) (by decide) (by decide) free
  exact ⟨apart, _, renamed, by decide, by decide, back (by decide) (by decide)⟩

end Graph

end Statecraft
