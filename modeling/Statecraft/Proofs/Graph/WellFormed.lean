import Statecraft.Proofs.Graph.Merge
import Statecraft.Edit

/-!
# Well-formed graphs

A graph is well-formed when its nodes are named apart, at most one of them is initial,
and its edges are sound and have different keys. Main statements: `Graph.WellFormed.edit`, no
edit that is carried out leaves the well-formed graphs, and `edge_ids_distinct`, ids tell
the edges of a well-formed graph apart.
-/

namespace Statecraft

structure Graph.WellFormed (g : Graph) : Prop where
  ids_are_labels : ∀ n ∈ g.nodes, n.id = n.label
  ids_distinct : g.nodeIds.Nodup
  one_initial : g.nodes.countP Node.isInitial ≤ 1
  edges_sound : ∀ e ∈ g.edges, e.Sound g.nodeIds
  keys_distinct : (g.edges.map Edge.key).Nodup

theorem Edge.Sound.mono {ids ids' : List String} {e : Edge} (h : e.Sound ids)
    (hi : ∀ s ∈ ids, s ∈ ids') : e.Sound ids' :=
  { h with
    target_known := hi _ h.target_known
    sources_known := fun s hs => hi s (h.sources_known s hs) }

theorem Edge.id_eq {e f : Edge} (h : e.id = f.id) : e.source = f.source ∧ e.key = f.key := by
  obtain ⟨hs, he, ht⟩ := edgeId_injective h
  exact ⟨hs, Prod.ext he ht⟩

/-- Edges with different keys have different ids. -/
theorem Edge.nodup_ids {edges : List Edge} (keys : (edges.map Edge.key).Nodup) :
    (edges.map Edge.id).Nodup :=
  List.pairwise_map.mpr ((List.pairwise_map.mp keys).imp fun hk hid => hk (Edge.id_eq hid).2)

namespace Graph

theorem hasNode_iff {g : Graph} {id : String} : g.hasNode id = true ↔ id ∈ g.nodeIds := by
  simp [hasNode, node?, nodeIds, List.find?_isSome]

theorem edge?_mem {g : Graph} {id : String} {e : Edge} (h : g.edge? id = some e) : e ∈ g.edges :=
  List.mem_of_find?_eq_some h

/-- Where edges have different keys, an id finds the edge that has it. -/
theorem edge?_eq_some_iff {g : Graph} (keys : (g.edges.map Edge.key).Nodup) {id : String}
    {f : Edge} : g.edge? id = some f ↔ f ∈ g.edges ∧ f.id = id := by
  constructor
  · exact fun found => ⟨edge?_mem found, by simpa using List.find?_some found⟩
  · rintro ⟨hf, rfl⟩
    have some_edge : (g.edge? f.id).isSome := by
      rw [edge?, List.find?_isSome]
      exact ⟨f, hf, beq_self_eq_true _⟩
    obtain ⟨e, found⟩ := Option.isSome_iff_exists.mp some_edge
    have same : e.id = f.id := by simpa using List.find?_some found
    rw [found, List.inj_on_of_nodup_map (Edge.nodup_ids keys) (edge?_mem found) hf same]

namespace WellFormed

variable {g g' : Graph}

theorem empty : Graph.empty.WellFormed := by
  constructor <;> simp [Graph.empty, nodeIds]

theorem edge_ids_distinct (h : g.WellFormed) : (g.edges.map Edge.id).Nodup :=
  Edge.nodup_ids h.keys_distinct

theorem labels_eq_ids (h : g.WellFormed) : g.nodes.map Node.label = g.nodeIds :=
  List.map_congr_left fun n hn => (h.ids_are_labels n hn).symm

/-- Edges that were merged fit any nodes that they are sound for. -/
theorem of_normalize {nodes : List Node} {edges : List Edge}
    (labels : ∀ n ∈ nodes, n.id = n.label) (distinct : (nodes.map Node.id).Nodup)
    (initial : nodes.countP Node.isInitial ≤ 1) (sound : ∀ e ∈ edges, e.Sound (nodes.map Node.id)) :
    (⟨nodes, Edge.normalize edges⟩ : Graph).WellFormed where
  ids_are_labels := labels
  ids_distinct := distinct
  one_initial := initial
  edges_sound := Edge.normalize_sound sound
  keys_distinct := Edge.nodup_keys_normalize edges

/-- Changing nodes apart from their names. -/
theorem map_nodes (h : g.WellFormed) (f : Node → Node)
    (hf : ∀ n, (f n).id = n.id ∧ (f n).label = n.label)
    (initial : (g.nodes.map f).countP Node.isInitial ≤ 1) :
    ({ g with nodes := g.nodes.map f } : Graph).WellFormed := by
  have ids : ({ g with nodes := g.nodes.map f } : Graph).nodeIds = g.nodeIds := by
    rw [nodeIds, List.map_map]
    exact List.map_congr_left fun n _ => (hf n).1
  constructor
  · intro n hn
    obtain ⟨m, hm, rfl⟩ := List.mem_map.mp hn
    rw [(hf m).1, (hf m).2]
    exact h.ids_are_labels m hm
  · rw [ids]
    exact h.ids_distinct
  · exact initial
  · rw [ids]
    exact h.edges_sound
  · exact h.keys_distinct

/-- Changing positions only. -/
theorem map_positions (h : g.WellFormed) (f : Node → Node)
    (hf : ∀ n, (f n).id = n.id ∧ (f n).label = n.label ∧ (f n).isInitial = n.isInitial) :
    ({ g with nodes := g.nodes.map f } : Graph).WellFormed := by
  apply h.map_nodes f fun n => ⟨(hf n).1, (hf n).2.1⟩
  have same : (g.nodes.map f).countP Node.isInitial = g.nodes.countP Node.isInitial := by
    rw [List.countP_map]
    congr 1
    funext n
    exact (hf n).2.2
  rw [same]
  exact h.one_initial

theorem updateEdge {edge : String} {change : Edge → Edge} (h : g.WellFormed)
    (hc : ∀ e ∈ g.edges, (change e).Sound g.nodeIds) (hu : g.updateEdge edge change = some g') :
    g'.WellFormed := by
  unfold Graph.updateEdge at hu
  split at hu
  · obtain rfl := Option.some.inj hu
    apply of_normalize h.ids_are_labels h.ids_distinct h.one_initial
    intro e he
    obtain ⟨f, hf, rfl⟩ := List.mem_map.mp he
    split
    · exact hc f hf
    · exact h.edges_sound f hf
  · cases hu

theorem addState (h : g.WellFormed) (name : Option String) (position : Option Position)
    (fallback : String) (distance : Float) :
    (g.addState name position fallback distance).WellFormed := by
  unfold Graph.addState
  dsimp only
  generalize hw : (if (Text.strip (name.getD "")).isEmpty then fallback
    else Text.strip (name.getD "")) = wanted
  have new : g.freshName wanted ∉ g.nodeIds := h.labels_eq_ids ▸ g.freshName_not_mem wanted
  constructor
  · intro n hn
    rcases List.mem_append.mp hn with hn | hn
    · exact h.ids_are_labels n hn
    · rw [List.mem_singleton.mp hn]
  · rw [nodeIds, List.map_append]
    exact h.ids_distinct.append (List.nodup_singleton _) (by simpa using new)
  · rw [List.countP_append]
    cases hg : g.nodes with
    | nil => simp
    | cons n r => simpa [List.countP_cons, hg] using h.one_initial
  · intro e he
    apply (h.edges_sound e he).mono
    intro s hs
    rw [nodeIds, List.map_append]
    exact List.mem_append_left _ hs
  · exact h.keys_distinct

theorem renameIn_sound {ids : List String} {e : Edge} (h : e.Sound ids) (node name : String) :
    (renameIn node name e).Sound (ids.map fun s => if s == node then name else s) where
  sources_nonempty := by
    show ((e.sources.map _).eraseDups : List String) ≠ []
    rw [ne_eq, eraseDups_eq_nil, List.map_eq_nil_iff]
    exact h.sources_nonempty
  sources_distinct := nodup_eraseDups _
  target_known := List.mem_map_of_mem h.target_known
  sources_known := by
    intro s hs
    obtain ⟨t, ht, rfl⟩ := List.mem_map.mp (List.mem_eraseDups.mp hs)
    exact List.mem_map_of_mem (h.sources_known t ht)
  guard_stored := h.guard_stored

theorem renameState (h : g.WellFormed) {node name : String}
    (hr : g.renameState node name = some g') : g'.WellFormed := by
  unfold Graph.renameState at hr
  dsimp only at hr
  split at hr
  · cases hr
  · rename_i ok
    obtain rfl := Option.some.inj hr
    simp only [Bool.or_eq_true, Bool.not_eq_true', not_or, List.any_eq_true, Bool.and_eq_true,
      bne_iff_ne, beq_iff_eq, not_exists, not_and] at ok
    obtain ⟨_, free⟩ := ok
    have ids : (renameNodes g.nodes node (Text.strip name)).map Node.id =
        g.nodeIds.map fun s => if s == node then Text.strip name else s := by
      simp only [renameNodes, nodeIds, List.map_map]
      apply List.map_congr_left
      intro n _
      simp only [Function.comp_apply]
      split <;> rfl
    apply of_normalize
    · intro n hn
      obtain ⟨m, hm, rfl⟩ := List.mem_map.mp hn
      split
      · rfl
      · exact h.ids_are_labels m hm
    · rw [ids]
      apply h.ids_distinct.map_on
      intro a ha b hb hab
      obtain ⟨m, hm, rfl⟩ := List.mem_map.mp ha
      obtain ⟨n, hn, rfl⟩ := List.mem_map.mp hb
      have hm' := h.ids_are_labels m hm
      have hn' := h.ids_are_labels n hn
      by_cases hma : m.id = node <;> by_cases hnb : n.id = node <;>
        simp only [hma, hnb, beq_self_eq_true, beq_iff_eq, if_true, if_false] at hab ⊢
      · exact absurd (hn' ▸ hab.symm) (free n hn hnb)
      · exact absurd (hm' ▸ hab) (free m hm hma)
      · exact hab
    · have same : (renameNodes g.nodes node (Text.strip name)).countP Node.isInitial =
          g.nodes.countP Node.isInitial := by
        rw [renameNodes, List.countP_map]
        congr 1
        funext n
        simp only [Function.comp_apply]
        split <;> rfl
      rw [same]
      exact h.one_initial
    · intro e he
      obtain ⟨f, hf, rfl⟩ := List.mem_map.mp he
      rw [ids]
      exact renameIn_sound (h.edges_sound f hf) node (Text.strip name)

theorem withoutNode_sound {ids : List String} {e e' : Edge} {node : String} (h : e.Sound ids)
    (hw : withoutNode node e = some e') : e'.Sound (ids.filter (· != node)) := by
  unfold withoutNode at hw
  dsimp only at hw
  split at hw
  · cases hw
  · rename_i left
    obtain rfl := Option.some.inj hw
    simp only [Bool.or_eq_true, beq_iff_eq, List.isEmpty_iff, not_or] at left
    refine ⟨left.2, h.sources_distinct.filter _, ?_, ?_, h.guard_stored⟩
    · exact List.mem_filter.mpr ⟨h.target_known, by simpa using left.1⟩
    · intro s hs
      obtain ⟨hs, hne⟩ := List.mem_filter.mp hs
      exact List.mem_filter.mpr ⟨h.sources_known s hs, hne⟩

theorem deleteState (h : g.WellFormed) {node : String} (hd : g.deleteState node = some g') :
    g'.WellFormed := by
  unfold Graph.deleteState at hd
  split at hd
  · obtain rfl := Option.some.inj hd
    have ids : (g.nodes.filter (·.id != node)).map Node.id = g.nodeIds.filter (· != node) := by
      rw [nodeIds, List.filter_map]
      rfl
    apply of_normalize
    · exact fun n hn => h.ids_are_labels n (List.mem_filter.mp hn).1
    · rw [ids]
      exact h.ids_distinct.filter _
    · exact Nat.le_trans List.filter_sublist.countP_le h.one_initial
    · intro e he
      obtain ⟨f, hf, hw⟩ := List.mem_filterMap.mp he
      rw [ids]
      exact withoutNode_sound (h.edges_sound f hf) hw
  · cases hd

theorem setInitial (h : g.WellFormed) {node : String} (hs : g.setInitial node = some g') :
    g'.WellFormed := by
  unfold Graph.setInitial at hs
  split at hs
  · obtain rfl := Option.some.inj hs
    apply h.map_nodes (fun n => { n with isInitial := n.id == node }) (fun _ => ⟨rfl, rfl⟩)
    have flagged : (g.nodes.map fun n => { n with isInitial := n.id == node }).countP
        Node.isInitial = g.nodeIds.count node := by
      rw [List.countP_map, nodeIds, List.count, List.countP_map]
      rfl
    rw [flagged]
    exact List.nodup_iff_count_le_one.mp h.ids_distinct node
  · cases hs

theorem moveState (h : g.WellFormed) {node : String} {position : Position}
    (hm : g.moveState node position = some g') : g'.WellFormed := by
  unfold Graph.moveState at hm
  split at hm
  · obtain rfl := Option.some.inj hm
    apply h.map_positions
    intro n
    split <;> exact ⟨rfl, rfl, rfl⟩
  · cases hm

theorem connect (h : g.WellFormed) {source target event : String} {guard : Option String}
    (hc : g.connect source target event guard = some g') : g'.WellFormed := by
  unfold Graph.connect at hc
  split at hc
  · rename_i known
    simp only [Bool.and_eq_true, hasNode_iff] at known
    obtain rfl := Option.some.inj hc
    apply of_normalize h.ids_are_labels h.ids_distinct h.one_initial
    intro e he
    rcases List.mem_append.mp he with he | he
    · exact h.edges_sound e he
    · rw [List.mem_singleton.mp he]
      have one : [source].eraseDups = [source] := rfl
      refine ⟨by simp [Edge.of, one], by simp [Edge.of, one], known.2, ?_,
        guardText?_guardText? guard⟩
      intro s hs
      rw [Edge.of, one, List.mem_singleton] at hs
      exact hs ▸ known.1
  · cases hc

theorem retarget (h : g.WellFormed) {edge target : String}
    (hr : g.retarget edge target = some g') : g'.WellFormed := by
  unfold Graph.retarget at hr
  split at hr
  · rename_i known
    apply h.updateEdge _ hr
    intro e he
    exact { h.edges_sound e he with target_known := hasNode_iff.mp known }
  · cases hr

theorem deleteEdge (h : g.WellFormed) (edge : String) : (g.deleteEdge edge).WellFormed where
  ids_are_labels := h.ids_are_labels
  ids_distinct := h.ids_distinct
  one_initial := h.one_initial
  edges_sound := fun e he => h.edges_sound e (List.mem_filter.mp he).1
  keys_distinct := (List.filter_sublist.map Edge.key).nodup h.keys_distinct

theorem setEvent (h : g.WellFormed) {edge event : String}
    (hs : g.setEvent edge event = some g') : g'.WellFormed := by
  apply h.updateEdge _ hs
  intro e he
  have sound := h.edges_sound e he
  exact ⟨sound.1, sound.2, sound.3, sound.4, sound.5⟩

theorem setGuard (h : g.WellFormed) {edge : String} {guard : Option String}
    (hs : g.setGuard edge guard = some g') : g'.WellFormed := by
  apply h.updateEdge _ hs
  intro e he
  exact { h.edges_sound e he with guard_stored := guardText?_strip guard }

theorem addSource (h : g.WellFormed) {edge state : String}
    (ha : g.addSource edge state = some g') : g'.WellFormed := by
  unfold Graph.addSource at ha
  split at ha
  · cases ha
  · rename_i e found
    split at ha
    · rename_i ok
      simp only [Bool.and_eq_true, hasNode_iff, Bool.not_eq_true', List.contains_eq_mem,
        decide_eq_false_iff_not] at ok
      have sound := h.edges_sound e (edge?_mem found)
      apply h.updateEdge _ ha
      intro f hf
      have other := h.edges_sound f hf
      refine ⟨by simp, ?_, other.target_known, ?_, other.guard_stored⟩
      · exact sound.sources_distinct.append (List.nodup_singleton _) (by simpa using ok.2)
      · intro s hs
        rcases List.mem_append.mp hs with hs | hs
        · exact sound.sources_known s hs
        · exact List.mem_singleton.mp hs ▸ ok.1
    · cases ha

theorem removeSource (h : g.WellFormed) {edge state : String}
    (hr : g.removeSource edge state = some g') : g'.WellFormed := by
  unfold Graph.removeSource at hr
  split at hr
  · cases hr
  · rename_i e found
    split at hr
    · rename_i ok
      simp only [Bool.and_eq_true, bne_iff_ne, List.contains_eq_mem, decide_eq_true_eq] at ok
      have sound := h.edges_sound e (edge?_mem found)
      apply h.updateEdge _ hr
      intro f hf
      have other := h.edges_sound f hf
      refine ⟨?_, sound.sources_distinct.filter _, other.target_known, ?_, other.guard_stored⟩
      · -- there are at least two sources, and one of them goes
        have left := List.length_erase_of_mem ok.1
        rw [sound.sources_distinct.erase_eq_filter] at left
        have some_source := List.length_pos_of_mem ok.1
        show e.sources.filter (· != state) ≠ []
        apply List.ne_nil_of_length_pos
        omega
      · exact fun s hs => sound.sources_known s (List.mem_filter.mp hs).1
    · cases hr

theorem arranged (h : g.WellFormed) (direction : Layout.Direction)
    (config : Layout.Config Float) : (g.arranged direction config).WellFormed :=
  h.map_positions _ fun _ => ⟨rfl, rfl, rfl⟩

/-- No edit leads out of the well-formed graphs. -/
theorem edit (h : g.WellFormed) {e : Edit} (he : g.edit? e = some g') : g'.WellFormed := by
  cases e with
  | addState name position fallback distance =>
    exact Option.some.inj he ▸ h.addState name position fallback distance
  | renameState node name => exact h.renameState he
  | deleteState node => exact h.deleteState he
  | setInitial node => exact h.setInitial he
  | moveState node position => exact h.moveState he
  | connect source target event guard => exact h.connect he
  | retarget edge target => exact h.retarget he
  | deleteEdge edge => exact Option.some.inj he ▸ h.deleteEdge edge
  | setEvent edge event => exact h.setEvent he
  | setGuard edge guard => exact h.setGuard he
  | addSource edge state => exact h.addSource he
  | removeSource edge state => exact h.removeSource he
  | layout direction config => exact Option.some.inj he ▸ h.arranged direction config

end WellFormed

end Graph

end Statecraft
