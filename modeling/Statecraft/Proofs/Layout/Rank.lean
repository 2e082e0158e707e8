import Statecraft.Proofs.Layout.Layers

/-!
# Ranks are longest paths

The components of a graph are found from what its states reach (`condenses_condense`), and since
they have no cycle, as many rounds as there are components peel all of them off
(`peels_generations`). So the rank of a node is the length of a longest path over components that
ends there, whatever the edges are (`ranks_are_longest_paths`).
-/

namespace Statecraft.Layout

section Generations

variable {γ : Type} [BEq γ] [LawfulBEq γ] {links : List (γ × γ)} {left : List γ}

theorem isLinked_iff {d : γ} : isLinked links left d = true ↔ ∃ c ∈ left, (c, d) ∈ links := by
  unfold isLinked
  rw [List.any_eq_true]
  constructor
  · rintro ⟨⟨c, e⟩, link, found⟩
    rw [Bool.and_eq_true, beq_iff_eq, List.contains_iff_mem] at found
    exact ⟨c, found.2, found.1 ▸ link⟩
  · rintro ⟨c, hc, link⟩
    refine ⟨(c, d), link, ?_⟩
    rw [Bool.and_eq_true, beq_iff_eq, List.contains_iff_mem]
    exact ⟨rfl, hc⟩

/-- Where some of what is left can always be peeled off, it all is. -/
theorem peels_generations {n : Nat} (enough : left.length ≤ n)
    (founded : ∀ part, part ≠ [] → part ⊆ left → ∃ d ∈ part, ∀ c ∈ part, (c, d) ∉ links) :
    Peels links left (generations links n left) := by
  induction n generalizing left with
  | zero =>
    rw [List.length_eq_zero_iff.mp (Nat.le_zero.mp enough)]
    exact .done
  | succ n ih =>
    by_cases some_left : left = []
    · rw [some_left]
      exact .done
    · rw [generations, if_neg (by simpa using some_left)]
      have shorter : (left.filter (isLinked links left)).length < left.length := by
        obtain ⟨d, hd, free⟩ := founded left some_left (List.Subset.refl left)
        refine List.length_filter_lt_length_iff_exists.mpr ⟨d, hd, fun linked => ?_⟩
        obtain ⟨c, hc, link⟩ := isLinked_iff.mp linked
        exact free c hc link
      have rest : Peels links (left.filter (isLinked links left))
          (generations links n (left.filter (isLinked links left))) :=
        ih (by omega) fun part some_part sub =>
          founded part some_part fun c hc => (List.mem_filter.mp (sub hc)).1
      refine .layer (List.perm_append_comm.trans (List.filter_append_perm _ left))
        (fun d hd c hc link => ?_) (fun d hd => isLinked_iff.mp (List.mem_filter.mp hd).2) rest
      have unlinked := (List.mem_filter.mp hd).2
      rw [isLinked_iff.mpr ⟨c, hc, link⟩] at unlinked
      cases unlinked

end Generations

section Condense

variable {states : List String} {arcs : List Arc} {s t : String} {c : List String}

theorem mem_component (hs : s ∈ states) :
    t ∈ component (reachOf states arcs) states s ↔ t ∈ states ∧ Mutual (Follows arcs) s t := by
  unfold component
  rw [List.mem_filter]
  exact and_congr_right fun ht => mutual_iff hs ht

theorem mem_component_self (arcs : List Arc) (hs : s ∈ states) :
    s ∈ component (reachOf states arcs) states s :=
  (mem_component hs).mpr ⟨hs, Mutual.refl s⟩

theorem component_eq_iff (hs : s ∈ states) (ht : t ∈ states) :
    component (reachOf states arcs) states s = component (reachOf states arcs) states t ↔
      Mutual (Follows arcs) s t := by
  constructor
  · intro same
    have own := mem_component_self arcs ht
    rw [← same] at own
    exact ((mem_component hs).mp own).2
  · intro both
    refine List.filter_congr fun u hu => ?_
    rw [Bool.eq_iff_iff, mutual_iff hs hu, mutual_iff ht hu]
    exact ⟨both.symm.trans, both.trans⟩

/-- A component is the component of each of its states. -/
theorem component_of_mem (hc : c ∈ (condense states arcs).components) (hs : s ∈ c) :
    s ∈ states ∧ component (reachOf states arcs) states s = c := by
  obtain ⟨t, ht, rfl⟩ := List.mem_map.mp (List.mem_eraseDups.mp hc)
  obtain ⟨known, both⟩ := (mem_component ht).mp hs
  exact ⟨known, (component_eq_iff known ht).mpr both.symm⟩

theorem component_mem (arcs : List Arc) (hs : s ∈ states) :
    component (reachOf states arcs) states s ∈ (condense states arcs).components :=
  List.mem_eraseDups.mpr (List.mem_map_of_mem hs)

theorem perm_components (arcs : List Arc) (distinct : states.Nodup) :
    (condense states arcs).components.flatten.Perm states := by
  refine (List.perm_ext_iff_of_nodup (List.nodup_flatten.mpr ⟨fun c hc => ?_, ?_⟩) distinct).mpr
    fun s => ⟨fun hs => ?_, fun hs => ?_⟩
  · obtain ⟨s, -, rfl⟩ := List.mem_map.mp (List.mem_eraseDups.mp hc)
    exact distinct.filter _
  · refine (nodup_eraseDups (states.map _)).imp_of_mem fun hc hd other => ?_
    intro s hs ht
    exact other ((component_of_mem hc hs).2.symm.trans (component_of_mem hd ht).2)
  · obtain ⟨c, hc, hs⟩ := List.mem_flatten.mp hs
    exact (component_of_mem hc hs).1
  · exact List.mem_flatten.mpr ⟨_, component_mem arcs hs, mem_component_self arcs hs⟩

theorem condenses_condense (distinct : states.Nodup)
    (closed : ∀ s t, Follows arcs s t → s ∈ states ∧ t ∈ states) :
    Condenses (Follows arcs) states (condense states arcs).components
      (condense states arcs).links where
  covers := perm_components arcs distinct
  mutual_iff := by
    intro c hc d hd s hs t ht
    obtain ⟨known, rfl⟩ := component_of_mem hc hs
    obtain ⟨known', rfl⟩ := component_of_mem hd ht
    exact (component_eq_iff known known').symm
  mem_links := by
    intro c d
    constructor
    · intro link
      obtain ⟨made, other⟩ := List.mem_filter.mp link
      obtain ⟨⟨s, t⟩, arc, same⟩ := List.mem_map.mp made
      obtain ⟨rfl, rfl⟩ := Prod.mk.inj same
      obtain ⟨hs, ht⟩ := closed s t arc
      exact ⟨component_mem arcs hs, component_mem arcs ht, bne_iff_ne.mp other,
        s, mem_component_self arcs hs, t, mem_component_self arcs ht, arc⟩
    · rintro ⟨hc, hd, other, s, hs, t, ht, arc⟩
      obtain ⟨-, rfl⟩ := component_of_mem hc hs
      obtain ⟨-, rfl⟩ := component_of_mem hd ht
      exact List.mem_filter.mpr ⟨List.mem_map.mpr ⟨(s, t), arc, rfl⟩, bne_iff_ne.mpr other⟩

end Condense

section Ranks

variable {nodes : List Node}

theorem closed_arcs (nodes : List Node) (edges : List Edge) (s t : String)
    (h : Leads nodes edges s t) : s ∈ nodes.map Node.id ∧ t ∈ nodes.map Node.id :=
  ⟨h.1, h.2.1⟩

/-- The condensation of a graph's arcs is one of the graph. -/
theorem condenses_arcs (distinct : (nodes.map Node.id).Nodup) (edges : List Edge) :
    Condenses (Leads nodes edges) (nodes.map Node.id)
      (condense (nodes.map Node.id) (arcs nodes edges)).components
      (condense (nodes.map Node.id) (arcs nodes edges)).links := by
  have closed := closed_arcs nodes edges
  rw [← follows_arcs] at closed ⊢
  exact condenses_condense distinct closed

/-- All of it is peeled off. -/
theorem peels_arcs (distinct : (nodes.map Node.id).Nodup) (edges : List Edge) :
    Peels (condense (nodes.map Node.id) (arcs nodes edges)).links
      (condense (nodes.map Node.id) (arcs nodes edges)).components
      (generations (condense (nodes.map Node.id) (arcs nodes edges)).links
        (condense (nodes.map Node.id) (arcs nodes edges)).components.length
        (condense (nodes.map Node.id) (arcs nodes edges)).components) :=
  peels_generations (Nat.le_refl _) fun _ => (condenses_arcs distinct edges).exists_free

/-- Condensed and peeled in any way, a graph has the ranks that longest paths give. -/
theorem longest_of_peels {edges : List Edge} {components : List (List String)}
    {links : List (List String × List String)} {layers : List (List (List String))}
    (condenses : Condenses (Leads nodes edges) (nodes.map Node.id) components links)
    (peels : Peels links components layers) :
    (Ranks.ofLayers layers).Longest (Leads nodes edges) (nodes.map Node.id) :=
  longest_ofLayers condenses peels (closed_arcs nodes edges)

theorem longest_ranks (distinct : (nodes.map Node.id).Nodup) (edges : List Edge) :
    (ranks nodes edges).Longest (Leads nodes edges) (nodes.map Node.id) := by
  unfold ranks
  rw [eraseDups_of_nodup distinct]
  exact longest_of_peels (condenses_arcs distinct edges) (peels_arcs distinct edges)

/-- **The rank of a node is the length of a longest path over components that ends there.** Each
node has one rank. So nodes that reach each other share theirs, an arc between different components
leads to a higher rank, edges with the same arcs give the same ranks, and so does every way to
condense the graph and to peel off its components. -/
theorem ranks_are_longest_paths (distinct : (nodes.map Node.id).Nodup) (edges : List Edge) :
    (ranks nodes edges).Longest (Leads nodes edges) (nodes.map Node.id) ∧
    (∀ p ∈ ranks nodes edges, ∀ q ∈ ranks nodes edges,
      (Mutual (Leads nodes edges) p.1 q.1 → p.2 = q.2) ∧
      (Leads nodes edges p.1 q.1 → ¬ Mutual (Leads nodes edges) p.1 q.1 → p.2 < q.2)) ∧
    (∀ edges', (∀ s t, Leads nodes edges' s t ↔ Leads nodes edges s t) →
      ∀ p, p ∈ ranks nodes edges' ↔ p ∈ ranks nodes edges) ∧
    ∀ components links layers,
      Condenses (Leads nodes edges) (nodes.map Node.id) components links →
      Peels links components layers →
      ∀ p, p ∈ Ranks.ofLayers layers ↔ p ∈ ranks nodes edges := by
  have own := longest_ranks distinct edges
  refine ⟨own, fun p hp q hq => ⟨own.shared hp hq, own.rises hp hq⟩, fun edges' same p => ?_,
    fun components links layers condenses peels p => (longest_of_peels condenses peels).unique own⟩
  have arcs : Leads nodes edges' = Leads nodes edges :=
    funext fun s => funext fun t => propext (same s t)
  exact (arcs ▸ longest_ranks distinct edges').unique own

end Ranks

/-- Five states, two of which reach each other. One edge leads from a state to itself, one to a
state that is not there, and one starts in such a state too; from the first state to the last but
one there is a short way and a long one. -/
def player : List Node :=
  ["idle", "playing", "paused", "done", "spare"].map fun s => ⟨s, s, false, .origin⟩

def playerEdges : List Edge :=
  [.of "playing" "start" none ["idle"], .of "paused" "pause" none ["playing"],
    .of "playing" "resume" none ["paused"], .of "done" "stop" none ["ghost", "paused", "playing"],
    .of "done" "skip" none ["idle"], .of "idle" "stay" none ["idle"],
    .of "ghost" "leave" none ["done"]]

theorem ranks_of_player :
    (player.map Node.id).Nodup ∧
    ranks player playerEdges =
      [("idle", 0), ("spare", 0), ("playing", 1), ("paused", 1), ("done", 2)] ∧
    IsGreatest {n | Arrives (Leads player playerEdges) n "done"} 2 ∧
    (Mutual (Leads player playerEdges) "playing" "paused" ∧
      ∀ m n, ("playing", m) ∈ ranks player playerEdges →
        ("paused", n) ∈ ranks player playerEdges → m = n) ∧
    (Leads player playerEdges "idle" "done" ∧ ¬ Mutual (Leads player playerEdges) "idle" "done" ∧
      ∀ m n, ("idle", m) ∈ ranks player playerEdges →
        ("done", n) ∈ ranks player playerEdges → m < n) ∧
    (∀ p, p ∈ ranks player (playerEdges.reverse ++ playerEdges) ↔ p ∈ ranks player playerEdges) ∧
    ∃ components links layers,
      Condenses (Leads player playerEdges) (player.map Node.id) components links ∧
      Peels links components layers ∧
      ∀ p, p ∈ Ranks.ofLayers layers ↔ p ∈ ranks player playerEdges := by
  have distinct : (player.map Node.id).Nodup := by decide
  have known : ranks player playerEdges =
    [("idle", 0), ("spare", 0), ("playing", 1), ("paused", 1), ("done", 2)] := by decide
  have idle : "idle" ∈ player.map Node.id := by decide
  have playing : "playing" ∈ player.map Node.id := by decide
  have both : Mutual (Leads player playerEdges) "playing" "paused" := by
    rw [← follows_arcs, ← mutual_iff playing (by decide)]
    decide
  have arc : Leads player playerEdges "idle" "done" := mem_arcs.mp (by decide)
  have apart : ¬ Mutual (Leads player playerEdges) "idle" "done" := by
    rw [← follows_arcs, ← mutual_iff idle (by decide)]
    decide
  have same (s t : String) :
      Leads player (playerEdges.reverse ++ playerEdges) s t ↔ Leads player playerEdges s t := by
    simp [Leads]
  obtain ⟨own, steps, repeated, peeled⟩ := ranks_are_longest_paths distinct playerEdges
  have condenses := condenses_arcs distinct playerEdges
  have peels := peels_arcs distinct playerEdges
  exact ⟨distinct, known, own.longest ("done", 2) (by rw [known]; decide),
    ⟨both, fun _ _ hp hq => (steps _ hp _ hq).1 both⟩,
    ⟨arc, apart, fun _ _ hp hq => (steps _ hp _ hq).2 arc apart⟩, repeated _ same,
    _, _, _, condenses, peels, peeled _ _ _ condenses peels⟩

end Statecraft.Layout
