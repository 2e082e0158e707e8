import Statecraft.Proofs.Graph.Normal

/-!
# Edges led elsewhere

An edge that is given another target or another event takes its moves along, and a new edge brings
one move; nothing else changes, also where the edge meets another one and they become one
(`Graph.edits_redraw`). The step is the same each time: the edges of the pairs of event and target
that are not named stay as they are (`Edge.mem_normalize_congr`), and those that meet are merged in
their order.
-/

namespace Statecraft

namespace Edge

variable {e f new : Edge} {edges edges' : List Edge} {k : String × String} {s : String}

/-- Edges are merged alike where those with their event and target are. -/
theorem mem_normalize_congr
    (same : edges.filter (·.key == e.key) = edges'.filter (·.key == e.key)) :
    e ∈ normalize edges ↔ e ∈ normalize edges' := by
  rw [mem_normalize, mem_normalize, same]

/-- Where there is an edge for a pair, there is one after merging. -/
theorem exists_mem_normalize (h : e ∈ edges) : ∃ f ∈ normalize edges, f.key = e.key := by
  have known : e.key ∈ (normalize edges).map key := by
    rw [keys_normalize, List.mem_eraseDups]
    exact List.mem_map_of_mem h
  exact List.mem_map.mp known

theorem holds_concat : Keyed.Holds key sources (edges ++ [new]) k s ↔
    Keyed.Holds key sources edges k s ∨ new.key = k ∧ s ∈ new.sources := by
  simp only [Keyed.Holds, List.mem_append, List.mem_singleton, or_and_right, exists_or,
    exists_eq_left]

/-- The edges with another one in place of that with the key. -/
def replaceAt (k : String × String) (new : Edge) (edges : List Edge) : List Edge :=
  edges.map fun e => if e.key = k then new else e

section ReplaceAt

variable (distinct : (edges.map key).Nodup) (hf : f ∈ edges)
include distinct hf

/-- The moves of the replaced edge go, and those of the new one come. -/
theorem holds_replaceAt : Keyed.Holds key sources (replaceAt f.key new edges) k s ↔
    Keyed.Holds key sources edges k s ∧ ¬(k = f.key ∧ s ∈ f.sources) ∨
      k = new.key ∧ s ∈ new.sources := by
  constructor
  · rintro ⟨_, hn, rfl, hs⟩
    obtain ⟨e, he, rfl⟩ := List.mem_map.mp hn
    by_cases here : e.key = f.key
    · rw [if_pos here] at hs ⊢
      exact Or.inr ⟨rfl, hs⟩
    · rw [if_neg here] at hs ⊢
      exact Or.inl ⟨⟨e, he, rfl, hs⟩, fun gone => here gone.1⟩
  · rintro (⟨⟨e, he, rfl, hs⟩, stays⟩ | ⟨rfl, hs⟩)
    · have elsewhere : e.key ≠ f.key := fun same =>
        stays ⟨same, List.inj_on_of_nodup_map distinct he hf same ▸ hs⟩
      exact ⟨e, List.mem_map.mpr ⟨e, he, if_neg elsewhere⟩, rfl, hs⟩
    · exact ⟨new, List.mem_map.mpr ⟨f, hf, if_pos rfl⟩, rfl, hs⟩

/-- The edges that meet where the new one arrives have the guards of those that met, in their
order. -/
theorem firstText_replaceAt (guard : new.guardText = f.guardText) :
    ((replaceAt f.key new edges).filter (·.key == new.key)).findSome? guardText =
      (edges.filter fun e => e.key == f.key || e.key == new.key).findSome? guardText := by
  have arrives : ∀ e ∈ edges, ((if e.key = f.key then new else e).key == new.key) =
      (e.key == f.key || e.key == new.key) := by
    intro e _
    by_cases here : e.key = f.key <;> simp [here]
  have said : ∀ e ∈ edges, (if e.key = f.key then new else e).guardText = e.guardText := by
    intro e he
    split
    · rename_i here
      rw [guard, List.inj_on_of_nodup_map distinct he hf here]
    · rfl
  rw [replaceAt, List.filter_map, ← List.head?_filterMap, ← List.head?_filterMap,
    List.filterMap_map]
  simp only [Function.comp_def]
  rw [List.filter_congr arrives]
  congr 1
  exact List.filterMap_congr fun e he => said e (List.mem_filter.mp he).1

omit distinct hf in
theorem filter_replaceAt_of_ne {k' : String × String} (old : k' ≠ k) (arrival : k' ≠ new.key) :
    (replaceAt k new edges).filter (·.key == k') = edges.filter (·.key == k') := by
  have same : ∀ e ∈ edges, ((if e.key = k then new else e).key == k') = (e.key == k') := by
    intro e _
    by_cases here : e.key = k
    · simp [here, Ne.symm old, Ne.symm arrival]
    · simp [here]
  rw [replaceAt, List.filter_map]
  simp only [Function.comp_def]
  rw [List.filter_congr same]
  refine map_eq_self fun e he => ?_
  have own : e.key = k' := by simpa using (List.mem_filter.mp he).2
  rw [if_neg (own ▸ old)]

end ReplaceAt

end Edge

namespace Graph

/-- A state fires an event into a target. -/
def Fires (g : Graph) (source event target : String) : Prop :=
  Keyed.Holds Edge.key Edge.sources g.edges (event, target) source

/-- The graph after its edges have changed for some pairs of event and target: all other edges are
as they were, and the edges that met at one of these pairs are one, with the first guard that any of
them says. -/
structure Redrawn (g : Graph) (named : List (String × String)) (arrival : String × String)
    (met : List Edge) (g' : Graph) : Prop where
  nodes_eq : g'.nodes = g.nodes
  keys_distinct : (g'.edges.map Edge.key).Nodup
  others : ∀ e : Edge, e.key ∉ named → (e ∈ g'.edges ↔ e ∈ g.edges)
  guard_first : ∃ e ∈ g'.edges, e.key = arrival ∧ e.guardText = met.findSome? Edge.guardText

/-- The graph after the edge `f` was led to an event and a target. -/
structure Led (g : Graph) (f : Edge) (event target : String) (g' : Graph) : Prop
    extends Redrawn g [f.key, (event, target)] (event, target)
      (g.edges.filter fun e => e.key == f.key || e.key == (event, target)) g' where
  fires_iff : ∀ s e t, g'.Fires s e t ↔
    g.Fires s e t ∧ ¬(s ∈ f.sources ∧ e = f.event ∧ t = f.target) ∨
      s ∈ f.sources ∧ e = event ∧ t = target

/-- The graph after an edge was drawn from a node. -/
structure Drawn (g : Graph) (source target event : String) (guard : Option String) (g' : Graph) :
    Prop
    extends Redrawn g [(event, target)] (event, target)
      (g.edges.filter (·.key == (event, target)) ++ [.of target event guard [source]]) g' where
  fires_iff : ∀ s e t, g'.Fires s e t ↔ g.Fires s e t ∨ s = source ∧ e = event ∧ t = target

variable {g g' : Graph} {f : Edge}

theorem redrawn_normalize (distinct : (g.edges.map Edge.key).Nodup) {edges met : List Edge}
    {named : List (String × String)} {new : Edge} (there : new ∈ edges)
    (others : ∀ k ∉ named, edges.filter (·.key == k) = g.edges.filter (·.key == k))
    (guards : (edges.filter (·.key == new.key)).findSome? Edge.guardText =
      met.findSome? Edge.guardText) :
    g.Redrawn named new.key met { g with edges := Edge.normalize edges } where
  nodes_eq := rfl
  keys_distinct := Edge.nodup_keys_normalize edges
  others := by
    intro e he
    conv_rhs => rw [← Edge.normalize_of_nodup distinct]
    exact Edge.mem_normalize_congr (others e.key he)
  guard_first := by
    obtain ⟨e, he, same⟩ := Edge.exists_mem_normalize there
    exact ⟨e, he, same, by rw [Edge.normalize_guard he, same, guards]⟩

/-- The edge that an edit names by its id is the one with its key. -/
theorem updateEdge_eq (distinct : (g.edges.map Edge.key).Nodup) (hf : f ∈ g.edges)
    (change : Edge → Edge) : g.updateEdge f.id change =
      some { g with edges := Edge.normalize (Edge.replaceAt f.key (change f) g.edges) } := by
  have found : g.edge? f.id = some f := (edge?_eq_some_iff distinct).mpr ⟨hf, rfl⟩
  have changed : (g.edges.map fun e => if e.id == f.id then change e else e) =
      Edge.replaceAt f.key (change f) g.edges := by
    refine List.map_congr_left fun e he => ?_
    by_cases same : e.key = f.key
    · rw [List.inj_on_of_nodup_map distinct he hf same, if_pos (beq_self_eq_true _), if_pos rfl]
    · rw [if_neg fun id => same (Edge.id_eq (beq_iff_eq.mp id)).2, if_neg same]
  unfold updateEdge
  rw [found, if_pos Option.isSome_some, changed]

/-- A change of an edge that leaves its sources and its guard leads it to another pair. -/
theorem updateEdge_led (distinct : (g.edges.map Edge.key).Nodup) (hf : f ∈ g.edges)
    {change : Edge → Edge} (sources : (change f).sources = f.sources)
    (guard : (change f).guard = f.guard) :
    ∃ g', g.updateEdge f.id change = some g' ∧ g.Led f (change f).event (change f).target g' := by
  have there : change f ∈ Edge.replaceAt f.key (change f) g.edges :=
    List.mem_map.mpr ⟨f, hf, if_pos rfl⟩
  have others : ∀ k ∉ [f.key, (change f).key],
      (Edge.replaceAt f.key (change f) g.edges).filter (·.key == k) =
        g.edges.filter (·.key == k) := by
    intro k hk
    simp only [List.mem_cons, List.not_mem_nil, or_false, not_or] at hk
    exact Edge.filter_replaceAt_of_ne hk.1 hk.2
  have guards := Edge.firstText_replaceAt distinct hf (congrArg Bundle.take.guardText guard)
  refine ⟨_, updateEdge_eq distinct hf change,
    redrawn_normalize distinct there others guards, fun s e t => ?_⟩
  unfold Fires
  rw [Edge.normalize_moves, Edge.holds_replaceAt distinct hf, sources]
  simp only [Edge.key, Prod.mk.injEq, and_comm, and_assoc]

theorem connect_drawn (distinct : (g.edges.map Edge.key).Nodup) {source target : String}
    (hs : source ∈ g.nodeIds) (ht : target ∈ g.nodeIds) (event : String)
    (guard : Option String) :
    ∃ g', g.connect source target event guard = some g' ∧
      g.Drawn source target event guard g' := by
  let new : Edge := .of target event guard [source]
  have connected : g.connect source target event guard =
      some { g with edges := Edge.normalize (g.edges ++ [new]) } := by
    unfold connect
    rw [hasNode_iff.mpr hs, hasNode_iff.mpr ht]
    rfl
  have there : new ∈ g.edges ++ [new] := List.mem_append_right _ (List.mem_singleton_self new)
  have others : ∀ k ∉ [(event, target)],
      (g.edges ++ [new]).filter (·.key == k) = g.edges.filter (·.key == k) := by
    intro k hk
    have elsewhere : new.key ≠ k := fun same => hk (List.mem_singleton.mpr same.symm)
    simp [elsewhere]
  have guards : ((g.edges ++ [new]).filter (·.key == new.key)).findSome? Edge.guardText =
      (g.edges.filter (·.key == new.key) ++ [new]).findSome? Edge.guardText := by simp
  refine ⟨_, connected, redrawn_normalize distinct there others guards, fun s e t => ?_⟩
  have move : new.key = (e, t) ∧ s ∈ new.sources ↔ s = source ∧ e = event ∧ t = target := by
    have own : new.sources = [source] := rfl
    rw [own, List.mem_singleton, eq_comm, Edge.key, Prod.mk.injEq, and_comm]
    exact Iff.rfl
  unfold Fires
  rw [Edge.normalize_moves, Edge.holds_concat, move]

/-- **An edit of edges moves or adds the transitions that it names, and no others.** Where no two
edges have one event and target, an edge that is given another target or another event takes all its
moves along, and a new edge adds one. The guards of all other pairs of event and target stay, and
the pair that the edit arrives at has the first guard of the edges that met there. -/
theorem edits_redraw (distinct : (g.edges.map Edge.key).Nodup) :
    (∀ f ∈ g.edges, ∀ target ∈ g.nodeIds,
      ∃ g', g.retarget f.id target = some g' ∧ g.Led f f.event target g') ∧
    (∀ f ∈ g.edges, ∀ event,
      ∃ g', g.setEvent f.id event = some g' ∧ g.Led f (Text.strip event) f.target g') ∧
    ∀ source ∈ g.nodeIds, ∀ target ∈ g.nodeIds, ∀ event guard,
      ∃ g', g.connect source target event guard = some g' ∧
        g.Drawn source target event guard g' := by
  refine ⟨fun f hf target known => ?_, fun f hf event => ?_, fun source hs target ht event guard =>
    connect_drawn distinct hs ht event guard⟩
  · unfold retarget
    rw [if_pos (hasNode_iff.mpr known)]
    exact updateEdge_led distinct hf rfl rfl
  · exact updateEdge_led distinct hf rfl rfl

/-- Three nodes and three edges, each of which has a source that another one has too. Only the last
one has a guard. -/
def meeting : Graph where
  nodes := [⟨"a", "a", true, .origin⟩, ⟨"b", "b", false, .origin⟩, ⟨"c", "c", false, .origin⟩]
  edges := [.of "a" "go" none ["a", "b"], .of "b" "go" none ["c", "a"],
    .of "c" "go" (some "ctx.x") ["b", "c"]]

theorem edits_redraw_meeting : (meeting.edges.map Edge.key).Nodup ∧
    (∃ g', meeting.retarget "b-go-c" "a" = some g' ∧
      g'.edges = [.of "a" "go" (some "ctx.x") ["a", "b", "c"], .of "b" "go" none ["c", "a"]] ∧
      meeting.Led (.of "c" "go" (some "ctx.x") ["b", "c"]) "go" "a" g') ∧
    (∃ g', meeting.setEvent "b-go-c" " halt " = some g' ∧
      meeting.Led (.of "c" "go" (some "ctx.x") ["b", "c"]) "halt" "c" g') ∧
    ∃ g', meeting.connect "b" "b" "go" (some "ctx.y") = some g' ∧
      meeting.Drawn "b" "b" "go" (some "ctx.y") g' := by
  have distinct : (meeting.edges.map Edge.key).Nodup := by decide
  have last : .of "c" "go" (some "ctx.x") ["b", "c"] ∈ meeting.edges := by decide
  have node_a : "a" ∈ meeting.nodeIds := by decide
  have node_b : "b" ∈ meeting.nodeIds := by decide
  have id : (Edge.of "c" "go" (some "ctx.x") ["b", "c"]).id = "b-go-c" := by decide
  have trimmed : Text.strip " halt " = "halt" := by decide
  have edges : (meeting.retarget "b-go-c" "a").map Graph.edges =
      some [.of "a" "go" (some "ctx.x") ["a", "b", "c"], .of "b" "go" none ["c", "a"]] := by decide
  obtain ⟨retargeted, renamed, connected⟩ := edits_redraw distinct
  obtain ⟨g', found, led⟩ := retargeted _ last "a" node_a
  rw [id] at found
  rw [found] at edges
  refine ⟨distinct, ⟨g', found, Option.some.inj edges, led⟩, ?_,
    connected "b" node_b "b" node_b "go" (some "ctx.y")⟩
  rw [← id, ← trimmed]
  exact renamed _ last " halt "

end Graph

end Statecraft
