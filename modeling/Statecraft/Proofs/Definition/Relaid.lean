import Statecraft.Proofs.Definition.Derived
import Statecraft.Proofs.Definition.Positions
import Statecraft.Proofs.Definition.RoundTrip
import Statecraft.Proofs.Graph.Copies

/-!
# What a graph keeps of any definition

A graph shows a definition (`Graph.Shows`) when it has the nodes of the states, wherever these are,
and the merged transitions for edges. The way back from it drops what has no place among the
states: transitions into undeclared ones, sources that are undeclared, an undeclared initial state,
and all but the first guard of an event and target. The rest is kept
(`Graph.Shows.toDefinition_relaid`). An undeclared name that is the id of a repeated state's node is
taken for that state, so what is said of the moves by an event from one state into another asks that
no such name is mixed up with these two (`Definition.MovesApart`).
-/

namespace Statecraft

namespace Definition

/-- The guard of the first transition by an event into a target. -/
def guardOf (d : Definition) (event target : String) : Option String :=
  (d.transitions.find? (·.key == (event, target))).bind Transition.guard

/-- The name is the id of a node of the state: the state's own name for its first node, the name of
a copy for the others. -/
def StandsFor (d : Definition) (name state : String) : Prop :=
  (name, state) ∈ (nodeIdsOf d.states).zip d.states

/-- No other name stands for the target of some moves or for their source. -/
structure MovesApart (d : Definition) (source event target : String) : Prop where
  target_apart : ∀ t ∈ d.transitions, t.event = event → d.StandsFor t.target target →
    t.target = target
  source_apart : ∀ t ∈ d.transitions, t.event = event → t.target = target →
    ∀ s ∈ t.sources, d.StandsFor s source → s = source

/-- What another definition has kept of a definition, the positions under the key aside. -/
structure Relaid (key : String) (d kept : Definition) : Prop where
  states_kept : kept.states = d.states
  annotations_kept : kept.annotations.erase key = d.annotations.erase key
  initial_kept : d.initial ∈ d.states → kept.initial = d.initial
  initial_replaced : d.initial ∉ nodeIdsOf d.states → kept.initial = d.states.headD ""
  moves_kept : ∀ s e t, d.MovesApart s e t → ∀ g, kept.Moves s e t g ↔
    s ∈ d.states ∧ t ∈ d.states ∧ (∃ g', d.Moves s e t g') ∧ g = d.guardOf e t

variable {d : Definition}

theorem standsFor_self {s : String} (hs : s ∈ d.states) : d.StandsFor s s := self_mem_nodeIdsOf hs

theorem StandsFor.declared {name state : String} (h : d.StandsFor name state) : state ∈ d.states :=
  (List.of_mem_zip h).2

/-- Declared names stand for nothing but themselves. -/
theorem StandsFor.eq {name state : String} (h : d.StandsFor name state) (hn : name ∈ d.states) :
    name = state :=
  eq_of_mem_nodeIdsOf h hn

theorem StandsFor.unique {name s s' : String} (h : d.StandsFor name s) (h' : d.StandsFor name s') :
    s = s' := by
  have distinct : (((nodeIdsOf d.states).zip d.states).map Prod.fst).Nodup := by
    rw [map_fst_nodeIdsOf]
    exact nodup_nodeIdsOf d.states
  exact congrArg Prod.snd (List.inj_on_of_nodup_map distinct h h' rfl)

/-- If the states are all different, a name that is not declared stands for none of them. -/
theorem movesApart_of_nodup (distinct : d.states.Nodup) (s e t : String) : d.MovesApart s e t := by
  have only : ∀ name state, d.StandsFor name state → name = state := by
    intro name state stands
    refine stands.eq ?_
    rw [← nodeIdsOf_of_nodup distinct]
    exact (List.of_mem_zip stands).1
  exact ⟨fun u _ _ => only u.target t, fun _ _ _ _ x _ => only x s⟩

/-- An edge of merged transitions has the guard of the first of them. -/
theorem guardOf_eq {e : Edge} (he : e ∈ (mergeTransitions d.transitions).1) :
    d.guardOf e.event e.target = e.guard := by
  obtain ⟨t, _, found, _, same⟩ := merge_guard he
  have first : d.transitions.find? (·.key == (e.event, e.target)) = some t := found
  rw [guardOf, first]
  exact same

theorem guardText?_guardOf (d : Definition) (event target : String) :
    guardText? (d.guardOf event target) = d.guardOf event target := by
  unfold guardOf
  cases d.transitions.find? (·.key == (event, target)) with
  | none => rfl
  | some t => exact t.guard_stored

end Definition

theorem Edge.named?_eq_some {labels : List (String × String)} {e : Edge} {b : Bundle} :
    e.named? labels = some b ↔
      b.event = e.event ∧ labels.lookup e.target = some b.target ∧
        b.sources = e.sources.filterMap (fun s => labels.lookup s) ∧ b.sources ≠ [] ∧
        b.guard = e.guard := by
  obtain ⟨event, target, sources, guard⟩ := b
  unfold named?
  cases labels.lookup e.target with
  | none => simp
  | some target' =>
    cases e.sources.filterMap fun s => labels.lookup s with
    | nil => simp +contextual
    | cons s ss =>
      simp only [Option.some.injEq, Bundle.mk.injEq]
      constructor
      · rintro ⟨rfl, rfl, rfl, rfl⟩
        simp
      · rintro ⟨rfl, rfl, rfl, -, rfl⟩
        simp

namespace Graph

/-- The graph is that of the definition, wherever its nodes are. -/
structure Shows (g : Graph) (d : Definition) : Prop where
  names_eq : g.nodes.map (fun n => (n.id, n.label, n.isInitial)) =
    ((nodeIdsOf d.states).zip d.states).map fun p => (p.1, p.2, p.1 == d.initial)
  edges_eq : g.edges = (mergeTransitions d.transitions).1

theorem shows_toGraph (d : Definition) (p : Placement) : (d.toGraph p).1.Shows d := by
  obtain ⟨place, nodes⟩ := d.toGraph_nodes p
  refine ⟨?_, d.toGraph_edges p⟩
  rw [nodes, Definition.toNodes, List.map_map, List.map_map]
  rfl

namespace Shows

variable {g : Graph} {d : Definition}

/-- A layout moves nodes and does nothing else. -/
theorem arranged (h : g.Shows d) (direction : Layout.Direction) (config : Layout.Config Float) :
    (g.arranged direction config).Shows d := by
  refine ⟨?_, h.edges_eq⟩
  rw [← h.names_eq, Graph.arranged, arrange, List.map_map]
  rfl

theorem labels_eq (h : g.Shows d) : g.nodes.map Node.label = d.states := by
  have labels := congrArg (List.map fun t => t.2.1) h.names_eq
  rw [List.map_map, List.map_map] at labels
  exact labels.trans (map_snd_nodeIdsOf d.states)

theorem pairs_eq (h : g.Shows d) :
    g.nodes.map (fun n => (n.id, n.label)) = (nodeIdsOf d.states).zip d.states := by
  have pairs := congrArg (List.map fun t => (t.1, t.2.1)) h.names_eq
  rw [List.map_map, List.map_map] at pairs
  exact pairs.trans (List.map_id _)

theorem flag_eq (h : g.Shows d) {n : Node} (hn : n ∈ g.nodes) :
    n.isInitial = (n.id == d.initial) := by
  have mem := List.mem_map_of_mem (f := fun n : Node => (n.id, n.label, n.isInitial)) hn
  rw [h.names_eq] at mem
  obtain ⟨p, _, same⟩ := List.mem_map.mp mem
  simp only [Prod.mk.injEq] at same
  rw [← same.2.2, same.1]

/-- A node whose id is a state's name is of that state. -/
theorem label_eq_id (h : g.Shows d) {n : Node} (hn : n ∈ g.nodes) (declared : n.id ∈ d.states) :
    n.label = n.id := by
  have mem := List.mem_map_of_mem (f := fun n : Node => (n.id, n.label)) hn
  rw [h.pairs_eq] at mem
  exact (eq_of_mem_nodeIdsOf mem declared).symm

theorem id_mem (h : g.Shows d) {n : Node} (hn : n ∈ g.nodes) : n.id ∈ nodeIdsOf d.states := by
  have mem := List.mem_map_of_mem (f := fun n : Node => (n.id, n.label)) hn
  rw [h.pairs_eq] at mem
  exact (List.of_mem_zip mem).1

theorem exists_node (h : g.Shows d) {s : String} (hs : s ∈ d.states) :
    ∃ n ∈ g.nodes, n.id = s ∧ n.label = s := by
  have mem := self_mem_nodeIdsOf hs
  rw [← h.pairs_eq] at mem
  obtain ⟨n, hn, same⟩ := List.mem_map.mp mem
  exact ⟨n, hn, Prod.mk.inj same⟩

/-- A name is found exactly if it stands for the state that is found. -/
theorem lookup_labels_iff (h : g.Shows d) {name state : String} :
    g.labels.lookup name = some state ↔ d.StandsFor name state := by
  have found : ∀ s, g.labels.lookup name = some s → d.StandsFor name s := by
    intro s found
    obtain ⟨n, hn, rfl, rfl⟩ := exists_node_of_lookup found
    rw [Definition.StandsFor, ← h.pairs_eq]
    exact List.mem_map_of_mem (f := fun n : Node => (n.id, n.label)) hn
  refine ⟨found state, fun stands => ?_⟩
  have known : name ∈ g.nodeIds := by
    have mem := stands
    rw [Definition.StandsFor, ← h.pairs_eq] at mem
    obtain ⟨n, hn, same⟩ := List.mem_map.mp mem
    exact List.mem_map.mpr ⟨n, hn, congrArg Prod.fst same⟩
  have labelled := found _ (lookup_labelOf known)
  rw [lookup_labelOf known, labelled.unique stands]

theorem initial_kept (h : g.Shows d) (declared : d.initial ∈ d.states) : g.initial = d.initial := by
  obtain ⟨m, hm, id, _⟩ := h.exists_node declared
  have flagged : (g.nodes.find? Node.isInitial).isSome := by
    rw [List.find?_isSome]
    exact ⟨m, hm, by simp [h.flag_eq hm, id]⟩
  obtain ⟨n, found⟩ := Option.isSome_iff_exists.mp flagged
  have hn := List.mem_of_find?_eq_some found
  have same : n.id = d.initial := by simpa [h.flag_eq hn] using List.find?_some found
  unfold Graph.initial
  rw [found]
  exact (h.label_eq_id hn (same ▸ declared)).trans same

theorem initial_replaced (h : g.Shows d) (unknown : d.initial ∉ nodeIdsOf d.states) :
    g.initial = d.states.headD "" := by
  have unflagged : g.nodes.find? Node.isInitial = none := by
    rw [List.find?_eq_none]
    intro n hn flag
    have same : n.id = d.initial := by simpa [h.flag_eq hn] using flag
    exact unknown (same ▸ h.id_mem hn)
  unfold Graph.initial
  rw [unflagged, ← h.labels_eq]
  cases g.nodes <;> rfl

section Moves
variable {s e t : String} (apart : d.MovesApart s e t) (declared : t ∈ d.states)
include apart declared

/-- The bundles with an event and a target come from the edges with these. -/
theorem filter_named (h : g.Shows d) :
    (g.edges.filterMap (Edge.named? g.labels)).filter (·.key == (e, t)) =
      (g.edges.filter (·.key == (e, t))).filterMap (Edge.named? g.labels) := by
  rw [List.filter_filterMap, List.filterMap_filter]
  refine List.filterMap_congr fun f hf => ?_
  obtain ⟨u, hu, _, key, _⟩ := merge_guard (h.edges_eq ▸ hf)
  obtain ⟨event, target⟩ : u.event = f.event ∧ u.target = f.target := Prod.mk.inj key
  cases named : f.named? g.labels with
  | none => simp
  | some b =>
    obtain ⟨event', found, -⟩ := Edge.named?_eq_some.mp named
    have stands := h.lookup_labels_iff.mp found
    have same : b.key = (e, t) ↔ f.key = (e, t) := by
      simp only [Bundle.key, Edge.key, Prod.mk.injEq, event']
      -- an edge whose target is taken for `t` without being `t` is what the condition excludes
      refine and_congr_right fun by_event => ⟨fun into => ?_, fun into => ?_⟩
      · exact target ▸ apart.target_apart u hu (event.trans by_event) (target ▸ into ▸ stands)
      · rw [into] at stands
        exact stands.unique (Definition.standsFor_self declared)
    by_cases here : f.key = (e, t) <;> simp [Option.filter, here, same]

/-- The bundle with an event and a target is the one that their edge makes. -/
theorem mem_bundles_iff (h : g.Shows d) {c : Bundle} (key : c.key = (e, t)) :
    c ∈ (g.edges.filterMap (Edge.named? g.labels)).foldl Bundle.add [] ↔
      ∃ f ∈ g.edges, f.key = (e, t) ∧ ∃ b, f.named? g.labels = some b ∧ b.alone = c := by
  have keys : (g.edges.map Edge.key).Nodup := h.edges_eq ▸ nodup_keys_merge d.transitions
  -- edges have different keys, so nothing is merged into the bundle of this one
  have alone : ∀ f ∈ g.edges, f.key = (e, t) → ∀ b, f.named? g.labels = some b →
      (g.edges.filter (·.key == (e, t))).filterMap (Edge.named? g.labels) = [b] := by
    intro f hf here b named
    rw [← here, Keyed.filter_key_eq keys hf, List.filterMap_cons_some named, List.filterMap_nil]
  rw [Bundle.foldl_add_eq_groups,
    Keyed.mem_groups Bundle.alone_key fun c b => b.take_key c.sources c.guard, key,
    filter_named apart declared h]
  constructor
  · rintro ⟨b, r, group, made⟩
    have first : b ∈ (g.edges.filter (·.key == (e, t))).filterMap (Edge.named? g.labels) := by
      rw [group]
      exact List.mem_cons_self
    obtain ⟨f, hf, named⟩ := List.mem_filterMap.mp first
    obtain ⟨hf, here⟩ := List.mem_filter.mp hf
    have here := beq_iff_eq.mp here
    obtain ⟨-, rfl⟩ := List.cons.inj (group.symm.trans (alone f hf here b named))
    exact ⟨f, hf, here, b, named, made⟩
  · rintro ⟨f, hf, here, b, named, made⟩
    exact ⟨b, [], alone f hf here b named, made⟩

theorem mem_transitions_iff (h : g.Shows d) {u : Transition} (key : u.key = (e, t)) :
    u ∈ g.transitions ↔ ∃ f ∈ g.edges, f.key = (e, t) ∧
      ∃ b, f.named? g.labels = some b ∧ b.alone.toTransition = u := by
  unfold Graph.transitions
  rw [List.mem_map]
  constructor
  · rintro ⟨c, hc, rfl⟩
    obtain ⟨f, hf, here, b, named, rfl⟩ := (mem_bundles_iff apart declared h key).mp hc
    exact ⟨f, hf, here, b, named, rfl⟩
  · rintro ⟨f, hf, here, b, named, rfl⟩
    exact ⟨b.alone, (mem_bundles_iff apart declared h key).mpr ⟨f, hf, here, b, named, rfl⟩, rfl⟩

end Moves

/-- The moves of the way back are those between declared states. -/
theorem moves_kept (h : g.Shows d) (prior : Annotations) (key : String) {s e t : String}
    (apart : d.MovesApart s e t) (guard : Option String) :
    (g.toDefinition prior key).Moves s e t guard ↔
      s ∈ d.states ∧ t ∈ d.states ∧ (∃ g', d.Moves s e t g') ∧ guard = d.guardOf e t := by
  have sources_alone : ∀ b : Bundle, b.alone.toTransition.sources = b.sources.eraseDups :=
    fun b => Origin.states_ofStates b.alone.sources
  constructor
  · rintro ⟨u, hu, hs, event, target, rfl⟩
    have declared : t ∈ d.states := by
      obtain ⟨b, from_g, rfl⟩ := mem_transitions hu
      exact target ▸ h.labels_eq ▸ from_g.target_known
    obtain ⟨f, hf, key, b, named, rfl⟩ :=
      (mem_transitions_iff apart declared h (Prod.ext event target)).mp hu
    rw [h.edges_eq] at hf
    obtain ⟨-, -, sources, -, guard⟩ := Edge.named?_eq_some.mp named
    rw [sources_alone, List.mem_eraseDups, sources] at hs
    obtain ⟨x, hx, found⟩ := List.mem_filterMap.mp hs
    have stands := h.lookup_labels_iff.mp found
    obtain ⟨v, hv, key', hxv⟩ := (merge_moves d.transitions f.key x).mp ⟨f, hf, rfl, hx⟩
    obtain ⟨event', target'⟩ := Prod.mk.inj (key'.trans key)
    obtain rfl := apart.source_apart v hv event' target' x hxv stands
    refine ⟨stands.declared, declared, ⟨v.guard, v, hv, hxv, event', target', rfl⟩, ?_⟩
    obtain ⟨rfl, rfl⟩ := Prod.mk.inj key
    show guardText? b.guard = _
    rw [guard, ← Definition.guardOf_eq hf, d.guardText?_guardOf]
  · rintro ⟨declared, target, ⟨g', v, hv, hsv, rfl, rfl, rfl⟩, rfl⟩
    obtain ⟨f, hf, key, hsf⟩ := (merge_moves d.transitions v.key s).mpr ⟨v, hv, rfl, hsv⟩
    obtain ⟨event, into⟩ : f.event = v.event ∧ f.target = v.target := Prod.mk.inj key
    have found : ∀ {x}, x ∈ d.states → g.labels.lookup x = some x :=
      fun hx => h.lookup_labels_iff.mpr (Definition.standsFor_self hx)
    have fired : s ∈ f.sources.filterMap fun x => g.labels.lookup x :=
      List.mem_filterMap.mpr ⟨s, hsf, found declared⟩
    let b : Bundle :=
      ⟨v.event, v.target, f.sources.filterMap fun x => g.labels.lookup x, f.guard⟩
    have named : f.named? g.labels = some b :=
      Edge.named?_eq_some.mpr
        ⟨event.symm, into ▸ found target, rfl, List.ne_nil_of_mem fired, rfl⟩
    have kept : b.alone.toTransition ∈ g.transitions :=
      (mem_transitions_iff (u := b.alone.toTransition) apart target h rfl).mpr
        ⟨f, h.edges_eq ▸ hf, key, b, named, rfl⟩
    refine ⟨_, kept, ?_, rfl, rfl, ?_⟩
    · rw [sources_alone, List.mem_eraseDups]
      exact fired
    · show guardText? f.guard = _
      rw [← event, ← into, ← Definition.guardOf_eq hf, d.guardText?_guardOf]

/-- **What a graph keeps of a definition**: its states, its annotations, its initial state if that
is declared, and its moves between declared states, each with the first guard of its event and
target. -/
theorem toDefinition_relaid (h : g.Shows d) (key : String) :
    d.Relaid key (g.toDefinition (d.annotations.erase key) key) where
  states_kept := h.labels_eq
  annotations_kept := Annotations.erase_set (fun _ => Annotations.ne_of_mem_erase) _
  initial_kept := h.initial_kept
  initial_replaced := h.initial_replaced
  moves_kept := fun _ _ _ apart => h.moves_kept _ key apart

end Shows

end Graph

end Statecraft
