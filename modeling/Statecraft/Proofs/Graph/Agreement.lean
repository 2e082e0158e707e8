import Statecraft.Proofs.Graph.Definition
import Statecraft.Proofs.Graph.Normal

/-!
# The merges compared

Transitions, edges, and edges in the names of the states are merged by event and target in three
ways of their own. Merged group by group they are alike: transitions that agree on their guards are
merged as their edges are (`mergeTransitions_eq_normalize`), and a graph whose states are named apart
has the same definition whether or not its edges were merged before
(`Graph.transitions_normalize`). `merges_agree` puts both together.
-/

namespace Statecraft

/-- The edge that a transition makes alone. -/
def Transition.toEdge (t : Transition) : Edge := .of t.target t.event t.guard t.sources

@[simp] theorem Transition.toEdge_key (t : Transition) : t.toEdge.key = t.key := rfl

namespace Bundle

theorem toEdge?_ofTransition {t : Transition} (h : t.sources ≠ []) :
    (ofTransition t).toEdge? = some t.toEdge := by
  rw [toEdge?_eq_some]
  refine ⟨by simpa [ofTransition, eraseDups_eq_nil] using h, ?_⟩
  simp [ofTransition, Transition.toEdge, Edge.of, eraseDups_of_nodup (nodup_eraseDups _)]

/-- A transition that joins a bundle with its guard is an edge that joins the bundle's edge. -/
theorem toEdge?_join {b : Bundle} {t : Transition} {e : Edge} (h : b.toEdge? = some e)
    (guard : t.guard = b.guard) : (b.join t).toEdge? = some (e.absorb t.toEdge) := by
  obtain ⟨some_source, rfl⟩ := toEdge?_eq_some.mp h
  rw [toEdge?_eq_some]
  constructor
  · simp [eraseDups_eq_nil, some_source]
  · have sources : ((b.sources ++ t.sources).eraseDups).eraseDups =
        (b.sources.eraseDups ++ t.sources.eraseDups).eraseDups := by
      rw [eraseDups_of_nodup (nodup_eraseDups _), eraseDups_eraseDups_append,
        eraseDups_append_eraseDups]
    have kept : ((Edge.of b.target b.event b.guard b.sources).absorb t.toEdge).guard =
        guardText? b.guard := by
      rcases Edge.absorb_guard (Edge.of b.target b.event b.guard b.sources) t.toEdge with own | other
      · exact own
      · rw [other, ← guard]
        rfl
    exact congrArg₂ (Edge.mk b.target b.event) kept.symm sources

/-- Transitions with one guard are joined to a bundle of which the edge is what their edges make. -/
theorem toEdge?_foldl_join {t : Transition} {r : List Transition} (some_source : t.sources ≠ [])
    (guards : ∀ u ∈ r, u.guard = t.guard) : (r.foldl join (ofTransition t)).toEdge? =
      some ((r.map Transition.toEdge).foldl Edge.absorb t.toEdge) := by
  have run : (r.foldl join (ofTransition t)).toEdge? =
      some (r.foldl (fun e u => e.absorb u.toEdge) t.toEdge) ∧
        (r.foldl join (ofTransition t)).guard = t.guard := by
    refine List.foldl_rel (r := fun (b : Bundle) e => b.toEdge? = some e ∧ b.guard = t.guard)
      ⟨toEdge?_ofTransition some_source, rfl⟩ fun u hu b e joined => ?_
    exact ⟨toEdge?_join joined.1 ((guards u hu).trans joined.2.symm), joined.2⟩
  rw [List.foldl_map, run.1]

end Bundle

/-- **Transitions are merged as their edges are**, if each has a source and they agree on the guards
for an event and a target. -/
theorem mergeTransitions_eq_normalize {ts : List Transition} (sources : ∀ t ∈ ts, t.sources ≠ [])
    (agree : ∀ t ∈ ts, ∀ u ∈ ts, t.key = u.key → t.guard = u.guard) :
    (mergeTransitions ts).1 = Edge.normalize (ts.map Transition.toEdge) := by
  show (Bundle.collect [] ts).1.filterMap Bundle.toEdge? = _
  rw [Bundle.collect_eq_groups, Edge.normalize_eq_groups,
    Keyed.groups_map (g := fun k => k) Transition.toEdge_key fun _ _ _ _ same => same,
    Keyed.groups, List.filterMap_filterMap]
  refine List.filterMap_congr fun k _ => ?_
  have group : ∀ t ∈ ts.filter (·.key == k), t ∈ ts ∧ t.key = k := by simp
  cases found : ts.filter (·.key == k) with
  | nil => rfl
  | cons t r =>
    rw [found, List.forall_mem_cons] at group
    obtain ⟨⟨ht, here⟩, others⟩ := group
    have guards : ∀ u ∈ r, u.guard = t.guard := fun u hu =>
      agree u (others u hu).1 t ht ((others u hu).2.trans here.symm)
    exact Bundle.toEdge?_foldl_join (sources t ht) guards

/-! ## Edges in the names of the states -/

namespace Bundle

theorem key_named (name : String → String) (e : Edge) :
    (e.named name).key = Prod.map id name e.key := rfl

/-- The bundle has the key, the sources and the guard of an edge, under other names for its ends. -/
structure Shows (name : String → String) (e : Edge) (b : Bundle) : Prop where
  event_eq : b.event = e.event
  target_eq : b.target = name e.target
  sources_eq : b.sources = (e.sources.map name).eraseDups
  guard_eq : take.guardText b.guard = e.guardText

variable {name : String → String} {e f : Edge} {b c : Bundle}

theorem shows_named (name : String → String) (e : Edge) : (e.named name).alone.Shows name e := by
  constructor <;> rfl

theorem guardText_take (b : Bundle) (sources : List String) (guard : Option String) :
    take.guardText (b.take sources guard).guard =
      (take.guardText b.guard).or (take.guardText guard) := by
  have twice (g : Option String) : take.guardText (take.guardText g) = take.guardText g := by
    simp [take.guardText, Option.filter_filter]
  unfold take
  dsimp only
  cases said : take.guardText b.guard with
  | some g =>
    simp [said]
  | none =>
    cases other : take.guardText guard with
    | none => simp [said]
    | some g =>
      have := twice guard
      rw [other] at this
      simpa using this

/-- An edge that is merged into another is taken into its bundle. -/
theorem Shows.take (h : b.Shows name e) (f : Edge) :
    (b.take (f.named name).sources (f.named name).guard).Shows name (e.absorb f) where
  event_eq := h.event_eq
  target_eq := h.target_eq
  sources_eq := by
    show (b.sources ++ f.sources.map name).eraseDups = _
    rw [h.sources_eq, Edge.absorb_sources, eraseDups_map_eraseDups, List.map_append,
      eraseDups_eraseDups_append]
  guard_eq := by
    rw [guardText_take, h.guard_eq, Edge.absorb_guardText]
    rfl

/-- Edges that are merged are taken into one bundle. -/
theorem shows_foldl_take (name : String → String) (e : Edge) (r : List Edge) :
    ((r.map (Edge.named name)).foldl (fun b c => b.take c.sources c.guard)
      (e.named name).alone).Shows name (r.foldl Edge.absorb e) := by
  rw [List.foldl_map]
  exact List.foldl_rel (r := fun b e => Shows name e b) (shows_named name e)
    fun f _ _ _ shown => shown.take f

theorem guardText?_guardText (guard : Option String) :
    guardText? (take.guardText guard) = guardText? guard := by
  cases guard with
  | none => rfl
  | some g =>
    by_cases empty : g = ""
    · subst empty
      rfl
    · simp [take.guardText, Option.filter, empty]

/-- What bundles show of one edge is one transition. -/
theorem Shows.toTransition_eq (hb : b.Shows name e) (hc : c.Shows name e) :
    b.toTransition = c.toTransition := by
  have guard : guardText? b.guard = guardText? c.guard := by
    rw [← guardText?_guardText, hb.guard_eq, ← hc.guard_eq, guardText?_guardText]
  unfold toTransition Transition.of
  simp only [hb.event_eq, hb.target_eq, hb.sources_eq, hc.event_eq, hc.target_eq, hc.sources_eq,
    guard]

end Bundle

namespace Edge

theorem IsBetween.absorb {ids : List String} {e f : Edge} (he : e.IsBetween ids)
    (hf : f.IsBetween ids) : (e.absorb f).IsBetween ids where
  sources_nonempty := by simp [eraseDups_eq_nil, he.sources_nonempty]
  target_known := he.target_known
  sources_known := by
    intro s hs
    rcases List.mem_append.mp (List.mem_eraseDups.mp hs) with own | other
    · exact he.sources_known s own
    · exact hf.sources_known s other

theorem isBetween_normalize {ids : List String} {edges : List Edge}
    (h : ∀ e ∈ edges, e.IsBetween ids) : ∀ f ∈ normalize edges, f.IsBetween ids := by
  rw [normalize_eq_groups]
  exact Keyed.forall_mem_groups h fun f hf _ he => he.absorb (h f hf)

end Edge

namespace Graph

variable {g : Graph}

/-- Labels that tell the nodes apart tell their ids apart. -/
theorem labelOf_injective (apart : (g.nodes.map Node.label).Nodup) :
    ∀ s ∈ g.nodeIds, ∀ t ∈ g.nodeIds, g.labelOf s = g.labelOf t → s = t := by
  intro s hs t ht same
  obtain ⟨m, hm, rfl, label⟩ := exists_node_of_lookup (lookup_labelOf hs)
  obtain ⟨n, hn, rfl, label'⟩ := exists_node_of_lookup (lookup_labelOf ht)
  rw [List.inj_on_of_nodup_map apart hm hn (label.trans (same.trans label'.symm))]

theorem bundles_eq (between : ∀ e ∈ g.edges, e.IsBetween g.nodeIds) :
    g.edges.filterMap (Edge.named? g.labels) = g.edges.map (Edge.named g.labelOf) := by
  rw [← List.filterMap_eq_map]
  exact List.filterMap_congr fun e he =>
    Edge.named?_eq_named (fun _ => lookup_labelOf) (between e he)

variable (apart : (g.nodes.map Node.label).Nodup)
  (between : ∀ e ∈ g.edges, e.IsBetween g.nodeIds)
include apart between

theorem keys_apart : ∀ e ∈ g.edges, ∀ f ∈ g.edges,
    Prod.map id g.labelOf e.key = Prod.map id g.labelOf f.key → e.key = f.key := by
  intro e he f hf same
  obtain ⟨event, target⟩ := Prod.mk.inj same
  exact Prod.ext event (labelOf_injective apart _ (between e he).target_known _
    (between f hf).target_known target)

/-- The transitions of a graph, merged group by group. -/
theorem transitions_eq_groups : g.transitions = (g.edges.map Edge.key).eraseDups.filterMap fun k =>
    (Keyed.merged? Bundle.alone (fun c b => b.take c.sources c.guard)
      ((g.edges.filter (·.key == k)).map (Edge.named g.labelOf))).map Bundle.toTransition := by
  rw [transitions, bundles_eq between, Bundle.foldl_add_eq_groups,
    Keyed.groups_map (Bundle.key_named g.labelOf) (keys_apart apart between), List.map_filterMap]

/-- Edges with different keys become one transition each. -/
theorem transitions_of_nodup (distinct : (g.edges.map Edge.key).Nodup) :
    g.transitions = g.edges.map fun e => (e.named g.labelOf).alone.toTransition := by
  have keys : ((g.edges.map (Edge.named g.labelOf)).map Bundle.key).Nodup := by
    have renamed : (g.edges.map (Edge.named g.labelOf)).map Bundle.key =
        (g.edges.map Edge.key).map (Prod.map id g.labelOf) := by
      rw [List.map_map, List.map_map]
      rfl
    rw [renamed]
    refine distinct.map_on fun k hk l hl same => ?_
    obtain ⟨e, he, rfl⟩ := List.mem_map.mp hk
    obtain ⟨f, hf, rfl⟩ := List.mem_map.mp hl
    exact keys_apart apart between e he f hf same
  rw [transitions, bundles_eq between, Bundle.foldl_add_new keys, List.map_map, List.map_map]
  rfl

/-- **A graph whose nodes are named apart has the same transitions with its edges merged.** -/
theorem transitions_normalize :
    (⟨g.nodes, Edge.normalize g.edges⟩ : Graph).transitions = g.transitions := by
  let merged : Graph := ⟨g.nodes, Edge.normalize g.edges⟩
  have still : ∀ e ∈ merged.edges, e.IsBetween merged.nodeIds := Edge.isBetween_normalize between
  have keys : (merged.edges.map Edge.key).Nodup := Edge.nodup_keys_normalize g.edges
  show merged.transitions = _
  rw [transitions_of_nodup (g := merged) apart still keys, transitions_eq_groups apart between]
  show (Edge.normalize g.edges).map _ = _
  rw [Edge.normalize_eq_groups, Keyed.groups, List.map_filterMap]
  refine List.filterMap_congr fun k _ => ?_
  cases g.edges.filter (·.key == k) with
  | nil => rfl
  | cons e r =>
    exact congrArg some (Bundle.Shows.toTransition_eq (Bundle.shows_named _ _)
      (Bundle.shows_foldl_take g.labelOf e r))

end Graph

/-- **The merges agree.** Transitions that have a source each and agree on the guards for an event
and a target are merged as the edges are that they make alone; and where states are named apart, a
graph with edges between its nodes has the definition that it has with its edges merged. -/
theorem merges_agree :
    (∀ ts : List Transition, (∀ t ∈ ts, t.sources ≠ []) →
      (∀ t ∈ ts, ∀ u ∈ ts, t.key = u.key → t.guard = u.guard) →
      (mergeTransitions ts).1 = Edge.normalize (ts.map Transition.toEdge)) ∧
    ∀ (nodes : List Node) (edges : List Edge), (nodes.map Node.label).Nodup →
      (∀ e ∈ edges, e.IsBetween (nodes.map Node.id)) → ∀ (prior : Annotations) (key : String),
      (⟨nodes, edges⟩ : Graph).toDefinition prior key =
        (⟨nodes, Edge.normalize edges⟩ : Graph).toDefinition prior key := by
  refine ⟨fun ts => mergeTransitions_eq_normalize, fun nodes edges apart between prior key => ?_⟩
  have same := Graph.transitions_normalize (g := ⟨nodes, edges⟩) apart between
  unfold Graph.toDefinition
  rw [same]
  rfl

/-- Two transitions that are one edge, with another between them. They share a source. -/
def crossing : List Transition :=
  [.of (.many ["a", "c"]) "go" "b" (some "ctx.x"), .of (.one "a") "stop" "c" none,
    .of (.many ["d", "a"]) "go" "b" (some "ctx.x")]

/-- Three states whose names are not their ids. -/
def rooms : List Node :=
  [⟨"1", "idle", true, .origin⟩, ⟨"2", "busy", false, .origin⟩, ⟨"3", "done", false, .origin⟩]

/-- Two edges of `rooms` that are one transition, with another between them. The first of them has
no guard. -/
def crossingEdges : List Edge :=
  [.of "2" "go" none ["1"], .of "3" "stop" (some "ctx.y") ["1", "2"],
    .of "2" "go" (some "ctx.x") ["3", "1"]]

theorem merges_agree_crossing :
    ((∀ t ∈ crossing, t.sources ≠ []) ∧
      (∀ t ∈ crossing, ∀ u ∈ crossing, t.key = u.key → t.guard = u.guard) ∧
      (mergeTransitions crossing).1 = Edge.normalize (crossing.map Transition.toEdge) ∧
      (mergeTransitions crossing).1 =
        [.of "b" "go" (some "ctx.x") ["a", "c", "d"], .of "c" "stop" none ["a"]]) ∧
    (rooms.map Node.label).Nodup ∧ (∀ e ∈ crossingEdges, e.IsBetween (rooms.map Node.id)) ∧
      (⟨rooms, crossingEdges⟩ : Graph).toDefinition [] "layout" =
        (⟨rooms, Edge.normalize crossingEdges⟩ : Graph).toDefinition [] "layout" ∧
      (⟨rooms, crossingEdges⟩ : Graph).transitions =
        [.of (.many ["idle", "done"]) "go" "busy" (some "ctx.x"),
          .of (.many ["idle", "busy"]) "stop" "done" (some "ctx.y")] := by
  have sources : ∀ t ∈ crossing, t.sources ≠ [] := by decide
  have guards : ∀ t ∈ crossing, ∀ u ∈ crossing, t.key = u.key → t.guard = u.guard := by decide
  have apart : (rooms.map Node.label).Nodup := by decide
  have between : ∀ e ∈ crossingEdges, e.IsBetween (rooms.map Node.id) := by decide
  exact ⟨⟨sources, guards, merges_agree.1 crossing sources guards, by decide⟩, apart, between,
    merges_agree.2 rooms crossingEdges apart between [] "layout", by decide⟩

end Statecraft
