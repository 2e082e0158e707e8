import Statecraft.Proofs.Definition.Graph
import Statecraft.Proofs.Definition.Valid
import Statecraft.Proofs.Graph.Definition

/-!
# From a definition to its graph and back

A definition that is reported valid comes back from its graph with the same states, the same
initial one and the same moves (`graph_round_trip`), although its transitions are grouped
anew twice. Only the stored positions are replaced.
-/

namespace Statecraft

theorem Annotations.get?_set_of_ne {a : Annotations} {key other : String} (value : Document)
    (h : other ≠ key) : (a.set key value).get? other = a.get? other := by
  have replaced : ∀ l : Annotations,
      (l.map fun e => if e.1 == key then (key, value) else e).find? (·.1 == other) =
        l.find? (·.1 == other) := by
    intro l
    induction l with
    | nil => rfl
    | cons e r ih =>
      rw [List.map_cons, List.find?_cons, List.find?_cons, ih]
      by_cases he : e.1 = key
      · simp [he, beq_false_of_ne (Ne.symm h)]
      · simp [he]
  unfold get? set
  split
  · rw [replaced]
  · rw [List.find?_append]
    cases hf : a.find? (·.1 == other) <;> simp [Ne.symm h]

namespace Definition

/-- A state fires an event into a target under a guard. -/
def Moves (d : Definition) (source event target : String) (guard : Option String) : Prop :=
  ∃ t ∈ d.transitions, source ∈ t.sources ∧ t.event = event ∧ t.target = target ∧ t.guard = guard

variable {d : Definition}

theorem namesFit_of_fit (h : d.names.Fit) : d.NamesFit where
  states_distinct := h.states_distinct
  targets_declared := fun _ ht => h.targets_declared _ (List.mem_map_of_mem ht)
  sources_declared := fun _ ht => h.sources_declared _ (List.mem_map_of_mem ht)

theorem guards_agree_of_fit (h : d.names.Fit) {t u : Transition} (ht : t ∈ d.transitions)
    (hu : u ∈ d.transitions) (hk : t.key = u.key) : t.guard = u.guard :=
  h.guards_agree _ (List.mem_map_of_mem ht) _ (List.mem_map_of_mem hu)
    (congrArg Prod.fst hk) (congrArg Prod.snd hk)

theorem toGraph_initial (h : d.names.Fit) (p : Placement) :
    (d.toGraph p).1.initial = d.initial := by
  have names := toGraph_names h.states_distinct p
  have flagged : (d.initial, d.initial, true) ∈
      (d.toGraph p).1.nodes.map fun n => (n.id, n.label, n.isInitial) := by
    rw [names]
    exact List.mem_map.mpr ⟨d.initial, h.initial_declared, by simp⟩
  obtain ⟨n, hn, he⟩ := List.mem_map.mp flagged
  simp only [Prod.mk.injEq] at he
  rw [(toGraph_wellFormed (namesFit_of_fit h) p).initial_eq hn he.2.2, he.2.1]

/-- The moves of a graph's edges are those of the transitions that were merged, if these agree
on their guards. -/
theorem merge_moves_guard {ts : List Transition}
    (agree : ∀ t ∈ ts, ∀ u ∈ ts, t.key = u.key → t.guard = u.guard) (s e t : String)
    (g : Option String) :
    (∃ f ∈ (mergeTransitions ts).1, s ∈ f.sources ∧ f.event = e ∧ f.target = t ∧ f.guard = g) ↔
      ∃ u ∈ ts, s ∈ u.sources ∧ u.event = e ∧ u.target = t ∧ u.guard = g := by
  constructor
  · rintro ⟨f, hf, hs, rfl, rfl, rfl⟩
    obtain ⟨u, hu, hk, hsu⟩ := (merge_moves ts f.key s).mp ⟨f, hf, rfl, hs⟩
    obtain ⟨v, hv, _, hkv, hg⟩ := merge_guard hf
    exact ⟨u, hu, hsu, congrArg Prod.fst hk, congrArg Prod.snd hk,
      (agree u hu v hv (hk.trans hkv.symm)).trans hg⟩
  · rintro ⟨u, hu, hs, rfl, rfl, rfl⟩
    obtain ⟨f, hf, hk, hsf⟩ := (merge_moves ts u.key s).mpr ⟨u, hu, rfl, hs⟩
    obtain ⟨v, hv, _, hkv, hg⟩ := merge_guard hf
    exact ⟨f, hf, hsf, congrArg Prod.fst hk, congrArg Prod.snd hk,
      hg.symm.trans (agree v hv u hu (hkv.trans hk))⟩

/-- **Nothing of a valid definition is lost in its graph.** However the graph is laid out, its
definition has the same states, initial state, moves and other annotations, and one transition
for each event and target. -/
theorem graph_round_trip {r : Report} (h : Report.ofDefinition d = .ok r) (valid : r.isValid)
    (p : Placement) :
    let back := (d.toGraph p).1.toDefinition d.annotations p.key
    back.states = d.states ∧ back.initial = d.initial ∧
    (∀ s e t g, back.Moves s e t g ↔ d.Moves s e t g) ∧
    (back.transitions.map Transition.key).Nodup ∧
    ∀ k, k ≠ p.key → back.annotations.get? k = d.annotations.get? k := by
  have fit := fit_of_report h valid
  have wellFormed := toGraph_wellFormed (namesFit_of_fit fit) p
  have transitions : ((d.toGraph p).1.toDefinition d.annotations p.key).transitions =
      (mergeTransitions d.transitions).1.map Edge.toTransition := by
    rw [← toGraph_edges d p, ← wellFormed.transitions_eq]
    rfl
  refine ⟨toGraph_labels fit.states_distinct p, toGraph_initial fit p, ?_, ?_, ?_⟩
  · intro s e t g
    have same := merge_moves_guard (fun _ ht _ hu hk => guards_agree_of_fit fit ht hu hk) s e t g
    unfold Moves
    rw [transitions, ← same]
    have sound : ∀ f ∈ (mergeTransitions d.transitions).1, f.toTransition.guard = f.guard := by
      intro f hf
      exact (wellFormed.edges_sound f (toGraph_edges d p ▸ hf)).toTransition_guard
    constructor
    · rintro ⟨_, hu, hs, he, ht, hg⟩
      obtain ⟨f, hf, rfl⟩ := List.mem_map.mp hu
      exact ⟨f, hf, by simpa using hs, he, ht, (sound f hf).symm.trans hg⟩
    · rintro ⟨f, hf, hs, he, ht, hg⟩
      exact ⟨f.toTransition, List.mem_map_of_mem hf, by simpa using hs, he, ht,
        (sound f hf).trans hg⟩
  · rw [transitions, List.map_map]
    exact nodup_keys_merge d.transitions
  · exact fun k hk => Annotations.get?_set_of_ne _ hk

/-- A definition whose transitions are merged, on the grid. -/
theorem graph_round_trip_twoStates :
    let p : Placement := ⟨none, .default, positionsKey⟩
    let back := (twoStates.toGraph p).1.toDefinition twoStates.annotations p.key
    Report.ofDefinition twoStates = .ok ⟨[], []⟩ ∧ (⟨[], []⟩ : Report).isValid ∧
    back.states = twoStates.states ∧ back.initial = twoStates.initial ∧
    (∀ s e t g, back.Moves s e t g ↔ twoStates.Moves s e t g) ∧
    (back.transitions.map Transition.key).Nodup ∧
    ∀ k, k ≠ p.key → back.annotations.get? k = twoStates.annotations.get? k := by
  have reported : Report.ofDefinition twoStates = .ok ⟨[], []⟩ := by decide +kernel
  exact ⟨reported, rfl, graph_round_trip reported rfl _⟩

end Definition

end Statecraft
