import Statecraft.Proofs.Definition.Graph

/-!
# What a definition's graph shows

The edges of a definition's graph show its transitions and nothing else, be the definition valid or
not: there is one edge for each event and target, fired from the states that fire the event into the
target in some transition, in the order in which these are first mentioned
(`Definition.toGraph_shows`).
-/

namespace Statecraft

open Transition (sourcesOf)

namespace Definition

/-- The edges show the definition's transitions: no two of them are for one event and target or have
one id, each lists the states that fire its event into its target once, in order of first mention,
and has the guard of the first transition for them. -/
structure IsShownBy (d : Definition) (edges : List Edge) : Prop where
  keys_distinct : (edges.map Edge.key).Nodup
  ids_distinct : (edges.map Edge.id).Nodup
  sources_nonempty : ∀ e ∈ edges, e.sources ≠ []
  sources_distinct : ∀ e ∈ edges, e.sources.Nodup
  sources_ordered : ∀ e ∈ edges, e.sources = sourcesOf d.transitions e.key
  moves_iff : ∀ source event target,
    (∃ e ∈ edges, e.event = event ∧ e.target = target ∧ source ∈ e.sources) ↔
      ∃ t ∈ d.transitions, t.event = event ∧ t.target = target ∧ source ∈ t.sources
  guard_first : ∀ e ∈ edges,
    ∃ t, d.transitions.find? (·.key == e.key) = some t ∧ e.guard = t.guard

/-- **A definition's graph shows its transitions exactly.** Nothing is asked of the definition, and
it does not matter where the nodes are put. -/
theorem toGraph_shows (d : Definition) (p : Placement) : d.IsShownBy (d.toGraph p).1.edges := by
  rw [toGraph_edges]
  have keys := nodup_keys_merge d.transitions
  refine ⟨keys, Edge.nodup_ids keys, fun e => merge_sources_ne_nil, fun e he => ?_,
    fun e => merge_sources, fun source event target => ?_, fun e he => ?_⟩
  · rw [merge_sources he]
    exact nodup_eraseDups _
  · have moves := merge_moves d.transitions (event, target) source
    simpa [Keyed.Holds, Edge.key, Transition.key, and_assoc] using moves
  · obtain ⟨t, -, first, -, guard⟩ := merge_guard he
    exact ⟨t, first, guard.symm⟩

/-- Sources in one text and in lists, some of them twice, an event that leads nowhere, and a second
guard. -/
example : (mergeTransitions [.of (.many ["b", "a", "b"]) "go" "c" none,
      .of (.many []) "stop" "a" none, .of (.one "a") "go" "a" (some "ctx.ready"),
      .of (.many ["c", "a"]) "go" "c" (some "ctx.done")]).1 =
    [.of "c" "go" none ["b", "a", "c"], .of "a" "go" (some "ctx.ready") ["a"]] := by
  decide

end Definition

end Statecraft
