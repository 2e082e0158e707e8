import Statecraft.Proofs.Definition.RoundTrip
import Statecraft.Graph.Check

/-!
# Definitions and graphs, checked

The report on a definition and the check of its graph are written over different data. They
agree: what is reported valid has a graph in which only blank names are wrong
(`errors_of_report`). An event without a name is found once for each target to which some state
fires it, so transitions without sources do not count, and those that are merged count once.
-/

namespace Statecraft

open Transition (keys sourcesOf)

/-- The events without a name, with the targets to which some state fires them. -/
def Transition.nameless (ts : List Transition) : List (String × String) :=
  (keys ts).filter fun k => Text.isBlankText k.1 && !(sourcesOf ts k).isEmpty

open Transition (nameless)

theorem merge_nameless (ts : List Transition) :
    ((mergeTransitions ts).1.filter (Text.isBlankText ·.event)).map (fun e => (e.key, e.sources)) =
      (nameless ts).map fun k => (k, sourcesOf ts k) := by
  have edges := congrArg (List.filter fun e => Text.isBlankText e.1.1) (merge_keys_sources ts)
  rw [List.filter_map, List.filter_map, List.filter_filter] at edges
  exact edges

namespace Definition

variable {d : Definition}

/-- The errors about edges, in terms of the transitions. -/
theorem blank_edges (d : Definition) (p : Placement) :
    (((d.toGraph p).1.edges.filter (Text.isBlankText ·.event)).map fun e =>
        Check.Error.blankEvent e.sources e.target) =
      (nameless d.transitions).map fun k => .blankEvent (sourcesOf d.transitions k) k.2 := by
  have errors := congrArg (List.map fun e => Check.Error.blankEvent e.2 e.1.2)
    (merge_nameless d.transitions)
  rw [List.map_map, List.map_map] at errors
  rw [toGraph_edges]
  exact errors

theorem repeatedLabels_toGraph (h : d.states.Nodup) (p : Placement) :
    Check.repeatedLabels (d.toGraph p).1.nodes = [] := by
  unfold Check.repeatedLabels
  rw [toGraph_labels h]
  simp only [List.filter_eq_nil_iff, decide_eq_true_eq, Nat.not_lt]
  exact fun l _ => List.nodup_iff_count_le_one.mp h l

theorem initialErrors_toGraph (h : d.names.Fit) (p : Placement) :
    Check.initialErrors (d.toGraph p).1.nodes = [] := by
  unfold Check.initialErrors
  have once : d.states.count d.initial = 1 :=
    List.count_eq_one_of_mem h.states_distinct h.initial_declared
  rw [toGraph_countP_isInitial h.states_distinct, once]
  rfl

/-- **Where the report on a definition has no errors, its graph has blank names at most.** However
the graph is laid out, the check finds whether a state has no name, and each event without a name
once for each of its targets, with all the states that fire it; and it finds no other error. -/
theorem errors_of_report {r : Report} (h : Report.ofDefinition d = .ok r) (valid : r.isValid)
    (p : Placement) :
    (Check.ofGraph (d.toGraph p).1).errors =
      (if d.states.any Text.isBlankText then [.blankName] else [])
        ++ (nameless d.transitions).map fun k => .blankEvent (sourcesOf d.transitions k) k.2 := by
  have fit := fit_of_report h valid
  have labels := toGraph_labels fit.states_distinct p
  have some_node : ¬ (d.toGraph p).1.nodes.isEmpty := by
    intro no_node
    have no_state : d.states = [] := by
      rw [← labels, List.isEmpty_iff.mp no_node, List.map_nil]
    exact List.ne_nil_of_mem fit.initial_declared no_state
  have blank_label : (d.toGraph p).1.nodes.any (Text.isBlankText ·.label) =
      d.states.any Text.isBlankText := by
    rw [← labels, List.any_map]
    rfl
  show Check.errorsOf (d.toGraph p).1 = _
  unfold Check.errorsOf
  rw [if_neg some_node, initialErrors_toGraph fit,
    repeatedLabels_toGraph fit.states_distinct, blank_label, blank_edges]
  rfl

/-- A state without a name and events without a name: one to the first state in three
transitions, of which one has no source, and one to the second state from nowhere. -/
def blankNames : Definition where
  states := ["a", " "]
  initial := "a"
  transitions := [.of (.many ["a", " "]) " " "a" none, .of (.many []) "" " " none,
    .of (.one "a") " " "a" none, .of (.many []) " " "a" none, .of (.one "a") "go" " " none]
  annotations := []

theorem errors_of_report_blankNames :
    let r : Report := ⟨[], []⟩
    let p : Placement := ⟨none, .default, positionsKey⟩
    Report.ofDefinition blankNames = .ok r ∧ r.isValid ∧
    (Check.ofGraph (blankNames.toGraph p).1).errors =
      [.blankName, .blankEvent ["a", " "] "a"] := by
  have reported : Report.ofDefinition blankNames = .ok ⟨[], []⟩ := by decide +kernel
  have found := errors_of_report reported rfl ⟨none, .default, positionsKey⟩
  exact ⟨reported, rfl, found.trans (by decide +kernel)⟩

end Definition

end Statecraft
