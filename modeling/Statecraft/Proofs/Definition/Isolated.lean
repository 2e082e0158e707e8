import Statecraft.Proofs.Definition.Check
import Statecraft.Proofs.Definition.Verdict

/-!
# Isolated states

The check of a graph looks at the ends of its edges, the report at those of the transitions. An edge
has the ends of its transitions (`exists_touches_merge`), but transitions to a state that start
nowhere have no edge. So the check warns of a state that nothing leads away from if nothing leads to
it either, or only such transitions do (`Definition.isolated_iff`).
-/

namespace Statecraft

/-- An edge touches a state exactly if a transition starts in it, or ends in it and starts
anywhere. -/
theorem exists_touches_merge {ts : List Transition} {s : String} :
    (∃ e ∈ (mergeTransitions ts).1, e.touches s) ↔
      ∃ t ∈ ts, s ∈ t.sources ∨ t.target = s ∧ t.sources ≠ [] := by
  simp only [Edge.touches, Bool.or_eq_true, beq_iff_eq, List.contains_iff_mem]
  constructor
  · rintro ⟨e, he, rfl | starts⟩
    · obtain ⟨u, hu⟩ := List.exists_mem_of_ne_nil _ (merge_sources_ne_nil he)
      obtain ⟨t, ht, key, starts⟩ := (merge_moves ts e.key u).mp ⟨e, he, rfl, hu⟩
      exact ⟨t, ht, Or.inr ⟨congrArg Prod.snd key, List.ne_nil_of_mem starts⟩⟩
    · obtain ⟨t, ht, _, hs⟩ := (merge_moves ts e.key s).mp ⟨e, he, rfl, starts⟩
      exact ⟨t, ht, Or.inl hs⟩
  · rintro ⟨t, ht, starts | ⟨rfl, starts⟩⟩
    · obtain ⟨e, he, _, hs⟩ := (merge_moves ts t.key s).mpr ⟨t, ht, rfl, starts⟩
      exact ⟨e, he, Or.inr hs⟩
    · obtain ⟨s, hs⟩ := List.exists_mem_of_ne_nil _ starts
      obtain ⟨e, he, key, _⟩ := (merge_moves ts t.key s).mpr ⟨t, ht, rfl, hs⟩
      exact ⟨e, he, Or.inl (congrArg Prod.snd key).symm⟩

namespace Definition

variable {d : Definition} {r : Report} {s : String}

/-- The check of a graph warns of the states that no edge touches, but for the initial one. -/
theorem isolated_eq (distinct : d.states.Nodup) (p : Placement) :
    (Check.ofGraph (d.toGraph p).1).warnings = (d.states.filter fun s => !(s == d.initial) &&
      !(mergeTransitions d.transitions).1.any (·.touches s)).map (⟨·⟩) := by
  have shown := congrArg
    (fun ns => (ns.filter fun n : String × String × Bool =>
      !n.2.2 && !(mergeTransitions d.transitions).1.any (·.touches n.1)).map
        fun n => (⟨n.2.1⟩ : Check.Isolated)) (toGraph_names distinct p)
  simp only [List.filter_map, List.map_map] at shown
  show Check.warningsOf _ = _
  unfold Check.warningsOf
  rw [toGraph_edges]
  exact shown

theorem mem_isolated (distinct : d.states.Nodup) (p : Placement) :
    ⟨s⟩ ∈ (Check.ofGraph (d.toGraph p).1).warnings ↔ s ∈ d.states ∧ s ≠ d.initial ∧
      ¬ ∃ e ∈ (mergeTransitions d.transitions).1, e.touches s := by
  rw [isolated_eq distinct]
  simp

theorem unreachable_mem_warnings {ws : List Report.Complaint} (h : d.names.warnings = .ok ws) :
    .unreachable s ∈ ws ↔ s ∈ d.states ∧ s ≠ d.initial ∧ ∀ t ∈ d.transitions, t.target ≠ s := by
  rw [← List.count_pos_iff, Report.count_unreachable h]
  simp [names, Nat.pos_iff_ne_zero]

theorem deadEnd_mem_warnings {ws : List Report.Complaint} (h : d.names.warnings = .ok ws) :
    .deadEnd s ∈ ws ↔ s ∈ d.states ∧ ∀ t ∈ d.transitions, s ∉ t.sources := by
  rw [← List.count_pos_iff, Report.count_deadEnd h]
  simp [names, Nat.pos_iff_ne_zero]

/-- Transitions lead to the state, but they start nowhere. -/
def EnteredFromNowhere (d : Definition) (s : String) : Prop :=
  (∃ t ∈ d.transitions, t.target = s) ∧ ∀ t ∈ d.transitions, t.target = s → t.sources = []

instance (d : Definition) (s : String) : Decidable (d.EnteredFromNowhere s) :=
  inferInstanceAs (Decidable (_ ∧ _))

/-- **Which states are isolated.** Where the report on a definition has no errors, the check of its
graph warns of a declared state other than the initial one exactly if the report warns that nothing
leads away from it and either warns that nothing leads to it, or counts only transitions to it that
start nowhere. -/
theorem isolated_iff (h : Report.ofDefinition d = .ok r) (valid : r.isValid)
    (declared : s ∈ d.states) (other : s ≠ d.initial) (p : Placement) :
    ⟨s⟩ ∈ (Check.ofGraph (d.toGraph p).1).warnings ↔
      .deadEnd s ∈ r.warnings ∧ (.unreachable s ∈ r.warnings ∨ d.EnteredFromNowhere s) := by
  have fit := fit_of_report h valid
  have warned := (Report.findings_of_ofDefinition (List.ne_nil_of_mem declared) h).2
  rw [mem_isolated fit.states_distinct, exists_touches_merge, unreachable_mem_warnings warned,
    deadEnd_mem_warnings warned]
  constructor
  · rintro ⟨_, _, untouched⟩
    have silent : ∀ t ∈ d.transitions, s ∉ t.sources :=
      fun t ht starts => untouched ⟨t, ht, Or.inl starts⟩
    have from_nowhere : ∀ t ∈ d.transitions, t.target = s → t.sources = [] := by
      intro t ht ends
      by_contra starts
      exact untouched ⟨t, ht, Or.inr ⟨ends, starts⟩⟩
    refine ⟨⟨declared, silent⟩, ?_⟩
    by_cases entered : ∃ t ∈ d.transitions, t.target = s
    · exact Or.inr ⟨entered, from_nowhere⟩
    · exact Or.inl ⟨declared, other, fun t ht ends => entered ⟨t, ht, ends⟩⟩
  · rintro ⟨⟨_, silent⟩, ways⟩
    refine ⟨declared, other, ?_⟩
    rintro ⟨t, ht, starts | ⟨ends, starts⟩⟩
    · exact silent t ht starts
    · rcases ways with ⟨_, _, unreached⟩ | ⟨_, from_nowhere⟩
      · exact unreached t ht ends
      · exact starts (from_nowhere t ht ends)

/-- A state that nothing leads to, one that only a transition without sources leads to, one that a
transition with sources leads to as well, and one that another fires. -/
def remote : Definition where
  states := ["a", "b", "c", "d", "e"]
  initial := "a"
  transitions := [.of (.many []) "go" "c" none, .of (.many []) "go" "d" none,
    .of (.one "a") "go" "d" none, .of (.one "e") "back" "a" none]
  annotations := []

theorem isolated_remote :
    let r : Report :=
      ⟨[], [.unreachable "b", .unreachable "e", .deadEnd "b", .deadEnd "c", .deadEnd "d"]⟩
    let found := (Check.ofGraph (remote.toGraph ⟨none, .default, positionsKey⟩).1).warnings
    Report.ofDefinition remote = .ok r ∧ r.isValid ∧
      ⟨"b"⟩ ∈ found ∧ ⟨"c"⟩ ∈ found ∧ ⟨"d"⟩ ∉ found ∧ ⟨"e"⟩ ∉ found := by
  intro r found
  have reported : Report.ofDefinition remote = .ok r := by decide +kernel
  have decides {s : String} (declared : s ∈ remote.states) (other : s ≠ remote.initial) :=
    isolated_iff reported rfl declared other ⟨none, .default, positionsKey⟩
  refine ⟨reported, rfl, ?_, ?_, ?_, ?_⟩
  · exact (decides (by decide) (by decide)).mpr (by decide +kernel)
  · exact (decides (by decide) (by decide)).mpr (by decide +kernel)
  · exact mt (decides (by decide) (by decide)).mp (by decide +kernel)
  · exact mt (decides (by decide) (by decide)).mp (by decide +kernel)

/-- A state with one transition to it, which starts nowhere. -/
def uncaused : Definition where
  states := ["a", "b"]
  initial := "a"
  transitions := [.of (.many []) "go" "b" none, .of (.one "a") "stay" "a" none]
  annotations := []

/-- The check warns that the state has no transitions, where the report does not warn that nothing
leads to it. -/
theorem isolated_uncaused :
    let r : Report := ⟨[], [.deadEnd "b"]⟩
    Report.ofDefinition uncaused = .ok r ∧ r.isValid ∧ .unreachable "b" ∉ r.warnings ∧
      ⟨"b"⟩ ∈ (Check.ofGraph (uncaused.toGraph ⟨none, .default, positionsKey⟩).1).warnings := by
  refine ⟨by decide +kernel, rfl, by decide, (mem_isolated (by decide) _).mpr ?_⟩
  decide +kernel

end Definition

end Statecraft
