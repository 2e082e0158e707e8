import Statecraft.Proofs.Definition.Answers
import Statecraft.Proofs.Definition.Derived

/-!
# Guards that are lost

An edge has one guard, that of the first of its transitions. Merging warns of each later transition
whose guard is another one (`mergeTransitions_warnings`), and the report on a definition has an
error at each of them and nowhere else, unless a guard keeps it from being made
(`Definition.divergence_reported_iff`).
-/

namespace Statecraft

open Report (Complaint Names Arrow firstWith)

/-- The first entry of a kind, at an entry of the kind: one before it, or else the entry itself. -/
theorem find?_of_getElem? {α : Type} {p : α → Bool} {l : List α} {i : Nat} {a : α}
    (here : l[i]? = some a) (kind : p a = true) :
    l.find? p = ((l.take i).find? p).or (some a) := by
  obtain ⟨h, rfl⟩ := List.getElem?_eq_some_iff.mp here
  conv_lhs => rw [← List.take_append_drop i l, List.find?_append, List.drop_eq_getElem_cons h,
    List.find?_cons_of_pos kind]

namespace Bundle

/-- The warning that merging gives when it comes to a transition and finds the guard kept for its
event and target to be another one. -/
def divergenceAt (ts : List Transition) (i : Nat) : Option Divergence :=
  ts[i]?.bind fun t => (insert (collect [] (ts.take i)).1 t).2

theorem insert_snd (bundles : List Bundle) (t : Transition) :
    (insert bundles t).2 = (bundles.find? (·.key == t.key)).bind (·.divergence? t) := by
  induction bundles with
  | nil => rfl
  | cons b r ih =>
    rw [insert, List.find?_cons]
    split
    · rename_i same
      rw [same]
      rfl
    · rename_i other
      rw [Bool.eq_false_iff.mpr other]
      exact ih

theorem collect_snd (bundles : List Bundle) (ts : List Transition) :
    (collect bundles ts).2 = (List.range ts.length).filterMap fun i =>
      ts[i]?.bind fun t => (insert (collect bundles (ts.take i)).1 t).2 := by
  induction ts generalizing bundles with
  | nil => rfl
  | cons t r ih =>
    have later : (collect bundles (t :: r)).2 =
        (insert bundles t).2.toList ++ (collect (insert bundles t).1 r).2 := rfl
    rw [later, ih, List.length_cons, List.range_succ_eq_map, List.filterMap_eq_flatMap_toList,
      List.filterMap_eq_flatMap_toList, List.flatMap_cons, List.flatMap_map]
    rfl

/-- The bundle with a key has the guard of the first transition with it. -/
theorem Collected.find?_guard {seen : List Transition} {bundles : List Bundle}
    (h : Collected seen bundles) (k : String × String) :
    (bundles.find? (·.key == k)).map guard = (seen.find? (·.key == k)).map Transition.guard := by
  cases found : bundles.find? (·.key == k) with
  | none =>
    have unknown : k ∉ seen.map Transition.key := by
      rw [← h.mem_keys]
      simpa using found
    have none_left : seen.find? (·.key == k) = none := by
      simpa using unknown
    rw [none_left]
    rfl
  | some b =>
    have same : b.key = k := by simpa using List.find?_some found
    rw [← same, h.guard_first b (List.mem_of_find?_eq_some found)]
    rfl

/-- A guard is lost where the first transition with the same event and target has another one. -/
theorem isSome_divergenceAt {ts : List Transition} {i : Nat} {t : Transition}
    (here : ts[i]? = some t) : (divergenceAt ts i).isSome ↔
      ∃ u, ts.find? (·.key == t.key) = some u ∧ u.guard ≠ t.guard := by
  have guards := (collected (ts.take i)).find?_guard t.key
  rw [find?_of_getElem? here (beq_self_eq_true t.key), divergenceAt, here, Option.bind_some,
    insert_snd]
  cases bundle : (collect [] (ts.take i)).1.find? (·.key == t.key) with
  | none =>
    rw [bundle] at guards
    simp [Option.map_eq_none_iff.mp guards.symm]
  | some b =>
    rw [bundle] at guards
    obtain ⟨u, first, same⟩ := Option.map_eq_some_iff.mp guards.symm
    simp [first, divergence?, same]

end Bundle

/-- The warnings of a merge are those that it gives from one transition to the next. -/
theorem mergeTransitions_warnings (ts : List Transition) :
    (mergeTransitions ts).2 = (List.range ts.length).filterMap (Bundle.divergenceAt ts) :=
  Bundle.collect_snd [] ts

namespace Report

/-- The report has an error about a guard that differs, at the guard of the transition. -/
def ReportsDivergence (r : Report) (i : Nat) : Prop :=
  ∃ c ∈ r.errors, c.code = "DIVERGENT_GUARD" ∧
    c.path? = some (Complaint.transitionPath i ++ ".guard")

theorem Complaint.code_eq_divergent {c : Complaint} (h : c.code = "DIVERGENT_GUARD") :
    ∃ j i event target, c = .divergentGuard j i event target := by
  cases c with
  | divergentGuard j i event target => exact ⟨j, i, event, target, rfl⟩
  | _ => simp [code] at h

theorem Complaint.guardPath_injective {i j : Nat}
    (h : transitionPath i ++ ".guard" = transitionPath j ++ ".guard") : i = j := by
  have number := (String.append_left_inj _).mp ((String.append_left_inj _).mp h)
  exact Decimal.natText_injective ((String.append_right_inj _).mp number)

theorem map_snd_firstWith (arrows : List Arrow) (event target : String) :
    (firstWith arrows event target).map Prod.snd =
      arrows.find? fun a => a.event == event && a.target == target := by
  rw [List.find?_eq_getElem?_findIdx, firstWith, Option.map_map]
  exact Option.map_id'

/-- An arrow has an error about its guard where the first arrow with its event and target has another
guard. -/
theorem divergentGuard_mem_arrowErrors {n : Names} {i j k : Nat} {a : Arrow}
    {event target : String} : .divergentGuard j i event target ∈ n.arrowErrors k a ↔
      k = i ∧ a.event = event ∧ a.target = target ∧
        ∃ b, firstWith n.arrows event target = some (j, b) ∧ b.guard ≠ a.guard := by
  unfold Names.arrowErrors
  cases first : firstWith n.arrows a.event a.target with
  | none =>
    constructor
    · intro h
      simp at h
    · rintro ⟨rfl, rfl, rfl, b, found, _⟩
      cases first.symm.trans found
  | some p =>
    obtain ⟨m, b⟩ := p
    constructor
    · intro h
      obtain ⟨differs, rfl, rfl, rfl, rfl⟩ : ¬ b.guard = a.guard ∧ j = m ∧ i = k ∧
        event = a.event ∧ target = a.target := by simpa using h
      exact ⟨rfl, rfl, rfl, b, first, differs⟩
    · rintro ⟨rfl, rfl, rfl, c, found, differs⟩
      obtain ⟨rfl, rfl⟩ := Prod.mk.inj (Option.some.inj (first.symm.trans found))
      simp [differs]

/-- What an error about a guard says: the transition has the event and the target, and the first one
that has them has another guard. -/
theorem divergentGuard_mem_errors {n : Names} {i j : Nat} {event target : String} :
    .divergentGuard j i event target ∈ n.errors ↔ ∃ a b, n.arrows[i]? = some a ∧
      a.event = event ∧ a.target = target ∧ firstWith n.arrows event target = some (j, b) ∧
        b.guard ≠ a.guard := by
  have at_arrow : .divergentGuard j i event target ∈ n.errors ↔
      ∃ (k : Nat) (h : k < n.arrows.length),
        .divergentGuard j i event target ∈ n.arrowErrors k n.arrows[k] := by
    simp [Names.errors, mem_repeated]
  simp only [at_arrow, divergentGuard_mem_arrowErrors]
  constructor
  · rintro ⟨k, h, rfl, rfl, rfl, b, first, differs⟩
    exact ⟨_, b, List.getElem?_eq_getElem h, rfl, rfl, first, differs⟩
  · rintro ⟨a, b, found, rfl, rfl, first, differs⟩
    obtain ⟨h, rfl⟩ := List.getElem?_eq_some_iff.mp found
    exact ⟨i, h, rfl, rfl, rfl, b, first, differs⟩

end Report

namespace Definition

variable {d : Definition} {r : Report}

/-- The first arrow with the event and the target of a transition is that of the first transition
with its key. -/
theorem firstWith_names (d : Definition) (t : Transition) (b : Arrow) :
    (∃ j, firstWith d.names.arrows t.event t.target = some (j, b)) ↔
      ∃ u, d.transitions.find? (·.key == t.key) = some u ∧
        Arrow.ofTransition u = b := by
  have first := Report.map_snd_firstWith d.names.arrows t.event t.target
  have keys : ((fun a : Arrow => a.event == t.event && a.target == t.target) ∘
      Arrow.ofTransition) = fun u => u.key == t.key := rfl
  rw [arrows_names, List.find?_map, keys, ← arrows_names] at first
  rw [← Option.map_eq_some_iff, ← first]
  simp

/-- A report has an error at the guard of each transition whose guard is not that of the first with
its key. -/
theorem reportsDivergence_iff_find? (errors : r.errors = d.names.errors) (i : Nat) :
    r.ReportsDivergence i ↔ ∃ t, d.transitions[i]? = some t ∧
      ∃ u, d.transitions.find? (·.key == t.key) = some u ∧ u.guard ≠ t.guard := by
  constructor
  · rintro ⟨c, hc, code, path⟩
    obtain ⟨j, k, event, target, rfl⟩ := Report.Complaint.code_eq_divergent code
    obtain rfl := Report.Complaint.guardPath_injective (Option.some.inj path)
    rw [errors, Report.divergentGuard_mem_errors] at hc
    obtain ⟨a, b, arrow, rfl, rfl, first, differs⟩ := hc
    rw [arrows_names, List.getElem?_map] at arrow
    obtain ⟨t, here, rfl⟩ := Option.map_eq_some_iff.mp arrow
    obtain ⟨u, found, rfl⟩ := (firstWith_names d t b).mp ⟨j, first⟩
    exact ⟨t, here, u, found, differs⟩
  · rintro ⟨t, here, u, found, differs⟩
    obtain ⟨j, first⟩ := (firstWith_names d t _).mpr ⟨u, found, rfl⟩
    refine ⟨.divergentGuard j i t.event t.target, ?_, rfl, rfl⟩
    rw [errors, Report.divergentGuard_mem_errors]
    refine ⟨Arrow.ofTransition t, _, ?_, rfl, rfl, first, differs⟩
    rw [arrows_names, List.getElem?_map, here, Option.map_some]

/-- A report has an error at the guard of each transition at which a merge gives a warning, and at
no other guard. -/
theorem reportsDivergence_iff (errors : r.errors = d.names.errors) (i : Nat) :
    r.ReportsDivergence i ↔ (Bundle.divergenceAt d.transitions i).isSome := by
  rw [reportsDivergence_iff_find? errors]
  cases here : d.transitions[i]? with
  | none => simp [Bundle.divergenceAt, here]
  | some t => simp only [Option.some.injEq, exists_eq_left', Bundle.isSome_divergenceAt here]

/-- A definition that has a state is reported on but for guards that cannot be answered. -/
theorem ofDefinition_ok_iff (some_state : d.states ≠ []) :
    (∃ r, Report.ofDefinition d = .ok r) ↔
      ∀ t ∈ d.transitions, ∀ s, t.guard = some s → ¬ Guard.Overlong s := by
  unfold Report.ofDefinition
  rw [Report.ofDocument_ok_iff, Report.checkShape_toDocument, if_neg some_state, names_toDocument,
    arrows_names]
  simp [Arrow.IsOverlong, Arrow.ofTransition]

end Definition

/-- The edge carries the transition: it has its event and its target, and starts from all its
states. -/
def Edge.Carries (e : Edge) (t : Transition) : Prop :=
  e.key = t.key ∧ ∀ s ∈ t.sources, s ∈ e.sources

/-- A transition that starts anywhere is carried by an edge. -/
theorem exists_carries {ts : List Transition} {t : Transition} (ht : t ∈ ts)
    (starts : t.sources ≠ []) : ∃ e ∈ (mergeTransitions ts).1, e.Carries t := by
  have moves (s : String) (hs : s ∈ t.sources) :
      ∃ e ∈ (mergeTransitions ts).1, e.key = t.key ∧ s ∈ e.sources :=
    (merge_moves ts t.key s).mpr ⟨t, ht, rfl, hs⟩
  obtain ⟨s, hs⟩ := List.exists_mem_of_ne_nil _ starts
  obtain ⟨e, he, key, _⟩ := moves s hs
  refine ⟨e, he, key, fun u hu => ?_⟩
  obtain ⟨f, hf, key', fires⟩ := moves u hu
  rwa [List.inj_on_of_nodup_map (nodup_keys_merge ts) he hf (key.trans key'.symm)]

/-- Where merging warns of nothing, an edge has the guard of each transition it carries. -/
theorem guard_of_carries {ts : List Transition} {t : Transition} {e : Edge}
    (he : e ∈ (mergeTransitions ts).1) (ht : t ∈ ts) (carries : e.Carries t)
    (quiet : ∀ i, Bundle.divergenceAt ts i = none) : e.guard = t.guard := by
  obtain ⟨u, _, first, _, same⟩ := merge_guard he
  obtain ⟨i, here⟩ := List.mem_iff_getElem?.mp ht
  by_contra differs
  rw [carries.1] at first
  have lost := (Bundle.isSome_divergenceAt here).mpr ⟨u, first, same ▸ differs⟩
  rw [quiet i] at lost
  cases lost

namespace Definition

variable {d : Definition}

/-- **Every guard that is lost is reported, and nothing else is.** Merging warns at some of the
transitions, in their order. The report on a definition with a state has an error at the guard of
just these, unless some guard has an integer that is too long where an operand is expected: then
there is no report. Where the report has no such error, each transition that starts anywhere is
carried by an edge, and an edge has the guard of every transition that it carries. -/
theorem divergence_reported_iff (d : Definition) (some_state : d.states ≠ []) :
    ((mergeTransitions d.transitions).2 =
      (List.range d.transitions.length).filterMap (Bundle.divergenceAt d.transitions)) ∧
    (∀ i, (∃ r, Report.ofDefinition d = .ok r ∧ r.ReportsDivergence i) ↔
      (Bundle.divergenceAt d.transitions i).isSome ∧
        ∀ t ∈ d.transitions, ∀ s, t.guard = some s → ¬ Guard.Overlong s) ∧
    ∀ r, Report.ofDefinition d = .ok r → (∀ i, ¬ r.ReportsDivergence i) →
      ∀ t ∈ d.transitions,
        (t.sources ≠ [] → ∃ e ∈ (mergeTransitions d.transitions).1, e.Carries t) ∧
          ∀ e ∈ (mergeTransitions d.transitions).1, e.Carries t → e.guard = t.guard := by
  have found {r : Report} (reported : Report.ofDefinition d = .ok r) :=
    reportsDivergence_iff (Report.findings_of_ofDefinition some_state reported).1
  refine ⟨mergeTransitions_warnings d.transitions, fun i => ?_, ?_⟩
  · rw [← ofDefinition_ok_iff some_state]
    constructor
    · rintro ⟨r, reported, at_guard⟩
      exact ⟨(found reported i).mp at_guard, r, reported⟩
    · rintro ⟨lost, r, reported⟩
      exact ⟨r, reported, (found reported i).mpr lost⟩
  · intro r reported no_error t ht
    refine ⟨exists_carries ht, fun e he carries => guard_of_carries he ht carries fun i => ?_⟩
    simpa using mt (found reported i).mpr (no_error i)

/-- Five transitions, of which the third and the last come after one with their event and target and
another guard. The first of them starts nowhere. -/
def overruled : Definition where
  states := ["a", "b"]
  initial := "a"
  transitions := [.of (.many []) "go" "b" none,
    .of (.many ["a", "b"]) "stop" "a" (some "ctx.n > 10"), .of (.one "a") "go" "b" (some "ctx.x"),
    .of (.one "b") "go" "b" none, .of (.one "b") "stop" "a" (some "ctx.n > 11")]
  annotations := []

theorem divergence_reported_overruled : overruled.states ≠ [] ∧
    (∃ r, Report.ofDefinition overruled = .ok r ∧ r.ReportsDivergence 2) ∧
    (∃ r, Report.ofDefinition overruled = .ok r ∧ r.ReportsDivergence 4) ∧
    ¬ (∃ r, Report.ofDefinition overruled = .ok r ∧ r.ReportsDivergence 3) := by
  have some_state : overruled.states ≠ [] := List.cons_ne_nil _ _
  have short : ∀ t ∈ overruled.transitions, ∀ s ∈ t.guard, Guard.HasShortIntegers s := by
    decide +kernel
  have answered : ∀ t ∈ overruled.transitions, ∀ s, t.guard = some s → ¬ Guard.Overlong s :=
    fun t ht s guard => (short t ht s guard).not_overlong
  obtain ⟨_, reported, _⟩ := divergence_reported_iff overruled some_state
  refine ⟨some_state, (reported 2).mpr ⟨by decide +kernel, answered⟩,
    (reported 4).mpr ⟨by decide +kernel, answered⟩, fun h => ?_⟩
  exact absurd ((reported 3).mp h).1 (by decide +kernel)

/-- Two transitions of one event and target, with a guard each. -/
def contested (s t : String) : Definition where
  states := ["a"]
  initial := "a"
  transitions := [.of (.one "a") "go" "a" (some s), .of (.one "a") "go" "a" (some t)]
  annotations := []

/-- Where the first guard is overlong, merging warns of the second one, but there is no report to
say so. -/
theorem contested_of_overlong {s t : String} (long : Guard.Overlong s)
    (short : ¬ Guard.Overlong t) :
    (Bundle.divergenceAt (contested s t).transitions 1).isSome ∧
      ¬ ∃ r, Report.ofDefinition (contested s t) = .ok r := by
  have kept : guardText? (some s) = some s := by
    simp [guardText?, long.isBlankText]
  refine ⟨(Bundle.isSome_divergenceAt rfl).mpr ⟨_, List.find?_cons_of_pos rfl, ?_⟩, ?_⟩
  · show guardText? (some s) ≠ guardText? (some t)
    rw [kept]
    intro same
    obtain rfl := Option.some.inj (Option.filter_eq_some_iff.mp same.symm).1
    exact short long
  · rw [ofDefinition_ok_iff (List.cons_ne_nil _ _)]
    intro answered
    exact answered _ List.mem_cons_self _ kept long

theorem divergence_behind_ones :
    (Bundle.divergenceAt (contested Report.ones "ctx.b").transitions 1).isSome ∧
      ¬ ∃ r, Report.ofDefinition (contested Report.ones "ctx.b") = .ok r :=
  have short : Guard.HasShortIntegers "ctx.b" := by decide +kernel
  contested_of_overlong Report.overlong_ones short.not_overlong

end Definition

end Statecraft
