import Statecraft.Definition.Report

/-!
# Reports without errors

What a report says about names comes down to four conditions (`errors_eq_nil_iff`):
the initial state is declared, no state is declared twice, all ends of arrows are declared,
and arrows with one event and one target have one guard. The names of a definition are
read off its document without loss (`names_toDocument`), so a definition that is reported
valid meets the conditions (`Definition.fit_of_report`).
-/

namespace Statecraft

namespace Report

/-- The conditions on names. -/
structure Names.Fit (n : Names) : Prop where
  initial_declared : n.initial ∈ n.states
  states_distinct : n.states.Nodup
  sources_declared : ∀ a ∈ n.arrows, ∀ s ∈ a.sources, s ∈ n.states
  targets_declared : ∀ a ∈ n.arrows, a.target ∈ n.states
  guards_agree : ∀ a ∈ n.arrows, ∀ b ∈ n.arrows, a.event = b.event → a.target = b.target →
    a.guard = b.guard

theorem repeated_eq_nil_iff (states : List String) : repeated states = [] ↔ states.Nodup := by
  have no_complaint : repeated states = [] ↔
      ∀ (i : Nat) (h : i < states.length), states[i] ∉ states.take i := by
    simp only [repeated, List.flatten_eq_nil_iff, List.mem_mapIdx, forall_exists_index]
    constructor
    · intro h i hi mem
      have := h _ i hi rfl
      simp [mem] at this
    · rintro h _ i hi rfl
      simp [h i hi]
  rw [no_complaint, List.Nodup, List.pairwise_iff_getElem]
  constructor
  · intro h i j hi hj hij e
    apply h j hj
    rw [← e, List.mem_take_iff_getElem]
    exact ⟨i, by omega, rfl⟩
  · intro h i hi mem
    rw [List.mem_take_iff_getElem] at mem
    obtain ⟨j, hj, e⟩ := mem
    exact h j i (by omega) hi (by omega) e

theorem mem_repeated {states : List String} {c : Complaint} :
    c ∈ repeated states ↔ ∃ i s, c = .repeatedState i s ∧ states[i]? = some s ∧
      s ∈ states.take i := by
  simp only [repeated, List.mem_flatten, List.mem_mapIdx, List.contains_eq_mem, decide_eq_true_eq]
  constructor
  · rintro ⟨_, ⟨i, hi, rfl⟩, hc⟩
    split at hc
    · rename_i before
      exact ⟨i, _, List.mem_singleton.mp hc, List.getElem?_eq_getElem hi, before⟩
    · cases hc
  · rintro ⟨i, s, rfl, here, before⟩
    obtain ⟨hi, rfl⟩ := List.getElem?_eq_some_iff.mp here
    exact ⟨_, ⟨i, hi, rfl⟩, by simp [before]⟩

/-- Each repetition is complained about once. -/
theorem nodup_repeated (states : List String) : (repeated states).Nodup := by
  have index : ∀ {i : Nat} {s : String} {p : Bool} {c : Complaint},
      c ∈ (if p = true then [Complaint.repeatedState i s] else []) → c = .repeatedState i s := by
    intro i s p c hc
    cases p with
    | true => exact List.mem_singleton.mp hc
    | false => cases hc
  rw [repeated, List.Nodup, List.pairwise_flatten]
  constructor
  · intro l hl
    obtain ⟨i, hi, rfl⟩ := List.mem_mapIdx.mp hl
    split
    · exact List.pairwise_singleton _ _
    · exact .nil
  · rw [List.pairwise_iff_getElem]
    intro i j hi hj hij c hc d hd e
    rw [List.getElem_mapIdx] at hc hd
    have same := (index hc).symm.trans (e.trans (index hd))
    injection same
    omega

theorem firstWith_some {arrows : List Arrow} {event target : String} {i : Nat} {b : Arrow}
    (h : firstWith arrows event target = some (i, b)) :
    b ∈ arrows ∧ b.event = event ∧ b.target = target := by
  simp only [firstWith, Option.map_eq_some_iff, Prod.mk.injEq] at h
  obtain ⟨c, found, _, rfl⟩ := h
  obtain ⟨hi, rfl⟩ := List.getElem?_eq_some_iff.mp found
  have match_at : (fun a : Arrow => a.event == event && a.target == target)
      arrows[arrows.findIdx fun a => a.event == event && a.target == target] :=
    List.findIdx_getElem (w := hi)
  simp only [Bool.and_eq_true, beq_iff_eq] at match_at
  exact ⟨List.getElem_mem hi, match_at⟩

theorem firstWith_of_mem {arrows : List Arrow} {a : Arrow} (h : a ∈ arrows) :
    ∃ i b, firstWith arrows a.event a.target = some (i, b) := by
  have hi : (arrows.findIdx fun b => b.event == a.event && b.target == a.target) <
      arrows.length := List.findIdx_lt_length_of_exists ⟨a, h, by simp⟩
  simp only [firstWith, List.getElem?_eq_getElem hi, Option.map_some]
  exact ⟨_, _, rfl⟩

theorem arrowErrors_eq_nil_iff (n : Names) (i : Nat) {a : Arrow} (h : a ∈ n.arrows) :
    n.arrowErrors i a = [] ↔
      (∀ s ∈ a.sources, s ∈ n.states) ∧ a.target ∈ n.states ∧
        ∀ j b, firstWith n.arrows a.event a.target = some (j, b) → b.guard = a.guard := by
  obtain ⟨j, b, first⟩ := firstWith_of_mem h
  simp only [Names.arrowErrors, first, List.append_eq_nil_iff, List.map_eq_nil_iff,
    List.filter_eq_nil_iff, Bool.not_eq_true', Bool.not_eq_false, List.contains_eq_mem,
    decide_eq_true_eq, and_assoc]
  have target : (if a.target ∈ n.states then ([] : List Complaint)
      else [.unknownTarget i a.target]) = [] ↔ a.target ∈ n.states := by
    split <;> simp_all
  have guard : (if b.guard == a.guard then ([] : List Complaint)
      else [.divergentGuard j i a.event a.target]) = [] ↔ b.guard = a.guard := by
    split <;> simp_all
  rw [target, guard]
  simp

/-- The conditions but for the distinct states. -/
structure Names.Closed (n : Names) : Prop where
  initial_declared : n.initial ∈ n.states
  sources_declared : ∀ a ∈ n.arrows, ∀ s ∈ a.sources, s ∈ n.states
  targets_declared : ∀ a ∈ n.arrows, a.target ∈ n.states
  guards_agree : ∀ a ∈ n.arrows, ∀ b ∈ n.arrows, a.event = b.event → a.target = b.target →
    a.guard = b.guard

/-- In closed names only repeated states are errors. -/
theorem Names.Closed.errors_eq {n : Names} (h : n.Closed) : n.errors = repeated n.states := by
  have initial : n.states.contains n.initial = true := by
    simpa using h.initial_declared
  have arrows : (n.arrows.mapIdx n.arrowErrors).flatten = [] := by
    rw [List.flatten_eq_nil_iff]
    intro l hl
    obtain ⟨i, hi, rfl⟩ := List.mem_mapIdx.mp hl
    have mem := List.getElem_mem hi
    refine (arrowErrors_eq_nil_iff n i mem).mpr
      ⟨h.sources_declared _ mem, h.targets_declared _ mem, fun j b first => ?_⟩
    obtain ⟨hb, he, ht⟩ := firstWith_some first
    exact h.guards_agree b hb _ mem he ht
  rw [Names.errors, if_pos initial, arrows, List.nil_append, List.append_nil]

theorem Names.Fit.closed {n : Names} (h : n.Fit) : n.Closed where
  initial_declared := h.initial_declared
  sources_declared := h.sources_declared
  targets_declared := h.targets_declared
  guards_agree := h.guards_agree

/-- A report finds no error in names that fit, and in no others. -/
theorem errors_eq_nil_iff (n : Names) : n.errors = [] ↔ n.Fit := by
  have initial : (if n.states.contains n.initial then ([] : List Complaint)
      else [.unknownInitial n.initial]) = [] ↔ n.initial ∈ n.states := by
    split <;> simp_all
  have arrows : (n.arrows.mapIdx n.arrowErrors).flatten = [] ↔
      ∀ (i : Nat) (h : i < n.arrows.length), n.arrowErrors i n.arrows[i] = [] := by
    simp only [List.flatten_eq_nil_iff, List.mem_mapIdx, forall_exists_index]
    exact ⟨fun h i hi => h _ i hi rfl, fun h _ i hi e => e ▸ h i hi⟩
  constructor
  · intro h
    simp only [Names.errors, List.append_eq_nil_iff, initial, repeated_eq_nil_iff, arrows] at h
    obtain ⟨⟨hi, hd⟩, ha⟩ := h
    have each : ∀ a ∈ n.arrows, (∀ s ∈ a.sources, s ∈ n.states) ∧ a.target ∈ n.states ∧
        ∀ j b, firstWith n.arrows a.event a.target = some (j, b) → b.guard = a.guard := by
      intro a mem
      obtain ⟨i, h, rfl⟩ := List.getElem_of_mem mem
      exact (arrowErrors_eq_nil_iff n i mem).mp (ha i h)
    refine ⟨hi, hd, fun a h => (each a h).1, fun a h => (each a h).2.1, ?_⟩
    intro a hma b hmb he ht
    -- both have the guard of the first arrow with their event and target
    obtain ⟨j, c, first⟩ := firstWith_of_mem hma
    rw [← (each a hma).2.2 j c first, ← (each b hmb).2.2 j c (he ▸ ht ▸ first)]
  · intro h
    rw [h.closed.errors_eq, repeated_eq_nil_iff]
    exact h.states_distinct

end Report

namespace Document

/-- A key's value in a mapping that leaves out what is absent. -/
theorem get?_objectOf (entries : List (String × Option Document)) (key : String) :
    (objectOf entries).get? key =
      (entries.find? fun e => e.1 == key && e.2.isSome).bind (·.2) := by
  show Entries.get? ((entries.filterMap fun e => e.2.map (e.1, ·)).map fun e => (.text e.1, e.2))
    key = _
  unfold Entries.get?
  induction entries with
  | nil => rfl
  | cons e r ih =>
    obtain ⟨name, value⟩ := e
    cases value with
    | none => simpa using ih
    | some d =>
      by_cases h : name = key
      · simp [content, h]
      · simpa [content, h] using ih

end Document

namespace Report

theorem textOf_text (s : String) : textOf (.text s) = s := rfl

theorem textsOf_texts (ss : List String) : textsOf (.texts ss) = ss := by
  simp [textsOf, Document.texts, Document.content, Function.comp_def, textOf_text]

/-- The transition as an arrow. -/
def Arrow.ofTransition (t : Transition) : Arrow := ⟨t.sources, t.event, t.target, t.guard⟩

end Report

namespace Definition

open Report (Names Arrow)

/-- The names of a definition. -/
def names (d : Definition) : Names :=
  ⟨d.states, d.initial, d.transitions.map fun t => ⟨t.sources, t.event, t.target, t.guard⟩⟩

theorem arrows_names (d : Definition) : d.names.arrows = d.transitions.map Arrow.ofTransition := rfl

theorem get?_from (t : Transition) : t.toDocument.get? "from" = some t.origin.toDocument := by
  simp [Transition.toDocument, Document.get?_objectOf]

theorem get?_event (t : Transition) : t.toDocument.get? "event" = some (.text t.event) := by
  simp [Transition.toDocument, Document.get?_objectOf]

theorem get?_to (t : Transition) : t.toDocument.get? "to" = some (.text t.target) := by
  simp [Transition.toDocument, Document.get?_objectOf]

theorem get?_guard (t : Transition) : t.toDocument.get? "guard" = t.guard.map .text := by
  cases h : t.guard <;> simp [Transition.toDocument, Document.get?_objectOf, h]

theorem ofDocument_transition (t : Transition) :
    Arrow.ofDocument t.toDocument = ⟨t.sources, t.event, t.target, t.guard⟩ := by
  unfold Arrow.ofDocument
  rw [get?_from, get?_guard, Report.textAt, Report.textAt, get?_event, get?_to]
  congr 1
  · unfold Transition.sources
    cases t.origin with
    | one s => rfl
    | many ss => exact Report.textsOf_texts ss
  · -- a stored guard is not blank and so not empty
    have stored := t.guard_stored
    cases h : t.guard with
    | none => rfl
    | some g =>
      have not_blank : Text.isBlankText g = false := by
        simpa [h, guardText?, Option.filter] using stored
      have not_empty : g ≠ "" := by
        rintro rfl
        simp [Text.isBlankText] at not_blank
      simp [Document.content, not_empty]

theorem get?_states (d : Definition) : d.toDocument.get? "states" = some (.texts d.states) := by
  simp [toDocument, Document.get?_objectOf]

theorem get?_initial (d : Definition) : d.toDocument.get? "initial" = some (.text d.initial) := by
  simp [toDocument, Document.get?_objectOf]

theorem get?_transitions (d : Definition) : d.toDocument.get? "transitions" =
    some (.list (d.transitions.map Transition.toDocument)) := by
  simp [toDocument, Document.get?_objectOf]

theorem get?_meta (d : Definition) : d.toDocument.get? "meta" =
    if d.annotations.isEmpty then none else some (.object d.annotations) := by
  cases h : d.annotations.isEmpty <;> simp [toDocument, Document.get?_objectOf, h]

/-- A definition's names are read off its document without loss. -/
theorem names_toDocument (d : Definition) : Names.ofDocument d.toDocument = d.names := by
  unfold Names.ofDocument
  rw [get?_states, get?_transitions, Report.textAt, get?_initial]
  simp only [Option.map_some, Option.getD_some, Report.textsOf_texts, Report.textOf_text,
    Document.content, List.map_map, names, Function.comp_def, ofDocument_transition]

/-- The names of a definition fit if it is reported valid. -/
theorem fit_of_report {d : Definition} {r : Report} (h : Report.ofDefinition d = .ok r)
    (valid : r.isValid) : d.names.Fit := by
  unfold Report.ofDefinition Report.ofDocument at h
  split at h
  · rw [names_toDocument] at h
    cases hw : d.names.warnings with
    | error e => simp [hw, Except.map] at h
    | ok w =>
      simp only [hw, Except.map, Except.ok.injEq] at h
      subst h
      exact (Report.errors_eq_nil_iff d.names).mp (List.isEmpty_iff.mp valid)
  · rename_i complaints some_complaint
    obtain rfl := Except.ok.inj h
    exact absurd (List.isEmpty_iff.mp valid) some_complaint

end Definition

end Statecraft
