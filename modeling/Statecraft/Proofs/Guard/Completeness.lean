import Statecraft.Proofs.Guard.Canonical

/-!
# Guards that say nothing

A guard without any complete condition has the empty text, also where its groups are negated, and
no other guard has (`Group.text_empty_iff`). So an empty text stands for no guard, and what is read
from a text always is one.
-/

namespace Statecraft.Guard

theorem counted_cons (s : List Char) (parts : List (List Char)) :
    counted (s :: parts) = (if s = [] then [] else [s]) ++ counted parts := by
  unfold counted
  cases s <;> simp

/-- A group's text is empty only if no part counts in it. -/
theorem renderParts_eq_nil_iff {nested negated : Bool} {l : Logic} {parts : List (List Char)} :
    renderParts nested l negated parts = [] ↔ counted parts = [] := by
  refine ⟨fun empty => ?_, fun none => renderParts_nil none nested⟩
  by_contra some_part
  obtain ⟨s, others, first⟩ := List.exists_cons_of_ne_nil some_part
  have some_char : s ≠ [] := by
    have kept : s ∈ counted parts := first ▸ List.mem_cons_self
    simpa using (List.mem_filter.mp kept).2
  have joined : List.intercalate l.joiner.toList (counted parts) ≠ [] := by
    rw [first]
    cases others <;> simp [some_char]
  cases negated with
  | true =>
    rw [renderParts_negated some_part] at empty
    cases empty
  | false =>
    by_cases plain : nested = false ∨ (counted parts).length = 1
    · rw [renderParts_plain plain] at empty
      exact joined empty
    · obtain ⟨inside, several⟩ := not_or.mp plain
      obtain rfl : nested = true := Bool.not_eq_false _ ▸ inside
      have some_length := List.length_pos_iff.mpr some_part
      rw [renderParts_several (by omega)] at empty
      cases empty

namespace Tree

mutual

/-- A tree has an empty text only if no leaf has a field. -/
theorem render_eq_nil_iff (t : Tree) : t.render = [] ↔ t.isComplete = false :=
  match t with
  | .leaf c => by
    unfold render isComplete
    cases blank : c.isBlank <;> simp [c.render_ne_nil]
  | .group l items n => renderParts_eq_nil_iff.trans (counted_renderList_eq_nil_iff items)

theorem counted_renderList_eq_nil_iff (items : List Tree) :
    counted (renderList items) = [] ↔ isCompleteList items = false :=
  match items with
  | [] => by simp [renderList, counted, isCompleteList]
  | t :: r => by
    have first := render_eq_nil_iff t
    have others := counted_renderList_eq_nil_iff r
    rw [renderList, counted_cons, List.append_eq_nil_iff, others, isCompleteList,
      Bool.or_eq_false_iff, ← first]
    simp

end

mutual

/-- Looking for a leaf with a field finds one among all leaves. -/
theorem isComplete_eq_any (t : Tree) : t.isComplete = t.conditions.any (!·.isBlank) :=
  match t with
  | .leaf c => by simp [isComplete, conditions]
  | .group _ items _ => isCompleteList_eq_any items

theorem isCompleteList_eq_any (items : List Tree) :
    isCompleteList items = (conditionsList items).any (!·.isBlank) :=
  match items with
  | [] => rfl
  | t :: r => by
    rw [isCompleteList, conditionsList, List.any_append, isComplete_eq_any t,
      isCompleteList_eq_any r]

end

end Tree

namespace Group

/-- All that is read from a text are conditions with fields. -/
theorem not_isBlank_of_ofText {s : String} {g : Group} (read : ofText s = .ok g) :
    ∀ c ∈ g.conditions, c.isBlank = false := by
  obtain ⟨t, parsed, rfl⟩ := ofText_isParsed read
  rw [conditions_ofTree]
  exact fun c hc => (parsed.conditions c hc).not_isBlank

/-- **No text means no complete condition.** A guard whose integers can be written has a text, which
is empty exactly if no condition is complete, that is if all of them are drafts. A listener hears of
no guard in this case only. What is read from a text has no drafts. -/
theorem text_empty_iff {g : Group}
    (writable : ∀ c ∈ g.conditions, c.isBlank = false → c.value.isWritable = true) :
    (∃ s, g.text = .ok s ∧ (s = "" ↔ g.isComplete = false)) ∧
    (g.isComplete = false ↔ ∀ c ∈ g.conditions, c.isBlank = true) ∧
    (∀ e : Editing, ∃ o, e.act (.updateTree (some g)) = .ok o ∧
      (o.heard = [none] ↔ g.isComplete = false)) ∧
    ∀ s g', ofText s = .ok g' → ∀ c ∈ g'.conditions, c.isBlank = false := by
  have written := text_of_isWritable writable
  have empty : String.ofList g.render = "" ↔ g.isComplete = false := by
    rw [← String.toList_inj, String.toList_ofList]
    exact renderParts_eq_nil_iff.trans (Tree.counted_renderList_eq_nil_iff g.items)
  have leaves : g.isComplete = false ↔ ∀ c ∈ g.conditions, c.isBlank = true := by
    rw [isComplete, Tree.isCompleteList_eq_any, List.any_eq_false]
    simp [conditions]
  refine ⟨⟨_, written, empty⟩, leaves, fun e => ?_, fun s g' read => not_isBlank_of_ofText read⟩
  have heard : e.act (.updateTree (some g)) = .ok ⟨{ e with tree := some g },
      .guard (nonEmpty? (String.ofList g.render)), [nonEmpty? (String.ofList g.render)]⟩ := by
    show g.text.map _ = _
    rw [written]
    rfl
  refine ⟨_, heard, ?_⟩
  rw [← empty]
  simp [nonEmpty?]

/-- Drafts under negations, one of them with a value and blanks for a field. -/
def onlyDrafts : Group where
  logic := .or
  items := [.leaf .draft,
    .group .and [.group .or [.leaf ⟨" \t", .equal, .int (-12), true⟩] true, .leaf .draft] false]
  negated := true

theorem text_empty_iff_onlyDrafts :
    (∀ c ∈ onlyDrafts.conditions, c.isBlank = false → c.value.isWritable = true) ∧
    onlyDrafts.text = .ok "" ∧ onlyDrafts.isComplete = false := by
  have writable : ∀ c ∈ onlyDrafts.conditions, c.isBlank = false → c.value.isWritable = true := by
    decide +kernel
  obtain ⟨⟨s, written, empty⟩, leaves, _⟩ := text_empty_iff writable
  have incomplete : onlyDrafts.isComplete = false := leaves.mpr (by decide)
  exact ⟨writable, empty.mpr incomplete ▸ written, incomplete⟩

end Group

end Statecraft.Guard
