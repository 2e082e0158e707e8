import Statecraft.Proofs.Guard.Image

/-!
# The round trip of guard texts

A guard that is read from a text is written to a text that is read as an equal guard
(`Group.ofText_round_trip`).
-/

namespace Statecraft.Guard.Group

theorem reread_ofTree (t : Tree) : (ofTree t).toTree.reread = t.reread := by
  cases t with
  | group l items n => rfl
  | leaf c =>
    cases blank : c.isBlank <;>
      simp [ofTree, toTree, Tree.reread, Tree.rereadList, regroup, blank, Terms.joined_single,
        Terms.toTree]

theorem conditions_ofTree (t : Tree) : (ofTree t).conditions = t.conditions := by
  cases t with
  | group l items n => rfl
  | leaf c => rfl

theorem same_ofTree {t u : Tree} (h : t.same u = true) : (ofTree t).same (ofTree u) = true := by
  cases t <;> cases u
  · simpa [same, toTree, ofTree, Tree.same, Tree.sameList] using h
  · cases h
  · cases h
  · exact h

/-- What a text is read as is equal to itself, for no text writes the undefined number. -/
theorem same_of_ofText {s : String} {g : Group} (read : ofText s = .ok g) : g.same g = true := by
  obtain ⟨t, parsed, rfl⟩ := ofText_isParsed read
  exact same_ofTree parsed.same_self

/-- **Round trip of parsed guards.** Without infinite numbers, the text of what a text is read as
is read as the same. -/
theorem ofText_round_trip {s : String} {g : Group} (read : ofText s = .ok g)
    (finite : ∀ c ∈ g.conditions, c.value.isInfinite = false) :
    ∃ s' g', g.text = .ok s' ∧ ofText s' = .ok g' ∧ g'.same g = true := by
  obtain ⟨t, parsed, rfl⟩ := ofText_isParsed read
  rw [conditions_ofTree] at finite
  have readable : AllReadable (ofTree t).conditions := by
    rw [conditions_ofTree]
    exact fun c hc _ => (parsed.conditions c hc).isReadable (finite c hc)
  obtain ⟨t', again, same, _⟩ := parsed.reread_same finite
  have reread := reread_ofTree t
  rw [again] at reread
  exact ⟨_, _, text_eq_render readable, ofText_render readable reread, same_ofTree same⟩

/-- A guard with a whole number that is written with a point, a quote in a text and a negation of
a negation. -/
theorem ofText_round_trip_nested : ∃ g,
    ofText "ctx.a.b>=2.0 && !(ctx.c == 'x\"y' || !(!(ctx.d))) && (ctx.e < -1.5e-3)" = .ok g ∧
      (∀ c ∈ g.conditions, c.value.isInfinite = false) ∧
      ∃ s' g', g.text = .ok s' ∧ ofText s' = .ok g' ∧ g'.same g = true := by
  have check : (match ofText
      "ctx.a.b>=2.0 && !(ctx.c == 'x\"y' || !(!(ctx.d))) && (ctx.e < -1.5e-3)" with
      | .ok g => g.conditions.all fun c => !c.value.isInfinite
      | .error _ => false) = true := by decide +kernel
  split at check
  · rename_i g read
    have finite : ∀ c ∈ g.conditions, c.value.isInfinite = false := by simpa using check
    exact ⟨g, read, finite, ofText_round_trip read finite⟩
  · cases check

end Statecraft.Guard.Group
