import Statecraft.Proofs.Guard.Meaning
import Statecraft.Proofs.Guard.Reread

/-!
# Guards under construction

A guard that is being built holds draft rows, groups of nothing else, groups of one item and
groups within groups. `Tree.prune` takes the drafts and the emptied groups off; the text of the
guard is read as a tree that means the same as what is left (`Group.text_keeps_meaning`).
-/

namespace Statecraft.Guard

/-- A group of the items that are left, if any is. -/
def groupUnlessEmpty (l : Logic) (items : List Tree) (negated : Bool) : Option Tree :=
  if items.isEmpty then none else some (.group l items negated)

namespace Tree

mutual

/-- The tree without drafts and without the groups that they leave empty. -/
def prune : Tree → Option Tree
  | .leaf c => if c.isBlank then none else some (.leaf c)
  | .group l items n => groupUnlessEmpty l (pruneList items) n

def pruneList : List Tree → List Tree
  | [] => []
  | t :: r => t.prune.toList ++ pruneList r

end

theorem isSome_groupUnlessEmpty (l : Logic) (items : List Tree) (n : Bool) :
    (groupUnlessEmpty l items n).isSome = !items.isEmpty := by
  unfold groupUnlessEmpty
  cases items <;> rfl

mutual

/-- Something is left of a tree if one of its conditions has a field. -/
theorem isSome_prune (t : Tree) : t.prune.isSome = t.isComplete :=
  match t with
  | .leaf c => by
    unfold prune isComplete
    cases c.isBlank <;> rfl
  | .group l items n => by
    rw [prune, isSome_groupUnlessEmpty, isComplete, isEmpty_pruneList items, Bool.not_not]

theorem isEmpty_pruneList (items : List Tree) : (pruneList items).isEmpty = !isCompleteList items :=
  match items with
  | [] => rfl
  | t :: r => by
    have first := isSome_prune t
    have others := isEmpty_pruneList r
    rw [pruneList, isCompleteList, ← first, Bool.not_or, ← others]
    cases t.prune <;> simp

end

end Tree

section Meaning

variable {v : Valuation}

theorem Condition.holds_reread {c : Condition} (readable : c.IsReadable) (respects : v.Respects) :
    c.reread.holds v = c.holds v := by
  unfold holds reread
  dsimp only
  cases needs : c.operator.needsValue with
  | true =>
    rw [if_pos rfl, respects.atom c.field c.operator (Value.reread_same readable.value)]
  | false => rw [v.atom_unary c.field needs _ c.value]

/-- What a group's text is read as means the group. -/
theorem holds_regroup (l : Logic) (items kept : List Tree) (n : Bool)
    (same : Tree.truths v items = Tree.truths v kept) :
    (regroup l items n).map (Tree.holds v) = (groupUnlessEmpty l kept n).map (Tree.holds v) := by
  have empty : items = [] ↔ kept = [] := by
    cases items <;> cases kept <;> simp_all [Tree.truths]
  unfold regroup groupUnlessEmpty
  by_cases nothing : kept = []
  · simp [empty.mpr nothing, nothing]
  · have something : items ≠ [] := fun h => nothing (empty.mp h)
    cases n <;>
      simp [nothing, something, Terms.holds_negate, Terms.holds_toTree, Terms.holds_joined,
        Tree.holds, same]

namespace Tree

theorem truths_toList {a b : Option Tree} (h : a.map (holds v) = b.map (holds v)) :
    truths v a.toList = truths v b.toList := by
  cases a <;> cases b <;> simp_all [truths]

mutual

/-- What a tree's text is read as means what is left of the tree without drafts. -/
theorem holds_reread (respects : v.Respects) (t : Tree) (h : AllReadable t.conditions) :
    t.reread.map (holds v) = t.prune.map (holds v) :=
  match t with
  | .leaf c => by
    unfold reread prune
    cases blank : c.isBlank with
    | true => rfl
    | false =>
      have readable := h c (List.mem_singleton_self c) blank
      simpa [holds] using Condition.holds_reread readable respects
  | .group l items n => by
    rw [reread, prune]
    exact holds_regroup l _ _ n (truths_rereadList respects items h)

theorem truths_rereadList (respects : v.Respects) (items : List Tree)
    (h : AllReadable (conditionsList items)) :
    truths v (rereadList items) = truths v (pruneList items) :=
  match items with
  | [] => rfl
  | t :: r => by
    have first := holds_reread respects t fun c hc => h c (List.mem_append_left _ hc)
    have others := truths_rereadList respects r fun c hc => h c (List.mem_append_right _ hc)
    rw [rereadList, pruneList, truths_append, truths_append, truths_toList first, others]

end

/-- A tree's text is read as something if anything is left of the tree. -/
theorem isSome_reread (t : Tree) (h : AllReadable t.conditions) :
    t.reread.isSome = t.prune.isSome := by
  have some_truth := congrArg Option.isSome
    (holds_reread (v := ⟨fun _ => true, fun _ _ _ => true⟩) (fun _ _ _ _ _ => rfl) t h)
  simpa using some_truth

end Tree

end Meaning

namespace Group

/-- **The text of a guard keeps its meaning.** A guard with a complete condition, whose complete
conditions are readable, has a text; the text is read as a guard, and this one has the truth of
what is left of the first without drafts. -/
theorem text_keeps_meaning {g : Group} (readable : AllReadable g.conditions)
    (complete : g.isComplete = true) :
    ∃ s g' t, g.text = .ok s ∧ ofText s = .ok g' ∧ g.toTree.prune = some t ∧
      ∀ v : Valuation, v.Respects → g'.holds v = t.holds v := by
  obtain ⟨t, pruned⟩ := Option.isSome_iff_exists.mp ((Tree.isSome_prune g.toTree).trans complete)
  obtain ⟨t', read⟩ : ∃ t', g.toTree.reread = some t' := by
    have some_tree := Tree.isSome_reread g.toTree readable
    rw [pruned] at some_tree
    exact Option.isSome_iff_exists.mp some_tree
  refine ⟨_, _, t, text_eq_render readable, ofText_render readable read, pruned, ?_⟩
  intro v respects
  have same := Tree.holds_reread respects g.toTree readable
  rw [read, pruned] at same
  exact (holds_ofTree v t').trans (Option.some.inj same)

/-- A negated root with a draft row, a group of a group of one negated condition beside a negated
group of nothing but a draft, and a negated group of two conditions. -/
def halfBuilt : Group where
  logic := .and
  items := [.leaf .draft,
    .group .or [.group .and [.leaf ⟨"a.b", .greaterEqual, .float 2.0, true⟩] true,
      .group .and [.leaf .draft] true] false,
    .group .or [.leaf ⟨"c", .notExists, .null, false⟩,
      .leaf ⟨"d_1", .equal, .text "x\"y", false⟩] true]
  negated := true

theorem text_keeps_meaning_halfBuilt :
    AllReadable halfBuilt.conditions ∧ halfBuilt.isComplete = true ∧
      ∃ s g' t, halfBuilt.text = .ok s ∧ ofText s = .ok g' ∧ halfBuilt.toTree.prune = some t ∧
        ∀ v : Valuation, v.Respects → g'.holds v = t.holds v := by
  have readable : AllReadable halfBuilt.conditions := by decide +kernel
  have complete : halfBuilt.isComplete = true := by decide
  exact ⟨readable, complete, text_keeps_meaning readable complete⟩

end Group

end Statecraft.Guard
