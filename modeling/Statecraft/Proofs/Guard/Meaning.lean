import Statecraft.Proofs.Guard.Grammar

/-!
# What guards mean

A valuation says which fields there are and which comparisons hold; under it every guard is true
or false. The ways in which reading builds trees keep the truth of the terms: as one node
(`Terms.holds_toTree`), under a negation (`Terms.holds_negate`) and as a root
(`Terms.holds_toGroup`).
-/

namespace Statecraft.Guard

/-- What the atoms of guards are judged by: which fields there are, and which comparisons of a
field with a value hold. -/
structure Valuation where
  present : String → Bool
  compares : String → Operator → Value → Bool

namespace Valuation

/-- The truth of one atom. A field is missing when it is not there. -/
def atom (v : Valuation) (field : String) : Operator → Value → Bool
  | .exists, _ => v.present field
  | .notExists, _ => !v.present field
  | op, x => v.compares field op x

/-- No comparison tells equal values apart. -/
def Respects (v : Valuation) : Prop :=
  ∀ field op a b, a.same b = true → v.compares field op a = v.compares field op b

theorem Respects.atom {v : Valuation} (h : v.Respects) (field : String) (op : Operator)
    {a b : Value} (same : a.same b = true) : v.atom field op a = v.atom field op b := by
  cases op with
  | «exists» => rfl
  | notExists => rfl
  | _ => exact h field _ a b same

/-- A question that needs no value has one answer whatever the value. -/
theorem atom_unary (v : Valuation) (field : String) {op : Operator} (h : op.needsValue = false)
    (a b : Value) : v.atom field op a = v.atom field op b := by
  cases op with
  | «exists» => rfl
  | notExists => rfl
  | _ => cases h

end Valuation

namespace Logic

/-- Truth values joined by a logic. -/
def join : Logic → List Bool → Bool
  | .and, bs => bs.all id
  | .or, bs => bs.any id

@[simp] theorem join_single (l : Logic) (b : Bool) : l.join [b] = b := by
  cases l <;> simp [join]

/-- Joining from the right, two at a time. -/
theorem join_cons (l : Logic) (b : Bool) (bs : List Bool) :
    l.join (b :: bs) = l.join [b, l.join bs] := by
  cases l <;> simp [join]

end Logic

def Condition.holds (v : Valuation) (c : Condition) : Bool :=
  c.negated ^^ v.atom c.field c.operator c.value

namespace Tree

mutual

/-- The truth of a tree. -/
def holds (v : Valuation) : Tree → Bool
  | .leaf c => c.holds v
  | .group l items n => n ^^ l.join (truths v items)

/-- The truth of each item. -/
def truths (v : Valuation) : List Tree → List Bool
  | [] => []
  | t :: r => t.holds v :: truths v r

end

variable (v : Valuation)

theorem truths_append (a b : List Tree) : truths v (a ++ b) = truths v a ++ truths v b := by
  induction a with
  | nil => rfl
  | cons t r ih => rw [List.cons_append, truths, truths, ih, List.cons_append]

theorem holds_setNegated {t : Tree} (h : t.negated = false) :
    t.setNegated.holds v = !t.holds v := by
  cases t with
  | leaf c =>
    have positive : c.negated = false := h
    simp [setNegated, holds, Condition.holds, positive]
  | group l items n =>
    obtain rfl : n = false := h
    simp [setNegated, holds]

end Tree

def Group.holds (v : Valuation) (g : Group) : Bool := g.toTree.holds v

theorem Group.holds_ofTree (v : Valuation) (t : Tree) : (ofTree t).holds v = t.holds v := by
  cases t with
  | leaf c => simp [holds, ofTree, toTree, Tree.holds, Tree.truths]
  | group l items n => rfl

namespace Terms

/-- The truth of terms joined by their logic. -/
def holds (v : Valuation) (t : Terms) : Bool := t.logic.join (Tree.truths v t.items)

variable (v : Valuation)

theorem holds_toTree (t : Terms) : t.toTree.holds v = t.holds v := by
  obtain ⟨l, items⟩ := t
  match items with
  | [item] => simp [toTree, holds, Tree.truths]
  | [] | _ :: _ :: _ => simp [toTree, holds, Tree.holds]

theorem holds_negate (t : Terms) : t.negate.holds v = !t.holds v := by
  obtain ⟨l, items⟩ := t
  match items with
  | [item] =>
    cases negated : item.negated with
    | true => simp [negate, holds, Tree.holds, Tree.truths, negated]
    | false =>
      simpa [negate, holds, Tree.truths, negated] using Tree.holds_setNegated v negated
  | [] | _ :: _ :: _ => simp [negate, holds, Tree.holds]

theorem holds_toGroup (t : Terms) : t.toGroup.holds v = t.holds v := by
  obtain ⟨l, items⟩ := t
  match items with
  | [.group _ _ _] => simp [toGroup, holds, Group.holds, Group.toTree, Tree.truths]
  | [] | [.leaf _] | _ :: _ :: _ => simp [toGroup, holds, Group.holds, Group.toTree, Tree.holds]

theorem holds_joined (l : Logic) (items : List Tree) :
    (joined l items).holds v = l.join (Tree.truths v items) := by
  match items with
  | [t] => simp [joined_single, holds, Tree.truths]
  | [] | _ :: _ :: _ => rw [joined_several (by simp), holds]

end Terms

end Statecraft.Guard
