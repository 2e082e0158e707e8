import Statecraft.Proofs.Guard.Draft

/-!
# Spare parentheses

A group of several items is written in parentheses, also where it is all that a negation or the
whole guard holds, be it through groups of one item. Such a pair is spare. `Group.marked` is a
guard's text with its spare pairs marked; what is marked are pairs of parentheses, as many as are
spare (`Group.hasPairs_marked`).
-/

namespace Statecraft.Guard

/-- A text, each character with whether it belongs to a spare pair of parentheses. -/
abbrev Marked := List (Char × Bool)

namespace Marked

def plain (s : List Char) : Marked := s.map (·, false)

def parentheses (spare : Bool) (m : Marked) : Marked := ('(', spare) :: m ++ [(')', spare)]

def negation (m : Marked) : Marked := ('!', false) :: parentheses false m

def text (m : Marked) : List Char := m.map Prod.fst

/-- The text without its spare parentheses. -/
def pared (m : Marked) : List Char := (m.filter fun c => !c.2).map Prod.fst

/-- What is marked as spare. -/
def spares (m : Marked) : List Char := (m.filter Prod.snd).map Prod.fst

variable {m m' : Marked} {n n' : Nat}

@[simp] theorem text_plain (s : List Char) : (plain s).text = s := by
  simp [plain, text, Function.comp_def]

@[simp] theorem pared_plain (s : List Char) : (plain s).pared = s := by
  simp [plain, pared, List.filter_map, Function.comp_def]

@[simp] theorem spares_plain (s : List Char) : (plain s).spares = [] := by simp [plain, spares]

@[simp] theorem text_append : text (m ++ m') = m.text ++ m'.text := List.map_append

@[simp] theorem pared_append : pared (m ++ m') = m.pared ++ m'.pared := by simp [pared]

@[simp] theorem spares_append : spares (m ++ m') = m.spares ++ m'.spares := by simp [spares]

theorem length_text (m : Marked) : m.text.length = m.pared.length + m.spares.length := by
  have split := List.length_eq_length_filter_add (l := m) Prod.snd
  simp only [text, pared, spares, List.length_map]
  omega

/-- Something goes exactly if something is spare. -/
theorem pared_eq_text_iff : m.pared = m.text ↔ m.spares = [] := by
  have lengths := m.length_text
  constructor
  · intro same
    rw [same] at lengths
    exact List.eq_nil_of_length_eq_zero (by omega)
  · intro none
    rw [spares, List.map_eq_nil_iff, List.filter_eq_nil_iff] at none
    rw [pared, List.filter_eq_self.mpr fun c hc => by simpa using none c hc, text]

/-- What is marked are so many pairs of parentheses. -/
def HasPairs (n : Nat) (m : Marked) : Prop :=
  m.spares.Perm (List.replicate n '(' ++ List.replicate n ')')

namespace HasPairs

theorem plain (s : List Char) : (Marked.plain s).HasPairs 0 := by simp [HasPairs]

theorem append (h : m.HasPairs n) (h' : m'.HasPairs n') : HasPairs (n + n') (m ++ m') := by
  unfold HasPairs
  rw [spares_append, List.replicate_add, List.replicate_add]
  refine (List.Perm.append h h').trans ?_
  rw [List.perm_iff_count]
  intro c
  simp only [List.count_append]
  omega

theorem parentheses (h : m.HasPairs n) (spare : Bool) :
    (m.parentheses spare).HasPairs (n + spare.toNat) := by
  unfold HasPairs at *
  cases spare with
  | false => simpa [Marked.parentheses, spares] using h
  | true =>
    have marked : (m.parentheses true).spares = '(' :: (m.spares ++ [')']) := by
      simp [Marked.parentheses, spares]
    have pairs : List.replicate (n + 1) '(' ++ List.replicate (n + 1) ')' =
        '(' :: ((List.replicate n '(' ++ List.replicate n ')') ++ [')']) := by
      rw [List.replicate_succ, List.replicate_succ', List.cons_append, List.append_assoc]
    rw [marked, Bool.toNat_true, pairs]
    exact (h.append_right [')']).cons '('

theorem negation (h : m.HasPairs n) : m.negation.HasPairs n := h.parentheses false

end HasPairs

end Marked

namespace Tree

mutual

/-- The text of the tree stands in parentheses: it is several items, or a group of one such thing. -/
def isSeveral : Tree → Bool
  | .leaf _ => false
  | .group _ items n => !n && areSeveral items

def areSeveral : List Tree → Bool
  | [] => false
  | [t] => t.isSeveral
  | _ :: _ :: _ => true

end

/-- How many parentheses open that stand around the only item and are not needed there. -/
def spareAround : List Tree → Nat
  | [t] => t.isSeveral.toNat
  | _ => 0

mutual

/-- How many spare parentheses open in the tree's text. -/
def spare : Tree → Nat
  | .leaf _ => 0
  | .group _ items n => spareList items + if n then spareAround items else 0

def spareList : List Tree → Nat
  | [] => 0
  | t :: r => t.spare + spareList r

end

mutual

/-- The text of a tree without drafts. `only` says that the tree is all that a negation or the guard
holds, so that parentheses around several items are spare. -/
def marked (only : Bool) : Tree → Marked
  | .leaf c => .plain c.render
  | .group l items true => (markedItems l true items).negation
  | .group l items false =>
    if 1 < items.length then (markedItems l false items).parentheses only
    else markedItems l only items

/-- The items with the joiner between them; the only one stands where its group does. -/
def markedItems (l : Logic) (only : Bool) : List Tree → Marked
  | [] => []
  | [t] => t.marked only
  | t :: u :: r => t.marked false ++ .plain l.joiner.toList ++ markedItems l false (u :: r)

end

end Tree

/-- How many spare parentheses open in the guard's text, in which drafts do not count. -/
def Group.spare (g : Group) : Nat :=
  let items := Tree.pruneList g.items
  Tree.spareList items + Tree.spareAround items

/-- The guard's text with its spare parentheses marked. -/
def Group.marked (g : Group) : Marked :=
  let items := Tree.pruneList g.items
  if items.isEmpty then []
  else if g.negated then (Tree.markedItems g.logic true items).negation
  else Tree.markedItems g.logic true items

namespace Tree

variable {l : Logic} {items : List Tree}

theorem markedItems_several (several : 1 < items.length) (l : Logic) (only : Bool) :
    markedItems l only items = markedItems l false items := by
  match items with
  | [] | [_] => simp at several
  | _ :: _ :: _ => rfl

theorem spareAround_several (several : 1 < items.length) : spareAround items = 0 := by
  match items with
  | [] | [_] => simp at several
  | _ :: _ :: _ => rfl

theorem areSeveral_several (several : 1 < items.length) : areSeveral items = true := by
  match items with
  | [] | [_] => simp at several
  | _ :: _ :: _ => rfl

/-- A group has the parentheses of its only item. -/
theorem toNat_areSeveral (one : ¬ 1 < items.length) :
    (areSeveral items).toNat = spareAround items := by
  match items with
  | [] | [_] => rfl
  | _ :: _ :: _ => simp at one

/-- How many pairs are spare in the tree's text where it stands. -/
def spareAt (only : Bool) (t : Tree) : Nat := t.spare + if only then t.isSeveral.toNat else 0

/-- How many pairs are spare in the text of the items. -/
def spareListAt (only : Bool) (items : List Tree) : Nat :=
  spareList items + if only then spareAround items else 0

mutual

theorem hasPairs_marked (only : Bool) (t : Tree) : (t.marked only).HasPairs (t.spareAt only) :=
  match t with
  | .leaf c => by
    rw [marked, spareAt, spare, isSeveral]
    cases only <;> exact .plain _
  | .group l items true => by
    have pairs := (hasPairs_markedItems l true items).negation
    cases only <;> exact pairs
  | .group l items false => by
    rw [marked, spareAt, spare, isSeveral]
    by_cases several : 1 < items.length
    · have pairs := (hasPairs_markedItems l false items).parentheses only
      rw [if_pos several, areSeveral_several several]
      cases only <;> exact pairs
    · have pairs := hasPairs_markedItems l only items
      rw [spareListAt, ← toNat_areSeveral several] at pairs
      rw [if_neg several]
      exact pairs

theorem hasPairs_markedItems (l : Logic) (only : Bool) (items : List Tree) :
    (markedItems l only items).HasPairs (spareListAt only items) :=
  match items with
  | [] => by cases only <;> exact .plain []
  | [t] => hasPairs_marked only t
  | t :: u :: r => by
    have pairs := ((hasPairs_marked false t).append (.plain l.joiner.toList)).append
      (hasPairs_markedItems l false (u :: r))
    cases only <;> exact pairs

end

end Tree

/-- **What is marked are the spare pairs of parentheses.** -/
theorem Group.hasPairs_marked (g : Group) : g.marked.HasPairs g.spare := by
  unfold marked spare
  dsimp only
  have pairs := Tree.hasPairs_markedItems g.logic true (Tree.pruneList g.items)
  split
  · rename_i none
    rw [List.isEmpty_iff.mp none]
    exact .plain []
  · split
    · exact pairs.negation
    · exact pairs

end Statecraft.Guard
