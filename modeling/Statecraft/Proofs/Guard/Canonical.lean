import Statecraft.Proofs.Guard.Spare
import Statecraft.Proofs.Guard.RoundTrip
import Statecraft.Proofs.Guard.Editing

/-!
# Guards written, read and written again

What is read from a guard's text has no place for spare parentheses, so they are gone when it is
written again, and nothing else is (`Tree.pared`, `Group.pared`). A guard that has been read has
none (`Tree.IsParsed.spare_eq_zero`), so its text does not change any more (`Editing.Holds.visit`).
-/

namespace Statecraft.Guard

/-- The marked text is the first text, and the second without what is spare. -/
structure Pares (m : Marked) (s s' : List Char) : Prop where
  text : m.text = s
  pared : m.pared = s'

namespace Pares

variable {m m' : Marked} {s s' t t' : List Char}

theorem plain (s : List Char) : Pares (.plain s) s s := ⟨Marked.text_plain s, Marked.pared_plain s⟩

theorem append (h : Pares m s s') (h' : Pares m' t t') : Pares (m ++ m') (s ++ t) (s' ++ t') :=
  ⟨by rw [Marked.text_append, h.text, h'.text], by rw [Marked.pared_append, h.pared, h'.pared]⟩

theorem eq_iff (h : Pares m s s') : s' = s ↔ m.spares = [] := by
  rw [← h.text, ← h.pared]
  exact Marked.pared_eq_text_iff

/-- Parentheses that are needed. -/
theorem parentheses (h : Pares m s s') :
    Pares (m.parentheses false) ('(' :: s ++ [')']) ('(' :: s' ++ [')']) :=
  ((plain ['(']).append h).append (plain [')'])

theorem spareParentheses (h : Pares m s s') : Pares (m.parentheses true) ('(' :: s ++ [')']) s' := by
  refine ⟨?_, ?_⟩
  · simp [← h.text, Marked.parentheses, Marked.text]
  · simp [← h.pared, Marked.parentheses, Marked.pared]

theorem negation (h : Pares m s s') : Pares m.negation (negation s) (negation s') :=
  (plain ['!']).append h.parentheses

end Pares

section Values

theorem Value.render_reread (v : Value) : v.reread.render = v.render := by
  cases v with
  | float x =>
    rcases Value.float_cases x with ⟨n, _, _, text, value⟩ | ⟨_, _, value⟩ <;> rw [value]
    exact congrArg String.toList text.symm
  | _ => rfl

theorem Value.IsReadable.reread {v : Value} (h : v.IsReadable) : v.reread.IsReadable := by
  cases v with
  | float x =>
    rcases Value.float_cases x with ⟨n, _, small, _, value⟩ | ⟨_, _, value⟩ <;> rw [value]
    · exact decide_eq_true (small.trans_le (Decimal.tenTo_le_tenTo (by decide)))
    · exact h
  | _ => exact h

variable {c : Condition}

theorem Condition.render_reread (c : Condition) : c.reread.render = c.render := by
  obtain ⟨f, op, v, n⟩ := c
  have bare : (⟨f, op, v, n⟩ : Condition).reread.bare = (⟨f, op, v, n⟩ : Condition).bare := by
    cases op <;> simp [Condition.reread, Condition.bare, Operator.needsValue, Value.render_reread]
  rw [Condition.render, Condition.render, bare]
  rfl

theorem Condition.IsReadable.reread (h : c.IsReadable) : c.reread.IsReadable := by
  refine ⟨h.field, ?_⟩
  unfold Condition.reread
  dsimp only
  split
  · exact h.value.reread
  · trivial

/-- What the text of a readable value is read as is a value of a text. -/
theorem Value.IsReadable.isParsed {v : Value} (h : v.IsReadable) : v.IsParsed := by
  cases v with
  | int n => exact h
  | float x =>
    intro nan
    have finite : Decimal.isFinite x = true := h
    simp [Decimal.isFinite, nan] at finite
  | _ => trivial

theorem Condition.IsReadable.reread_isParsed (h : c.IsReadable) : c.reread.IsParsed where
  field := h.field
  value := h.reread.value.isParsed
  unary := fun unary => if_neg (Bool.not_eq_true _ ▸ unary)

theorem Condition.render_ne_nil (c : Condition) : c.render ≠ [] := by
  obtain ⟨f, op, v, n⟩ := c
  cases n <;> cases op <;> simp [Condition.render, Condition.bare, negation, Condition.contextDot]

end Values

namespace Tree

/-- The text of the tree as a whole guard, without parentheses of its own. -/
def inner (t : Tree) : List Char := (Group.ofTree t).render

theorem inner_leaf {c : Condition} (kept : c.isBlank = false) : inner (.leaf c) = c.render := by
  have some_text := c.render_ne_nil
  simp [inner, Group.ofTree, Group.render, renderList, render, kept, renderParts, some_text]

theorem renderList_eq_map (items : List Tree) : renderList items = items.map render := by
  induction items with
  | nil => rfl
  | cons t r ih => rw [renderList, ih, List.map_cons]

/-- Items that have a text count in that of their group. -/
theorem counted_renderList {items : List Tree} (h : ∀ t ∈ items, t.render ≠ []) :
    counted (renderList items) = items.map render := by
  rw [renderList_eq_map]
  apply List.filter_eq_self.mpr
  intro s hs
  obtain ⟨t, ht, rfl⟩ := List.mem_map.mp hs
  simpa using h t ht

theorem render_negated {items : List Tree} (h : ∀ t ∈ items, t.render ≠ []) (some_item : items ≠ [])
    (l : Logic) :
    (group l items true).render =
      negation (List.intercalate l.joiner.toList (items.map render)) := by
  have counted := counted_renderList h
  rw [render, renderParts_negated (by simpa [counted] using some_item), counted]

theorem render_several {items : List Tree} (h : ∀ t ∈ items, t.render ≠ [])
    (several : 1 < items.length) (l : Logic) :
    (group l items false).render =
      '(' :: List.intercalate l.joiner.toList (items.map render) ++ [')'] := by
  have counted := counted_renderList h
  rw [render, renderParts_several (by simpa [counted] using several), counted]

theorem inner_negated (l : Logic) (items : List Tree) :
    (group l items true).inner = (group l items true).render := by
  show renderParts false l true (renderList items) = renderParts true l true (renderList items)
  unfold renderParts
  simp

theorem inner_several {items : List Tree} (h : ∀ t ∈ items, t.render ≠ []) (l : Logic) :
    (group l items false).inner = List.intercalate l.joiner.toList (items.map render) := by
  show renderParts false l false (renderList items) = _
  rw [renderParts_plain (Or.inl rfl), counted_renderList h]

namespace IsParsed

variable {t : Tree} {l : Logic} {items : List Tree}

theorem render_ne_nil (h : t.IsParsed) : t.render ≠ [] := by
  induction h with
  | @leaf c h =>
    rw [render, h.not_isBlank]
    exact c.render_ne_nil
  | @several l items n several _ ih =>
    cases n with
    | true =>
      rw [render_negated ih (List.ne_nil_of_length_pos (by omega))]
      exact List.cons_ne_nil _ _
    | false =>
      rw [render_several ih several]
      exact List.cons_ne_nil _ _
  | @again t _ _ ih =>
    rw [render_negated (by simpa using ih) (List.cons_ne_nil _ _)]
    exact List.cons_ne_nil _ _

/-- What is a negation has no parentheses of its own. -/
theorem inner_of_negated (h : t.IsParsed) (negated : t.negated = true) : t.inner = t.render := by
  cases h with
  | @leaf c h => rw [inner_leaf h.not_isBlank, render, h.not_isBlank]; rfl
  | several =>
    obtain rfl : _ = true := negated
    exact inner_negated _ _
  | again => exact inner_negated _ _

theorem render_setNegated (h : t.IsParsed) (positive : t.negated = false) :
    t.setNegated.render = negation t.inner := by
  cases h with
  | @leaf c h =>
    obtain ⟨f, op, v, n⟩ := c
    obtain rfl : n = false := positive
    rw [inner_leaf h.not_isBlank, Tree.setNegated, render, Condition.render, Condition.render]
    exact if_neg (Bool.not_eq_true _ ▸ h.not_isBlank)
  | @several l items n several parsed =>
    obtain rfl : n = false := positive
    have texts : ∀ t ∈ items, t.render ≠ [] := fun t ht => (parsed t ht).render_ne_nil
    rw [inner_several texts, Tree.setNegated,
      render_negated texts (List.ne_nil_of_length_pos (by omega))]
  | again => cases positive

end IsParsed

/-- A text, the tree without drafts that it is the text of, and what it is read as: the same text
without spare parentheses, where the tree stands in a group and where it stands alone. -/
structure Pared (s : List Char) (t u : Tree) : Prop where
  some_text : s ≠ []
  parsed : u.IsParsed
  readable : ∀ c ∈ u.conditions, c.IsReadable
  nested : Pares (t.marked false) s u.render
  alone : Pares (t.marked true) s u.inner

/-- The same of a tree that may be nothing but drafts. -/
inductive ParedAny : List Char → Option Tree → Option Tree → Prop
  | nothing : ParedAny [] none none
  | text {s : List Char} {t u : Tree} : Pared s t u → ParedAny s (some t) (some u)

/-- The same of the items of a group. -/
inductive ParedList : List (List Char) → List Tree → List Tree → Prop
  | nil : ParedList [] [] []
  | cons {s : List Char} {t u : Tree} {parts : List (List Char)} {ts us : List Tree} :
      Pared s t u → ParedList parts ts us → ParedList (s :: parts) (t :: ts) (u :: us)

namespace ParedList

variable {l : Logic} {n : Bool} {parts : List (List Char)} {ts us : List Tree}

theorem cons_any {s : List Char} {t? u? : Option Tree} (first : ParedAny s t? u?)
    (others : ParedList (counted parts) ts us) :
    ParedList (counted (s :: parts)) (t?.toList ++ ts) (u?.toList ++ us) := by
  cases first with
  | nothing => exact others
  | text h =>
    have kept : (!s.isEmpty) = true := by simpa using h.some_text
    rw [counted, List.filter_cons, if_pos kept]
    exact .cons h others

theorem lengths (h : ParedList parts ts us) :
    parts.length = us.length ∧ ts.length = us.length := by
  induction h with
  | nil => exact ⟨rfl, rfl⟩
  | cons _ _ ih => exact ⟨congrArg (· + 1) ih.1, congrArg (· + 1) ih.2⟩

theorem parsed (h : ParedList parts ts us) : ∀ u ∈ us, u.IsParsed := by
  induction h with
  | nil => simp
  | cons first _ ih => exact List.forall_mem_cons.mpr ⟨first.parsed, ih⟩

theorem pares (h : ParedList parts ts us) (l : Logic) :
    Pares (markedItems l false ts) (List.intercalate l.joiner.toList parts)
      (List.intercalate l.joiner.toList (us.map render)) := by
  induction h with
  | nil => exact .plain []
  | cons first others ih =>
    cases others with
    | nil => simpa [markedItems] using first.nested
    | cons second others =>
      rw [List.intercalate_cons_cons, List.map_cons, List.map_cons, List.intercalate_cons_cons]
      exact (first.nested.append (.plain _)).append ih

theorem readable (h : ParedList parts ts us) : ∀ c ∈ conditionsList us, c.IsReadable := by
  induction h with
  | nil => simp [conditionsList]
  | cons first _ ih => exact List.forall_mem_append.mpr ⟨first.readable, ih⟩

/-- Several items keep the parentheses around them, but where they stand alone. -/
theorem group_several (h : ParedList (counted parts) ts us) (several : 1 < us.length) :
    Pared (renderParts true l n parts) (.group l ts n) (.group l us n) := by
  obtain ⟨texts, trees⟩ := h.lengths
  have several' : 1 < ts.length := by omega
  have some_part : counted parts ≠ [] := List.ne_nil_of_length_pos (by omega)
  have some_texts : ∀ u ∈ us, u.render ≠ [] := fun u hu => (h.parsed u hu).render_ne_nil
  have joined := h.pares l
  cases n with
  | true =>
    have negated : Pares (markedItems l true ts).negation _ _ :=
      markedItems_several several' l true ▸ joined.negation
    rw [← render_negated some_texts (List.ne_nil_of_length_pos (by omega))] at negated
    rw [renderParts_negated some_part]
    refine ⟨List.cons_ne_nil _ _, .several several h.parsed, h.readable, negated, ?_⟩
    rw [inner_negated]
    exact negated
  | false =>
    rw [renderParts_several (by omega)]
    refine ⟨List.cons_ne_nil _ _, .several several h.parsed, h.readable, ?_, ?_⟩
    · rw [marked, if_pos several', render_several some_texts several]
      exact joined.parentheses
    · rw [marked, if_pos several', inner_several some_texts]
      exact joined.spareParentheses

end ParedList

theorem negated_negate (t : Tree) (l : Logic) : (Terms.joined l [t]).negate.negated = true := by
  rw [Terms.joined_single, Terms.negate]
  dsimp only
  split
  · rfl
  · cases t <;> rfl

theorem readable_negate {t : Tree} (h : ∀ c ∈ t.conditions, c.IsReadable) (l : Logic) :
    ∀ c ∈ (Terms.joined l [t]).negate.conditions, c.IsReadable := by
  rw [Terms.joined_single, Terms.negate]
  dsimp only
  split
  · simpa [conditions, conditionsList] using h
  · cases t with
    | leaf c =>
      have readable := h c (List.mem_singleton_self c)
      simpa [setNegated, conditions] using (⟨readable.field, readable.value⟩ :
        ({ c with negated := true } : Condition).IsReadable)
    | group l items n => exact h

theorem IsParsed.render_negate {u : Tree} (h : u.IsParsed) (l : Logic) :
    (Terms.joined l [u]).negate.render = negation u.inner := by
  rw [Terms.joined_single, Terms.negate]
  dsimp only
  split
  · rename_i negated
    rw [render_negated (by simpa using h.render_ne_nil) (List.cons_ne_nil _ _),
      h.inner_of_negated negated, List.map_singleton, List.intercalate_singleton]
  · rename_i positive
    exact h.render_setNegated (Bool.not_eq_true _ ▸ positive)

/-- The only thing in a negation stands alone. -/
theorem Pared.negate {s : List Char} {t u : Tree} (h : Pared s t u) (l : Logic) :
    Pared (negation s) (.group l [t] true) (Terms.joined l [u]).negate := by
  have parsed : (Terms.joined l [u]).negate.IsParsed :=
    .negate (List.cons_ne_nil _ _) (by simpa using h.parsed)
  have negated : Pares (t.marked true).negation (Statecraft.Guard.negation s)
      (Terms.joined l [u]).negate.render := h.parsed.render_negate l ▸ h.alone.negation
  refine ⟨List.cons_ne_nil _ _, parsed, readable_negate h.readable l, negated, ?_⟩
  rw [parsed.inner_of_negated (negated_negate u l)]
  exact negated

theorem ParedList.grouped {l : Logic} {n : Bool} {parts : List (List Char)} {ts us : List Tree}
    (h : ParedList (counted parts) ts us) :
    ParedAny (renderParts true l n parts) (groupUnlessEmpty l ts n) (regroup l us n) := by
  generalize texts : counted parts = kept at h
  cases h with
  | nil =>
    rw [renderParts_nil texts]
    exact .nothing
  | @cons s t u parts' ts us first others =>
    cases others with
    | nil =>
      cases n with
      | true =>
        rw [renderParts_negated (by simp [texts]), texts, List.intercalate_singleton]
        exact .text (first.negate l)
      | false =>
        rw [renderParts_plain (Or.inr (by simp [texts])), texts, List.intercalate_singleton]
        exact .text ⟨first.some_text, first.parsed, first.readable, first.nested, first.alone⟩
    | cons second others =>
      have several := (texts ▸ ParedList.cons first (.cons second others) :
        ParedList (counted parts) _ _)
      rw [regroup_several (by simp)]
      exact .text (several.group_several (by simp))

mutual

theorem pared (t : Tree) (h : AllReadable t.conditions) : ParedAny t.render t.prune t.reread :=
  match t with
  | .leaf c => by
    unfold render prune reread
    cases blank : c.isBlank with
    | true => exact .nothing
    | false =>
      have readable := h c (List.mem_singleton_self c) blank
      have parsed := readable.reread_isParsed
      refine .text ⟨c.render_ne_nil, .leaf parsed, by simpa [conditions] using readable.reread, ?_,
        ?_⟩
      · rw [render, parsed.not_isBlank, Condition.render_reread]
        exact .plain _
      · rw [inner_leaf parsed.not_isBlank, Condition.render_reread]
        exact .plain _
  | .group l items n => (paredList items h).grouped

theorem paredList (items : List Tree) (h : AllReadable (conditionsList items)) :
    ParedList (counted (renderList items)) (pruneList items) (rereadList items) :=
  match items with
  | [] => .nil
  | t :: r =>
    .cons_any (pared t fun c hc => h c (List.mem_append_left _ hc))
      (paredList r fun c hc => h c (List.mem_append_right _ hc))

end

theorem ParedAny.of_some {s : List Char} {t? : Option Tree} {u : Tree}
    (h : ParedAny s t? (some u)) : ∃ t, t? = some t ∧ Pared s t u := by
  cases h with
  | text pared => exact ⟨_, rfl, pared⟩

theorem renderParts_root_negated (l : Logic) (parts : List (List Char)) :
    renderParts false l true parts = renderParts true l true parts := by
  unfold renderParts
  simp

/-- The only thing in a guard stands alone. -/
theorem ParedList.root {l : Logic} {n : Bool} {parts : List (List Char)} {ts us : List Tree}
    {u : Tree} (h : ParedList (counted parts) ts us) (some_tree : regroup l us n = some u) :
    u.IsParsed ∧ (∀ c ∈ u.conditions, c.IsReadable) ∧
      Pares (if n then (markedItems l true ts).negation else markedItems l true ts)
        (renderParts false l n parts) u.inner := by
  obtain ⟨t, kept, whole⟩ := (some_tree ▸ h.grouped (l := l) (n := n)).of_some
  refine ⟨whole.parsed, whole.readable, ?_⟩
  cases n with
  | true =>
    obtain rfl : group l ts true = t := by
      unfold groupUnlessEmpty at kept
      split at kept
      · cases kept
      · exact Option.some.inj kept
    rw [renderParts_root_negated]
    exact whole.alone
  | false =>
    rw [renderParts_plain (Or.inl rfl), if_neg Bool.false_ne_true]
    generalize counted parts = texts at h
    cases h with
    | nil => cases some_tree
    | @cons s t u' parts' ts us first others =>
      cases others with
      | nil =>
        obtain rfl : u' = u := Option.some.inj some_tree
        rw [List.intercalate_singleton]
        exact first.alone
      | cons second others =>
        have several := ParedList.cons first (.cons second others)
        rw [regroup_several (by simp)] at some_tree
        obtain rfl := Option.some.inj some_tree
        rw [inner_several fun u hu => (several.parsed u hu).render_ne_nil,
          markedItems_several (by simp)]
        exact several.pares _

end Tree

namespace Group

variable {g : Group}

/-- Without its spare parentheses the text of a guard is that of what it is read as. -/
theorem pared (readable : AllReadable g.conditions) {u : Tree} (read : g.toTree.reread = some u) :
    u.IsParsed ∧ (∀ c ∈ u.conditions, c.IsReadable) ∧
      Pares g.marked g.render (ofTree u).render := by
  have items := Tree.paredList g.items readable
  obtain ⟨parsed, filled, pares⟩ := items.root read
  have some_item : ¬ (Tree.pruneList g.items).isEmpty = true := by
    intro none
    rw [List.isEmpty_iff.mp none] at items
    have unread : Tree.rereadList g.items = [] := List.eq_nil_of_length_eq_zero items.lengths.2.symm
    rw [toTree, Tree.reread, unread] at read
    cases read
  exact ⟨parsed, filled, by rw [marked, if_neg some_item]; exact pares⟩

theorem render_of_reread_none (readable : AllReadable g.conditions)
    (unread : g.toTree.reread = none) : g.render = [] ∧ g.marked = [] := by
  have items := Tree.paredList g.items readable
  have nothing : Tree.rereadList g.items = [] := by
    rw [toTree, Tree.reread, regroup] at unread
    split at unread
    · rename_i empty
      exact List.isEmpty_iff.mp empty
    · split at unread <;> cases unread
  rw [nothing] at items
  obtain ⟨texts, trees⟩ := items.lengths
  refine ⟨renderParts_nil (List.eq_nil_of_length_eq_zero texts) false, ?_⟩
  rw [marked, List.eq_nil_of_length_eq_zero trees]
  rfl

/-- Nothing is marked exactly if nothing is spare. -/
theorem spares_eq_nil_iff : g.marked.spares = [] ↔ g.spare = 0 := by
  have pairs := g.hasPairs_marked
  constructor
  · intro none
    have lengths := pairs.length_eq
    simp only [none, List.length_nil, List.length_append, List.length_replicate] at lengths
    omega
  · intro none
    rw [none] at pairs
    exact List.Perm.eq_nil pairs

end Group

namespace Tree

theorem pruneList_eq {items : List Tree} (h : ∀ t ∈ items, t.prune = some t) :
    pruneList items = items := by
  induction items with
  | nil => rfl
  | cons t r ih =>
    rw [List.forall_mem_cons] at h
    rw [pruneList, h.1, ih h.2]
    rfl

theorem spareList_eq_zero {items : List Tree} (h : ∀ t ∈ items, t.spare = 0) :
    spareList items = 0 := by
  induction items with
  | nil => rfl
  | cons t r ih =>
    rw [List.forall_mem_cons] at h
    rw [spareList, h.1, ih h.2]

namespace IsParsed

variable {t : Tree}

/-- A parsed tree has no drafts. -/
theorem prune_eq (h : t.IsParsed) : t.prune = some t := by
  induction h with
  | leaf h => rw [prune, h.not_isBlank]; rfl
  | @several l items n several _ ih =>
    have some_item : items ≠ [] := List.ne_nil_of_length_pos (by omega)
    rw [prune, pruneList_eq ih, groupUnlessEmpty, if_neg (by simpa using some_item)]
  | again _ _ ih =>
    rw [prune, pruneList_eq (by simpa using ih)]
    rfl

/-- What is negated is no group of several items. -/
theorem isSeveral_of_negated (h : t.negated = true) : t.isSeveral = false := by
  cases t with
  | leaf c => rfl
  | group l items n =>
    obtain rfl : n = true := h
    rfl

/-- A parsed tree has no spare parentheses: several items need theirs, and a negation around a
single one is there because that is negated too. -/
theorem spare_eq_zero (h : t.IsParsed) : t.spare = 0 := by
  induction h with
  | leaf => rfl
  | several several _ ih => simp [spare, spareList_eq_zero ih, spareAround_several several]
  | again _ negated ih => simp [spare, spareList, spareAround, isSeveral_of_negated negated, ih]

theorem spare_ofTree (h : t.IsParsed) : (Group.ofTree t).spare = 0 := by
  cases h with
  | @leaf c h =>
    have kept : pruneList [.leaf c] = [.leaf c] := pruneList_eq (by simpa using (leaf h).prune_eq)
    simp [Group.spare, Group.ofTree, kept, spareList, spareAround, spare, isSeveral]
  | several several parsed =>
    have kept := pruneList_eq fun t ht => (parsed t ht).prune_eq
    have none := spareList_eq_zero fun t ht => (parsed t ht).spare_eq_zero
    simp [Group.spare, Group.ofTree, kept, none, spareAround_several several]
  | @again t parsed negated =>
    have kept : pruneList [t] = [t] := pruneList_eq (by simpa using parsed.prune_eq)
    simp [Group.spare, Group.ofTree, kept, spareList, spareAround, parsed.spare_eq_zero,
      isSeveral_of_negated negated]

end IsParsed

end Tree

namespace Editing

/-- The editing has a readable guard with this text, and the raw view shows it. -/
structure Holds (e : Editing) (g : Group) (s : String) : Prop where
  tree : e.tree = some g
  readable : AllReadable g.conditions
  text : g.text = .ok s
  shown : e.view = .raw → e.raw = s

variable {e : Editing} {g : Group} {s : String}

theorem Holds.expression (h : e.Holds g s) : e.expression = .ok s := by
  unfold Editing.expression
  cases view : e.view with
  | visual =>
    rw [h.tree]
    exact h.text
  | raw => exact congrArg Except.ok (h.shown view)

/-- The way to the raw view keeps the guard and shows its text. -/
theorem Holds.toRaw (h : e.Holds g s) :
    ∃ e', e.switchView .raw = .ok (e', true) ∧ e'.view = .raw ∧ e'.Holds g s := by
  unfold switchView
  cases view : e.view with
  | visual =>
    refine ⟨{ e with view := .raw, raw := s }, ?_, rfl, h.tree, h.readable, h.text, fun _ => rfl⟩
    simp [treeText, h.tree, h.text, Except.map]
  | raw => exact ⟨e, rfl, view, h⟩

theorem isBlankText_of_ofText {s : String} {g : Group} (h : Group.ofText s = .ok g) :
    Text.isBlankText s = false := by
  by_contra blank
  rw [Bool.not_eq_false] at blank
  rw [Group.ofText_of_blank blank] at h
  cases h

/-- The way back reads the text: what is shown then lacks the spare parentheses. -/
theorem Holds.toVisual (h : e.Holds g s) (raw : e.view = .raw) :
    ∃ e' g' s', e.switchView .visual = .ok (e', true) ∧ e'.view = .visual ∧ e'.Holds g' s' ∧
      g'.spare = 0 ∧ Pares g.marked s.toList s'.toList := by
  have text := h.text
  rw [Group.text_eq_render h.readable] at text
  obtain rfl := Except.ok.inj text
  have shown := h.shown raw
  unfold switchView
  rw [raw, shown]
  cases read : g.toTree.reread with
  | none =>
    obtain ⟨empty, unmarked⟩ := Group.render_of_reread_none h.readable read
    have none : g.spare = 0 := Group.spares_eq_nil_iff.mp (by rw [unmarked]; rfl)
    have blank : Text.isBlankText (String.ofList g.render) = true := by
      rw [empty]
      rfl
    refine ⟨{ e with view := .visual }, g, String.ofList g.render, ?_, rfl,
      ⟨h.tree, h.readable, h.text, nofun⟩, none, ?_⟩
    · simp [blank, shown]
    · rw [empty, unmarked]
      exact .plain []
  | some u =>
    obtain ⟨parsed, readable, pares⟩ := Group.pared h.readable read
    have again := Group.ofText_render h.readable read
    have visible := isBlankText_of_ofText again
    have readable' : AllReadable (Group.ofTree u).conditions := by
      rw [Group.conditions_ofTree]
      exact fun c hc _ => readable c hc
    refine ⟨{ e with view := .visual, tree := some (.ofTree u), lastFailure := none }, .ofTree u,
      String.ofList (Group.ofTree u).render, ?_, rfl,
      ⟨rfl, readable', Group.text_eq_render readable', nofun⟩, parsed.spare_ofTree, ?_⟩
    · simp [visible, again, shown]
    · simpa using pares

/-- Without spare parentheses each view shows the same text. -/
theorem Holds.switchView (h : e.Holds g s) (none : g.spare = 0) (view : View) :
    ∃ e' g', e.switchView view = .ok (e', true) ∧ e'.Holds g' s ∧ g'.spare = 0 := by
  cases view with
  | raw =>
    obtain ⟨e', switched, _, held⟩ := h.toRaw
    exact ⟨e', g, switched, held, none⟩
  | visual =>
    cases from_view : e.view with
    | visual => exact ⟨e, g, by simp [Editing.switchView, from_view], h, none⟩
    | raw =>
      obtain ⟨e', g', s', switched, _, held, none', pares⟩ := h.toVisual from_view
      have same : s' = s := 
        String.toList_injective (pares.eq_iff.mpr (Group.spares_eq_nil_iff.mpr none))
      exact ⟨e', g', switched, same ▸ held, none'⟩

theorem Holds.visit (h : e.Holds g s) (none : g.spare = 0) (views : List View) :
    ∃ e', e.visit views = .ok e' ∧ e'.expression = .ok s := by
  induction views generalizing e g with
  | nil => exact ⟨e, rfl, h.expression⟩
  | cons view r ih =>
    obtain ⟨next, g', switched, held, none'⟩ := h.switchView none view
    rw [Editing.visit, switched]
    exact ih held none'

/-- **A guard's text loses its spare parentheses and nothing else** on the way to the raw view and
back, both of which succeed: the two texts are the marked one, and this without what is marked. So
it stays the same exactly if nothing is spare, and does not change any more, whatever views are gone
to. -/
theorem text_kept_iff (visual : e.view = .visual) (tree : e.tree = some g)
    (readable : AllReadable g.conditions) :
    ∃ s s' e₁ e₂, e.expression = .ok s ∧
      e.switchView .raw = .ok (e₁, true) ∧ e₁.expression = .ok s ∧
      e₁.switchView .visual = .ok (e₂, true) ∧ e₂.expression = .ok s' ∧
      s.toList = g.marked.text ∧ s'.toList = g.marked.pared ∧ g.marked.HasPairs g.spare ∧
      (s' = s ↔ g.spare = 0) ∧
      ∀ views, ∃ e₃, e₂.visit views = .ok e₃ ∧ e₃.expression = .ok s' := by
  have held : e.Holds g (String.ofList g.render) :=
    ⟨tree, readable, Group.text_eq_render readable, fun raw => absurd (visual.symm.trans raw) nofun⟩
  obtain ⟨e₁, raw, view, held₁⟩ := held.toRaw
  obtain ⟨e₂, g', s', back, _, held₂, none, pares⟩ := held₁.toVisual view
  refine ⟨_, s', e₁, e₂, held.expression, raw, held₁.expression, back, held₂.expression,
    pares.text.symm, pares.pared.symm, g.hasPairs_marked, ?_, held₂.visit none⟩
  rw [← Group.spares_eq_nil_iff, ← pares.eq_iff, String.toList_inj]

/-- A condition that a field exists. -/
def present (field : String) : Tree := .leaf ⟨field, .exists, .null, false⟩

/-- A draft, a negated group of nothing but a group of two conditions, and a comparison. -/
def wrapped : Group where
  logic := .and
  items := [.leaf .draft, .group .or [.group .or [present "a", present "b.c"] false] true,
    .leaf ⟨"d", .less, .float 2.0, true⟩]
  negated := false

theorem text_kept_iff_wrapped :
    let e : Editing := ⟨.visual, "", none, some wrapped⟩
    AllReadable wrapped.conditions ∧ e.expression = .ok "!((ctx.a || ctx.b.c)) && !(ctx.d < 2)" ∧
      wrapped.spare = 1 ∧
      String.ofList wrapped.marked.pared = "!(ctx.a || ctx.b.c) && !(ctx.d < 2)" ∧
      ∃ s s' e₁ e₂, e.expression = .ok s ∧
        e.switchView .raw = .ok (e₁, true) ∧ e₁.expression = .ok s ∧
        e₁.switchView .visual = .ok (e₂, true) ∧ e₂.expression = .ok s' ∧
        s.toList = wrapped.marked.text ∧ s'.toList = wrapped.marked.pared ∧
        wrapped.marked.HasPairs wrapped.spare ∧ (s' = s ↔ wrapped.spare = 0) ∧
        ∀ views, ∃ e₃, e₂.visit views = .ok e₃ ∧ e₃.expression = .ok s' := by
  intro e
  have readable : AllReadable wrapped.conditions := by decide +kernel
  exact ⟨readable, by decide +kernel, by decide, by decide +kernel, text_kept_iff rfl rfl readable⟩

/-- A group of two conditions is all that the guard is. And a guard with an integer that is too long
has no text. -/
theorem wrapped_text_lost :
    let e : Editing := ⟨.visual, "", none,
      some ⟨.and, [.group .and [present "a", present "b"] false], false⟩⟩
    let long : Group := ⟨.and, [.leaf ⟨"a", .less, .int (10 ^ 4300), false⟩], false⟩
    (e.expression = .ok "(ctx.a && ctx.b)" ∧
      (e.visit [.raw]).bind expression = .ok "(ctx.a && ctx.b)" ∧
      (e.visit [.raw, .visual]).bind expression = .ok "ctx.a && ctx.b") ∧
    (⟨.visual, "", none, some long⟩ : Editing).expression = .error .writing := by
  decide +kernel

end Editing

end Statecraft.Guard
