import Statecraft.Proofs.Guard.Grammar

/-!
# Rendered guards read back

The text of a tree is read as the tree `Tree.reread`: drafts and emptied groups are left out, a
group of a single item is that item, and a negation goes to a single item that is not negated
yet. This holds of every guard whose fields are paths and whose values are readable
(`ofText_render`).
-/

namespace Statecraft

namespace Text

theorem trim_of_not_blank {s : List Char} (h : ∀ c ∈ s, isBlank c = false) : trim s = s := by
  have visible : ∀ {s : List Char}, (∀ c ∈ s, isBlank c = false) → s.dropWhile isBlank = s := by
    intro s h
    cases s with
    | nil => rfl
    | cons c r => rw [List.dropWhile_cons_of_neg (by simp [h c List.mem_cons_self])]
  unfold trim trimEnd trimStart
  rw [visible h, visible fun c hc => h c (List.mem_reverse.mp hc), List.reverse_reverse]

end Text

namespace Guard

section Paths

variable {s : List Char}

theorem isWordChar_of_isNameChar {c : Char} (h : Token.isNameChar c = true) :
    Token.isWordChar c = true := by
  have range : c.toNat < 128 := by
    simp only [Token.isNameChar, Text.isAsciiDigit, Text.isAsciiLetter, Bool.or_eq_true,
      Bool.and_eq_true, decide_eq_true_eq, Char.le_def, UInt32.le_iff_toNat_le, beq_iff_eq] at h
    rcases h with (⟨_, high⟩ | ⟨_, high⟩ | ⟨_, high⟩) | rfl
    · exact Nat.lt_of_le_of_lt high (by decide)
    · exact Nat.lt_of_le_of_lt high (by decide)
    · exact Nat.lt_of_le_of_lt high (by decide)
    · decide
  have all : ∀ n < 128, Token.isNameChar (Char.ofNat n) = true →
      Token.isWordChar (Char.ofNat n) = true := by decide
  simpa [h] using all c.toNat range

theorem isWordChar_of_isDotted {inName : Bool} (h : Token.isDotted inName s = true) :
    ∀ c ∈ s, Token.isWordChar c = true := by
  induction s generalizing inName with
  | nil => simp
  | cons c r ih =>
    rw [Token.isDotted] at h
    rw [List.forall_mem_cons]
    split at h
    · rename_i dot
      rw [Bool.and_eq_true] at h
      rw [beq_iff_eq.mp dot]
      exact ⟨by decide, ih h.2⟩
    · rw [Bool.and_eq_true] at h
      exact ⟨isWordChar_of_isNameChar h.1, ih h.2⟩

/-- A path below the context, as it is written. -/
def written (s : List Char) : List Char := Condition.contextDot.toList ++ s

theorem isWordChar_written (h : Token.isDotted false s = true) :
    ∀ c ∈ written s, Token.isWordChar c = true := by
  intro c hc
  rcases List.mem_append.mp hc with hc | hc
  · have all : Condition.contextDot.toList.all Token.isWordChar = true := by decide
    exact List.all_eq_true.mp all c hc
  · exact isWordChar_of_isDotted h c hc

theorem path_written (h : Token.isDotted false s = true) :
    Condition.path (String.ofList (written s)) = String.ofList s := by
  have visible : ∀ c ∈ written s, Text.isBlank c = false :=
    fun c hc => isBlank_of_isWordChar (isWordChar_written h c hc)
  unfold Condition.path
  rw [String.toList_ofList, Text.trim_of_not_blank visible]
  rfl

theorem run_written (h : Token.isDotted false s = true) :
    Run (written s) [(.field, written s)] := by
  have run := Run.word (c := 'c') (r := 't' :: 'x' :: '.' :: s) (isWordChar_written h)
  have field : Token.isField ('c' :: 't' :: 'x' :: '.' :: s) = true := h
  rw [field] at run
  exact run

end Paths

/-- The text is that of one term. -/
def WritesTerm (s : List Char) (t : Tree) : Prop :=
  ∃ ks, Run s ks ∧ ∀ l, Reads l ks [t]

/-- The text is that of these terms. -/
def WritesTerms (l : Logic) (s : List Char) (items : List Tree) : Prop :=
  ∃ ks, Run s ks ∧ Reads l ks items

namespace WritesTerms

variable {l : Logic} {s : List Char} {items : List Tree}

theorem enclosed (h : WritesTerms l s items) :
    WritesTerm ('(' :: s ++ [')']) (Terms.joined l items).toTree := by
  obtain ⟨ks, run, reads⟩ := h
  exact ⟨_, run.enclosed, fun _ => .parens _ _ _ reads⟩

theorem negation (h : WritesTerms l s items) :
    WritesTerm (negation s) (Terms.joined l items).negate := by
  obtain ⟨ks, run, reads⟩ := h
  exact ⟨_, run.negation, fun _ => .negated _ _ _ _ reads⟩

theorem nonempty (h : WritesTerms l s items) : s ≠ [] := by
  obtain ⟨ks, run, _⟩ := h
  exact run.nonempty

/-- Reading such a text gives the terms. -/
theorem ofText (h : WritesTerms l s items) :
    Group.ofText (String.ofList s) = .ok (Terms.joined l items).toGroup := by
  obtain ⟨ks, run, reads⟩ := h
  obtain ⟨c, r, rfl, visible, _⟩ := run.starts
  have scans := run.scans [] [] (by simp [EndsWord]) .nil
  rw [List.append_nil, List.append_nil] at scans
  obtain ⟨ts, scanned, rfl⟩ := scans 0
  have some_char : (c :: r).all Text.isBlank = false := by simp [visible]
  simp only [Group.ofText, String.toList_ofList, some_char, scanned]
  exact whole_of_reads reads _

end WritesTerms

theorem WritesTerm.terms {s : List Char} {t : Tree} (h : WritesTerm s t) (l : Logic) :
    WritesTerms l s [t] := by
  obtain ⟨ks, run, reads⟩ := h
  exact ⟨ks, run, reads l⟩

/-- Texts of terms with the logic between them. -/
theorem writesTerms_intercalate (l : Logic) {parts : List (List Char)} {items : List Tree}
    (h : List.Forall₂ WritesTerm parts items) (some_part : parts ≠ []) :
    WritesTerms l (List.intercalate l.joiner.toList parts) items := by
  induction h with
  | nil => exact absurd rfl some_part
  | @cons s t parts items first others ih =>
    cases others with
    | nil => simpa using first.terms l
    | @cons s' t' parts items second others =>
      obtain ⟨ks, run, reads⟩ := first
      obtain ⟨us, run', reads'⟩ := ih (List.cons_ne_nil _ _)
      have text : List.intercalate l.joiner.toList (s :: s' :: parts) =
          s ++ ' ' :: (l.symbol.toList ++
            ' ' :: List.intercalate l.joiner.toList (s' :: parts)) := by
        rw [List.intercalate_cons_cons]
        simp [Logic.joiner]
      rw [text]
      exact ⟨_, run.spaced (symbol_logic l) run', .join _ (reads l) reads'⟩

namespace Condition

variable {c : Condition}

/-- The condition that a condition's text stands for. -/
def reread (c : Condition) : Condition :=
  { c with value := if c.operator.needsValue then c.value.reread else .null }

/-- The condition's text can be read. -/
structure IsReadable (c : Condition) : Prop where
  field : Token.isDotted false c.field.toList = true
  value : c.value.IsReadable

instance : DecidablePred IsReadable := fun c =>
  decidable_of_iff (Token.isDotted false c.field.toList = true ∧ c.value.IsReadable)
    ⟨fun h => ⟨h.1, h.2⟩, fun h => ⟨h.field, h.value⟩⟩

theorem leafOf_written (h : Token.isDotted false c.field.toList = true) :
    leafOf (written c.field.toList) c.operator c.value.reread =
      .leaf { c.reread with negated := false } := by
  unfold leafOf Condition.of
  rw [path_written h, String.ofList_toList]
  rfl

theorem operand_render {v : Value} (h : v.IsReadable) :
    ∃ k, Run v.render [k] ∧ Operand k v.reread := by
  by_cases text : ∃ s, v = .text s
  · obtain ⟨s, rfl⟩ := text
    refine ⟨_, .quoted s.toList, ?_⟩
    have same := Operand.quoted (quote s.toList)
    rw [unquote_quote, String.ofList_toList] at same
    exact same
  · obtain ⟨chars, read⟩ := Value.ofWord_render h (fun s hs => text ⟨s, hs⟩)
    obtain ⟨c, r, spelled⟩ := List.exists_cons_of_ne_nil
      (Value.render_ne_nil h fun s hs => text ⟨s, hs⟩)
    rw [spelled] at chars read ⊢
    refine ⟨_, .word chars, ?_⟩
    split
    · exact .field read
    · exact .word read

/-- A condition's text but for its negation. -/
theorem writesTerm_bare (h : c.IsReadable) :
    WritesTerm c.bare (.leaf { c.reread with negated := false }) := by
  have run := run_written h.field
  have compare : c.operator.needsValue = true →
      WritesTerm
        (written c.field.toList ++ ' ' :: (c.operator.name.toList ++ ' ' :: c.value.render))
        (leafOf (written c.field.toList) c.operator c.value.reread) := by
    intro needs
    obtain ⟨k, value, operand⟩ := operand_render h.value
    exact ⟨_, run.spaced (symbol_compare needs) value, fun l => .compare l _ _ _ operand⟩
  rw [← leafOf_written h.field]
  obtain ⟨f, op, v, n⟩ := c
  cases op with
  | «exists» => exact ⟨_, run, fun l => .field l _⟩
  | notExists => exact ⟨_, run.not, fun l => .missing l _ _⟩
  | _ => simpa [bare, written] using compare rfl

theorem writesTerm_render (h : c.IsReadable) : WritesTerm c.render (.leaf c.reread) := by
  have bare := writesTerm_bare h
  unfold render
  split
  · rename_i negated
    have negation := (bare.terms .and).negation
    rw [Terms.joined_single] at negation
    simpa [Terms.negate, Tree.negated, Tree.setNegated, reread, negated] using negation
  · rename_i positive
    simpa [reread, positive] using bare

end Condition

/-- What the text of a group with these items is read as. -/
def regroup (l : Logic) (items : List Tree) (negated : Bool) : Option Tree :=
  if items.isEmpty then none
  else if negated then some (Terms.joined l items).negate
  else some (Terms.joined l items).toTree

namespace Tree

mutual

/-- What a tree's text is read as, if it has any. -/
def reread : Tree → Option Tree
  | .leaf c => if c.isBlank then none else some (.leaf c.reread)
  | .group l items n => regroup l (rereadList items) n

def rereadList : List Tree → List Tree
  | [] => []
  | t :: r => t.reread.toList ++ rereadList r

end

end Tree

section Parts

variable {l : Logic} {negated : Bool} {parts : List (List Char)} {items : List Tree}

/-- The parts that count in a group's text. -/
def counted (parts : List (List Char)) : List (List Char) := parts.filter (!·.isEmpty)

theorem renderParts_nil (h : counted parts = []) (nested : Bool) :
    renderParts nested l negated parts = [] := by
  unfold counted at h
  simp [renderParts, h]

theorem renderParts_negated (h : counted parts ≠ []) (nested : Bool) :
    renderParts nested l true parts =
      negation (List.intercalate l.joiner.toList (counted parts)) := by
  unfold counted at h ⊢
  simp [renderParts, h]

theorem renderParts_several (h : 1 < (counted parts).length) :
    renderParts true l false parts =
      '(' :: List.intercalate l.joiner.toList (counted parts) ++ [')'] := by
  have nonempty : counted parts ≠ [] := List.ne_nil_of_length_pos (Nat.zero_lt_of_lt h)
  unfold counted at h nonempty ⊢
  simp [renderParts, h, nonempty]

/-- The root and a group of a single item have no parentheses. -/
theorem renderParts_plain {nested : Bool} (h : nested = false ∨ (counted parts).length = 1) :
    renderParts nested l false parts = List.intercalate l.joiner.toList (counted parts) := by
  unfold counted at h ⊢
  rcases h with rfl | single
  · cases all : parts.filter (!·.isEmpty) <;> simp [renderParts, all]
  · have nonempty : parts.filter (!·.isEmpty) ≠ [] :=
      List.ne_nil_of_length_pos (Nat.lt_of_lt_of_eq Nat.one_pos single.symm)
    simp [renderParts, single, nonempty]

/-- Parts that are texts of terms, but for empty ones. -/
def WritesParts (parts : List (List Char)) (items : List Tree) : Prop :=
  List.Forall₂ WritesTerm (counted parts) items

/-- A text is empty if its tree is nothing, and that of the tree else. -/
def WritesAny (s : List Char) : Option Tree → Prop
  | none => s = []
  | some t => WritesTerm s t

theorem writesParts_cons {s : List Char} {t? : Option Tree} (h : WritesAny s t?)
    (rest : WritesParts parts items) : WritesParts (s :: parts) (t?.toList ++ items) := by
  unfold WritesParts counted
  cases t? with
  | none =>
    obtain rfl : s = [] := h
    exact rest
  | some t =>
    have kept : (!s.isEmpty) = true := by simpa using (h.terms .and).nonempty
    rw [List.filter_cons, if_pos kept]
    exact .cons h rest

/-- A group below the root stands in parentheses unless it has a single item. -/
theorem writesAny_nested (h : WritesParts parts items) :
    WritesAny (renderParts true l negated parts) (regroup l items negated) := by
  have length := h.length_eq
  unfold regroup
  cases items with
  | nil => exact renderParts_nil (List.eq_nil_of_length_eq_zero length) true
  | cons t r =>
    have nonempty : counted parts ≠ [] := List.ne_nil_of_length_eq_add_one length
    have terms := writesTerms_intercalate l h nonempty
    cases negated with
    | true =>
      rw [renderParts_negated nonempty]
      exact terms.negation
    | false =>
      cases r with
      | nil =>
        rw [renderParts_plain (Or.inr length)]
        obtain ⟨s, ps, first, others, same⟩ := List.forall₂_cons_right_iff.mp h
        obtain rfl := List.forall₂_nil_right_iff.mp others
        rw [same, List.intercalate_singleton]
        exact first
      | cons u r =>
        rw [renderParts_several (by rw [length]; simp)]
        exact terms.enclosed

/-- The root has no parentheses. -/
theorem writesTerms_root (h : WritesParts parts items) {t : Tree}
    (some_tree : regroup l items negated = some t) :
    ∃ l' items', WritesTerms l' (renderParts false l negated parts) items' ∧
      (Terms.joined l' items').toTree = t := by
  have length := h.length_eq
  unfold regroup at some_tree
  cases items with
  | nil => cases some_tree
  | cons u r =>
    have nonempty : counted parts ≠ [] := List.ne_nil_of_length_eq_add_one length
    have terms := writesTerms_intercalate l h nonempty
    cases negated with
    | true =>
      cases some_tree
      rw [renderParts_negated nonempty]
      exact ⟨.and, _, terms.negation.terms .and, rfl⟩
    | false =>
      cases some_tree
      rw [renderParts_plain (Or.inl rfl)]
      exact ⟨l, _, terms, rfl⟩

end Parts

/-- All conditions but drafts are readable. -/
def AllReadable (cs : List Condition) : Prop := ∀ c ∈ cs, c.isBlank = false → c.IsReadable

instance (cs : List Condition) : Decidable (AllReadable cs) :=
  inferInstanceAs (Decidable (∀ c ∈ cs, c.isBlank = false → c.IsReadable))

namespace Tree

mutual

theorem writesAny_render (t : Tree) (h : AllReadable t.conditions) : WritesAny t.render t.reread :=
  match t with
  | .leaf c => by
    unfold render reread
    split
    · rfl
    · rename_i kept
      have readable := h c (List.mem_singleton_self c) (Bool.eq_false_iff.mpr kept)
      exact Condition.writesTerm_render readable
  | .group l items n => writesAny_nested (writesParts_renderList items h)

theorem writesParts_renderList (items : List Tree) (h : AllReadable (conditionsList items)) :
    WritesParts (renderList items) (rereadList items) :=
  match items with
  | [] => .nil
  | t :: r =>
    writesParts_cons (writesAny_render t fun c hc => h c (List.mem_append_left _ hc))
      (writesParts_renderList r fun c hc => h c (List.mem_append_right _ hc))

end

end Tree

theorem Terms.toGroup_joined (l : Logic) (items : List Tree) :
    (joined l items).toGroup = Group.ofTree (joined l items).toTree := by
  match items with
  | [] | [.leaf _] | [.group _ _ _] => rfl
  | _ :: _ :: _ =>
    rw [joined_several (by simp)]
    simp [toGroup, toTree, Group.ofTree]

namespace Group

variable {g : Group}

/-- **A rendered guard reads back** as its tree without drafts. -/
theorem ofText_render (h : AllReadable g.conditions) {t : Tree}
    (some_tree : g.toTree.reread = some t) :
    Group.ofText (String.ofList g.render) = .ok (Group.ofTree t) := by
  have parts := Tree.writesParts_renderList g.items h
  obtain ⟨l, items, terms, rfl⟩ := writesTerms_root parts some_tree
  rw [← Terms.toGroup_joined]
  exact terms.ofText

/-- A guard has a text if the values of its complete conditions can be written. -/
theorem text_of_isWritable
    (h : ∀ c ∈ g.conditions, c.isBlank = false → c.value.isWritable = true) :
    g.text = .ok (String.ofList g.render) := by
  unfold text
  refine if_pos (List.all_eq_true.mpr fun c hc => ?_)
  obtain ⟨mem, kept⟩ := List.mem_filter.mp hc
  exact h c mem (by simpa using kept)

theorem text_eq_render (h : AllReadable g.conditions) : g.text = .ok (String.ofList g.render) :=
  text_of_isWritable fun c hc kept => (h c hc kept).value.isWritable

end Group

end Guard

end Statecraft
