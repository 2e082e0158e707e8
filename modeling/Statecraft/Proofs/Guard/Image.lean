import Statecraft.Proofs.Guard.Cutting
import Statecraft.Proofs.Guard.Reread
import Statecraft.Proofs.Decimal.Rounding

/-!
# The trees that texts have

Every tree that is read from a text has paths for fields, values that a text can stand for, and
groups that are there for a reason: of several items, or to negate once more what is negated
already (`ofText_isParsed`). Reading the text of such a tree gives it back, but for numbers that
change their kind (`Tree.IsParsed.reread_same`).
-/

namespace Statecraft

namespace Text

theorem digitValue_lt (c : Char) : digitValue c < 10 := by
  unfold digitValue digitValue?
  dsimp only
  cases found : digitZeros.find? fun z => z ≤ c.toNat && c.toNat < z + 10 with
  | none => simp
  | some z =>
    have within := List.find?_some found
    simp only [Bool.and_eq_true, decide_eq_true_eq] at within
    simp only [Option.map_some, Option.getD_some]
    omega

theorem ofDigits_lt (s : List Char) : ofDigits s < 10 ^ s.length := by
  induction s using List.reverseRecOn with
  | nil => decide
  | append_singleton s c ih =>
    have last := digitValue_lt c
    have value : ofDigits [c] = digitValue c := by simp [ofDigits]
    rw [ofDigits_append, value, List.length_append, List.length_singleton, pow_one, pow_succ]
    omega

end Text

namespace Guard

namespace Token

variable {s : List Char} {position : Nat}

/-- A token is a field only if it is a path. -/
theorem isField_of_scan {ts : List Token} (h : scan position s = .ok ts) :
    ∀ t ∈ ts, t.kind = .field → isField t.text = true := by
  intro t ht field
  obtain ⟨_, _, _, _, piece⟩ := (scan_eq_ok_iff.mp h).mem ht
  exact piece.isField field

end Token

namespace Value

/-- The values that texts stand for. -/
def IsParsed : Value → Prop
  | .int n => Decimal.isWritable n = true
  | .float x => Decimal.parts x ≠ .nan
  | _ => True

def isInfinite : Value → Bool
  | .float x =>
    match Decimal.parts x with
    | .infinite _ => true
    | _ => false
  | _ => false

theorem isParsed_of_ofWord {word : List Char} {v : Value} (h : ofWord word = .ok v) :
    v.IsParsed := by
  unfold ofWord at h
  split_ifs at h
  · cases h
    trivial
  · cases h
    trivial
  · cases h
    trivial
  · split at h
    · cases h
      trivial
    · rename_i n _
      split_ifs at h with fraction long
      · cases h
        exact Decimal.parts_ofDecimal_ne_nan _ _ _
      · cases h
        have small : Text.ofDigits n.whole < Decimal.tenTo n.whole.length :=
          Text.ofDigits_lt n.whole
        have bound := Decimal.tenTo_le_tenTo (Nat.not_lt.mp long)
        have size : n.toInt.natAbs = Text.ofDigits n.whole := by
          unfold Decimal.Numeral.toInt
          dsimp only
          split <;> omega
        exact decide_eq_true (size ▸ small.trans_le bound)

theorem IsParsed.defined {v : Value} (h : v.IsParsed) :
    ∀ x, v = .float x → Decimal.parts x ≠ .nan := by
  rintro x rfl
  exact h

theorem isReadable_of_isParsed {v : Value} (h : v.IsParsed) (finite : v.isInfinite = false) :
    v.IsReadable := by
  cases v with
  | int n => exact h
  | float x =>
    unfold IsParsed at h
    unfold isInfinite at finite
    unfold IsReadable Decimal.isFinite
    cases parts_x : Decimal.parts x with
    | nan => exact absurd parts_x h
    | infinite negative => simp [parts_x] at finite
    | finite negative m e => simp [parts_x]
  | _ => trivial

end Value

/-- The conditions that texts stand for. -/
structure Condition.IsParsed (c : Condition) : Prop where
  field : Token.isDotted false c.field.toList = true
  value : c.value.IsParsed
  unary : c.operator.needsValue = false → c.value = .null

namespace Condition.IsParsed

variable {c : Condition}

theorem not_isBlank (h : c.IsParsed) : c.isBlank = false := by
  unfold isBlank Text.isBlankText
  have chars := isWordChar_of_isDotted h.field
  cases field : c.field.toList with
  | nil =>
    have dotted := h.field
    rw [field] at dotted
    cases dotted
  | cons d r =>
    rw [field] at chars
    simp [isBlank_of_isWordChar (chars d List.mem_cons_self)]

theorem isReadable (h : c.IsParsed) (finite : c.value.isInfinite = false) : c.IsReadable :=
  ⟨h.field, Value.isReadable_of_isParsed h.value finite⟩

/-- A condition that is read back is equal to what was written. -/
theorem reread_same (h : c.IsParsed) (finite : c.value.isInfinite = false) :
    c.reread.same c = true := by
  have value : c.reread.value.same c.value = true := by
    unfold reread
    cases needs : c.operator.needsValue with
    | true => simpa using Value.reread_same (h.isReadable finite).value
    | false =>
      rw [h.unary needs]
      simp [Value.same, Value.toDocument, Document.same, Document.content]
  simp [same, reread] at value ⊢
  exact value

/-- The condition on a field token. -/
theorem leafOf {f : List Char} (field : Token.isField f = true) (op : Operator) {v : Value}
    (value : v.IsParsed) : (Condition.of (String.ofList f) op v false).IsParsed := by
  unfold Token.isField at field
  split at field
  · rename_i s
    have path := path_written field
    refine ⟨?_, ?_, ?_⟩
    · show Token.isDotted false (Condition.path (String.ofList (written s))).toList = true
      rw [path, String.toList_ofList]
      exact field
    · unfold Condition.of
      dsimp only
      split
      · exact value
      · trivial
    · intro unary
      exact if_neg (Bool.not_eq_true _ ▸ unary)
  · cases field

end Condition.IsParsed

namespace Tree

/-- The trees that texts have. -/
inductive IsParsed : Tree → Prop
  | leaf {c : Condition} : c.IsParsed → IsParsed (.leaf c)
  | several {l : Logic} {items : List Tree} {n : Bool} :
      1 < items.length → (∀ t ∈ items, IsParsed t) → IsParsed (.group l items n)
  | again {t : Tree} : IsParsed t → t.negated = true → IsParsed (.group .and [t] true)

namespace IsParsed

variable {t : Tree}

theorem setNegated (h : t.IsParsed) : t.setNegated.IsParsed := by
  cases h with
  | leaf h => exact .leaf ⟨h.field, h.value, h.unary⟩
  | several some_items items => exact .several some_items items
  | again h negated => exact .again h negated

theorem toTree {l : Logic} {items : List Tree} (some_item : items ≠ [])
    (h : ∀ t ∈ items, t.IsParsed) : (Terms.joined l items).toTree.IsParsed := by
  match items with
  | [] => exact absurd rfl some_item
  | [t] => exact h t (List.mem_singleton_self t)
  | t :: u :: r =>
    rw [Terms.joined_several (by simp)]
    exact .several (by simp) h

theorem negate {l : Logic} {items : List Tree} (some_item : items ≠ [])
    (h : ∀ t ∈ items, t.IsParsed) : (Terms.joined l items).negate.IsParsed := by
  match items with
  | [] => exact absurd rfl some_item
  | [t] =>
    have parsed := h t (List.mem_singleton_self t)
    unfold Terms.negate
    rw [Terms.joined_single]
    dsimp only
    split
    · rename_i negated
      exact .again parsed negated
    · exact parsed.setNegated
  | t :: u :: r =>
    rw [Terms.joined_several (by simp)]
    exact .several (by simp) h

end IsParsed

theorem mem_conditionsList {items : List Tree} {c : Condition} :
    c ∈ conditionsList items ↔ ∃ t ∈ items, c ∈ t.conditions := by
  induction items with
  | nil => simp [conditionsList]
  | cons t r ih => simp [conditionsList, ih]

mutual

/-- A tree is equal to itself if its values are. -/
theorem same_self (t : Tree) (h : ∀ c ∈ t.conditions, c.value.same c.value = true) :
    t.same t = true := by
  cases t with
  | leaf c =>
    have value := h c (List.mem_singleton_self c)
    simp [same, Condition.same, value]
  | group l items n => simp [same, sameList_self items h]

theorem sameList_self (items : List Tree)
    (h : ∀ c ∈ conditionsList items, c.value.same c.value = true) :
    sameList items items = true := by
  cases items with
  | nil => rfl
  | cons t r =>
    rw [sameList, same_self t fun c hc => h c (List.mem_append_left _ hc),
      sameList_self r fun c hc => h c (List.mem_append_right _ hc)]
    rfl

end

/-- The tree's text is read as an equal tree with the same negation. -/
def RereadSame (t : Tree) : Prop :=
  ∃ t', t.reread = some t' ∧ t'.same t = true ∧ t'.negated = t.negated

theorem rereadList_same {items : List Tree} (h : ∀ t ∈ items, RereadSame t) :
    sameList (rereadList items) items = true ∧ (rereadList items).length = items.length := by
  induction items with
  | nil => exact ⟨rfl, rfl⟩
  | cons t r ih =>
    rw [List.forall_mem_cons] at h
    obtain ⟨t', read, same, _⟩ := h.1
    obtain ⟨same', length⟩ := ih h.2
    rw [rereadList, read]
    refine ⟨?_, by simp [length]⟩
    show sameList (t' :: rereadList r) (t :: r) = true
    rw [sameList, same, same']
    rfl

theorem regroup_several {l : Logic} {items : List Tree} (h : 1 < items.length) (n : Bool) :
    regroup l items n = some (.group l items n) := by
  match items with
  | [] | [_] => exact absurd h (by simp)
  | t :: u :: r =>
    unfold regroup
    rw [Terms.joined_several (by simp)]
    cases n <;> rfl

namespace IsParsed

variable {t : Tree}

/-- All leaves of a parsed tree are parsed conditions. -/
theorem conditions (h : t.IsParsed) : ∀ c ∈ t.conditions, c.IsParsed := by
  induction h with
  | leaf h =>
    intro c hc
    rwa [List.mem_singleton.mp hc]
  | several _ _ ih =>
    intro c hc
    obtain ⟨t, ht, hc⟩ := mem_conditionsList.mp hc
    exact ih t ht c hc
  | @again t _ _ ih =>
    intro c hc
    obtain ⟨u, hu, inner⟩ := mem_conditionsList.mp hc
    rw [List.mem_singleton.mp hu] at inner
    exact ih c inner

theorem same_self (h : t.IsParsed) : t.same t = true :=
  t.same_self fun c hc => Value.same_self (h.conditions c hc).value.defined

/-- **A parsed tree is read back** as an equal tree. -/
theorem reread_same (h : t.IsParsed) (finite : ∀ c ∈ t.conditions, c.value.isInfinite = false) :
    RereadSame t := by
  induction h with
  | @leaf c h =>
    refine ⟨.leaf c.reread, ?_, ?_, rfl⟩
    · rw [reread, h.not_isBlank]
      rfl
    · exact h.reread_same (finite c (List.mem_singleton_self c))
  | @several l items n several _ ih =>
    obtain ⟨same, length⟩ := rereadList_same fun t ht =>
      ih t ht fun c hc => finite c (mem_conditionsList.mpr ⟨t, ht, hc⟩)
    refine ⟨.group l (rereadList items) n, ?_, ?_, rfl⟩
    · rw [reread, regroup_several (by omega)]
    · simp [Tree.same, same]
  | @again t _ negated ih =>
    obtain ⟨t', read, same, negated'⟩ := ih fun c hc =>
      finite c (mem_conditionsList.mpr ⟨t, List.mem_singleton_self t, hc⟩)
    rw [negated] at negated'
    refine ⟨.group .and [t'] true, ?_, ?_, rfl⟩
    · rw [reread, rereadList, read]
      simp [regroup, rereadList, Terms.joined_single, Terms.negate, negated']
    · simp [Tree.same, sameList, same]

end IsParsed

end Tree

theorem Operand.isParsed {k : Spelling} {v : Value} (h : Operand k v) : v.IsParsed := by
  cases h with
  | quoted => trivial
  | word read => exact Value.isParsed_of_ofWord read
  | field read => exact Value.isParsed_of_ofWord read

/-- The spelled fields are paths. -/
def FieldsArePaths (ks : List Spelling) : Prop :=
  ∀ s, (Token.Kind.field, s) ∈ ks → Token.isField s = true

theorem Reads.isParsed {l : Logic} {ks : List Spelling} {items : List Tree} (h : Reads l ks items)
    (fields : FieldsArePaths ks) : ∀ t ∈ items, t.IsParsed := by
  induction h with
  | field l f =>
    rw [List.forall_mem_singleton]
    exact .leaf (.leafOf (fields f (by simp)) _ trivial)
  | missing l n f =>
    rw [List.forall_mem_singleton]
    exact .leaf (.leafOf (fields f (by simp)) _ trivial)
  | compare l f o op operand =>
    rw [List.forall_mem_singleton]
    exact .leaf (.leafOf (fields f (by simp)) _ operand.isParsed)
  | parens l o c inner ih =>
    rw [List.forall_mem_singleton]
    exact .toTree inner.items_ne_nil (ih fun s hs => fields s (by simp [hs]))
  | negated l n o c inner ih =>
    rw [List.forall_mem_singleton]
    exact .negate inner.items_ne_nil (ih fun s hs => fields s (by simp [hs]))
  | join x first others ih_first ih_others =>
    rw [List.forall_mem_cons]
    refine ⟨ih_first (fun s hs => fields s (by simp [hs])) _ (List.mem_singleton_self _), ?_⟩
    exact ih_others fun s hs => fields s (by simp [hs])

/-- **What is read from a text** is a parsed tree. -/
theorem ofText_isParsed {text : String} {g : Group} (h : Group.ofText text = .ok g) :
    ∃ t : Tree, t.IsParsed ∧ g = Group.ofTree t := by
  obtain ⟨ts, scanned, whole⟩ := Group.ofText_ok h
  obtain ⟨l, items, rfl, reads⟩ := reads_of_whole whole
  have fields : FieldsArePaths (ts.map Token.spelling) := by
    intro s hs
    obtain ⟨t, mem, spelled⟩ := List.mem_map.mp hs
    have field := Token.isField_of_scan scanned t mem (congrArg Prod.fst spelled)
    rwa [show t.text = s from congrArg Prod.snd spelled] at field
  exact ⟨_, .toTree reads.items_ne_nil (reads.isParsed fields), Terms.toGroup_joined l items⟩

end Guard

end Statecraft
