import Statecraft.Proofs.Guard.Grammar
import Statecraft.Proofs.Guard.Meaning

/-!
# Derivations

The grammar of guards by itself, without the trees that reading builds: an expression is terms
with one logic between them, and a derivation gives the formula that is meant. What derives is
what is read (`Derives.isRead`, `Reads.derives`), and the trees that are read are true when the
formula is.
-/

namespace Statecraft.Guard

/-- What a sentence says. Fields and operands stand as they are spelled. -/
inductive Formula where
  | field (name : List Char)
  | compare (name : List Char) (operator : Operator) (operand : Spelling)
  | not (part : Formula)
  | join (logic : Logic) (left right : Formula)

/-- The value of an operand, if it is no integer that is too long. -/
def valueOf? (k : Spelling) : Option Value :=
  match k.1 with
  | .quoted => some (.text (String.ofList (unquote k.2)))
  | _ => (Value.ofWord k.2).toOption

namespace Formula

/-- The ordinary reading. A comparison with an operand that has no value holds of nothing. -/
def holds (v : Valuation) : Formula → Bool
  | .field f => v.present (Condition.path (String.ofList f))
  | .compare f op k =>
    match valueOf? k with
    | some x => v.atom (Condition.path (String.ofList f)) op x
    | none => false
  | .not f => !f.holds v
  | .join l f g => l.join [f.holds v, g.holds v]

end Formula

/-- The parts of the grammar. -/
inductive Part where
  | term
  /-- Terms with this logic between them. -/
  | terms (logic : Logic)
  | expression

/-- The grammar, with the formula of each derivation. Of tokens that are always spelled in one
way, the spelling does not matter. -/
inductive Derives : Part → List Spelling → Formula → Prop
  | negated (n o c : List Char) {ks : List Spelling} {f : Formula} : Derives .expression ks f →
      Derives .term ((.not, n) :: (.opening, o) :: (ks ++ [(.closing, c)])) (.not f)
  | parens (o c : List Char) {ks : List Spelling} {f : Formula} : Derives .expression ks f →
      Derives .term ((.opening, o) :: (ks ++ [(.closing, c)])) f
  | missing (n f : List Char) : Derives .term [(.not, n), (.field, f)] (.not (.field f))
  | field (f : List Char) : Derives .term [(.field, f)] (.field f)
  | compare (f o : List Char) (op : Operator) {k : Spelling} :
      k.1 = .quoted ∨ k.1 = .word ∨ k.1 = .field →
      Derives .term [(.field, f), (.compare op, o), k] (.compare f op k)
  | last (l : Logic) {ks : List Spelling} {f : Formula} : Derives .term ks f →
      Derives (.terms l) ks f
  | join {l : Logic} (x : List Char) {ks us : List Spelling} {f g : Formula} :
      Derives .term ks f → Derives (.terms l) us g →
      Derives (.terms l) (ks ++ (.logic l, x) :: us) (.join l f g)
  | expression {l : Logic} {ks : List Spelling} {f : Formula} : Derives (.terms l) ks f →
      Derives .expression ks f

/-- Every part begins with a field, an exclamation mark or a parenthesis. -/
theorem Derives.starts {p : Part} {ks : List Spelling} {f : Formula} (h : Derives p ks f) :
    ∃ k s r, ks = (k, s) :: r ∧ (k = .field ∨ k = .not ∨ k = .opening) := by
  induction h with
  | negated => exact ⟨_, _, _, rfl, Or.inr (Or.inl rfl)⟩
  | parens => exact ⟨_, _, _, rfl, Or.inr (Or.inr rfl)⟩
  | missing => exact ⟨_, _, _, rfl, Or.inr (Or.inl rfl)⟩
  | field => exact ⟨_, _, _, rfl, Or.inl rfl⟩
  | compare => exact ⟨_, _, _, rfl, Or.inl rfl⟩
  | last _ _ ih => exact ih
  | join x _ _ ih _ =>
    obtain ⟨k, s, r, rfl, first⟩ := ih
    exact ⟨k, s, _, rfl, first⟩
  | expression _ ih => exact ih

/-- A token that is an integer with more digits than are read. One line break may follow it. -/
def Token.isLongInteger (t : Token) : Bool :=
  match Decimal.Numeral.ofChars? (Text.dropLineEnd t.text) with
  | some n => n.integral && Decimal.digitLimit < n.whole.length
  | none => false

section Values

variable {k : Spelling} {x : Value}

theorem operand_iff : Operand k x ↔
    (k.1 = .quoted ∨ k.1 = .word ∨ k.1 = .field) ∧ valueOf? k = some x := by
  have word : ∀ s, (Value.ofWord s).toOption = some x ↔ Value.ofWord s = .ok x := by
    intro s
    cases Value.ofWord s <;> simp [Except.toOption]
  constructor
  · rintro (s | read | read)
    · exact ⟨Or.inl rfl, rfl⟩
    · exact ⟨Or.inr (Or.inl rfl), (word _).mpr read⟩
    · exact ⟨Or.inr (Or.inr rfl), (word _).mpr read⟩
  · obtain ⟨kind, s⟩ := k
    rintro ⟨rfl | rfl | rfl, value⟩
    · cases value
      exact .quoted s
    · exact .word ((word s).mp value)
    · exact .field ((word s).mp value)

/-- Only an integer that is too long has no value. -/
theorem valueOf?_of_not_long {t : Token} (h : t.isLongInteger = false) :
    ∃ x, valueOf? t.spelling = some x := by
  have word : ∃ x, Value.ofWord t.text = .ok x := by
    unfold Token.isLongInteger at h
    unfold Value.ofWord
    split_ifs
    iterate 3 exact ⟨_, rfl⟩
    cases numeral : Decimal.Numeral.ofChars? (Text.dropLineEnd t.text) with
    | none => exact ⟨_, rfl⟩
    | some n =>
      cases whole : n.integral with
      | false => simp [whole]
      | true =>
        have short : ¬ Decimal.digitLimit < n.whole.length := by
          simpa [numeral, whole] using h
        simp [whole, short]
  obtain ⟨x, read⟩ := word
  obtain ⟨kind, s, p⟩ := t
  cases kind with
  | quoted => exact ⟨_, rfl⟩
  | _ => exact ⟨x, by simp [valueOf?, Token.spelling, read, Except.toOption]⟩

end Values

/-- All tokens stand for values, were they operands. -/
def HaveValues (ks : List Spelling) : Prop := ∀ k ∈ ks, ∃ x, valueOf? k = some x

theorem HaveValues.mono {ks us : List Spelling} (h : HaveValues us) (sub : ks ⊆ us) :
    HaveValues ks :=
  fun k hk => h k (sub hk)

/-- The sentence is read, and the trees are true when the formula is. -/
def IsRead : Part → List Spelling → Formula → Prop
  | .term, ks, f => ∃ t, (∀ l, Reads l ks [t]) ∧ ∀ v, t.holds v = f.holds v
  | .terms l, ks, f => ∃ items, Reads l ks items ∧ ∀ v, l.join (Tree.truths v items) = f.holds v
  | .expression, ks, f =>
    ∃ l items, Reads l ks items ∧ ∀ v, l.join (Tree.truths v items) = f.holds v

theorem holds_leafOf (v : Valuation) (f : List Char) (op : Operator) (x : Value) :
    (leafOf f op x).holds v = v.atom (Condition.path (String.ofList f)) op x := by
  simp only [leafOf, Tree.holds, Condition.holds, Condition.of, Bool.false_xor]
  cases needs : op.needsValue with
  | true => rw [if_pos rfl]
  | false => exact v.atom_unary _ needs _ _

/-- **Every sentence is read as what it says.** -/
theorem Derives.isRead {p : Part} {ks : List Spelling} {f : Formula} (h : Derives p ks f)
    (values : HaveValues ks) : IsRead p ks f := by
  induction h with
  | negated n o c _ ih =>
    obtain ⟨l, items, reads, same⟩ := ih (values.mono fun k hk => by simp [hk])
    refine ⟨_, fun _ => .negated _ n o c reads, fun v => ?_⟩
    rw [Terms.holds_negate, Terms.holds_joined, same, Formula.holds]
  | parens o c _ ih =>
    obtain ⟨l, items, reads, same⟩ := ih (values.mono fun k hk => by simp [hk])
    refine ⟨_, fun _ => .parens _ o c reads, fun v => ?_⟩
    rw [Terms.holds_toTree, Terms.holds_joined, same]
  | missing n f => exact ⟨_, fun _ => .missing _ n f, fun v => holds_leafOf v f _ _⟩
  | field f => exact ⟨_, fun _ => .field _ f, fun v => holds_leafOf v f _ _⟩
  | @compare f o op k kind =>
    obtain ⟨x, value⟩ := values k (by simp)
    refine ⟨_, fun _ => .compare _ f o op (operand_iff.mpr ⟨kind, value⟩), fun v => ?_⟩
    rw [holds_leafOf, Formula.holds, value]
  | last l _ ih =>
    obtain ⟨t, reads, same⟩ := ih values
    exact ⟨[t], reads l, fun v => by rw [Tree.truths, Tree.truths, Logic.join_single, same]⟩
  | @join l x ks us f g _ _ ih ih' =>
    obtain ⟨t, reads, same⟩ := ih (values.mono fun k hk => by simp [hk])
    obtain ⟨items, reads', same'⟩ := ih' (values.mono fun k hk => by simp [hk])
    refine ⟨t :: items, .join x (reads l) reads', fun v => ?_⟩
    rw [Tree.truths, Logic.join_cons, same, same', Formula.holds]
  | @expression l ks f _ ih =>
    obtain ⟨items, reads, same⟩ := ih values
    exact ⟨l, items, reads, same⟩

/-- **What is read is a sentence**, a single term as one. -/
theorem Reads.derives {l : Logic} {ks : List Spelling} {items : List Tree} (h : Reads l ks items) :
    (∃ f, Derives (.terms l) ks f) ∧ (items.length = 1 → ∃ f, Derives .term ks f) := by
  have one : ∀ {l : Logic} {ks : List Spelling} {items : List Tree} {f : Formula},
      Derives .term ks f →
      (∃ f, Derives (.terms l) ks f) ∧ (items.length = 1 → ∃ f, Derives .term ks f) :=
    fun d => ⟨⟨_, .last _ d⟩, fun _ => ⟨_, d⟩⟩
  induction h with
  | field l f => exact one (.field f)
  | missing l n f => exact one (.missing n f)
  | compare l f o op operand => exact one (.compare f o op (operand_iff.mp operand).1)
  | parens l o c _ ih =>
    obtain ⟨f, d⟩ := ih.1
    exact one (.parens o c (.expression d))
  | negated l n o c _ ih =>
    obtain ⟨f, d⟩ := ih.1
    exact one (.negated n o c (.expression d))
  | join x _ others ih ih' =>
    obtain ⟨f, d⟩ := ih.2 rfl
    obtain ⟨g, e⟩ := ih'.1
    exact ⟨⟨_, .join x d e⟩, fun single => absurd (by simpa using single) others.items_ne_nil⟩

end Statecraft.Guard
