import Statecraft.Proofs.Guard.Derivation

/-!
# How the parser fails

The parser turns down what is no sentence with a failure, or it stops at an integer that is too
long, and there only where the tokens up to this integer begin a sentence (`stops_of_whole`).
-/

namespace Statecraft.Guard

open Token (spelling)

/-- The tokens up to one that has no value begin such a part of the grammar. -/
def StopsWithin (p : Part) (ts : List Token) : Prop :=
  ∃ pre t post us f, ts = pre ++ t :: post ∧ valueOf? t.spelling = none ∧
    Derives p ((pre ++ [t]).map spelling ++ us) f

namespace StopsWithin

variable {ts : List Token} {l : Logic}

/-- Tokens before a part, and what may complete the whole. -/
theorem within {p q : Part} (before : List Token) (after : List Spelling) (h : StopsWithin p ts)
    (derives : ∀ ks f, Derives p ks f →
      ∃ g, Derives q (before.map spelling ++ ks ++ after) g) :
    StopsWithin q (before ++ ts) := by
  obtain ⟨pre, t, post, us, f, rfl, none, d⟩ := h
  obtain ⟨g, d'⟩ := derives _ _ d
  refine ⟨before ++ pre, t, post, us ++ after, g, by simp, none, ?_⟩
  simpa using d'

theorem negated {n o : Token} (hn : n.kind = .not) (ho : o.kind = .opening)
    (h : StopsWithin .expression ts) : StopsWithin .term (n :: o :: ts) := by
  obtain ⟨kn, sn, pn⟩ := n
  obtain ⟨ko, so, po⟩ := o
  obtain rfl : kn = .not := hn
  obtain rfl : ko = .opening := ho
  exact h.within [⟨.not, sn, pn⟩, ⟨.opening, so, po⟩] [(.closing, [])] fun ks f d =>
    ⟨.not f, by simpa [spelling] using Derives.negated sn so [] d⟩

theorem parens {o : Token} (ho : o.kind = .opening) (h : StopsWithin .expression ts) :
    StopsWithin .term (o :: ts) := by
  obtain ⟨ko, so, po⟩ := o
  obtain rfl : ko = .opening := ho
  exact h.within [⟨.opening, so, po⟩] [(.closing, [])] fun ks f d =>
    ⟨f, by simpa [spelling] using Derives.parens so [] d⟩

theorem last (h : StopsWithin .term ts) (l : Logic) : StopsWithin (.terms l) ts :=
  h.within [] [] fun ks f d => ⟨f, by simpa using Derives.last l d⟩

theorem join {us : List Token} {tok : Token} {f : Formula}
    (first : Derives .term (us.map spelling) f) (hl : tok.kind = .logic l)
    (h : StopsWithin (.terms l) ts) : StopsWithin (.terms l) (us ++ tok :: ts) := by
  obtain ⟨kind, x, p⟩ := tok
  obtain rfl : kind = .logic l := hl
  have more := h.within (us ++ [⟨.logic l, x, p⟩]) [] (q := .terms l) fun ks g d =>
    ⟨.join l f g, by simpa [spelling] using Derives.join x first d⟩
  simpa using more

theorem expression (h : StopsWithin (.terms l) ts) : StopsWithin .expression ts :=
  h.within [] [] fun ks f d => ⟨f, by simpa using Derives.expression d⟩

/-- There is nothing to stop at where all tokens have values. -/
theorem not_haveValues {p : Part} (h : StopsWithin p ts) : ¬ HaveValues (ts.map spelling) := by
  obtain ⟨pre, t, post, us, f, rfl, none, _⟩ := h
  intro values
  obtain ⟨x, value⟩ := values t.spelling (by simp)
  rw [none] at value
  cases value

end StopsWithin

section Failures

variable {last : Nat} {ts : List Token} {l : Decimal.LimitError}

theorem unexpected_ne_limit {α : Type} {n : Nat} (what : String) (last : Nat) (ts : List Token)
    (l : Decimal.LimitError) :
    (Parse.unexpected what last ts : Parse.Result α n) ≠ .error (.limit l) := by
  cases ts <;> nofun

theorem kind_of_isOperand {t : Token} (h : Parse.isOperand t = true) :
    t.kind = .quoted ∨ t.kind = .word ∨ t.kind = .field := by
  obtain ⟨kind, s, p⟩ := t
  cases kind <;> simp [Parse.isOperand] at h ⊢

theorem limit_of_operand {t : Token} {e : ReadError} (h : Parse.operand t = .error e) :
    ∃ l, e = .limit l := by
  unfold Parse.operand at h
  split at h
  · cases h
  · split at h
    · cases h
    · rename_i l _
      cases h
      exact ⟨l, rfl⟩

theorem stops_of_atom (h : Parse.atom last ts = .error (.limit l)) : StopsWithin .term ts := by
  unfold Parse.atom at h
  split at h
  · rename_i f p op o q rest
    split at h
    · cases h
    · rename_i tok r
      split at h
      · rename_i allowed
        have kind := kind_of_isOperand allowed
        cases value : valueOf? tok.spelling with
        | some x =>
          rw [(operand_of_spelling (operand_iff.mpr ⟨kind, value⟩)).2] at h
          cases h
        | none =>
          exact ⟨[⟨.field, f, p⟩, ⟨.compare op, o, q⟩], tok, r, [], _, rfl, value,
            .compare f o op kind⟩
      · cases h
  · cases h
  · exact absurd h (unexpected_ne_limit _ _ _ _)

/-- The tokens are a logic that may come here, and terms that are stopped at a token without a
value. -/
def StopsAfterLogic (l? : Option Logic) (ts : List Token) : Prop :=
  ∃ tok r l, ts = tok :: r ∧ tok.kind = .logic l ∧ l?.getD l = l ∧ StopsWithin (.terms l) r

/-- On these tokens, the parser's parts are stopped at a token without a value only. -/
structure Stops (last : Nat) (ts : List Token) : Prop where
  term : ∀ l, Parse.term last ts = .error (.limit l) → StopsWithin .term ts
  enclosed : ∀ o l, Parse.enclosed last o ts = .error (.limit l) → StopsWithin .expression ts
  expression : ∀ l, Parse.expression last ts = .error (.limit l) → StopsWithin .expression ts
  others : ∀ l? done l, Parse.others last l? done ts = .error (.limit l) → StopsAfterLogic l? ts

/-- The tokens of a term are a sentence. -/
theorem derives_of_term {t : Tree} {rest : List Token} (h : (Parse.term last ts).Gives t rest) :
    ∃ us f, ts = us ++ rest ∧ Derives .term (us.map spelling) f := by
  obtain ⟨us, rfl, reads⟩ := (ParsesSoundly.all last ts).term _ _ h
  obtain ⟨f, d⟩ := (reads .and).derives.2 rfl
  exact ⟨us, f, rfl, d⟩

/-- Stopped at the term after a logic, or at one after that. -/
theorem StopsAfterLogic.join {us rest : List Token} {l : Logic} {f : Formula}
    (first : Derives .term (us.map spelling) f) (h : StopsAfterLogic (some l) rest) :
    StopsWithin (.terms l) (us ++ rest) := by
  obtain ⟨tok, r, l', rfl, kind, same, stops⟩ := h
  obtain rfl : l = l' := same
  exact .join first kind stops

namespace Stops

open Parse.Result (map_eq_error andThen_eq_error)

theorem term_step (ih : ∀ us, us.length < ts.length → Stops last us)
    (h : Parse.term last ts = .error (.limit l)) : StopsWithin .term ts := by
  rw [Parse.term.eq_def] at h
  split at h
  · cases h
  · split at h
    · rename_i r
      exact ((ih r (by simp)).enclosed _ _ (map_eq_error.mp h)).negated rfl rfl
    · cases h
    · exact absurd h (unexpected_ne_limit _ _ _ _)
  · rename_i r
    exact ((ih r (by simp)).enclosed _ _ (map_eq_error.mp h)).parens rfl
  · exact stops_of_atom h

theorem enclosed_step (inside : ∀ l, Parse.expression last ts = .error (.limit l) →
      StopsWithin .expression ts) {o : Token}
    (h : Parse.enclosed last o ts = .error (.limit l)) : StopsWithin .expression ts := by
  rw [Parse.enclosed.eq_def] at h
  split at h
  · cases h
  · rcases andThen_eq_error.mp h with inner | ⟨terms, rest, _, _, h⟩
    · exact inside _ inner
    · have closed := map_eq_error.mp h
      unfold Parse.closed at closed
      split at closed
      · cases closed
      · cases closed
      · exact absurd closed (unexpected_ne_limit _ _ _ _)

theorem expression_step (ih : ∀ us, us.length < ts.length → Stops last us)
    (term : ∀ l, Parse.term last ts = .error (.limit l) → StopsWithin .term ts)
    (h : Parse.expression last ts = .error (.limit l)) : StopsWithin .expression ts := by
  rw [Parse.expression] at h
  rcases andThen_eq_error.mp h with first | ⟨t, rest, fewer, first, h⟩
  · exact ((term _ first).last .and).expression
  · have others := (ih rest fewer).others _ _ _ (map_eq_error.mp h)
    obtain ⟨us, f, rfl, d⟩ := derives_of_term first
    obtain ⟨tok, r, l, rfl, kind, _, stops⟩ := others
    exact (StopsWithin.join d kind stops).expression

theorem others_step (ih : ∀ us, us.length < ts.length → Stops last us) {l? : Option Logic}
    {done : List Tree} (h : Parse.others last l? done ts = .error (.limit l)) :
    StopsAfterLogic l? ts := by
  rw [Parse.others.eq_def] at h
  split at h
  · rename_i l x p r
    split at h
    · cases h
    · rename_i agree
      have same : l?.getD l = l := by simpa using agree
      have after : StopsWithin (.terms l) r → StopsAfterLogic l? (⟨.logic l, x, p⟩ :: r) :=
        fun stops => ⟨_, r, l, rfl, rfl, same, stops⟩
      split at h
      · cases h
      · cases h
      · cases h
      · rcases andThen_eq_error.mp h with first | ⟨t, rest, fewer, first, h⟩
        · exact after (((ih r (by simp)).term _ first).last l)
        · have others := (ih rest (by simp; omega)).others _ _ _ (map_eq_error.mp h)
          obtain ⟨us, f, rfl, d⟩ := derives_of_term first
          exact after (others.join d)
  · cases h

theorem all (last : Nat) (ts : List Token) : Stops last ts := by
  induction ts using (measure List.length).wf.induction with
  | _ ts ih =>
    have term : ∀ l, Parse.term last ts = .error (.limit l) → StopsWithin .term ts :=
      fun _ => term_step ih
    have expression : ∀ l, Parse.expression last ts = .error (.limit l) →
        StopsWithin .expression ts := fun _ => expression_step ih term
    exact ⟨term, fun _ _ => enclosed_step expression, expression, fun _ _ _ => others_step ih⟩

end Stops

/-- **The parser is stopped by an integer only**, and then the tokens up to it begin a sentence. -/
theorem stops_of_whole (h : Parse.whole last ts = .error (.limit l)) :
    StopsWithin .expression ts := by
  unfold Parse.whole at h
  split at h
  · rename_i failed
    cases h
    exact (Stops.all last _).expression _ failed
  · split at h <;> cases h

end Failures

end Statecraft.Guard
