import Statecraft.Proofs.Guard.Acceptance

/-!
# Where tokens stand

The parser looks at the kinds and texts of tokens and passes their positions on. So moving all
tokens moves the failure and changes nothing else (`whole_move`): tokens that are spelled alike
are read alike (`whole_spelled`), and a failure is at a token or at the end (`position_of_whole`).
-/

namespace Statecraft.Guard

/-- The token at another position. -/
def Token.move (φ : Nat → Nat) (t : Token) : Token := { t with position := φ t.position }

def ReadError.move (φ : Nat → Nat) : ReadError → ReadError
  | .failure f => .failure ⟨f.fault, φ f.position⟩
  | .limit l => .limit l

/-- A result of the parser with the tokens that are left, or the failure, moved. -/
def Parse.moved {α : Type} {m n : Nat} (φ : Nat → Nat) (le : m ≤ n) :
    Parse.Result α m → Parse.Result α n
  | .ok (a, ⟨rest, fewer⟩) =>
    .ok (a, ⟨rest.map (Token.move φ), by rw [List.length_map]; exact fewer.trans_le le⟩)
  | .error e => .error (e.move φ)

open Parse (moved)

section Moving

variable {α β : Type} {φ : Nat → Nat} {last : Nat} {ts : List Token}

theorem length_le_map (φ : Nat → Nat) (ts : List Token) :
    ts.length ≤ (ts.map (Token.move φ)).length :=
  (List.length_map _).ge

/-- Moving what a smaller part gives is moving what the larger one gives. -/
theorem moved_map {l m n k : Nat} {f : α → β} {le : l ≤ m} {le' : m ≤ n} {le₁ : l ≤ k}
    {le₂ : k ≤ n} (x : Parse.Result α l) :
    (moved φ le₁ x).map f le₂ = moved φ le' (x.map f le) := by
  cases x <;> rfl

/-- A part after another one. -/
theorem andThen_move {l m n k : Nat} {le : l ≤ m} {le' : n ≤ k} (r : Parse.Result α l)
    {f : α → ∀ rest : List Token, rest.length < l → Parse.Result β n}
    {g : α → ∀ rest : List Token, rest.length < m → Parse.Result β k}
    (parts : ∀ a (rest : List Token) fewer fewer',
      g a (rest.map (Token.move φ)) fewer' = moved φ le' (f a rest fewer)) :
    (moved φ le r).andThen g = moved φ le' (r.andThen f) := by
  match r with
  | .error e => rfl
  | .ok (a, ⟨rest, fewer⟩) => exact parts a rest fewer _

/-- What stands after a comparison. An operand without a value is an integer that is too long,
which is refused without a position. -/
theorem compared_move {m n : Nat} {le : m ≤ n} (f : Value → Tree) (op : Operator) (t : Token)
    (rest : List Token) (fewer : rest.length < m)
    (fewer' : (rest.map (Token.move φ)).length < n) :
    (if Parse.isOperand t then
        (Parse.operand t).map fun v => (f v, ⟨rest.map (Token.move φ), fewer'⟩)
      else Parse.fail (.missingValue op) (φ t.position) : Parse.Result Tree n) =
    moved φ le (if Parse.isOperand t then (Parse.operand t).map fun v => (f v, ⟨rest, fewer⟩)
      else Parse.fail (.missingValue op) t.position) := by
  split
  · cases value : Parse.operand t with
    | ok v => rfl
    | error e =>
      obtain ⟨l, rfl⟩ := limit_of_operand value
      rfl
  · rfl

theorem atom_move (ts : List Token) :
    Parse.atom (φ last) (ts.map (Token.move φ)) =
      moved φ (length_le_map φ ts) (Parse.atom last ts) := by
  match ts with
  | [] => rfl
  | ⟨kind, text, p⟩ :: rest =>
    cases kind with
    | field =>
      match rest with
      | [] => rfl
      | ⟨kind', text', p'⟩ :: rest =>
        cases kind' with
        | compare op =>
          match rest with
          | [] => rfl
          | t :: rest => exact compared_move (Parse.condition ⟨.field, text, p⟩ op) op t rest _ _
        | _ => rfl
    | _ => rfl

/-- The parser's parts take these tokens, moved, to moved results. -/
structure Moves (φ : Nat → Nat) (last : Nat) (ts : List Token) : Prop where
  term : Parse.term (φ last) (ts.map (Token.move φ)) =
    moved φ (length_le_map φ ts) (Parse.term last ts)
  enclosed : ∀ o, Parse.enclosed (φ last) (o.move φ) (ts.map (Token.move φ)) =
    moved φ (length_le_map φ ts) (Parse.enclosed last o ts)
  expression : Parse.expression (φ last) (ts.map (Token.move φ)) =
    moved φ (length_le_map φ ts) (Parse.expression last ts)
  others : ∀ l? done, Parse.others (φ last) l? done (ts.map (Token.move φ)) =
    moved φ (Nat.succ_le_succ (length_le_map φ ts)) (Parse.others last l? done ts)

namespace Moves

theorem term_step (ih : ∀ us, us.length < ts.length → Moves φ last us) :
    Parse.term (φ last) (ts.map (Token.move φ)) =
      moved φ (length_le_map φ ts) (Parse.term last ts) := by
  rw [Parse.term.eq_def, Parse.term.eq_def]
  match ts, ih with
  | [], _ => rfl
  | ⟨kind, text, p⟩ :: rest, ih =>
    cases kind with
    | not =>
      match rest, ih with
      | [], _ => rfl
      | ⟨kind', text', p'⟩ :: rest, ih =>
        cases kind' with
        | opening =>
          have inner := (ih rest (by simp)).enclosed ⟨.opening, text', p'⟩
          exact (congrArg (Parse.Result.map Terms.negate _) inner).trans (moved_map _)
        | _ => rfl
    | opening =>
      have inner := (ih rest (by simp)).enclosed ⟨.opening, text, p⟩
      exact (congrArg (Parse.Result.map Terms.toTree _) inner).trans (moved_map _)
    | field => exact atom_move (⟨.field, text, p⟩ :: rest)
    | _ => rfl

theorem expression_step (ih : ∀ us, us.length < ts.length → Moves φ last us)
    (term : Parse.term (φ last) (ts.map (Token.move φ)) =
      moved φ (length_le_map φ ts) (Parse.term last ts)) :
    Parse.expression (φ last) (ts.map (Token.move φ)) =
      moved φ (length_le_map φ ts) (Parse.expression last ts) := by
  rw [Parse.expression, Parse.expression, term]
  refine andThen_move _ fun item rest fewer _ => ?_
  rw [(ih rest fewer).others]
  exact moved_map _

/-- A logic and the terms after it. -/
theorem terms_move {tok : Token} (ih : ∀ us, us.length < (tok :: ts).length → Moves φ last us)
    (l : Logic) (done : List Tree) :
    ((Parse.term (φ last) (ts.map (Token.move φ))).andThen fun item rest fewer =>
        (Parse.others (φ last) (some l) (item :: done) rest).map id
          (Nat.le_succ_of_le (Nat.succ_le_succ (Nat.le_of_lt fewer)))) =
      moved φ (Nat.succ_le_succ (length_le_map φ (tok :: ts)))
        ((Parse.term last ts).andThen fun item rest fewer =>
          (Parse.others last (some l) (item :: done) rest).map id
            (Nat.le_succ_of_le (Nat.succ_le_succ (Nat.le_of_lt fewer)))) := by
  rw [(ih ts (Nat.lt_succ_self _)).term]
  refine andThen_move _ fun item rest fewer _ => ?_
  rw [(ih rest (Nat.lt_succ_of_lt fewer)).others]
  exact moved_map _

theorem closed_move (o : Token) (terms : Terms) (rest : List Token) :
    Parse.closed (φ last) (o.move φ) terms (rest.map (Token.move φ)) =
      moved φ (length_le_map φ rest) (Parse.closed last o terms rest) := by
  match rest with
  | [] => rfl
  | ⟨kind, _, _⟩ :: _ => cases kind <;> rfl

theorem enclosed_step (inside : Parse.expression (φ last) (ts.map (Token.move φ)) =
      moved φ (length_le_map φ ts) (Parse.expression last ts)) (o : Token) :
    Parse.enclosed (φ last) (o.move φ) (ts.map (Token.move φ)) =
      moved φ (length_le_map φ ts) (Parse.enclosed last o ts) := by
  have inner : ((Parse.expression (φ last) (ts.map (Token.move φ))).andThen
      fun terms rest fewer =>
        (Parse.closed (φ last) (o.move φ) terms rest).map id (Nat.le_of_lt fewer)) =
      moved φ (length_le_map φ ts) ((Parse.expression last ts).andThen fun terms rest fewer =>
        (Parse.closed last o terms rest).map id (Nat.le_of_lt fewer)) := by
    rw [inside]
    refine andThen_move _ fun terms rest _ _ => ?_
    rw [closed_move]
    exact moved_map _
  rw [Parse.enclosed.eq_def, Parse.enclosed.eq_def]
  match ts, inner with
  | [], inner => exact inner
  | ⟨kind, text, p⟩ :: rest, inner =>
    cases kind with
    | closing => rfl
    | _ => exact inner

theorem others_step (ih : ∀ us, us.length < ts.length → Moves φ last us) (l? : Option Logic)
    (done : List Tree) :
    Parse.others (φ last) l? done (ts.map (Token.move φ)) =
      moved φ (Nat.succ_le_succ (length_le_map φ ts)) (Parse.others last l? done ts) := by
  rw [Parse.others.eq_def, Parse.others.eq_def]
  match ts, ih with
  | [], _ => rfl
  | ⟨kind, text, p⟩ :: rest, ih =>
    cases kind with
    | logic l =>
      show (if l?.getD l != l then Parse.fail .mixedLogic (φ p) else _) =
        moved φ _ (if l?.getD l != l then Parse.fail .mixedLogic p else _)
      split
      · rfl
      · match rest, ih with
        | [], _ => rfl
        | ⟨kind', text', p'⟩ :: rest, ih =>
          cases kind' with
          | logic | closing => rfl
          | _ => exact terms_move ih l done
    | _ => rfl

theorem all (φ : Nat → Nat) (last : Nat) (ts : List Token) : Moves φ last ts := by
  induction ts using (measure List.length).wf.induction with
  | _ ts ih =>
    have term := term_step ih
    have expression := expression_step ih term
    exact ⟨term, enclosed_step expression, expression, others_step ih⟩

end Moves

/-- The tree or the reason for which there is none does not depend on where the tokens stand. -/
theorem whole_move (φ : Nat → Nat) (last : Nat) (ts : List Token) :
    Parse.whole (φ last) (ts.map (Token.move φ)) =
      (Parse.whole last ts).mapError (ReadError.move φ) := by
  unfold Parse.whole
  rw [(Moves.all φ last _).expression]
  cases Parse.expression last ts with
  | error e => rfl
  | ok inner =>
    obtain ⟨terms, rest, _⟩ := inner
    cases rest <;> rfl

end Moving

/-- **Tokens that are spelled alike are read alike**, but for the position of a failure. -/
theorem whole_spelled {ts us : List Token} (same : ts.map Token.spelling = us.map Token.spelling)
    (last stop : Nat) :
    (Parse.whole last ts).mapError (ReadError.move fun _ => 0) =
      (Parse.whole stop us).mapError (ReadError.move fun _ => 0) := by
  have unplaced : ∀ ts : List Token, ts.map (Token.move fun _ => 0) =
      (ts.map Token.spelling).map fun (kind, text) => ⟨kind, text, 0⟩ := by
    intro ts
    rw [List.map_map]
    rfl
  rw [← whole_move, ← whole_move, unplaced, unplaced, same]

section Failures

variable {φ : Nat → Nat} {last : Nat} {ts : List Token} {f : Failure}

/-- What moves neither a token nor the end moves no failure. -/
theorem fixed_of_whole (h : Parse.whole last ts = .error (.failure f)) (at_end : φ last = last)
    (at_token : ∀ t ∈ ts, φ t.position = t.position) : φ f.position = f.position := by
  have same : ts.map (Token.move φ) = ts := by
    refine (List.map_congr_left fun t ht => ?_).trans (List.map_id ts)
    show (⟨t.kind, t.text, φ t.position⟩ : Token) = t
    rw [at_token t ht]
  have moved := whole_move φ last ts
  rw [same, at_end, h] at moved
  exact (congrArg Failure.position (ReadError.failure.inj (Except.error.inj moved))).symm

/-- **A failure is at a token or at the end**: it could be moved alone if it were not. -/
theorem position_of_whole (h : Parse.whole last ts = .error (.failure f)) :
    f.position = last ∨ ∃ t ∈ ts, t.position = f.position := by
  by_contra alone
  push Not at alone
  have fixed := fixed_of_whole (φ := Function.update id f.position (f.position + 1)) h
    (Function.update_of_ne (Ne.symm alone.1) _ _)
    fun t ht => Function.update_of_ne (alone.2 t ht) _ _
  rw [Function.update_self] at fixed
  omega

end Failures

end Statecraft.Guard
