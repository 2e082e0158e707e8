import Statecraft.Guard.Expression
import Statecraft.Proofs.Except
import Statecraft.Proofs.Guard.Lexing

/-!
# The grammar of guards

`Reads` is the grammar over spelled tokens, with the trees that terms stand for. The parser
reads every sentence of it (`whole_of_reads`) and nothing else (`reads_of_whole`). What holds of
its parts is shown of all lists of tokens by induction on their lengths, as the parts go from one
list to shorter ones.
-/

namespace Statecraft.Guard

open Token (spelling)

/-- What may stand after a comparison, and the value it stands for. -/
inductive Operand : Spelling → Value → Prop
  | quoted (s : List Char) : Operand (.quoted, s) (.text (String.ofList (unquote s)))
  | word {s : List Char} {v : Value} : Value.ofWord s = .ok v → Operand (.word, s) v
  | field {s : List Char} {v : Value} : Value.ofWord s = .ok v → Operand (.field, s) v

/-- The condition on a field's text. -/
def leafOf (field : List Char) (operator : Operator) (value : Value) : Tree :=
  .leaf (.of (String.ofList field) operator value false)

/-- Terms joined by this logic; a single one counts as joined by `and`. -/
def Terms.joined (l : Logic) (items : List Tree) : Terms where
  logic := if items.length = 1 then .and else l
  items := items

theorem Terms.joined_single (l : Logic) (t : Tree) : joined l [t] = ⟨.and, [t]⟩ := rfl

theorem Terms.joined_several {items : List Tree} (h : items.length ≠ 1) (l : Logic) :
    joined l items = ⟨l, items⟩ := by
  rw [joined, if_neg h]

/-- Terms joined by one logic, and their trees. A single term is joined by any logic. -/
inductive Reads : Logic → List Spelling → List Tree → Prop
  | field (l : Logic) (f : List Char) : Reads l [(.field, f)] [leafOf f .exists .null]
  | missing (l : Logic) (n f : List Char) :
      Reads l [(.not, n), (.field, f)] [leafOf f .notExists .null]
  | compare (l : Logic) (f o : List Char) (op : Operator) {k : Spelling} {v : Value} :
      Operand k v → Reads l [(.field, f), (.compare op, o), k] [leafOf f op v]
  | parens (l : Logic) (o c : List Char) {l' : Logic} {ks : List Spelling} {items : List Tree} :
      Reads l' ks items →
      Reads l ((.opening, o) :: (ks ++ [(.closing, c)])) [(Terms.joined l' items).toTree]
  | negated (l : Logic) (n o c : List Char) {l' : Logic} {ks : List Spelling} {items : List Tree} :
      Reads l' ks items →
      Reads l ((.not, n) :: (.opening, o) :: (ks ++ [(.closing, c)]))
        [(Terms.joined l' items).negate]
  | join {l : Logic} {ks us : List Spelling} {t : Tree} {items : List Tree} (x : List Char) :
      Reads l ks [t] → Reads l us items → Reads l (ks ++ (.logic l, x) :: us) (t :: items)

namespace Reads

variable {l : Logic} {ks : List Spelling} {items : List Tree}

/-- Terms begin with a field, an exclamation mark or a parenthesis. -/
theorem starts (h : Reads l ks items) :
    ∃ k s r, ks = (k, s) :: r ∧ (k = .field ∨ k = .not ∨ k = .opening) := by
  induction h with
  | field => exact ⟨_, _, _, rfl, Or.inl rfl⟩
  | missing => exact ⟨_, _, _, rfl, Or.inr (Or.inl rfl)⟩
  | compare => exact ⟨_, _, _, rfl, Or.inl rfl⟩
  | parens => exact ⟨_, _, _, rfl, Or.inr (Or.inr rfl)⟩
  | negated => exact ⟨_, _, _, rfl, Or.inr (Or.inl rfl)⟩
  | join x _ _ ih _ =>
    obtain ⟨k, s, r, rfl, hk⟩ := ih
    exact ⟨k, s, _, rfl, hk⟩

theorem items_ne_nil (h : Reads l ks items) : items ≠ [] := by
  cases h <;> exact List.cons_ne_nil _ _

end Reads

/-- Nothing or a closing parenthesis, as after an expression. -/
def EndsExpression (ts : List Token) : Prop := ∀ t ∈ ts.head?, t.kind = .closing

/-- The end of an expression or a logic, as after a term. -/
def EndsTerm (ts : List Token) : Prop := ∀ t ∈ ts.head?, t.kind = .closing ∨ ∃ l, t.kind = .logic l

theorem EndsExpression.endsTerm {ts : List Token} (h : EndsExpression ts) : EndsTerm ts :=
  fun t ht => Or.inl (h t ht)

theorem endsTerm_logic {tok : Token} {l : Logic} (h : tok.kind = .logic l) (ts : List Token) :
    EndsTerm (tok :: ts) := by
  rintro _ ⟨⟩
  exact Or.inr ⟨l, h⟩

theorem operand_of_spelling {t : Token} {v : Value} (h : Operand t.spelling v) :
    Parse.isOperand t = true ∧ Parse.operand t = .ok v := by
  obtain ⟨kind, text, position⟩ := t
  cases h with
  | quoted => exact ⟨rfl, rfl⟩
  | word read => exact ⟨rfl, by simp only [Parse.operand, read]⟩
  | field read => exact ⟨rfl, by simp only [Parse.operand, read]⟩

namespace Parse.Result

variable {α β : Type} {m n : Nat}

/-- The result is this, and these tokens are left. -/
def Gives (r : Result α n) (a : α) (rest : List Token) : Prop := ∃ fewer, r = .ok (a, ⟨rest, fewer⟩)

variable {f : α → β} {le : m ≤ n} {r : Result α m} {rest : List Token}

theorem gives_map {b : β} : (r.map f le).Gives b rest ↔ ∃ a, r.Gives a rest ∧ f a = b := by
  constructor
  · rintro ⟨_, h⟩
    match r, h with
    | .ok (a, ⟨_, fewer⟩), h =>
      cases h
      exact ⟨a, ⟨fewer, rfl⟩, rfl⟩
  · rintro ⟨a, ⟨fewer, rfl⟩, rfl⟩
    exact ⟨Nat.lt_of_lt_of_le fewer le, rfl⟩

theorem Gives.map {a : α} (h : r.Gives a rest) (f : α → β) (le : m ≤ n) :
    (r.map f le).Gives (f a) rest :=
  gives_map.mpr ⟨a, h, rfl⟩

variable {k : Nat} {g : α → ∀ rest : List Token, rest.length < m → Result β k}

theorem gives_andThen {b : β} {rest' : List Token} : (r.andThen g).Gives b rest' ↔
    ∃ a rest fewer, r.Gives a rest ∧ (g a rest fewer).Gives b rest' := by
  constructor
  · intro h
    match r, h with
    | .error e, ⟨_, h⟩ => cases h
    | .ok (a, ⟨rest, fewer⟩), h => exact ⟨a, rest, fewer, ⟨fewer, rfl⟩, h⟩
  · rintro ⟨a, rest, _, ⟨fewer, rfl⟩, h⟩
    exact h

theorem andThen_eq_error {e : ReadError} : r.andThen g = .error e ↔
    r = .error e ∨ ∃ a rest fewer, r.Gives a rest ∧ g a rest fewer = .error e := by
  match r with
  | .error e' =>
    constructor
    · intro h
      cases h
      exact Or.inl rfl
    · rintro (h | ⟨_, _, _, ⟨_, h⟩, _⟩) <;> cases h
      rfl
  | .ok (a, ⟨rest, fewer⟩) =>
    constructor
    · intro h
      exact Or.inr ⟨a, rest, fewer, ⟨fewer, rfl⟩, h⟩
    · rintro (h | ⟨a, rest, _, ⟨_, first⟩, h⟩)
      · cases h
      · cases first
        exact h

theorem gives_ok {a b : α} {rest' : Rest m} :
    Gives (.ok (a, rest') : Result α m) b rest ↔ a = b ∧ rest'.1 = rest := by
  constructor
  · rintro ⟨_, h⟩
    cases h
    exact ⟨rfl, rfl⟩
  · rintro ⟨rfl, rfl⟩
    exact ⟨rest'.2, rfl⟩

theorem not_gives_error {e : ReadError} {a : α} : ¬ Gives (.error e : Result α m) a rest := by
  rintro ⟨_, ⟨⟩⟩

theorem not_gives_unexpected (what : String) (last : Nat) (ts : List Token) {a : α} :
    ¬ (unexpected what last ts : Result α m).Gives a rest := by
  cases ts <;> exact not_gives_error

theorem map_eq_error {e : ReadError} : r.map f le = .error e ↔ r = .error e := by
  cases r with
  | error e' => exact ⟨fun h => by cases h; rfl, fun h => by cases h; rfl⟩
  | ok a => constructor <;> nofun

end Parse.Result

theorem others_stop {rest : List Token} (stop : EndsExpression rest) (last : Nat)
    (l? : Option Logic) (done : List Tree) :
    (Parse.others last l? done rest).Gives ⟨l?.getD .and, done.reverse⟩ rest := by
  rw [Parse.others]
  · exact ⟨_, rfl⟩
  · rintro l text position r rfl
    cases stop _ rfl

/-- What the three parts of the parser make of tokens that spell these terms. -/
structure Parses (l : Logic) (ts : List Token) (items : List Tree) : Prop where
  term : ∀ t, items = [t] → ∀ (last : Nat) (rest : List Token), EndsTerm rest →
    (Parse.term last (ts ++ rest)).Gives t rest
  others : ∀ (last : Nat) (rest : List Token) (tok : Token) (l? : Option Logic)
    (done : List Tree), tok.kind = .logic l → l?.getD l = l → EndsExpression rest →
    (Parse.others last l? done (tok :: (ts ++ rest))).Gives ⟨l, done.reverse ++ items⟩ rest
  expression : ∀ (last : Nat) (rest : List Token), EndsExpression rest →
    (Parse.expression last (ts ++ rest)).Gives (.joined l items) rest

/-- The tokens begin with a field, an exclamation mark or a parenthesis. -/
def Begins (ts : List Token) : Prop :=
  ∃ k r, ts = k :: r ∧ (k.kind = .field ∨ k.kind = .not ∨ k.kind = .opening)

theorem Begins.append {ts : List Token} (h : Begins ts) (us : List Token) : Begins (ts ++ us) := by
  obtain ⟨k, r, rfl, first⟩ := h
  exact ⟨k, r ++ us, rfl, first⟩

/-- After a logic that may come here there is a term. -/
theorem others_logic {ts : List Token} {tok : Token} {l : Logic} {l? : Option Logic}
    (begins : Begins ts) (hl : tok.kind = .logic l) (same : l?.getD l = l) (last : Nat)
    (done : List Tree) :
    Parse.others last l? done (tok :: ts) =
      (Parse.term last ts).andThen fun item rest fewer =>
        (Parse.others last (some l) (item :: done) rest).map id
          (Nat.succ_le_succ (Nat.le_succ_of_le (Nat.le_of_lt fewer))) := by
  obtain ⟨kind, text, position⟩ := tok
  obtain rfl : kind = .logic l := hl
  obtain ⟨⟨kind, s, p⟩, r, rfl, starts⟩ := begins
  have agree : ¬ (l?.getD l != l) = true := by simp [same]
  rw [Parse.others.eq_def]
  dsimp only
  rw [if_neg agree]
  rcases starts with h | h | h <;> obtain rfl := h <;> rfl

/-- Before a token that closes nothing there is an expression. -/
theorem enclosed_begins {ts : List Token} (begins : Begins ts) (last : Nat) (o : Token) :
    Parse.enclosed last o ts = (Parse.expression last ts).andThen fun terms rest fewer =>
      (Parse.closed last o terms rest).map id (Nat.le_of_lt fewer) := by
  obtain ⟨⟨kind, s, p⟩, r, rfl, starts⟩ := begins
  rw [Parse.enclosed.eq_def]
  rcases starts with h | h | h <;> obtain rfl := h <;> rfl

theorem others_step {last : Nat} {ts rest rest' : List Token} {tok : Token} {l : Logic} {t : Tree}
    {l? : Option Logic} {done : List Tree} {terms : Terms} (begins : Begins ts)
    (hl : tok.kind = .logic l) (same : l?.getD l = l) (first : (Parse.term last ts).Gives t rest)
    (more : (Parse.others last (some l) (t :: done) rest).Gives terms rest') :
    (Parse.others last l? done (tok :: ts)).Gives terms rest' := by
  rw [others_logic begins hl same, Parse.Result.gives_andThen]
  exact ⟨t, rest, first.1, first, more.map id _⟩

theorem expression_step {last : Nat} {ts rest rest' : List Token} {t : Tree} {terms : Terms}
    (first : (Parse.term last ts).Gives t rest)
    (more : (Parse.others last none [t] rest).Gives terms rest') :
    (Parse.expression last ts).Gives terms rest' := by
  rw [Parse.expression, Parse.Result.gives_andThen]
  exact ⟨t, rest, first.1, first, more.map id _⟩

theorem Reads.begins {l : Logic} {ts : List Token} {items : List Tree}
    (h : Reads l (ts.map spelling) items) : Begins ts := by
  obtain ⟨k, s, r, spelled, first⟩ := h.starts
  obtain ⟨t, us, rfl, ht, _⟩ := List.map_eq_cons_iff.mp spelled
  exact ⟨t, us, rfl, by rw [show t.kind = k from congrArg Prod.fst ht]; exact first⟩

namespace Parses

variable {l : Logic} {ts us : List Token} {t : Tree} {items : List Tree}

/-- A single term. -/
theorem single (begins : Begins ts)
    (term : ∀ (last : Nat) (rest : List Token), EndsTerm rest →
      (Parse.term last (ts ++ rest)).Gives t rest) : Parses l ts [t] where
  term := by
    rintro _ ⟨⟩
    exact term
  others := by
    intro last rest tok l? done hl same stop
    have stopped := others_stop stop last (some l) (t :: done)
    rw [List.reverse_cons] at stopped
    exact others_step (begins.append rest) hl same (term last rest stop.endsTerm) stopped
  expression := by
    intro last rest stop
    exact expression_step (term last rest stop.endsTerm) (others_stop stop last none [t])

/-- A term, a logic and further terms. -/
theorem join {tok : Token} (begins : Begins ts) (first : Parses l ts [t]) (hl : tok.kind = .logic l)
    (rest_parses : Parses l us items) (some_item : items ≠ []) :
    Parses l (ts ++ tok :: us) (t :: items) where
  term := by
    intro u hu
    exact absurd (List.cons.inj hu).2 some_item
  others := by
    intro last rest tok' l? done hl' same stop
    have head := first.term t rfl last (tok :: (us ++ rest)) (endsTerm_logic hl _)
    have more := rest_parses.others last rest tok (some l) (t :: done) hl rfl stop
    rw [List.reverse_cons, List.append_assoc] at more
    rw [List.append_assoc]
    exact others_step (begins.append _) hl' same head more
  expression := by
    intro last rest stop
    have head := first.term t rfl last (tok :: (us ++ rest)) (endsTerm_logic hl _)
    have several : (t :: items).length ≠ 1 := by simpa using some_item
    rw [List.append_assoc, Terms.joined_several several]
    exact expression_step head (rest_parses.others last rest tok none [t] hl rfl stop)

/-- An expression between parentheses. -/
theorem enclosed {o c : Token} {l' : Logic} (inner : Parses l' ts items) (begins : Begins ts)
    (hc : c.kind = .closing) (last : Nat) (rest : List Token) :
    (Parse.enclosed last o (ts ++ c :: rest)).Gives (.joined l' items) rest := by
  obtain ⟨kind, text, position⟩ := c
  obtain rfl : kind = .closing := hc
  have stop : EndsExpression (⟨.closing, text, position⟩ :: rest) := by
    rintro _ ⟨⟩
    rfl
  have read := inner.expression last _ stop
  have closing : (Parse.closed last o (.joined l' items) (⟨.closing, text, position⟩ :: rest)).Gives
      (.joined l' items) rest := ⟨_, rfl⟩
  rw [enclosed_begins (begins.append _), Parse.Result.gives_andThen]
  exact ⟨_, _, read.1, read, closing.map id _⟩

end Parses

theorem map_spelling_cons {ts : List Token} {kind : Token.Kind} {s : List Char}
    {ks : List Spelling} (h : ts.map spelling = (kind, s) :: ks) :
    ∃ p us, ts = ⟨kind, s, p⟩ :: us ∧ us.map spelling = ks := by
  obtain ⟨⟨_, _, p⟩, us, rfl, same, rest⟩ := List.map_eq_cons_iff.mp h
  cases same
  exact ⟨p, us, rfl, rest⟩

theorem atom_field {f : List Char} {p : Nat} {rest : List Token} (stop : EndsTerm rest)
    (last : Nat) :
    (Parse.atom last (⟨.field, f, p⟩ :: rest)).Gives (leafOf f .exists .null) rest := by
  rw [Parse.atom]
  · exact ⟨_, rfl⟩
  · rintro op text position r rfl
    rcases stop _ rfl with h | ⟨l, h⟩ <;> cases h

/-- The parser reads every sentence of the grammar. -/
theorem Reads.parses {l : Logic} {ks : List Spelling} {items : List Tree} (h : Reads l ks items) :
    ∀ ts, ts.map spelling = ks → Parses l ts items := by
  induction h with
  | field l f =>
    intro ts spelled
    obtain ⟨p, us, rfl, none⟩ := map_spelling_cons spelled
    obtain rfl := List.map_eq_nil_iff.mp none
    refine .single ⟨_, _, rfl, Or.inl rfl⟩ fun last rest stop => ?_
    rw [List.singleton_append, Parse.term]
    · exact atom_field stop last
    all_goals simp
  | missing l n f =>
    intro ts spelled
    obtain ⟨p, us, rfl, spelled'⟩ := map_spelling_cons spelled
    obtain ⟨q, us, rfl, none⟩ := map_spelling_cons spelled'
    obtain rfl := List.map_eq_nil_iff.mp none
    refine .single ⟨_, _, rfl, Or.inr (Or.inl rfl)⟩ fun last rest stop => ?_
    rw [List.cons_append, List.singleton_append, Parse.term]
    exact ⟨_, rfl⟩
  | compare l f o op operand =>
    intro ts spelled
    obtain ⟨p, us, rfl, spelled'⟩ := map_spelling_cons spelled
    obtain ⟨q, us, rfl, spelled''⟩ := map_spelling_cons spelled'
    obtain ⟨tok, us, rfl, same, none⟩ := List.map_eq_cons_iff.mp spelled''
    obtain rfl := List.map_eq_nil_iff.mp none
    subst same
    obtain ⟨allowed, value⟩ := operand_of_spelling operand
    refine .single ⟨_, _, rfl, Or.inl rfl⟩ fun last rest stop => ?_
    rw [List.cons_append, List.cons_append, List.singleton_append, Parse.term]
    · rw [Parse.atom, if_pos allowed, value]
      exact ⟨_, rfl⟩
    all_goals simp
  | parens l o c inner ih =>
    intro ts spelled
    obtain ⟨p, us, rfl, spelled'⟩ := map_spelling_cons spelled
    obtain ⟨us, cs, rfl, inside, close⟩ := List.map_eq_append_iff.mp spelled'
    obtain ⟨q, us', rfl, none⟩ := map_spelling_cons close
    obtain rfl := List.map_eq_nil_iff.mp none
    refine .single ⟨_, _, rfl, Or.inr (Or.inr rfl)⟩ fun last rest stop => ?_
    subst inside
    have read := (ih us rfl).enclosed (o := ⟨.opening, o, p⟩) (c := ⟨.closing, c, q⟩)
      inner.begins rfl last rest
    rw [List.cons_append, List.append_assoc, List.singleton_append, Parse.term]
    exact read.map Terms.toTree _
  | negated l n o c inner ih =>
    intro ts spelled
    obtain ⟨r, us, rfl, spelled'⟩ := map_spelling_cons spelled
    obtain ⟨p, us, rfl, spelled''⟩ := map_spelling_cons spelled'
    obtain ⟨us, cs, rfl, inside, close⟩ := List.map_eq_append_iff.mp spelled''
    obtain ⟨q, us', rfl, none⟩ := map_spelling_cons close
    obtain rfl := List.map_eq_nil_iff.mp none
    refine .single ⟨_, _, rfl, Or.inr (Or.inl rfl)⟩ fun last rest stop => ?_
    subst inside
    have read := (ih us rfl).enclosed (o := ⟨.opening, o, p⟩) (c := ⟨.closing, c, q⟩)
      inner.begins rfl last rest
    rw [List.cons_append, List.cons_append, List.append_assoc, List.singleton_append, Parse.term]
    exact read.map Terms.negate _
  | join x first others ih_first ih_others =>
    intro ts spelled
    obtain ⟨us, r, rfl, left, spelled'⟩ := List.map_eq_append_iff.mp spelled
    obtain ⟨p, vs, rfl, right⟩ := map_spelling_cons spelled'
    subst left
    exact .join first.begins (ih_first us rfl) rfl (ih_others vs right) others.items_ne_nil

/-- **The parser reads every sentence of the grammar.** -/
theorem whole_of_reads {l : Logic} {ts : List Token} {items : List Tree}
    (h : Reads l (ts.map spelling) items) (last : Nat) :
    Parse.whole last ts = .ok (Terms.joined l items).toGroup := by
  have read := (h.parses ts rfl).expression last [] (by simp [EndsExpression])
  rw [List.append_nil] at read
  obtain ⟨_, read⟩ := read
  rw [Parse.whole, read]

section Soundness

open Parse.Result (gives_map gives_andThen gives_ok not_gives_error not_gives_unexpected)

variable {last : Nat} {ts rest : List Token} {t : Tree} {terms : Terms}

theorem operand_ok {t : Token} {v : Value} (allowed : Parse.isOperand t = true)
    (h : Parse.operand t = .ok v) : Operand t.spelling v := by
  obtain ⟨kind, text, position⟩ := t
  have unquoted : ∀ k, k ≠ .quoted → Parse.operand ⟨k, text, position⟩ = .ok v →
      Value.ofWord text = .ok v := by
    intro k hk h
    unfold Parse.operand at h
    split at h
    · rename_i same
      exact absurd same hk
    · split at h
      · rename_i read
        cases h
        exact read
      · cases h
  cases kind <;> simp only [Parse.isOperand, Bool.false_eq_true] at allowed
  case quoted =>
    cases h
    exact .quoted text
  case word => exact .word (unquoted _ (by decide) h)
  case field => exact .field (unquoted _ (by decide) h)

/-- The tokens of one term, joined by any logic. -/
def IsTerm (ts rest : List Token) (t : Tree) : Prop :=
  ∃ us, ts = us ++ rest ∧ ∀ l, Reads l (us.map spelling) [t]

/-- The tokens of these terms. -/
def IsTerms (us : List Token) (terms : Terms) : Prop :=
  ∃ l items, terms = .joined l items ∧ Reads l (us.map spelling) items

/-- The tokens of these terms and a closing parenthesis. -/
def IsEnclosed (ts rest : List Token) (terms : Terms) : Prop :=
  ∃ us c p, ts = us ++ ⟨.closing, c, p⟩ :: rest ∧ IsTerms us terms

/-- What may follow terms that are done: nothing more, or a logic and further terms. -/
inductive IsOthers (l? : Option Logic) (done : List Tree) :
    List Token → List Token → Terms → Prop
  | stop (ts : List Token) : IsOthers l? done ts ts ⟨l?.getD .and, done.reverse⟩
  | more (x : List Char) (p : Nat) {l : Logic} {us rest : List Token} {items : List Tree} :
      l?.getD l = l → Reads l (us.map spelling) items →
      IsOthers l? done (⟨.logic l, x, p⟩ :: (us ++ rest)) rest ⟨l, done.reverse ++ items⟩

theorem isTerm_of_atom (h : (Parse.atom last ts).Gives t rest) : IsTerm ts rest t := by
  unfold Parse.atom at h
  split at h
  · rename_i f p op o q _
    split at h
    · exact absurd h not_gives_error
    · rename_i tok r
      split at h
      · rename_i allowed
        obtain ⟨_, h⟩ := h
        obtain ⟨v, value, pair⟩ := exists_of_map h
        cases pair
        exact ⟨[⟨.field, f, p⟩, ⟨.compare op, o, q⟩, tok], rfl,
          fun l => .compare l f o op (operand_ok allowed value)⟩
      · exact absurd h not_gives_error
  · rename_i f p r _
    obtain ⟨rfl, rfl⟩ := gives_ok.mp h
    exact ⟨[⟨.field, f, p⟩], rfl, fun l => .field l f⟩
  · exact absurd h (not_gives_unexpected _ _ _)

/-- What the parser's parts make of these tokens are sentences of the grammar. -/
structure ParsesSoundly (last : Nat) (ts : List Token) : Prop where
  term : ∀ t rest, (Parse.term last ts).Gives t rest → IsTerm ts rest t
  enclosed : ∀ o terms rest, (Parse.enclosed last o ts).Gives terms rest → IsEnclosed ts rest terms
  expression : ∀ terms rest, (Parse.expression last ts).Gives terms rest →
    ∃ us, ts = us ++ rest ∧ IsTerms us terms
  others : ∀ l? done terms rest, (Parse.others last l? done ts).Gives terms rest →
    IsOthers l? done ts rest terms

namespace ParsesSoundly

theorem term_step (ih : ∀ us, us.length < ts.length → ParsesSoundly last us)
    (h : (Parse.term last ts).Gives t rest) : IsTerm ts rest t := by
  rw [Parse.term.eq_def] at h
  split at h
  · exact absurd h not_gives_error
  · rename_i n p r
    split at h
    · rename_i o q r
      obtain ⟨terms, inner, rfl⟩ := gives_map.mp h
      obtain ⟨us, c, k, rfl, l', items, rfl, reads⟩ := (ih r (by simp)).enclosed _ _ _ inner
      refine ⟨⟨.not, n, p⟩ :: ⟨.opening, o, q⟩ :: (us ++ [⟨.closing, c, k⟩]), by simp, fun l => ?_⟩
      simpa [spelling] using Reads.negated l n o c reads
    · rename_i f q r
      obtain ⟨rfl, rfl⟩ := gives_ok.mp h
      exact ⟨[⟨.not, n, p⟩, ⟨.field, f, q⟩], rfl, fun l => .missing l n f⟩
    · exact absurd h (not_gives_unexpected _ _ _)
  · rename_i o q r
    obtain ⟨terms, inner, rfl⟩ := gives_map.mp h
    obtain ⟨us, c, k, rfl, l', items, rfl, reads⟩ := (ih r (by simp)).enclosed _ _ _ inner
    refine ⟨⟨.opening, o, q⟩ :: (us ++ [⟨.closing, c, k⟩]), by simp, fun l => ?_⟩
    simpa [spelling] using Reads.parens l o c reads
  · exact isTerm_of_atom h

theorem closed_step {o : Token} {terms' : Terms}
    (h : (Parse.closed last o terms ts).Gives terms' rest) :
    terms = terms' ∧ ∃ c p, ts = ⟨.closing, c, p⟩ :: rest := by
  unfold Parse.closed at h
  split at h
  · exact absurd h not_gives_error
  · obtain ⟨rfl, rfl⟩ := gives_ok.mp h
    exact ⟨rfl, _, _, rfl⟩
  · exact absurd h (not_gives_unexpected _ _ _)

theorem enclosed_step (inside : ∀ terms rest, (Parse.expression last ts).Gives terms rest →
      ∃ us, ts = us ++ rest ∧ IsTerms us terms) {o : Token}
    (h : (Parse.enclosed last o ts).Gives terms rest) : IsEnclosed ts rest terms := by
  rw [Parse.enclosed.eq_def] at h
  split at h
  · exact absurd h not_gives_error
  · obtain ⟨terms, left, _, inner, h⟩ := gives_andThen.mp h
    obtain ⟨_, closed, rfl⟩ := gives_map.mp h
    obtain ⟨rfl, c, p, rfl⟩ := closed_step closed
    obtain ⟨us, rfl, sentence⟩ := inside _ _ inner
    exact ⟨us, c, p, rfl, sentence⟩

theorem expression_step (ih : ∀ us, us.length < ts.length → ParsesSoundly last us)
    (term : ∀ t rest, (Parse.term last ts).Gives t rest → IsTerm ts rest t)
    (h : (Parse.expression last ts).Gives terms rest) :
    ∃ us, ts = us ++ rest ∧ IsTerms us terms := by
  rw [Parse.expression] at h
  obtain ⟨t, rest', fewer, first, h⟩ := gives_andThen.mp h
  obtain ⟨_, more, rfl⟩ := gives_map.mp h
  have others := (ih rest' fewer).others _ _ _ _ more
  obtain ⟨us, rfl, reads⟩ := term _ _ first
  cases others with
  | stop => exact ⟨us, rfl, .and, [t], rfl, reads _⟩
  | @more x p l vs _ items _ others =>
    have several : (t :: items).length ≠ 1 := by simpa using others.items_ne_nil
    refine ⟨us ++ ⟨.logic l, x, p⟩ :: vs, by simp, l, t :: items, ?_, ?_⟩
    · rw [Terms.joined_several several]
      rfl
    · rw [List.map_append, List.map_cons]
      exact .join x (reads _) others

theorem others_step (ih : ∀ us, us.length < ts.length → ParsesSoundly last us)
    {l? : Option Logic} {done : List Tree}
    (h : (Parse.others last l? done ts).Gives terms rest) : IsOthers l? done ts rest terms := by
  rw [Parse.others.eq_def] at h
  split at h
  · rename_i l x p r
    split at h
    · exact absurd h not_gives_error
    · rename_i agree
      have same : l?.getD l = l := by simpa using agree
      split at h
      · exact absurd h not_gives_error
      · exact absurd h not_gives_error
      · exact absurd h not_gives_error
      · obtain ⟨t, rest', fewer, first, h⟩ := gives_andThen.mp h
        obtain ⟨_, more, rfl⟩ := gives_map.mp h
        have others := (ih rest' (by simp; omega)).others _ _ _ _ more
        obtain ⟨us, rfl, reads⟩ := (ih r (by simp)).term _ _ first
        cases others with
        | stop =>
          rw [List.reverse_cons]
          exact .more x p same (reads l)
        | @more y q l' vs _ items joined others =>
          obtain rfl : l = l' := joined
          have longer : Reads l ((us ++ ⟨.logic l, y, q⟩ :: vs).map spelling) (t :: items) := by
            rw [List.map_append, List.map_cons]
            exact .join y (reads _) others
          have whole : IsOthers l? done _ rest _ := .more x p same longer
          simpa using whole
  · obtain ⟨rfl, rfl⟩ := gives_ok.mp h
    exact .stop _

theorem all (last : Nat) (ts : List Token) : ParsesSoundly last ts := by
  induction ts using (measure List.length).wf.induction with
  | _ ts ih =>
    have term : ∀ t rest, (Parse.term last ts).Gives t rest → IsTerm ts rest t :=
      fun _ _ => term_step ih
    have expression : ∀ terms rest, (Parse.expression last ts).Gives terms rest →
        ∃ us, ts = us ++ rest ∧ IsTerms us terms := fun _ _ => expression_step ih term
    exact ⟨term, fun _ _ _ => enclosed_step expression, expression, fun _ _ _ _ => others_step ih⟩

end ParsesSoundly

/-- **What the parser reads is a sentence of the grammar.** -/
theorem reads_of_whole {g : Group} (h : Parse.whole last ts = .ok g) :
    ∃ l items, g = (Terms.joined l items).toGroup ∧ Reads l (ts.map spelling) items := by
  unfold Parse.whole at h
  split at h
  · cases h
  · rename_i terms rest fewer read
    obtain ⟨us, rfl, l, items, rfl, sentence⟩ := (ParsesSoundly.all _ _).expression _ _ ⟨fewer, read⟩
    split at h
    · cases h
      rw [List.append_nil]
      exact ⟨l, items, rfl, sentence⟩
    · cases h

end Soundness

namespace Group

variable {s : String}

theorem ofText_of_blank (h : Text.isBlankText s = true) :
    ofText s = .error (.failure ⟨.blank, 0⟩) :=
  if_pos h

/-- A text that is read has tokens, and the parser takes them all. -/
theorem ofText_ok {g : Group} (h : ofText s = .ok g) :
    ∃ ts, Token.scan 0 s.toList = .ok ts ∧ Parse.whole s.toList.length ts = .ok g := by
  unfold ofText at h
  dsimp only at h
  split at h
  · cases h
  · split at h
    · cases h
    · rename_i ts scanned
      exact ⟨ts, scanned, h⟩

/-- A text that is no guard is blank, has no tokens, or the parser does not take them. -/
theorem ofText_error {e : ReadError} (h : ofText s = .error e) :
    (Text.isBlankText s = true ∧ e = .failure ⟨.blank, 0⟩) ∨
      (∃ f, Token.scan 0 s.toList = .error f ∧ e = .failure f) ∨
      ∃ ts, Token.scan 0 s.toList = .ok ts ∧ Parse.whole s.toList.length ts = .error e := by
  unfold ofText at h
  dsimp only at h
  split at h
  · rename_i blank
    cases h
    exact Or.inl ⟨blank, rfl⟩
  · split at h
    · rename_i f failed
      cases h
      exact Or.inr (Or.inl ⟨f, failed, rfl⟩)
    · rename_i ts scanned
      exact Or.inr (Or.inr ⟨ts, scanned, h⟩)

end Group

end Statecraft.Guard
