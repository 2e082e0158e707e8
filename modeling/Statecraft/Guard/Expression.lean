import Statecraft.Guard.Literal
import Statecraft.Guard.Token

/-!
# Guard texts as trees

The grammar, over tokens:

* an expression is terms joined by one logic throughout;
* a term is an expression in parentheses, a negated one, a negated field, a
  field alone, or a field compared with a value.

`Group.ofText` reads a text by this grammar. Parentheses around a single term
add no group, and a text that is one group is that group.
-/

namespace Statecraft.Guard

/-- Why a text has no tree: it is outside the grammar, or it has an integer that
cannot be read. -/
inductive ReadError where
  | failure (failure : Failure)
  | limit (limit : Decimal.LimitError)
  deriving DecidableEq, Repr

/-- The terms of an expression and the logic that joins them. -/
structure Terms where
  logic : Logic
  items : List Tree

/-- Terms as one node: a single one as it is. -/
def Terms.toTree (t : Terms) : Tree :=
  match t.items with
  | [item] => item
  | items => .group t.logic items false

/-- Terms under a negation: a single one that is not negated yet is, all else
becomes a negated group. -/
def Terms.negate (t : Terms) : Tree :=
  match t.items with
  | [item] => if item.negated then .group t.logic [item] true else item.setNegated
  | items => .group t.logic items true

/-- Terms as a guard's root. -/
def Terms.toGroup (t : Terms) : Group :=
  match t.items with
  | [.group l items n] => ⟨l, items, n⟩
  | items => ⟨t.logic, items, false⟩

namespace Parse

/-- Tokens that are left, fewer than `n`. -/
abbrev Rest (n : Nat) := { ts : List Token // ts.length < n }

/-- A result and the tokens after it, fewer than `n`. -/
abbrev Result (α : Type) (n : Nat) := Except ReadError (α × Rest n)

/-- Another result from the same tokens, seen as part of more of them. -/
def Result.map {α β : Type} {m n : Nat} (f : α → β) (le : m ≤ n) : Result α m → Result β n
  | .error e => .error e
  | .ok (a, ⟨rest, fewer⟩) => .ok (f a, ⟨rest, Nat.lt_of_lt_of_le fewer le⟩)

/-- A second part after a first one, from the tokens that this leaves. -/
def Result.andThen {α β : Type} {m n : Nat} (r : Result α m)
    (f : α → ∀ rest : List Token, rest.length < m → Result β n) : Result β n :=
  match r with
  | .error e => .error e
  | .ok (a, ⟨rest, fewer⟩) => f a rest fewer

def fail {α : Type} {n : Nat} (fault : Fault) (position : Nat) : Result α n :=
  .error (.failure ⟨fault, position⟩)

/-- The first token is not what it has to be; `last` is the text's end. -/
def unexpected {α : Type} {n : Nat} (what : String) (last : Nat) (ts : List Token) : Result α n :=
  match ts with
  | [] => fail (.expected what none) last
  | t :: _ => fail (.expected what (some t.text)) t.position

/-- A condition on a field's text. -/
def condition (field : Token) (operator : Operator) (value : Value) : Tree :=
  .leaf (Condition.of (String.ofList field.text) operator value false)

/-- The value of a token after a comparison. -/
def operand (t : Token) : Except ReadError Value :=
  match t.kind with
  | .quoted => .ok (.text (String.ofList (unquote t.text)))
  | _ =>
    match Value.ofWord t.text with
    | .ok v => .ok v
    | .error e => .error (.limit e)

/-- A token that may stand after a comparison. -/
def isOperand (t : Token) : Bool :=
  match t.kind with
  | .quoted | .word | .field => true
  | _ => false

/-- A field, alone or compared. -/
def atom (last : Nat) (ts : List Token) : Result Tree ts.length :=
  match ts with
  | ⟨.field, text, p⟩ :: ⟨.compare op, _, _⟩ :: rest =>
    match rest with
    | [] => fail (.missingValue op) last
    | t :: rest =>
      if isOperand t then
        (operand t).map fun v =>
          (condition ⟨.field, text, p⟩ op v, ⟨rest, by simp only [List.length_cons]; omega⟩)
      else fail (.missingValue op) t.position
  | ⟨.field, text, p⟩ :: rest =>
    .ok (condition ⟨.field, text, p⟩ .exists .null, ⟨rest, Nat.lt_succ_self _⟩)
  | ts => unexpected "'ctx.<field>'" last ts

/-- Terms with their closing parenthesis, which comes next. -/
def closed (last : Nat) (opening : Token) (terms : Terms) (ts : List Token) :
    Result Terms ts.length :=
  match ts with
  | [] => fail .unmatchedOpening opening.position
  | ⟨.closing, _, _⟩ :: rest => .ok (terms, ⟨rest, Nat.lt_succ_self _⟩)
  | ts => unexpected "')'" last ts

mutual

/-- Terms joined by one logic. -/
def expression (last : Nat) (ts : List Token) : Result Terms ts.length :=
  (term last ts).andThen fun item rest fewer => (others last none [item] rest).map id fewer
termination_by 3 * ts.length + 1

/-- The terms after the first; `done` holds those before in reverse, `logic?` the
logic that joined them. There may be none. -/
def others (last : Nat) (logic? : Option Logic) (done : List Tree) (ts : List Token) :
    Result Terms (ts.length + 1) :=
  match ts with
  | ⟨.logic l, text, position⟩ :: rest =>
    if logic?.getD l != l then fail .mixedLogic position
    else
      match rest with
      | [] => fail (.missingOperand text) last
      | ⟨.logic _, _, p⟩ :: _ => fail (.missingOperand text) p
      | ⟨.closing, _, p⟩ :: _ => fail (.missingOperand text) p
      | rest =>
        (term last rest).andThen fun item rest' fewer =>
          (others last (some l) (item :: done) rest').map id (by simp only [List.length_cons]; omega)
  | ts => .ok (⟨logic?.getD .and, done.reverse⟩, ⟨ts, Nat.lt_succ_self _⟩)
termination_by 3 * ts.length

/-- An expression between parentheses, after the opening one. -/
def enclosed (last : Nat) (opening : Token) (ts : List Token) : Result Terms ts.length :=
  match ts with
  | ⟨.closing, _, _⟩ :: _ => fail .emptyParentheses opening.position
  | ts =>
    (expression last ts).andThen fun terms rest fewer =>
      (closed last opening terms rest).map id (Nat.le_of_lt fewer)
termination_by 3 * ts.length + 2

def term (last : Nat) (ts : List Token) : Result Tree ts.length :=
  match ts with
  | [] => fail .expectedCondition last
  | ⟨.not, _, _⟩ :: rest =>
    match rest with
    | ⟨.opening, text, p⟩ :: rest =>
      (enclosed last ⟨.opening, text, p⟩ rest).map Terms.negate (Nat.le_add_right _ 2)
    | ⟨.field, text, p⟩ :: rest =>
      .ok (condition ⟨.field, text, p⟩ .notExists .null,
        ⟨rest, by simp only [List.length_cons]; omega⟩)
    | rest => unexpected "'ctx.<field>' or '(' after '!'" last rest
  | ⟨.opening, text, p⟩ :: rest =>
    (enclosed last ⟨.opening, text, p⟩ rest).map Terms.toTree (Nat.le_succ _)
  | ts => atom last ts
termination_by 3 * ts.length

end

/-- The tree of all tokens. -/
def whole (last : Nat) (ts : List Token) : Except ReadError Group :=
  match expression last ts with
  | .error e => .error e
  | .ok (terms, ⟨rest, _⟩) =>
    match rest with
    | [] => .ok terms.toGroup
    | t :: _ =>
      .error (.failure ⟨if t.kind == .closing then .unmatchedClosing else .unexpectedToken t.text,
        t.position⟩)

end Parse

/-- The guard that a text writes. A blank text is none. -/
def Group.ofText (text : String) : Except ReadError Group :=
  let s := text.toList
  if s.all Text.isBlank then .error (.failure ⟨.blank, 0⟩)
  else
    match Token.scan 0 s with
    | .error f => .error (.failure f)
    | .ok ts => Parse.whole s.length ts

end Statecraft.Guard
