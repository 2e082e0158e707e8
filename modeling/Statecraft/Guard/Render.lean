import Statecraft.Guard.Literal

/-!
# Trees as guard texts

Draft rows and groups without any complete condition are left out, so that a
half-built tree still has a text. A nested group of several items stands in
parentheses, a negated one behind an exclamation mark.
-/

namespace Statecraft.Guard

/-- An expression under a negation. -/
def negation (s : List Char) : List Char := '!' :: '(' :: s ++ [')']

namespace Condition

/-- The condition's text without its negation. -/
def bare (c : Condition) : List Char :=
  let field := contextDot.toList ++ c.field.toList
  match c.operator with
  | .exists => field
  | .notExists => '!' :: field
  | op => field ++ ' ' :: op.name.toList ++ ' ' :: c.value.render

def render (c : Condition) : List Char := if c.negated then negation c.bare else c.bare

end Condition

/-- A group's text from its items' texts, of which the empty ones do not count. -/
def renderParts (nested : Bool) (logic : Logic) (negated : Bool) (parts : List (List Char)) :
    List Char :=
  let parts := parts.filter (!·.isEmpty)
  let text := List.intercalate logic.joiner.toList parts
  if parts.isEmpty then []
  else if negated then negation text
  else if nested && 1 < parts.length then '(' :: text ++ [')']
  else text

namespace Tree

mutual

def render : Tree → List Char
  | .leaf c => if c.isBlank then [] else c.render
  | .group l items n => renderParts true l n (renderList items)

def renderList : List Tree → List (List Char)
  | [] => []
  | t :: r => t.render :: renderList r

end

end Tree

/-- A guard's text, empty if no condition is complete. -/
def Group.render (g : Group) : List Char :=
  renderParts false g.logic g.negated (Tree.renderList g.items)

/-- A condition's text, if its value can be written. -/
def Condition.text (c : Condition) : Except Decimal.LimitError String :=
  if c.value.isWritable then .ok (String.ofList c.render) else .error .writing

/-- A guard's text, if the values of its complete conditions can be written. -/
def Group.text (g : Group) : Except Decimal.LimitError String :=
  if (g.conditions.filter (!·.isBlank)).all (·.value.isWritable) then
    .ok (String.ofList g.render)
  else .error .writing

end Statecraft.Guard
