import Statecraft.Literal.Node
import Std.Data.HashMap

/-!
# Grammars with ordered choice

A grammar names patterns of tokens by rules. Of several ways to read tokens the first
one that fits is taken. What some rules read at a token is kept, and not read again.
Some ways only serve to tell what is wrong: they are tried once reading has failed, and
give a message instead of a reading.
-/

namespace Statecraft.Literal

/-- What a message points at: a token, the last character of one, or nothing. -/
inductive Pointer where
  | token (t : Token)
  | lastOf (t : Token)
  | nothing
  deriving DecidableEq, Repr

/-- Why a text is no expression: there is a message, or it got lost because it points in front of
the text. -/
inductive Trouble where
  | message (text : String)
  | lost
  deriving DecidableEq, Repr

/-- Why reading stops at once: a fault among the tokens, a message about them, or trouble inside
of one of them. -/
inductive Halt where
  | fault (fault : Fault)
  | message (text : String) (pointer : Pointer)
  | inside (trouble : Trouble)
  deriving DecidableEq, Repr

/-- What is made of the nodes that a pattern has read: nodes, nothing, or the end of reading.
Messages point at what has been read, at the last character of that, or at the last token that
was looked at. -/
inductive Built where
  | nodes (ns : List Node)
  | nothing
  | message (text : String)
  | messageBehind (text : String)
  | messageAtLast (text : String)
  | halt (reason : Halt)

/-- Patterns of tokens, with rules named by `ρ`. -/
inductive Peg (ρ : Type) where
  /-- A token of a kind, kept as the nodes that are made of it. -/
  | token (kind : Token.Kind) (node : Token → Built)
  /-- A keyword or mark that is written so. -/
  | word (text : String)
  | rule (name : ρ)
  | chain (parts : List (Peg ρ))
  | choice (ways : List (Peg ρ))
  | many (part : Peg ρ)
  | ahead (part : Peg ρ)
  | notAhead (part : Peg ρ)
  /-- What is read is made into something; `Nat` is the number of brackets that are open behind
  its last token. -/
  | make (part : Peg ρ) (build : Nat → List Node → Built)
  /-- The span of the part is told in front of what is read. -/
  | mark (part : Peg ρ)
  /-- A way that only serves to tell what is wrong. -/
  | tell (part : Peg ρ)
  /-- Nothing in the part tells what is wrong. -/
  | quiet (part : Peg ρ)

namespace Peg

def opt (p : Peg ρ) : Peg ρ := .choice [p, .chain []]

def repeated (p : Peg ρ) : Peg ρ := .chain [p, .many p]

/-- Parts with a separator between them. -/
def separated (separator p : Peg ρ) : Peg ρ := .chain [p, .many (.chain [separator, p])]

end Peg

/-- A grammar: its rules, their numbers, and those whose readings are kept. -/
structure Grammar (ρ : Type) where
  rule : ρ → Peg ρ
  number : ρ → Nat
  isKept : ρ → Bool

/-- A reading: what it gives, and the number of the next token. -/
inductive Reading where
  | read (ns : List Node) (next : Nat)
  | failed
  /-- Nothing, and no other way is tried. -/
  | barred

/-- Readings that are kept by rule and token, and the number of tokens that were looked at. -/
structure Progress where
  kept : Std.HashMap (Nat × Nat) Reading
  seen : Nat

abbrev Attempt (α : Type) := ExceptT Halt (StateM Progress) α

/-- The tokens that are read, and the fault behind them. -/
structure Source where
  tokens : Array Token
  fault : Option Fault

/-- The token of a number; a fault if there is none. -/
def Source.look (s : Source) (i : Nat) : Attempt (Option Token) := do
  match s.tokens[i]?, s.fault with
  | some t, _ => do
    modify fun p => { p with seen := max p.seen (i + 1) }
    return some t
  | none, some fault => do
    modify fun p => { p with seen := max p.seen (i + 1) }
    throw (.fault fault)
  | none, none => return none

/-- What points at a token, if there is one. -/
def pointing (kind : Token → Pointer) (t : Option Token) : Pointer := (t.map kind).getD .nothing

/-- Some tokens are in round brackets that belong together. -/
def Source.isBracketed (s : Source) (start next : Nat) : Bool :=
  match s.tokens[start]?, s.tokens[next - 1]? with
  | some opening, some closing =>
    opening.lexeme == ['('] && closing.lexeme == [')'] && closing.level < opening.level
      && ((s.tokens.toList.take (next - 1)).drop start).all fun t => opening.level ≤ t.level
  | _, _ => false

/-- The first and the last token of an expression, without the brackets around it that are not its
own. -/
def Source.span (s : Source) (isOwn : Bool) : Nat → Nat → Nat → Option (Token × Token)
  | 0, start, next => do return (← s.tokens[start]?, ← s.tokens[next - 1]?)
  | fuel + 1, start, next =>
    if s.isBracketed start next && (!isOwn || s.isBracketed (start + 1) (next - 1)) then
      s.span isOwn fuel (start + 1) (next - 1)
    else do return (← s.tokens[start]?, ← s.tokens[next - 1]?)

/-- A reading made into something, where it has a span. -/
def Source.settle (s : Source) (span : Option (Token × Token)) (next : Nat) (b : Built) :
    Attempt Reading :=
  match b with
  | .nodes ns => return .read ns next
  | .nothing => return .barred
  | .message text => throw (.message text (pointing .token (span.map (·.1))))
  | .messageBehind text => throw (.message text (pointing .lastOf (span.map (·.2))))
  | .messageAtLast text => do
    throw (.message text (pointing .token s.tokens[(← get).seen - 1]?))
  | .halt reason => throw reason

/-- Reads a pattern from a token on. `telling` says that faults are told. -/
def Grammar.read (g : Grammar ρ) (s : Source) : Nat → Bool → Peg ρ → Nat → Attempt Reading
  | 0, _, _, _ => return .failed
  | fuel + 1, telling, p, i => do
    match p with
    | .token kind node =>
      match ← s.look i with
      | some t => if t.kind == kind then s.settle (some (t, t)) (i + 1) (node t) else return .failed
      | none => return .failed
    | .word text =>
      match ← s.look i with
      | some t =>
        let fits := (t.kind == .keyword || t.kind == .mark) && t.lexeme == text.toList
        return if fits then .read [] (i + 1) else .failed
      | none => return .failed
    | .rule name =>
      let key := (g.number name, i)
      let progress ← get
      match if g.isKept name then progress.kept[key]? else none with
      | some reading => return reading
      | none => do
        let reading ← match ← g.read s fuel telling (g.rule name) i with
          | .barred => pure .failed
          | reading => pure reading
        if g.isKept name then modify fun p => { p with kept := p.kept.insert key reading }
        return reading
    | .chain parts =>
      parts.foldlM (fun (done : Reading) part => do
        match done with
        | .read ns next =>
          match ← g.read s fuel telling part next with
          | .read ms next => return .read (ns ++ ms) next
          | other => return other
        | other => return other) (.read [] i)
    | .choice ways =>
      ways.foldlM (fun (done : Reading) way => do
        match done with
        | .failed => g.read s fuel telling way i
        | other => return other) .failed
    | .many part =>
      match ← g.read s fuel telling part i with
      | .read ns next =>
        if next ≤ i then return .read ns next
        else
          match ← g.read s fuel telling (.many part) next with
          | .read ms last => return .read (ns ++ ms) last
          | other => return other
      | _ => return .read [] i
    | .ahead part =>
      match ← g.read s fuel telling part i with
      | .read .. => return .read [] i
      | _ => return .failed
    | .notAhead part =>
      match ← g.read s fuel telling part i with
      | .read .. => return .failed
      | _ => return .read [] i
    | .make part build =>
      match ← g.read s fuel telling part i with
      | .read ns next =>
        let level := ((s.tokens[next - 1]?).map Token.level).getD 0
        let span := do return (← s.tokens[i]?, ← s.tokens[next - 1]?)
        s.settle (ns.findSome? Node.span? <|> span) next (build level ns)
      | other => return other
    | .mark part =>
      match ← g.read s fuel telling part i with
      | .read ns next =>
        let span := s.span ((Node.first? ns).any Node.hasBrackets) (next - i) i next
        return .read ((span.map fun t => Node.span t.1 t.2).toList ++ ns) next
      | other => return other
    | .tell part => if telling then g.read s fuel telling part i else return .failed
    | .quiet part => g.read s fuel false part i

end Statecraft.Literal
