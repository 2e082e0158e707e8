/-!
# Words that are near each other

How much two words have in common: their longest common run of characters, and what
is in common in front of it and behind it. The nearest of several words are those that
have at least three fifths of their characters in common with a given one.
-/

namespace Statecraft.Text

/-- The number of characters that two texts have in common at their beginning. -/
def commonStart : List Char → List Char → Nat
  | a :: r, b :: s => if a == b then commonStart r s + 1 else 0
  | _, _ => 0

/-- A run of characters that two texts have in common: where it starts in each, and its length. -/
structure CommonRun where
  left : Nat
  right : Nat
  length : Nat
  deriving DecidableEq, Repr

/-- The longest common run; of several the one that starts first on the left, then on the
right. -/
def longestRun (a b : List Char) : CommonRun :=
  let starts := (List.range a.length).flatMap fun i => (List.range b.length).map fun j => (i, j)
  starts.foldl (fun best (i, j) =>
    let length := commonStart (a.drop i) (b.drop j)
    if best.length < length then ⟨i, j, length⟩ else best) ⟨0, 0, 0⟩

/-- The number of characters that two texts have in common, each part of them at most once. -/
def sharedLength : Nat → List Char → List Char → Nat
  | 0, _, _ => 0
  | fuel + 1, a, b =>
    let run := longestRun a b
    if run.length == 0 then 0
    else
      sharedLength fuel (a.take run.left) (b.take run.right) + run.length
        + sharedLength fuel (a.drop (run.left + run.length)) (b.drop (run.right + run.length))

/-- A word with the number of characters that it shares with another one, and that of both. -/
structure Likeness where
  word : String
  shared : Nat
  whole : Nat
  deriving DecidableEq, Repr

namespace Likeness

def of (given word : String) : Likeness :=
  ⟨word, sharedLength (word.length + 1) word.toList given.toList, word.length + given.length⟩

/-- At least three fifths of the characters are shared. -/
def isNear (l : Likeness) : Bool := 3 * l.whole ≤ 2 * 5 * l.shared

/-- The first shares more than the second one, or as much and comes later by its letters. -/
def isBefore (a b : Likeness) : Bool :=
  let x := a.shared * b.whole
  let y := b.shared * a.whole
  y < x || (x == y && b.word ≤ a.word)

end Likeness

/-- At most this many near words count. -/
def nearLimit : Nat := 3

/-- The words nearest to a given one, by their letters. -/
def nearest (given : String) (words : List String) : List String :=
  let near := (words.map (Likeness.of given)).filter Likeness.isNear
  let first := (near.mergeSort Likeness.isBefore).take nearLimit
  (first.map Likeness.word).mergeSort fun a b => a ≤ b

end Statecraft.Text
