import Statecraft.Document.Basic

/-!
# Shared values

Which values occur at several places of a document, and which are parts of themselves.
-/

namespace Statecraft.Document

mutual

/-- The labels of the wrappers from left to right; what is below a label that has
occurred already is passed over. -/
def labels (seen : List Nat) : Document → List Nat
  | .shared l d => if seen.contains l then l :: seen else labels (l :: seen) d
  | .set ms => labelsList seen ms
  | .list items => labelsList seen items
  | .map entries => labelsEntries seen entries
  | _ => seen

def labelsList (seen : List Nat) : List Document → List Nat
  | [] => seen
  | d :: r => labelsList (labels seen d) r

def labelsEntries (seen : List Nat) : Entries → List Nat
  | [] => seen
  | (k, v) :: r => labelsEntries (labels (labels seen k) v) r

end

/-- The labels that occur more than once, in the order of their second occurrence. -/
def repeatedLabels (d : Document) : List Nat :=
  (go [] (labels [] d).reverse).eraseDups
where
  go (seen : List Nat) : List Nat → List Nat
    | [] => []
    | l :: r => if seen.contains l then l :: go seen r else go (l :: seen) r

mutual

/-- The document with the wrappers of the given labels only. -/
def keepShared (kept : List Nat) : Document → Document
  | .shared l d => if kept.contains l then .shared l (d.keepShared kept) else d.keepShared kept
  | .set ms => .set (keepSharedList kept ms)
  | .list items => .list (keepSharedList kept items)
  | .map entries => .map (keepSharedEntries kept entries)
  | d => d

def keepSharedList (kept : List Nat) : List Document → List Document
  | [] => []
  | d :: r => d.keepShared kept :: keepSharedList kept r

def keepSharedEntries (kept : List Nat) : Entries → Entries
  | [] => []
  | (k, v) :: r => (k.keepShared kept, v.keepShared kept) :: keepSharedEntries kept r

end

mutual

/-- Some value is a part of itself; `within` are the labels around the document. -/
def isCircular (within : List Nat) : Document → Bool
  | .shared l d => within.contains l || isCircular (l :: within) d
  | .set ms => isCircularList within ms
  | .list items => isCircularList within items
  | .map entries => isCircularEntries within entries
  | _ => false

def isCircularList (within : List Nat) : List Document → Bool
  | [] => false
  | d :: r => isCircular within d || isCircularList within r

def isCircularEntries (within : List Nat) : Entries → Bool
  | [] => false
  | (k, v) :: r => isCircular within k || isCircular within v || isCircularEntries within r

end

/-- The document with wrappers only around what occurs more than once. Where values are parts of
themselves all wrappers stay, as a part of them may become a document of its own. -/
def tidy (d : Document) : Document :=
  if d.isCircular [] then d else d.keepShared d.repeatedLabels

end Statecraft.Document
