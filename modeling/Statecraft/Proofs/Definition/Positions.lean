import Statecraft.Definition.Basic
import Statecraft.Proofs.Decimal.Bits
import Statecraft.Proofs.Keyed

/-!
# Stored positions

Positions are stored under the names of the states. If no name comes twice, each state finds
its own again (`positions_of_set`), as the same two numbers (`Position.given_same`).
-/

namespace Statecraft

namespace Position

/-- Neither coordinate is undefined. -/
structure IsNumber (p : Position) : Prop where
  x : p.x.value.isNaN = false
  y : p.y.value.isNaN = false

/-- The coordinates are the same numbers. -/
structure Same (p q : Position) : Prop where
  x : (p.x.value == q.x.value) = true
  y : (p.y.value == q.y.value) = true

/-- The position with both coordinates given. -/
def given (p : Position) : Position := .of p.x.value p.y.value

theorem given_same {p : Position} (h : p.IsNumber) : p.given.Same p :=
  ⟨Decimal.beq_self h.x, Decimal.beq_self h.y⟩

/-- A stored coordinate is read as its number. -/
theorem number_toDocument (c : Coordinate) : Shape.number c.toDocument = .ok c.value := by
  cases c with
  | «at» x => rfl
  | origin =>
    have finite : Decimal.isFinite 0 = true := by decide +kernel
    have zero : Decimal.ofInt 0 = (0 : Float) := by decide +kernel
    simp [Coordinate.toDocument, Shape.number, Document.content, zero, finite, Coordinate.value]

theorem ofDocument_toDocument (p : Position) : ofDocument p.toDocument = .ok p.given := by
  simp [ofDocument, toDocument, Document.object, Shape.record, Document.content,
    Shape.Checked.andThen, coordinate, Shape.optional, Document.Entries.get?, number_toDocument,
    Shape.Checked.map, Shape.Checked.atKey, Shape.Checked.within, Shape.Checked.both, given, of]

/-- What is written for a position and for the same one with both coordinates given are equal
values. -/
theorem given_toDocument_same {p : Position} (h : p.IsNumber) :
    p.given.toDocument.same p.toDocument = true := by
  have coordinate : ∀ c : Coordinate, c.value.isNaN = false →
      (Document.float c.value).same c.toDocument = true := by
    intro c hc
    cases c with
    | origin => decide +kernel
    | «at» x => simpa [Document.same, Coordinate.toDocument, Document.content,
        Document.magnitude?, Document.Magnitude.same, Coordinate.value] using Decimal.beq_self hc
  have pair : ∀ {a b c d : Document}, a.same c = true → b.same d = true →
      (Document.object [("x", a), ("y", b)]).same (.object [("x", c), ("y", d)]) = true := by
    intro a b c d hac hbd
    simp [Document.object, Document.same, Document.content, Document.within, hac, hbd]
  exact pair (coordinate p.x h.x) (coordinate p.y h.y)

end Position

namespace Positions

/-- Different names all go to the end. -/
theorem ofList_of_nodup {ps : List (String × Position)} (h : (ps.map Prod.fst).Nodup) :
    ofList ps = ps := by
  have last : ∀ (l : List (String × Position)) (p : String × Position), p.1 ∉ l.map Prod.fst →
      (if l.any (·.1 == p.1) then l.map fun q => if q.1 == p.1 then p else q else l ++ [p]) =
        l ++ [id p] := by
    intro l p new
    exact if_neg (by simpa using new)
  exact (Keyed.foldl_new last (fun _ => rfl) ps [] (by simpa using h)).trans (by simp)

/-- Each name finds its own position. -/
theorem get?_map {α : Type} {l : List α} {name : α → String} {place : α → Position}
    (h : (l.map name).Nodup) {a : α} (ha : a ∈ l) :
    get? (l.map fun b => (.text (name b), place b)) (name a) = some (place a) := by
  induction l with
  | nil => cases ha
  | cons b r ih =>
    obtain ⟨hb, hr⟩ := List.nodup_cons.mp h
    by_cases e : name b = name a
    · rcases List.mem_cons.mp ha with rfl | har
      · simp [get?, Document.content]
      · exact absurd (e ▸ List.mem_map_of_mem har) hb
    · rcases List.mem_cons.mp ha with rfl | har
      · exact absurd rfl e
      · simpa [get?, Document.content, e] using ih hr har

end Positions

namespace Annotations

variable {a : Annotations} {key : String}

theorem get?_set_self (a : Annotations) (key : String) (value : Document) :
    (a.set key value).get? key = some value := by
  unfold get? set
  split
  · rename_i present
    induction a with
    | nil => cases present
    | cons e r ih =>
      by_cases he : e.1 = key
      · simp [he]
      · have tail : r.any (·.1 == key) = true := by simpa [he] using present
        simpa [he] using ih tail
  · rename_i absent
    have none : a.find? (·.1 == key) = none := by
      simpa only [List.any_eq_true, not_exists, not_and, List.find?_eq_none] using absent
    simp [List.find?_append, none]

/-- A key that is not there is set at the end. -/
theorem set_new (h : ∀ e ∈ a, e.1 ≠ key) (value : Document) :
    a.set key value = a ++ [(key, value)] := by
  have absent : a.any (·.1 == key) = false := by
    rw [List.any_eq_false]
    exact fun e he => by simpa using h e he
  unfold set
  rw [absent, if_neg Bool.false_ne_true]

theorem erase_new (h : ∀ e ∈ a, e.1 ≠ key) : a.erase key = a := by
  apply List.filter_eq_self.mpr
  exact fun e he => by simpa using h e he

theorem erase_set (h : ∀ e ∈ a, e.1 ≠ key) (value : Document) :
    (a.set key value).erase key = a := by
  have kept := erase_new h
  unfold erase at *
  rw [set_new h, List.filter_append, kept]
  simp

theorem ne_of_mem_erase {e : String × Document} (h : e ∈ a.erase key) : e.1 ≠ key := by
  simpa using (List.mem_filter.mp h).2

end Annotations

/-- Positions stored under different names are read back, with both coordinates given. -/
theorem Definition.positions_of_set {d : Definition} {prior : Annotations} {key : String}
    {ps : List (String × Position)} (h : d.annotations = prior.set key (Positions.documentOf ps))
    (names : (ps.map Prod.fst).Nodup) :
    d.positions key = ps.map fun p => (.text p.1, p.2.given) := by
  unfold positions
  rw [h, Annotations.get?_set_self, Positions.documentOf, Positions.ofList_of_nodup names]
  simp only [Option.map_some, Document.object, Document.content, List.map_map]
  rw [List.filterMap_map, ← List.filterMap_eq_map]
  congr 1
  funext p
  simp [Position.ofDocument_toDocument, Shape.Checked.value?]

theorem Definition.hasPositions_of_set {d : Definition} {prior : Annotations} {key : String}
    {value : Document} (h : d.annotations = prior.set key value) : d.hasPositions key = true := by
  unfold hasPositions
  rw [h, Annotations.get?_set_self]
  rfl

end Statecraft
