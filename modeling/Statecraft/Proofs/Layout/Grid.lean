import Statecraft.Proofs.Decimal.Root
import Statecraft.Proofs.Keyed
import Statecraft.Proofs.Layout.Apart

/-!
# States on a grid

Below `2 ^ 52` states the columns are the root of their number, rounded up (`columns_bounds`), so
that there are no more rows than columns (`row_lt_columns`). Distances are positive in every grid
that is accepted (`Grid.valid_of_ofDocument`), so a point tells its row and its column
(`Grid.point_injective`), and these tell the state's place in the list. With exact coordinates
different states have different points on the square (`Grid.place_spreads`).
-/

namespace Statecraft.Layout

open Shape (Checked)

/-- The distances of grids that are accepted. -/
structure Grid.Valid {α : Type} [OfNat α 0] [LT α] (g : Grid α) : Prop where
  spacingX_pos : 0 < g.spacingX
  spacingY_pos : 0 < g.spacingY

theorem Grid.valid_default : Grid.default.Valid := by
  constructor <;> decide

theorem Grid.valid_of_ofDocument {d : Document} {g : Grid Float} (h : ofDocument d = .ok g) :
    g.Valid := by
  obtain ⟨entries, -, h⟩ := Checked.andThen_eq_ok.mp h
  simp only [ofEntries, Checked.both_eq_ok] at h
  obtain ⟨_, offsetY, ⟨_, offsetX, ⟨spacingX, spacingY, hx, hy, rfl⟩, -, rfl⟩, -, rfl⟩ := h
  exact ⟨optional_spec valid_default.spacingX_pos positive_pos hx,
    optional_spec valid_default.spacingY_pos positive_pos hy⟩

section Columns

variable {n i : Nat}

/-- The columns make the least square that has room for the states. -/
theorem columns_bounds (positive : 0 < n) (small : n < 2 ^ 52) :
    (columns n - 1) ^ 2 < n ∧ n ≤ columns n ^ 2 := by
  obtain ⟨c, up, low, high⟩ := Decimal.ceil?_sqrt_exact positive small
  have count : columns n = c + 1 := by
    unfold columns
    rw [up]
    rfl
  rw [count, Nat.add_sub_cancel]
  exact ⟨low, high⟩

/-- With one state more than `2 ^ 52` there is no room for the last: its root is too close to the
integer below. -/
example : columns (2 ^ 52) = 2 ^ 26 ∧ columns (2 ^ 52 + 1) = 2 ^ 26 := by decide +kernel

theorem columns_pos (positive : 0 < n) (small : n < 2 ^ 52) : 0 < columns n := by
  by_contra none
  have room := (columns_bounds positive small).2
  rw [Nat.eq_zero_of_not_pos none] at room
  omega

/-- No column is empty. -/
theorem columns_le (positive : 0 < n) (small : n < 2 ^ 52) : columns n ≤ n := by
  have least := (columns_bounds positive small).1
  have square : columns n - 1 ≤ (columns n - 1) ^ 2 := Nat.le_self_pow two_ne_zero _
  omega

theorem row_lt_columns (small : n < 2 ^ 52) (hi : i < n) : i / columns n < columns n := by
  apply Nat.div_lt_of_lt_mul
  rw [← pow_two]
  exact hi.trans_le (columns_bounds (by omega) small).2

end Columns

section Place

variable {states : List String}

section
variable {α : Type} [Add α] [Mul α] [NatCast α]

/-- Different states all keep their places. -/
theorem Grid.place_of_nodup (g : Grid α) (distinct : states.Nodup) :
    g.place states = states.mapIdx fun i s =>
      (s, g.point (i / columns states.length) (i % columns states.length)) := by
  have kept : ∀ (l : List (String × Point α)) (p : String × Point α), p.1 ∉ l.map Prod.fst →
      (if l.any (·.1 == p.1) then l else l ++ [p]) = l ++ [id p] := by
    intro l p new
    exact if_neg (by simpa using new)
  refine (Keyed.foldl_new kept (fun _ => rfl) _ [] ?_).trans ?_
  · rw [List.map_nil, List.nil_append, map_fst_mapIdx]
    exact distinct
  · rw [List.nil_append, List.map_id]

/-- What is put on a square of so many columns: all of them are in use, and no more rows. -/
structure Grid.Square (g : Grid α) (c : Nat) (placed : List (String × Point α)) : Prop where
  inside : ∀ p ∈ placed, ∃ row < c, ∃ column < c, p.2 = g.point row column
  full : ∀ column < c, ∃ p ∈ placed, ∃ row, p.2 = g.point row column

theorem Grid.square_place (g : Grid α) (distinct : states.Nodup) (some_state : states ≠ [])
    (small : states.length < 2 ^ 52) : g.Square (columns states.length) (g.place states) := by
  have positive := List.length_pos_of_ne_nil some_state
  rw [place_of_nodup g distinct]
  constructor
  · intro p hp
    obtain ⟨i, hi, rfl⟩ := List.mem_mapIdx.mp hp
    exact ⟨_, row_lt_columns small hi, _, Nat.mod_lt _ (columns_pos positive small), rfl⟩
  · intro column within
    have hi : column < states.length := within.trans_le (columns_le positive small)
    refine ⟨_, List.mem_mapIdx.mpr ⟨column, hi, rfl⟩, column / columns states.length, ?_⟩
    rw [Nat.mod_eq_of_lt within]

end

variable {α : Type} [CommRing α] [LinearOrder α] [IsStrictOrderedRing α] {g : Grid α}

/-- Steps of a positive distance from an offset are told apart by their number. -/
theorem steps_injective {distance offset : α} (positive : 0 < distance) {a b : Nat}
    (same : (a : α) * distance + offset = b * distance + offset) : a = b :=
  Nat.cast_injective (mul_right_cancel₀ positive.ne' (add_right_cancel same))

/-- A point tells its row and its column. -/
theorem Grid.point_injective (valid : g.Valid) {row column row' column' : Nat}
    (same : g.point row column = g.point row' column') : row = row' ∧ column = column' := by
  obtain ⟨x, y⟩ := Point.mk.inj same
  exact ⟨steps_injective valid.spacingY_pos y, steps_injective valid.spacingX_pos x⟩

/-- Different states are at different places of the list, and these have different points. -/
theorem Grid.place_injective (valid : g.Valid) (distinct : states.Nodup)
    {p q : String × Point α} (hp : p ∈ g.place states) (hq : q ∈ g.place states)
    (same : p.2 = q.2) : p.1 = q.1 := by
  rw [place_of_nodup g distinct] at hp hq
  obtain ⟨i, hi, rfl⟩ := List.mem_mapIdx.mp hp
  obtain ⟨j, hj, rfl⟩ := List.mem_mapIdx.mp hq
  obtain ⟨row, column⟩ := point_injective valid same
  obtain rfl := Nat.ext_div_mod row column
  rfl

/-- **The grid gives each state its place on a square, and no two states have the same.** The square
is the least that has room for the states: all its columns are in use, and it has no more rows than
columns. -/
theorem Grid.place_spreads (valid : g.Valid) (distinct : states.Nodup) (some_state : states ≠ [])
    (small : states.length < 2 ^ 52) :
    (columns states.length - 1) ^ 2 < states.length ∧
    states.length ≤ columns states.length ^ 2 ∧
    (g.place states).map Prod.fst = states ∧
    g.Square (columns states.length) (g.place states) ∧
    ∀ p ∈ g.place states, ∀ q ∈ g.place states, p.1 ≠ q.1 → p.2 ≠ q.2 := by
  have positive := List.length_pos_of_ne_nil some_state
  obtain ⟨least, room⟩ := columns_bounds positive small
  refine ⟨least, room, ?_, g.square_place distinct some_state small, ?_⟩
  · rw [place_of_nodup g distinct, map_fst_mapIdx]
  · intro p hp q hq other same
    exact other (place_injective valid distinct hp hq same)

end Place

/-- A grid whose distances are no whole numbers and whose first place is left of the origin. -/
def narrow : Grid ℚ := ⟨1 / 2, 1 / 3, -7, 0⟩

/-- One state more than a square of two columns has room for. -/
def vowels : List String := ["a", "e", "i", "o", "u"]

theorem vowels_spread :
    narrow.Valid ∧ vowels.Nodup ∧ vowels ≠ [] ∧ vowels.length < 2 ^ 52 ∧
    narrow.place vowels = [("a", ⟨-7, 0⟩), ("e", ⟨-13 / 2, 0⟩), ("i", ⟨-6, 0⟩),
      ("o", ⟨-7, 1 / 3⟩), ("u", ⟨-13 / 2, 1 / 3⟩)] ∧
    columns vowels.length = 3 ∧ (3 - 1) ^ 2 < vowels.length ∧ vowels.length ≤ 3 ^ 2 ∧
    narrow.Square 3 (narrow.place vowels) ∧
    (⟨-13 / 2, 0⟩ : Point ℚ) ≠ ⟨-13 / 2, 1 / 3⟩ := by
  have valid : narrow.Valid := by constructor <;> norm_num [narrow]
  have distinct : vowels.Nodup := by decide
  have some_state : vowels ≠ [] := by decide
  have small : vowels.length < 2 ^ 52 := by decide
  have places : narrow.place vowels = [("a", ⟨-7, 0⟩), ("e", ⟨-13 / 2, 0⟩), ("i", ⟨-6, 0⟩),
      ("o", ⟨-7, 1 / 3⟩), ("u", ⟨-13 / 2, 1 / 3⟩)] := by
    decide +kernel
  have three : columns vowels.length = 3 := by decide +kernel
  obtain ⟨least, room, -, square, apart⟩ := Grid.place_spreads valid distinct some_state small
  rw [three] at least room square
  rw [places] at apart
  exact ⟨valid, distinct, some_state, small, places, three, least, room, square,
    apart ("e", _) (by simp) ("u", _) (by simp) (by decide)⟩

end Statecraft.Layout
