import Mathlib.Algebra.Order.Field.Rat
import Mathlib.Algebra.Order.Ring.Abs
import Mathlib.Tactic.Positivity
import Mathlib.Tactic.Ring
import Statecraft.Layout.Place
import Statecraft.Proofs.Layout.Rank
import Statecraft.Proofs.Shape.Checked

/-!
# Nodes do not overlap

Sizes are positive and distances are not negative in every configuration that is accepted
(`Config.valid_of_ofDocument`). So whole steps of a size and a distance are at least the size apart
(`le_abs_steps`), and nodes differ in the number of steps along one axis: their layers differ, or
they are on one layer and their slots differ (`slot_ne`). With exact coordinates no two nodes of the
layered layout overlap (`layered_keeps_apart`).
-/

namespace Statecraft.Layout

open Shape (Checked)

/-- The sizes and distances of configurations that are accepted. -/
structure Config.Valid {α : Type} [OfNat α 0] [LT α] [LE α] (c : Config α) : Prop where
  width_pos : 0 < c.nodeWidth
  height_pos : 0 < c.nodeHeight
  nodeSep_nonneg : 0 ≤ c.nodeSep
  rankSep_nonneg : 0 ≤ c.rankSep
  marginX_nonneg : 0 ≤ c.marginX
  marginY_nonneg : 0 ≤ c.marginY

section Accepted

variable {α : Type}

/-- A value that may be missing is as the check wants it if the one in its place is. -/
theorem optional_spec {P : α → Prop} {entries : Document.Entries} {key : String} {absent x : α}
    {check : Document → Checked α} (default : P absent) (checked : ∀ d y, check d = .ok y → P y)
    (h : Shape.optional entries key absent check = .ok x) : P x := by
  unfold Shape.optional at h
  split at h
  · rename_i d _
    cases found : check d with
    | ok y =>
      rw [found] at h
      cases h
      exact checked d x found
    | bad issues =>
      rw [found] at h
      cases h
  · cases h
    exact default

theorem positive_pos (d : Document) (x : Float) (h : positive d = .ok x) : 0 < x := by
  obtain ⟨y, -, h⟩ := Checked.andThen_eq_ok.mp h
  split at h <;> cases h
  assumption

theorem notNegative_nonneg (d : Document) (x : Float) (h : notNegative d = .ok x) : 0 ≤ x := by
  obtain ⟨y, -, h⟩ := Checked.andThen_eq_ok.mp h
  split at h <;> cases h
  assumption

theorem Config.valid_default : Config.default.Valid := by
  constructor <;> decide

theorem Config.valid_of_ofDocument {d : Document} {c : Config Float} (h : ofDocument d = .ok c) :
    c.Valid := by
  obtain ⟨entries, -, h⟩ := Checked.andThen_eq_ok.mp h
  have default := valid_default
  simp only [ofEntries, Checked.both_eq_ok] at h
  obtain ⟨_, marginY, ⟨_, marginX, ⟨_, rankSep, ⟨_, nodeSep, ⟨_, height, ⟨_, width, -, hw, rfl⟩, hh,
    rfl⟩, hn, rfl⟩, hr, rfl⟩, hx, rfl⟩, hy, rfl⟩ := h
  exact ⟨optional_spec default.width_pos positive_pos hw,
    optional_spec default.height_pos positive_pos hh,
    optional_spec default.nodeSep_nonneg notNegative_nonneg hn,
    optional_spec default.rankSep_nonneg notNegative_nonneg hr,
    optional_spec default.marginX_nonneg notNegative_nonneg hx,
    optional_spec default.marginY_nonneg notNegative_nonneg hy⟩

end Accepted

section Slots

theorem countP_take_lt {α : Type} {p : α → Bool} {l : List α} {i j : Nat} (before : i < j)
    (bound : i < l.length) (here : p l[i] = true) :
    (l.take i).countP p < (l.take j).countP p := by
  have next : (l.take (i + 1)).countP p = (l.take i).countP p + 1 := by
    rw [← List.take_concat_get' l i bound, List.countP_append, List.countP_singleton, if_pos here]
  have upTo : (l.take (i + 1)).countP p ≤ (l.take j).countP p :=
    (List.take_sublist_take_left before).countP_le
  omega

variable {levels : Ranks} {states : List String}

theorem Ranks.of_mem {s : String} (known : s ∈ levels.map Prod.fst) :
    (s, levels.of s) ∈ levels := by
  unfold Ranks.of
  cases found : levels.lookup s with
  | some n =>
    obtain ⟨before, after, split, -⟩ := List.lookup_eq_some_iff.mp found
    rw [split]
    exact List.mem_append_right _ (List.mem_cons_self ..)
  | none =>
    obtain ⟨p, hp, rfl⟩ := List.mem_map.mp known
    exact absurd rfl (bne_iff_ne.mp (List.lookup_eq_none_iff.mp found p hp))

/-- Items with something that goes by their places are still the items. -/
theorem map_fst_mapIdx {α β : Type} (f : Nat → α → β) (l : List α) :
    (l.mapIdx fun i a => (a, f i a)).map Prod.fst = l := by
  refine List.ext_getElem (by simp) fun i _ _ => ?_
  simp

theorem map_fst_slots (levels : Ranks) (states : List String) :
    (slots levels states).map Prod.fst = states :=
  map_fst_mapIdx _ _

/-- Two states of one rank have different slots. -/
theorem slot_ne {p q : String × Nat} (hp : p ∈ slots levels states) (hq : q ∈ slots levels states)
    (other : p.1 ≠ q.1) (level : levels.of p.1 = levels.of q.1) : p.2 ≠ q.2 := by
  obtain ⟨i, hi, rfl⟩ := List.mem_mapIdx.mp hp
  obtain ⟨j, hj, rfl⟩ := List.mem_mapIdx.mp hq
  dsimp only at other level ⊢
  rw [level]
  rcases Nat.lt_trichotomy i j with before | rfl | after
  · exact Nat.ne_of_lt (countP_take_lt before hi (beq_iff_eq.mpr level))
  · exact absurd rfl other
  · exact Nat.ne_of_gt (countP_take_lt after hj (beq_self_eq_true _))

variable {α : Type} [Add α] [Mul α] [NatCast α] {nodes : List Node} {edges : List Edge}

theorem map_fst_layered (c : Config α) (direction : Direction) (nodes : List Node)
    (edges : List Edge) : (layered c direction nodes edges).map Prod.fst = nodes.map Node.id := by
  unfold layered
  rw [List.map_map]
  exact map_fst_slots _ _

/-- A node is placed by its rank and its slot. -/
theorem mem_layered {c : Config α} {direction : Direction} {p : String × Point α}
    (hp : p ∈ layered c direction nodes edges) :
    ∃ slot, (p.1, slot) ∈ slots (ranks nodes edges) (nodes.map Node.id) ∧
      p.2 = c.point direction ((ranks nodes edges).of p.1) slot := by
  obtain ⟨⟨s, slot⟩, there, rfl⟩ := List.mem_map.mp hp
  exact ⟨slot, there, rfl⟩

end Slots

section Apart

variable {α : Type} [CommRing α] [LinearOrder α] [IsStrictOrderedRing α]

/-- Nodes with these corners do not overlap: they are at least a node's width apart, or at least a
node's height. -/
def Config.Apart (c : Config α) (p q : Point α) : Prop :=
  c.nodeWidth ≤ |p.x - q.x| ∨ c.nodeHeight ≤ |p.y - q.y|

/-- Different numbers of steps of a size and a gap are at least the size apart. -/
theorem le_abs_steps {size gap : α} (pos : 0 < size) (nonneg : 0 ≤ gap) (margin : α) {a b : Nat}
    (other : a ≠ b) :
    size ≤ |margin + (a : α) * (size + gap) - (margin + (b : α) * (size + gap))| := by
  wlog before : b < a generalizing a b
  · rw [abs_sub_comm]
    exact this other.symm (by omega)
  have one_more : (1 : α) ≤ a - b := by
    rw [le_sub_iff_add_le']
    exact_mod_cast before
  calc size ≤ size + gap := le_add_of_nonneg_right nonneg
    _ ≤ (a - b) * (size + gap) := le_mul_of_one_le_left (by positivity) one_more
    _ = margin + a * (size + gap) - (margin + b * (size + gap)) := by ring
    _ ≤ _ := le_abs_self _

variable {c : Config α} {nodes : List Node}

theorem apart_of_rank_ne (valid : c.Valid) (direction : Direction) {r r' : Nat} (other : r ≠ r')
    (s s' : Nat) : c.Apart (c.point direction r s) (c.point direction r' s') := by
  cases direction with
  | leftToRight => exact Or.inl (le_abs_steps valid.width_pos valid.rankSep_nonneg _ other)
  | topToBottom => exact Or.inr (le_abs_steps valid.height_pos valid.rankSep_nonneg _ other)

theorem apart_of_slot_ne (valid : c.Valid) (direction : Direction) (r r' : Nat) {s s' : Nat}
    (other : s ≠ s') : c.Apart (c.point direction r s) (c.point direction r' s') := by
  cases direction with
  | leftToRight => exact Or.inr (le_abs_steps valid.height_pos valid.nodeSep_nonneg _ other)
  | topToBottom => exact Or.inl (le_abs_steps valid.width_pos valid.nodeSep_nonneg _ other)

/-- **The layered layout gives each node its place, and no two nodes overlap.** A node stands on the
layer of its rank. Nodes on different layers are told apart by the layer and nodes on one layer by
their slots, whichever way the layers follow each other. -/
theorem layered_keeps_apart (valid : c.Valid) (direction : Direction)
    (distinct : (nodes.map Node.id).Nodup) (edges : List Edge) :
    (layered c direction nodes edges).map Prod.fst = nodes.map Node.id ∧
    (∀ p ∈ layered c direction nodes edges, ∃ rank slot,
      (p.1, rank) ∈ ranks nodes edges ∧ p.2 = c.point direction rank slot) ∧
    ∀ p ∈ layered c direction nodes edges, ∀ q ∈ layered c direction nodes edges,
      p.1 ≠ q.1 → c.Apart p.2 q.2 := by
  have placed := map_fst_layered c direction nodes edges
  refine ⟨placed, fun p hp => ?_, fun p hp q hq other => ?_⟩
  · obtain ⟨slot, -, place⟩ := mem_layered hp
    have known : p.1 ∈ (ranks nodes edges).map Prod.fst := by
      rw [(longest_ranks distinct edges).one_each.mem_iff, ← placed]
      exact List.mem_map_of_mem hp
    exact ⟨_, slot, Ranks.of_mem known, place⟩
  · obtain ⟨slot, there, place⟩ := mem_layered hp
    obtain ⟨slot', there', place'⟩ := mem_layered hq
    rw [place, place']
    by_cases level : (ranks nodes edges).of p.1 = (ranks nodes edges).of q.1
    · exact apart_of_slot_ne valid direction _ _ (slot_ne there there' other level)
    · exact apart_of_rank_ne valid direction level _ _

end Apart

/-- Nodes of a width and a height that are no whole numbers, with no gaps between layers. -/
def tight : Config ℚ := ⟨.leftToRight, 5 / 2, 1 / 3, 1, 0, 0, 7⟩

theorem player_apart :
    tight.Valid ∧ (player.map Node.id).Nodup ∧
    layered tight .topToBottom player playerEdges =
      [("idle", ⟨0, 7⟩), ("playing", ⟨0, 22 / 3⟩), ("paused", ⟨7 / 2, 22 / 3⟩),
        ("done", ⟨0, 23 / 3⟩), ("spare", ⟨7 / 2, 7⟩)] ∧
    tight.Apart ⟨0, 7⟩ ⟨7 / 2, 7⟩ := by
  have valid : tight.Valid := by constructor <;> norm_num [tight]
  have distinct : (player.map Node.id).Nodup := by decide
  have known : ranks player playerEdges =
    [("idle", 0), ("spare", 0), ("playing", 1), ("paused", 1), ("done", 2)] := by decide
  have places : layered tight .topToBottom player playerEdges =
      [("idle", ⟨0, 7⟩), ("playing", ⟨0, 22 / 3⟩), ("paused", ⟨7 / 2, 22 / 3⟩),
        ("done", ⟨0, 23 / 3⟩), ("spare", ⟨7 / 2, 7⟩)] := by
    unfold layered
    rw [known]
    decide +kernel
  obtain ⟨-, -, apart⟩ := layered_keeps_apart valid .topToBottom distinct playerEdges
  rw [places] at apart
  exact ⟨valid, distinct, places, apart ("idle", _) (by simp) ("spare", _) (by simp) (by decide)⟩

end Statecraft.Layout
