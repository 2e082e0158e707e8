import Statecraft.Proofs.Guard.Cutting

/-!
# Nothing of a text is lost

Cutting a text into tokens takes a character at least in each step and so comes to an end. The
tokens of a text stand in it one behind the other, and what is between them is blank
(`Token.scan_covers`).
-/

namespace Statecraft.Guard

namespace Token

/-- Where the text after the token begins. -/
def stop (t : Token) : Nat := t.position + t.text.length

/-- The token has the character at this index. -/
def Holds (t : Token) (i : Nat) : Prop := t.position ≤ i ∧ i < t.stop

end Token

namespace Cut

variable {position : Nat} {s left : List Char} {ts : List Token}

theorem le_position (h : Cut position s ts left) : ∀ t ∈ ts, position ≤ t.position := by
  intro t ht
  obtain ⟨front, _, _, at_front, _⟩ := h.mem ht
  exact at_front ▸ Nat.le_add_right _ _

/-- Each token ends before the next one begins. -/
theorem in_order (h : Cut position s ts left) : ts.Pairwise fun t u => t.stop ≤ u.position := by
  induction h with
  | done => exact .nil
  | blanks _ _ ih => exact ih
  | token _ later ih => exact List.pairwise_cons.mpr ⟨later.le_position, ih⟩

/-- What is cut off and belongs to no token is blank. -/
theorem blank_between (h : Cut position s ts left) {i : Nat} {c : Char}
    (at_i : s[i]? = some c) (taken : i + left.length < s.length)
    (outside : ∀ t ∈ ts, ¬ t.Holds (position + i)) : Text.isBlank c = true := by
  induction h generalizing i with
  | done => omega
  | @blanks position s rest left ts first _ ih =>
    rcases Nat.lt_or_ge i s.length with here | after
    · rw [List.getElem?_append_left here] at at_i
      cases first with
      | blanks _ blank _ => exact blank c (List.mem_of_getElem? at_i)
    · obtain ⟨j, rfl⟩ := Nat.exists_eq_add_of_le after
      rw [List.getElem?_append_right after, Nat.add_sub_cancel_left] at at_i
      rw [List.length_append, Nat.add_assoc] at taken
      exact ih at_i (Nat.lt_of_add_lt_add_left taken) (Nat.add_assoc _ _ _ ▸ outside)
  | @token position kind s rest left ts first _ ih =>
    obtain ⟨not_first, others⟩ := List.forall_mem_cons.mp outside
    rcases Nat.lt_or_ge i s.length with here | after
    · exact absurd ⟨Nat.le_add_right _ _, Nat.add_lt_add_left here _⟩ not_first
    · obtain ⟨j, rfl⟩ := Nat.exists_eq_add_of_le after
      rw [List.getElem?_append_right after, Nat.add_sub_cancel_left] at at_i
      rw [List.length_append, Nat.add_assoc] at taken
      exact ih at_i (Nat.lt_of_add_lt_add_left taken) (Nat.add_assoc _ _ _ ▸ others)

end Cut

namespace Token

/-- What the tokens of a text have in common with it. -/
structure Cover (s : List Char) (ts : List Token) : Prop where
  rising : (ts.map position).Pairwise (· < ·)
  slices : ∀ t ∈ ts, (s.drop t.position).take t.text.length = t.text
  apart : ts.Pairwise fun t u => t.stop ≤ u.position
  between : ∀ (i : Nat) (c : Char), s[i]? = some c → (∀ t ∈ ts, ¬ t.Holds i) →
    Text.isBlank c = true

theorem cover_of_cut {s : List Char} {ts : List Token} (h : Cut 0 s ts []) : Cover s ts where
  rising := by
    refine List.pairwise_map.mpr ((h.in_order).imp_of_mem fun ht _ before => ?_)
    obtain ⟨_, _, _, _, piece⟩ := h.mem ht
    have some_char := List.length_pos_iff.mpr piece.ne_nil
    unfold stop at before
    omega
  slices := by
    intro t ht
    obtain ⟨front, rest, text, at_front, _⟩ := h.mem ht
    rw [text, at_front, Nat.zero_add, List.drop_left, List.take_left]
  apart := h.in_order
  between := by
    intro i c at_i outside
    obtain ⟨small, _⟩ := List.getElem?_eq_some_iff.mp at_i
    exact h.blank_between at_i small (by simpa using outside)

/-- **Cutting a text into tokens loses nothing and always goes on.** Each piece that is cut off has a
character at least; so the text is cut down to its end, or to a character with which no piece
begins. In the first case it has tokens: they rise, stand in the text at their positions and do not
overlap, and every other character is blank. -/
theorem scan_covers (s : String) :
    (∀ r kind? piece rest, first? r = some (kind?, piece, rest) →
      r = piece ++ rest ∧ rest.length < r.length) ∧
    ((∃ ts, scan 0 s.toList = .ok ts ∧ Cut 0 s.toList ts [] ∧ Cover s.toList ts) ∨
      ∃ f c, scan 0 s.toList = .error f ∧ StopsAt 0 s.toList f.position c) := by
  constructor
  · intro r kind? piece rest found
    obtain ⟨rfl, first⟩ := first?_eq_some_iff.mp found
    have some_char := List.length_pos_iff.mpr first.ne_nil
    refine ⟨rfl, ?_⟩
    rw [List.length_append]
    omega
  · cases scanned : scan 0 s.toList with
    | ok ts =>
      have cut := scan_eq_ok_iff.mp scanned
      exact Or.inl ⟨ts, rfl, cut, cover_of_cut cut⟩
    | error f =>
      obtain ⟨c, stops, _⟩ := scan_eq_error_iff.mp scanned
      exact Or.inr ⟨f, c, rfl, stops⟩

/-- A text with blanks around a field and within a quoted text. -/
theorem scan_covers_spaced :
    let s := " ctx.ab  !='x y'"
    let ts : List Token := [⟨.field, "ctx.ab".toList, 1⟩, ⟨.compare .notEqual, "!=".toList, 9⟩,
      ⟨.quoted, "'x y'".toList, 11⟩]
    first? "!='x y'".toList = some (some (.compare .notEqual), "!=".toList, "'x y'".toList) ∧
    "'x y'".toList.length < "!='x y'".toList.length ∧
    scan 0 s.toList = .ok ts ∧ Cover s.toList ts := by
  intro s ts
  have first : first? "!='x y'".toList =
      some (some (.compare .notEqual), "!=".toList, "'x y'".toList) := by decide
  have scanned : scan 0 s.toList = .ok ts := by
    have check : (match scan 0 s.toList with
        | .ok us => us == ts
        | .error _ => false) = true := by decide +kernel
    split at check
    · rename_i us found
      rw [found, beq_iff_eq.mp check]
    · cases check
  obtain ⟨progress, covered⟩ := scan_covers s
  refine ⟨first, (progress _ _ _ _ first).2, scanned, ?_⟩
  rcases covered with ⟨us, found, _, cover⟩ | ⟨f, c, failed, _⟩
  · cases scanned.symm.trans found
    exact cover
  · cases scanned.symm.trans failed

end Token

end Statecraft.Guard
