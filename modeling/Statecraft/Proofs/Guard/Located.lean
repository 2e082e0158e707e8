import Statecraft.Proofs.Guard.Cutting
import Statecraft.Proofs.Guard.Placed

/-!
# Where reading a text fails

A text that is not blank and is no guard has the failure at its end, at the first character of one
of its tokens, or where cutting it into tokens stops (`Group.failure_points_into_text`).
-/

namespace Statecraft.Guard.Group

variable {s : String} {f : Failure}

/-- **Failures point into the text.** The position is the text's end or that of a character that is
not blank: the first one of a token, or the one at which cutting the text into tokens stops. -/
theorem failure_points_into_text (visible : Text.isBlankText s = false)
    (h : ofText s = .error (.failure f)) :
    f.position ≤ s.length ∧
    ∀ c, s.toList[f.position]? = some c → Text.isBlank c = false ∧
      ((∃ ts, Token.scan 0 s.toList = .ok ts ∧
          ∃ t ∈ ts, t.position = f.position ∧ t.text.head? = some c) ∨
        Token.StopsAt 0 s.toList f.position c) := by
  rw [← String.length_toList]
  rcases ofText_error h with ⟨blank, _⟩ | ⟨f', stopped, same⟩ | ⟨ts, scanned, refused⟩
  · exact absurd (visible.symm.trans blank) Bool.false_ne_true
  · obtain rfl := ReadError.failure.inj same
    obtain ⟨c, stops, _⟩ := Token.scan_eq_error_iff.mp stopped
    obtain ⟨_, front, r, text, at_stop, _, stop⟩ := id stops
    rw [Nat.zero_add] at at_stop
    refine ⟨by simp [text, at_stop], fun d hd => ?_⟩
    obtain rfl : c = d := by simpa [text, at_stop] using hd
    exact ⟨Token.visible_of_first? stop, Or.inr stops⟩
  · rcases position_of_whole refused with at_end | ⟨t, ht, at_token⟩
    · exact ⟨at_end.le, fun d hd => by simp [at_end] at hd⟩
    · obtain ⟨front, rest, text, at_front, piece⟩ := (Token.scan_eq_ok_iff.mp scanned).mem ht
      obtain ⟨c, r, first, blank⟩ := piece.visible
      rw [at_token, Nat.zero_add] at at_front
      refine ⟨by simp [text, at_front], fun d hd => ?_⟩
      obtain rfl : c = d := by simpa [text, at_front, first] using hd
      exact ⟨blank, Or.inl ⟨ts, scanned, t, ht, at_token, by rw [first]; rfl⟩⟩

/-- The parenthesis that is not closed, after a blank. -/
theorem failure_points_into_text_unmatched :
    let s := "ctx.a && (ctx.b == 'x'"
    let f : Failure := ⟨.unmatchedOpening, 9⟩
    Text.isBlankText s = false ∧ ofText s = .error (.failure f) ∧
    f.position ≤ s.length ∧
    ∀ c, s.toList[f.position]? = some c → Text.isBlank c = false ∧
      ((∃ ts, Token.scan 0 s.toList = .ok ts ∧
          ∃ t ∈ ts, t.position = f.position ∧ t.text.head? = some c) ∨
        Token.StopsAt 0 s.toList f.position c) := by
  intro s f
  have visible : Text.isBlankText s = false := by decide +kernel
  have failed : ofText s = .error (.failure f) := by
    have check : (match ofText s with
        | .error (.failure f') => f' == f
        | _ => false) = true := by decide +kernel
    split at check
    · rename_i f' failed
      rw [failed, beq_iff_eq.mp check]
    · cases check
  exact ⟨visible, failed, failure_points_into_text visible failed⟩

end Statecraft.Guard.Group
