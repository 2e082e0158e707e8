import Statecraft.Proofs.Console.Markup
import Statecraft.Proofs.Decimal.Numeral
import Statecraft.Proofs.Guard.Cited

/-!
# Messages word for word

Quoting escapes controls, and the rest of a message about a guard's text is fixed. So the message is
plain for markup if what it cites has neither brackets nor colons (`Failure.isPlain_text`).
-/

namespace Statecraft

open Console (IsPlain isPlainChar isPlain_append isPlain_cons)

/-- The text has no character that markup gives a meaning to. -/
def IsUnmarked (s : List Char) : Prop := '[' ∉ s ∧ ':' ∉ s

theorem Console.isControl_of_le {c : Char} (h : 32 ≤ c.toNat) : isControl c = false := by
  simp only [isControl, List.contains_eq_mem, decide_eq_false_iff_not, List.mem_cons,
    List.not_mem_nil, or_false]
  omega

namespace Text

theorem isPlain_hex (width n : Nat) : IsPlain (hex width n) := by
  induction width generalizing n with
  | zero => exact List.forall_mem_nil _
  | succ width ih =>
    have digits : ∀ k < 16, isPlainChar (hexDigit k) = true := by decide
    have same : hexDigit n = hexDigit (n % 16) := by
      unfold hexDigit
      rw [Nat.mod_mod]
    have last : IsPlain [hexDigit n] :=
      List.forall_mem_singleton.mpr (same ▸ digits _ (Nat.mod_lt _ (by decide)))
    exact isPlain_append.mpr ⟨ih _, last⟩

theorem isPlain_escapeByNumber (c : Char) : IsPlain (escapeByNumber c) := by
  unfold escapeByNumber
  dsimp only
  split_ifs <;> exact isPlain_cons.mpr ⟨rfl, isPlain_cons.mpr ⟨rfl, isPlain_hex _ _⟩⟩

theorem isPlain_quotedChar {quote c : Char} (hq : isPlainChar quote = true)
    (hc : c ≠ '[' ∧ c ≠ ':') : IsPlain (quotedChar quote c) := by
  unfold quotedChar
  split_ifs with same _ _ _ printable
  · have plain : isPlainChar c = true := by
      rcases Bool.or_eq_true _ _ ▸ same with same | same
      · exact beq_iff_eq.mp same ▸ hq
      · exact beq_iff_eq.mp same ▸ rfl
    exact isPlain_cons.mpr ⟨rfl, List.forall_mem_singleton.mpr plain⟩
  · decide
  · decide
  · decide
  · refine List.forall_mem_singleton.mpr ?_
    rw [isPrintable, Bool.and_eq_true, decide_eq_true_eq] at printable
    simp [isPlainChar, hc, Console.isControl_of_le printable.1]
  · exact isPlain_escapeByNumber c

/-- Controls are escaped in quotes, so a quoted text is plain if it is unmarked. -/
theorem isPlain_quoted {s : String} (h : IsUnmarked s.toList) : IsPlain (quoted s).toList := by
  have quote : isPlainChar (quoteFor s.toList) = true := by
    unfold quoteFor
    split <;> rfl
  unfold quoted
  rw [String.toList_ofList]
  refine isPlain_append.mpr ⟨isPlain_cons.mpr ⟨quote, fun d hd => ?_⟩,
    List.forall_mem_singleton.mpr quote⟩
  obtain ⟨c, hc, hd⟩ := List.mem_flatMap.mp hd
  refine isPlain_quotedChar quote ⟨?_, ?_⟩ d hd
  · rintro rfl
    exact h.1 hc
  · rintro rfl
    exact h.2 hc

end Text

theorem Decimal.isPlain_natText (n : Nat) : IsPlain (natText n).toList := by
  have digit : ∀ c : Char, c.isDigit = true → isPlainChar c = true := by
    intro c hc
    have bracket : c ≠ '[' := fun same => absurd (same ▸ hc) (by decide)
    have colon : c ≠ ':' := fun same => absurd (same ▸ hc) (by decide)
    rw [Char.isDigit, Bool.and_eq_true, decide_eq_true_eq] at hc
    have low : 48 ≤ c.toNat := hc.1
    simp [isPlainChar, bracket, colon, Console.isControl_of_le (Nat.le_trans (by decide) low)]
  rw [natText, String.toList_ofList]
  exact fun c hc => digit c (allDigits_natDigits n c hc)

namespace Guard

/-- A message is plain if what it cites is unmarked. -/
theorem Fault.isPlain_message {fault : Fault} (h : fault.Cites IsUnmarked) :
    IsPlain fault.message.toList := by
  have followed : ∀ {front rest : String}, IsPlain front.toList → IsPlain rest.toList →
      IsPlain (front ++ rest).toList := by
    intro front rest plain plain'
    rw [String.toList_append]
    exact isPlain_append.mpr ⟨plain, plain'⟩
  have cited : ∀ {s : List Char}, IsUnmarked s → IsPlain (quotedChars s).toList := by
    intro s unmarked
    exact Text.isPlain_quoted (by rwa [String.toList_ofList])
  cases fault with
  | unexpectedCharacter c => exact followed (by decide) (cited h)
  | unexpectedToken s => exact followed (by decide) (cited h)
  | missingOperand s => exact followed (by decide) (cited h)
  | missingValue op => cases op <;> decide
  | expected what got =>
    obtain ⟨fixed, unmarked⟩ := h
    have plain : ∀ w ∈ expectations, IsPlain w.toList := by decide
    have front : IsPlain ("expected " ++ what).toList := followed (by decide) (plain what fixed)
    cases got with
    | none => exact followed front (by decide)
    | some s => exact followed (followed front (by decide)) (cited (unmarked s rfl))
  | _ => decide

theorem Failure.isPlain_text {f : Failure} (h : f.fault.Cites IsUnmarked) :
    IsPlain f.text.toList := by
  have column : IsPlain (Decimal.intText (f.position + 1 : Nat)).toList :=
    Decimal.isPlain_natText (f.position + 1)
  unfold text
  simp only [String.toList_append, isPlain_append]
  exact ⟨⟨⟨Fault.isPlain_message h, by decide⟩, column⟩, by decide⟩

end Guard

end Statecraft
