import Statecraft.Proofs.Guard.Image

/-!
# Numbers in guard texts

The text of a number is one word, which stands for an equal number exactly if the number is finite
(`Value.number_read_back_iff`). An infinite number is written as a word that is no numeral, so it is
read as a text (`Value.infinity_not_read_back`).
-/

namespace Statecraft.Guard

/-- A word without the letter that every path begins with is one token. -/
theorem Token.scan_word {s : List Char} (some_char : s ≠ [])
    (chars : ∀ c ∈ s, isWordChar c = true) (no_field : 'c' ∉ s) (position : Nat) :
    scan position s = .ok [⟨.word, s, position⟩] := by
  have not_field : isField s = false := by
    unfold isField
    split
    · simp at no_field
    · rfl
  have word : Piece (some .word) s [] := by
    have piece : Piece (some (if isField s then .field else .word)) s [] :=
      .word some_char chars (by simp)
    simpa [not_field] using piece
  have scanned := word.scan position
  rw [List.append_nil, scan_nil] at scanned
  exact scanned

namespace Value

variable {v : Value} {x : Float} {negative : Bool}

/-- A number that a condition can hold and write: an integer that is not too long, or a double
other than the undefined number. -/
def IsNumber : Value → Prop
  | .int n => Decimal.isWritable n = true
  | .float x => Decimal.parts x ≠ .nan
  | _ => False

theorem IsNumber.isParsed (h : v.IsNumber) : v.IsParsed := by
  cases v with
  | int n => exact h
  | float x => exact h
  | _ => trivial

theorem IsNumber.not_text (h : v.IsNumber) (s : String) : v ≠ .text s := by
  rintro rfl
  exact h

/-- A number that becomes an integer is small. -/
theorem IsNumber.reread (h : v.IsNumber) : v.reread.IsNumber := by
  cases v with
  | float x =>
    rcases float_cases x with ⟨n, _, small, _, value⟩ | ⟨_, _, value⟩ <;> rw [value]
    · exact decide_eq_true (small.trans_le (Decimal.tenTo_le_tenTo (by decide)))
    · exact h
  | int n => exact h
  | _ => exact h.elim

/-- Finite numbers are written in the characters of numerals. -/
theorem IsNumber.isNumeralChar (h : v.IsNumber) (readable : v.IsReadable) :
    ∀ c ∈ v.render, Decimal.IsNumeralChar c := by
  cases v with
  | int n => exact isNumeralChar_intText n
  | float x => exact (ofWord_floatText readable).1
  | _ => exact h.elim

section Infinity

/-- What infinite numbers are written as. -/
def infinityText (negative : Bool) : List Char := if negative then "-inf".toList else "inf".toList

theorem render_infinite (h : Decimal.parts x = .infinite negative) :
    (Value.float x).render = infinityText negative := by
  have no_int : Decimal.toInt? x = none := by simp [Decimal.toInt?, h]
  simp only [render, floatText, no_int, Decimal.Style.text, h]
  cases negative <;> rfl

theorem ofWord_infinityText (negative : Bool) :
    ofWord (infinityText negative) = .ok (.text (String.ofList (infinityText negative))) := by
  cases negative <;> rfl

theorem scan_infinityText (negative : Bool) (position : Nat) :
    Token.scan position (infinityText negative) =
      .ok [⟨.word, infinityText negative, position⟩] := by
  refine Token.scan_word ?_ ?_ ?_ position
  · cases negative <;> decide
  · cases negative <;> exact List.all_eq_true.mp (by decide)
  · cases negative <;> decide

theorem exists_infinite (h : v.isInfinite = true) :
    ∃ x negative, v = .float x ∧ Decimal.parts x = .infinite negative := by
  cases v with
  | float x =>
    cases parts_x : Decimal.parts x with
    | infinite negative => exact ⟨x, negative, rfl, parts_x⟩
    | _ => simp [isInfinite, parts_x] at h
  | _ => cases h

end Infinity

/-- **Numbers are read back** if they are finite. The text of a number is one word. The word stands
for an equal number exactly if the number is finite; else it stands for itself, a text. -/
theorem number_read_back_iff (number : v.IsNumber) :
    (∀ position, Token.scan position v.render = .ok [⟨.word, v.render, position⟩]) ∧
    ((∃ w, ofWord v.render = .ok w ∧ w.IsNumber ∧ w.same v = true) ↔ v.isInfinite = false) ∧
    (v.isInfinite = true → ofWord v.render = .ok (.text (String.ofList v.render))) := by
  cases infinite : v.isInfinite with
  | true =>
    obtain ⟨x, negative, rfl, parts_x⟩ := exists_infinite infinite
    rw [render_infinite parts_x]
    have read := ofWord_infinityText negative
    refine ⟨scan_infinityText negative, ⟨?_, nofun⟩, fun _ => read⟩
    rintro ⟨w, again, number, _⟩
    exact absurd (Except.ok.inj (again.symm.trans read)) (number.not_text _)
  | false =>
    have readable := isReadable_of_isParsed number.isParsed infinite
    obtain ⟨chars, read⟩ := ofWord_render readable number.not_text
    have some_char := render_ne_nil readable number.not_text
    have no_field : 'c' ∉ v.render := fun mem =>
      absurd (number.isNumeralChar readable _ mem) (by decide)
    refine ⟨Token.scan_word some_char chars no_field, ⟨fun _ => rfl, fun _ => ?_⟩, nofun⟩
    exact ⟨_, read, number.reread, reread_same readable⟩

/-- A number that is written with an exponent. -/
theorem number_read_back_iff_small :
    let v := Value.float (Decimal.ofDecimal true 15 (-8))
    v.IsNumber ∧
    (∀ position, Token.scan position v.render = .ok [⟨.word, v.render, position⟩]) ∧
    ((∃ w, ofWord v.render = .ok w ∧ w.IsNumber ∧ w.same v = true) ↔ v.isInfinite = false) ∧
    (v.isInfinite = true → ofWord v.render = .ok (.text (String.ofList v.render))) := by
  intro v
  have number : v.IsNumber := Decimal.parts_ofDecimal_ne_nan true 15 (-8)
  exact ⟨number, number_read_back_iff number⟩

/-- The number that a text writes with too great an exponent is written as a text. -/
theorem infinity_not_read_back : ∃ v, ofWord "1e400".toList = .ok v ∧ v.IsNumber ∧
    v.render = "inf".toList ∧ ofWord v.render = .ok (.text "inf") ∧
    ¬ ∃ w, ofWord v.render = .ok w ∧ w.IsNumber ∧ w.same v = true := by
  have chars : ∀ c ∈ "1e400".toList, Decimal.IsNumeralChar c := by
    simp [Decimal.IsNumeralChar]
  have numeral : Decimal.Numeral.ofChars? "1e400".toList = some ⟨false, ['1'], [], false, 400⟩ := by
    decide +kernel
  have read := ofWord_numeral chars numeral
  have parts_x : Decimal.parts (Decimal.Numeral.toFloat ⟨false, ['1'], [], false, 400⟩) =
      .infinite false := by decide +kernel
  have text := render_infinite parts_x
  have read_text := ofWord_infinityText false
  refine ⟨_, read, by simp [IsNumber, parts_x], text, by rw [text, read_text]; rfl, ?_⟩
  rintro ⟨w, again, number, _⟩
  rw [text, read_text] at again
  exact number.not_text _ (Except.ok.inj again).symm

end Value

end Statecraft.Guard
