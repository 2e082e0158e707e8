import Statecraft.Guard.Token
import Statecraft.Guard.Literal
import Statecraft.Proofs.Decimal.ReadBack

/-!
# Literals read back

A quoted text ends at its closing quote, whatever follows (`closes_escapeText`), and stands for
the text that was quoted (`unquote_quote`). Every other value is a word that stands
for an equal value (`ofWord_render`, `reread_same`): a number without a fraction may come back
as an integer.
-/

namespace Statecraft.Guard

section Quoted

/-- Each character is escaped by itself. -/
theorem escapeText_cons (c : Char) (r : List Char) :
    escapeText (c :: r) =
      if c = '\\' ∨ c = '"' then '\\' :: c :: escapeText r else c :: escapeText r := by
  simp [escapeText]

theorem unescape_escapeText (s : List Char) : unescape (escapeText s) = s := by
  induction s with
  | nil => rfl
  | cons c r ih =>
    rw [escapeText_cons]
    by_cases special : c = '\\' ∨ c = '"'
    · rw [if_pos special, unescape, ih]
    · rw [if_neg special, unescape, ih]
      · exact fun h _ => special (Or.inl h)
      · exact fun _ _ h _ => special (Or.inl h)

theorem unquote_quote (s : List Char) : unquote (quote s) = s := by
  unfold unquote quote
  rw [List.cons_append, List.drop_one, List.tail_cons, List.dropLast_concat, unescape_escapeText]

/-- What a quoted literal has after its opening quote: a backslash takes the next character with
it, and the first quote that is not taken closes the literal. -/
inductive Closes (quote : Char) : List Char → Prop
  | close : Closes quote [quote]
  | escape {c : Char} {r : List Char} : c ≠ '\n' → Closes quote r → Closes quote ('\\' :: c :: r)
  | other {c : Char} {r : List Char} : c ≠ '\\' → c ≠ quote → Closes quote r → Closes quote (c :: r)

variable {q : Char}

theorem quotedLength?_cons {c : Char} (plain : c ≠ '\\') (r : List Char) :
    Token.quotedLength? q (c :: r) =
      if c == q then some 1 else (Token.quotedLength? q r).map (· + 1) := by
  rw [Token.quotedLength?]
  · exact fun h _ => plain h
  · exact fun _ _ h _ => plain h

/-- A literal that is closed ends there, whatever comes after it. -/
theorem Closes.quotedLength? {s : List Char} (h : Closes q s) (plain : q ≠ '\\')
    (rest : List Char) : Token.quotedLength? q (s ++ rest) = some s.length := by
  induction h with
  | close =>
    rw [List.singleton_append, quotedLength?_cons plain, if_pos (beq_self_eq_true q)]
    rfl
  | escape line _ ih => simp [Token.quotedLength?, line, ih]
  | other escape other _ ih =>
    rw [List.cons_append, quotedLength?_cons escape, if_neg (by simpa using other), ih]
    rfl

theorem closes_of_quotedLength? {s : List Char} {n : Nat}
    (h : Token.quotedLength? q s = some n) : n ≤ s.length ∧ Closes q (s.take n) := by
  fun_induction Token.quotedLength? q s generalizing n with
  | case1 => cases h
  | case2 => cases h
  | case3 => cases h
  | case4 c r line ih =>
    obtain ⟨k, inner, rfl⟩ := Option.map_eq_some_iff.mp h
    obtain ⟨length, closes⟩ := ih inner
    exact ⟨by simpa using length, .escape (by simpa using line) closes⟩
  | case5 c r alone escape close =>
    cases h
    rw [beq_iff_eq.mp close]
    exact ⟨by simp, .close⟩
  | case6 c r alone escape other ih =>
    obtain ⟨k, inner, rfl⟩ := Option.map_eq_some_iff.mp h
    obtain ⟨length, closes⟩ := ih inner
    have plain : c ≠ '\\' := by
      rintro rfl
      cases r with
      | nil => exact alone rfl rfl
      | cons d r => exact escape d r rfl rfl
    exact ⟨by simpa using length, .other plain (by simpa using other) closes⟩

/-- Escaped text has no quote that would close it. -/
theorem closes_escapeText (s : List Char) : Closes '"' (escapeText s ++ ['"']) := by
  induction s with
  | nil => exact .close
  | cons c r ih =>
    rw [escapeText_cons]
    by_cases special : c = '\\' ∨ c = '"'
    · rw [if_pos special]
      refine .escape ?_ ih
      rintro rfl
      revert special
      decide
    · rw [if_neg special]
      push Not at special
      exact .other special.1 special.2 ih

end Quoted

section Numbers

open Decimal (IsNumeralChar)

instance : DecidablePred IsNumeralChar :=
  fun c => inferInstanceAs (Decidable (c.isDigit = true ∨ c ∈ ['.', 'e', '-', '+']))

/-- A digit is one of ten characters. -/
theorem mem_of_isDigit {c : Char} (h : c.isDigit = true) : c ∈ "0123456789".toList := by
  have range : 48 ≤ c.toNat ∧ c.toNat ≤ 57 := by
    simpa [Char.isDigit, UInt32.le_iff_toNat_le] using h
  have all : ∀ n < 58, 48 ≤ n → Char.ofNat n ∈ "0123456789".toList := by decide
  simpa using all c.toNat (by omega) range.1

theorem isWordChar_of_isNumeralChar {c : Char} (h : IsNumeralChar c) :
    Token.isWordChar c = true := by
  have digits : "0123456789".toList.all Token.isWordChar = true := by decide
  have others : ['.', 'e', '-', '+'].all Token.isWordChar = true := by decide
  rcases h with h | h
  · exact List.all_eq_true.mp digits c (mem_of_isDigit h)
  · exact List.all_eq_true.mp others c h

/-- A numeral is no constant and has no line break, so it stands for its number. -/
theorem ofWord_numeral {word : List Char} (chars : ∀ c ∈ word, IsNumeralChar c)
    {n : Decimal.Numeral} (read : Decimal.Numeral.ofChars? word = some n) :
    Value.ofWord word =
      if !n.integral then .ok (.float n.toFloat)
      else if Decimal.digitLimit < n.whole.length then .error (.reading n.whole.length)
      else .ok (.int n.toInt) := by
  have other : ∀ (s : List Char) (c : Char), c ∈ s → ¬ IsNumeralChar c → (word == s) = false := by
    intro s c hc hn
    rw [beq_eq_false_iff_ne]
    rintro rfl
    exact hn (chars c hc)
  have line : Text.dropLineEnd word = word := by
    unfold Text.dropLineEnd
    rw [if_neg]
    intro last
    have mem := List.mem_of_getLast? (beq_iff_eq.mp last)
    exact absurd (chars _ mem) (by decide)
  unfold Value.ofWord
  rw [other _ 'u' (by decide) (by decide), other _ 'r' (by decide) (by decide),
    other _ 'f' (by decide) (by decide), line, read]
  simp

end Numbers

namespace Value

open Decimal (IsNumeralChar)

/-- The value that a value's text stands for. -/
def reread : Value → Value
  | .float x =>
    match Decimal.toInt? x with
    | some n => if n.natAbs < Decimal.tenTo 16 then .int n else .float x
    | none => .float x
  | v => v

/-- The value has a text that can be read. -/
def IsReadable : Value → Prop
  | .int n => Decimal.isWritable n = true
  | .float x => Decimal.isFinite x = true
  | _ => True

instance : DecidablePred IsReadable
  | .int n => inferInstanceAs (Decidable (Decimal.isWritable n = true))
  | .float x => inferInstanceAs (Decidable (Decimal.isFinite x = true))
  | .null | .bool _ | .text _ => inferInstanceAs (Decidable True)

theorem IsReadable.isWritable {v : Value} (h : v.IsReadable) : v.isWritable = true := by
  cases v with
  | int n => exact h
  | _ => rfl

theorem isNumeralChar_intText (n : Int) : ∀ c ∈ (Decimal.intText n).toList, IsNumeralChar c := by
  intro c hc
  have digits := Decimal.allDigits_natDigits n.natAbs
  unfold Decimal.intText at hc
  rw [String.toList_ofList] at hc
  split at hc
  · rcases List.mem_cons.mp hc with rfl | h
    · exact Or.inr (by decide)
    · exact Or.inl (digits c h)
  · exact Or.inl (digits c hc)

/-- An integer of at most the greatest length comes back. -/
theorem ofWord_intText {n : Int} (h : Decimal.isWritable n = true) :
    ofWord (Decimal.intText n).toList = .ok (.int n) := by
  have small : n.natAbs < Decimal.tenTo Decimal.digitLimit := of_decide_eq_true h
  have length := Decimal.length_natDigits_le (by decide) small
  have value : (if n < 0 then -(n.natAbs : Int) else n.natAbs) = n := by split <;> omega
  rw [ofWord_numeral (isNumeralChar_intText n) (Decimal.ofChars?_intText n)]
  simp only [Bool.not_true, Bool.false_eq_true, if_false, Nat.not_lt.mpr length]
  unfold Decimal.Numeral.toInt
  simp only [Decimal.ofDigits_natDigits, decide_eq_true_eq, value]

/-- A number is written as an integer or as a number with a point or an exponent, and comes back
as the same kind. -/
theorem float_cases (x : Float) :
    (∃ n, Decimal.toInt? x = some n ∧ n.natAbs < Decimal.tenTo 16 ∧
      floatText x = Decimal.intText n ∧ reread (.float x) = .int n) ∨
    (∀ n, Decimal.toInt? x = some n → ¬ n.natAbs < Decimal.tenTo 16) ∧
      floatText x = Decimal.plain.text x ∧ reread (.float x) = .float x := by
  unfold floatText reread
  cases h : Decimal.toInt? x with
  | none => exact Or.inr ⟨by simp, rfl, by simp [h]⟩
  | some n =>
    by_cases small : n.natAbs < Decimal.tenTo 16
    · exact Or.inl ⟨n, rfl, small, by simp [small], by simp [h, small]⟩
    · exact Or.inr ⟨by simpa using small, by simp [small], by simp [h, small]⟩

theorem toInt?_zero {x : Float} {negative : Bool} {e : Int}
    (h : Decimal.parts x = .finite negative 0 e) : Decimal.toInt? x = some 0 := by
  unfold Decimal.toInt?
  rw [h]
  cases negative <;> simp

theorem ofWord_floatText {x : Float} (h : Decimal.isFinite x = true) :
    (∀ c ∈ (floatText x).toList, IsNumeralChar c) ∧
      ofWord (floatText x).toList = .ok (reread (.float x)) := by
  rcases float_cases x with ⟨n, _, small, text, value⟩ | ⟨great, text, value⟩ <;> rw [text, value]
  · have writable : Decimal.isWritable n = true :=
      decide_eq_true (small.trans_le (Decimal.tenTo_le_tenTo (by decide)))
    exact ⟨isNumeralChar_intText n, ofWord_intText writable⟩
  · unfold Decimal.isFinite at h
    split at h
    · rename_i negative m e parts_x
      have positive : 0 < m := by
        rcases Nat.eq_zero_or_pos m with rfl | positive
        · exact absurd (Decimal.tenTo_pos 16) (great 0 (toInt?_zero parts_x))
        · exact positive
      have unrounded : Decimal.plain.precision = none := rfl
      obtain ⟨chars, n, read, fraction, same⟩ :=
        Decimal.text_reads_back unrounded rfl parts_x positive
      refine ⟨chars, ?_⟩
      rw [ofWord_numeral chars read, fraction, same]
      rfl
    · cases h

/-- Every value but a text is a word, and the word stands for the value. -/
theorem ofWord_render {v : Value} (readable : v.IsReadable) (not_text : ∀ s, v ≠ .text s) :
    (∀ c ∈ v.render, Token.isWordChar c = true) ∧ ofWord v.render = .ok v.reread := by
  cases v with
  | null => exact ⟨List.all_eq_true.mp (by decide), rfl⟩
  | bool b => cases b <;> exact ⟨List.all_eq_true.mp (by decide), rfl⟩
  | int n =>
    exact ⟨fun c hc => isWordChar_of_isNumeralChar (isNumeralChar_intText n c hc),
      ofWord_intText readable⟩
  | float x =>
    obtain ⟨chars, read⟩ := ofWord_floatText readable
    exact ⟨fun c hc => isWordChar_of_isNumeralChar (chars c hc), read⟩
  | text s => exact absurd rfl (not_text s)

theorem reread_ne_text {v : Value} (not_text : ∀ s, v ≠ .text s) (s : String) :
    v.reread ≠ .text s := by
  cases v with
  | text s => exact absurd rfl (not_text s)
  | float x => rcases float_cases x with ⟨n, _, _, _, value⟩ | ⟨_, _, value⟩ <;> simp [value]
  | _ => exact Value.noConfusion

/-- A value's text is not empty, for an empty word stands for an empty text. -/
theorem render_ne_nil {v : Value} (readable : v.IsReadable) (not_text : ∀ s, v ≠ .text s) :
    v.render ≠ [] := by
  intro empty
  have read := (ofWord_render readable not_text).2
  rw [empty] at read
  have value : ofWord [] = .ok (.text "") := rfl
  rw [value] at read
  exact reread_ne_text not_text "" (Except.ok.inj read).symm

/-- Every value but the undefined number is equal to itself. -/
theorem same_self {v : Value} (defined : ∀ x, v = .float x → Decimal.parts x ≠ .nan) :
    v.same v = true := by
  cases v with
  | null => simp [same, toDocument, Document.same, Document.content]
  | bool b => simp [same, toDocument, Document.same, Document.content, Document.magnitude?,
      Document.Magnitude.same]
  | int n => simp [same, toDocument, Document.same, Document.content, Document.magnitude?,
      Document.Magnitude.same]
  | text s => simp [same, toDocument, Document.same, Document.content]
  | float x =>
    have equal := Decimal.beq_self (Decimal.isNaN_of_parts (defined x rfl))
    simpa [same, toDocument, Document.same, Document.content, Document.magnitude?,
      Document.Magnitude.same] using equal

theorem IsReadable.defined {v : Value} (h : v.IsReadable) :
    ∀ x, v = .float x → Decimal.parts x ≠ .nan := by
  rintro x rfl parts_x
  unfold IsReadable Decimal.isFinite at h
  simp [parts_x] at h

/-- A value that is read back is equal to what was written. -/
theorem reread_same {v : Value} (readable : v.IsReadable) : v.reread.same v = true := by
  cases v with
  | float x =>
    rcases float_cases x with ⟨n, whole, _, _, value⟩ | ⟨_, _, value⟩ <;> rw [value]
    · simp [same, toDocument, Document.same, Document.content, Document.magnitude?,
        Document.Magnitude.same, Decimal.equalsInt, whole]
    · exact same_self readable.defined
  | null | bool _ | int _ | text _ => exact same_self readable.defined

end Value

end Statecraft.Guard
