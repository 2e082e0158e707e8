import Mathlib.Data.List.Basic
import Mathlib.Tactic.Ring
import Statecraft.Decimal.Notation
import Statecraft.Decimal.Numeral

/-!
# Numerals that are written

Which numeral is read from digits with a sign before them and a fraction or an exponent behind
them (`ofChars?_point`, `ofChars?_whole`). The digits are ASCII ones; those written for a
natural number read as that number (`ofDigits_natDigits`).
-/

namespace Statecraft

namespace Text

section
variable {p : Char → Bool} {a b : List Char}

/-- What comes first, up to a character of another kind. -/
theorem takeWhile_append_of_stop (ha : ∀ c ∈ a, p c = true) (hb : ∀ c ∈ b.head?, p c = false) :
    (a ++ b).takeWhile p = a := by
  rw [List.takeWhile_append_of_pos ha]
  cases b with
  | nil => simp
  | cons c r => rw [List.takeWhile_cons_of_neg (by simp [hb c rfl]), List.append_nil]

theorem dropWhile_append_of_stop (ha : ∀ c ∈ a, p c = true) (hb : ∀ c ∈ b.head?, p c = false) :
    (a ++ b).dropWhile p = b := by
  rw [List.dropWhile_append_of_pos ha]
  cases b with
  | nil => rfl
  | cons c r => rw [List.dropWhile_cons_of_neg (by simp [hb c rfl])]

end

/-- Nothing but ASCII digits. -/
def AllDigits (s : List Char) : Prop := ∀ c ∈ s, c.isDigit = true

theorem digitValue?_of_isDigit {c : Char} (h : c.isDigit = true) :
    digitValue? c = some (c.toNat - 48) := by
  have range : 48 ≤ c.toNat ∧ c.toNat ≤ 57 := by
    simpa [Char.isDigit, UInt32.le_iff_toNat_le] using h
  have low : decide (0x30 ≤ c.toNat) = true := decide_eq_true range.1
  have high : decide (c.toNat < 0x30 + 10) = true := decide_eq_true (by omega)
  unfold digitValue? digitZeros
  dsimp only
  rw [List.find?_cons, low, high]
  rfl

theorem AllDigits.isDigit {s : List Char} (h : AllDigits s) : ∀ c ∈ s, isDigit c = true := by
  intro c hc
  simp [Text.isDigit, digitValue?_of_isDigit (h c hc)]

theorem AllDigits.append {a b : List Char} (ha : AllDigits a) (hb : AllDigits b) :
    AllDigits (a ++ b) :=
  fun c hc => (List.mem_append.mp hc).elim (ha c) (hb c)

theorem allDigits_zeros (n : Nat) : AllDigits (List.replicate n '0') := by
  intro c hc
  rw [List.eq_of_mem_replicate hc]
  rfl

/-- The digits as the conversion of natural numbers reads them. -/
theorem AllDigits.ofDigits_eq {s : List Char} (h : AllDigits s) :
    ofDigits s = Nat.ofDigitChars 10 s 0 := by
  rw [Nat.ofDigitChars_eq_foldl]
  apply List.foldl_ext
  intro n c hc
  simp only [digitValue, digitValue?_of_isDigit (h c hc), Option.getD_some]
  rw [Nat.mul_comm]
  rfl

theorem ofDigits_append (a b : List Char) :
    ofDigits (a ++ b) = ofDigits a * 10 ^ b.length + ofDigits b := by
  have run : ∀ (b : List Char) (n : Nat), b.foldl (fun n c => n * 10 + digitValue c) n =
      n * 10 ^ b.length + b.foldl (fun n c => n * 10 + digitValue c) 0 := by
    intro b
    induction b with
    | nil => simp
    | cons c r ih =>
      intro n
      rw [List.foldl_cons, List.foldl_cons, ih, ih (0 * 10 + digitValue c), List.length_cons]
      ring
  unfold ofDigits
  rw [List.foldl_append, run]

theorem ofDigits_zeros (n : Nat) : ofDigits (List.replicate n '0') = 0 := by
  rw [(allDigits_zeros n).ofDigits_eq, Nat.ofDigitChars_replicate_zero, Nat.mul_zero]

end Text

namespace Decimal

open Text (isDigit ofDigits AllDigits)

theorem allDigits_natDigits (n : Nat) : AllDigits (natDigits n) :=
  fun _ hc => Nat.isDigit_of_mem_toDigits (by decide) (by decide) hc

theorem ofDigits_natDigits (n : Nat) : ofDigits (natDigits n) = n := by
  rw [(allDigits_natDigits n).ofDigits_eq]
  exact Nat.ofDigitChars_ten_toDigits

theorem length_natDigits_le {n k : Nat} (hk : 0 < k) (h : n < tenTo k) :
    (natDigits n).length ≤ k :=
  (Nat.length_toDigits_le_iff (by decide) hk).mpr h

theorem tenTo_le_tenTo {j k : Nat} (h : j ≤ k) : tenTo j ≤ tenTo k :=
  Nat.pow_le_pow_right (by decide) h

theorem natDigits_ne_nil (n : Nat) : natDigits n ≠ [] := Nat.toDigits_ne_nil

/-- Only zero begins with a zero. -/
theorem head?_natDigits {n : Nat} (h : n ≠ 0) : (natDigits n).head? ≠ some '0' := by
  induction n using Nat.strongRecOn with
  | ind n ih =>
    unfold natDigits at ih ⊢
    by_cases small : n < 10
    · rw [Nat.toDigits_of_lt_base small]
      have all : ∀ m < 10, m ≠ 0 → [m.digitChar].head? ≠ some '0' := by decide
      exact all n small h
    · rw [Nat.toDigits_of_base_le (by decide) (Nat.not_lt.mp small),
        List.head?_append_of_ne_nil _ Nat.toDigits_ne_nil]
      exact ih (n / 10) (Nat.div_lt_self (Nat.pos_of_ne_zero h) (by decide)) (by omega)

/-- A minus or nothing before a text. -/
def signed (negative : Bool) (s : List Char) : List Char := if negative then '-' :: s else s

theorem splitSign_signed (negative : Bool) {s : List Char} (h : ∀ c ∈ s.head?, isDigit c = true) :
    splitSign (signed negative s) = (negative, s) := by
  have minus : isDigit '-' = false := by decide
  have plus : isDigit '+' = false := by decide
  cases negative with
  | true => rfl
  | false =>
    cases s with
    | nil => rfl
    | cons c r =>
      have digit := h c rfl
      unfold signed splitSign
      split
      · rename_i e
        obtain ⟨rfl, -⟩ := List.cons.inj e
        rw [minus] at digit
        cases digit
      · rename_i e
        obtain ⟨rfl, -⟩ := List.cons.inj e
        rw [plus] at digit
        cases digit
      · rfl

section
variable {whole fraction tail : List Char} {e : Option Int}

theorem head?_digit (hw : AllDigits whole) (nonempty : whole ≠ []) (rest : List Char) :
    ∀ c ∈ (whole ++ rest).head?, isDigit c = true := by
  cases whole with
  | nil => exact absurd rfl nonempty
  | cons d r =>
    rintro c ⟨⟩
    exact hw.isDigit _ List.mem_cons_self

/-- Digits around a point, and an exponent or nothing behind them. -/
theorem ofChars?_point (negative : Bool) (hw : AllDigits whole) (nonempty : whole ≠ [])
    (hf : AllDigits fraction) (stop : ∀ c ∈ tail.head?, isDigit c = false)
    (he : exponent? tail = some e) :
    Numeral.ofChars? (signed negative (whole ++ '.' :: (fraction ++ tail))) =
      some ⟨negative, whole, fraction, false, e.getD 0⟩ := by
  have point : ∀ c ∈ ('.' :: (fraction ++ tail)).head?, isDigit c = false := by
    rintro c ⟨⟩
    decide
  unfold Numeral.ofChars?
  rw [splitSign_signed negative (head?_digit hw nonempty _)]
  dsimp only
  rw [Text.takeWhile_append_of_stop hw.isDigit point,
    Text.dropWhile_append_of_stop hw.isDigit point]
  split
  · rename_i r h
    obtain rfl := (List.cons.inj h).2
    dsimp only
    rw [Text.takeWhile_append_of_stop hf.isDigit stop,
      Text.dropWhile_append_of_stop hf.isDigit stop, he]
    simp [nonempty]
  · rename_i other
    exact absurd rfl (other _)

/-- Digits without a point, and an exponent or nothing behind them. -/
theorem ofChars?_whole (negative : Bool) (hw : AllDigits whole) (nonempty : whole ≠ [])
    (stop : ∀ c ∈ tail.head?, isDigit c = false ∧ c ≠ '.') (he : exponent? tail = some e) :
    Numeral.ofChars? (signed negative (whole ++ tail)) =
      some ⟨negative, whole, [], e.isNone, e.getD 0⟩ := by
  have digits : ∀ c ∈ tail.head?, isDigit c = false := fun c hc => (stop c hc).1
  unfold Numeral.ofChars?
  rw [splitSign_signed negative (head?_digit hw nonempty _)]
  dsimp only
  rw [Text.takeWhile_append_of_stop hw.isDigit digits,
    Text.dropWhile_append_of_stop hw.isDigit digits]
  split
  · exact absurd rfl (stop '.' rfl).2
  · simp [nonempty, he]

end

/-- An integer is read as it is written. -/
theorem ofChars?_intText (n : Int) : Numeral.ofChars? (intText n).toList =
    some ⟨decide (n < 0), natDigits n.natAbs, [], true, 0⟩ := by
  have text : (intText n).toList = signed (decide (n < 0)) (natDigits n.natAbs ++ []) := by
    by_cases h : n < 0 <;> simp [intText, signed, h]
  rw [text]
  exact ofChars?_whole _ (allDigits_natDigits _) (natDigits_ne_nil _) (by simp)
    (show exponent? [] = some none from rfl)

/-- An exponent with its sign is read as it is written. -/
theorem exponent?_exponentText (style : Style) (e : Int) :
    exponent? (style.exponentText e) = some (some e) := by
  let ds := padLeft style.exponentWidth (natDigits e.natAbs)
  have digits : AllDigits ds := (Text.allDigits_zeros _).append (allDigits_natDigits _)
  have nonempty : ds ≠ [] := by simp [ds, padLeft, natDigits_ne_nil]
  have value : ofDigits ds = e.natAbs := by
    show ofDigits (List.replicate _ '0' ++ natDigits e.natAbs) = _
    rw [Text.ofDigits_append, Text.ofDigits_zeros, ofDigits_natDigits]
    omega
  have unsigned : splitSign ds = (false, ds) := by
    have head := head?_digit digits nonempty []
    rw [List.append_nil] at head
    exact splitSign_signed false head
  have read : ∀ (sign : List Char) (negative : Bool),
      splitSign (sign ++ ds) = (negative, ds) →
      (if negative then -(e.natAbs : Int) else e.natAbs) = e →
      exponent? ('e' :: (sign ++ ds)) = some (some e) := by
    intro sign negative split total
    have all := List.all_eq_true.mpr digits.isDigit
    simp only [exponent?, beq_self_eq_true, Bool.true_or, if_true, split]
    rw [value, total]
    simp [nonempty, all]
  show exponent? ('e' ::
    (if e < 0 then ['-'] else if style.exponentPlus then ['+'] else []) ++ ds) = _
  by_cases negative : e < 0
  · rw [if_pos negative]
    exact read ['-'] true rfl (by rw [if_pos rfl]; omega)
  · rw [if_neg negative]
    cases style.exponentPlus with
    | true => exact read ['+'] false rfl (by rw [if_neg (by decide)]; omega)
    | false => exact read [] false unsigned (by rw [if_neg (by decide)]; omega)

end Decimal

end Statecraft
