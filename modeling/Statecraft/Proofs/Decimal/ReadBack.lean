import Mathlib.Data.List.TakeWhile
import Statecraft.Proofs.Decimal.Numeral
import Statecraft.Proofs.Decimal.Shortest

/-!
# Numbers read back from their text

However a style spells the shortest decimal of a double, it is read as the same decimal
(`positive_spells`) and so as the same double (`text_reads_back`).
-/

namespace Statecraft.Decimal

open Text (ofDigits AllDigits)

/-- A character of the texts of finite numbers. -/
def IsNumeralChar (c : Char) : Prop := c.isDigit = true ∨ c ∈ ['.', 'e', '-', '+']

/-- The text is read as the decimal `d`, whatever sign is put before it. -/
structure Spells (s : List Char) (d : Digits) : Prop where
  chars : ∀ c ∈ s, IsNumeralChar c
  read : ∃ (whole fraction : List Char) (e : Int),
    (∀ negative, Numeral.ofChars? (signed negative s) =
      some ⟨negative, whole, fraction, false, e⟩) ∧
    (ofDigits (whole ++ fraction) : ℚ) * 10 ^ (e - fraction.length) = d.digits * 10 ^ d.exponent ∧
    min d.exponent 0 - 1 ≤ e - fraction.length

/-- Digits that write the decimal `d` with this exponent, which is not below its own. -/
structure Writes (ds : List Char) (e : Int) (d : Digits) : Prop where
  digits : AllDigits ds
  nonempty : ds ≠ []
  no_zero : ds.head? ≠ some '0'
  raised : d.exponent ≤ e
  value : (ofDigits ds : ℚ) * 10 ^ e = d.digits * 10 ^ d.exponent

/-- The digits without zeros at the end write the same decimal. -/
theorem dropZeros_writes {d : Digits} (hn : d.digits ≠ 0) {ds : List Char} {e : Int}
    (h : dropZeros (natDigits d.digits) d.exponent = (ds, e)) : Writes ds e d := by
  obtain ⟨n, k⟩ := d
  dsimp only at hn h
  let zeros := (natDigits n).reverse.takeWhile (· == '0')
  have all_zero : zeros.reverse = List.replicate zeros.length '0' := by
    rw [List.eq_replicate_iff, List.length_reverse]
    refine ⟨rfl, fun c hc => ?_⟩
    simpa using List.mem_takeWhile_imp (List.mem_reverse.mp hc)
  obtain ⟨rfl, rfl⟩ := Prod.mk.inj h
  let kept := ((natDigits n).reverse.dropWhile (· == '0')).reverse
  have split : natDigits n = kept ++ List.replicate zeros.length '0' := by
    rw [← all_zero, ← List.reverse_append, List.takeWhile_append_dropWhile, List.reverse_reverse]
  have length : (natDigits n).length = kept.length + zeros.length := by
    conv_lhs => rw [split, List.length_append, List.length_replicate]
  have value : n = ofDigits kept * 10 ^ zeros.length := by
    conv_lhs => rw [← ofDigits_natDigits n, split, Text.ofDigits_append, Text.ofDigits_zeros,
      List.length_replicate, Nat.add_zero]
  have some_digit : kept ≠ [] := by
    intro nothing
    apply hn
    rw [value, nothing]
    simp [ofDigits]
  refine ⟨fun c hc => ?_, some_digit, ?_, by dsimp only; omega, ?_⟩
  · apply allDigits_natDigits n c
    rw [split]
    exact List.mem_append_left _ hc
  · have first := head?_natDigits hn
    rwa [split, List.head?_append_of_ne_nil _ some_digit] at first
  · have raised : k + ((natDigits n).length - kept.length : Nat) = (zeros.length : Int) + k := by
      omega
    show (ofDigits kept : ℚ) * 10 ^ (k + ((natDigits n).length - kept.length : Nat)) = _
    rw [raised, zpow_add₀ (by norm_num), zpow_natCast, ← mul_assoc]
    conv_rhs => rw [value]
    push_cast
    rfl

section
variable {ds : List Char} {d : Digits} {e : Int}

theorem isNumeralChar_exponentText (style : Style) (k : Int) :
    ∀ c ∈ style.exponentText k, IsNumeralChar c := by
  intro c hc
  have digits : AllDigits (padLeft style.exponentWidth (natDigits k.natAbs)) :=
    (Text.allDigits_zeros _).append (allDigits_natDigits _)
  have sign : ∀ c ∈ (if k < 0 then ['-'] else if style.exponentPlus then ['+'] else []),
      c ∈ ['.', 'e', '-', '+'] := by
    split_ifs <;> simp
  rcases List.mem_append.mp hc with h | h
  · rcases List.mem_cons.mp h with rfl | h
    · exact Or.inr (by decide)
    · exact Or.inr (sign c h)
  · exact Or.inl (digits c h)

/-- Digits around a point are read as the decimal with all digits in a row. -/
theorem spells_point {whole fraction : List Char} (hw : AllDigits whole) (nonempty : whole ≠ [])
    (hf : AllDigits fraction)
    (value : (ofDigits (whole ++ fraction) : ℚ) * 10 ^ (-(fraction.length : Int)) =
      d.digits * 10 ^ d.exponent)
    (least : min d.exponent 0 - 1 ≤ -(fraction.length : Int)) :
    Spells (whole ++ '.' :: fraction) d where
  chars := by
    intro c hc
    rcases List.mem_append.mp hc with h | h
    · exact Or.inl (hw c h)
    · rcases List.mem_cons.mp h with rfl | h
      · exact Or.inr (by decide)
      · exact Or.inl (hf c h)
  read := by
    refine ⟨whole, fraction, 0, fun negative => ?_, by simpa using value, by omega⟩
    have read := ofChars?_point negative hw nonempty hf (by simp)
      (show exponent? [] = some none from rfl)
    simpa using read

/-- Digits, perhaps around a point, and an exponent are read as the decimal with all digits in a
row. -/
theorem spells_exponent {whole point fraction : List Char} (style : Style) {k : Int}
    (hw : AllDigits whole) (nonempty : whole ≠ []) (hf : AllDigits fraction)
    (hp : point = '.' :: fraction ∨ point = [] ∧ fraction = [])
    (value : (ofDigits (whole ++ fraction) : ℚ) * 10 ^ (k - fraction.length) =
      d.digits * 10 ^ d.exponent)
    (least : min d.exponent 0 - 1 ≤ k - fraction.length) :
    Spells (whole ++ point ++ style.exponentText k) d where
  chars := by
    intro c hc
    rcases List.mem_append.mp hc with h | h
    · rcases List.mem_append.mp h with h | h
      · exact Or.inl (hw c h)
      · rcases hp with rfl | ⟨rfl, _⟩
        · rcases List.mem_cons.mp h with rfl | h
          · exact Or.inr (by decide)
          · exact Or.inl (hf c h)
        · cases h
    · exact isNumeralChar_exponentText style k c h
  read := by
    refine ⟨whole, fraction, k, fun negative => ?_, value, least⟩
    have tail := exponent?_exponentText style k
    have stop : ∀ c ∈ (style.exponentText k).head?, Text.isDigit c = false ∧ c ≠ '.' := by
      rintro c ⟨⟩
      decide
    rcases hp with rfl | ⟨rfl, rfl⟩
    · have read := ofChars?_point negative hw nonempty hf
        (fun c hc => (stop c hc).1) tail
      simpa using read
    · have read := ofChars?_whole negative hw nonempty stop tail
      simpa using read

namespace Writes

variable (h : Writes ds e d)
include h

theorem split (n : Nat) : AllDigits (ds.take n) ∧ AllDigits (ds.drop n) :=
  ⟨fun c hc => h.digits c (List.mem_of_mem_take hc),
    fun c hc => h.digits c (List.mem_of_mem_drop hc)⟩

/-- All digits behind the point. -/
theorem spells_behind (small : ds.length + e ≤ 0) :
    Spells ('0' :: '.' :: List.replicate (-(ds.length + e)).toNat '0' ++ ds) d := by
  have raised := h.raised
  have single : AllDigits ['0'] := Text.allDigits_zeros 1
  have zeros := Text.allDigits_zeros (-(ds.length + e)).toNat
  have zero : ofDigits ['0'] = 0 := rfl
  have places : -((List.replicate (-(ds.length + e)).toNat '0' ++ ds).length : Int) = e := by
    rw [List.length_append, List.length_replicate]
    omega
  apply spells_point single (by simp) (zeros.append h.digits)
  · rw [places, Text.ofDigits_append, Text.ofDigits_append, Text.ofDigits_zeros, zero,
      Nat.zero_mul, Nat.zero_mul, Nat.zero_add, Nat.zero_add]
    exact h.value
  · omega

/-- All digits before the point. -/
theorem spells_before (great : ds.length ≤ (ds.length + e).toNat) (positive : 0 < ds.length + e) :
    Spells (ds ++ List.replicate ((ds.length + e).toNat - ds.length) '0' ++ ['.', '0']) d := by
  have single : AllDigits ['0'] := Text.allDigits_zeros 1
  have zeros := Text.allDigits_zeros ((ds.length + e).toNat - ds.length)
  have zero : ofDigits ['0'] = 0 := rfl
  have places : (ds.length + e).toNat - ds.length = e.toNat := by omega
  apply spells_point (h.digits.append zeros) (by simp [h.nonempty]) single
  · rw [Text.ofDigits_append, Text.ofDigits_append, Text.ofDigits_zeros, zero, ← h.value, places,
      List.length_replicate]
    have whole : (e.toNat : Int) = e := by omega
    rw [← whole, zpow_natCast, whole]
    push_cast
    norm_num
    ring
  · simp

/-- Digits on both sides of the point. -/
theorem spells_around (less : ¬ ds.length ≤ (ds.length + e).toNat) (positive : 0 < ds.length + e) :
    Spells (ds.take (ds.length + e).toNat ++ '.' :: ds.drop (ds.length + e).toNat) d := by
  have raised := h.raised
  have places : -((ds.drop (ds.length + e).toNat).length : Int) = e := by
    rw [List.length_drop]
    omega
  apply spells_point (h.split _).1 _ (h.split _).2
  · rw [places, List.take_append_drop]
    exact h.value
  · omega
  · have : 0 < (ds.length + e).toNat := by omega
    simp [h.nonempty]
    omega

/-- One digit, perhaps with a zero behind the point, and an exponent. -/
theorem spells_single (style : Style) (one : ds.length = 1) (pointed : Bool) :
    Spells (ds.take 1 ++ (if pointed then ['.', '0'] else []) ++
      style.exponentText (ds.length + e - 1)) d := by
  have raised := h.raised
  have first : ds.take 1 ≠ [] := by simp [h.nonempty]
  have alone : ds.drop 1 = [] := by
    rw [← List.length_eq_zero_iff, List.length_drop, one]
  have whole : ds.take 1 = ds := by
    conv_rhs => rw [← List.take_append_drop 1 ds, alone, List.append_nil]
  cases pointed with
  | true =>
    apply spells_exponent style (h.split 1).1 first (Text.allDigits_zeros 1) (Or.inl rfl)
    · have zero : ofDigits (List.replicate 1 '0') = 0 := rfl
      have places : (ds.length : Int) + e - 1 - ((List.replicate 1 '0').length : Int) = e - 1 := by
        rw [one, List.length_replicate]
        omega
      rw [whole, Text.ofDigits_append, zero, ← h.value, places, zpow_sub₀ (by norm_num)]
      push_cast
      norm_num
      ring
    · rw [one, List.length_replicate]
      omega
  | false =>
    apply spells_exponent style (h.split 1).1 first (h.split 1).2 (Or.inr ⟨rfl, alone⟩)
    · rw [List.take_append_drop, ← h.value, alone, one]
      congr 2
      simp
    · rw [alone, one]
      simp
      omega

/-- Several digits, the first one before the point, and an exponent. -/
theorem spells_several (style : Style) :
    Spells (ds.take 1 ++ '.' :: ds.drop 1 ++ style.exponentText (ds.length + e - 1)) d := by
  have raised := h.raised
  have length : 0 < ds.length := List.length_pos_iff.mpr h.nonempty
  have first : ds.take 1 ≠ [] := by simp [h.nonempty]
  have tail_length : ((ds.drop 1).length : Int) = ds.length - 1 := by
    rw [List.length_drop]
    omega
  apply spells_exponent style (h.split 1).1 first (h.split 1).2 (Or.inl rfl)
  · rw [tail_length, List.take_append_drop, ← h.value]
    congr 2
    omega
  · omega

end Writes

end

/-- **A style spells a decimal so that it is read as this decimal**, if it ends whole numbers
in a point and a zero. -/
theorem positive_spells {style : Style} (wholeEnd : style.wholeEnd = ".0") {d : Digits}
    (hd : d.digits ≠ 0) : Spells (style.positive d) d := by
  unfold Style.positive
  generalize h : dropZeros (natDigits d.digits) d.exponent = p
  obtain ⟨ds, e⟩ := p
  have writes := dropZeros_writes hd h
  dsimp only
  split
  · split
    · rename_i small
      exact writes.spells_behind small
    · rename_i positive
      have positive := Int.not_le.mp positive
      split
      · rename_i great
        rw [wholeEnd]
        exact writes.spells_before great positive
      · rename_i less
        exact writes.spells_around less positive
  · split
    · rename_i one
      exact writes.spells_single style (beq_iff_eq.mp one) _
    · exact writes.spells_several style

section
variable {style : Style} {x : Float} {negative : Bool} {m : Nat} {e : Int}

/-- The text of a double has the digits of its shortest decimal, if it is not rounded. -/
theorem text_eq_signed (unrounded : style.precision = none)
    (parts_x : parts x = .finite negative m e) (positive : 0 < m) :
    (style.text x).toList = signed negative (style.positive (shortest m e)) := by
  have nonzero : (m == 0) = false := by simpa using (by omega : m ≠ 0)
  unfold Style.text
  rw [parts_x, unrounded]
  dsimp only
  rw [nonzero]
  cases negative <;> simp [signed]

/-- The shortest decimal of a double is read as the double, under the sign that this has. -/
theorem positive_reads_back (wholeEnd : style.wholeEnd = ".0")
    (parts_x : parts x = .finite negative m e) (positive : 0 < m) :
    (∀ c ∈ style.positive (shortest m e), IsNumeralChar c) ∧
      ∃ n : Numeral, n.integral = false ∧ { n with negative := negative }.toFloat = x ∧
        ∀ sign, Numeral.ofChars? (signed sign (style.positive (shortest m e))) =
          some { n with negative := sign } := by
  obtain ⟨some_digit, least, contains⟩ := shortest_spec (parts_eq_finite parts_x).1 positive
  have spells : Spells (style.positive (shortest m e)) (shortest m e) :=
    positive_spells wholeEnd some_digit
  obtain ⟨chars, whole, fraction, k, read, value, fine⟩ := spells
  refine ⟨chars, ⟨negative, whole, fraction, false, k⟩, rfl, ?_, read⟩
  apply ofDecimal_of_contains parts_x positive
  · dsimp only
    omega
  · dsimp only
    rw [value]
    exact contains

/-- **The text of a double is read as the double**, if it is not rounded and ends whole numbers
in a point and a zero. -/
theorem text_reads_back (unrounded : style.precision = none) (wholeEnd : style.wholeEnd = ".0")
    (parts_x : parts x = .finite negative m e) (positive : 0 < m) :
    (∀ c ∈ (style.text x).toList, IsNumeralChar c) ∧
      ∃ n, Numeral.ofChars? (style.text x).toList = some n ∧ n.integral = false ∧
        n.toFloat = x := by
  obtain ⟨chars, n, integral, same, read⟩ := positive_reads_back wholeEnd parts_x positive
  rw [text_eq_signed unrounded parts_x positive]
  refine ⟨?_, _, read negative, integral, same⟩
  intro c hc
  cases negative with
  | false => exact chars c hc
  | true =>
    rcases List.mem_cons.mp hc with rfl | h
    · exact Or.inr (by decide)
    · exact chars c h

/-- The doubles without digits are zero and zero with a minus. -/
theorem nearest_zero (parts_x : parts x = .finite negative 0 e) : nearest negative 0 1 = x := by
  obtain ⟨fits, bits⟩ := parts_eq_finite parts_x
  have least : e = -1074 := fits.normal.resolve_right (by omega)
  apply Float.toBits_inj.mp
  apply UInt64.toNat_inj.mp
  rw [toNat_toBits_nearest, bits, least]
  rfl

end

end Statecraft.Decimal
