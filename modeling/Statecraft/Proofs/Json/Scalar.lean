import Statecraft.Json.Reader
import Statecraft.Json.Writer
import Statecraft.Proofs.Decimal.ReadBack

/-!
# Strings and numbers read back

Whatever a style escapes, a string is read as the text it was written for (`string_string`). A
number, whole or not, is read up to its end (`readsNumber_int`, `readsNumber_float`).
-/

namespace Statecraft

namespace Text

theorem hexValue?_hexDigit (n : Nat) : hexValue? (hexDigit n) = some (n % 16) := by
  have all : ∀ m < 16, hexValue? (hexDigit m) = some m := by decide
  have same : hexDigit n = hexDigit (n % 16) := by simp [hexDigit]
  rw [same]
  exact all _ (Nat.mod_lt _ (by decide))

end Text

namespace Json

section Strings

variable {s : List Char} {c : Char}

/-- A code unit is read from its four digits. -/
theorem code?_hex {n : Nat} (unit : n < 0x10000) (more : s ≠ []) :
    code? (Text.hex 4 n ++ s) = some (n, s) := by
  obtain ⟨next, r, rfl⟩ := List.exists_cons_of_ne_nil more
  have value : ((n / 16 / 16 / 16 % 16 * 16 + n / 16 / 16 % 16) * 16 + n / 16 % 16) * 16 + n % 16 =
      n := by omega
  simp [code?, Text.hex, Text.hexValue?_hexDigit, value]

theorem toNat_cases (c : Char) : c.toNat < 0xD800 ∨ 0xDFFF < c.toNat ∧ c.toNat < 0x110000 :=
  c.valid

/-- A character below the pairs is read from one escape. -/
theorem unicode?_unit (unit : c.toNat < 0x10000) (more : s ≠ []) :
    unicode? (Text.hex 4 c.toNat ++ s) = some (c, s) := by
  have valid := toNat_cases c
  have not_high : isHigh c.toNat = false := by
    simp only [isHigh, Bool.and_eq_false_iff, decide_eq_false_iff_not]
    omega
  have not_low : isLow c.toNat = false := by
    simp only [isLow, Bool.and_eq_false_iff, decide_eq_false_iff_not]
    omega
  have same : ofCode c.toNat = c := by
    simp [ofCode, not_high, not_low, Char.ofNat_toNat]
  simp [unicode?, code?_hex unit more, not_high, same]

/-- A character of two escapes is read from both. -/
theorem unicode?_pair {m n : Nat} (high : isHigh m = true) (low : isLow n = true)
    (value : 0x10000 + (m - 0xD800) * 0x400 + (n - 0xDC00) = c.toNat) (more : s ≠ []) :
    unicode? (Text.hex 4 m ++ (unitEscape n ++ s)) = some (c, s) := by
  have unit : m < 0x10000 := by
    simp only [isHigh, Bool.and_eq_true, decide_eq_true_eq] at high
    omega
  have unit' : n < 0x10000 := by
    simp only [isLow, Bool.and_eq_true, decide_eq_true_eq] at low
    omega
  have first : code? (Text.hex 4 m ++ (unitEscape n ++ s)) = some (m, unitEscape n ++ s) :=
    code?_hex unit (by simp [unitEscape])
  unfold unicode?
  rw [first]
  simp only [Option.bind_eq_bind, Option.bind_some, high, if_true, unitEscape, List.cons_append,
    code?_hex unit' more, low, value, Char.ofNat_toNat]

/-- The ways in which a character is written inside a string. -/
inductive Spelled (c : Char) : List Char → Prop
  | letter {e : Char} : e ≠ 'u' → escaped? e = some c → Spelled c ['\\', e]
  | unit : c.toNat < 0x10000 → Spelled c (unitEscape c.toNat)
  | plain : c ≠ '"' → c ≠ '\\' → ¬ c.toNat < 32 → Spelled c [c]
  | pair {m n : Nat} : isHigh m = true → isLow n = true →
      0x10000 + (m - 0xD800) * 0x400 + (n - 0xDC00) = c.toNat →
      Spelled c (unitEscape m ++ unitEscape n)

theorem spelled_char (style : Style) (c : Char) : Spelled c (style.char c) := by
  have ofNat : ∀ n, c.toNat = n → c = Char.ofNat n := fun n h => h ▸ (Char.ofNat_toNat c).symm
  unfold Style.char
  dsimp only
  split
  · next quote =>
    rw [beq_iff_eq.mp quote]
    exact .letter (by decide) rfl
  next no_quote =>
  split
  · next backslash =>
    rw [beq_iff_eq.mp backslash]
    exact .letter (by decide) rfl
  next no_backslash =>
  split
  · next feed =>
    rw [beq_iff_eq.mp feed]
    exact .letter (by decide) rfl
  split
  · next carriage =>
    rw [beq_iff_eq.mp carriage]
    exact .letter (by decide) rfl
  split
  · next tab =>
    rw [beq_iff_eq.mp tab]
    exact .letter (by decide) rfl
  split
  · next bell =>
    rw [ofNat 8 (beq_iff_eq.mp bell)]
    exact .letter (by decide) rfl
  split
  · next form =>
    rw [ofNat 12 (beq_iff_eq.mp form)]
    exact .letter (by decide) rfl
  split
  · exact .unit (by omega)
  next visible =>
  split
  · exact .plain (fun h => no_quote (beq_iff_eq.mpr h)) (fun h => no_backslash (beq_iff_eq.mpr h))
      visible
  split
  · next unit => exact .unit unit
  · have valid := toNat_cases c
    refine .pair ?_ ?_ ?_
    · simp only [isHigh, Bool.and_eq_true, decide_eq_true_eq]
      omega
    · simp only [isLow, Bool.and_eq_true, decide_eq_true_eq]
      omega
    · omega

/-- Reading goes past one character, however it is written. -/
theorem Spelled.readString {t : List Char} (h : Spelled c t) (more : s ≠ []) (start fuel : Nat)
    (done : List Char) : readString start (fuel + 1) done (t ++ s) =
      readString start fuel (c :: done) s := by
  have escape : ∀ t, unicode? t = some (c, s) →
      Json.readString start (fuel + 1) done ('\\' :: 'u' :: t) =
        Json.readString start fuel (c :: done) s := by
    intro t read
    conv_lhs => unfold Json.readString
    simp [read]
  cases h with
  | @letter e no_unit read =>
    show Json.readString start (fuel + 1) done ('\\' :: e :: s) = _
    conv_lhs => unfold Json.readString
    simp [read]
  | unit small => exact escape _ (unicode?_unit small more)
  | plain no_quote no_backslash visible =>
    show Json.readString start (fuel + 1) done (c :: s) = _
    conv_lhs => unfold Json.readString
    simp [no_quote, no_backslash, visible]
  | pair high low value =>
    rw [List.append_assoc]
    exact escape _ (unicode?_pair high low value more)

theorem readString_flatMap (style : Style) (start : Nat) (cs : List Char) (fuel : Nat)
    (done rest : List Char) (enough : cs.length < fuel) :
    readString start fuel done (cs.flatMap style.char ++ '"' :: rest) =
      .ok (cs.reverse ++ done, rest) := by
  induction cs generalizing fuel done with
  | nil =>
    obtain ⟨fuel, rfl⟩ := Nat.exists_eq_succ_of_ne_zero (Nat.ne_of_gt enough)
    rfl
  | cons c r ih =>
    obtain ⟨fuel, rfl⟩ := Nat.exists_eq_succ_of_ne_zero (Nat.ne_of_gt (Nat.zero_lt_of_lt enough))
    rw [List.flatMap_cons, List.append_assoc, (spelled_char style c).readString (by simp),
      ih fuel (c :: done) (Nat.lt_of_succ_lt_succ enough)]
    simp

theorem Spelled.ne_nil {t : List Char} (h : Spelled c t) : t ≠ [] := by
  cases h <;> simp [unitEscape]

/-- **A string is read as the text it was written for.** -/
theorem string_string (style : Style) (t : String) (rest : List Char) :
    ∃ inside, style.string t = '"' :: inside ∧ string (inside ++ rest) = .ok (t, rest) := by
  refine ⟨t.toList.flatMap style.char ++ ['"'], rfl, ?_⟩
  have enough : t.toList.length <
      (t.toList.flatMap style.char ++ ['"'] ++ rest).length + 1 := by
    have each : t.toList.length ≤ (t.toList.flatMap style.char).length := by
      induction t.toList with
      | nil => simp
      | cons c r ih =>
        have some_char := List.length_pos_iff.mpr (spelled_char style c).ne_nil
        rw [List.flatMap_cons, List.length_append, List.length_cons]
        omega
    simp only [List.length_append]
    omega
  unfold string
  rw [List.append_assoc]
  rw [List.append_assoc] at enough
  rw [List.singleton_append] at enough ⊢
  rw [readString_flatMap style _ _ _ _ _ enough]
  simp [Except.map]

end Strings

section Numbers

open Text (AllDigits isAsciiDigit)

variable {whole frac exp rest : List Char}

/-- What stands behind a number does not go on with it. -/
def EndsNumber (s : List Char) : Prop :=
  ∀ c ∈ s.head?, isAsciiDigit c = false ∧ c ≠ '.' ∧ c ≠ 'e' ∧ c ≠ 'E'

/-- Digits before the point: a zero alone, or digits that do not begin with one. -/
structure IsWhole (s : List Char) : Prop where
  digits : AllDigits s
  nonempty : s ≠ []
  no_zero : s = ['0'] ∨ s.head? ≠ some '0'

/-- A point with digits behind it, or nothing. -/
inductive IsFraction : List Char → Prop
  | none : IsFraction []
  | digits {ds : List Char} : AllDigits ds → ds ≠ [] → IsFraction ('.' :: ds)

/-- An exponent with or without a sign, or nothing. -/
inductive IsExponent : List Char → Prop
  | none : IsExponent []
  | digits {sign ds : List Char} : sign ∈ [[], ['-'], ['+']] → AllDigits ds → ds ≠ [] →
      IsExponent ('e' :: (sign ++ ds))

theorem isAsciiDigit_of_isDigit {c : Char} (h : c.isDigit = true) : isAsciiDigit c = true := h

theorem allAsciiDigits {ds : List Char} (h : AllDigits ds) : ∀ c ∈ ds, isAsciiDigit c = true :=
  fun c hc => isAsciiDigit_of_isDigit (h c hc)

theorem IsExponent.head (h : IsExponent exp) (ends : EndsNumber rest) :
    ∀ c ∈ (exp ++ rest).head?, isAsciiDigit c = false ∧ c ≠ '.' := by
  cases h with
  | none => exact fun c hc => ⟨(ends c hc).1, (ends c hc).2.1⟩
  | digits _ _ _ =>
    rintro c ⟨⟩
    decide

theorem IsFraction.head (h : IsFraction frac) (stop : ∀ c ∈ rest.head?, isAsciiDigit c = false) :
    ∀ c ∈ (frac ++ rest).head?, isAsciiDigit c = false := by
  cases h with
  | none => exact stop
  | digits _ _ =>
    rintro c ⟨⟩
    decide

theorem fraction_append (h : IsFraction frac)
    (stop : ∀ c ∈ rest.head?, isAsciiDigit c = false ∧ c ≠ '.') :
    fraction (frac ++ rest) = (frac, rest) := by
  cases h with
  | none =>
    cases rest with
    | nil => rfl
    | cons c r =>
      have no_point := (stop c rfl).2
      unfold fraction
      split
      · rename_i same
        exact absurd (List.cons.inj same).1 no_point
      · rfl
  | @digits ds digits some_digit =>
    obtain ⟨d, ds, rfl⟩ := List.exists_cons_of_ne_nil some_digit
    have all := allAsciiDigits digits
    have first : isAsciiDigit d = true := all d List.mem_cons_self
    have others : ∀ c ∈ ds, isAsciiDigit c = true := fun c hc => all c (List.mem_cons_of_mem _ hc)
    have digit_stop : ∀ c ∈ rest.head?, isAsciiDigit c = false := fun c hc => (stop c hc).1
    simp only [List.cons_append, fraction, first, if_true,
      Text.takeWhile_append_of_stop others digit_stop,
      Text.dropWhile_append_of_stop others digit_stop]

theorem exponent_append (h : IsExponent exp) (ends : EndsNumber rest) :
    exponent (exp ++ rest) = (exp, rest) := by
  cases h with
  | none =>
    cases rest with
    | nil => rfl
    | cons c r =>
      obtain ⟨_, _, lower, upper⟩ := ends c rfl
      simp [exponent, lower, upper]
  | @digits sign ds sign_ok digits some_digit =>
    have all := allAsciiDigits digits
    have stop : ∀ c ∈ rest.head?, isAsciiDigit c = false := fun c hc => (ends c hc).1
    have taken := Text.takeWhile_append_of_stop all stop
    have left := Text.dropWhile_append_of_stop all stop
    simp only [List.mem_cons, List.not_mem_nil, or_false] at sign_ok
    rcases sign_ok with rfl | rfl | rfl
    · obtain ⟨d, ds, rfl⟩ := List.exists_cons_of_ne_nil some_digit
      have no_sign : d ≠ '+' ∧ d ≠ '-' := by
        have digit := all d List.mem_cons_self
        constructor <;> rintro rfl <;> cases digit
      rw [List.cons_append] at taken left
      simp [exponent, no_sign, taken, left]
    · simp [exponent, taken, left, some_digit]
    · simp [exponent, taken, left, some_digit]

/-- A number is cut where it ends. -/
theorem number?_append (hw : IsWhole whole) (hf : IsFraction frac) (he : IsExponent exp)
    (ends : EndsNumber rest) (negative : Bool) :
    number? negative (whole ++ (frac ++ (exp ++ rest))) =
      if frac = [] ∧ exp = [] then
        if Decimal.digitLimit < whole.length then
          some (.error (.limit (.reading whole.length)), rest)
        else
          some (.ok (.int (if negative then -(Text.ofDigits whole : Int) else Text.ofDigits whole)),
            rest)
      else (Decimal.Numeral.ofChars? (whole ++ (frac ++ exp))).map fun n =>
        (.ok (.float { n with negative := negative }.toFloat), rest) := by
  have fraction := fraction_append hf (he.head ends)
  have exponent := exponent_append he ends
  obtain ⟨d, ds, rfl⟩ := List.exists_cons_of_ne_nil hw.nonempty
  rcases hw.no_zero with zero | no_zero
  · obtain ⟨rfl, rfl⟩ := List.cons.inj zero
    simp [number?, fraction, exponent, Option.map_eq_bind]
  · have nonzero : d ≠ '0' := fun h => no_zero (congrArg some h)
    have all := allAsciiDigits hw.digits
    have digit : isAsciiDigit d = true := all d List.mem_cons_self
    have stop := hf.head fun c hc => (he.head ends c hc).1
    have taken := Text.takeWhile_append_of_stop all stop
    have left := Text.dropWhile_append_of_stop all stop
    rw [List.cons_append] at taken left
    simp [number?, digit, taken, left, fraction, exponent, Option.map_eq_bind]

/-- The text begins with a digit or a minus, and is read as the document up to its end. -/
structure ReadsNumber (t : List Char) (d : Document) : Prop where
  head : ∃ c r, t = c :: r ∧ (isAsciiDigit c = true ∨ c = '-')
  read : ∀ rest, EndsNumber rest → scalar (t ++ rest) = .ok (d, rest)

/-- What is read after a minus or without one is read as a scalar. -/
theorem readsNumber_signed {s : List Char} {negative : Bool} {d : Document} (nonempty : s ≠ [])
    (digit : ∀ c ∈ s.head?, isAsciiDigit c = true)
    (read : ∀ rest, EndsNumber rest → number? negative (s ++ rest) = some (.ok d, rest)) :
    ReadsNumber (Decimal.signed negative s) d := by
  obtain ⟨c, r, rfl⟩ := List.exists_cons_of_ne_nil nonempty
  have first := digit c rfl
  have other : ∀ x, isAsciiDigit x = false → c ≠ x := by
    rintro x letter rfl
    rw [letter] at first
    cases first
  cases negative with
  | true =>
    refine ⟨⟨'-', _, rfl, Or.inr rfl⟩, fun rest ends => ?_⟩
    have number := read rest ends
    have no_name : c ≠ 'I' := other 'I' (by decide)
    rw [List.cons_append] at number
    simp [Decimal.signed, scalar, no_name, number, Except.map]
  | false =>
    refine ⟨⟨c, _, rfl, Or.inl first⟩, fun rest ends => ?_⟩
    have number := read rest ends
    have no_name : c ≠ 'n' ∧ c ≠ 't' ∧ c ≠ 'f' ∧ c ≠ 'N' ∧ c ≠ 'I' ∧ c ≠ '-' :=
      ⟨other _ (by decide), other _ (by decide), other _ (by decide), other _ (by decide),
        other _ (by decide), other _ (by decide)⟩
    rw [List.cons_append] at number
    simp [Decimal.signed, scalar, no_name, number, Except.map]

theorem isWhole_natDigits (n : Nat) : IsWhole (Decimal.natDigits n) where
  digits := Decimal.allDigits_natDigits n
  nonempty := Decimal.natDigits_ne_nil n
  no_zero := by
    by_cases zero : n = 0
    · exact Or.inl (zero ▸ rfl)
    · exact Or.inr (Decimal.head?_natDigits zero)

theorem isExponent_exponentText (style : Decimal.Style) (k : Int) :
    IsExponent (style.exponentText k) := by
  unfold Decimal.Style.exponentText
  refine .digits ?_ ((Text.allDigits_zeros _).append (Decimal.allDigits_natDigits _)) ?_
  · split_ifs <;> simp
  · simp [Decimal.padLeft, Decimal.natDigits_ne_nil]

/-- A decimal is written in JSON's shape, with a fraction or an exponent. -/
theorem positive_shape {style : Decimal.Style} (wholeEnd : style.wholeEnd = ".0")
    {d : Decimal.Digits} (hd : d.digits ≠ 0) : ∃ whole frac exp,
      style.positive d = whole ++ (frac ++ exp) ∧ IsWhole whole ∧ IsFraction frac ∧
        IsExponent exp ∧ ¬ (frac = [] ∧ exp = []) := by
  unfold Decimal.Style.positive
  generalize kept : Decimal.dropZeros (Decimal.natDigits d.digits) d.exponent = p
  obtain ⟨ds, e⟩ := p
  have writes := Decimal.dropZeros_writes hd kept
  have no_zero := writes.no_zero
  have part : ∀ n, n ≠ 0 → IsWhole (ds.take n) := by
    intro n some_digit
    refine ⟨(writes.split n).1, by simp [writes.nonempty, some_digit], Or.inr ?_⟩
    rwa [List.head?_take, if_neg some_digit]
  have exponent := isExponent_exponentText style (ds.length + e - 1)
  dsimp only
  split
  · split
    · -- all digits behind the point
      refine ⟨['0'], '.' :: (List.replicate (-(ds.length + e)).toNat '0' ++ ds), [], by simp,
        isWhole_natDigits 0, .digits ((Text.allDigits_zeros _).append writes.digits) ?_, .none,
        by simp⟩
      simp [writes.nonempty]
    · rename_i positive
      split
      · -- all digits before the point
        refine ⟨ds ++ List.replicate ((ds.length + e).toNat - ds.length) '0', ['.', '0'], [], ?_,
          ⟨writes.digits.append (Text.allDigits_zeros _), by simp [writes.nonempty], Or.inr ?_⟩,
          .digits (Text.allDigits_zeros 1) (by simp), .none, by simp⟩
        · rw [wholeEnd]
          rfl
        · rwa [List.head?_append_of_ne_nil _ writes.nonempty]
      · rename_i less
        refine ⟨_, _, [], by rw [List.append_nil], part _ (by omega),
          .digits (writes.split _).2 ?_, .none, by simp⟩
        rw [← List.length_pos_iff, List.length_drop]
        omega
  · rw [List.append_assoc]
    have some_exponent : style.exponentText (ds.length + e - 1) ≠ [] := by
      simp [Decimal.Style.exponentText]
    refine ⟨ds.take 1, _, _, rfl, part 1 (by decide), ?_, exponent, fun h => some_exponent h.2⟩
    split
    · split
      · exact .digits (Text.allDigits_zeros 1) (by simp)
      · exact .none
    · rename_i several
      have length := List.length_pos_iff.mpr writes.nonempty
      refine .digits (writes.split 1).2 ?_
      rw [← List.length_pos_iff, List.length_drop]
      simp only [beq_iff_eq] at several
      omega

theorem IsWhole.head (h : IsWhole whole) (rest : List Char) :
    ∀ c ∈ (whole ++ rest).head?, isAsciiDigit c = true := by
  rw [List.head?_append_of_ne_nil _ h.nonempty]
  intro c hc
  exact allAsciiDigits h.digits c (List.mem_of_mem_head? hc)

/-- An integer that is not too long is read as it is written. -/
theorem readsNumber_int {n : Int} (short : Decimal.isWritable n = true) :
    ReadsNumber (Decimal.intText n).toList (.int n) := by
  have whole := isWhole_natDigits n.natAbs
  have within : (Decimal.natDigits n.natAbs).length ≤ Decimal.digitLimit :=
    Decimal.length_natDigits_le (by decide) (of_decide_eq_true short)
  have value : (if decide (n < 0) then -(Text.ofDigits (Decimal.natDigits n.natAbs) : Int)
      else Text.ofDigits (Decimal.natDigits n.natAbs)) = n := by
    rw [Decimal.ofDigits_natDigits]
    by_cases negative : n < 0
    · rw [if_pos (decide_eq_true negative)]
      omega
    · rw [if_neg (by simpa using negative)]
      omega
  have text : (Decimal.intText n).toList =
      Decimal.signed (decide (n < 0)) (Decimal.natDigits n.natAbs) := by
    by_cases negative : n < 0 <;> simp [Decimal.intText, Decimal.signed, negative]
  rw [text]
  have head := whole.head []
  rw [List.append_nil] at head
  refine readsNumber_signed whole.nonempty head fun rest ends => ?_
  have read := number?_append whole .none .none ends (decide (n < 0))
  rwa [if_pos ⟨rfl, rfl⟩, if_neg (Nat.not_lt.mpr within), value] at read

/-- A finite number is read as it is written, if it is not rounded and a whole one has a point. -/
theorem readsNumber_float {style : Decimal.Style} (unrounded : style.precision = none)
    (wholeEnd : style.wholeEnd = ".0") {x : Float} (finite : Decimal.isFinite x = true) :
    ReadsNumber (style.text x).toList (.float x) := by
  unfold Decimal.isFinite at finite
  split at finite
  · rename_i negative m e parts_x
    rcases Nat.eq_zero_or_pos m with rfl | positive
    · have text : (style.text x).toList = Decimal.signed negative ['0', '.', '0'] := by
        unfold Decimal.Style.text
        rw [parts_x, wholeEnd]
        cases negative <;> exact String.toList_ofList
      have zero : Decimal.Numeral.ofChars? ['0', '.', '0'] = some ⟨false, ['0'], ['0'], false, 0⟩ :=
        rfl
      have same : Decimal.Numeral.toFloat ⟨negative, ['0'], ['0'], false, 0⟩ = x :=
        Decimal.nearest_zero parts_x
      rw [text]
      refine readsNumber_signed (by simp) (by rintro c ⟨⟩; decide) fun rest ends => ?_
      have read := number?_append (isWhole_natDigits 0) (.digits (Text.allDigits_zeros 1) (by simp))
        .none ends negative
      rw [if_neg (by simp)] at read
      refine read.trans ?_
      show (Decimal.Numeral.ofChars? ['0', '.', '0']).map _ = _
      rw [zero, Option.map_some, ← same]
    · obtain ⟨some_digit, _⟩ := Decimal.shortest_spec (Decimal.parts_eq_finite parts_x).1 positive
      obtain ⟨_, n, _, same, read⟩ := Decimal.positive_reads_back wholeEnd parts_x positive
      obtain ⟨whole, frac, exp, shape, hw, hf, he, pointed⟩ := positive_shape wholeEnd some_digit
      have unsigned : Decimal.Numeral.ofChars? (whole ++ (frac ++ exp)) =
          some { n with negative := false } := shape ▸ read false
      rw [Decimal.text_eq_signed unrounded parts_x positive, shape]
      refine readsNumber_signed (by simp [hw.nonempty]) (hw.head _) fun rest ends => ?_
      have number := number?_append hw hf he ends negative
      rw [if_neg pointed, unsigned, Option.map_some] at number
      rw [List.append_assoc, List.append_assoc, number, ← same]
  · cases finite

end Numbers

end Json

end Statecraft
