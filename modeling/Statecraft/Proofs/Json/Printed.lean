import Statecraft.Proofs.Except
import Statecraft.Proofs.Json.Scalar
import Statecraft.Proofs.Text.Encoded

/-!
# JSON is printed text

With everything beyond ASCII escaped, what is written holds printable ASCII and line feeds only
(`Style.Prints.write`).
-/

namespace Statecraft

open Text (IsPrinted AllPrinted)

namespace Decimal

theorem isPrinted_of_isDigit {c : Char} (h : c.isDigit = true) : IsPrinted c := by
  simp only [Char.isDigit, Bool.and_eq_true, decide_eq_true_eq, UInt32.le_iff_toNat_le] at h
  refine Or.inr ⟨le_trans (by decide) h.1, le_trans h.2 (by decide)⟩

theorem IsNumeralChar.isPrinted {c : Char} (h : IsNumeralChar c) : IsPrinted c := by
  rcases h with digit | sign
  · exact isPrinted_of_isDigit digit
  · fin_cases sign <;> decide

theorem printed_natDigits (n : Nat) : AllPrinted (natDigits n) :=
  fun _ hc => isPrinted_of_isDigit (allDigits_natDigits n _ hc)

theorem printed_intText (n : Int) : AllPrinted (intText n).toList := by
  rw [intText, String.toList_ofList]
  split
  · exact Text.allPrinted_cons.mpr ⟨by decide, printed_natDigits _⟩
  · exact printed_natDigits _

/-- Numbers are printed if the style's words for those that are not finite are. -/
theorem printed_text {style : Style} (unrounded : style.precision = none)
    (wholeEnd : style.wholeEnd = ".0") (nan : AllPrinted style.nan.toList)
    (infinity : AllPrinted style.infinity.toList) (x : Float) :
    AllPrinted (style.text x).toList := by
  cases parts_x : parts x with
  | nan => simpa [Style.text, parts_x] using nan
  | infinite negative =>
    cases negative with
    | false => simpa [Style.text, parts_x] using infinity
    | true => simpa [IsPrinted, Style.text, parts_x, String.toList_append] using infinity
  | finite negative m e =>
    rcases Nat.eq_zero_or_pos m with rfl | positive
    · cases negative <;> simp [Style.text, parts_x, wholeEnd] <;> decide
    · intro c hc
      exact ((text_reads_back unrounded wholeEnd parts_x positive).1 c hc).isPrinted

end Decimal

namespace Text

theorem forall_mem_hex {p : Char → Prop} (digit : ∀ m < 16, p (hexDigit m)) (width n : Nat) :
    ∀ c ∈ hex width n, p c := by
  induction width generalizing n with
  | zero => simp [hex]
  | succ w ih =>
    have same : hexDigit n = hexDigit (n % 16) := by simp [hexDigit]
    have last := digit (n % 16) (Nat.mod_lt _ (by decide))
    rw [← same] at last
    exact List.forall_mem_append.mpr ⟨ih _, List.forall_mem_singleton.mpr last⟩

theorem printed_hex (width n : Nat) : AllPrinted (hex width n) :=
  forall_mem_hex (by decide) width n

end Text

namespace Json

/-- The style escapes all characters beyond ASCII, and its numbers are printed. -/
structure Style.Prints (style : Style) : Prop where
  ascii : style.ascii = true
  number : ∀ x, AllPrinted (style.number.text x).toList

theorem prints_file : file.Prints where
  ascii := rfl
  number := Decimal.printed_text rfl rfl (by decide) (by decide)

variable {style : Style}

theorem printed_unitEscape (n : Nat) : AllPrinted (unitEscape n) := by
  simp [IsPrinted, unitEscape, Text.printed_hex]

theorem printed_newline (style : Style) (level : Nat) : AllPrinted (style.newline level) := by
  unfold Style.newline
  split
  · refine Text.allPrinted_cons.mpr ⟨by decide, fun c hc => ?_⟩
    rw [List.eq_of_mem_replicate hc]
    decide
  · exact Text.allPrinted_nil

theorem printed_comma (style : Style) (level : Nat) : AllPrinted (style.comma level) := by
  unfold Style.comma
  split
  · exact Text.allPrinted_cons.mpr ⟨by decide, printed_newline style level⟩
  · decide

theorem printed_integer {n : Int} {t : List Char} (h : integer n = .ok t) : AllPrinted t := by
  unfold integer at h
  split at h
  · cases h
    exact Decimal.printed_intText n
  · cases h

namespace Style.Prints

section

variable (h : style.Prints)
include h

theorem char (c : Char) : AllPrinted (style.char c) := by
  unfold Style.char
  dsimp only
  split
  · decide
  split
  · decide
  split
  · decide
  split
  · decide
  split
  · decide
  split
  · decide
  split
  · decide
  split
  · exact printed_unitEscape _
  rename_i control
  split
  · rename_i plain
    rw [h.ascii, Bool.not_true, Bool.or_false, decide_eq_true_eq] at plain
    exact List.forall_mem_singleton.mpr (Or.inr ⟨by omega, by omega⟩)
  split
  · exact printed_unitEscape _
  · exact Text.allPrinted_append.mpr ⟨printed_unitEscape _, printed_unitEscape _⟩

theorem string (s : String) : AllPrinted (style.string s) := by
  have chars : AllPrinted (s.toList.flatMap style.char) := by
    intro x hx
    obtain ⟨c, _, mem⟩ := List.mem_flatMap.mp hx
    exact h.char c x mem
  simp [IsPrinted, Style.string, chars]

theorem float (x : Float) : AllPrinted (style.float x).toList := by
  unfold Style.float
  split
  · decide
  · exact h.number x

theorem key (d : Document) : ∀ t, style.key d = .ok t → AllPrinted t :=
  match d with
  | .text _ | .null | .bool _ | .float _ => by
    rintro _ ⟨⟩
    exact h.string _
  | .int n => by
    intro t written
    rw [Style.key] at written
    cases number : integer n with
    | error e =>
      rw [number] at written
      cases written
    | ok u =>
      rw [number] at written
      cases written
      simp [IsPrinted, printed_integer number]
  | .shared _ d => key d
  | .date _ | .moment _ | .bytes _ | .set _ | .list _ | .map _ => by rintro _ ⟨⟩

end

mutual

theorem value (h : style.Prints) (level : Nat) (within : List Nat) (d : Document) :
    ∀ t, style.value level within d = .ok t → AllPrinted t :=
  match d with
  | .null | .list [] | .map [] => by
    rintro _ ⟨⟩
    decide
  | .bool b => by
    rintro _ ⟨⟩
    cases b <;> decide
  | .int n => by
    intro t written
    rw [Style.value] at written
    exact printed_integer written
  | .float x => by
    rintro _ ⟨⟩
    exact h.float x
  | .text s => by
    rintro _ ⟨⟩
    exact h.string s
  | .list (d :: r) => by
    intro t written
    rw [Style.value] at written
    obtain ⟨first, one, written⟩ := exists_of_bind written
    obtain ⟨others, rest, written⟩ := exists_of_bind written
    cases written
    simp [IsPrinted, printed_newline, value h (level + 1) within d _ one,
      itemsAfter h (level + 1) within r _ rest]
  | .map ((k, v) :: r) => by
    intro t written
    rw [Style.value] at written
    obtain ⟨key, name, written⟩ := exists_of_bind written
    obtain ⟨first, one, written⟩ := exists_of_bind written
    obtain ⟨others, rest, written⟩ := exists_of_bind written
    cases written
    simp [IsPrinted, printed_newline, h.key k _ name, value h (level + 1) within v _ one,
      membersAfter h (level + 1) within r _ rest]
  | .shared label d => by
    intro t written
    rw [Style.value] at written
    split at written
    · cases written
    · exact value h level (label :: within) d _ written
  | .date _ | .moment _ | .bytes _ | .set _ => by rintro _ ⟨⟩

theorem itemsAfter (h : style.Prints) (level : Nat) (within : List Nat) (items : List Document) :
    ∀ t, style.items level within items = .ok t → AllPrinted t :=
  match items with
  | [] => by
    rintro _ ⟨⟩
    exact Text.allPrinted_nil
  | d :: r => by
    intro t written
    rw [Style.items] at written
    obtain ⟨first, one, written⟩ := exists_of_bind written
    obtain ⟨others, rest, written⟩ := exists_of_bind written
    cases written
    simp [printed_comma, value h level within d _ one, itemsAfter h level within r _ rest]

theorem membersAfter (h : style.Prints) (level : Nat) (within : List Nat)
    (entries : Document.Entries) : ∀ t, style.members level within entries = .ok t → AllPrinted t :=
  match entries with
  | [] => by
    rintro _ ⟨⟩
    exact Text.allPrinted_nil
  | (k, v) :: r => by
    intro t written
    rw [Style.members] at written
    obtain ⟨key, name, written⟩ := exists_of_bind written
    obtain ⟨first, one, written⟩ := exists_of_bind written
    obtain ⟨others, rest, written⟩ := exists_of_bind written
    cases written
    simp [IsPrinted, printed_comma, h.key k _ name, value h level within v _ one,
      membersAfter h level within r _ rest]

end

/-- **Where a style prints, all that it writes is printed.** -/
theorem write (h : style.Prints) {d : Document} {s : String}
    (written : style.write d = .ok s) : AllPrinted s.toList := by
  unfold Style.write at written
  cases text : style.value 0 [] d with
  | error e =>
    rw [text] at written
    cases written
  | ok t =>
    rw [text] at written
    cases written
    rw [String.toList_ofList]
    exact h.value 0 [] d _ text

end Style.Prints

end Json

end Statecraft
